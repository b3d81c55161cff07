import BlobStore.Cli.Desk
import BlobStore.Cli.Invocation
import BlobStore.Size

/-!
# Uploading

The command that stores a file, or what comes in on the standard input, as an object. The bytes go
through a writer piece by piece. When anything goes wrong, or the user interrupts the command, the
upload is given up, and the command waits for its end so that no parts are left behind.
-/

namespace BlobStore.Cli.Put

/-- The media type asked for, or else the one that the names of the file or of the object suggest. -/
def contentType (mediaType : String → Option String) (a : PutArguments) (key : String) :
    Option String :=
  a.contentType <|> a.file.bind mediaType <|> mediaType key

def options (mediaType : String → Option String) (defaults : Defaults) (a : PutArguments)
    (key : String) : WriteOptions :=
  { headers :=
      { contentType := contentType mediaType a key
        cacheControl := a.cacheControl
        contentDisposition := a.contentDisposition
        contentEncoding := a.contentEncoding
        contentLanguage := a.contentLanguage
        metadata := some (KeyMap.ofList a.metadata)
        storageClass := none }
    contentMd5 := none
    bufferSize := a.partSize.getD defaults.partSize.toNat }

def json (a : PutArguments) (size : Nat) (contentType : Option String) : Json.Value :=
  .object <|
    [("status", .string "success"), ("target", .string a.target), ("size_bytes", .number size),
      ("size_human", .string (Size.human size))] ++
    Json.optional "content_type" contentType .string

def report (style : Style) (a : PutArguments) (size : Nat) (contentType : Option String)
    (t : Terminal) : Terminal :=
  if style.json then t.document (json a size contentType)
  else style.success s!"Uploaded {Size.human size} to {a.target}" t

/-! ## Copying -/

/-- What ends a copy early. -/
inductive Stop where
  | failed (e : Error)
  | interrupted

variable {σ α : Type}

/-- A part of a copy into a writer, whose task has its turns at the pauses. -/
abbrev Copy (σ α : Type) := ExceptT Stop (StateM (Writer × σ)) α

namespace Copy

def pause (serve : Service σ) (p : Pause) : Copy σ Unit := fun (w, s) =>
  (if p.interrupted then .error .interrupted else .ok (), w.polls serve p.turns s)

def send (serve : Service σ) (piece : ByteArray) : Copy σ Nat := fun (w, s) =>
  let ((sent, w), s) := w.send serve piece s
  (sent.mapError .failed, (w, s))

/-- Writes a piece that is not empty. While the write waits for room in the queue there is a pause. -/
def write (serve : Service σ) (p : Pause) (piece : ByteArray) : Copy σ Nat := fun (w, s) =>
  match w.outcome? with
  | some (.error e) => (.error (.failed (.ofFault e)), (w, s))
  | _ => (do pause serve p; send serve piece : Copy σ Nat) (w.start, s)

/-- Writes the pieces one after the other and tells how many bytes that were. There is a pause before
each of them is read, and one before it turns out that there are no more. -/
def writeEach (serve : Service σ) : List ByteArray → (Nat → Pause) → Copy σ Nat
  | [], pauses => do
    pause serve (pauses 0)
    return 0
  | piece :: rest, pauses => do
    pause serve (pauses 0)
    let size ← write serve (pauses 1) piece
    return size + (← writeEach serve rest fun k => pauses (k + 2))

/-- Hands everything that can be read to a writer. -/
def run (serve : Service σ) (pauses : Nat → Pause) (source : Source) : Copy σ Nat := do
  let size ← writeEach serve source.pieces pauses
  match source.failure with
  | none => return size
  | some e => throw (.failed (.io e))

end Copy

/-- Copies and closes. A copy that ends early cancels the upload. -/
def transfer (serve : Service σ) (schedule : Schedule) (w : Writer) (source : Source) :
    StateM σ (Except Stop Nat) := fun s =>
  match Copy.run serve schedule.copying source (w, s) with
  | (.error stop, (w, s)) =>
    let (w, s) := w.cancel.polls serve schedule.closing s
    (.error stop, (w.close serve s).2)
  | (.ok size, (w, s)) =>
    let (w, s) := w.polls serve schedule.closing s
    match w.close serve s with
    | (.ok (), s) => (.ok size, s)
    | (.error e, s) => (.error (.failed e), s)

/-! ## The command -/

def source (s : Setting σ) (style : Style) (a : PutArguments) : Step σ Source := do
  match a.file with
  | none => return s.input
  | some path =>
    match s.openFile path with
    | .error e =>
      Step.display (style.error s!"Failed to open '{path}': {(Error.io e).message}")
      throw (.exited .usage)
    | .ok file =>
      let _ ← Step.accept style "Failed to read file metadata" (file.length.mapError .io)
      return file.source

/-- Reports what a transfer has come to. -/
def conclude (style : Style) (a : PutArguments) (contentType : Option String) :
    Except Stop Nat → Step σ ExitStatus
  | .ok size => do
    Step.display (report style a size contentType)
    return .success
  | .error (.failed e) => Step.fail style "Upload failed" e
  | .error .interrupted => do
    Step.display (style.error "Upload interrupted")
    return .interrupted

def execute (s : Setting σ) (style : Style) (defaults : Defaults) (a : PutArguments) :
    Step σ ExitStatus := do
  let (target, bucket) ← resolveObject s style a.target
  let source ← source s style a
  let options := options s.mediaType defaults a target.key
  let writer ← Step.accept style "Failed to start upload" (bucket.openWriter target.key options pure)
  let result ← transfer bucket.serve s.schedule writer source
  conclude style a options.headers.contentType result

end BlobStore.Cli.Put
