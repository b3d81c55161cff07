import BlobStore.Proofs.Bucket.Ranges
import BlobStore.Proofs.Memory.Tags
import BlobStore.Proofs.Upload.PartRules
import BlobStore.Proofs.Writer.Embedded
import BlobStore.Proofs.Writer.Integrity
import BlobStore.Proofs.Writer.Sequential

/-!
# A bucket is a map from keys

Writing, deleting and asking for objects of a bucket in memory gives what a map from keys to bytes
and options would give, whether the bytes of an object went out whole or in parts.
-/

namespace BlobStore

/-- The key of an object that was to be deleted. -/
def Event.deletedKey? : Event → Option String
  | ⟨.delete address, _⟩ => some address.key
  | _ => none

theorem Upload.Stored.deleted {object : NewObject} {p : Nat} {read : ByteArray}
    {events : List Event} (h : Stored object p read events) :
    events.filterMap Event.deletedKey? = [] := by
  rw [List.filterMap_eq_nil_iff]
  cases h with
  | whole => exact fun e he => by rw [List.mem_singleton.mp he]; rfl
  | inParts =>
    intro e he
    rcases List.mem_append.mp he with he | he
    · exact (forall_mem_opened (P := fun e => e.deletedKey? = none)).mpr ⟨rfl, fun _ _ => rfl⟩ e he
    · rw [List.mem_singleton.mp he]
      rfl

private theorem partSizeFor_le (requested : Nat) : partSizeFor requested ≤ maxPartSize := by
  unfold partSizeFor
  split
  · decide
  · exact Nat.min_le_right _ _

namespace Writer

open Upload

variable {m : Memory} {object : NewObject} {p : Nat} {data : ByteArray}

private theorem write_close_stored (hp : 0 < p) (hsize : data.size ≤ maxParts * p) :
    ∃ w s t, (Writer.new object p).write (Memory.serve.noted .none) data ⟨m, []⟩ =
        ((.ok data.size, w), s) ∧
      w.close (Memory.serve.noted .none) s = (.ok (), t) ∧
      Recorded .none m object p data true (.finished (.ok ())) t := by
  have hjoin : Bytes.join [data] = data := by simp
  have hsize' : (Bytes.join [data]).size ≤ maxParts * p := by rw [hjoin]; exact hsize
  have hparked : (Writer.new object p).IsParked := fun _ _ _ ht => by cases ht
  -- The write and the closing are schedules of one session, which stays sound.
  have hwrite : Session.Steps (Memory.serve.noted .none) (.start object p [data] ⟨m, []⟩) _ :=
    Session.steps_write rfl hparked data (Noted.mk m [])
  have hafter := Session.write_parked (Memory.serve.noted .none) rfl hparked data (Noted.mk m [])
  generalize (Writer.new object p).write (Memory.serve.noted .none) data (Noted.mk m []) = out at *
  obtain ⟨⟨result, w⟩, s⟩ := out
  obtain ⟨hcanceled, hparked'⟩ := hafter
  have hsound := Session.sound_start.steps hp hsize' hwrite
  have hresult : result = .ok data.size := hsound.lengths (data, result) (by simp)
  obtain ⟨w', hclose⟩ := @Session.steps_close _ (Memory.serve.noted .none) [(data, result)] w
    hcanceled hparked' s
  have hsound' := hsound.steps hp hsize' hclose
  obtain ⟨-, hok, hended⟩ := hsound'.caller
  obtain ⟨-, -, hrecorded⟩ := hsound'.of_ended hsize' hended
  refine ⟨w, s, (w.close (Memory.serve.noted .none) s).2, by rw [hresult], ?_, ?_⟩
  · exact Prod.ext hok rfl
  · rw [← hjoin]
    exact hrecorded

end Writer

namespace Bucket

/-- What is kept under a key. -/
structure Entry where
  data : ByteArray
  options : WriteOptions

/-- What is told of an object, but for its time and the value of its digest. -/
structure Description where
  contentType : Option String
  cacheControl : Option String
  contentDisposition : Option String
  contentEncoding : Option String
  contentLanguage : Option String
  metadata : Metadata
  size : Nat
  hasDigest : Bool

def Description.ofAttributes (a : Attributes) : Description where
  contentType := a.contentType
  cacheControl := a.cacheControl
  contentDisposition := a.contentDisposition
  contentEncoding := a.contentEncoding
  contentLanguage := a.contentLanguage
  metadata := a.metadata
  size := a.size
  hasDigest := a.md5.isSome

/-- There is a digest of what goes into one part. -/
def Entry.description (e : Entry) : Description where
  contentType := e.options.headers.contentType
  cacheControl := e.options.headers.cacheControl
  contentDisposition := e.options.headers.contentDisposition
  contentEncoding := e.options.headers.contentEncoding
  contentLanguage := e.options.headers.contentLanguage
  metadata := e.options.headers.metadata.getD ∅
  size := e.data.size
  hasDigest := decide (e.data.size ≤ partSizeFor e.options.bufferSize)

structure Shelf where
  entries : KeyMap Entry
  /-- The keys whose deletion a service is asked for. -/
  deleted : List String

inductive Command where
  | write (key : String) (data : ByteArray) (options : WriteOptions)
  | delete (key : String)
  | contains (key : String)
  | attributes (key : String)
  | readAll (key : String)

inductive Reply where
  | done
  | found (present : Bool)
  | described (description : Description)
  | content (data : ByteArray)

namespace Command

def key : Command → String
  | .write key _ _ => key
  | .delete key => key
  | .contains key => key
  | .attributes key => key
  | .readAll key => key

/-- What is written goes into the allowed number of parts. -/
def Fits : Command → Prop
  | .write _ data options => data.size ≤ maxParts * partSizeFor options.bufferSize
  | _ => True

instance : DecidablePred Fits
  | .write _ data options =>
    inferInstanceAs (Decidable (data.size ≤ maxParts * partSizeFor options.bufferSize))
  | .delete _ | .contains _ | .attributes _ | .readAll _ => isTrue trivial

def perform {σ : Type} (b : Bucket σ) : Command → Action σ Reply
  | .write key data options => do
    b.writeAll key data options pure
    return .done
  | .delete key => do
    b.delete key
    return .done
  | .contains key => return .found (← b.contains key)
  | .attributes key => return .described (.ofAttributes (← b.attributes key))
  | .readAll key => return .content (← b.readAll key)

/-- What a map from keys does. -/
def intended (c : Command) : Action Shelf Reply := fun shelf =>
  match c, shelf.entries.get? c.key with
  | .write key data options, _ =>
    (.ok .done, { shelf with entries := shelf.entries.insert key ⟨data, options⟩ })
  | .contains _, entry => (.ok (.found entry.isSome), shelf)
  | .delete key, some _ => (.ok .done, ⟨shelf.entries.erase key, shelf.deleted ++ [key]⟩)
  | .attributes _, some entry => (.ok (.described entry.description), shelf)
  | .readAll _, some entry => (.ok (.content entry.data), shelf)
  | .delete _, none => (.error (.backend .notFound (.fault Memory.notFound)), shelf)
  | .attributes _, none => (.error (.backend .notFound (.fault Memory.notFound)), shelf)
  | .readAll _, none => (.error (.backend .notFound (.fault Memory.noSuchKey)), shelf)

/-- Commands one after the other, also after one that has failed. -/
def runAll {σ : Type} (act : Command → Action σ Reply) :
    List Command → σ → List (Except Error Reply) × σ
  | [], s => ([], s)
  | c :: rest, s =>
    let (reply, s) := act c s
    let (replies, s) := runAll act rest s
    (reply :: replies, s)

end Command

/-- The options that are kept with an object. -/
def keptHeaders (options : WriteOptions) : Headers :=
  { options.headers with metadata := options.headers.metadata.filter (!·.isEmpty) }

/-- An object is what has been written. -/
structure Keeps (entry : Entry) (o : StoredObject) : Prop where
  data_eq : o.data = entry.data
  headers_eq : o.headers = keptHeaders entry.options
  digest : (md5OfTag? (some o.etag)).isSome =
    decide (entry.data.size ≤ partSizeFor entry.options.bufferSize)

structure Holds (shelf : Shelf) (x : Noted Memory) : Prop where
  entries : ∀ key, Option.Rel Keeps (shelf.entries.get? key) (x.state.objects.get? key)
  uploads : x.state.uploads = ∅
  deleted : x.events.filterMap Event.deletedKey? = shelf.deleted

private theorem holds_empty : Holds ⟨∅, []⟩ ⟨Memory.empty, []⟩ where
  entries := fun _ => .none
  uploads := rfl
  deleted := rfl

variable {shelf : Shelf} {x : Noted Memory} {entry : Entry} {o : StoredObject} {key : String}

theorem Holds.note (h : Holds shelf x) {e : Event} (he : e.deletedKey? = none) :
    Holds shelf ⟨x.state, x.events ++ [e]⟩ where
  entries := h.entries
  uploads := h.uploads
  deleted := by
    rw [List.filterMap_append, List.filterMap_cons_none he, List.filterMap_nil, List.append_nil]
    exact h.deleted

private theorem Holds.issued (h : Holds shelf x) : x.state.Issued := by
  intro id pending hpending
  rw [h.uploads] at hpending
  cases hpending

theorem Holds.cases (h : Holds shelf x) (key : String) :
    (shelf.entries.get? key = none ∧ x.state.objects.get? key = none) ∨
      ∃ entry o, shelf.entries.get? key = some entry ∧ x.state.objects.get? key = some o ∧
        Keeps entry o := by
  have hkey := h.entries key
  generalize shelf.entries.get? key = a at hkey
  generalize x.state.objects.get? key = b at hkey
  cases hkey with
  | none => exact Or.inl ⟨rfl, rfl⟩
  | some hkeeps => exact Or.inr ⟨_, _, rfl, rfl, hkeeps⟩

/-- A bucket in memory that nothing is kept from. -/
abbrev shelved (name : String) : Bucket (Noted Memory) := ⟨name, Memory.serve.noted .none⟩

variable (name : String)

private theorem attributes_absent (hnone : x.state.objects.get? key = none) :
    (shelved name).attributes key x = (.error (.ofFault Memory.notFound),
      ⟨x.state, x.events ++ [⟨.head ⟨name, key⟩, .error Memory.notFound⟩]⟩) := by
  have hhead : x.state.head key = .error Memory.notFound := by rw [Memory.head, hnone]
  have hserve : Memory.serve (.head ⟨name, key⟩) x.state = (.error Memory.notFound, x.state) :=
    congrArg (·, x.state) hhead
  exact bind_of_error (request_of_refused (Service.noted_none hserve)) _

private theorem head_present (hsome : x.state.objects.get? key = some o) (hk : Keeps entry o) :
    ∃ head, x.state.head key = .ok head ∧
      Description.ofAttributes (.ofHead head) = entry.description := by
  rw [Memory.head, hsome]
  refine ⟨_, rfl, ?_⟩
  simp only [Description.ofAttributes, Attributes.ofHead, Entry.description, hk.data_eq,
    hk.headers_eq, keptHeaders, hk.digest, KeyMap.getD_filter_isEmpty]
  rfl

private theorem attributes_present (hsome : x.state.objects.get? key = some o)
    (hk : Keeps entry o) :
    ∃ a head, (shelved name).attributes key x = (.ok a,
        ⟨x.state, x.events ++ [⟨.head ⟨name, key⟩, .ok head⟩]⟩) ∧
      Description.ofAttributes a = entry.description := by
  obtain ⟨head, hhead, hdescription⟩ := head_present hsome hk
  have hserve : Memory.serve (.head ⟨name, key⟩) x.state = (.ok head, x.state) :=
    congrArg (·, x.state) hhead
  exact ⟨.ofHead head, head, bind_of_ok (request_of_granted (Service.noted_none hserve)) _, hdescription⟩

private theorem readAll_absent (hnone : x.state.objects.get? key = none) :
    (shelved name).readAll key x = (.error (.ofFault Memory.noSuchKey),
      ⟨x.state, x.events ++ [⟨.get ((shelved name).rangeQuery key 0 none), .error Memory.noSuchKey⟩]⟩) := by
  have hget : x.state.get key (rangeHeader 0 none) = .error Memory.noSuchKey := by
    rw [Memory.get, hnone]
  have hserve : Memory.serve (.get ((shelved name).rangeQuery key 0 none)) x.state =
      (.error Memory.noSuchKey, x.state) := congrArg (·, x.state) hget
  exact bind_of_error (readRange_of_error (Service.noted_none hserve)) _

private theorem readAll_present (hsome : x.state.objects.get? key = some o) :
    ∃ answer, (shelved name).readAll key x = (.ok o.data,
      ⟨x.state, x.events ++ [⟨.get ((shelved name).rangeQuery key 0 none), .ok answer⟩]⟩) := by
  obtain ⟨answer, hget, hwhole, hbody, -⟩ := get_whole hsome
  have hserve : Memory.serve (.get ((shelved name).rangeQuery key 0 none)) x.state =
      (.ok answer, x.state) := congrArg (·, x.state) hget
  refine ⟨answer, (bind_of_ok (readRange_of_ok (Service.noted_none hserve) hwhole) _).trans ?_⟩
  rw [if_neg (by simp), hbody]
  rfl

private theorem writeAll_stored {m : Memory} (hm : m.Issued) (key : String) {data : ByteArray}
    {options : WriteOptions} (hfits : data.size ≤ maxParts * partSizeFor options.bufferSize) :
    ∃ t : Noted Memory, (shelved name).writeAll key data options pure ⟨m, []⟩ = (.ok (), t) ∧
      t.events.filterMap Event.deletedKey? = [] ∧ t.state.uploads = m.uploads ∧
      ∃ o, Keeps ⟨data, options⟩ o ∧ t.state.objects = m.objects.insert key o := by
  have hwritten : ∃ w s t, _ ∧ _ ∧ Upload.Recorded .none m ((shelved name).newObject key options)
      (partSizeFor options.bufferSize) data true (.finished (.ok ())) t :=
    Writer.write_close_stored (Upload.partSizeFor_pos options.bufferSize) hfits
  obtain ⟨w, s, t, hwrite, hclose, hlog, htrail⟩ := hwritten
  obtain ⟨o, hdata, hheaders, hobjects, huploads, htag⟩ :=
    Upload.trail_stored_tagged hm hlog.2 htrail
  have hopen : (shelved name).openWriter key options pure =
      .ok (.new ((shelved name).newObject key options) (partSizeFor options.bufferSize)) := rfl
  refine ⟨t, ?_, hlog.2.deleted, huploads, o, ⟨hdata, hheaders, ?_⟩, hobjects⟩
  · simp only [writeAll, hopen, hwrite, hclose]
  · have hmax := partSizeFor_le options.bufferSize
    have hword : maxPartSize < 2 ^ 64 := by decide
    rcases htag with ⟨hle, htag⟩ | ⟨hlt, parts, htag⟩
    · rw [htag, decide_eq_true hle]
      exact Memory.isSome_md5OfTag?_wholeTag (by omega)
    · rw [htag, decide_eq_false (Nat.not_le_of_lt hlt), Memory.md5OfTag?_partedTag]
      rfl

theorem Holds.insert (h : Holds shelf x) {key : String} {entry : Entry} {o : StoredObject}
    (hk : Keeps entry o) {t : Noted Memory}
    (hobjects : t.state.objects = x.state.objects.insert key o)
    (huploads : t.state.uploads = x.state.uploads)
    (hdeleted : t.events.filterMap Event.deletedKey? = x.events.filterMap Event.deletedKey?) :
    Holds { shelf with entries := shelf.entries.insert key entry } t where
  entries := by
    intro other
    rw [hobjects, KeyMap.get?_insert, KeyMap.get?_insert]
    split
    · exact .some hk
    · exact h.entries other
  uploads := huploads.trans h.uploads
  deleted := hdeleted.trans h.deleted

theorem Holds.erase (h : Holds shelf x) (key : String) {t : Noted Memory}
    (hobjects : t.state.objects = x.state.objects.erase key)
    (huploads : t.state.uploads = x.state.uploads)
    (hdeleted : t.events.filterMap Event.deletedKey? =
      x.events.filterMap Event.deletedKey? ++ [key]) :
    Holds ⟨shelf.entries.erase key, shelf.deleted ++ [key]⟩ t where
  entries := by
    intro other
    rw [hobjects, KeyMap.get?_erase, KeyMap.get?_erase]
    split
    · exact .none
    · exact h.entries other
  uploads := huploads.trans h.uploads
  deleted := by rw [hdeleted, h.deleted]

/-- What a command has come to, compared with what it should have come to. -/
structure Agrees (c : Command) (shelf : Shelf) (x : Noted Memory)
    (out : Except Error Reply × Noted Memory) : Prop where
  reply : out.1 = (c.intended shelf).1
  holds : Holds (c.intended shelf).2 out.2
  others : ∀ other ≠ c.key, out.2.state.objects.get? other = x.state.objects.get? other

private theorem agrees_write (h : Holds shelf x) (key : String) {data : ByteArray}
    {options : WriteOptions} (hfits : data.size ≤ maxParts * partSizeFor options.bufferSize) :
    Agrees (.write key data options) shelf x
      ((Command.write key data options).perform (shelved name) x) := by
  obtain ⟨t, hout, hdeleted, huploads, o, hkeeps, hobjects⟩ :=
    writeAll_stored name h.issued key hfits
  have hembed := writeAll_embed (Service.embeds_past Memory.serve .none x.events) name key data
    options pure ⟨x.state, []⟩
  rw [Mishaps.after_none, hout] at hembed
  simp only [List.append_nil] at hembed
  have hperform : (Command.write key data options).perform (shelved name) x =
    (.ok .done, ⟨t.state, x.events ++ t.events⟩) := bind_of_ok hembed _
  rw [hperform]
  refine ⟨rfl, h.insert hkeeps hobjects huploads ?_, ?_⟩
  · rw [List.filterMap_append, hdeleted, List.append_nil]
  · intro other hne
    have hother : ¬other = key := hne
    change t.state.objects.get? other = _
    rw [hobjects, KeyMap.get?_insert, if_neg hother]

private theorem agrees_asking (h : Holds shelf x) {c : Command} {reply : Except Error Reply}
    {e : Event} (he : e.deletedKey? = none) (hintended : c.intended shelf = (reply, shelf)) :
    Agrees c shelf x (reply, ⟨x.state, x.events ++ [e]⟩) where
  reply := by rw [hintended]
  holds := by
    rw [hintended]
    exact h.note he
  others := fun _ _ => rfl

private theorem agrees_attributes (h : Holds shelf x) (key : String) :
    Agrees (.attributes key) shelf x ((Command.attributes key).perform (shelved name) x) := by
  rcases h.cases key with ⟨hentry, hobject⟩ | ⟨entry, o, hentry, hobject, hkeeps⟩
  · rw [Command.perform, bind_of_error (attributes_absent name hobject)]
    exact agrees_asking h rfl (by simp only [Command.intended, Command.key, hentry]; rfl)
  · obtain ⟨a, head, hattributes, hdescription⟩ := attributes_present name hobject hkeeps
    rw [Command.perform, bind_of_ok hattributes, hdescription]
    exact agrees_asking h rfl (by simp only [Command.intended, Command.key, hentry])

private theorem agrees_contains (h : Holds shelf x) (key : String) :
    Agrees (.contains key) shelf x ((Command.contains key).perform (shelved name) x) := by
  rcases h.cases key with ⟨hentry, hobject⟩ | ⟨entry, o, hentry, hobject, hkeeps⟩
  · have hcontains : (shelved name).contains key x = (.ok false,
        ⟨x.state, x.events ++ [⟨.head ⟨name, key⟩, .error Memory.notFound⟩]⟩) := by
      rw [contains, attributes_absent name hobject]
      rfl
    rw [Command.perform, bind_of_ok hcontains]
    exact agrees_asking h rfl (by simp only [Command.intended, Command.key, hentry]; rfl)
  · obtain ⟨a, head, hattributes, -⟩ := attributes_present name hobject hkeeps
    have hcontains : (shelved name).contains key x = (.ok true,
        ⟨x.state, x.events ++ [⟨.head ⟨name, key⟩, .ok head⟩]⟩) := by
      rw [contains, hattributes]
    rw [Command.perform, bind_of_ok hcontains]
    exact agrees_asking h rfl (by simp only [Command.intended, Command.key, hentry]; rfl)

private theorem agrees_readAll (h : Holds shelf x) (key : String) :
    Agrees (.readAll key) shelf x ((Command.readAll key).perform (shelved name) x) := by
  rcases h.cases key with ⟨hentry, hobject⟩ | ⟨entry, o, hentry, hobject, hkeeps⟩
  · rw [Command.perform, bind_of_error (readAll_absent name hobject)]
    exact agrees_asking h rfl (by simp only [Command.intended, Command.key, hentry]; rfl)
  · obtain ⟨answer, hread⟩ := readAll_present name hobject
    rw [Command.perform, bind_of_ok hread, hkeeps.data_eq]
    exact agrees_asking h rfl (by simp only [Command.intended, Command.key, hentry])

private theorem agrees_delete (h : Holds shelf x) (key : String) :
    Agrees (.delete key) shelf x ((Command.delete key).perform (shelved name) x) := by
  rcases h.cases key with ⟨hentry, hobject⟩ | ⟨entry, o, hentry, hobject, hkeeps⟩
  · have hdelete : (shelved name).delete key x = (.error (.ofFault Memory.notFound), _) :=
      bind_of_error (attributes_absent name hobject) _
    rw [Command.perform, bind_of_error hdelete]
    exact agrees_asking h rfl (by simp only [Command.intended, Command.key, hentry]; rfl)
  · obtain ⟨a, head, hattributes, -⟩ := attributes_present name hobject hkeeps
    let asked : Noted Memory := ⟨x.state, x.events ++ [⟨.head ⟨name, key⟩, .ok head⟩]⟩
    have hasked : Holds shelf asked := h.note rfl
    have hserve : Memory.serve (.delete ⟨name, key⟩) asked.state =
        (.ok (), { asked.state with objects := asked.state.objects.erase key }) := rfl
    have hdelete : (shelved name).delete key x = (.ok (), _) :=
      (bind_of_ok hattributes _).trans (request_of_granted (Service.noted_none hserve))
    have hintended : (Command.delete key).intended shelf =
        (.ok .done, ⟨shelf.entries.erase key, shelf.deleted ++ [key]⟩) := by
      simp only [Command.intended, Command.key, hentry]
    rw [Command.perform, bind_of_ok hdelete]
    refine ⟨by rw [hintended]; rfl, ?_, ?_⟩
    · rw [hintended]
      exact hasked.erase key rfl rfl List.filterMap_append
    · intro other hne
      have hother : ¬other = key := hne
      change (x.state.objects.erase key).get? other = _
      rw [KeyMap.get?_erase, if_neg hother]

/-- Each command does what a map from keys does, and leaves other keys alone. -/
theorem agrees_perform (h : Holds shelf x) {c : Command} (hfits : c.Fits) :
    Agrees c shelf x (c.perform (shelved name) x) := by
  cases c with
  | write key data options => exact agrees_write name h key hfits
  | delete key => exact agrees_delete name h key
  | contains key => exact agrees_contains name h key
  | attributes key => exact agrees_attributes name h key
  | readAll key => exact agrees_readAll name h key

private theorem agrees_runAll (h : Holds shelf x) {commands : List Command}
    (hfits : ∀ c ∈ commands, c.Fits) :
    let out := Command.runAll (Command.perform (shelved name)) commands x
    let intended := Command.runAll Command.intended commands shelf
    out.1 = intended.1 ∧ Holds intended.2 out.2 := by
  induction commands generalizing shelf x with
  | nil => exact ⟨rfl, h⟩
  | cons c rest ih =>
    obtain ⟨hc, hrest⟩ := List.forall_mem_cons.mp hfits
    have hagrees := agrees_perform name h hc
    obtain ⟨hreplies, hholds⟩ := ih hagrees.holds hrest
    exact ⟨congrArg₂ List.cons hagrees.reply hreplies, hholds⟩

/-- Whatever is done with a bucket in memory that was empty, the replies are those of a map from keys
to bytes and options, as long as what is written goes into the allowed number of parts. The service
is asked to delete what the map deletes and no more, and nothing changes under any other key. -/
theorem refines_map (name : String) {commands : List Command} (hfits : ∀ c ∈ commands, c.Fits) :
    let out := Command.runAll (Command.perform (shelved name)) commands ⟨Memory.empty, []⟩
    let intended := Command.runAll Command.intended commands ⟨∅, []⟩
    out.1 = intended.1 ∧ Holds intended.2 out.2 ∧
      ∀ c : Command, c.Fits → ∀ other ≠ c.key,
        (c.perform (shelved name) out.2).2.state.objects.get? other =
          out.2.state.objects.get? other := by
  intro out intended
  obtain ⟨hreplies, hholds⟩ := agrees_runAll name holds_empty hfits
  exact ⟨hreplies, hholds, fun c hc => (agrees_perform name hholds hc).others⟩

theorem refines_map_overwritten :
    (Command.runAll (Command.perform (shelved "bucket"))
      [.write "key" ⟨#[1, 2]⟩ ⟨.none, none, 0⟩, .write "key" ⟨#[3]⟩ ⟨.none, none, 0⟩,
        .readAll "key", .delete "key", .contains "key", .delete "key"] ⟨Memory.empty, []⟩).1 =
      [.ok .done, .ok .done, .ok (.content ⟨#[3]⟩), .ok .done, .ok (.found false),
        .error (.backend .notFound (.fault Memory.notFound))] :=
  (refines_map "bucket" (by decide)).1.trans rfl

end Bucket

end BlobStore
