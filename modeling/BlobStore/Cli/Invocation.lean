import BlobStore.Bucket
import BlobStore.Cli.Grammar
import BlobStore.Cli.Terminal
import BlobStore.Duration.Reading

/-!
# Invocations

The commands of the program with their arguments, and their reading from a command line.
-/

namespace BlobStore.Cli

structure ListArguments where
  path : String
  delimiter : String
  recursive : Bool
  pageSize : Option Nat
  pageToken : Option String
  all : Bool
  summarize : Bool
  deriving DecidableEq

structure PutArguments where
  target : String
  /-- The file to upload; the standard input if there is none. -/
  file : Option String
  contentType : Option String
  cacheControl : Option String
  contentDisposition : Option String
  contentEncoding : Option String
  contentLanguage : Option String
  metadata : List (String × String)
  partSize : Option Nat
  deriving DecidableEq

structure RemoveArguments where
  paths : List String
  recursive : Bool
  dryRun : Bool
  deriving DecidableEq

inductive Command where
  | list (arguments : ListArguments)
  | read (path : String) (offset : Nat) (length : Option Nat)
  | put (arguments : PutArguments)
  | attributes (path : String)
  | remove (arguments : RemoveArguments)
  | sign (path : String) (expiry : Duration)
  | defineAlias (name url : String)
  | listAliases
  | removeAlias (name : String)
  deriving DecidableEq

/-- A command and the style wished for. -/
structure Invocation where
  style : Style
  command : Command
  deriving DecidableEq

namespace Invocation

/-! ## Values of options -/

def number? (text : String) : Option Nat := Text.readBounded? Text.maxWord text.toList

/-- A name, which is not empty, and a value with an equals sign between them. -/
def pair? (text : String) : Option (String × String) :=
  (Text.cut? '=' text).filter fun e => !e.1.isEmpty

def duration? (text : String) : Option Duration := Duration.read? text

private def number (name : String) : Switch := .valued name fun text => (number? text).isSome

private def text (name : String) : Switch := .valued name fun _ => true

private def required : Place := ⟨true, false, true⟩

/-! ## The commands -/

def shared : List Switch :=
  [.flag "json" none, .flag "no-color" none, .flag "no-progress" none, .flag "quiet" (some 'q'),
    .flag "debug" none]

def listForm : Form :=
  { switches :=
      [text "delimiter", .flag "recursive" (some 'r'), number "page-size", text "page-token",
        .flag "all" none, .flag "summarize" none]
    places := [required]
    exclusive := [("recursive", "delimiter"), ("page-token", "all")] }

def readForm : Form :=
  { switches := [number "offset", number "length"], places := [required], exclusive := [] }

def putForm : Form :=
  { switches :=
      [text "content-type", text "cache-control", text "content-disposition", text "content-encoding",
        text "content-language", ⟨"metadata", none, some fun text => (pair? text).isSome, true⟩,
        number "part-size"]
    places := [required, ⟨false, false, false⟩]
    exclusive := [] }

def removeForm : Form :=
  { switches := [.flag "recursive" (some 'r'), .flag "dry-run" none]
    places := [⟨true, true, true⟩]
    exclusive := [] }

def signForm : Form :=
  { switches := [.valued "expires" fun text => (duration? text).isSome]
    places := [required]
    exclusive := [] }

private def plainForm (places : Nat) : Form :=
  { switches := [], places := List.replicate places required, exclusive := [] }

def commands : List (String × Grammar) :=
  [("alias", .group
      [("set", .command (plainForm 2)), ("list", .command (plainForm 0)),
        ("remove", .command (plainForm 1))]),
    ("ls", .command listForm), ("cat", .command readForm), ("put", .command putForm),
    ("stat", .command (plainForm 1)), ("rm", .command removeForm), ("sign", .command signForm)]

/-! ## Reading -/

private def styleOf (p : Parsed) : Style :=
  { json := p.flags.contains "json"
    noColor := p.flags.contains "no-color"
    noProgress := p.flags.contains "no-progress"
    quiet := p.flags.contains "quiet" }

private def commandOf? (p : Parsed) : Option Command :=
  let given (name : String) : Bool := p.flags.contains name
  let value (name : String) : Option String := p.values.lookup name
  let number (name : String) : Option Nat := (value name).bind number?
  match p.commands, p.arguments with
  | ["ls"], [path] => some <| .list
      { path
        delimiter := (value "delimiter").getD "/"
        recursive := given "recursive"
        pageSize := number "page-size"
        pageToken := value "page-token"
        all := given "all"
        summarize := given "summarize" }
  | ["cat"], [path] => some (.read path ((number "offset").getD 0) (number "length"))
  | ["put"], target :: rest => some <| .put
      { target
        file := rest.head?
        contentType := value "content-type"
        cacheControl := value "cache-control"
        contentDisposition := value "content-disposition"
        contentEncoding := value "content-encoding"
        contentLanguage := value "content-language"
        metadata := p.values.filterMap fun v => if v.1 = "metadata" then pair? v.2 else none
        partSize := number "part-size" }
  | ["stat"], [path] => some (.attributes path)
  | ["rm"], paths => some (.remove ⟨paths, given "recursive", given "dry-run"⟩)
  | ["sign"], [path] => some (.sign path (((value "expires").bind duration?).getD Bucket.defaultExpiry))
  | ["alias", "set"], [name, url] => some (.defineAlias name url)
  | ["alias", "list"], [] => some .listAliases
  | ["alias", "remove"], [name] => some (.removeAlias name)
  | _, _ => none

/-- Reads the words of a command line, without the name of the program. -/
def read (words : List String) : Except Refusal Invocation := do
  let p ← Grammar.read shared commands words
  match commandOf? p with
  | some command => .ok ⟨styleOf p, command⟩
  | none => .error .unknownCommand

end Invocation

end BlobStore.Cli
