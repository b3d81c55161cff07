import BlobStore.Alias
import BlobStore.Toml.Document

/-!
# Configuration

What the configuration file says, read from a TOML document. Keys that mean nothing here are
passed over, but their numbers have to fit: whole numbers into 128 bits and others into a double.
-/

namespace BlobStore

/-- What is used when a command does not say otherwise. -/
structure Defaults where
  /-- `json` for output in JSON; anything else is for people. -/
  output : String
  pageSize : UInt64
  /-- Zero leaves the choice open. -/
  partSize : UInt64
  deriving DecidableEq

structure Config where
  schemaVersion : UInt32
  defaults : Defaults
  aliases : List Alias
  deriving DecidableEq

namespace Defaults

def standard : Defaults := ⟨"human", 1000, 0⟩

end Defaults

namespace Config

open Toml (Value Entries)

def standard : Config := ⟨UInt32.ofNat BlobStore.schemaVersion, .standard, []⟩

/-! ## Reading -/

mutual
/-- Whether the numbers in a value fit. -/
def isReadable : Value → Bool
  | .integer n => -2 ^ 127 ≤ n && n < 2 ^ 128
  | .float (some d) => !d.isHuge
  | .array items => areReadable items
  | .table _ entries => haveReadable entries
  | .series last earlier => haveReadable last && haveAllReadable earlier
  | _ => true

def areReadable : List Value → Bool
  | [] => true
  | item :: items => isReadable item && areReadable items

def haveReadable : List (String × Value) → Bool
  | [] => true
  | (_, value) :: entries => isReadable value && haveReadable entries

def haveAllReadable : List (List (String × Value)) → Bool
  | [] => true
  | entries :: tables => haveReadable entries && haveAllReadable tables
end

def items? : Value → Option (List Value)
  | .array items => some items
  | .series last earlier => some ((earlier.reverse ++ [last]).map (.table .headed))
  | _ => none

/-- A record has its fields under names, or in order without names. -/
inductive Record where
  | named (entries : Entries)
  | listed (items : List Value)

/-- The record that a value stands for. A date or time is one without fields of any known name. -/
def Record.of? : Value → Option Record
  | .table _ entries => some (.named entries)
  | .moment => some (.named [])
  | value => (items? value).map .listed

def Record.field (r : Record) (name : String) (position : Nat) : Option Value :=
  match r with
  | .named entries => entries.lookup name
  | .listed items => items[position]?

/-- Whether what stands under other names can be passed over. -/
def Record.passesOver (r : Record) (known : List String) : Bool :=
  match r with
  | .named entries => haveReadable (entries.filter fun e => !known.contains e.1)
  | .listed _ => true

variable {α : Type}

/-- Reads a field. One that is not there takes its default, if it has one. -/
def Record.read (r : Record) (name : String) (position : Nat) (default : Option α)
    (read : Value → Option α) : Except TomlFault α :=
  match r.field name position, default with
  | some value, _ => (read value).elim (.error (.unexpected name)) .ok
  | none, some a => .ok a
  | none, none => .error (.missing name)

def string? : Value → Option String
  | .string s => some s
  | _ => none

def integerBelow? (bound : Nat) : Value → Option Nat
  | .integer n => if 0 ≤ n ∧ n < bound then some n.toNat else none
  | _ => none

def version? (v : Value) : Option UInt32 := (integerBelow? UInt32.size v).map UInt32.ofNat

def size? (v : Value) : Option UInt64 := (integerBelow? UInt64.size v).map UInt64.ofNat

/-- Reads a record with the given names of fields. -/
def record (name : String) (known : List String) (read : Record → Except TomlFault α) (v : Value) :
    Except TomlFault α :=
  match Record.of? v with
  | none => .error (.unexpected name)
  | some r => if r.passesOver known then read r else .error (.unexpected name)

def readDefaults : Value → Except TomlFault Defaults :=
  record "defaults" ["output", "page_size", "part_size"] fun r => do
    let output ← r.read "output" 0 (some Defaults.standard.output) string?
    let pageSize ← r.read "page_size" 1 (some Defaults.standard.pageSize) size?
    let partSize ← r.read "part_size" 2 (some Defaults.standard.partSize) size?
    return { output, pageSize, partSize }

def readAlias : Value → Except TomlFault Alias :=
  record "aliases" ["name", "url"] fun r => do
    let name ← r.read "name" 0 none string?
    let url ← r.read "url" 1 none string?
    return { name, url }

def readAliases (v : Value) : Except TomlFault (List Alias) :=
  match items? v with
  | some items => items.mapM readAlias
  | none => .error (.unexpected "aliases")

/-- The configuration that the entries of a document describe. -/
def ofEntries (entries : Entries) : Except TomlFault Config :=
  let read (r : Record) : Except TomlFault Config := do
    let schemaVersion ← r.read "schema_version" 0 none version?
    let defaults ← (r.field "defaults" 1).elim (.ok .standard) readDefaults
    let aliases ← (r.field "aliases" 2).elim (.ok []) readAliases
    return { schemaVersion, defaults, aliases }
  record "configuration" ["schema_version", "defaults", "aliases"] read (.table .headed entries)

/-- Reads the text of a configuration file. A newer schema is not understood. -/
def parse (text : String) : Except Error Config :=
  match Toml.parse text with
  | none => .error (.toml .malformed)
  | some entries =>
    match ofEntries entries with
    | .error e => .error (.toml e)
    | .ok config =>
      if BlobStore.schemaVersion < config.schemaVersion.toNat then
        .error (.config (.newerSchema config.schemaVersion.toNat))
      else .ok config

/-! ## Writing -/

def quote (s : String) : String := String.ofList (Toml.Quoted.write s.toList)

def aliasText (a : Alias) : String :=
  "\n[[aliases]]\nname = " ++ quote a.name ++ "\nurl = " ++ quote a.url ++ "\n"

def defaultsText (d : Defaults) : String :=
  "\n[defaults]\noutput = " ++ quote d.output ++ "\npage_size = " ++ toString d.pageSize.toNat ++
    "\npart_size = " ++ toString d.partSize.toNat ++ "\n"

/-- The text of a configuration file. An empty list of aliases is written out; otherwise each
alias has a heading of its own. -/
def text (c : Config) : String :=
  "schema_version = " ++ toString c.schemaVersion.toNat ++ "\n" ++
    (if c.aliases.isEmpty then "aliases = []\n" else "") ++ defaultsText c.defaults ++
    String.join (c.aliases.map aliasText)

end Config

end BlobStore
