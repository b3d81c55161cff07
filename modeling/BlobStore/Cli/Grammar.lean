import BlobStore.ExitStatus
import BlobStore.Text.Cut

/-!
# Command lines

What the words of a command line may be, and the reading of them. A program is a tree of commands;
at each level options may stand among the words. An option may stand only once at a level unless it
is meant to be repeated, and two dashes end the options. The first fault that is met is reported:
the value of an option is looked at when the next word that is understood begins, or at the end.
-/

namespace BlobStore.Cli

/-- Why a command line is not carried out. -/
inductive Refusal where
  | help
  | version
  /-- There are no words where a command should be. -/
  | nothing
  | missingCommand
  | missingArgument
  | unknownArgument
  | unknownCommand
  | missingValue
  | invalidValue
  | unwantedValue
  /-- An option is repeated, or stands with one that excludes it. -/
  | conflict
  deriving DecidableEq, Repr

/-- Help and the version are given gladly; the rest are mistakes. -/
def Refusal.status : Refusal → ExitStatus
  | .help => .success
  | .version => .success
  | _ => .usage

/-- Options that every command has. -/
inductive Standard where
  | help
  | version
  deriving DecidableEq, Repr

structure Switch where
  name : String
  letter : Option Char
  /-- What a value has to satisfy; a flag has no value. -/
  accepts : Option (String → Bool)
  repeatable : Bool

def Switch.flag (name : String) (letter : Option Char) : Switch := ⟨name, letter, none, false⟩

def Switch.valued (name : String) (accepts : String → Bool) : Switch :=
  ⟨name, none, some accepts, false⟩

/-- A word that is no option and is known by its place. -/
structure Place where
  required : Bool
  /-- It takes in all further words. -/
  repeated : Bool
  mayBeEmpty : Bool

/-- What a command understands. -/
structure Form where
  switches : List Switch
  places : List Place
  /-- Options that exclude each other. -/
  exclusive : List (String × String)

inductive Grammar where
  | command (form : Form)
  | group (commands : List (String × Grammar))

/-- The names of the commands on the way, and what has been given. -/
structure Parsed where
  commands : List String
  /-- The flags at any level. -/
  flags : List String
  values : List (String × String)
  arguments : List String

/-! ## Words -/

inductive Word where
  | separator
  | long (name : String) (value : Option String)
  | short (letters : List Char)
  | plain

def Word.of (word : String) : Word :=
  match word.toList with
  | ['-', '-'] => .separator
  | '-' :: '-' :: rest =>
    match Text.cutAt '=' rest with
    | some (name, value) => .long (String.ofList name) (some (String.ofList value))
    | none => .long (String.ofList rest) none
  | '-' :: c :: rest => .short (c :: rest)
  | _ => .plain

/-! ## One level -/

/-- A value that has been taken in and not yet looked at. -/
inductive Pending where
  | option (switch : Switch) (accepts : String → Bool) (value : Option String)
  | argument (place : Place) (value : String)

structure Level where
  given : List String
  values : List (String × String)
  arguments : List String
  pending : Option Pending
  optionsEnded : Bool

namespace Level

def start : Level := ⟨[], [], [], none, false⟩

def note (l : Level) (switch : Switch) : Except Refusal Level :=
  if l.given.contains switch.name && !switch.repeatable then .error .conflict
  else .ok { l with given := l.given ++ [switch.name] }

def assign (l : Level) (switch : Switch) (accepts : String → Bool) (value : String) :
    Except Refusal Level := do
  let l ← l.note switch
  if accepts value then .ok { l with values := l.values ++ [(switch.name, value)] }
  else .error .invalidValue

/-- Looks at the value that is still to be looked at. -/
def settle (l : Level) : Except Refusal Level :=
  let rest : Level := { l with pending := none }
  match l.pending with
  | none => .ok rest
  | some (.option _ _ none) => .error .missingValue
  | some (.option switch accepts (some value)) => rest.assign switch accepts value
  | some (.argument place value) =>
    if value.isEmpty && !place.mayBeEmpty then .error .missingValue
    else .ok { rest with arguments := rest.arguments ++ [value] }

def isWaiting (l : Level) : Bool :=
  match l.pending with
  | some (.option _ _ none) => true
  | _ => false

def supply (l : Level) (word : String) : Level :=
  match l.pending with
  | some (.option switch accepts none) => { l with pending := some (.option switch accepts (some word)) }
  | _ => l

def standard? (name : String) : Option Standard :=
  if name = "help" then some .help else if name = "version" then some .version else none

def standardLetter? (letter : Char) : Option Standard :=
  if letter = 'h' then some .help else if letter = 'V' then some .version else none

/-- Answers one of the options that every command has. -/
def answer (l : Level) (s : Standard) : Except Refusal Level := do
  let _ ← l.settle
  .error (match s with
    | .help => .help
    | .version => .version)

def long (l : Level) (switches : List Switch) (name : String) (value : Option String) :
    Except Refusal Level :=
  match standard? name, switches.find? (·.name = name), value with
  | some s, _, none => l.answer s
  | some _, _, some _ => .error .unwantedValue
  | none, none, _ => .error .unknownArgument
  | none, some switch, value =>
    match switch.accepts, value with
    | none, none => do (← l.settle).note switch
    | none, some _ => .error .unwantedValue
    | some accepts, some value => do (← l.settle).assign switch accepts value
    | some accepts, none => do
      let l ← l.settle
      .ok { l with pending := some (.option switch accepts none) }

def short (l : Level) (switches : List Switch) : List Char → Except Refusal Level
  | [] => .ok l
  | letter :: rest =>
    match standardLetter? letter, switches.find? (·.letter = some letter) with
    | some s, _ => l.answer s
    | none, some switch => do
      let l ← (← l.settle).note switch
      l.short switches rest
    | none, none => .error .unknownArgument

def nextPlace? (l : Level) (places : List Place) : Option Place :=
  let taken := l.arguments.length + (match l.pending with
    | some (.argument _ _) => 1
    | _ => 0)
  match places[taken]?, places.getLast? with
  | some place, _ => some place
  | none, some last => if last.repeated then some last else none
  | none, none => none

def argument (l : Level) (places : List Place) (word : String) : Except Refusal Level :=
  match l.nextPlace? places with
  | none => .error .unknownArgument
  | some place => do
    let l ← l.settle
    .ok { l with pending := some (.argument place word) }

def take (l : Level) (form : Form) (word : String) : Except Refusal Level :=
  if l.optionsEnded then l.argument form.places word
  else
    match Word.of word with
    | .separator => .ok { l with optionsEnded := true }
    | .long name value => l.long form.switches name value
    | .short letters => l.short form.switches letters
    | .plain => if l.isWaiting then .ok (l.supply word) else l.argument form.places word

/-- Looks at what has been given as a whole. -/
def finish (l : Level) (form : Form) : Except Refusal Level := do
  let l ← l.settle
  if form.exclusive.any fun p => l.given.contains p.1 && l.given.contains p.2 then .error .conflict
  else if l.arguments.length < (form.places.filter (·.required)).length then .error .missingArgument
  else .ok l

end Level

/-! ## The tree of commands -/

namespace Grammar

/-- The name of the command that explains the others. -/
def helpName : String := "help"

/-- Follows the names of commands that help is asked for. -/
def explain (commands : List (String × Grammar)) : List String → Refusal
  | [] => .help
  | name :: rest =>
    match commands.lookup name with
    | some (.group commands) => explain commands rest
    | some (.command _) => if rest.isEmpty then .help else .unknownCommand
    | none => if name = helpName ∧ rest.isEmpty then .help else .unknownCommand

def isCommand (commands : List (String × Grammar)) (word : String) : Bool :=
  word = helpName || (commands.lookup word).isSome

/-- Reads the words that belong to a command. -/
def readCommand (form : Form) (words : List String) : Except Refusal Level := do
  (← words.foldlM (fun l word => l.take form word) Level.start).finish form

/-- Reads the words of a group. Options of all commands may stand before the name of a command. -/
def readGroup (shared : List Switch) (commands : List (String × Grammar)) (parsed : Parsed)
    (l : Level) : List String → Except Refusal Parsed
  | [] => if l.given.isEmpty then .error .nothing else .error .missingCommand
  | word :: rest =>
    if l.optionsEnded then
      .error (if isCommand commands word then .unknownArgument else .unknownCommand)
    else
      match Word.of word with
      | .separator => readGroup shared commands parsed { l with optionsEnded := true } rest
      | .long name value => do
        readGroup shared commands parsed (← l.long shared name value) rest
      | .short letters => do
        readGroup shared commands parsed (← l.short shared letters) rest
      | .plain =>
        let parsed : Parsed :=
          { parsed with commands := parsed.commands ++ [word], flags := parsed.flags ++ l.given }
        match commands.lookup word with
        | some (.group commands) => readGroup shared commands parsed Level.start rest
        | some (.command form) => do
          let l ← readCommand { form with switches := shared ++ form.switches } rest
          .ok { parsed with
            flags := parsed.flags ++ l.given
            values := l.values
            arguments := l.arguments }
        | none =>
          .error (if word = helpName then explain commands rest else .unknownCommand)

/-- Reads a command line. The shared options may stand at any level. -/
def read (shared : List Switch) (commands : List (String × Grammar)) (words : List String) :
    Except Refusal Parsed :=
  readGroup shared commands ⟨[], [], [], []⟩ Level.start words

end Grammar

end BlobStore.Cli
