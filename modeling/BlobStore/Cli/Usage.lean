import BlobStore.Cli.Invocation

/-!
# Usage

What a user is told whose command line is not carried out. The summary of the commands follows the
grammar by which command lines are read.
-/

namespace BlobStore.Cli

def programName : String := "sb"

def programVersion : String := "0.1.0"

def Switch.usage (s : Switch) : String :=
  let name := (s.letter.map fun c => String.ofList ['-', c, '|']).getD "" ++ "--" ++ s.name
  let form := if s.accepts.isSome then name ++ " <value>" else name
  "[" ++ form ++ "]" ++ if s.repeatable then "..." else ""

def Place.usage (p : Place) : String :=
  (if p.required then "<argument>" else "[<argument>]") ++ if p.repeated then "..." else ""

def Form.usage (f : Form) : List String := f.switches.map (·.usage) ++ f.places.map (·.usage)

mutual

/-- A line for each command, after the words that lead to it. -/
def Grammar.usage (leading : String) : Grammar → List String
  | .command form => [" ".intercalate (leading :: form.usage)]
  | .group commands => groupUsage leading commands

def groupUsage (leading : String) : List (String × Grammar) → List String
  | [] => []
  | (name, grammar) :: rest => grammar.usage (leading ++ " " ++ name) ++ groupUsage leading rest

end

def usage : String :=
  "Usage:\n" ++
    String.join ((groupUsage ("  " ++ programName) Invocation.commands).map (· ++ "\n")) ++
    "Options of every command: " ++ " ".intercalate (Invocation.shared.map (·.usage)) ++
    " [-h|--help] [-V|--version]\n"

def Refusal.message : Refusal → String
  | .help => usage
  | .version => programName ++ " " ++ programVersion ++ "\n"
  | .nothing => usage
  | .missingCommand => "error: a command is missing\n" ++ usage
  | .missingArgument => "error: an argument is missing\n" ++ usage
  | .unknownArgument => "error: there is an argument too many\n" ++ usage
  | .unknownCommand => "error: there is no such command\n" ++ usage
  | .missingValue => "error: an option has no value\n" ++ usage
  | .invalidValue => "error: a value cannot be read\n" ++ usage
  | .unwantedValue => "error: a flag has a value\n" ++ usage
  | .conflict => "error: options exclude each other or are repeated\n" ++ usage

end BlobStore.Cli
