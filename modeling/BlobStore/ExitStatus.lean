/-!
# Exit statuses

How a program tells whoever started it that it has succeeded or why it has not. Scripts rely on
the numbers.
-/

namespace BlobStore

inductive ExitStatus where
  | success
  | failure
  /-- What was asked for makes no sense. -/
  | usage
  /-- There is no such object or alias. -/
  | notFound
  | interrupted
  deriving DecidableEq, Repr

namespace ExitStatus

def code : ExitStatus → Nat
  | .success => 0
  | .failure => 1
  | .usage => 2
  | .notFound => 5
  | .interrupted => 130

def all : List ExitStatus := [.success, .failure, .usage, .notFound, .interrupted]

def ofCode? (code : Int) : Option ExitStatus := all.find? fun s => s.code = code

def description : ExitStatus → String
  | .success => "Operation completed successfully"
  | .failure => "General error"
  | .usage => "Invalid arguments or path format"
  | .notFound => "Resource not found"
  | .interrupted => "Operation interrupted"

def text (s : ExitStatus) : String := s!"{s.description} ({s.code})"

theorem ofCode?_code (s : ExitStatus) : ofCode? s.code = some s := by cases s <;> decide

theorem code_of_ofCode? {code : Int} {s : ExitStatus} (h : ofCode? code = some s) : s.code = code := by
  simpa using List.find?_some h

end ExitStatus

end BlobStore
