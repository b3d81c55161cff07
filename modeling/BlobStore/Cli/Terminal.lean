import BlobStore.Json

/-!
# Terminal output

What commands write to the two streams of a terminal. A style says whether people or programs are
to read it: programs get nothing but JSON, and errors are shown in any style.
-/

namespace BlobStore.Cli

structure Style where
  json : Bool
  noColor : Bool
  noProgress : Bool
  quiet : Bool
  deriving DecidableEq, Repr

/-- What has been written so far. -/
structure Terminal where
  out : ByteArray
  err : ByteArray
  deriving DecidableEq

namespace Terminal

def blank : Terminal := ⟨ByteArray.empty, ByteArray.empty⟩

def write (bytes : ByteArray) (t : Terminal) : Terminal := { t with out := t.out ++ bytes }

def writeLine (line : String) (t : Terminal) : Terminal := t.write (line ++ "\n").toUTF8

/-- A result in JSON, which is shown in any style. -/
def document (value : Json.Value) (t : Terminal) : Terminal := t.writeLine value.text

def errorLine (line : String) (t : Terminal) : Terminal :=
  { t with err := t.err ++ (line ++ "\n").toUTF8 }

end Terminal

/-- Colors and weights, as the numbers that switch them on. -/
inductive Paint where
  | red
  | green
  | yellow
  | blue
  | bold
  deriving DecidableEq, Repr

def Paint.code : Paint → Nat
  | .bold => 1
  | .red => 31
  | .green => 32
  | .yellow => 33
  | .blue => 34

namespace Style

def plain : Style := ⟨false, false, false, false⟩

def colored (s : Style) : Bool := !s.noColor && !s.json

/-- Whether the progress of a transfer may be shown. -/
def showsProgress (s : Style) : Bool := !(s.quiet || s.json || s.noProgress)

/-- A text in the given paints, if the style has colors. -/
def paint (s : Style) (paints : List Paint) (text : String) : String :=
  if s.colored then
    String.join (paints.map fun p => "\x1b[" ++ toString p.code ++ "m") ++ text ++ "\x1b[0m"
  else text

def success (s : Style) (message : String) (t : Terminal) : Terminal :=
  if s.quiet || s.json then t else t.writeLine (s.paint [.green] "✓" ++ " " ++ message)

/-- Errors are shown even in a quiet style. -/
def error (s : Style) (message : String) (t : Terminal) : Terminal :=
  if s.json then t.errorLine (Json.Value.object [("error", .string message)]).text
  else t.errorLine (s.paint [.red] "✗" ++ " " ++ message)

def warning (s : Style) (message : String) (t : Terminal) : Terminal :=
  if s.quiet || s.json then t else t.errorLine (s.paint [.yellow] "⚠" ++ " " ++ message)

def line (s : Style) (text : String) (t : Terminal) : Terminal :=
  if s.quiet then t else t.writeLine text

def directory (s : Style) (name : String) : String := s.paint [.blue, .bold] name

end Style

end BlobStore.Cli
