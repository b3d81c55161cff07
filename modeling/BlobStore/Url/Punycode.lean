import BlobStore.Text.Cut

/-!
# Punycode

Writing the characters of a label outside ASCII with letters and digits. The ASCII characters come
first; each of the others is told by a number that says how far code point and place are from those
of the one before.
-/

namespace BlobStore.Url.Punycode

def digit (n : Nat) : Char := if n < 26 then Char.ofNat (97 + n) else Char.ofNat (22 + n)

def digitValue? (c : Char) : Option Nat :=
  if 'a' ≤ c ∧ c ≤ 'z' then some (c.toNat - 97)
  else if 'A' ≤ c ∧ c ≤ 'Z' then some (c.toNat - 65)
  else if '0' ≤ c ∧ c ≤ '9' then some (c.toNat - 22)
  else none

/-! ## Numbers -/

/-- The digit from which on a number goes on. It depends on the place of the digit. -/
def threshold (k bias : Nat) : Nat :=
  if k ≤ bias then 1 else if bias + 26 ≤ k then 26 else k - bias

theorem threshold_pos (k bias : Nat) : 1 ≤ threshold k bias := by
  unfold threshold
  grind

private def shrink (delta k : Nat) : Nat :=
  if 455 < delta then shrink (delta / 35) (k + 36) else k + 36 * delta / (delta + 38)
termination_by delta
decreasing_by exact Nat.div_lt_self (by omega) (by omega)

def adapt (delta points : Nat) (first : Bool) : Nat :=
  let halved := if first then delta / 700 else delta / 2
  shrink (halved + halved / points) 0

/-- The digits of a number, the lowest first. -/
def writeNumber (q k bias : Nat) : List Char :=
  let t := threshold k bias
  if q < t then [digit q]
  else digit (t + (q - t) % (36 - t)) :: writeNumber ((q - t) / (36 - t)) (k + 36) bias
termination_by q
decreasing_by
  have := threshold_pos k bias
  exact Nat.lt_of_le_of_lt (Nat.div_le_self _ _) (by omega)

/-- Reads a number: its value added to `i`, and the rest. The value has 32 bits. -/
def readNumber? (i weight k bias : Nat) : List Char → Option (Nat × List Char)
  | [] => none
  | c :: rest =>
    match digitValue? c with
    | none => none
    | some d =>
      let i := i + d * weight
      let t := threshold k bias
      if 2 ^ 32 ≤ i then none
      else if d < t then some (i, rest)
      else readNumber? i (weight * (36 - t)) (k + 36) bias rest

theorem length_of_readNumber? {i weight k bias n : Nat} {text rest : List Char}
    (h : readNumber? i weight k bias text = some (n, rest)) : rest.length < text.length := by
  induction text generalizing i weight k with
  | nil => simp [readNumber?] at h
  | cons c text ih =>
    unfold readNumber? at h
    split at h
    · simp at h
    · dsimp only at h
      split at h
      · simp at h
      · split at h
        · simp_all
        · exact Nat.lt_succ_of_lt (ih h)

/-! ## Labels -/

private structure Writer where
  delta : Nat
  bias : Nat
  handled : Nat
  out : List Char

/-- Writes the numbers for every place that holds the code point `m`. -/
private def writePoint (basic m : Nat) (w : Writer) (points : List Nat) : Writer :=
  points.foldl (fun w c =>
    if c < m then { w with delta := w.delta + 1 }
    else if c = m then
      { delta := 0
        bias := adapt w.delta (w.handled + 1) (w.handled = basic)
        handled := w.handled + 1
        out := w.out ++ writeNumber w.delta 36 w.bias }
    else w) w

/-- Writes the code points from `n` on, each at most once for an item of `todo`. -/
private def encodeFrom (basic n : Nat) (points : List Nat) : List Nat → Writer → List Char
  | [], w => w.out
  | _ :: todo, w =>
    match (points.filter (n ≤ ·)).min? with
    | none => w.out
    | some m =>
      let w := { w with delta := w.delta + (m - n) * (w.handled + 1) }
      let w := writePoint basic m w points
      encodeFrom basic (m + 1) points todo { w with delta := w.delta + 1 }

def encode (label : List Char) : List Char :=
  let basic := label.filter (·.toNat < 128)
  let start := if basic.isEmpty then [] else basic ++ ['-']
  let points := label.map Char.toNat
  encodeFrom basic.length 128 points points
    { delta := 0, bias := 72, handled := basic.length, out := start }

private def decodeFrom (n i bias : Nat) (out : List Nat) (text : List Char) : Option (List Nat) :=
  if text.isEmpty then some out
  else
    match _found : readNumber? i 1 36 bias text with
    | none => none
    | some (position, rest) =>
      let count := out.length + 1
      let n := n + position / count
      if 0x10ffff < n ∨ (0xd800 ≤ n ∧ n ≤ 0xdfff) then none
      else
        let place := position % count
        decodeFrom n (place + 1) (adapt (position - i) count (i = 0)) (out.insertIdx place n) rest
termination_by text.length
decreasing_by exact length_of_readNumber? _found

/-- The code points that a text stands for. The last hyphen ends the ASCII characters. -/
def decode? (text : List Char) : Option (List Nat) :=
  match Text.cutAt '-' text.reverse with
  | some (coded, basic) => decodeFrom 128 0 72 (basic.reverse.map Char.toNat) coded.reverse
  | none => decodeFrom 128 0 72 [] text

end BlobStore.Url.Punycode
