import BlobStore.Proofs.Toml.Quoted
import BlobStore.Proofs.Toml.Scalar
import BlobStore.Toml.Document

/-!
# Lines of TOML are read as what has been written

A text that is put together from lines is read line by line: what one part is read as does not
depend on the parts around it. The keys and headings here are bare names, and each value ends with
its line.
-/

namespace BlobStore.Toml

variable {name value text rest : List Char} {v : Value}

/-! ## Keys -/

/-- Whether a name can be written without marks. -/
def isBare (name : List Char) : Bool := !name.isEmpty && name.all isBareCharacter

private theorem ne_of_isBareCharacter {c d : Char} (hc : isBareCharacter c = true)
    (hd : isBareCharacter d = false) : c ≠ d := by
  rintro rfl
  rw [hd] at hc
  cases hc

private theorem eq_cons_of_isBare (hname : isBare name = true) :
    ∃ c tail, name = c :: tail ∧ isBareCharacter c = true ∧ ∀ d ∈ tail, isBareCharacter d = true := by
  rw [isBare, Bool.and_eq_true, List.all_eq_true] at hname
  obtain ⟨hne, hbare⟩ := hname
  cases name with
  | nil => cases hne
  | cons c tail =>
    exact ⟨c, tail, rfl, hbare c List.mem_cons_self, fun d hd => hbare d (List.mem_cons_of_mem _ hd)⟩

private theorem skipBlanks_of_head (h : ∀ c, text.head? = some c → isBlank c = false) :
    skipBlanks text = text := by
  cases text with
  | nil => rfl
  | cons c text =>
    have hc : ¬isBlank c = true := by rw [h c rfl]; exact Bool.false_ne_true
    exact List.dropWhile_cons_of_neg hc

private theorem skipBlanks_of_isBareCharacter {c : Char} (hc : isBareCharacter c = true) :
    skipBlanks (c :: text) = c :: text := by
  refine skipBlanks_of_head fun d hd => ?_
  cases hd
  have hspace : c ≠ ' ' := ne_of_isBareCharacter hc (by decide)
  have htab : c ≠ '\t' := ne_of_isBareCharacter hc (by decide)
  simp [isBlank, hspace, htab]

private theorem readName_bare (hname : isBare name = true) {d : Char}
    (hd : isBareCharacter d = false) :
    readName (name ++ d :: rest) = some (String.ofList name, d :: rest) := by
  obtain ⟨c, tail, rfl, hc, htail⟩ := eq_cons_of_isBare hname
  have hmark : ¬(c = '"' ∨ c = '\'') :=
    not_or.mpr ⟨ne_of_isBareCharacter hc (by decide), ne_of_isBareCharacter hc (by decide)⟩
  have hstop : ¬isBareCharacter d = true := by rw [hd]; exact Bool.false_ne_true
  rw [List.cons_append, readName, if_neg hmark, if_pos hc, List.takeWhile_append_of_pos htail,
    List.dropWhile_append_of_pos htail, List.takeWhile_cons_of_neg hstop,
    List.dropWhile_cons_of_neg hstop, List.append_nil]

private theorem readKey_bare (hname : isBare name = true) {d : Char}
    (hd : isBareCharacter d = false) (hdot : (skipBlanks (d :: rest)).head? ≠ some '.') :
    readKey (name ++ d :: rest) = some ([String.ofList name], skipBlanks (d :: rest)) := by
  have hnames : readNames (name ++ d :: rest) =
      some ([String.ofList name], skipBlanks (d :: rest)) := by
    rw [readNames, readName_bare hname hd]
    dsimp only
    split
    · rename_i more heq
      rw [heq] at hdot
      exact absurd rfl hdot
    · rfl
  rw [readKey, hnames]
  rfl

/-! ## Values -/

private theorem readValue_quoted (depth : Nat) {c : Char} (hmark : c = '"' ∨ c = '\'') :
    readValue depth (c :: rest) =
      (Quoted.readWith c (c :: rest)).map fun p => (.string (String.ofList p.1), p.2) := by
  cases depth with
  | zero => rw [readValue, if_pos hmark]
  | succ depth => rw [readValue, if_pos hmark]

private theorem readValue_word (depth : Nat) {c : Char} (hword : isWordCharacter c = true) :
    readValue depth (c :: rest) = readWord (c :: rest) := by
  have hne : ∀ d, isWordCharacter d = false → c ≠ d := by
    rintro d hd rfl
    rw [hd] at hword
    cases hword
  have hmark : ¬(c = '"' ∨ c = '\'') := not_or.mpr ⟨hne _ (by decide), hne _ (by decide)⟩
  cases depth with
  | zero => rw [readValue, if_neg hmark]
  | succ depth =>
    rw [readValue, if_neg hmark]
    dsimp only
    rw [if_neg (hne _ (by decide)), if_neg (hne _ (by decide))]

private theorem readValue_write (depth : Nat) (s rest : List Char) :
    readValue depth (Quoted.write s ++ '\n' :: rest) =
      some (.string (String.ofList s), '\n' :: rest) := by
  obtain ⟨text, htext⟩ := Quoted.exists_write_eq s
  have hmark := Quoted.mark_formOf s
  have hrest : ('\n' :: rest).head? ≠ some (Quoted.formOf s).mark := by
    intro heq
    rcases hmark with h | h
    · exact absurd ((Option.some.inj heq).trans h) (by decide)
    · exact absurd ((Option.some.inj heq).trans h) (by decide)
  have hread := Quoted.readWith_write s hrest
  rw [htext, List.cons_append] at hread ⊢
  rw [readValue_quoted depth hmark, hread, Option.map_some]

private theorem readValue_toString (depth n : Nat) (rest : List Char) :
    readValue depth ((toString n).toList ++ '\n' :: rest) = some (.integer n, '\n' :: rest) := by
  have hread := readWord_toString n rest
  have hdigits := isDigit_of_mem_toDigits n
  rw [Text.toList_toString] at hread ⊢
  obtain ⟨c, digits, heq, -⟩ := Text.exists_toDigits_eq_cons (show 1 < 10 by decide) (by decide) n
  rw [heq] at hread hdigits ⊢
  have hword : isWordCharacter c = true := by
    simp [isWordCharacter, Char.isAlphanum, hdigits c List.mem_cons_self]
  rw [List.cons_append] at hread ⊢
  rw [readValue_word depth hword, hread]

private theorem readValue_empty (depth : Nat) (rest : List Char) :
    readValue (depth + 1) ('[' :: ']' :: rest) = some (.array [], rest) := by
  have hitems : readItems (readValue depth) (']' :: rest) = some ([], rest) := by
    rw [readItems]
    rfl
  rw [readValue, if_neg (by decide)]
  dsimp only
  rw [if_pos rfl, hitems, Option.map_some]

/-! ## Lines -/

private theorem lineEnd?_newline (rest : List Char) : lineEnd? ('\n' :: rest) = some rest := rfl

private theorem readLine_newline (rest : List Char) :
    readLine ('\n' :: rest) = some (.empty, rest) := rfl

private theorem readPair_bare (hname : isBare name = true)
    (hblank : ∀ c, text.head? = some c → isBlank c = false)
    (hread : readValue maxDepth text = some (v, rest)) :
    readPair skipBlanks (readValue maxDepth) (name ++ ' ' :: '=' :: ' ' :: text) =
      some (([String.ofList name], v), rest) := by
  have hskip : skipBlanks (' ' :: '=' :: ' ' :: text) = '=' :: ' ' :: text := rfl
  have hkey : readKey (name ++ ' ' :: '=' :: ' ' :: text) =
      some ([String.ofList name], '=' :: ' ' :: text) := by
    have hdot : ('=' :: ' ' :: text).head? ≠ some '.' := fun h =>
      absurd (Option.some.inj h) (by decide)
    rw [readKey_bare hname (by decide) (by rw [hskip]; exact hdot), hskip]
  have htext : skipBlanks (' ' :: text) = text := by
    rw [skipBlanks, List.dropWhile_cons_of_pos (by decide)]
    exact skipBlanks_of_head hblank
  have hequals : skipBlanks ('=' :: ' ' :: text) = '=' :: ' ' :: text := rfl
  simp only [readPair, hkey, hequals, take?, if_true, htext, hread, Option.bind_eq_bind,
    Option.bind_some]

private theorem readLine_of_isBareCharacter {c : Char} (hc : isBareCharacter c = true) :
    readLine (c :: text) = (do
      let ((key, value), rest) ← readPair skipBlanks (readValue maxDepth) (c :: text)
      some (.pair key value, ← lineEnd? rest)) := by
  have hne {d : Char} (hd : isBareCharacter d = false) : c ≠ d := ne_of_isBareCharacter hc hd
  have hskip : skipBlanks (c :: text) = c :: text := skipBlanks_of_isBareCharacter hc
  have hend : lineEnd? (c :: text) = none := by
    rw [lineEnd?, hskip]
    split
    · rename_i heq
      exact absurd (List.cons.inj heq).1 (hne (by decide))
    · rw [List.isEmpty_cons, if_neg Bool.false_ne_true, newline?]
      · intro after heq
        exact hne (by decide) (List.cons.inj heq).1
      · intro after heq
        exact hne (by decide) (List.cons.inj heq).1
  rw [readLine, hskip]
  split
  · rename_i heq
    exact absurd (List.cons.inj heq).1 (hne (by decide))
  · rename_i heq
    exact absurd (List.cons.inj heq).1 (hne (by decide))
  · rw [hend]

private theorem readLine_pair (hname : isBare name = true)
    (hblank : ∀ c, value.head? = some c → isBlank c = false)
    (hread : readValue maxDepth (value ++ '\n' :: rest) = some (v, '\n' :: rest)) :
    readLine (name ++ ' ' :: '=' :: ' ' :: (value ++ '\n' :: rest)) =
      some (.pair [String.ofList name] v, rest) := by
  have hstart : ∀ c, (value ++ '\n' :: rest).head? = some c → isBlank c = false :=
    Quoted.forall_head?_append (by decide) hblank
  have hpair := readPair_bare hname hstart hread
  obtain ⟨c, tail, rfl, hc, -⟩ := eq_cons_of_isBare hname
  rw [List.cons_append] at hpair ⊢
  rw [readLine_of_isBareCharacter hc, hpair]
  rfl

private theorem readKey_closed (hname : isBare name = true) (rest : List Char) :
    readKey (skipBlanks (name ++ ']' :: rest)) = some ([String.ofList name], ']' :: rest) := by
  have hclose : skipBlanks (']' :: rest) = ']' :: rest := rfl
  have hdot : (']' :: rest).head? ≠ some '.' := fun h => absurd (Option.some.inj h) (by decide)
  have hkey := readKey_bare hname (show isBareCharacter ']' = false by decide)
    (by rw [hclose]; exact hdot)
  obtain ⟨c, tail, rfl, hc, -⟩ := eq_cons_of_isBare hname
  rw [List.cons_append] at hkey ⊢
  rw [skipBlanks_of_isBareCharacter hc, hkey, hclose]

private theorem readLine_bareTable (hname : isBare name = true) (rest : List Char) :
    readLine ('[' :: (name ++ ']' :: '\n' :: rest)) =
      some (.heading ⟨[String.ofList name], false⟩, rest) := by
  have hkey := readKey_closed hname ('\n' :: rest)
  obtain ⟨c, tail, rfl, hc, -⟩ := eq_cons_of_isBare hname
  have hopen : (c :: tail ++ ']' :: '\n' :: rest).head? ≠ some '[' := fun h =>
    ne_of_isBareCharacter hc (by decide) (Option.some.inj h)
  rw [readLine_table hopen hkey, lineEnd?_newline, Option.map_some]

private theorem readLine_bareSeries (hname : isBare name = true) (rest : List Char) :
    readLine ('[' :: '[' :: (name ++ ']' :: ']' :: '\n' :: rest)) =
      some (.heading ⟨[String.ofList name], true⟩, rest) := by
  rw [readLine_series (readKey_closed hname _), lineEnd?_newline, Option.map_some]

/-! ## Parts of a document -/

/-- A text is read as the lines, whatever lines follow. -/
def ReadAs (text : List Char) (lines : List Line) : Prop :=
  ∀ rest more, readLines rest = some more → readLines (text ++ rest) = some (lines ++ more)

/-- A name and a value on a line. -/
def pairLine (name : String) (value : List Char) : List Char :=
  name.toList ++ ' ' :: '=' :: ' ' :: (value ++ ['\n'])

namespace ReadAs

variable {before after : List Char} {first second : List Line} {key : String}

theorem nil : ReadAs [] [] := fun _ _ h => h

theorem append (hfirst : ReadAs before first) (hsecond : ReadAs after second) :
    ReadAs (before ++ after) (first ++ second) := by
  intro rest more hrest
  rw [List.append_assoc, List.append_assoc]
  exact hfirst _ _ (hsecond _ _ hrest)

theorem flatMap {α : Type} {items : List α} {write : α → List Char} {lines : α → List Line}
    (h : ∀ a ∈ items, ReadAs (write a) (lines a)) :
    ReadAs (items.flatMap write) (items.flatMap lines) := by
  induction items with
  | nil => exact nil
  | cons a items ih =>
    rw [List.flatMap_cons, List.flatMap_cons]
    exact (h a List.mem_cons_self).append (ih fun b hb => h b (List.mem_cons_of_mem _ hb))

theorem whole (h : ReadAs text first) : readLines text = some first := by
  have hread := h [] [] readLines_nil
  rwa [List.append_nil, List.append_nil] at hread

theorem line {l : Line} (hne : text ≠ []) (h : ∀ rest, readLine (text ++ rest) = some (l, rest)) :
    ReadAs text [l] := by
  intro rest more hrest
  have hlt : rest.length < (text ++ rest).length := by
    rw [List.length_append]
    exact Nat.lt_add_of_pos_left (List.length_pos_iff.mpr hne)
  exact readLines_cons (h rest) hlt hrest

theorem newline : ReadAs ['\n'] [.empty] := line (List.cons_ne_nil _ _) readLine_newline

theorem table (hkey : isBare key.toList = true) :
    ReadAs ('[' :: (key.toList ++ [']', '\n'])) [.heading ⟨[key], false⟩] := by
  refine line (List.cons_ne_nil _ _) fun rest => ?_
  have hread := readLine_bareTable hkey rest
  rw [String.ofList_toList] at hread
  rw [← hread, List.cons_append, List.append_assoc]
  rfl

theorem series (hkey : isBare key.toList = true) :
    ReadAs ('[' :: '[' :: (key.toList ++ [']', ']', '\n'])) [.heading ⟨[key], true⟩] := by
  refine line (List.cons_ne_nil _ _) fun rest => ?_
  have hread := readLine_bareSeries hkey rest
  rw [String.ofList_toList] at hread
  rw [← hread, List.cons_append, List.cons_append, List.append_assoc]
  rfl

theorem pair (hkey : isBare key.toList = true)
    (hblank : ∀ c, value.head? = some c → isBlank c = false)
    (hread : ∀ rest, readValue maxDepth (value ++ '\n' :: rest) = some (v, '\n' :: rest)) :
    ReadAs (pairLine key value) [.pair [key] v] := by
  refine line (List.append_ne_nil_of_right_ne_nil _ (List.cons_ne_nil _ _)) fun rest => ?_
  have hline := readLine_pair hkey hblank (hread rest)
  rw [String.ofList_toList] at hline
  rw [← hline, pairLine, List.append_assoc]
  simp only [List.cons_append, List.append_assoc, List.nil_append]

theorem string (hkey : isBare key.toList = true) (s : String) :
    ReadAs (pairLine key (Quoted.write s.toList)) [.pair [key] (.string s)] := by
  refine pair hkey ?_ fun rest => ?_
  · intro c hc
    obtain ⟨text, htext⟩ := Quoted.exists_write_eq s.toList
    rw [htext] at hc
    cases hc
    rcases Quoted.mark_formOf s.toList with h | h
    · rw [h]
      decide
    · rw [h]
      decide
  · rw [readValue_write, String.ofList_toList]

theorem integer (hkey : isBare key.toList = true) (n : Nat) :
    ReadAs (pairLine key (toString n).toList) [.pair [key] (.integer n)] := by
  refine pair hkey ?_ fun rest => readValue_toString _ n rest
  intro c hc
  rw [Text.toList_toString] at hc
  have hdigit := isDigit_of_mem_toDigits n c (List.mem_of_mem_head? hc)
  have hspace : c ≠ ' ' := by
    rintro rfl
    exact absurd hdigit (by decide)
  have htab : c ≠ '\t' := by
    rintro rfl
    exact absurd hdigit (by decide)
  simp [isBlank, hspace, htab]

theorem emptyArray (hkey : isBare key.toList = true) :
    ReadAs (pairLine key ['[', ']']) [.pair [key] (.array [])] := by
  refine pair hkey ?_ fun rest => readValue_empty _ _
  intro c hc
  cases hc
  decide

theorem parse {text : String} {lines : List Line} (h : ReadAs text.toList lines)
    (hmark : text.toList.head? ≠ some '\ufeff') : Toml.parse text = tableOf lines := by
  have hlines := h.whole
  unfold Toml.parse
  dsimp only
  split
  · rename_i rest heq
    rw [heq] at hmark
    exact absurd rfl hmark
  · rw [hlines, Option.bind_some]

end ReadAs

end BlobStore.Toml
