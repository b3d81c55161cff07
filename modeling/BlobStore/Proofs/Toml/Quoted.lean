import BlobStore.Proofs.Text.Cut
import BlobStore.Toml.Quoted
import Mathlib.Logic.Basic
import Mathlib.Tactic.SplitIfs

/-!
# Strings of TOML are read as what has been written

Whatever a string holds, the form it is written in is read back as the string, and what follows is
left over as long as it does not begin with another mark of the same kind.

There are three ways to read on: literally on one line, with escapes on one line, and over several
lines with or without escapes. Over several lines everything depends on the marks that stand next
to each other: up to two of them belong to the string, also in front of the three that close it.
-/

namespace BlobStore.Toml.Quoted

variable {mark c : Char} {rest s : List Char}

private theorem cons_some (c : Char) (s rest : List Char) :
    cons c (some (s, rest)) = some (c :: s, rest) :=
  rfl

private theorem isPrefixOf?_of_head (h : rest.head? ≠ some mark) (more : List Char) :
    (mark :: more).isPrefixOf? rest = none := by
  cases rest with
  | nil => rfl
  | cons d rest =>
    have hne : (mark == d) = false := beq_eq_false_iff_ne.mpr fun heq => h (congrArg some heq.symm)
    simp [List.isPrefixOf?, hne]

theorem forall_head?_append {P : Char → Prop} (hc : P c) (h : ∀ d, s.head? = some d → P d) :
    ∀ d, (s ++ c :: rest).head? = some d → P d := by
  intro d hd
  cases s with
  | nil =>
    cases hd
    exact hc
  | cons e s => exact h d hd

/-! ## Escapes -/

/-- What is written behind a backslash stands for one character, whatever follows it. -/
structure Escapes (e : List Char) (c : Char) : Prop where
  read (rest : List Char) : escape? (e ++ rest) = some (c, rest)
  /-- It is no line break that the backslash takes back. -/
  apart (rest : List Char) : joined? (e ++ rest) = none

private theorem joined?_cons (hblank : isBlank c = false) (hn : c ≠ '\n') (hr : c ≠ '\r') :
    joined? (c :: rest) = none := by
  rw [joined?, skipBlanks, List.dropWhile_cons_of_neg (by simp [hblank]), newline?, Option.map_none]
  · intro after heq
    exact hn (List.cons.inj heq).1
  · intro after heq
    exact hr (List.cons.inj heq).1

private theorem escapes_letter {letter : Char} (h : (letter, c) ∈ letterEscapes) :
    Escapes [letter] c := by
  have hlookup : ∀ e ∈ letterEscapes, letterEscapes.lookup e.1 = some e.2 := by decide
  have hletter : ∀ e ∈ letterEscapes, isBlank e.1 = false ∧ e.1 ≠ '\n' ∧ e.1 ≠ '\r' := by decide
  obtain ⟨hblank, hn, hr⟩ := hletter _ h
  constructor
  · intro rest
    rw [List.singleton_append, escape?, hlookup _ h]
  · intro rest
    exact joined?_cons hblank hn hr

private theorem escapes_hex (h : c.toNat < 128) :
    Escapes ['u', '0', '0', upperHex (c.toNat / 16), upperHex (c.toNat % 16)] c := by
  have hread : ∀ n < 128,
      (Text.readNat? 16 ['0', '0', upperHex (n / 16), upperHex (n % 16)]).bind charOf? =
        some (Char.ofNat n) := by decide
  constructor
  · intro rest
    simp only [List.cons_append, List.nil_append, escape?]
    have hnone : letterEscapes.lookup 'u' = none := by decide
    rw [hnone]
    simp [codePoint?, hread _ h]
  · intro rest
    exact joined?_cons (by decide) (by decide) (by decide)

private theorem escapes_controlEscape (h : c.toNat < 128) :
    ∃ e, controlEscape c = '\\' :: e ∧ Escapes e c := by
  unfold controlEscape
  split_ifs with hb ht hn hf hr
  · subst hb; exact ⟨_, rfl, escapes_letter (by decide)⟩
  · subst ht; exact ⟨_, rfl, escapes_letter (by decide)⟩
  · subst hn; exact ⟨_, rfl, escapes_letter (by decide)⟩
  · subst hf; exact ⟨_, rfl, escapes_letter (by decide)⟩
  · subst hr; exact ⟨_, rfl, escapes_letter (by decide)⟩
  · exact ⟨_, rfl, escapes_hex h⟩

private theorem toNat_of_not_isPlain (h : (isPlain c && c ≠ '\t') = false) : c.toNat < 128 := by
  by_cases ht : c = '\t'
  · subst ht
    decide
  · simp only [isPlain, ht, decide_false, Bool.false_or, ne_eq, not_false_eq_true, decide_true,
      Bool.and_true, Bool.and_eq_false_iff, decide_eq_false_iff_not, not_not] at h
    rcases h with hlow | rfl
    · have hlt : c.val < ' '.val := UInt32.not_le.mp hlow
      exact Nat.lt_trans (UInt32.lt_iff_toNat_lt.mp hlt) (by decide)
    · decide

/-- How a character is written, with what is written for the characters after it. -/
inductive Written (multiline : Bool) (run : Nat) (s : List Char) : Char → List Char → Prop where
  | quote (hmultiline : multiline = true) (hrun : run < 2) :
      Written multiline run s '"' ('"' :: escapeFrom multiline (run + 1) s)
  | plain {c : Char} (hquote : c ≠ '"') (hback : c ≠ '\\')
      (hplain : isPlain c = true ∨ c = '\n' ∧ multiline = true) :
      Written multiline run s c (c :: escapeFrom multiline 0 s)
  | escape {c : Char} {e : List Char} (h : Escapes e c) :
      Written multiline run s c ('\\' :: (e ++ escapeFrom multiline 0 s))

theorem written (multiline : Bool) (run : Nat) (c : Char) (s : List Char) :
    Written multiline run s c (escapeFrom multiline run (c :: s)) := by
  rw [escapeFrom]
  split_ifs with hquote hrun hback hnewline hplain
  · rw [Bool.and_eq_true, decide_eq_true_iff] at hrun
    rw [hquote]
    exact .quote hrun.1 hrun.2
  · rw [hquote]
    have he : Escapes ['"'] '"' := escapes_letter (by decide)
    exact .escape he
  · rw [hback]
    have he : Escapes ['\\'] '\\' := escapes_letter (by decide)
    exact .escape he
  · rw [Bool.and_eq_true, decide_eq_true_iff] at hnewline
    obtain ⟨rfl, hmultiline⟩ := hnewline
    exact .plain hquote hback (.inr ⟨rfl, hmultiline⟩)
  · rw [Bool.and_eq_true] at hplain
    exact .plain hquote hback (.inl hplain.1)
  · have hlow := toNat_of_not_isPlain (Bool.eq_false_iff.mpr hplain)
    obtain ⟨e, heq, hescapes⟩ := escapes_controlEscape hlow
    rw [heq, List.cons_append]
    exact .escape hescapes

/-! ## On one line -/

private theorem readLine_mark (mark : Char) (rest : List Char) :
    readLine mark (mark :: rest) = some ([], rest) := by
  rw [readLine, if_pos rfl]

private theorem readLine_plain (hmark : c ≠ mark) (hback : ¬(c = '\\' ∧ mark = '"'))
    (hplain : isPlain c = true) : readLine mark (c :: rest) = cons c (readLine mark rest) := by
  rw [readLine, if_neg hmark, if_neg hback, if_pos hplain]

private theorem readLine_escape {e : List Char} (h : Escapes e c) :
    readLine '"' ('\\' :: (e ++ rest)) = cons c (readLine '"' rest) := by
  rw [readLine, if_neg (by decide), if_pos ⟨rfl, rfl⟩]
  split
  · rename_i d after heq
    rw [h.read rest] at heq
    cases heq
    rfl
  · rename_i heq
    rw [h.read rest] at heq
    cases heq

private theorem readLine_literal (hmark : '\'' ∉ s) (hplain : ∀ c ∈ s, isPlain c = true) :
    readLine '\'' (s ++ '\'' :: rest) = some (s, rest) := by
  induction s with
  | nil => exact readLine_mark _ rest
  | cons c s ih =>
    have hne : c ≠ '\'' := fun h => hmark (h ▸ List.mem_cons_self)
    have hs := ih (fun h => hmark (List.mem_cons_of_mem _ h)) fun d hd =>
      hplain d (List.mem_cons_of_mem _ hd)
    rw [List.cons_append, readLine_plain hne (fun h => absurd h.2 (by decide))
      (hplain c List.mem_cons_self), hs, cons_some]

private theorem readLine_escapeFrom (run : Nat) (s rest : List Char) :
    readLine '"' (escapeFrom false run s ++ '"' :: rest) = some (s, rest) := by
  induction s generalizing run with
  | nil => exact readLine_mark _ rest
  | cons c s ih =>
    have hc := written false run c s
    generalize escapeFrom false run (c :: s) = text at hc ⊢
    cases hc with
    | quote hmultiline => cases hmultiline
    | plain hquote hback hplain =>
      have hplain : isPlain c = true := hplain.resolve_right fun h => Bool.false_ne_true h.2
      rw [List.cons_append, readLine_plain hquote (fun h => hback h.1) hplain, ih, cons_some]
    | escape he => rw [List.cons_append, List.append_assoc, readLine_escape he, ih, cons_some]

/-! ## On several lines -/

/-- Three marks close a string together with those in front of them, but no sooner. -/
theorem closed?_append (hlead : (s.takeWhile (· = mark)).length ≤ 2)
    (hrest : rest.head? ≠ some mark) :
    closed? mark (s ++ mark :: mark :: mark :: rest) =
      if s.all (· = mark) then some (s, rest) else none := by
  have hnone := isPrefixOf?_of_head hrest
  have hflip : ∀ d, d ≠ mark → (mark == d) = false := fun d h => beq_eq_false_iff_ne.mpr (Ne.symm h)
  rcases s with _ | ⟨a, _ | ⟨b, _ | ⟨d, s⟩⟩⟩
  · simp [closed?, List.isPrefixOf?, hnone]
  · by_cases ha : a = mark
    · simp [closed?, List.isPrefixOf?, ha, hnone]
    · simp [closed?, List.isPrefixOf?, ha, hflip]
  · by_cases ha : a = mark
    · by_cases hb : b = mark
      · simp [closed?, List.isPrefixOf?, ha, hb]
      · simp [closed?, List.isPrefixOf?, ha, hb, hflip]
    · simp [closed?, List.isPrefixOf?, ha, hflip]
  · by_cases ha : a = mark
    · by_cases hb : b = mark
      · by_cases hd : d = mark
        · simp [ha, hb, hd] at hlead
        · simp [closed?, List.isPrefixOf?, ha, hb, hd, hflip]
      · simp [closed?, List.isPrefixOf?, ha, hb, hflip]
    · simp [closed?, List.isPrefixOf?, ha, hflip]

private theorem readLines_closed {found : List Char × List Char}
    (h : closed? mark rest = some found) :
    readLines mark rest = some found := by
  cases rest with
  | nil => cases h
  | cons c rest => rw [readLines, h]

private theorem readLines_plain (hopen : closed? mark (c :: rest) = none)
    (hback : ¬(c = '\\' ∧ mark = '"')) (hplain : isPlain c = true ∨ c = '\n') :
    readLines mark (c :: rest) = cons c (readLines mark rest) := by
  have hc : isPlain c = true ∨ (newline? (c :: rest)).isSome = true := by
    rcases hplain with h | rfl
    · exact .inl h
    · exact .inr rfl
  rw [readLines, hopen]
  simp only [hback, hc, if_true, if_false]

private theorem readLines_escape {e : List Char} (h : Escapes e c) :
    readLines '"' ('\\' :: (e ++ rest)) = cons c (readLines '"' rest) := by
  have hopen : closed? '"' ('\\' :: (e ++ rest)) = none := rfl
  rw [readLines, hopen]
  simp only [and_self, if_true]
  split
  · rename_i after heq
    rw [h.apart rest] at heq
    cases heq
  · split
    · rename_i d after heq
      rw [h.read rest] at heq
      cases heq
      rfl
    · rename_i heq
      rw [h.read rest] at heq
      cases heq

private theorem hasTriple_of_cons (h : hasTriple mark (c :: s) = false) :
    hasTriple mark s = false := by
  rcases s with _ | ⟨b, _ | ⟨d, s⟩⟩
  · rfl
  · rfl
  · rw [hasTriple, Bool.or_eq_false_iff] at h
    exact h.2

private theorem length_lead_of_hasTriple (h : hasTriple mark s = false) :
    (s.takeWhile (· = mark)).length ≤ 2 := by
  rcases s with _ | ⟨a, _ | ⟨b, _ | ⟨d, s⟩⟩⟩
  · simp
  · exact Nat.le_succ_of_le (List.takeWhile_sublist _).length_le
  · exact (List.takeWhile_sublist _).length_le
  · rw [hasTriple, Bool.or_eq_false_iff] at h
    by_cases ha : a = mark
    · by_cases hb : b = mark
      · have hd : d ≠ mark := by simpa [ha, hb] using h.1
        simp [ha, hb, hd]
      · simp [ha, hb]
    · simp [ha]

private theorem readLines_literal (hplain : ∀ c ∈ s, isPlain c = true ∨ c = '\n')
    (htriple : hasTriple '\'' s = false) (hrest : rest.head? ≠ some '\'') :
    readLines '\'' (s ++ '\'' :: '\'' :: '\'' :: rest) = some (s, rest) := by
  induction s with
  | nil => exact readLines_closed (closed?_append (s := []) (Nat.zero_le 2) hrest)
  | cons c s ih =>
    have hclosed := closed?_append (length_lead_of_hasTriple htriple) hrest
    have hs := ih (fun d hd => hplain d (List.mem_cons_of_mem _ hd)) (hasTriple_of_cons htriple)
    split_ifs at hclosed with hall
    · exact readLines_closed hclosed
    · rw [List.cons_append] at hclosed ⊢
      rw [readLines_plain hclosed (fun h => absurd h.2 (by decide)) (hplain c List.mem_cons_self), hs,
        cons_some]

/-- After `run` quotation marks no more are written than make two. -/
theorem length_lead_escapeFrom (s : List Char) {run : Nat} (hrun : run ≤ 2) :
    ((escapeFrom true run s).takeWhile (· = '"')).length + run ≤ 2 := by
  induction s generalizing run with
  | nil => simpa [escapeFrom] using hrun
  | cons c s ih =>
    have hc := written true run c s
    generalize escapeFrom true run (c :: s) = text at hc ⊢
    cases hc with
    | quote _ hlt =>
      have hmore := @ih (run + 1) (by omega)
      rw [List.takeWhile_cons_of_pos (by decide), List.length_cons]
      omega
    | plain hquote =>
      rw [List.takeWhile_cons_of_neg (by simp [hquote]), List.length_nil]
      omega
    | escape =>
      rw [List.takeWhile_cons_of_neg (by decide), List.length_nil]
      omega

private theorem escapeFrom_of_all {run : Nat}
    (hall : (escapeFrom true run s).all (· = '"') = true) :
    escapeFrom true run s = s := by
  induction s generalizing run with
  | nil => rfl
  | cons c s ih =>
    have hc := written true run c s
    generalize escapeFrom true run (c :: s) = text at hc hall ⊢
    rw [List.all_eq_true] at hall
    cases hc with
    | quote => rw [ih (List.all_eq_true.mpr fun d hd => hall d (List.mem_cons_of_mem _ hd))]
    | plain => rw [ih (List.all_eq_true.mpr fun d hd => hall d (List.mem_cons_of_mem _ hd))]
    | escape => exact absurd (hall _ List.mem_cons_self) (by decide)

private theorem readLines_escapeFrom {run : Nat} (hrun : run ≤ 2) (s : List Char)
    (hrest : rest.head? ≠ some '"') :
    readLines '"' (escapeFrom true run s ++ '"' :: '"' :: '"' :: rest) = some (s, rest) := by
  induction s generalizing run with
  | nil => exact readLines_closed (closed?_append (s := []) (Nat.zero_le 2) hrest)
  | cons c s ih =>
    have hlead := length_lead_escapeFrom (c :: s) hrun
    have hclosed := closed?_append (Nat.le_of_add_right_le hlead) hrest
    split_ifs at hclosed with hall
    · rw [escapeFrom_of_all hall] at hclosed ⊢
      exact readLines_closed hclosed
    · have hc := written true run c s
      generalize escapeFrom true run (c :: s) = text at hc hclosed ⊢
      cases hc with
      | quote _ hlt =>
        rw [List.cons_append] at hclosed ⊢
        rw [readLines_plain hclosed (by decide) (.inl (by decide)), ih hlt, cons_some]
      | plain _ hback hplain =>
        rw [List.cons_append] at hclosed ⊢
        rw [readLines_plain hclosed (fun h => hback h.1) (hplain.imp_right And.left),
          ih (Nat.zero_le 2), cons_some]
      | escape he =>
        rw [List.cons_append, List.append_assoc, readLines_escape he, ih (Nat.zero_le 2), cons_some]

/-! ## In any form -/

variable {found : List Char × List Char} {inside : List Char}

private theorem isPlain_of_not_isControl (h : isControl c = false) :
    isPlain c = true ∨ c = '\n' := by
  simp only [isControl, Bool.or_eq_false_iff, Bool.and_eq_false_iff, decide_eq_false_iff_not,
    ne_eq, not_not] at h
  obtain ⟨hlow, hdelete⟩ := h
  simp only [isPlain, Bool.or_eq_true, Bool.and_eq_true, decide_eq_true_eq]
  rcases hlow with (hle | htab) | hnewline
  · exact .inl (.inr ⟨Char.not_lt.mp hle, hdelete⟩)
  · exact .inl (.inl htab)
  · exact .inr hnewline

private theorem newline?_of_head (h : ∀ c, rest.head? = some c → isPlain c = true) :
    newline? rest = none := by
  rw [newline?]
  · rintro after rfl
    exact absurd (h '\n' rfl) (by decide)
  · rintro after rfl
    exact absurd (h '\r' rfl) (by decide)

/-- On one line the inside of a string does not begin with its mark, so that there are not three. -/
theorem readWith_line (hhead : inside.head? ≠ some mark) (hrest : rest.head? ≠ some mark)
    (hread : readLine mark (inside ++ mark :: rest) = some found) :
    readWith mark (mark :: (inside ++ mark :: rest)) = some found := by
  have hnone : [mark, mark, mark].isPrefixOf? (mark :: (inside ++ mark :: rest)) = none := by
    cases inside with
    | nil => simpa [List.isPrefixOf?] using isPrefixOf?_of_head hrest []
    | cons d inside =>
      have hd : (d :: (inside ++ mark :: rest)).head? ≠ some mark := hhead
      simpa [List.isPrefixOf?] using isPrefixOf?_of_head hd [mark]
  rw [readWith, hnone]
  exact (if_pos rfl).trans hread

private theorem readWith_lines {start : List Char}
    (hstart : start = ['\n'] ∨ start = [] ∧ ∀ c, inside.head? = some c → isPlain c = true)
    (hread : readLines mark inside = some found) :
    readWith mark (mark :: mark :: mark :: (start ++ inside)) = some found := by
  have hthree : [mark, mark, mark].isPrefixOf? (mark :: mark :: mark :: (start ++ inside)) =
      some (start ++ inside) := Text.isPrefixOf?_append [mark, mark, mark] _
  have hskip : (newline? (start ++ inside)).getD (start ++ inside) = inside := by
    rcases hstart with rfl | ⟨rfl, hhead⟩
    · rfl
    · rw [List.nil_append, newline?_of_head hhead, Option.getD_none]
  rw [readWith, hthree]
  exact (congrArg (readLines mark) hskip).trans hread

private theorem head?_escapeFrom_false (s : List Char) :
    (escapeFrom false 0 s).head? ≠ some '"' := by
  cases s with
  | nil => exact nofun
  | cons c s =>
    have hc := written false 0 c s
    generalize escapeFrom false 0 (c :: s) = text at hc ⊢
    cases hc with
    | quote hmultiline => cases hmultiline
    | plain hquote => exact fun h => hquote (Option.some.inj h)
    | escape => exact fun h => absurd (Option.some.inj h) (by decide)

private theorem isPlain_of_head?_escapeFrom {multiline : Bool} (hbroken : '\n' ∉ s)
    (h : (escapeFrom multiline 0 s).head? = some c) : isPlain c = true := by
  cases s with
  | nil => cases h
  | cons d s =>
    have hd := written multiline 0 d s
    generalize escapeFrom multiline 0 (d :: s) = text at hd h
    cases hd with
    | quote => cases h; decide
    | plain _ _ hplain =>
      cases h
      refine hplain.resolve_right fun hnewline => hbroken ?_
      rw [hnewline.1]
      exact List.mem_cons_self
    | escape => cases h; decide

private theorem readWith_escaped (multiline : Bool) (hform : formOf s = ⟨'"', multiline⟩)
    (hrest : rest.head? ≠ some '"') : readWith '"' (write s ++ rest) = some (s, rest) := by
  rw [write, hform]
  cases multiline with
  | false =>
    have hread := readWith_line (head?_escapeFrom_false s) hrest (readLine_escapeFrom 0 s rest)
    simpa using hread
  | true =>
    have hread := readLines_escapeFrom (Nat.zero_le 2) s hrest
    by_cases hbroken : '\n' ∈ s
    · simpa [hbroken] using readWith_lines (.inl rfl) hread
    · have hhead : ∀ c, (escapeFrom true 0 s ++ '"' :: '"' :: '"' :: rest).head? = some c →
          isPlain c = true :=
        forall_head?_append (by decide) fun _ h => isPlain_of_head?_escapeFrom hbroken h
      simpa [hbroken] using readWith_lines (.inr ⟨rfl, hhead⟩) hread

private theorem of_formOf_literal {multiline : Bool} (h : formOf s = ⟨'\'', multiline⟩) :
    (∀ c ∈ s, isControl c = false) ∧
      if multiline then hasTriple '\'' s = false else '\n' ∉ s ∧ '\'' ∉ s := by
  unfold formOf at h
  dsimp only at h
  split_ifs at h with hplain hline hlines hliteral
  · cases h
  · cases h
    simp only [Bool.and_eq_true, Bool.not_eq_true', List.any_eq_false, List.contains_eq_mem,
      decide_eq_false_iff_not, Bool.not_eq_true] at hline
    exact ⟨hline.1.1, hline.1.2, hline.2⟩
  · cases h
  · cases h
    simp only [Bool.and_eq_true, Bool.not_eq_true', List.any_eq_false, Bool.not_eq_true] at hliteral
    exact hliteral
  · cases h

private theorem readWith_literal (multiline : Bool) (hform : formOf s = ⟨'\'', multiline⟩)
    (hrest : rest.head? ≠ some '\'') : readWith '\'' (write s ++ rest) = some (s, rest) := by
  obtain ⟨hcontrol, hmultiline⟩ := of_formOf_literal hform
  have hall : ∀ c ∈ s, isPlain c = true ∨ c = '\n' := fun c hc =>
    isPlain_of_not_isControl (hcontrol c hc)
  have hplain (hbroken : '\n' ∉ s) : ∀ c ∈ s, isPlain c = true := fun c hc =>
    (hall c hc).resolve_right fun h => hbroken (h ▸ hc)
  rw [write, hform]
  cases multiline with
  | false =>
    obtain ⟨hbroken, hmark⟩ := hmultiline
    have hread : readLine '\'' (s ++ '\'' :: rest) = some (s, rest) :=
      readLine_literal hmark (hplain hbroken)
    have hhead : s.head? ≠ some '\'' := fun h => hmark (List.mem_of_mem_head? h)
    simpa using readWith_line hhead hrest hread
  | true =>
    have hread := readLines_literal hall hmultiline hrest
    by_cases hbroken : '\n' ∈ s
    · simpa [hbroken] using readWith_lines (.inl rfl) hread
    · have hhead : ∀ c, (s ++ '\'' :: '\'' :: '\'' :: rest).head? = some c → isPlain c = true :=
        forall_head?_append (by decide) fun c h => hplain hbroken c (List.mem_of_mem_head? h)
      simpa [hbroken] using readWith_lines (.inr ⟨rfl, hhead⟩) hread

theorem mark_formOf (s : List Char) : (formOf s).mark = '"' ∨ (formOf s).mark = '\'' := by
  unfold formOf
  dsimp only
  split_ifs
  · exact .inl rfl
  · exact .inr rfl
  · exact .inl rfl
  · exact .inr rfl
  · exact .inl rfl

/-- A string is read as what has been written, up to the mark that closes it. -/
theorem readWith_write (s : List Char) (hrest : rest.head? ≠ some (formOf s).mark) :
    readWith (formOf s).mark (write s ++ rest) = some (s, rest) := by
  rcases mark_formOf s with hmark | hmark
  · rw [hmark] at hrest ⊢
    exact readWith_escaped (formOf s).multiline (by rw [← hmark]) hrest
  · rw [hmark] at hrest ⊢
    exact readWith_literal (formOf s).multiline (by rw [← hmark]) hrest

theorem exists_write_eq (s : List Char) : ∃ text, write s = (formOf s).mark :: text := by
  rw [write]
  cases (formOf s).multiline with
  | false => exact ⟨_, rfl⟩
  | true => exact ⟨_, rfl⟩

end BlobStore.Toml.Quoted
