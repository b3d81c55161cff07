import BlobStore.Json
import BlobStore.Proofs.Text.Numeral

/-!
# The grammar of JSON

Which texts are JSON documents, by a rule for each kind of phrase, and that the text of a value is
one of them. No document holds a control character but blanks.
-/

namespace BlobStore.Json

/-! ## Rules -/

def IsBlank (text : List Char) : Prop := ∀ c ∈ text, c ∈ [' ', '\t', '\n', '\r']

/-- A character as it may be written inside a string. -/
inductive Spelling : List Char → Prop
  | plain {c : Char} (hcontrol : ' ' ≤ c) (hquote : c ≠ '"') (hbackslash : c ≠ '\\') : Spelling [c]
  | letter {c : Char} (h : c ∈ ['"', '\\', '/', 'b', 'f', 'n', 'r', 't']) : Spelling ['\\', c]
  | code {digits : List Char} (hlength : digits.length = 4)
      (hdigits : ∀ c ∈ digits, Text.isDigitOf 16 c = true) : Spelling ('\\' :: 'u' :: digits)

def IsString (text : List Char) : Prop :=
  ∃ spellings : List (List Char), (∀ s ∈ spellings, Spelling s) ∧
    text = '"' :: spellings.flatten ++ ['"']

def IsDigits (text : List Char) : Prop := text ≠ [] ∧ ∀ c ∈ text, c.isDigit = true

def IsFraction (text : List Char) : Prop :=
  text = [] ∨ ∃ digits, IsDigits digits ∧ text = '.' :: digits

def IsExponent (text : List Char) : Prop :=
  text = [] ∨ ∃ mark ∈ ['e', 'E'], ∃ sign ∈ [[], ['+'], ['-']], ∃ digits, IsDigits digits ∧
    text = mark :: sign ++ digits

/-- A number begins with a zero only if its whole part is zero. -/
def IsNumber (text : List Char) : Prop :=
  ∃ sign ∈ [[], ['-']], ∃ whole fraction exponent, IsDigits whole ∧
    (whole.head? = some '0' → whole = ['0']) ∧ IsFraction fraction ∧ IsExponent exponent ∧
    text = sign ++ whole ++ fraction ++ exponent

inductive Phrase where
  | value
  /-- A value with blanks around it. -/
  | element
  /-- A name and an element, with a colon between them. -/
  | member
  /-- One phrase or several, with commas between them. -/
  | series (item : Phrase)

inductive Derives : Phrase → List Char → Prop
  | null : Derives .value ['n', 'u', 'l', 'l']
  | yes : Derives .value ['t', 'r', 'u', 'e']
  | no : Derives .value ['f', 'a', 'l', 's', 'e']
  | number {text : List Char} : IsNumber text → Derives .value text
  | string {text : List Char} : IsString text → Derives .value text
  | emptyArray {blank : List Char} : IsBlank blank → Derives .value ('[' :: blank ++ [']'])
  | array {text : List Char} : Derives (.series .element) text → Derives .value ('[' :: text ++ [']'])
  | emptyObject {blank : List Char} : IsBlank blank → Derives .value ('\x7b' :: blank ++ ['\x7d'])
  | object {text : List Char} :
      Derives (.series .member) text → Derives .value ('\x7b' :: text ++ ['\x7d'])
  | element {before text after : List Char} : IsBlank before → Derives .value text → IsBlank after →
      Derives .element (before ++ text ++ after)
  | member {before name after text : List Char} : IsBlank before → IsString name → IsBlank after →
      Derives .element text → Derives .member (before ++ name ++ after ++ ':' :: text)
  | single {item : Phrase} {text : List Char} : Derives item text → Derives (.series item) text
  | more {item : Phrase} {text rest : List Char} : Derives item text → Derives (.series item) rest →
      Derives (.series item) (text ++ ',' :: rest)

def IsDocument (text : List Char) : Prop := Derives .element text

/-! ## What a document begins with -/

private theorem head_of_isNumber {c : Char} {rest : List Char} (h : IsNumber (c :: rest)) :
    c = '-' ∨ c.isDigit = true := by
  obtain ⟨sign, hsign, whole, fraction, exponent, ⟨hne, hdigits⟩, -, -, -, htext⟩ := h
  obtain ⟨d, digits, rfl⟩ := List.exists_cons_of_ne_nil hne
  have hd : d.isDigit = true := hdigits d List.mem_cons_self
  simp only [List.mem_cons, List.not_mem_nil, or_false] at hsign
  rcases hsign with rfl | rfl
  · obtain ⟨rfl, -⟩ := List.cons.inj htext
    exact .inr hd
  · exact .inl (List.cons.inj htext).1

private theorem head_of_value {c : Char} {rest : List Char} (h : Derives .value (c :: rest)) :
    c ∈ ['n', 't', 'f', '"', '[', '\x7b', '-'] ∨ c.isDigit = true := by
  generalize htext : c :: rest = text at h
  cases h with
  | null => cases htext; decide
  | yes => cases htext; decide
  | no => cases htext; decide
  | number hnumber =>
    subst htext
    rcases head_of_isNumber hnumber with rfl | hdigit
    · decide
    · exact .inr hdigit
  | string hstring =>
    obtain ⟨spellings, -, rfl⟩ := hstring
    cases htext; decide
  | emptyArray => cases htext; decide
  | array => cases htext; decide
  | emptyObject => cases htext; decide
  | object => cases htext; decide

private theorem value_ne_nil {text : List Char} (h : Derives .value text) : text ≠ [] := by
  rintro rfl
  generalize htext : ([] : List Char) = text at h
  cases h with
  | number hnumber =>
    subst htext
    obtain ⟨sign, -, whole, fraction, exponent, ⟨hne, -⟩, -, -, -, hnil⟩ := hnumber
    simp [hne] at hnil
  | string hstring =>
    obtain ⟨spellings, -, rfl⟩ := hstring
    cases htext
  | _ => cases htext

theorem head_of_isDocument {c : Char} {rest : List Char} (h : IsDocument (c :: rest)) :
    c ∈ [' ', '\t', '\n', '\r', 'n', 't', 'f', '"', '[', '\x7b', '-'] ∨ c.isDigit = true := by
  unfold IsDocument at h
  generalize htext : c :: rest = text at h
  cases h with
  | @element before value after hbefore hvalue hafter =>
    cases before with
    | cons d before =>
      obtain ⟨rfl, -⟩ := List.cons.inj htext
      have hblank := hbefore c List.mem_cons_self
      revert hblank
      simp only [List.mem_cons, List.not_mem_nil, or_false]
      tauto
    | nil =>
      obtain ⟨d, value, rfl⟩ := List.exists_cons_of_ne_nil (value_ne_nil hvalue)
      obtain ⟨rfl, -⟩ := List.cons.inj htext
      refine (head_of_value hvalue).imp_left fun hmem => ?_
      revert hmem
      simp only [List.mem_cons, List.not_mem_nil, or_false]
      tauto

/-! ## The characters of a document -/

/-- Of the control characters only blanks occur. -/
def IsShown (text : List Char) : Prop := ∀ c ∈ text, ' ' ≤ c ∨ c ∈ ['\t', '\n', '\r']

theorem isShown_of_all {text : List Char} (h : text.all (' ' ≤ ·) = true) : IsShown text :=
  fun c hc => .inl (of_decide_eq_true (List.all_eq_true.mp h c hc))

theorem isShown_append {a b : List Char} : IsShown (a ++ b) ↔ IsShown a ∧ IsShown b :=
  List.forall_mem_append

private theorem isShown_cons {c : Char} (hc : ' ' ≤ c) {text : List Char} (h : IsShown text) :
    IsShown (c :: text) :=
  List.forall_mem_cons.mpr ⟨.inl hc, h⟩

theorem IsBlank.isShown {text : List Char} (h : IsBlank text) : IsShown text := by
  intro c hc
  rcases List.mem_cons.mp (h c hc) with rfl | hcontrol
  · exact .inl (Char.le_refl _)
  · exact .inr hcontrol

theorem IsDigits.isShown {text : List Char} (h : IsDigits text) : IsShown text := by
  intro c hc
  have hdigit := (Char.isDigit_iff_toNat.mp (h.2 c hc)).1
  exact .inl (UInt32.le_iff_toNat_le.mpr (Nat.le_trans (by decide) hdigit))

theorem IsFraction.isShown {text : List Char} (h : IsFraction text) : IsShown text := by
  rcases h with rfl | ⟨digits, hdigits, rfl⟩
  · exact isShown_of_all rfl
  · exact isShown_cons (by decide) hdigits.isShown

private theorem isShown_sign {sign : List Char} (h : sign ∈ [[], ['+'], ['-']]) : IsShown sign := by
  simp only [List.mem_cons, List.not_mem_nil, or_false] at h
  rcases h with rfl | rfl | rfl <;> exact isShown_of_all rfl

theorem IsExponent.isShown {text : List Char} (h : IsExponent text) : IsShown text := by
  rcases h with rfl | ⟨mark, hmark, sign, hsign, digits, hdigits, rfl⟩
  · exact isShown_of_all rfl
  · have hmark' : ' ' ≤ mark := by
      simp only [List.mem_cons, List.not_mem_nil, or_false] at hmark
      rcases hmark with rfl | rfl <;> decide
    exact isShown_append.mpr ⟨isShown_cons hmark' (isShown_sign hsign), hdigits.isShown⟩

theorem IsNumber.isShown {text : List Char} (h : IsNumber text) : IsShown text := by
  obtain ⟨sign, hsign, whole, fraction, exponent, hwhole, -, hfraction, hexponent, rfl⟩ := h
  have hsign' : sign ∈ [[], ['+'], ['-']] := by
    revert hsign
    simp only [List.mem_cons, List.not_mem_nil, or_false]
    tauto
  simp only [isShown_append]
  exact ⟨⟨⟨isShown_sign hsign', hwhole.isShown⟩, hfraction.isShown⟩, hexponent.isShown⟩

theorem Spelling.isShown {text : List Char} (h : Spelling text) : IsShown text := by
  cases h with
  | plain hcontrol => exact isShown_cons hcontrol (isShown_of_all rfl)
  | letter hletter =>
    simp only [List.mem_cons, List.not_mem_nil, or_false] at hletter
    rcases hletter with rfl | rfl | rfl | rfl | rfl | rfl | rfl | rfl <;> exact isShown_of_all rfl
  | code hlength hdigits =>
    have hall : ∀ n < 128, Text.isDigitOf 16 (Char.ofNat n) = true → ' ' ≤ Char.ofNat n := by
      decide +kernel
    refine isShown_cons (by decide) (isShown_cons (by decide) fun c hc => .inl ?_)
    have hdigit := hall c.toNat (Text.ascii_of_isDigitOf (hdigits c hc))
    rw [Char.ofNat_toNat] at hdigit
    exact hdigit (hdigits c hc)

theorem IsString.isShown {text : List Char} (h : IsString text) : IsShown text := by
  obtain ⟨spellings, hspellings, rfl⟩ := h
  refine isShown_append.mpr ⟨isShown_cons (by decide) ?_, isShown_of_all rfl⟩
  intro c hc
  obtain ⟨spelling, hmem, hc⟩ := List.mem_flatten.mp hc
  exact (hspellings spelling hmem).isShown c hc

/-- Control characters are spelled with others, so a document has none but blanks. -/
theorem Derives.isShown {phrase : Phrase} {text : List Char} (h : Derives phrase text) :
    IsShown text := by
  -- Brackets, colons and commas stand around and between the phrases.
  have henclosed : ∀ {opening closing : Char} {inner : List Char}, ' ' ≤ opening → ' ' ≤ closing →
      IsShown inner → IsShown (opening :: inner ++ [closing]) := fun hopening hclosing hinner =>
    isShown_append.mpr ⟨isShown_cons hopening hinner, isShown_cons hclosing (isShown_of_all rfl)⟩
  induction h with
  | null => exact isShown_of_all rfl
  | yes => exact isShown_of_all rfl
  | no => exact isShown_of_all rfl
  | number h => exact h.isShown
  | string h => exact h.isShown
  | emptyArray h => exact henclosed (by decide) (by decide) h.isShown
  | array _ ih => exact henclosed (by decide) (by decide) ih
  | emptyObject h => exact henclosed (by decide) (by decide) h.isShown
  | object _ ih => exact henclosed (by decide) (by decide) ih
  | element hbefore _ hafter ih =>
    simp only [isShown_append]
    exact ⟨⟨hbefore.isShown, ih⟩, hafter.isShown⟩
  | member hbefore hname hafter _ ih =>
    simp only [isShown_append]
    exact ⟨⟨⟨hbefore.isShown, hname.isShown⟩, hafter.isShown⟩, isShown_cons (by decide) ih⟩
  | single _ ih => exact ih
  | more _ _ ih ih' => exact isShown_append.mpr ⟨ih, isShown_cons (by decide) ih'⟩

/-! ## The text of a value -/

private theorem spelling_escape (c : Char) : Spelling (escape c) := by
  unfold escape
  split_ifs with hquote hbackslash hb ht hn hf hr hcontrol
  · exact .letter (by decide)
  · exact .letter (by decide)
  · exact .letter (by decide)
  · exact .letter (by decide)
  · exact .letter (by decide)
  · exact .letter (by decide)
  · exact .letter (by decide)
  · have hsmall : c.toNat < ' '.toNat := hcontrol
    have hbound : c.toNat < 16 ^ 4 := Nat.lt_trans hsmall (by decide)
    exact .code (Text.length_hexPadded (by decide) hbound) (Text.all_isDigitOf_hexPadded 4 _)
  · exact .plain (Char.not_lt.mp hcontrol) hquote hbackslash

private theorem isString_quote (s : String) : IsString (quote s) := by
  refine ⟨s.toList.map escape, ?_, ?_⟩
  · intro spelling hspelling
    obtain ⟨c, -, rfl⟩ := List.mem_map.mp hspelling
    exact spelling_escape c
  · rw [quote, List.flatMap_def]

private theorem isDigits_toString (n : Nat) : IsDigits (toString n).toList := by
  rw [Text.toList_toString]
  exact ⟨Nat.toDigits_ne_nil, fun c hc => Nat.isDigit_of_mem_toDigits (by decide) (by decide) hc⟩

private theorem head_toString (n : Nat) :
    (toString n).toList.head? = some '0' → (toString n).toList = ['0'] := by
  obtain ⟨c, rest, hcons, hzero⟩ := Text.exists_toDigits_eq_cons (show 1 < 10 by decide)
    (by decide) n
  rw [Text.toList_toString]
  intro hhead
  rcases hzero with rfl | hne
  · rfl
  · rw [hcons] at hhead
    exact absurd (Option.some.inj hhead) hne

private theorem isNumber_toString (n : Int) : IsNumber (toString n).toList := by
  cases n with
  | ofNat n =>
    refine ⟨[], by decide, (toString n).toList, [], [], isDigits_toString n, head_toString n, .inl rfl,
      .inl rfl, ?_⟩
    simp only [List.nil_append, List.append_nil]
    rfl
  | negSucc n =>
    have hsign : toString (Int.negSucc n) = "-" ++ toString (n + 1) := rfl
    refine ⟨['-'], by decide, (toString (n + 1)).toList, [], [], isDigits_toString _, head_toString _,
      .inl rfl, .inl rfl, ?_⟩
    rw [hsign, String.toList_append, List.append_nil, List.append_nil]
    rfl

private theorem isBlank_newLine (level : Nat) : IsBlank (newLine level) := by
  intro c hc
  rcases List.mem_cons.mp hc with rfl | hspace
  · decide
  · rw [List.eq_of_mem_replicate hspace]
    decide

theorem IsBlank.append {a b : List Char} (ha : IsBlank a) (hb : IsBlank b) : IsBlank (a ++ b) :=
  List.forall_mem_append.mpr ⟨ha, hb⟩

private theorem isBlank_nil : IsBlank [] := nofun

/-- Phrases of this kind may have any blanks around them. -/
def Padded (item : Phrase) : Prop :=
  ∀ before text after, IsBlank before → Derives item text → IsBlank after →
    Derives item (before ++ text ++ after)

private theorem padded_element : Padded .element := by
  intro before text after hbefore htext hafter
  cases htext with
  | @element before' value after' hbefore' hvalue hafter' =>
    have hpadded := Derives.element (hbefore.append hbefore') hvalue (hafter'.append hafter)
    simpa only [List.append_assoc] using hpadded

private theorem padded_member : Padded .member := by
  intro before text after hbefore htext hafter
  cases htext with
  | @member before' name after' value hbefore' hname hafter' hvalue =>
    have hinner := padded_element [] value after isBlank_nil hvalue hafter
    have hpadded := Derives.member (hbefore.append hbefore') hname hafter' hinner
    simpa only [List.append_assoc, List.cons_append, List.nil_append] using hpadded

private theorem derives_enclose {item : Phrase} (hitem : Padded item) (level : Nat)
    (first : List Char) (rest : List (List Char))
    (hlines : ∀ line ∈ first :: rest, Derives item line) :
    Derives (.series item) (newLine (level + 1) ++ first ++
      rest.flatMap (fun line => ',' :: newLine (level + 1) ++ line) ++ newLine level) := by
  have hindent := isBlank_newLine (level + 1)
  -- Each line after the first brings its comma with it, so the induction is on those.
  induction rest generalizing first with
  | nil =>
    have hfirst := hitem _ first _ hindent (hlines first (by simp)) (isBlank_newLine level)
    simpa using Derives.single hfirst
  | cons second rest ih =>
    have hfirst := hitem _ first [] hindent (hlines first (by simp)) isBlank_nil
    have hmore := Derives.more hfirst (ih second fun line hline => hlines line (by simp [hline]))
    simpa using hmore

-- The recursion is that of `layout`: over a value, its items and its fields at once.
mutual

private theorem derives_layout (level : Nat) : (v : Value) → Derives .value (layout level v)
  | .null => .null
  | .bool true => .yes
  | .bool false => .no
  | .number n => .number (isNumber_toString n)
  | .string s => .string (isString_quote s)
  | .array items => by
    have hitems := derives_layoutItems (level + 1) items
    rw [layout]
    cases hlines : layoutItems (level + 1) items with
    | nil => exact .emptyArray isBlank_nil
    | cons first rest =>
      rw [hlines] at hitems
      simpa [enclose] using Derives.array (derives_enclose padded_element level first rest hitems)
  | .object fields => by
    have hfields := derives_layoutFields (level + 1) fields
    rw [layout]
    cases hlines : layoutFields (level + 1) fields with
    | nil => exact .emptyObject isBlank_nil
    | cons first rest =>
      rw [hlines] at hfields
      simpa [enclose] using Derives.object (derives_enclose padded_member level first rest hfields)

private theorem derives_layoutItems (level : Nat) : (items : List Value) →
    ∀ line ∈ layoutItems level items, Derives .element line
  | [] => nofun
  | item :: items => by
    rw [layoutItems]
    refine List.forall_mem_cons.mpr ⟨?_, derives_layoutItems level items⟩
    simpa using Derives.element isBlank_nil (derives_layout level item) isBlank_nil

private theorem derives_layoutFields (level : Nat) : (fields : List (String × Value)) →
    ∀ line ∈ layoutFields level fields, Derives .member line
  | [] => nofun
  | (name, value) :: fields => by
    have hspace : IsBlank [' '] := List.forall_mem_singleton.mpr (by decide)
    have hvalue := Derives.element hspace (derives_layout level value) isBlank_nil
    rw [layoutFields]
    refine List.forall_mem_cons.mpr ⟨?_, derives_layoutFields level fields⟩
    simpa using Derives.member isBlank_nil (isString_quote name) isBlank_nil hvalue

end

/-- A value is shown as a document. -/
theorem isDocument_text (v : Value) : IsDocument v.text.toList := by
  rw [Value.text, String.toList_ofList, ← List.append_nil (layout 0 v), ← List.nil_append (layout 0 v)]
  exact .element isBlank_nil (derives_layout 0 v) isBlank_nil

/-! ## Objects with one member -/

/-- An object with one member, of a given name. -/
inductive IsSingle (name : String) : List Char → Prop
  | mk {before after value : List Char} : IsBlank before → IsBlank after → Derives .element value →
      IsSingle name ('\x7b' :: (before ++ quote name ++ after ++ ':' :: value) ++ ['\x7d'])

theorem IsSingle.isDocument {name : String} {text : List Char} (h : IsSingle name text) :
    IsDocument text := by
  obtain ⟨hbefore, hafter, hvalue⟩ := h
  have hmember := Derives.member hbefore (isString_quote name) hafter hvalue
  have hobject := Derives.element isBlank_nil (.object (.single hmember)) isBlank_nil
  rw [List.nil_append, List.append_nil] at hobject
  exact hobject

theorem isSingle_text (name : String) (v : Value) :
    IsSingle name (Value.object [(name, v)]).text.toList := by
  have hspace : IsBlank [' '] := List.forall_mem_singleton.mpr (by decide)
  have hvalue := Derives.element hspace (derives_layout 1 v) (isBlank_newLine 0)
  have hsingle := @IsSingle.mk name _ _ _ (isBlank_newLine 1) isBlank_nil hvalue
  rw [Value.text, String.toList_ofList]
  simpa [layout, layoutFields, enclose] using hsingle

end BlobStore.Json
