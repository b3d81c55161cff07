import BlobStore.Proofs.Text.ByteOrder
import BlobStore.Proofs.Text.Numeral
import BlobStore.Proofs.Url.Authority
import Mathlib.Data.List.TakeWhile

/-!
# Hosts that are kept as they are written

Under a scheme that is not special a host of visible characters of ASCII, none of which is refused in
a host, is kept as it is written. So is an address in brackets that is written in its shortest form.
Every other host that is accepted at all comes out different from how it is written.
-/

namespace BlobStore

namespace Url

/-- A character that stands for itself in a host. -/
def isPlain (c : Char) : Bool := 0x20 < c.toNat && c.toNat < 0x7f && !isForbiddenInHost c

/-- A host that is kept as it is written. -/
inductive IsVerbatim : List Char → Prop
  | plain {host : List Char} : host.all isPlain = true → IsVerbatim host
  | address {pieces : List Nat} :
      readIpv6? (ipv6Text pieces).toList = some pieces →
      IsVerbatim ('[' :: ((ipv6Text pieces).toList ++ [']']))

private theorem isPlain_iff {c : Char} :
    isPlain c = true ↔ (0x20 < c.toNat ∧ c.toNat < 0x7f) ∧ isForbiddenInHost c = false := by
  rw [isPlain, Bool.and_eq_true, Bool.and_eq_true, decide_eq_true_eq, decide_eq_true_eq,
    Bool.not_eq_true']

private theorem isPlain_of_isDigitOf {c : Char} (h : Text.isDigitOf 16 c = true) :
    isPlain c = true := by
  have hall : ∀ n < 128, Text.isDigitOf 16 (Char.ofNat n) = true → isPlain (Char.ofNat n) = true := by
    decide +kernel
  have hplain := hall c.toNat (Text.ascii_of_isDigitOf h)
  rw [Char.ofNat_toNat] at hplain
  exact hplain h

private theorem controls_eq_false {b : UInt8} :
    EncodeSet.controls b = false ↔ 0x20 ≤ b.toNat ∧ b.toNat < 0x7f := by
  rw [EncodeSet.controls, Bool.or_eq_false_iff, decide_eq_false_iff_not, decide_eq_false_iff_not,
    UInt8.not_lt, UInt8.not_lt, UInt8.le_iff_toNat_le, UInt8.le_iff_toNat_le]
  exact and_congr_right fun _ => Nat.lt_succ_iff.symm

private theorem percentEncode_of_kept {set : EncodeSet} {text : List Char}
    (h : ∀ c ∈ text, c.toNat < 128 ∧ set (UInt8.ofNat c.toNat) = false) :
    percentEncode set (String.ofList text) = String.ofList text := by
  have hoctets : (String.ofList text).toUTF8.data.toList = text.map fun c => UInt8.ofNat c.toNat := by
    have h := Text.octets_of_ascii (s := String.ofList text) fun c hc => by
      rw [String.toList_ofList] at hc
      exact (h c hc).1
    rw [String.toList_ofList] at h
    exact h
  have hset : ∀ b ∈ text.map fun c => UInt8.ofNat c.toNat, set b = false := by
    intro b hb
    obtain ⟨c, hc, rfl⟩ := List.mem_map.mp hb
    exact (h c hc).2
  rw [percentEncode, hoctets, encodeBytes_eq_map hset, List.map_map]
  congr 1
  exact (List.map_congr_left fun c hc => Text.ofNat_octet_of_ascii (h c hc).1).trans (List.map_id text)

private theorem percentEncode_of_plain {host : List Char} (h : host.all isPlain = true) :
    percentEncode .controls (String.ofList host) = String.ofList host := by
  refine percentEncode_of_kept fun c hc => ?_
  obtain ⟨⟨hlow, hhigh⟩, -⟩ := isPlain_iff.mp (List.all_eq_true.mp h c hc)
  have hn : (UInt8.ofNat c.toNat).toNat = c.toNat := by
    rw [UInt8.toNat_ofNat', Nat.mod_eq_of_lt (by omega)]
  rw [controls_eq_false, hn]
  exact ⟨Nat.lt_succ_of_lt hhigh, Nat.le_of_lt hlow, hhigh⟩

private theorem plain_percentEncode {host : List Char} (h : host.any isForbiddenInHost = false) :
    ∀ c ∈ (percentEncode .controls (String.ofList host)).toList, isPlain c = true := by
  intro c hc
  rw [percentEncode, String.toList_ofList] at hc
  rcases mem_encodeBytes hc with rfl | hdigit | ⟨b, hb, hset, rfl⟩
  · decide
  · exact isPlain_of_isDigitOf hdigit
  · obtain ⟨hlow, hhigh⟩ := controls_eq_false.mp hset
    have hmem : b ∈ Text.octets (String.ofList host) := hb
    rw [Text.octets_eq, String.toList_ofList] at hmem
    obtain ⟨d, hd, hoctet⟩ := List.mem_flatMap.mp hmem
    have hvalue := Text.toNat_of_octet hoctet (Nat.lt_succ_of_lt hhigh)
    have hallowed : isForbiddenInHost d = false := Bool.eq_false_iff.mpr (List.any_eq_false.mp h d hd)
    -- A blank is no control, but it is refused in a host.
    have hblank : d.toNat ≠ 0x20 := by
      intro heq
      have hd : d = ' ' := Char.toNat_inj.mp heq
      rw [hd] at hallowed
      exact absurd hallowed (by decide)
    rw [← hvalue] at hlow hhigh ⊢
    rw [Char.ofNat_toNat, isPlain_iff]
    exact ⟨⟨Nat.lt_of_le_of_ne hlow hblank.symm, hhigh⟩, hallowed⟩

/-! ## The host of an authority -/

private theorem not_mem_of_plain {host : List Char} (h : host.all isPlain = true) {c : Char}
    (hc : isForbiddenInHost c = true) : c ∉ host := by
  intro hmem
  have hallowed := (isPlain_iff.mp (List.all_eq_true.mp h c hmem)).2
  rw [hc] at hallowed
  cases hallowed

private theorem addressed {pieces : List Nat} {c : Char} (h : c ∈ (ipv6Text pieces).toList) :
    c = ':' ∨ isPlain c = true := by
  rcases mem_ipv6Text h with rfl | ⟨n, hn⟩
  · exact .inl rfl
  · exact .inr (isPlain_of_isDigitOf (Text.all_isDigitOf_toDigits (by decide) (by decide) n c hn))

private theorem not_mem_ipv6Text {c : Char} (hc : isForbiddenInHost c = true) (hcolon : c ≠ ':')
    (pieces : List Nat) : c ∉ (ipv6Text pieces).toList := by
  intro hmem
  rcases addressed hmem with rfl | hplain
  · exact hcolon rfl
  · rw [(isPlain_iff.mp hplain).2] at hc
    cases hc

private theorem bracket_eq {inner text after : List Char}
    (h : inner ++ ']' :: after = text ++ [']']) (htext : ']' ∉ text) :
    inner = text ∧ after = [] := by
  rcases List.append_eq_append_iff.mp h with ⟨more, rfl, hrest⟩ | ⟨more, rfl, hrest⟩
  · cases more with
    | nil => exact ⟨(List.append_nil _).symm, (List.cons.inj hrest).2⟩
    | cons c more =>
      obtain ⟨rfl, -⟩ := List.cons.inj hrest
      exact absurd (List.mem_append_right inner List.mem_cons_self) htext
  · cases more with
    | nil => exact ⟨List.append_nil _, ((List.cons.inj hrest).2).symm⟩
    | cons c more =>
      have hlen := congrArg List.length hrest
      simp at hlen

private theorem StandsIn.eq_append {host authority : List Char} (h : StandsIn host authority)
    (hsign : '@' ∉ authority) :
    ∃ after, authority = host ++ after ∧ (after = [] ∨ after.head? = some ':') := by
  obtain ⟨before, after, rfl, rfl | hmem, hafter⟩ := h
  · exact ⟨after, List.nil_append _, hafter⟩
  · exact absurd (List.mem_append_left _ hmem) hsign

private theorem StandsIn.eq_of_plain {host authority : List Char} (h : StandsIn host authority)
    (hplain : authority.all isPlain = true) : authority = host := by
  obtain ⟨after, rfl, rfl | hcolon⟩ := h.eq_append (not_mem_of_plain hplain (by decide))
  · exact List.append_nil host
  · have hmem := List.mem_append_right host (List.mem_of_mem_head? hcolon)
    exact absurd hmem (not_mem_of_plain hplain (by decide))

/-- The characters that an authority is read with: no blank, no control and nothing that ends it. -/
def isKept (c : Char) : Bool := 0x20 < c.toNat && !endsAuthority .other c

private theorem isKept_of_isPlain {c : Char} (h : isPlain c = true) : isKept c = true := by
  obtain ⟨⟨hlow, -⟩, hallowed⟩ := isPlain_iff.mp h
  rw [isKept, Bool.and_eq_true, decide_eq_true_eq, Bool.not_eq_true']
  refine ⟨hlow, ?_⟩
  have hslash : c ≠ '/' := by
    rintro rfl
    exact absurd hallowed (by decide)
  have hmark : c ≠ '?' := by
    rintro rfl
    exact absurd hallowed (by decide)
  have hhash : c ≠ '#' := by
    rintro rfl
    exact absurd hallowed (by decide)
  simp [endsAuthority, SchemeKind.isSpecial, hslash, hmark, hhash]

private theorem kept_bracketed (pieces : List Nat) :
    ('[' :: ((ipv6Text pieces).toList ++ [']'])).all isKept = true := by
  rw [List.all_cons, List.all_append, List.all_eq_true.mpr]
  · decide
  · intro c hc
    rcases addressed hc with rfl | hplain
    · decide
    · exact isKept_of_isPlain hplain

theorem IsVerbatim.kept {host : List Char} (h : IsVerbatim host) : host.all isKept = true := by
  cases h with
  | plain hplain =>
    exact List.all_eq_true.mpr fun c hc => isKept_of_isPlain (List.all_eq_true.mp hplain c hc)
  | @address pieces => exact kept_bracketed pieces

private theorem toList_bracketed (pieces : List Nat) :
    ("[" ++ ipv6Text pieces ++ "]").toList = '[' :: ((ipv6Text pieces).toList ++ [']']) := by
  simp only [String.toList_append]
  rfl

/-- The host that is shown is what has been written just if that is verbatim. It is enough that the
authority is read as it is written where it has none but characters that are kept. -/
theorem shown_eq_iff {written authority host : List Char} {shown : String}
    (hread : written.all isKept = true → authority = written) (hstands : StandsIn host authority)
    (hshows : ShowsHost host shown) : shown.toList = written ↔ IsVerbatim written := by
  have hbracket : ∀ pieces, ']' ∉ (ipv6Text pieces).toList :=
    not_mem_ipv6Text (by decide) (by decide)
  have hsign : ∀ pieces, '@' ∉ '[' :: ((ipv6Text pieces).toList ++ [']']) := by
    intro pieces hmem
    rw [List.mem_cons, List.mem_append, List.mem_singleton] at hmem
    rcases hmem with heq | hinner | heq
    · exact absurd heq (by decide)
    · exact not_mem_ipv6Text (by decide) (by decide) pieces hinner
    · exact absurd heq (by decide)
  constructor
  · rintro rfl
    cases hshows with
    | plain hallowed => exact .plain (List.all_eq_true.mpr (plain_percentEncode hallowed))
    | @address inner pieces hpieces =>
      rw [toList_bracketed] at hread ⊢
      obtain rfl := hread (kept_bracketed pieces)
      obtain ⟨after, heq, -⟩ := hstands.eq_append (hsign pieces)
      rw [List.cons_append, List.append_assoc] at heq
      obtain ⟨rfl, -⟩ := bracket_eq (List.cons.inj heq).2.symm (hbracket pieces)
      exact .address hpieces
  · intro hverbatim
    obtain rfl := hread hverbatim.kept
    cases hverbatim with
    | plain hplain =>
      obtain rfl := hstands.eq_of_plain hplain
      cases hshows with
      | plain => rw [percentEncode_of_plain hplain, String.toList_ofList]
      | address => exact absurd List.mem_cons_self (not_mem_of_plain hplain (by decide))
    | @address pieces hpieces =>
      obtain ⟨after, heq, hafter⟩ := hstands.eq_append (hsign pieces)
      cases hshows with
      | plain hallowed =>
        cases host with
        | nil =>
          rw [List.nil_append] at heq
          subst heq
          simp at hafter
        | cons c rest =>
          obtain ⟨rfl, -⟩ := List.cons.inj heq
          simp [isForbiddenInHost] at hallowed
      | @address inner found hfound =>
        rw [List.cons_append, List.append_assoc] at heq
        obtain ⟨rfl, -⟩ := bracket_eq (List.cons.inj heq).2.symm (hbracket pieces)
        obtain rfl := Option.some.inj (hpieces.symm.trans hfound)
        exact toList_bracketed pieces

/-! ## The host of a URL -/

private theorem dropWhile_append_cons {p : Char → Bool} {c : Char} (hc : p c = false)
    (left right : List Char) :
    (left ++ c :: right).dropWhile p = left.dropWhile p ++ c :: right := by
  induction left with
  | nil => exact List.dropWhile_cons_of_neg (Bool.eq_false_iff.mp hc)
  | cons d left ih =>
    rw [List.cons_append, List.dropWhile_cons, List.dropWhile_cons]
    split
    · exact ih
    · rfl

/-- Text without tabs and line ends. -/
def unbroken (text : List Char) : List Char :=
  text.filter fun c => c ≠ '\t' && c ≠ '\n' && c ≠ '\r'

private theorem unbroken_append (left right : List Char) :
    unbroken (left ++ right) = unbroken left ++ unbroken right :=
  List.filter_append _ _

private theorem unbroken_of_visible {text : List Char} (h : ∀ c ∈ text, 0x20 < c.toNat) :
    unbroken text = text := by
  refine List.filter_eq_self.mpr fun c hc => ?_
  have hne : ∀ d : Char, d.toNat ≤ 0x20 → c ≠ d := by
    rintro d hd rfl
    exact absurd (h _ hc) (Nat.not_lt.mpr hd)
  simp only [hne '\t' (by decide), hne '\n' (by decide), hne '\r' (by decide), ne_eq,
    not_false_eq_true, decide_true, Bool.and_self]

private theorem unbroken_cons {c : Char} (hc : 0x20 < c.toNat) (text : List Char) :
    unbroken (c :: text) = c :: unbroken text := by
  rw [← List.singleton_append, unbroken_append,
    unbroken_of_visible (List.forall_mem_singleton.mpr hc)]
  rfl

/-- What is left of the end of a text when it is read as a URL. -/
def cleanEnd (text : List Char) : List Char :=
  unbroken (text.reverse.dropWhile (·.toNat ≤ 0x20)).reverse

private theorem cleanEnd_append_cons {c : Char} (hc : 0x20 < c.toNat) {left : List Char}
    (hleft : ∀ d ∈ left, 0x20 < d.toNat) (right : List Char) :
    cleanEnd (left ++ c :: right) = left ++ c :: cleanEnd right := by
  have hdrop : decide (c.toNat ≤ 0x20) = false := decide_eq_false (Nat.not_le.mpr hc)
  unfold cleanEnd
  rw [List.reverse_append, List.reverse_cons, List.append_assoc, List.singleton_append,
    dropWhile_append_cons hdrop, List.reverse_append, List.reverse_cons, List.reverse_reverse,
    List.append_assoc, List.singleton_append, unbroken_append, unbroken_of_visible hleft,
    unbroken_cons hc]

private theorem cleanEnd_of_visible {text : List Char} (h : ∀ c ∈ text, 0x20 < c.toNat) :
    cleanEnd text = text := by
  have hdrop : text.reverse.dropWhile (·.toNat ≤ 0x20) = text.reverse := by
    refine List.dropWhile_eq_self_iff.mpr fun hlength => ?_
    rw [decide_eq_true_eq]
    exact Nat.not_le.mpr (h _ (List.mem_reverse.mp (List.get_mem text.reverse ⟨0, hlength⟩)))
  rw [cleanEnd, hdrop, List.reverse_reverse, unbroken_of_visible h]

theorem clean_append_cons {c : Char} (hc : 0x20 < c.toNat) (left right : List Char) :
    ∃ kept, kept ⊆ left ∧ clean (left ++ c :: right) = kept ++ c :: cleanEnd right := by
  have hdrop : decide (c.toNat ≤ 0x20) = false := decide_eq_false (Nat.not_le.mpr hc)
  refine ⟨unbroken (left.dropWhile (·.toNat ≤ 0x20)), ?_, ?_⟩
  · exact (List.filter_sublist.trans (List.dropWhile_sublist _)).subset
  · show unbroken (Text.trimBy _ _) = _
    unfold Text.trimBy cleanEnd
    rw [dropWhile_append_cons hdrop, List.reverse_append, List.reverse_cons, List.append_assoc,
      List.singleton_append, dropWhile_append_cons hdrop, List.reverse_append, List.reverse_cons,
      List.reverse_reverse, List.append_assoc, List.singleton_append, unbroken_append,
      unbroken_cons hc]

private theorem eq_of_takeScheme? {left right rest : List Char} {name : String}
    (hleft : ':' ∉ left) (h : takeScheme? (left ++ ':' :: right) = some (name, rest)) :
    rest = right := by
  unfold takeScheme? at h
  simp only [Text.cutAt_append hleft, Option.bind_eq_bind, Option.bind_some] at h
  obtain ⟨first, -, htaken⟩ := Option.bind_eq_some_iff.mp h
  split at htaken
  · exact (Prod.mk.inj (Option.some.inj htaken)).2.symm
  · cases htaken

private theorem takeWhile_cleanEnd {written query : List Char} (hkept : written.all isKept = true)
    (hquery : query = [] ∨ query.head? = some '?') :
    (cleanEnd (written ++ query)).takeWhile (!endsAuthority .other ·) = written := by
  have hchars : ∀ c ∈ written, 0x20 < c.toNat ∧ (!endsAuthority .other c) = true := by
    intro c hc
    have hc := List.all_eq_true.mp hkept c hc
    rwa [isKept, Bool.and_eq_true, decide_eq_true_eq] at hc
  have hvisible : ∀ c ∈ written, 0x20 < c.toNat := fun c hc => (hchars c hc).1
  cases query with
  | nil =>
    rw [List.append_nil, cleanEnd_of_visible hvisible]
    exact List.takeWhile_eq_self_iff.mpr fun c hc => (hchars c hc).2
  | cons c query =>
    obtain rfl : c = '?' := by simpa using hquery
    rw [cleanEnd_append_cons (by decide) hvisible,
      List.takeWhile_append_of_pos fun c hc => (hchars c hc).2,
      List.takeWhile_cons_of_neg (by decide), List.append_nil]

/-- The host of a URL whose scheme is not special is the text from the slashes to the query just if
that is verbatim. -/
theorem host_eq_iff {scheme written query : List Char} {u : Url} (hscheme : ':' ∉ scheme)
    (hquery : query = [] ∨ query.head? = some '?') (hkind : schemeKind u.scheme = .other)
    (h : parse (String.ofList (scheme ++ "://".toList ++ written ++ query)) = .ok u) :
    u.host.toList = written ↔ IsVerbatim written := by
  have hword : scheme ++ "://".toList ++ written ++ query =
      scheme ++ ':' :: '/' :: '/' :: (written ++ query) := by
    simp only [List.append_assoc]
    rfl
  obtain ⟨kept, hsubset, hclean⟩ := clean_append_cons (c := ':') (by decide) scheme
    ('/' :: '/' :: (written ++ query))
  have hvisible : ∀ c ∈ ['/'], 0x20 < c.toNat := List.forall_mem_singleton.mpr (by decide)
  have hslashes : cleanEnd ('/' :: '/' :: (written ++ query)) =
      '/' :: '/' :: cleanEnd (written ++ query) :=
    cleanEnd_append_cons (c := '/') (by decide) hvisible _
  have hinput : clean (String.ofList (scheme ++ "://".toList ++ written ++ query)).toList =
      kept ++ ':' :: '/' :: '/' :: cleanEnd (written ++ query) := by
    rw [String.toList_ofList, hword, hclean, hslashes]
  obtain ⟨rest, htaken⟩ := takeScheme?_of_parse h
  obtain rfl : rest = '/' :: '/' :: cleanEnd (written ++ query) :=
    eq_of_takeScheme? (fun hmem => hscheme (hsubset hmem)) (hinput ▸ htaken)
  obtain ⟨-, host, hstands, hshows⟩ := host_of_parse htaken hkind h
  exact shown_eq_iff (fun hkept => takeWhile_cleanEnd hkept hquery) hstands hshows

end Url

end BlobStore
