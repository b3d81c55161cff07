import BlobStore.Proofs.Text.Cut
import BlobStore.Target

/-!
# How the URL of a target is written

A target is read as a URL just if it is written as a scheme, a bucket, perhaps a slash and a key, and
perhaps a question mark and a query. There is one way at most to take it apart like that, and the
target can be put together again from the URL of the bucket and the key.
-/

namespace BlobStore

namespace Text

/-- A part of a text that is left out together with the sign in front of it. -/
def led (sign : Char) (part : Option (List Char)) : List Char := (part.map (sign :: ·)).getD []

@[simp] theorem led_none (sign : Char) : led sign none = [] := rfl

@[simp] theorem led_some (sign : Char) (part : List Char) : led sign (some part) = sign :: part := rfl

private theorem cutAt_append_led {sign : Char} {left : List Char} (h : sign ∉ left)
    (part : Option (List Char)) : cutAt sign (left ++ led sign part) = part.map (left, ·) := by
  cases part with
  | none =>
    rw [led_none, List.append_nil]
    exact cutAt_eq_none.mpr h
  | some part => exact cutAt_append h

theorem exists_led (sign : Char) (text : List Char) :
    ∃ left part, text = left ++ led sign part ∧ sign ∉ left := by
  cases hcut : cutAt sign text with
  | none => exact ⟨text, none, (List.append_nil text).symm, cutAt_eq_none.mp hcut⟩
  | some cut =>
    obtain ⟨left, part⟩ := cut
    obtain ⟨rfl, hleft⟩ := eq_of_cutAt hcut
    exact ⟨left, some part, rfl, hleft⟩

private theorem append_led_inj {sign : Char} {left left' : List Char}
    {part part' : Option (List Char)} (h : sign ∉ left) (h' : sign ∉ left')
    (heq : left ++ led sign part = left' ++ led sign part') :
    left = left' ∧ part = part' := by
  have hcut := congrArg (cutAt sign) heq
  rw [cutAt_append_led h, cutAt_append_led h'] at hcut
  cases part with
  | none =>
    cases part' with
    | none => exact ⟨by simpa using heq, rfl⟩
    | some part' => cases hcut
  | some part =>
    cases part' with
    | none => cases hcut
    | some part' =>
      obtain ⟨rfl, rfl⟩ := Prod.mk.inj (Option.some.inj hcut)
      exact ⟨rfl, rfl⟩

end Text

namespace Target

/-- The text behind the scheme: a bucket, a key behind a slash and a query behind a question mark. -/
structure Parts (text bucket : List Char) (key query : Option (List Char)) : Prop where
  eq : text = bucket ++ Text.led '/' key ++ Text.led '?' query
  slash : '/' ∉ bucket
  mark : '?' ∉ bucket
  key_mark : ∀ k ∈ key, '?' ∉ k

/-- The target is written as the URL of a bucket, perhaps with a key. -/
structure Spells (path : String) (scheme bucket : List Char) (key query : Option (List Char)) :
    Prop where
  eq : path.toList = scheme ++ "://".toList ++
    (bucket ++ Text.led '/' key ++ Text.led '?' query)
  scheme : ¬"://".toList <:+: scheme
  named : bucket ≠ []
  slash : '/' ∉ bucket
  mark : '?' ∉ bucket
  key_mark : ∀ k ∈ key, '?' ∉ k

/-- The URL of the bucket, without the key. -/
def bucketUrl (scheme bucket : List Char) (query : Option (List Char)) : String :=
  String.ofList (scheme ++ "://".toList ++ bucket ++ (query.map ('?' :: ·)).getD [])

variable {path : String} {scheme bucket text rest : List Char} {key query : Option (List Char)}

/-! ## The parts behind the scheme -/

private theorem Parts.not_mem_location (h : Parts text bucket key query) :
    '?' ∉ bucket ++ Text.led '/' key := by
  intro hmem
  rcases List.mem_append.mp hmem with hbucket | hkey
  · exact h.mark hbucket
  · cases key with
    | none => exact absurd hkey List.not_mem_nil
    | some k =>
      rw [Text.led_some, List.mem_cons] at hkey
      exact h.key_mark k rfl (hkey.resolve_left (by decide))

theorem exists_parts (text : List Char) : ∃ bucket key query, Parts text bucket key query := by
  obtain ⟨location, query, rfl, hmark⟩ := Text.exists_led '?' text
  obtain ⟨bucket, key, rfl, hslash⟩ := Text.exists_led '/' location
  rw [List.mem_append, not_or] at hmark
  refine ⟨bucket, key, query, rfl, hslash, hmark.1, ?_⟩
  rintro k rfl hk
  exact hmark.2 (List.mem_cons_of_mem '/' hk)

theorem Parts.unique {bucket' : List Char} {key' query' : Option (List Char)}
    (h : Parts text bucket key query) (h' : Parts text bucket' key' query') :
    bucket = bucket' ∧ key = key' ∧ query = query' := by
  obtain ⟨hlocation, rfl⟩ :=
    Text.append_led_inj h.not_mem_location h'.not_mem_location (h.eq.symm.trans h'.eq)
  obtain ⟨rfl, rfl⟩ := Text.append_led_inj h.slash h'.slash hlocation
  exact ⟨rfl, rfl, rfl⟩

theorem Parts.bucket_eq_nil_iff (h : Parts text bucket key query) :
    bucket = [] ↔ text = [] ∨ text.head? = some '/' ∨ text.head? = some '?' := by
  rw [h.eq]
  constructor
  · rintro rfl
    cases key with
    | some k => exact .inr (.inl rfl)
    | none =>
      cases query with
      | none => exact .inl rfl
      | some q => exact .inr (.inr rfl)
  · intro hhead
    cases bucket with
    | nil => rfl
    | cons c bucket =>
      rcases hhead with hnil | hslash | hmark
      · cases hnil
      · exact absurd (Option.some.inj hslash ▸ List.mem_cons_self) h.slash
      · exact absurd (Option.some.inj hmark ▸ List.mem_cons_self) h.mark

theorem parseUrl_of_parts (h : Parts text bucket key query) (path : String) (scheme : List Char) :
    parseUrl path scheme text =
      if bucket = [] then .error (.invalidArgument (.noBucket path))
      else match Url.parse (bucketUrl scheme bucket query) with
        | .error e => .error (.invalidUrl e)
        | .ok _ => .ok (.url (bucketUrl scheme bucket query) (String.ofList (key.getD []))) := by
  have hquery := Text.cutAt_append_led h.not_mem_location query
  have hkey : (Text.cutAt '/' (bucket ++ Text.led '/' key)).getD (bucket ++ Text.led '/' key, []) =
      (bucket, key.getD []) := by
    rw [Text.cutAt_append_led h.slash]
    cases key with
    | none => rw [Text.led_none, List.append_nil]; rfl
    | some k => rfl
  rw [← h.eq] at hquery
  unfold parseUrl
  rw [hquery]
  cases query with
  | none =>
    have htext : text = bucket ++ Text.led '/' key := by
      rw [h.eq, Text.led_none, List.append_nil]
    simp only [Option.map_none, htext, hkey, List.isEmpty_iff]
    rfl
  | some q =>
    simp only [Option.map_some, hkey, List.isEmpty_iff]
    rfl

/-! ## The whole target -/

theorem firstAt_marker {scheme rest : List Char} :
    Text.FirstAt "://".toList (scheme ++ "://".toList ++ rest) scheme rest ↔
      ¬"://".toList <:+: scheme :=
  Text.firstAt_append_iff (by decide)

/-- What stands behind the first `://` decides. -/
theorem parse_of_firstAt (h : Text.FirstAt "://".toList path.toList scheme rest) :
    parse path = parseUrl path scheme rest := by
  have hne : path.isEmpty = false := by
    rw [Bool.eq_false_iff, ne_eq, String.isEmpty_iff]
    rintro rfl
    have hnil := congrArg List.length h.eq
    simp at hnil
  unfold parse
  rw [if_neg (by rw [hne]; exact Bool.false_ne_true), Text.cutAtWord_eq_some.mpr h]

theorem Spells.parts (h : Spells path scheme bucket key query) :
    Parts (bucket ++ Text.led '/' key ++ Text.led '?' query) bucket key query :=
  ⟨rfl, h.slash, h.mark, h.key_mark⟩

private theorem Spells.firstAt (h : Spells path scheme bucket key query) :
    Text.FirstAt "://".toList path.toList scheme
      (bucket ++ Text.led '/' key ++ Text.led '?' query) := by
  rw [h.eq]
  exact firstAt_marker.mpr h.scheme

/-- A target can be taken apart in one way only. -/
theorem Spells.unique {scheme' bucket' : List Char} {key' query' : Option (List Char)}
    (h : Spells path scheme bucket key query) (h' : Spells path scheme' bucket' key' query') :
    scheme = scheme' ∧ bucket = bucket' ∧ key = key' ∧ query = query' := by
  obtain ⟨hscheme, hrest⟩ := h.firstAt.unique h'.firstAt
  exact ⟨hscheme, h.parts.unique (hrest ▸ h'.parts)⟩

private theorem Spells.parse_eq (h : Spells path scheme bucket key query) :
    parse path = match Url.parse (bucketUrl scheme bucket query) with
      | .error e => .error (.invalidUrl e)
      | .ok _ => .ok (.url (bucketUrl scheme bucket query) (String.ofList (key.getD []))) := by
  rw [parse_of_firstAt h.firstAt, parseUrl_of_parts h.parts, if_neg h.named]

theorem exists_spells {location name : String} (h : parse path = .ok (.url location name)) :
    ∃ scheme bucket key query, Spells path scheme bucket key query := by
  cases hcut : Text.cutAtWord "://".toList path.toList with
  | none =>
    -- Without `://` the path is an alias or an error.
    unfold parse parseAlias at h
    rw [hcut] at h
    split at h
    · cases h
    · dsimp only at h
      split at h
      · cases h
      · cases h
  | some cut =>
    obtain ⟨scheme, rest⟩ := cut
    have hfirst := Text.firstAt_of_cutAtWord hcut
    obtain ⟨bucket, key, query, hparts⟩ := exists_parts rest
    have hnamed : bucket ≠ [] := by
      rintro rfl
      rw [parse_of_firstAt hfirst, parseUrl_of_parts hparts, if_pos rfl] at h
      cases h
    have hscheme : ¬"://".toList <:+: scheme := by
      apply firstAt_marker.mp
      rw [← hfirst.eq]
      exact hfirst
    refine ⟨scheme, bucket, key, query, ?_, hscheme, hnamed, hparts.slash, hparts.mark,
      hparts.key_mark⟩
    rw [hfirst.eq, hparts.eq]

private theorem Spells.parse_eq_url_iff (h : Spells path scheme bucket key query)
    {location name : String} :
    parse path = .ok (.url location name) ↔
      location = bucketUrl scheme bucket query ∧ name = String.ofList (key.getD []) ∧
        ∃ url, Url.parse location = .ok url := by
  rw [h.parse_eq]
  constructor
  · intro hparse
    split at hparse
    · cases hparse
    · rename_i url hurl
      cases hparse
      exact ⟨rfl, rfl, url, hurl⟩
  · rintro ⟨rfl, rfl, url, hurl⟩
    rw [hurl]

private theorem Spells.eq_of_bucketUrl {path' : String} {scheme' bucket' : List Char}
    {key' query' : Option (List Char)} (h : Spells path scheme bucket key query)
    (h' : Spells path' scheme' bucket' key' query')
    (heq : bucketUrl scheme bucket query = bucketUrl scheme' bucket' query') :
    scheme = scheme' ∧ bucket = bucket' ∧ query = query' := by
  have htext : ∀ scheme bucket query, (bucketUrl scheme bucket query).toList =
      scheme ++ "://".toList ++ (bucket ++ Text.led '?' query) := by
    intro scheme bucket query
    rw [bucketUrl, String.toList_ofList, List.append_assoc]
    rfl
  have hfirst : Text.FirstAt "://".toList (bucketUrl scheme bucket query).toList scheme
      (bucket ++ Text.led '?' query) := by
    rw [htext]
    exact firstAt_marker.mpr h.scheme
  have hfirst' : Text.FirstAt "://".toList (bucketUrl scheme bucket query).toList scheme'
      (bucket' ++ Text.led '?' query') := by
    rw [heq, htext]
    exact firstAt_marker.mpr h'.scheme
  obtain ⟨hscheme, hrest⟩ := hfirst.unique hfirst'
  exact ⟨hscheme, Text.append_led_inj h.mark h'.mark hrest⟩

/-- A target is read as a URL just if it is written as one and the URL of its bucket is valid, and it
is written so in one way only. Two targets that are read as the same URL of a bucket and the same key
that is not empty are the same text. -/
theorem parse_eq_url_iff_spells :
    (∀ path location name, parse path = .ok (.url location name) ↔
      ∃ scheme bucket key query, Spells path scheme bucket key query ∧
        location = bucketUrl scheme bucket query ∧ name = String.ofList (key.getD []) ∧
        ∃ url, Url.parse location = .ok url) ∧
    (∀ path scheme bucket key query scheme' bucket' key' query',
      Spells path scheme bucket key query → Spells path scheme' bucket' key' query' →
        scheme = scheme' ∧ bucket = bucket' ∧ key = key' ∧ query = query') ∧
    ∀ path path' location name, parse path = .ok (.url location name) →
      parse path' = .ok (.url location name) → name ≠ "" → path = path' := by
  refine ⟨?_, ?_, ?_⟩
  · intro path location name
    constructor
    · intro h
      obtain ⟨scheme, bucket, key, query, hspells⟩ := exists_spells h
      exact ⟨scheme, bucket, key, query, hspells, hspells.parse_eq_url_iff.mp h⟩
    · rintro ⟨scheme, bucket, key, query, hspells, hread⟩
      exact hspells.parse_eq_url_iff.mpr hread
  · intro path scheme bucket key query scheme' bucket' key' query' h h'
    exact h.unique h'
  · intro path path' location name h h' hname
    obtain ⟨scheme, bucket, key, query, hspells⟩ := exists_spells h
    obtain ⟨scheme', bucket', key', query', hspells'⟩ := exists_spells h'
    obtain ⟨hlocation, hkey, -⟩ := hspells.parse_eq_url_iff.mp h
    obtain ⟨hlocation', hkey', -⟩ := hspells'.parse_eq_url_iff.mp h'
    obtain ⟨rfl, rfl, rfl⟩ := hspells.eq_of_bucketUrl hspells' (hlocation.symm.trans hlocation')
    -- A key that is not empty has a slash in front of it in both.
    have hsome : ∀ {key : Option (List Char)}, name = String.ofList (key.getD []) →
        key = some name.toList := by
      rintro (_ | k) hk
      · exact absurd hk hname
      · rw [hk, String.toList_ofList]
        rfl
    rw [← String.toList_inj, hspells.eq, hspells'.eq, hsome hkey, hsome hkey']

/-- The first `://`, the first question mark behind it and the first slash between them count. -/
theorem parse_eq_url_iff_spells_repeated :
    let path := "s3://b/a://c#d?q/://e?f"
    Spells path "s3".toList "b".toList (some "a://c#d".toList) (some "q/://e?f".toList) ∧
      parse path = .ok (.url "s3://b?q/://e?f" "a://c#d") ∧
      ∀ path', parse path' = .ok (.url "s3://b?q/://e?f" "a://c#d") → path' = path := by
  intro path
  obtain ⟨hread, -, hsame⟩ := parse_eq_url_iff_spells
  have hspells : Spells path "s3".toList "b".toList (some "a://c#d".toList)
      (some "q/://e?f".toList) :=
    { eq := by decide +kernel
      scheme := by decide +kernel
      named := by decide +kernel
      slash := by decide +kernel
      mark := by decide +kernel
      key_mark := by
        intro k hk
        obtain rfl := Option.mem_some_iff.mp hk
        decide +kernel }
  have hurl : ∃ url, Url.parse "s3://b?q/://e?f" = .ok url :=
    ⟨⟨"s3", some ⟨"", "b", none⟩, "", some "q/://e?f", none⟩, by decide +kernel⟩
  have hparse : parse path = .ok (.url "s3://b?q/://e?f" "a://c#d") :=
    (hread _ _ _).mpr ⟨_, _, _, _, hspells, by decide +kernel, by decide +kernel, hurl⟩
  refine ⟨hspells, hparse, ?_⟩
  intro path' hparse'
  exact hsame _ _ _ _ hparse' hparse (by decide +kernel)

end Target

end BlobStore
