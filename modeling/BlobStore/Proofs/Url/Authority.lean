import BlobStore.Url.Parser

/-!
# The host of a scheme that is not special

Where the host of a URL stands in its text, and how it is shown.
-/

namespace BlobStore

namespace Url

/-- How a host is shown under a scheme that is not special. -/
inductive ShowsHost : List Char → String → Prop
  | plain {host : List Char} :
      host.any isForbiddenInHost = false →
      ShowsHost host (percentEncode .controls (String.ofList host))
  | address {inner : List Char} {pieces : List Nat} :
      readIpv6? inner = some pieces →
      ShowsHost ('[' :: (inner ++ [']'])) ("[" ++ ipv6Text pieces ++ "]")

/-- The host stands in the authority between the credentials and the colon of the port. -/
def StandsIn (host authority : List Char) : Prop :=
  ∃ before after, authority = before ++ (host ++ after) ∧ (before = [] ∨ '@' ∈ before) ∧
    (after = [] ∨ after.head? = some ':')

private theorem showsHost_of_bracketed {host : List Char} {shown : String}
    (hhead : host.head? = some '[') (h : bracketedHost host = .ok shown) :
    ShowsHost host shown := by
  unfold bracketedHost at h
  split at h
  · rename_i hlast
    split at h
    · rename_i pieces hpieces
      obtain rfl := Except.ok.inj h
      obtain ⟨rest, rfl⟩ := List.head?_eq_some_iff.mp hhead
      have hrest : rest ≠ [] := by
        rintro rfl
        simp at hlast
      rw [List.getLast?_cons, List.getLast?_eq_some_getLast hrest, Option.getD_some] at hlast
      have hwhole : rest = rest.dropLast ++ [']'] := by
        rw [← Option.some.inj hlast, List.dropLast_concat_getLast]
      rw [hwhole]
      exact .address hpieces
    · cases h
  · cases h

private theorem showsHost_of_other {host : List Char} {shown : String}
    (h : otherHost host = .ok shown) : ShowsHost host shown := by
  unfold otherHost at h
  split at h
  · rename_i hhead
    exact showsHost_of_bracketed hhead h
  · split at h
    · cases h
    · rename_i hany
      obtain rfl := Except.ok.inj h
      exact .plain (Bool.eq_false_iff.mpr hany)

private theorem splitHost_eq {bracketed : Bool} {text host after : List Char}
    (h : splitHost bracketed text = (host, after)) :
    text = host ++ after ∧ (after = [] ∨ after.head? = some ':') := by
  induction text generalizing bracketed host with
  | nil =>
    obtain ⟨rfl, rfl⟩ := Prod.mk.inj h
    exact ⟨rfl, .inl rfl⟩
  | cons c rest ih =>
    unfold splitHost at h
    split at h
    · rename_i hcolon
      obtain ⟨rfl, rfl⟩ := Prod.mk.inj h
      rw [Bool.and_eq_true, decide_eq_true_eq] at hcolon
      exact ⟨rfl, .inr (congrArg some hcolon.1)⟩
    · obtain ⟨rfl, rfl⟩ := Prod.mk.inj h
      obtain ⟨hrest, hafter⟩ := ih rfl
      exact ⟨congrArg (c :: ·) hrest, hafter⟩

private theorem cutLastAt_eq {text credentials rest : List Char}
    (h : (cutLastAt text).getD ([], text) = (credentials, rest)) :
    ∃ before, text = before ++ rest ∧ (before = [] ∨ '@' ∈ before) := by
  unfold cutLastAt at h
  cases hcut : Text.cutAt '@' text.reverse with
  | none =>
    rw [hcut] at h
    obtain ⟨-, rfl⟩ := Prod.mk.inj h
    exact ⟨[], rfl, .inl rfl⟩
  | some cut =>
    rw [hcut] at h
    obtain ⟨-, rfl⟩ := Prod.mk.inj h
    have htext := congrArg List.reverse (Text.eq_of_cutAt hcut).1
    rw [List.reverse_reverse, List.reverse_append, List.reverse_cons] at htext
    exact ⟨_, htext, .inr (by simp)⟩

private theorem host_of_readAuthority {scheme : String} {text rest : List Char} {isLast : Bool}
    {a : Authority} (h : readAuthority scheme .other text isLast = .ok (a, rest)) :
    ∃ host, StandsIn host text ∧ ShowsHost host a.host := by
  unfold readAuthority at h
  generalize hcut : (cutLastAt text).getD ([], text) = cut at h
  obtain ⟨credentials, hostAndPort⟩ := cut
  obtain ⟨before, rfl, hbefore⟩ := cutLastAt_eq hcut
  generalize hsplit : splitHost false hostAndPort = split at h
  obtain ⟨host, after⟩ := split
  obtain ⟨rfl, hafter⟩ := splitHost_eq hsplit
  simp only [bind, Except.bind, pure, Except.pure, throw, throwThe, MonadExceptOf.throw, hsplit,
    reduceCtorEq, decide_false, Bool.false_and, Bool.false_eq_true, if_false, if_true] at h
  have hshown : otherHost host = .ok a.host := by
    repeat' split at h
    all_goals cases h
    all_goals assumption
  exact ⟨host, ⟨before, after, rfl, hbefore, hafter⟩, showsHost_of_other hshown⟩

private theorem host_of_readHierarchy {scheme : String} {text : List Char} {isLast : Bool}
    {authority : Option Authority} {path : String} (hkind : schemeKind scheme = .other)
    (h : readHierarchy scheme ('/' :: '/' :: text) isLast = .ok (authority, path)) :
    ∃ host a, authority = some a ∧ StandsIn host (text.takeWhile (!endsAuthority .other ·)) ∧
      ShowsHost host a.host := by
  have hslashes : ['/', '/'].isPrefixOf? ('/' :: '/' :: text) = some text := rfl
  unfold readHierarchy at h
  simp only [hkind, hslashes, bind, Except.bind, pure, Except.pure] at h
  split at h
  · cases h
  · rename_i found hread
    obtain ⟨rfl, -⟩ := Prod.mk.inj (Except.ok.inj h)
    obtain ⟨host, hstands, hshows⟩ := host_of_readAuthority hread
    exact ⟨host, found.1, rfl, hstands, hshows⟩

private theorem takeWhile_of_cutAt {c : Char} {text left right : List Char} {keep : Char → Bool}
    (h : Text.cutAt c text = some (left, right)) (hc : keep c = false) :
    left.takeWhile keep = text.takeWhile keep := by
  obtain ⟨rfl, -⟩ := Text.eq_of_cutAt h
  rw [List.takeWhile_append]
  split
  · rename_i hall
    rw [List.takeWhile_cons_of_neg (by rw [hc]; exact Bool.false_ne_true), List.append_nil]
    exact (List.takeWhile_sublist keep).eq_of_length hall
  · rfl

/-- What is cut off at a character that ends the authority does not change the authority. -/
private theorem exists_cutOff_slashes {c : Char} (hc : c ≠ '/') (keep : Char → Bool)
    (hkeep : keep c = false) (set : EncodeSet) (text : List Char) :
    ∃ stem cut, cutOff c set ('/' :: '/' :: text) = ('/' :: '/' :: stem, cut) ∧
      stem.takeWhile keep = text.takeWhile keep := by
  have hslashes : Text.cutAt c ('/' :: '/' :: text) =
      (Text.cutAt c text).map fun p => ('/' :: '/' :: p.1, p.2) := by
    simp only [Text.cutAt, hc.symm, if_false, Option.map_map]
    rfl
  unfold cutOff
  rw [hslashes]
  cases hcut : Text.cutAt c text with
  | none => exact ⟨text, none, rfl, rfl⟩
  | some cut => exact ⟨cut.1, some (encode set cut.2), rfl, takeWhile_of_cutAt hcut hkeep⟩

theorem host_of_parse {input scheme : String} {text : List Char} {u : Url}
    (hscheme : takeScheme? (clean input.toList) = some (scheme, '/' :: '/' :: text))
    (hkind : schemeKind scheme = .other) (h : parse input = .ok u) :
    u.scheme = scheme ∧ ∃ host, StandsIn host (text.takeWhile (!endsAuthority .other ·)) ∧
      ShowsHost host u.host := by
  unfold parse at h
  simp only [hscheme, bind, Except.bind, pure, Except.pure] at h
  obtain ⟨stem, fragment, hfragment, hstem⟩ := exists_cutOff_slashes (c := '#') (by decide)
    (!endsAuthority .other ·) rfl .fragment text
  simp only [hfragment] at h
  obtain ⟨front, query, hquery, hfront⟩ := exists_cutOff_slashes (c := '?') (by decide)
    (!endsAuthority .other ·) rfl
    (if (schemeKind scheme).isSpecial then .specialQuery else .query) stem
  simp only [hquery] at h
  split at h
  · cases h
  · rename_i found hread
    obtain ⟨authority, path⟩ := found
    obtain rfl := Except.ok.inj h
    obtain ⟨host, a, rfl, hstands, hshows⟩ := host_of_readHierarchy hkind hread
    rw [hfront, hstem] at hstands
    exact ⟨rfl, host, hstands, hshows⟩

theorem takeScheme?_of_parse {input : String} {u : Url} (h : parse input = .ok u) :
    ∃ rest, takeScheme? (clean input.toList) = some (u.scheme, rest) := by
  unfold parse at h
  cases hscheme : takeScheme? (clean input.toList) with
  | none =>
    simp only [hscheme] at h
    cases h
  | some taken =>
    obtain ⟨scheme, rest⟩ := taken
    simp only [hscheme, bind, Except.bind, pure, Except.pure] at h
    split at h
    · cases h
    · obtain rfl := Except.ok.inj h
      exact ⟨rest, rfl⟩

end Url

end BlobStore
