import BlobStore.Cli.Desk
import BlobStore.Proofs.Config.Aliases
import BlobStore.Proofs.Target.Spelling
import BlobStore.Proofs.Url.Hosts

/-!
# Targets that name an alias

A path leads to an alias if its first segment is a name of letters, digits, underscores, hyphens and
dots. Fewer names than can be stored are of this kind: storing one asks for no more than that it is
there and has no slash. What follows the slash is the key, unless it holds `://`: then the whole path
is taken for a URL, and is refused.
-/

namespace BlobStore

namespace Url

private theorem takeScheme?_of_slash {left : List Char} (hleft : ':' ∉ left) (right : List Char) :
    takeScheme? (left ++ '/' :: right) = none := by
  have hcut : Text.cutAt ':' (left ++ '/' :: right) =
      (Text.cutAt ':' right).map fun p => (left ++ '/' :: p.1, p.2) := by
    rw [Text.cutAt_append_right hleft]
    simp only [Text.cutAt, show ('/' : Char) ≠ ':' by decide, if_false, Option.map_map]
    rfl
  unfold takeScheme?
  rw [hcut]
  cases Text.cutAt ':' right with
  | none => rfl
  | some cut =>
    have hall : ((left ++ '/' :: cut.1).all fun c =>
        c.isAlphanum || c = '+' || c = '-' || c = '.') = false := by
      rw [List.all_eq_false]
      exact ⟨'/', by simp, by decide⟩
    simp only [Option.map_some, Option.bind_eq_bind, Option.bind_some, hall, Bool.and_false]
    cases (left ++ '/' :: cut.1).head? with
    | none => rfl
    | some first => rfl

private theorem parse_of_slash {left : List Char} (hleft : ':' ∉ left) (right : List Char) :
    parse (String.ofList (left ++ '/' :: right)) = .error .relativeWithoutBase := by
  obtain ⟨kept, hsubset, hclean⟩ := clean_append_cons (c := '/') (by decide) left right
  have hnone : takeScheme? (clean (String.ofList (left ++ '/' :: right)).toList) = none := by
    rw [String.toList_ofList, hclean]
    exact takeScheme?_of_slash (fun hmem => hleft (hsubset hmem)) _
  unfold parse
  simp only [hnone]
  rfl

end Url

namespace Target

private theorem isAliasName_iff {name : List Char} :
    isAliasName name = true ↔
      name ≠ [] ∧ ∀ c ∈ name, c.isAlphanum = true ∨ c = '_' ∨ c = '-' ∨ c = '.' := by
  simp [isAliasName, isAliasCharacter, or_assoc]

private theorem not_mem_of_isAliasName {name : List Char} (h : isAliasName name = true) {c : Char}
    (hc : isAliasCharacter c = false) : c ∉ name := by
  intro hmem
  rw [isAliasName, Bool.and_eq_true] at h
  have hall := List.all_eq_true.mp h.2 c hmem
  rw [hc] at hall
  cases hall

private theorem parseUrl_ne_aliased (path : String) (scheme rest : List Char) (name key : String) :
    parseUrl path scheme rest ≠ .ok (.aliased name key) := by
  unfold parseUrl
  rcases Text.cutAt '?' rest with _ | ⟨location, query⟩
  all_goals
    dsimp only
    split
    · exact nofun
    · split <;> exact nofun

private theorem isAliasName_of_parse {path name key : String}
    (h : parse path = .ok (.aliased name key)) :
    isAliasName name.toList = true := by
  unfold parse at h
  split at h
  · cases h
  · split at h
    · -- What holds a colon and two slashes is a URL or an error.
      exact absurd h (parseUrl_ne_aliased _ _ _ _ _)
    · unfold parseAlias at h
      dsimp only at h
      split at h
      · rename_i hname
        cases h
        rw [String.toList_ofList]
        exact hname
      · cases h

section Named

variable {name : String} (hname : isAliasName name.toList = true)

include hname

private theorem parse_of_isAliasName {path : String} {rest : List Char}
    (hpath : path.toList = name.toList ++ rest) (hrest : ¬"://".toList <:+: rest) :
    parse path = parseAlias path path.toList := by
  have hword : "://".toList = ':' :: ['/', '/'] := rfl
  have hnone : Text.cutAtWord "://".toList path.toList = none := by
    rw [Text.cutAtWord_eq_none, hpath, hword]
    intro hinfix
    exact hrest (Text.isInfix_of_append (not_mem_of_isAliasName hname (by decide)) hinfix)
  have hne : path.isEmpty = false := by
    rw [Bool.eq_false_iff, ne_eq, String.isEmpty_iff, ← String.toList_inj, hpath]
    intro hnil
    rw [(List.append_eq_nil_iff.mp hnil).1] at hname
    cases hname
  unfold parse
  rw [if_neg (by rw [hne]; exact Bool.false_ne_true), hnone]

private theorem parse_name : parse name = .ok (.aliased name "") := by
  have hcut : Text.cutAt '/' name.toList = none :=
    Text.cutAt_eq_none.mpr (not_mem_of_isAliasName hname (by decide))
  rw [parse_of_isAliasName hname (List.append_nil _).symm (by decide +kernel), parseAlias, hcut]
  dsimp only [Option.getD_none]
  rw [if_pos hname, String.ofList_toList]

private theorem parse_name_key {key : String} (hkey : ¬"://".toList <:+: key.toList) :
    parse (name ++ "/" ++ key) = .ok (.aliased name key) := by
  have hpath : (name ++ "/" ++ key).toList = name.toList ++ '/' :: key.toList := by
    simp only [String.toList_append, List.append_assoc]
    rfl
  have hcut : Text.cutAt '/' (name.toList ++ '/' :: key.toList) = some (name.toList, key.toList) :=
    Text.cutAt_append (not_mem_of_isAliasName hname (by decide))
  have hslash : ':' ∉ ['/'] := by decide
  have hrest : ¬"://".toList <:+: '/' :: key.toList := by
    intro hinfix
    exact hkey (Text.isInfix_of_append hslash hinfix)
  rw [parse_of_isAliasName hname hpath hrest, parseAlias, hpath, hcut]
  dsimp only [Option.getD_some]
  rw [if_pos hname, String.ofList_toList, String.ofList_toList]

/-- With `://` in the key the path is cut there, and what stands in front is no scheme. -/
theorem parse_name_marker {key : String} {before after : List Char}
    (hkey : Text.FirstAt "://".toList key.toList before after) :
    parse (name ++ "/" ++ key) = .error
      (if after = [] ∨ after.head? = some '/' ∨ after.head? = some '?' then
        .invalidArgument (.noBucket (name ++ "/" ++ key))
      else .invalidUrl .relativeWithoutBase) := by
  have hcolon : ':' ∉ name.toList := not_mem_of_isAliasName hname (by decide)
  have hpath : (name ++ "/" ++ key).toList =
      (name.toList ++ '/' :: before) ++ "://".toList ++ after := by
    rw [String.toList_append, String.toList_append, hkey.eq]
    simp only [List.append_assoc, List.cons_append]
    rfl
  have hfirst : Text.FirstAt "://".toList (name ++ "/" ++ key).toList
      (name.toList ++ '/' :: before) after := by
    rw [hpath, firstAt_marker]
    intro hinfix
    have hslash : ':' ∉ ['/'] := by decide
    have hbefore := Text.isInfix_of_append hslash (Text.isInfix_of_append hcolon hinfix)
    rw [hkey.eq] at hkey
    exact firstAt_marker.mp hkey hbefore
  obtain ⟨bucket, rest, query, hparts⟩ := exists_parts after
  have hbucket : bucket = [] ↔
      after = [] ∨ after.head? = some '/' ∨ after.head? = some '?' := hparts.bucket_eq_nil_iff
  have hurl : Url.parse (bucketUrl (name.toList ++ '/' :: before) bucket query) =
      .error .relativeWithoutBase := by
    rw [bucketUrl, List.append_assoc, List.append_assoc, List.append_assoc, List.cons_append]
    exact Url.parse_of_slash hcolon _
  rw [parse_of_firstAt hfirst, parseUrl_of_parts hparts, hurl]
  by_cases hnil : bucket = []
  · rw [if_pos hnil, if_pos (hbucket.mp hnil)]
  · rw [if_neg hnil, if_neg (mt hbucket.mpr hnil)]

end Named

/-- Below the name of an alias a key is taken as it stands, unless it holds `://`. Such a key is refused:
the path is cut there, and what follows either names no bucket or makes no URL with what stands in
front. -/
theorem parse_below_iff {name : String} (hne : name ≠ "")
    (hchars : ∀ c ∈ name.toList, c.isAlphanum = true ∨ c = '_' ∨ c = '-' ∨ c = '.') (key : String) :
    (parse (name ++ "/" ++ key) = .ok (.aliased name key) ↔ ¬"://".toList <:+: key.toList) ∧
      ∀ before after, Text.FirstAt "://".toList key.toList before after →
        parse (name ++ "/" ++ key) = .error
          (if after = [] ∨ after.head? = some '/' ∨ after.head? = some '?' then
            .invalidArgument (.noBucket (name ++ "/" ++ key))
          else .invalidUrl .relativeWithoutBase) := by
  have hname : isAliasName name.toList = true := by
    rw [isAliasName_iff]
    exact ⟨fun hnil => hne (String.toList_eq_nil_iff.mp hnil), hchars⟩
  refine ⟨⟨?_, parse_name_key hname⟩, ?_⟩
  · intro hparse hinfix
    cases hcut : Text.cutAtWord "://".toList key.toList with
    | none => exact Text.cutAtWord_eq_none.mp hcut hinfix
    | some cut =>
      have herror := parse_name_marker hname (Text.cutAtWord_eq_some.mp hcut)
      rw [hparse] at herror
      cases herror
  · intro before after hfirst
    exact parse_name_marker hname hfirst

/-- Nothing else in a key matters. -/
theorem parse_below_iff_awkward :
    "a.b-c_1" ≠ "" ∧
      (∀ c ∈ "a.b-c_1".toList, c.isAlphanum = true ∨ c = '_' ∨ c = '-' ∨ c = '.') ∧
      parse "a.b-c_1//:/ %2F?x=://#y" = .error (.invalidUrl .relativeWithoutBase) ∧
      parse "a.b-c_1//:/ %2F?x=:/#y" = .ok (.aliased "a.b-c_1" "/:/ %2F?x=:/#y") := by
  have hne : "a.b-c_1" ≠ "" := by decide
  have hname : isAliasName "a.b-c_1".toList = true := by decide +kernel
  obtain ⟨-, hchars⟩ := isAliasName_iff.mp hname
  have hfirst : Text.FirstAt "://".toList "/:/ %2F?x=://#y".toList "/:/ %2F?x=".toList
      "#y".toList := Text.firstAt_of_cutAtWord (by decide +kernel)
  refine ⟨hne, hchars, ?_, ?_⟩
  · exact (parse_below_iff hne hchars "/:/ %2F?x=://#y").2 _ _ hfirst
  · exact (parse_below_iff hne hchars "/:/ %2F?x=:/#y").1.mpr (by decide +kernel)

/-- The key of an object that holds a URL cannot be named below an alias. -/
theorem parse_below_refused :
    isAliasName "logs".toList = true ∧
      parse ("logs" ++ "/" ++ "http://x") = .error (.invalidUrl .relativeWithoutBase) ∧
      ¬∀ key, parse ("logs" ++ "/" ++ key) = .ok (.aliased "logs" key) := by
  have hrefused : parse ("logs" ++ "/" ++ "http://x") = .error (.invalidUrl .relativeWithoutBase) := by
    decide +kernel
  refine ⟨by decide +kernel, hrefused, ?_⟩
  intro h
  have hparse := h "http://x"
  rw [hrefused] at hparse
  cases hparse

private theorem bucketUrl_of_defineAlias {file next : ConfigFile} {a : Alias}
    (h : ConfigFile.defineAlias a file = (.ok (), next)) (key : String) :
    Cli.bucketUrl next (.aliased a.name key) = .ok a.url := by
  have hreply : (file.perform (.define a)).1 = .ok .done := by
    rw [ConfigFile.perform, ConfigFile.change, h]
    rfl
  obtain ⟨hcheck, config, hload⟩ := ConfigFile.load_of_define hreply
  obtain ⟨last, hdefine, hlast⟩ := ConfigFile.defineAlias_of_load hcheck hload
  obtain rfl : next = last := (Prod.mk.inj (h.symm.trans hdefine)).2
  have hearlier : (config.aliases.filter (·.name ≠ a.name)).find? (·.name = a.name) = none := by
    rw [List.find?_eq_none]
    intro b hb hsame
    exact of_decide_eq_true (List.mem_filter.mp hb).2 (of_decide_eq_true hsame)
  have hfind : (config.aliases.filter (·.name ≠ a.name) ++ [a]).find? (·.name = a.name) = some a := by
    rw [List.find?_append, hearlier, Option.none_or, List.find?_singleton]
    exact if_pos (decide_eq_true rfl)
  have hload : next.aliases = .ok (config.aliases.filter (·.name ≠ a.name) ++ [a]) := by
    rw [ConfigFile.aliases, hlast]
    rfl
  have hfound : next.findAlias a.name = .ok a := by
    rw [ConfigFile.findAlias, hload]
    show Alias.find _ a.name = .ok a
    rw [Alias.find, hfind]
  rw [Cli.bucketUrl, hfound]
  rfl

/-- An alias can be used in paths just if its name is of this kind. Then the name alone is a target
with an empty key, the name in front of a slash and a key is a target with that key, and once the
alias has been stored both lead to its URL. That it can be stored does not tell. -/
theorem alias_usable_iff (a : Alias) :
    (parse a.name = .ok (.aliased a.name "") ↔ isAliasName a.name.toList = true) ∧
      (∀ key, ¬"://".toList <:+: key.toList →
        (parse (a.name ++ "/" ++ key) = .ok (.aliased a.name key) ↔
          isAliasName a.name.toList = true)) ∧
      ∀ file next : ConfigFile, ConfigFile.defineAlias a file = (.ok (), next) →
        ∀ key, Cli.bucketUrl next (.aliased a.name key) = .ok a.url := by
  refine ⟨⟨isAliasName_of_parse, parse_name⟩, ?_, ?_⟩
  · intro key hkey
    exact ⟨isAliasName_of_parse, fun hname => parse_name_key hname hkey⟩
  · intro file next hdefine key
    exact bucketUrl_of_defineAlias hdefine key

theorem alias_usable_iff_logs :
    parse "logs/2024/app.log" = .ok (.aliased "logs" "2024/app.log") ∧
      ∃ next, ConfigFile.defineAlias ⟨"logs", "s3://bucket"⟩ .absent = (.ok (), next) ∧
        Cli.bucketUrl next (.aliased "logs" "2024/app.log") = .ok "s3://bucket" := by
  obtain ⟨-, hkeys, hstored⟩ := alias_usable_iff ⟨"logs", "s3://bucket"⟩
  have hcheck : (⟨"logs", "s3://bucket"⟩ : Alias).check = .ok () := by decide +kernel
  have habsent : ConfigFile.absent.load = .ok .standard := rfl
  obtain ⟨next, hdefine, -⟩ := ConfigFile.defineAlias_of_load hcheck habsent
  exact ⟨(hkeys "2024/app.log" (by decide +kernel)).mpr (by decide +kernel), next, hdefine,
    hstored _ next hdefine _⟩

/-- A name with a blank can be stored, and is refused in every path. -/
theorem alias_unusable_blank :
    let a : Alias := ⟨"my logs", "s3://bucket"⟩
    a.check = .ok () ∧ (∃ next, ConfigFile.defineAlias a .absent = (.ok (), next)) ∧
      parse a.name = .error (.invalidArgument (.malformedPath "my logs")) ∧
      parse (a.name ++ "/" ++ "x") = .error (.invalidArgument (.malformedPath "my logs/x")) := by
  intro a
  have hcheck : a.check = .ok () := by decide +kernel
  have habsent : ConfigFile.absent.load = .ok .standard := rfl
  obtain ⟨next, hdefine, -⟩ := ConfigFile.defineAlias_of_load hcheck habsent
  exact ⟨hcheck, ⟨next, hdefine⟩, by decide +kernel, by decide +kernel⟩

end Target

end BlobStore
