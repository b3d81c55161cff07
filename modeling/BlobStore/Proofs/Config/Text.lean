import BlobStore.Config
import BlobStore.Proofs.Toml.Lines

/-!
# A configuration is read as what has been written

The text of a configuration is a list of lines, whatever stands in its strings. The lines add up to
a table of three entries, of which the aliases are a series with one table for each, and the table
is read back as the configuration.
-/

namespace BlobStore.Config

open Toml (Value Entries Line ReadAs pairLine)
open Toml.Table (assignAll attach put put_append within)

/-! ## The text as lines -/

def versionLine (c : Config) : Line := .pair ["schema_version"] (.integer c.schemaVersion.toNat)

def defaultsLines (d : Defaults) : List Line :=
  [.empty, .heading ⟨["defaults"], false⟩, .pair ["output"] (.string d.output),
    .pair ["page_size"] (.integer d.pageSize.toNat), .pair ["part_size"] (.integer d.partSize.toNat)]

def aliasLines (a : Alias) : List Line :=
  [.empty, .heading ⟨["aliases"], true⟩, .pair ["name"] (.string a.name),
    .pair ["url"] (.string a.url)]

def lines (c : Config) : List Line :=
  [versionLine c] ++ ((if c.aliases.isEmpty then [.pair ["aliases"] (.array [])] else []) ++
    (defaultsLines c.defaults ++ c.aliases.flatMap aliasLines))

private theorem toList_quote (s : String) : (quote s).toList = Toml.Quoted.write s.toList :=
  String.toList_ofList

private theorem readAs_defaultsText (d : Defaults) :
    ReadAs (defaultsText d).toList (defaultsLines d) := by
  have htext : (defaultsText d).toList = ['\n'] ++ ('[' :: ("defaults".toList ++ [']', '\n']) ++
      (pairLine "output" (Toml.Quoted.write d.output.toList) ++
        (pairLine "page_size" (toString d.pageSize.toNat).toList ++
          pairLine "part_size" (toString d.partSize.toNat).toList))) := by
    -- an equation of its own for the definition would take an evaluation of the text
    delta defaultsText
    simp [pairLine, toList_quote]
  rw [htext]
  exact ReadAs.newline.append <| (ReadAs.table (by decide)).append <|
    (ReadAs.string (by decide) _).append <| (ReadAs.integer (by decide) _).append <|
    ReadAs.integer (by decide) _

private theorem readAs_aliasText (a : Alias) : ReadAs (aliasText a).toList (aliasLines a) := by
  have htext : (aliasText a).toList =
      ['\n'] ++ ('[' :: '[' :: ("aliases".toList ++ [']', ']', '\n']) ++
        (pairLine "name" (Toml.Quoted.write a.name.toList) ++
          pairLine "url" (Toml.Quoted.write a.url.toList))) := by
    delta aliasText
    simp [pairLine, toList_quote]
  rw [htext]
  exact ReadAs.newline.append <| (ReadAs.series (by decide)).append <|
    (ReadAs.string (by decide) _).append (ReadAs.string (by decide) _)

theorem toList_text (c : Config) :
    c.text.toList = pairLine "schema_version" (toString c.schemaVersion.toNat).toList ++
      ((if c.aliases.isEmpty then pairLine "aliases" ['[', ']'] else []) ++
        ((defaultsText c.defaults).toList ++ c.aliases.flatMap fun a => (aliasText a).toList)) := by
  have hnone : (if c.aliases.isEmpty then "aliases = []\n" else "").toList =
      if c.aliases.isEmpty then pairLine "aliases" ['[', ']'] else [] := by
    split
    · decide
    · rfl
  delta text
  rw [String.toList_append, String.toList_append, String.toList_append, hnone, String.toList_join,
    List.flatMap_map]
  simp [pairLine]

private theorem readAs_text (c : Config) : ReadAs c.text.toList (lines c) := by
  have hnone : ReadAs (if c.aliases.isEmpty then pairLine "aliases" ['[', ']'] else [])
      (if c.aliases.isEmpty then [.pair ["aliases"] (.array [])] else []) := by
    split
    · exact ReadAs.emptyArray (by decide)
    · exact ReadAs.nil
  rw [toList_text]
  exact (ReadAs.integer (by decide) _).append <| hnone.append <|
    (readAs_defaultsText c.defaults).append <| ReadAs.flatMap fun a _ => readAs_aliasText a

/-! ## The lines as a table -/

def defaultsEntries (d : Defaults) : Entries :=
  [("output", .string d.output), ("page_size", .integer d.pageSize.toNat),
    ("part_size", .integer d.partSize.toNat)]

def aliasEntries (a : Alias) : Entries := [("name", .string a.name), ("url", .string a.url)]

/-- The tables of the aliases, of which the last one comes first. -/
def series : List Entries → Entries
  | [] => []
  | last :: earlier => [("aliases", .series last earlier)]

/-- What stands before the aliases. Where there are none, it says so. -/
def entriesAhead (c : Config) : Entries :=
  ("schema_version", .integer c.schemaVersion.toNat) ::
    ((if c.aliases.isEmpty then [("aliases", .array [])] else []) ++
      [("defaults", .table .headed (defaultsEntries c.defaults))])

def entries (c : Config) : Entries := entriesAhead c ++ series (c.aliases.map aliasEntries).reverse

def pairsAhead (c : Config) : List (List String × Value) :=
  (["schema_version"], .integer c.schemaVersion.toNat) ::
    if c.aliases.isEmpty then [(["aliases"], .array [])] else []

def defaultsPairs (d : Defaults) : List (List String × Value) :=
  [(["output"], .string d.output), (["page_size"], .integer d.pageSize.toNat),
    (["part_size"], .integer d.partSize.toNat)]

def aliasPairs (a : Alias) : List (List String × Value) :=
  [(["name"], .string a.name), (["url"], .string a.url)]

private theorem sections_aliasLines (aliases : List Alias) :
    Toml.sections (aliases.flatMap aliasLines) =
      ([], aliases.map fun a => (⟨["aliases"], true⟩, aliasPairs a)) := by
  induction aliases with
  | nil => rfl
  | cons a aliases ih =>
    rw [List.flatMap_cons, List.map_cons]
    simp only [aliasLines, List.cons_append, List.nil_append, Toml.sections, ih]
    rfl

private theorem sections_lines (c : Config) :
    Toml.sections (lines c) = (pairsAhead c, (⟨["defaults"], false⟩, defaultsPairs c.defaults) ::
      c.aliases.map fun a => (⟨["aliases"], true⟩, aliasPairs a)) := by
  have haliases := sections_aliasLines c.aliases
  rw [lines, pairsAhead]
  split
  · simp only [versionLine, defaultsLines, List.cons_append, List.nil_append, Toml.sections, haliases]
    rfl
  · simp only [versionLine, defaultsLines, List.cons_append, List.nil_append, Toml.sections, haliases]
    rfl

private theorem assignAll_aliasPairs (a : Alias) :
    assignAll (aliasPairs a) [] = some (aliasEntries a) := rfl

private theorem attach_alias {before : Entries} (hbefore : before.lookup "aliases" = none)
    (a : Alias) (tables : List Entries) :
    attach ⟨["aliases"], true⟩ (aliasPairs a) (before ++ series tables) =
      some (before ++ series (aliasEntries a :: tables)) := by
  have hlookup : (before ++ series tables).lookup "aliases" = (series tables).lookup "aliases" := by
    rw [List.lookup_append, hbefore, Option.none_or]
  have hput (v : Value) : put "aliases" v (before ++ series tables) = before ++ [("aliases", v)] := by
    rw [put_append hbefore]
    cases tables with
    | nil => rfl
    | cons last earlier => rfl
  simp only [attach, List.reverse_singleton, List.reverse_nil, within, hlookup, assignAll_aliasPairs,
    Option.map_some, hput]
  cases tables with
  | nil => rfl
  | cons last earlier => rfl

private theorem attach_aliases {before : Entries} (hbefore : before.lookup "aliases" = none)
    (aliases : List Alias) (tables : List Entries) :
    (aliases.map fun a => (⟨["aliases"], true⟩, aliasPairs a)).foldlM
      (fun table (heading, pairs) => attach heading pairs table) (before ++ series tables) =
      some (before ++ series ((aliases.map aliasEntries).reverse ++ tables)) := by
  induction aliases generalizing tables with
  | nil => rfl
  | cons a aliases ih =>
    rw [List.map_cons, List.foldlM_cons]
    dsimp only
    rw [attach_alias hbefore]
    refine (ih _).trans ?_
    rw [List.map_cons, List.reverse_cons, List.append_assoc]
    rfl

private theorem attach_defaults (c : Config) :
    ((assignAll (pairsAhead c) []).bind fun table =>
      attach ⟨["defaults"], false⟩ (defaultsPairs c.defaults) table) = some (entriesAhead c) := by
  rw [pairsAhead, entriesAhead]
  split
  · rfl
  · rfl

private theorem tableOf_lines (c : Config) : Toml.tableOf (lines c) = some (entries c) := by
  obtain ⟨table, htable, hattach⟩ := Option.bind_eq_some_iff.mp (attach_defaults c)
  simp only [Toml.tableOf, sections_lines, htable, List.foldlM_cons, hattach, Option.bind_eq_bind,
    Option.bind_some]
  cases haliases : c.aliases with
  | nil =>
    rw [entries, haliases]
    exact congrArg some (List.append_nil _).symm
  | cons a aliases =>
    have hbefore : (entriesAhead c).lookup "aliases" = none := by
      rw [entriesAhead, haliases]
      rfl
    have hfold := attach_aliases hbefore c.aliases []
    rw [entries, ← haliases]
    simpa [series] using hfold

/-! ## The table as a configuration -/

private theorem integerBelow?_integer {bound n : Nat} (h : n < bound) :
    integerBelow? bound (.integer n) = some n := by
  rw [integerBelow?, if_pos ⟨Int.natCast_nonneg n, Int.ofNat_lt.mpr h⟩, Int.toNat_natCast]

private theorem version?_toNat (n : UInt32) : version? (.integer n.toNat) = some n := by
  rw [version?, integerBelow?_integer n.toNat_lt, Option.map_some, UInt32.ofNat_toNat]

private theorem size?_toNat (n : UInt64) : size? (.integer n.toNat) = some n := by
  rw [size?, integerBelow?_integer n.toNat_lt, Option.map_some, UInt64.ofNat_toNat]

private theorem readDefaults_entries (d : Defaults) :
    readDefaults (.table .headed (defaultsEntries d)) = .ok d := by
  have hpage : Record.read (.named (defaultsEntries d)) "page_size" 1
      (some Defaults.standard.pageSize) size? = .ok d.pageSize := by
    simp [Record.read, Record.field, defaultsEntries, List.lookup_cons, size?_toNat]
  have hpart : Record.read (.named (defaultsEntries d)) "part_size" 2
      (some Defaults.standard.partSize) size? = .ok d.partSize := by
    simp [Record.read, Record.field, defaultsEntries, List.lookup_cons, size?_toNat]
  have hover : (Record.named (defaultsEntries d)).passesOver
      ["output", "page_size", "part_size"] = true := rfl
  simp only [readDefaults, record, Record.of?, hover, if_true, hpage, hpart]
  rfl

private theorem readAlias_entries (a : Alias) :
    readAlias (.table .headed (aliasEntries a)) = .ok a := rfl

private theorem mapM_readAlias (aliases : List Alias) :
    (aliases.map fun a => Value.table .headed (aliasEntries a)).mapM readAlias = .ok aliases := by
  induction aliases with
  | nil => rfl
  | cons a aliases ih =>
    rw [List.map_cons, List.mapM_cons, readAlias_entries, ih]
    rfl

private theorem readAliases_series {last : Entries} {earlier : List Entries}
    {aliases : List Alias} (h : (aliases.map aliasEntries).reverse = last :: earlier) :
    readAliases (.series last earlier) = .ok aliases := by
  have hitems : items? (.series last earlier) =
      some (aliases.map fun a => .table .headed (aliasEntries a)) := by
    rw [items?, ← List.reverse_cons, ← h, List.reverse_reverse, List.map_map]
    rfl
  rw [readAliases, hitems]
  exact mapM_readAlias aliases

private theorem field_version (c : Config) : Record.field (.named (entries c)) "schema_version" 0 =
    some (.integer c.schemaVersion.toNat) := rfl

private theorem field_defaults (c : Config) : Record.field (.named (entries c)) "defaults" 1 =
    some (.table .headed (defaultsEntries c.defaults)) := by
  rw [entries, entriesAhead]
  split
  · rfl
  · rfl

private theorem readAliases_field (c : Config) :
    (Record.field (.named (entries c)) "aliases" 2).elim (.ok []) readAliases = .ok c.aliases := by
  cases htables : (c.aliases.map aliasEntries).reverse with
  | nil =>
    have hnone : c.aliases = [] := by simpa using htables
    rw [entries, entriesAhead, hnone]
    rfl
  | cons last earlier =>
    have hsome : c.aliases.isEmpty = false := by
      rw [List.isEmpty_eq_false_iff]
      intro hnone
      rw [hnone] at htables
      cases htables
    rw [entries, entriesAhead, htables, hsome]
    exact readAliases_series htables

private theorem passesOver_entries (c : Config) :
    (Record.named (entries c)).passesOver ["schema_version", "defaults", "aliases"] = true := by
  rw [entries, entriesAhead]
  cases (c.aliases.map aliasEntries).reverse with
  | nil => split <;> rfl
  | cons last earlier => split <;> rfl

private theorem read_version (c : Config) :
    Record.read (.named (entries c)) "schema_version" 0 none version? = .ok c.schemaVersion := by
  have hfield := field_version c
  simp only [Record.read, hfield, version?_toNat, Option.elim_some]

private theorem ofEntries_entries (c : Config) : ofEntries (entries c) = .ok c := by
  have hover := passesOver_entries c
  have hversion := read_version c
  have hdefaults := field_defaults c
  have haliases := readAliases_field c
  unfold ofEntries
  dsimp only
  unfold record
  simp only [Record.of?, hover, if_true]
  rw [hversion, hdefaults, haliases, Option.elim_some, readDefaults_entries]
  rfl

/-- Nothing is lost by writing a configuration, as long as its schema is understood. -/
theorem parse_text {c : Config} (h : c.schemaVersion.toNat ≤ BlobStore.schemaVersion) :
    parse c.text = .ok c := by
  have hmark : c.text.toList.head? ≠ some '\ufeff' := by
    rw [toList_text]
    exact fun heq => absurd (Option.some.inj heq) (by decide)
  have htoml : Toml.parse c.text = some (entries c) :=
    ((readAs_text c).parse hmark).trans (tableOf_lines c)
  rw [parse, htoml]
  dsimp only
  rw [ofEntries_entries]
  dsimp only
  rw [if_neg (Nat.not_lt.mpr h)]

theorem schemaVersion_of_parse {s : String} {c : Config} (h : parse s = .ok c) :
    c.schemaVersion.toNat ≤ BlobStore.schemaVersion := by
  unfold parse at h
  split at h
  · cases h
  · split at h
    · cases h
    · split_ifs at h with hnewer
      cases h
      exact Nat.not_lt.mp hnewer

end BlobStore.Config
