import MessageCatalog.Proofs.Catalog.Loading
import MessageCatalog.Proofs.Catalog.Stages

/-!
Looking up in the documents that a library was loaded from. The entry for a code is the one in the
table of the locale asked for or else the one in the default table, both of them tables of the
catalog's own document.
-/

namespace MessageCatalog.Library

/-- The index calls `catalog` local, and `document` is what its url leads to. -/
def DocumentOf (tree : FileTree) (indexPath catalog : String) (document : Keyed Table) : Prop :=
  ∃ entries url, readIndex tree indexPath = .ok entries ∧ IsLocal entries catalog url ∧
    readCatalog tree (root indexPath) catalog url = .ok document

/-- No entry where there is no table for `locale`, or where that table lacks `code`. -/
def entryIn? (document : Keyed Table) (locale code : String) : Option Entry := do
  let table ← document.get? locale
  table.get? code

def SameEntries (left right : Keyed Table) (locale : String) : Prop :=
  ∀ code, entryIn? left locale code = entryIn? right locale code

variable {tree : FileTree} {indexPath catalog : String} {entries : Keyed Json} {library : Library}
  {document : Keyed Table}

theorem DocumentOf.unique {other : Keyed Table} (first : DocumentOf tree indexPath catalog document)
    (second : DocumentOf tree indexPath catalog other) : document = other := by
  obtain ⟨entries, url, read, isLocal, success⟩ := first
  obtain ⟨others, otherUrl, readAgain, isLocalAgain, successAgain⟩ := second
  have sameEntries : entries = others := by
    rw [read] at readAgain
    exact Except.ok.inj readAgain
  have sameUrl : url = otherUrl := isLocal.unique (sameEntries ▸ isLocalAgain)
  rw [sameUrl, successAgain] at success
  exact (Except.ok.inj success).symm

theorem index_of_loaded (loaded : load tree indexPath = .ok library)
    (read : readIndex tree indexPath = .ok entries) (catalog : String) :
    library.index.get? catalog = (entries.get? catalog).map Source.ofEntry := by
  obtain ⟨others, tables, again, _, rfl⟩ := load_ok_iff.mp loaded
  rw [read] at again
  cases again
  have apart : Keyed.Distinct (entries.map fun entry => (entry.1, Source.ofEntry entry.2)) := by
    simpa [Keyed.Distinct, Keyed.keys, Function.comp_def] using read_index_distinct read
  change (sourcesOf entries).get? catalog = _
  rw [sourcesOf, Keyed.get?_sorted catalog apart, Keyed.get?_map]

theorem mirrors_of_load (loaded : load tree indexPath = .ok library)
    (read : readIndex tree indexPath = .ok entries) : Mirrors tree indexPath entries library := by
  obtain ⟨others, tables, again, onward, rfl⟩ := load_ok_iff.mp loaded
  rw [read] at again
  cases again
  exact mirrors_of_loaded read onward

theorem document_of_usable (loaded : load tree indexPath = .ok library)
    (usable : library.check catalog = .ok ()) :
    ∃ document, DocumentOf tree indexPath catalog document := by
  obtain ⟨entries, _, read, _, _⟩ := load_ok_iff.mp loaded
  have mirrors := mirrors_of_load loaded read
  obtain ⟨url, isLocal⟩ := (mirrors.check_iff catalog).mp usable
  obtain ⟨document, success, _⟩ := mirrors.document catalog url isLocal
  exact ⟨document, entries, url, read, isLocal, success⟩

theorem table?_of_document (loaded : load tree indexPath = .ok library)
    (source : DocumentOf tree indexPath catalog document) (locale : String) :
    library.table? ⟨catalog, locale⟩ = document.get? locale := by
  obtain ⟨entries, url, read, isLocal, success⟩ := source
  obtain ⟨other, again, lookups, _⟩ := (mirrors_of_load loaded read).document catalog url isLocal
  rw [success] at again
  cases again
  exact lookups locale

theorem usable_of_document (loaded : load tree indexPath = .ok library)
    (source : DocumentOf tree indexPath catalog document) : library.check catalog = .ok () := by
  obtain ⟨entries, url, read, isLocal, _⟩ := source
  exact ((mirrors_of_load loaded read).check_iff catalog).mpr ⟨url, isLocal⟩

theorem findEntry?_eq (library : Library) (catalog code : String) (asked : Option String) :
    library.findEntry? catalog code asked =
      (library.entry? ⟨catalog, asked.getD defaultLocale⟩ code).or
        (library.entry? (.ofDefault catalog) code) := by
  unfold findEntry?
  cases asked with
  | none => simp [TableKey.ofDefault]
  | some locale =>
      by_cases same : locale = defaultLocale
      · simp [isDefaultLocale, TableKey.ofDefault, same]
      · simp [isDefaultLocale, same, Option.orElse_eq_or]

theorem findEntry?_of_document (loaded : load tree indexPath = .ok library)
    (source : DocumentOf tree indexPath catalog document) (code : String) (asked : Option String) :
    library.findEntry? catalog code asked =
      (entryIn? document (asked.getD defaultLocale) code).or
        (entryIn? document defaultLocale code) := by
  have tables := table?_of_document loaded source
  simp only [findEntry?_eq, entry?, TableKey.ofDefault, tables, entryIn?]

theorem check_congr {left right : Library}
    (same : left.index.get? catalog = right.index.get? catalog) :
    left.check catalog = right.check catalog := by
  rw [check, check, same]

theorem lookup_congr {left right : Library} {code : String} {asked other : Option String}
    (sameCheck : left.check catalog = right.check catalog)
    (sameEntry : left.check catalog = .ok () →
      left.findEntry? catalog code asked = right.findEntry? catalog code other) :
    left.lookup catalog code asked = right.lookup catalog code other := by
  rw [lookup, lookup, ← sameCheck]
  cases usable : left.check catalog with
  | error cause => rfl
  | ok _ => rw [sameEntry usable]

section Single

-- The texts of files are definitions of their own, so that walking to a file does not evaluate
-- them.

/-- The index of the one catalog `c`. -/
def oneIndex : String := "\x7b\"c\":\x7b\"url\":\"file://c.json\"\x7d\x7d"

/-- This index, and beside it the file of the catalog. -/
def oneCatalog (content : String) : FileTree where
  files := [(["index.json"], oneIndex.toUTF8), (["c.json"], content.toUTF8)]
  directories := []
  workingDirectory := []

theorem read_index_oneCatalog (content : String) :
    readIndex (oneCatalog content) "index.json" =
      .ok [("c", .object [("url", .text "file://c.json")])] := by
  have found : (oneCatalog content).find "index.json" = .ok (.file oneIndex.toUTF8) := rfl
  have written : (Node.ofText? .json .whole oneIndex).bind decodeIndex? =
      some [("c", .object [("url", .text "file://c.json")])] := by cbv
  exact read_document_of_file found written

theorem read_catalog_oneCatalog {content : String} {document : Keyed Table}
    (written : (Node.ofText? .json .whole content).bind decodeCatalog? = some document) :
    readCatalog (oneCatalog content) (root "index.json") "c" "file://c.json" = .ok document := by
  have leads :
      catalogPath (oneCatalog content) (root "index.json") "file://c.json" = "c.json" := rfl
  have found : (oneCatalog content).find "c.json" = .ok (.file content.toUTF8) := rfl
  exact read_catalog_of_file leads found written

theorem documentOf_oneCatalog {content : String} {document : Keyed Table}
    (written : (Node.ofText? .json .whole content).bind decodeCatalog? = some document) :
    DocumentOf (oneCatalog content) "index.json" "c" document := by
  have isLocal : IsLocal [("c", .object [("url", .text "file://c.json")])] "c" "file://c.json" :=
    ⟨_, "file://".toList, "c.json".toList, rfl, rfl, rfl, Text.SameText.refl _⟩
  exact ⟨_, _, read_index_oneCatalog content, isLocal, read_catalog_oneCatalog written⟩

theorem load_oneCatalog {content : String} {document : Keyed Table}
    (written : (Node.ofText? .json .whole content).bind decodeCatalog? = some document)
    (present : (document.get? defaultLocale).isSome) :
    load (oneCatalog content) "index.json" =
      .ok ⟨"index.json", [("c", .here "file://c.json")], store "c" document []⟩ := by
  have sources : sourcesOf [("c", .object [("url", .text "file://c.json")])] =
      [("c", .here "file://c.json")] := by
    rw [sourcesOf_of_rising (List.pairwise_singleton _ _)]
    rfl
  have loaded := load_catalog_ok_iff.mpr ⟨read_catalog_oneCatalog written, present⟩
  rw [load, read_index_oneCatalog]
  simp only [bind, Except.bind, sources, loadCatalogs, loaded]

end Single

end MessageCatalog.Library
