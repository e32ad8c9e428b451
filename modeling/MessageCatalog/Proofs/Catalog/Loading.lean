import MessageCatalog.Catalog.Library
import MessageCatalog.Proofs.Catalog.Source
import MessageCatalog.Proofs.Document.Members

/-!
What a loaded library holds. The locale tables of all local catalogs are stored together under the
names of the catalog and the locale; none is lost, none is written over by those of another catalog,
and there are no others. Loading fails only when the index or a local catalog does.
-/

namespace MessageCatalog.Library

open Text

variable {tree : FileTree} {root : List Char} {index : Keyed Source}
  {stored tables : Keyed Table TableKey}

theorem read_document_ok {Value : Type} {path : String} {blame : ReadError → CatalogError}
    {decode : Node → Option Value} {value : Value}
    (success : readDocument tree path blame decode = .ok value) :
    ∃ text node, Node.ofText? (DocumentForm.ofPath path.toList) .whole text = some node ∧
      decode node = some value := by
  unfold readDocument at success
  split at success
  · cases success
  · next text _ =>
      split at success
      · next found =>
          cases success
          obtain ⟨node, written, decoded⟩ := Option.bind_eq_some_iff.mp found
          exact ⟨text, node, written, decoded⟩
      · cases success

theorem read_document_of_file {Value : Type} {path text : String} {blame : ReadError → CatalogError}
    {decode : Node → Option Value} {value : Value}
    (found : tree.find path = .ok (.file text.toUTF8))
    (written : (Node.ofText? (DocumentForm.ofPath path.toList) .whole text).bind decode =
      some value) :
    readDocument tree path blame decode = .ok value := by
  rw [readDocument, FileTree.readText_of_file found]
  simp only [written]

theorem read_index_distinct {indexPath : String} {entries : Keyed Json}
    (success : readIndex tree indexPath = .ok entries) : Keyed.Distinct entries := by
  rw [readIndex] at success
  obtain ⟨_, node, _, decoded⟩ := read_document_ok success
  rw [decodeIndex?] at decoded
  exact Node.keyed?_distinct decoded

theorem read_catalog_distinct {catalog url : String} {document : Keyed Table}
    (success : readCatalog tree root catalog url = .ok document) : Keyed.Distinct document := by
  rw [readCatalog] at success
  obtain ⟨_, node, _, decoded⟩ := read_document_ok success
  rw [decodeCatalog?] at decoded
  exact Node.keyed?_distinct decoded

theorem read_catalog_of_file {catalog url path text : String} {document : Keyed Table}
    (leads : catalogPath tree root url = path) (found : tree.find path = .ok (.file text.toUTF8))
    (written : (Node.ofText? (DocumentForm.ofPath path.toList) .whole text).bind decodeCatalog? =
      some document) :
    readCatalog tree root catalog url = .ok document := by
  rw [readCatalog, leads]
  exact read_document_of_file found written

theorem load_catalog_ok_iff {catalog url : String} {document : Keyed Table} :
    loadCatalog tree root catalog url = .ok document ↔
      readCatalog tree root catalog url = .ok document ∧ (document.get? defaultLocale).isSome := by
  rw [loadCatalog, Outcome.bind_ok_iff]
  constructor
  · rintro ⟨other, success, kept⟩
    split at kept
    · next present =>
        cases kept
        exact ⟨success, present⟩
    · cases kept
  · rintro ⟨success, present⟩
    exact ⟨document, success, if_pos present⟩

theorem load_catalog_fails_iff {catalog url : String} :
    (∃ failure, loadCatalog tree root catalog url = .error failure) ↔
      (∃ failure, readCatalog tree root catalog url = .error failure) ∨
        ∃ document, readCatalog tree root catalog url = .ok document ∧
          document.get? defaultLocale = none := by
  constructor
  · rintro ⟨failure, failed⟩
    rcases Outcome.bind_error_iff.mp failed with unread | ⟨document, success, missing⟩
    · exact Or.inl ⟨failure, unread⟩
    · split at missing
      · cases missing
      · next absent => exact Or.inr ⟨document, success, by simpa using absent⟩
  · rintro (⟨failure, unread⟩ | ⟨document, success, absent⟩)
    · exact ⟨failure, Outcome.bind_error_iff.mpr (Or.inl unread)⟩
    · refine ⟨.missingDefaultLocale catalog,
        Outcome.bind_error_iff.mpr (Or.inr ⟨document, success, ?_⟩)⟩
      simp [absent]

theorem store_eq_overlay (catalog : String) (document : Keyed Table)
    (stored : Keyed Table TableKey) :
    store catalog document stored =
      stored.overlay (document.map fun entry => (⟨catalog, entry.1⟩, entry.2)) := by
  simp [store, Keyed.overlay, List.foldl_map]

theorem table_key_injective (catalog : String) : Function.Injective (TableKey.mk catalog) := by
  intro left right same
  cases same
  rfl

theorem distinct_store (catalog : String) (document : Keyed Table)
    (distinct : Keyed.Distinct stored) :
    Keyed.Distinct (store catalog document stored) := by
  rw [store_eq_overlay]
  exact Keyed.distinct_overlay _ _ distinct

/-- The tables of the catalog stored last come first, locale by locale. -/
theorem get?_store_self (catalog locale : String) {document : Keyed Table}
    (distinct : Keyed.Distinct document) :
    (store catalog document stored).get? ⟨catalog, locale⟩ =
      (document.get? locale).or (stored.get? ⟨catalog, locale⟩) := by
  have renamed := Keyed.distinct_rename (table_key_injective catalog) document distinct
  rw [store_eq_overlay, Keyed.get?_overlay _ _ _ renamed,
    Keyed.get?_rename (table_key_injective catalog)]

theorem get?_store_of_ne {catalog other : String} (locale : String) {document : Keyed Table}
    (distinct : Keyed.Distinct document) (differs : catalog ≠ other) :
    (store catalog document stored).get? ⟨other, locale⟩ = stored.get? ⟨other, locale⟩ := by
  have renamed := Keyed.distinct_rename (table_key_injective catalog) document distinct
  have absent : Keyed.get? (⟨other, locale⟩ : TableKey)
      (document.map fun entry => (TableKey.mk catalog entry.1, entry.2)) = none := by
    rw [Keyed.get?_eq_none_iff]
    simp [Keyed.keys, differs]
  rw [store_eq_overlay, Keyed.get?_overlay _ _ _ renamed, absent, Option.none_or]

theorem load_catalogs_cons {catalog : String} {source : Source}
    (loaded : loadCatalogs tree root ((catalog, source) :: index) stored = .ok tables) :
    (∃ url document, source = .here url ∧ loadCatalog tree root catalog url = .ok document ∧
        loadCatalogs tree root index (store catalog document stored) = .ok tables) ∨
      (∀ url, source ≠ .here url) ∧ loadCatalogs tree root index stored = .ok tables := by
  cases source with
  | here url =>
      obtain ⟨document, success, onward⟩ := Outcome.bind_ok_iff.mp loaded
      exact Or.inl ⟨url, document, rfl, success, onward⟩
  | remote _ => exact Or.inr ⟨by simp, loaded⟩
  | unsupported _ => exact Or.inr ⟨by simp, loaded⟩
  | notText _ => exact Or.inr ⟨by simp, loaded⟩

theorem load_catalogs_distinct (loaded : loadCatalogs tree root index stored = .ok tables)
    (distinct : Keyed.Distinct stored) : Keyed.Distinct tables := by
  induction index generalizing stored with
  | nil =>
      cases loaded
      exact distinct
  | cons entry index induction =>
      rcases load_catalogs_cons loaded with ⟨_, document, _, _, onward⟩ | ⟨_, onward⟩
      · exact induction onward (distinct_store entry.1 document distinct)
      · exact induction onward distinct

/-- Catalogs that the index does not call local get no tables. -/
theorem load_catalogs_keeps (loaded : loadCatalogs tree root index stored = .ok tables)
    {catalog : String} (foreign : ∀ url, (catalog, Source.here url) ∉ index) (locale : String) :
    tables.get? ⟨catalog, locale⟩ = stored.get? ⟨catalog, locale⟩ := by
  induction index generalizing stored with
  | nil =>
      cases loaded
      rfl
  | cons entry index induction =>
      have others : ∀ url, (catalog, Source.here url) ∉ index := fun url member =>
        foreign url (List.mem_cons_of_mem entry member)
      rcases load_catalogs_cons loaded with
          ⟨url, document, local_entry, success, onward⟩ | ⟨_, onward⟩
      · have differs : entry.1 ≠ catalog := by
          intro same
          exact foreign url (by rw [← same, ← local_entry]; exact List.mem_cons_self)
        have distinct := read_catalog_distinct (load_catalog_ok_iff.mp success).1
        rw [induction onward others, get?_store_of_ne locale distinct differs]
      · exact induction onward others

/-- Every local catalog has the tables of its document over those stored before. -/
theorem load_catalogs_stores (loaded : loadCatalogs tree root index stored = .ok tables)
    (distinct : Keyed.Distinct index) {catalog url : String}
    (indexed : (catalog, Source.here url) ∈ index) :
    ∃ document, loadCatalog tree root catalog url = .ok document ∧
      ∀ locale, tables.get? ⟨catalog, locale⟩ =
        (document.get? locale).or (stored.get? ⟨catalog, locale⟩) := by
  induction index generalizing stored with
  | nil => cases indexed
  | cons entry index induction =>
      have parts := Keyed.distinct_cons.mp distinct
      rcases List.mem_cons.mp indexed with same | inside
      · subst same
        rcases load_catalogs_cons loaded with
            ⟨_, document, local_entry, success, onward⟩ | ⟨foreign, _⟩
        · cases local_entry
          have unnamed : catalog ∉ Keyed.keys index := parts.1
          have others : ∀ other, (catalog, Source.here other) ∉ index := fun other member =>
            unnamed (Keyed.key_mem_keys member)
          refine ⟨document, success, fun locale => ?_⟩
          rw [load_catalogs_keeps onward others,
            get?_store_self catalog locale
              (read_catalog_distinct (load_catalog_ok_iff.mp success).1)]
        · exact absurd rfl (foreign url)
      · have differs : entry.1 ≠ catalog := by
          intro same
          exact parts.1 (same ▸ Keyed.key_mem_keys inside)
        rcases load_catalogs_cons loaded with ⟨_, first, _, success, onward⟩ | ⟨_, onward⟩
        · obtain ⟨document, found, lookups⟩ := induction onward parts.2 inside
          refine ⟨document, found, fun locale => ?_⟩
          rw [lookups locale,
            get?_store_of_ne locale (read_catalog_distinct (load_catalog_ok_iff.mp success).1)
              differs]
        · exact induction onward parts.2 inside

theorem load_catalogs_fails_iff :
    (∃ failure, loadCatalogs tree root index stored = .error failure) ↔
      ∃ catalog url, (catalog, Source.here url) ∈ index ∧
        ∃ failure, loadCatalog tree root catalog url = .error failure := by
  induction index generalizing stored with
  | nil =>
      constructor
      · rintro ⟨failure, failed⟩
        cases failed
      · rintro ⟨catalog, url, impossible, _⟩
        cases impossible
  | cons entry index induction =>
      obtain ⟨name, source⟩ := entry
      have others : (∃ catalog url, (catalog, Source.here url) ∈ (name, source) :: index ∧
          ∃ failure, loadCatalog tree root catalog url = .error failure) ↔
          (∃ url, source = .here url ∧ ∃ failure, loadCatalog tree root name url = .error failure) ∨
            ∃ catalog url, (catalog, Source.here url) ∈ index ∧
              ∃ failure, loadCatalog tree root catalog url = .error failure := by
        constructor
        · rintro ⟨catalog, url, member, failed⟩
          rcases List.mem_cons.mp member with same | inside
          · cases same
            exact Or.inl ⟨url, rfl, failed⟩
          · exact Or.inr ⟨catalog, url, inside, failed⟩
        · rintro (⟨url, rfl, failed⟩ | ⟨catalog, url, inside, failed⟩)
          · exact ⟨name, url, List.mem_cons_self, failed⟩
          · exact ⟨catalog, url, List.mem_cons_of_mem _ inside, failed⟩
      rw [others]
      cases source with
      | here url =>
          constructor
          · rintro ⟨failure, failed⟩
            rcases Outcome.bind_error_iff.mp failed with first | ⟨document, _, onward⟩
            · exact Or.inl ⟨url, rfl, failure, first⟩
            · exact Or.inr (induction.mp ⟨failure, onward⟩)
          · rintro (⟨_, same, failure, first⟩ | later)
            · cases same
              exact ⟨failure, Outcome.bind_error_iff.mpr (Or.inl first)⟩
            · cases attempt : loadCatalog tree root name url with
              | error failure => exact ⟨failure, Outcome.bind_error_iff.mpr (Or.inl attempt)⟩
              | ok document =>
                  obtain ⟨failure, onward⟩ := induction.mpr later
                  exact ⟨failure, Outcome.bind_error_iff.mpr (Or.inr ⟨document, attempt, onward⟩)⟩
      | remote _ => simpa [loadCatalogs] using induction
      | unsupported _ => simpa [loadCatalogs] using induction
      | notText _ => simpa [loadCatalogs] using induction

/-- The index gives the catalog a text as its url that starts with the file scheme in any case. -/
def IsLocal (entries : Keyed Json) (catalog url : String) : Prop :=
  ∃ entry scheme rest, entries.get? catalog = some entry ∧ entry.member? "url" = some (.text url) ∧
    url.toList = scheme ++ rest ∧ SameText "file://".toList scheme

theorem IsLocal.unique {entries : Keyed Json} {catalog url other : String}
    (first : IsLocal entries catalog url) (second : IsLocal entries catalog other) :
    url = other := by
  obtain ⟨entry, _, _, found, isText, _⟩ := first
  obtain ⟨entryAgain, _, _, foundAgain, isTextAgain, _⟩ := second
  have sameEntry : entry = entryAgain := Option.some.inj (found.symm.trans foundAgain)
  rw [sameEntry, isTextAgain] at isText
  cases isText
  rfl

theorem sourcesOf_of_rising {entries : Keyed Json}
    (rising : entries.Pairwise fun left right => left.1 ≤ right.1) :
    sourcesOf entries = entries.map fun entry => (entry.1, Source.ofEntry entry.2) := by
  apply List.mergeSort_of_pairwise
  rw [List.pairwise_map]
  simpa using rising

theorem distinct_sourcesOf {entries : Keyed Json} (distinct : Keyed.Distinct entries) :
    Keyed.Distinct (sourcesOf entries) := by
  apply Keyed.distinct_sorted
  simpa [Keyed.Distinct, Keyed.keys, Function.comp_def] using distinct

theorem keys_sourcesOf_rising {entries : Keyed Json} (distinct : Keyed.Distinct entries) :
    (Keyed.keys (sourcesOf entries)).Pairwise ByteLess := by
  apply Keyed.keys_sorted_rising
  simpa [Keyed.Distinct, Keyed.keys, Function.comp_def] using distinct

theorem sourcesOf_here_iff {entries : Keyed Json} (distinct : Keyed.Distinct entries)
    (catalog url : String) :
    (sourcesOf entries).get? catalog = some (.here url) ↔ IsLocal entries catalog url := by
  have apart : Keyed.Distinct (entries.map fun entry => (entry.1, Source.ofEntry entry.2)) := by
    simpa [Keyed.Distinct, Keyed.keys, Function.comp_def] using distinct
  rw [sourcesOf, Keyed.get?_sorted catalog apart, Keyed.get?_map, Option.map_eq_some_iff]
  simp only [Source.ofEntry, Source.classify_eq_here_iff, Source.isLocalUrl_iff]
  constructor
  · rintro ⟨entry, found, isText, scheme, rest, shape, same⟩
    exact ⟨entry, scheme, rest, found, isText, shape, same⟩
  · rintro ⟨entry, scheme, rest, found, isText, shape, same⟩
    exact ⟨entry, found, isText, scheme, rest, shape, same⟩

theorem mem_sourcesOf_iff {entries : Keyed Json} (distinct : Keyed.Distinct entries)
    (catalog url : String) :
    (catalog, Source.here url) ∈ sourcesOf entries ↔ IsLocal entries catalog url := by
  rw [← Keyed.get?_eq_some_iff (distinct_sourcesOf distinct), sourcesOf_here_iff distinct]

theorem check_ok_iff (library : Library) (catalog : String) :
    library.check catalog = .ok () ↔ ∃ url, library.index.get? catalog = some (.here url) := by
  unfold check
  split
  · next found => simp [found]
  · next found => simp [found]
  · next url found => simp [found]
  · next found => simp [found]
  · next found => simp [found]

theorem mem_locales_iff (library : Library) (catalog locale : String) :
    locale ∈ library.locales catalog ↔ ∃ table, library.table? ⟨catalog, locale⟩ = some table := by
  rw [table?, ← Keyed.mem_keys_iff, locales, List.mem_mergeSort]
  simp only [List.mem_map, List.mem_filter, beq_iff_eq]
  constructor
  · rintro ⟨key, ⟨inside, rfl⟩, rfl⟩
    exact inside
  · intro inside
    exact ⟨⟨catalog, locale⟩, ⟨inside, rfl⟩, rfl⟩

theorem locales_rising (library : Library) (distinct : Keyed.Distinct library.tables)
    (catalog : String) : (library.locales catalog).Pairwise ByteLess := by
  apply Keyed.mergeSort_rising fun locale => locale
  rw [List.map_id']
  have apart : (library.tables.keys.filter (·.catalog == catalog)).Nodup := distinct.filter _
  refine apart.map_on ?_
  intro left inLeft right inRight same
  obtain ⟨leftCatalog, leftLocale⟩ := left
  obtain ⟨rightCatalog, rightLocale⟩ := right
  simp_all

/-- What a library holds of an index and of the catalogs it names. -/
structure Mirrors (tree : FileTree) (indexPath : String) (entries : Keyed Json)
    (library : Library) : Prop where
  check_iff : ∀ catalog, library.check catalog = .ok () ↔ ∃ url, IsLocal entries catalog url
  default_table : ∀ catalog, library.check catalog = .ok () →
    ∃ table, library.table? (.ofDefault catalog) = some table
  document : ∀ catalog url, IsLocal entries catalog url →
    ∃ document, readCatalog tree (Library.root indexPath) catalog url = .ok document ∧
      (∀ locale, library.table? ⟨catalog, locale⟩ = document.get? locale) ∧
      ∀ locale, locale ∈ library.locales catalog ↔ locale ∈ document.keys
  no_other : ∀ catalog, (∀ url, ¬ IsLocal entries catalog url) →
    (∀ locale, library.table? ⟨catalog, locale⟩ = none) ∧ library.locales catalog = []
  locales_rising : ∀ catalog, (library.locales catalog).Pairwise ByteLess
  names_rising : library.names.Pairwise ByteLess
  mem_names_iff : ∀ catalog, catalog ∈ library.names ↔ catalog ∈ entries.keys

theorem load_ok_iff {indexPath : String} {library : Library} :
    load tree indexPath = .ok library ↔
      ∃ entries tables, readIndex tree indexPath = .ok entries ∧
        loadCatalogs tree (Library.root indexPath) (sourcesOf entries) [] = .ok tables ∧
          library = ⟨indexPath, sourcesOf entries, tables⟩ := by
  simp only [load, Outcome.bind_ok_iff, Except.ok.injEq]
  constructor
  · rintro ⟨entries, success, tables, loaded, rfl⟩
    exact ⟨entries, tables, success, loaded, rfl⟩
  · rintro ⟨entries, tables, success, loaded, rfl⟩
    exact ⟨entries, success, tables, loaded, rfl⟩

theorem mirrors_of_loaded {indexPath : String} {entries : Keyed Json}
    (success : readIndex tree indexPath = .ok entries)
    (loaded : loadCatalogs tree (Library.root indexPath) (sourcesOf entries) [] = .ok tables) :
    Mirrors tree indexPath entries ⟨indexPath, sourcesOf entries, tables⟩ := by
  have distinct := read_index_distinct success
  have sources := distinct_sourcesOf distinct
  let library : Library := ⟨indexPath, sourcesOf entries, tables⟩
  have checked :
      ∀ catalog, library.check catalog = .ok () ↔ ∃ url, IsLocal entries catalog url := by
    intro catalog
    simp only [check_ok_iff, library, sourcesOf_here_iff distinct]
  have documents : ∀ catalog url, IsLocal entries catalog url → ∃ document,
      loadCatalog tree (Library.root indexPath) catalog url = .ok document ∧
        ∀ locale, library.table? ⟨catalog, locale⟩ = document.get? locale := by
    intro catalog url isLocal
    obtain ⟨document, found, lookups⟩ :=
      load_catalogs_stores loaded sources ((mem_sourcesOf_iff distinct catalog url).mpr isLocal)
    refine ⟨document, found, fun locale => ?_⟩
    simpa [library, table?, Keyed.get?] using lookups locale
  have others : ∀ catalog, (∀ url, ¬ IsLocal entries catalog url) →
      ∀ locale, library.table? ⟨catalog, locale⟩ = none := by
    intro catalog foreign locale
    exact load_catalogs_keeps loaded
      (fun url member => foreign url ((mem_sourcesOf_iff distinct catalog url).mp member)) locale
  exact {
    check_iff := checked
    default_table := by
      intro catalog usable
      obtain ⟨url, isLocal⟩ := (checked catalog).mp usable
      obtain ⟨document, found, lookups⟩ := documents catalog url isLocal
      rw [← Option.isSome_iff_exists, TableKey.ofDefault, lookups]
      exact (load_catalog_ok_iff.mp found).2
    document := by
      intro catalog url isLocal
      obtain ⟨document, found, lookups⟩ := documents catalog url isLocal
      refine ⟨document, (load_catalog_ok_iff.mp found).1, lookups, fun locale => ?_⟩
      rw [mem_locales_iff, lookups, Keyed.mem_keys_iff]
    no_other := by
      intro catalog foreign
      refine ⟨others catalog foreign, List.eq_nil_iff_forall_not_mem.mpr fun locale member => ?_⟩
      obtain ⟨table, found⟩ := (mem_locales_iff library catalog locale).mp member
      rw [others catalog foreign] at found
      cases found
    locales_rising :=
      library.locales_rising (load_catalogs_distinct loaded (by simp [Keyed.Distinct, Keyed.keys]))
    names_rising := keys_sourcesOf_rising distinct
    mem_names_iff := by
      intro catalog
      have same := ((Keyed.sorted_perm (entries.map fun entry =>
        (entry.1, Source.ofEntry entry.2))).map Prod.fst).mem_iff (a := catalog)
      simpa [names, library, sourcesOf, Keyed.keys, Function.comp_def] using same }

/-- A loaded library mirrors its index and the local catalogs in it. Loading fails exactly when the
index or one of these catalogs cannot be read as a document, or a local catalog has no table for the
default locale. -/
theorem load_mirrors (tree : FileTree) (indexPath : String) :
    (∀ library, load tree indexPath = .ok library →
        ∃ entries,
          readIndex tree indexPath = .ok entries ∧ Mirrors tree indexPath entries library) ∧
      ((∃ failure, load tree indexPath = .error failure) ↔
        (∃ failure, readIndex tree indexPath = .error failure) ∨
          ∃ entries catalog url, readIndex tree indexPath = .ok entries ∧
            IsLocal entries catalog url ∧
              ((∃ failure, readCatalog tree (Library.root indexPath) catalog url = .error failure) ∨
                ∃ document, readCatalog tree (Library.root indexPath) catalog url = .ok document ∧
                  document.get? "en" = none)) := by
  constructor
  · intro library success
    obtain ⟨entries, tables, read, loaded, rfl⟩ := load_ok_iff.mp success
    exact ⟨entries, read, mirrors_of_loaded read loaded⟩
  · constructor
    · rintro ⟨failure, failed⟩
      rcases Outcome.bind_error_iff.mp failed with unread | ⟨entries, read, onward⟩
      · exact Or.inl ⟨failure, unread⟩
      · rcases Outcome.bind_error_iff.mp onward with broken | ⟨tables, _, impossible⟩
        · obtain ⟨catalog, url, member, cause⟩ := load_catalogs_fails_iff.mp ⟨failure, broken⟩
          have isLocal := (mem_sourcesOf_iff (read_index_distinct read) catalog url).mp member
          exact Or.inr ⟨entries, catalog, url, read, isLocal, load_catalog_fails_iff.mp cause⟩
        · cases impossible
    · rintro (⟨failure, unread⟩ | ⟨entries, catalog, url, read, isLocal, cause⟩)
      · exact ⟨failure, Outcome.bind_error_iff.mpr (Or.inl unread)⟩
      · have member := (mem_sourcesOf_iff (read_index_distinct read) catalog url).mpr isLocal
        obtain ⟨failure, broken⟩ := load_catalogs_fails_iff.mpr
          ⟨catalog, url, member, load_catalog_fails_iff.mpr cause⟩
        exact ⟨failure, Outcome.bind_error_iff.mpr
          (Or.inr ⟨entries, read, Outcome.bind_error_iff.mpr (Or.inl broken)⟩)⟩

end MessageCatalog.Library
