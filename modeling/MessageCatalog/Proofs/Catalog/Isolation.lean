import MessageCatalog.Proofs.Catalog.Documents

/-!
Catalogs and locales do not touch each other. A message depends on the index entry of its catalog
and on two tables of that catalog's document, the one of the locale asked for and the default one;
what else has been loaded makes no difference, even under a key that is displayed alike.
-/

namespace MessageCatalog.Library

variable {left right : FileTree} {leftPath rightPath : String} {leftIndex rightIndex : Keyed Json}
  {leftLibrary rightLibrary : Library}

theorem lookup_isolated (leftRead : readIndex left leftPath = .ok leftIndex)
    (rightRead : readIndex right rightPath = .ok rightIndex)
    (leftLoaded : load left leftPath = .ok leftLibrary)
    (rightLoaded : load right rightPath = .ok rightLibrary) (catalog locale : String)
    (sameEntry : leftIndex.get? catalog = rightIndex.get? catalog)
    (sameTables : ∀ leftDocument rightDocument, DocumentOf left leftPath catalog leftDocument →
      DocumentOf right rightPath catalog rightDocument →
        SameEntries leftDocument rightDocument defaultLocale ∧
          SameEntries leftDocument rightDocument locale)
    (code : String) :
    leftLibrary.lookup catalog code (some locale) =
      rightLibrary.lookup catalog code (some locale) := by
  have sameCheck : leftLibrary.check catalog = rightLibrary.check catalog := by
    apply check_congr
    rw [index_of_loaded leftLoaded leftRead, index_of_loaded rightLoaded rightRead, sameEntry]
  apply lookup_congr sameCheck
  intro usable
  obtain ⟨leftDocument, leftSource⟩ := document_of_usable leftLoaded usable
  obtain ⟨rightDocument, rightSource⟩ := document_of_usable rightLoaded (sameCheck ▸ usable)
  obtain ⟨sameDefault, sameLocale⟩ := sameTables _ _ leftSource rightSource
  rw [findEntry?_of_document leftLoaded leftSource, findEntry?_of_document rightLoaded rightSource]
  rw [Option.getD_some, sameDefault code, sameLocale code]

section Resolving

variable [Template.KeySize]

theorem resolve_isolated (leftRead : readIndex left leftPath = .ok leftIndex)
    (rightRead : readIndex right rightPath = .ok rightIndex)
    (leftLoaded : load left leftPath = .ok leftLibrary)
    (rightLoaded : load right rightPath = .ok rightLibrary) (catalog locale : String)
    (sameEntry : leftIndex.get? catalog = rightIndex.get? catalog)
    (sameTables : ∀ leftDocument rightDocument, DocumentOf left leftPath catalog leftDocument →
      DocumentOf right rightPath catalog rightDocument →
        SameEntries leftDocument rightDocument "en" ∧ SameEntries leftDocument rightDocument locale)
    (code : String) (named : NamedInserts) (positional : PositionalInserts) (verbose : Bool) :
    leftLibrary.resolve ⟨catalog, code, named, positional, some locale, verbose⟩ =
      rightLibrary.resolve ⟨catalog, code, named, positional, some locale, verbose⟩ := by
  apply resolve_congr
  exact lookup_isolated leftRead rightRead leftLoaded rightLoaded catalog locale sameEntry
    sameTables code

end Resolving

/-- An index with two catalogs, where the default table of the second is displayed like the table of
the first for `de`. -/
def alikeIndex : String :=
  "\x7b\"c\":\x7b\"url\":\"file://c.json\"\x7d,\"c-de\":\x7b\"url\":\"file://d.json\"\x7d\x7d"

def alikeFirst : String := "\x7b\"en\":\x7b\"X\":\x7b\"message\":\"a\"\x7d\x7d\x7d"

def alikeSecond : String := "\x7b\"en\":\x7b\"X\":\x7b\"message\":\"b\"\x7d\x7d\x7d"

def alikeFiles : FileTree where
  files := [(["index.json"], alikeIndex.toUTF8), (["c.json"], alikeFirst.toUTF8),
    (["d.json"], alikeSecond.toUTF8)]
  directories := []
  workingDirectory := []

theorem read_index_alike : readIndex alikeFiles "index.json" =
    .ok [("c", .object [("url", .text "file://c.json")]),
      ("c-de", .object [("url", .text "file://d.json")])] := by
  have found : alikeFiles.find "index.json" = .ok (.file alikeIndex.toUTF8) := rfl
  have written : (Node.ofText? .json .whole alikeIndex).bind decodeIndex? =
      some [("c", .object [("url", .text "file://c.json")]),
        ("c-de", .object [("url", .text "file://d.json")])] := by
    cbv
  exact read_document_of_file found written

theorem alike_first_written : (Node.ofText? .json .whole alikeFirst).bind decodeCatalog? =
    some [("en", [("X", ⟨some "a", none, none, none, none, []⟩)])] := by cbv

theorem alike_second_written : (Node.ofText? .json .whole alikeSecond).bind decodeCatalog? =
    some [("en", [("X", ⟨some "b", none, none, none, none, []⟩)])] := by cbv

theorem read_catalog_alike : readCatalog alikeFiles (root "index.json") "c" "file://c.json" =
    .ok [("en", [("X", ⟨some "a", none, none, none, none, []⟩)])] :=
  read_catalog_of_file rfl rfl alike_first_written

theorem load_alike : ∃ library, load alikeFiles "index.json" = .ok library := by
  have second : readCatalog alikeFiles (root "index.json") "c-de" "file://d.json" = .ok _ :=
    read_catalog_of_file rfl rfl alike_second_written
  have firstLoaded := load_catalog_ok_iff.mpr ⟨read_catalog_alike, rfl⟩
  have secondLoaded := load_catalog_ok_iff.mpr ⟨second, rfl⟩
  have sources : sourcesOf [("c", .object [("url", .text "file://c.json")]),
      ("c-de", .object [("url", .text "file://d.json")])] =
        [("c", .here "file://c.json"), ("c-de", .here "file://d.json")] := by
    rw [sourcesOf_of_rising (by decide +kernel)]
    rfl
  rw [load, read_index_alike]
  simp only [bind, Except.bind, sources, loadCatalogs, firstLoaded, secondLoaded]
  exact ⟨_, rfl⟩

theorem resolve_isolated_displayed_alike :
    (TableKey.ofDefault "c-de").display = (TableKey.mk "c" "de").display ∧
      ∃ beside alone, load alikeFiles "index.json" = .ok beside ∧
        load (oneCatalog alikeFirst) "index.json" = .ok alone ∧
          ∀ code named positional verbose,
            beside.resolve ⟨"c", code, named, positional, some "de", verbose⟩ =
              alone.resolve ⟨"c", code, named, positional, some "de", verbose⟩ := by
  have isLocal : IsLocal [("c", .object [("url", .text "file://c.json")]),
      ("c-de", .object [("url", .text "file://d.json")])] "c" "file://c.json" :=
    ⟨_, "file://".toList, "c.json".toList, rfl, rfl, rfl, Text.SameText.refl _⟩
  have source : DocumentOf alikeFiles "index.json" "c" _ :=
    ⟨_, _, read_index_alike, isLocal, read_catalog_alike⟩
  have same : ∀ document other, DocumentOf alikeFiles "index.json" "c" document →
      DocumentOf (oneCatalog alikeFirst) "index.json" "c" other →
        SameEntries document other "en" ∧ SameEntries document other "de" := by
    intro document other left right
    rw [left.unique source, right.unique (documentOf_oneCatalog alike_first_written)]
    exact ⟨fun _ => rfl, fun _ => rfl⟩
  obtain ⟨beside, loaded⟩ := load_alike
  have alone := load_oneCatalog alike_first_written rfl
  refine ⟨rfl, beside, _, loaded, alone, ?_⟩
  exact resolve_isolated read_index_alike (read_index_oneCatalog alikeFirst) loaded alone "c" "de"
    rfl same

end MessageCatalog.Library
