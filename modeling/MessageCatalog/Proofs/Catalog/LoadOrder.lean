import Mathlib.Data.List.Sort
import MessageCatalog.Proofs.Catalog.Loading

/-!
Loading does not depend on the order in which documents list their members. Catalogs are loaded in
byte order of their names whatever the order of the index, so of several broken catalogs the same
one ends loading; what is loaded is asked by key only.
-/

namespace MessageCatalog

namespace FileTree

/-- Files and directories stand in the same places; the files may differ in content. -/
structure SamePlaces (left right : FileTree) : Prop where
  files : left.files.map Prod.fst = right.files.map Prod.fst
  directories : left.directories = right.directories
  workingDirectory : left.workingDirectory = right.workingDirectory

inductive SameKind : Found → Found → Prop where
  | file (content other : ByteArray) : SameKind (.file content) (.file other)
  | directory : SameKind .directory .directory

variable {left right : FileTree}

theorem file?_isSome (tree : FileTree) (place : List String) :
    (tree.file? place).isSome = (tree.files.map Prod.fst).any (· == place) := by
  rw [Bool.eq_iff_iff]
  simp [file?, List.any_eq_true]

theorem SamePlaces.hasDirectory (same : SamePlaces left right) (place : List String) :
    left.hasDirectory place = right.hasDirectory place := by
  have below : ∀ tree : FileTree,
      tree.files.any (fun file => place.isPrefixOf file.1 && place != file.1) =
        (tree.files.map Prod.fst).any fun name => place.isPrefixOf name && place != name := by
    intro tree
    rw [List.any_map]
    rfl
  rw [FileTree.hasDirectory, FileTree.hasDirectory, below, below, same.files, same.directories]

theorem SamePlaces.look (same : SamePlaces left right) (place : List String) :
    Outcome.Alike SameKind (left.look place) (right.look place) := by
  have files : (left.file? place).isSome = (right.file? place).isSome := by
    rw [file?_isSome, file?_isSome, same.files]
  unfold FileTree.look
  rw [same.hasDirectory place]
  cases leftFile : left.file? place with
  | some content =>
      cases rightFile : right.file? place with
      | some other => exact .ok (.file content other)
      | none => simp [leftFile, rightFile] at files
  | none =>
      cases rightFile : right.file? place with
      | some other => simp [leftFile, rightFile] at files
      | none =>
          cases right.hasDirectory place with
          | true => exact .ok .directory
          | false => exact .error _

theorem SamePlaces.walk (same : SamePlaces left right) (parts : List (List Char))
    (place : List String) :
    Outcome.Alike SameKind (left.walk place parts) (right.walk place parts) := by
  induction parts generalizing place with
  | nil => exact same.look place
  | cons part parts induction =>
      rw [FileTree.walk, FileTree.walk]
      apply (same.look place).bind
      intro found other kinds
      cases kinds with
      | file => exact .error _
      | directory =>
          dsimp only
          split_ifs
          · exact induction place
          · exact induction place.dropLast
          · exact .error _
          · exact induction _

theorem SamePlaces.find (same : SamePlaces left right) (path : String) :
    Outcome.Alike SameKind (left.find path) (right.find path) := by
  unfold FileTree.find
  dsimp only
  rw [same.workingDirectory]
  split_ifs
  · exact .error _
  · exact .error _
  · exact .error _
  · exact same.walk _ _
  · exact same.walk _ _

theorem SamePlaces.isDirectory (same : SamePlaces left right) (path : String) :
    left.isDirectory path = right.isDirectory path := by
  have found := same.find path
  unfold FileTree.isDirectory
  generalize left.find path = leftFound at found ⊢
  generalize right.find path = rightFound at found ⊢
  cases found with
  | error => rfl
  | ok kinds => cases kinds <;> rfl

end FileTree

namespace Library

open Text

variable {left right tree : FileTree} {indexPath catalog url path : String}

/-- The file at `path` cannot be read in either tree, or can be read as documents that are
related. -/
def SameDocument (related : Node → Node → Prop) (left right : FileTree) (path : String) : Prop :=
  Outcome.Alike
    (fun text other =>
      Option.Rel related (Node.ofText? (DocumentForm.ofPath path.toList) .whole text)
        (Node.ofText? (DocumentForm.ofPath path.toList) .whole other))
    (left.readText path) (right.readText path)

/-- The trees differ in the order of members only: of the index, of the documents of local catalogs,
and of the locale tables in these. -/
structure Rearranged (left right : FileTree) (indexPath : String) : Prop where
  places : FileTree.SamePlaces left right
  index : SameDocument (Node.Reordered Eq) left right indexPath
  catalog :
    ∀ entries catalog url, readIndex left indexPath = .ok entries → IsLocal entries catalog url →
      SameDocument (Node.Reordered (Node.Reordered Eq)) left right
        (catalogPath left (root indexPath) url)

/-- The same entries under the same codes. -/
def SameTable (left right : Table) : Prop := Keyed.Distinct left ∧ left.Perm right

/-- The same tables under the same keys. -/
def SameTables {Key : Type} [DecidableEq Key] (left right : Keyed Table Key) : Prop :=
  Keyed.Distinct left ∧ Keyed.Distinct right ∧
    ∀ key, Option.Rel SameTable (left.get? key) (right.get? key)

/-- The libraries answer alike. -/
structure SameAnswers (left right : Library) : Prop where
  check : ∀ catalog, left.check catalog = right.check catalog
  table : ∀ key, Option.Rel SameTable (left.table? key) (right.table? key)
  locales : ∀ catalog, left.locales catalog = right.locales catalog
  names : left.names = right.names

/-- The local catalog at `url` cannot be read, is malformed, or has no default table. -/
def Blames (tree : FileTree) (root : List Char) (catalog url : String)
    (failure : CatalogError) : Prop :=
  readCatalog tree root catalog url = .error failure ∨
    failure = .missingDefaultLocale catalog ∧
      ∃ document, readCatalog tree root catalog url = .ok document ∧ document.get? "en" = none

/-- Of the local catalogs that are to blame, the one with the least name in byte order fails so. -/
def FirstFailure (tree : FileTree) (indexPath : String) (entries : Keyed Json)
    (failure : CatalogError) : Prop :=
  ∃ catalog url, IsLocal entries catalog url ∧ Blames tree (root indexPath) catalog url failure ∧
    ∀ other otherUrl otherFailure, IsLocal entries other otherUrl →
      Blames tree (root indexPath) other otherUrl otherFailure →
        other = catalog ∨ ByteLess catalog other

section Failing

variable {root : List Char} {index : Keyed Source} {stored : Keyed Table TableKey}
    {failure : CatalogError}

theorem load_catalog_error_iff :
    loadCatalog tree root catalog url = .error failure ↔ Blames tree root catalog url failure := by
  rw [loadCatalog, Outcome.bind_error_iff, Blames]
  apply or_congr_right
  constructor
  · intro outcome
    obtain ⟨document, read, failed⟩ := outcome
    split at failed
    · cases failed
    · next absent =>
        cases failed
        exact ⟨rfl, document, read, Option.not_isSome_iff_eq_none.mp absent⟩
  · intro missing
    obtain ⟨rfl, document, read, absent⟩ := missing
    exact ⟨document, read, if_neg (Option.not_isSome_iff_eq_none.mpr absent)⟩

/-- The entry of the index is local and its catalog fails to load. -/
def Fails (tree : FileTree) (root : List Char) (entry : String × Source)
    (failure : CatalogError) : Prop :=
  ∃ url, entry.2 = .here url ∧ loadCatalog tree root entry.1 url = .error failure

theorem load_catalogs_of_fails {entry : String × Source} (fails : Fails tree root entry failure) :
    loadCatalogs tree root (entry :: index) stored = .error failure := by
  obtain ⟨name, source⟩ := entry
  obtain ⟨url, rfl, failed⟩ := fails
  exact Outcome.bind_error_iff.mpr (Or.inl failed)

theorem load_catalogs_of_loads {entry : String × Source}
    (loads : ∀ failure, ¬ Fails tree root entry failure) :
    ∃ others, loadCatalogs tree root (entry :: index) stored =
      loadCatalogs tree root index others := by
  obtain ⟨name, source⟩ := entry
  cases source with
  | here url =>
      cases attempt : loadCatalog tree root name url with
      | error failure => exact absurd ⟨url, rfl, attempt⟩ (loads failure)
      | ok document =>
          refine ⟨store name document stored, ?_⟩
          rw [loadCatalogs, attempt]
          rfl
  | remote _ => exact ⟨stored, rfl⟩
  | unsupported _ => exact ⟨stored, rfl⟩
  | notText _ => exact ⟨stored, rfl⟩

/-- The first entry of the index that fails decides how loading fails. -/
theorem load_catalogs_error_iff (rising : (Keyed.keys index).Pairwise ByteLess) :
    loadCatalogs tree root index stored = .error failure ↔
      ∃ entry ∈ index, Fails tree root entry failure ∧ ∀ other ∈ index, ∀ otherFailure,
        Fails tree root other otherFailure → other.1 = entry.1 ∨ ByteLess entry.1 other.1 := by
  induction index generalizing stored with
  | nil => simp [loadCatalogs]
  | cons first index induction =>
      have later : ∀ entry ∈ index, ByteLess first.1 entry.1 := fun entry inside =>
        (List.pairwise_cons.mp rising).1 entry.1 (Keyed.key_mem_keys inside)
      by_cases broken : ∃ cause, Fails tree root first cause
      · obtain ⟨cause, fails⟩ := broken
        rw [load_catalogs_of_fails fails]
        constructor
        · intro same
          cases same
          refine ⟨first, List.mem_cons_self, fails, fun other member _ _ => ?_⟩
          rcases List.mem_cons.mp member with rfl | inside
          · exact Or.inl rfl
          · exact Or.inr (later other inside)
        · intro outcome
          obtain ⟨entry, member, entryFails, least⟩ := outcome
          rcases List.mem_cons.mp member with rfl | inside
          · obtain ⟨_, local_entry, failed⟩ := fails
            obtain ⟨_, same, entryFailed⟩ := entryFails
            rw [local_entry] at same
            cases same
            rw [failed] at entryFailed
            cases entryFailed
            rfl
          · have before := later entry inside
            rcases least first List.mem_cons_self cause fails with same | after
            · rw [same] at before
              exact absurd before (byte_less_asymm before)
            · exact absurd after (byte_less_asymm before)
      · have loads : ∀ cause, ¬ Fails tree root first cause := not_exists.mp broken
        obtain ⟨others, onward⟩ : ∃ others, loadCatalogs tree root (first :: index) stored =
            loadCatalogs tree root index others := load_catalogs_of_loads loads
        rw [onward, induction (List.pairwise_cons.mp rising).2]
        constructor
        · intro outcome
          obtain ⟨entry, inside, fails, least⟩ := outcome
          refine ⟨entry, List.mem_cons_of_mem first inside, fails,
            fun other member cause otherFails => ?_⟩
          rcases List.mem_cons.mp member with rfl | otherInside
          · exact absurd otherFails (loads cause)
          · exact least other otherInside cause otherFails
        · intro outcome
          obtain ⟨entry, member, fails, least⟩ := outcome
          rcases List.mem_cons.mp member with rfl | inside
          · exact absurd fails (loads failure)
          · exact ⟨entry, inside, fails,
              fun other otherInside => least other (List.mem_cons_of_mem first otherInside)⟩

end Failing

theorem load_error_iff {failure : CatalogError} :
    load tree indexPath = .error failure ↔ readIndex tree indexPath = .error failure ∨
      ∃ entries, readIndex tree indexPath = .ok entries ∧
        FirstFailure tree indexPath entries failure := by
  have ends : load tree indexPath = .error failure ↔ readIndex tree indexPath = .error failure ∨
      ∃ entries, readIndex tree indexPath = .ok entries ∧
        loadCatalogs tree (root indexPath) (sourcesOf entries) [] = .error failure := by
    rw [load, Outcome.bind_error_iff]
    simp only [Outcome.bind_error_iff, reduceCtorEq, and_false, exists_false, or_false]
  rw [ends]
  apply or_congr_right
  apply exists_congr
  intro entries
  apply and_congr_right
  intro read
  have distinct := read_index_distinct read
  rw [load_catalogs_error_iff (keys_sourcesOf_rising distinct)]
  constructor
  · intro outcome
    obtain ⟨entry, member, fails, least⟩ := outcome
    obtain ⟨name, source⟩ := entry
    obtain ⟨url, rfl, failed⟩ := fails
    refine ⟨name, url, (mem_sourcesOf_iff distinct name url).mp member,
      load_catalog_error_iff.mp failed, ?_⟩
    intro other otherUrl otherFailure isLocal blamed
    exact least (other, .here otherUrl) ((mem_sourcesOf_iff distinct other otherUrl).mpr isLocal)
      otherFailure ⟨otherUrl, rfl, load_catalog_error_iff.mpr blamed⟩
  · intro first
    obtain ⟨name, url, isLocal, blamed, least⟩ := first
    refine ⟨(name, .here url), (mem_sourcesOf_iff distinct name url).mpr isLocal,
      ⟨url, rfl, load_catalog_error_iff.mpr blamed⟩, ?_⟩
    intro entry member otherFailure fails
    obtain ⟨other, source⟩ := entry
    obtain ⟨otherUrl, rfl, failed⟩ := fails
    exact least other otherUrl otherFailure ((mem_sourcesOf_iff distinct other otherUrl).mp member)
      (load_catalog_error_iff.mp failed)

section Rearranging

variable {related : Node → Node → Prop} {rootDirectory : List Char}

theorem read_document_alike {Value : Type} {alike : Value → Value → Prop}
    {decode : Node → Option Value} (same : SameDocument related left right path)
    (each : ∀ node other, related node other → Option.Rel alike (decode node) (decode other))
    (blame : ReadError → CatalogError) :
    Outcome.Alike alike (readDocument left path blame decode)
      (readDocument right path blame decode) := by
  unfold readDocument
  unfold SameDocument at same
  generalize left.readText path = leftText at same ⊢
  generalize right.readText path = rightText at same ⊢
  cases same with
  | error cause => exact .error _
  | @ok text other nodes =>
      have decoded : Option.Rel alike
          ((Node.ofText? (DocumentForm.ofPath path.toList) .whole text).bind decode)
          ((Node.ofText? (DocumentForm.ofPath path.toList) .whole other).bind decode) :=
        Outcome.rel_bind nodes each
      dsimp only
      generalize (Node.ofText? (DocumentForm.ofPath path.toList) .whole text).bind decode = value
        at decoded ⊢
      generalize (Node.ofText? (DocumentForm.ofPath path.toList) .whole other).bind decode =
        otherValue at decoded ⊢
      cases decoded with
      | none => exact .error _
      | some values => exact .ok values

theorem rel_of_eq {Value : Type} {left right : Option Value} (same : left = right) :
    Option.Rel Eq left right := by
  rw [same]
  cases right with
  | none => exact .none
  | some value => exact .some rfl

theorem decodeIndex?_alike (node other : Node) (reordered : Node.Reordered Eq node other) :
    Option.Rel (Keyed.Reordered Eq) (decodeIndex? node) (decodeIndex? other) :=
  Node.keyed?_reordered (fun _ _ same => rel_of_eq (congrArg Node.toJson? same)) (fun _ _ _ => rfl)
    reordered

theorem decodeTable?_alike (node other : Node) (reordered : Node.Reordered Eq node other) :
    Option.Rel SameTable (node.keyed? Entry.ofNode?) (other.keyed? Entry.ofNode?) := by
  have decoded :
      Option.Rel (Keyed.Reordered Eq) (node.keyed? Entry.ofNode?) (other.keyed? Entry.ofNode?) :=
    Node.keyed?_reordered (fun _ _ same => rel_of_eq (congrArg Entry.ofNode? same))
      (fun _ _ _ => rfl) reordered
  refine Outcome.rel_mono ?_ (Outcome.rel_attach decoded)
  intro table otherTable parts
  exact ⟨Node.keyed?_distinct parts.1, parts.2.2.perm⟩

theorem decodeCatalog?_alike (node other : Node)
    (reordered : Node.Reordered (Node.Reordered Eq) node other) :
    Option.Rel SameTables (decodeCatalog? node) (decodeCatalog? other) := by
  have itself : ∀ node table, Node.keyed? Entry.ofNode? node = some table → SameTable table table :=
    fun _ _ found => ⟨Node.keyed?_distinct found, .refl _⟩
  have decoded := Node.keyed?_reordered decodeTable?_alike itself reordered
  refine Outcome.rel_mono ?_ (Outcome.rel_attach decoded)
  intro document otherDocument parts
  exact ⟨Node.keyed?_distinct parts.1, Node.keyed?_distinct parts.2.1, parts.2.2.get?⟩

theorem load_catalog_alike (places : FileTree.SamePlaces left right)
    (same : SameDocument (Node.Reordered (Node.Reordered Eq)) left right
      (catalogPath left rootDirectory url)) :
    Outcome.Alike SameTables (loadCatalog left rootDirectory catalog url)
      (loadCatalog right rootDirectory catalog url) := by
  have samePath : catalogPath right rootDirectory url = catalogPath left rootDirectory url := by
    rw [catalogPath, catalogPath, places.isDirectory]
  have read := read_document_alike same decodeCatalog?_alike
    (.unreadableCatalog catalog (catalogPath left rootDirectory url))
  unfold loadCatalog readCatalog
  rw [samePath]
  apply read.bind
  intro document other alike
  have present : (document.get? defaultLocale).isSome = (other.get? defaultLocale).isSome := by
    have found := alike.2.2 defaultLocale
    generalize document.get? defaultLocale = table at found ⊢
    generalize other.get? defaultLocale = otherTable at found ⊢
    cases found <;> rfl
  rw [present]
  split_ifs
  · exact .ok alike
  · exact .error _

theorem store_alike (catalog : String) {document other : Keyed Table}
    {stored others : Keyed Table TableKey} (documents : SameTables document other)
    (below : SameTables stored others) :
    SameTables (store catalog document stored) (store catalog other others) := by
  refine ⟨distinct_store catalog document below.1, distinct_store catalog other below.2.1, ?_⟩
  intro key
  obtain ⟨name, locale⟩ := key
  by_cases own : catalog = name
  · rw [← own, get?_store_self catalog locale documents.1,
      get?_store_self catalog locale documents.2.1]
    exact Outcome.rel_or (documents.2.2 locale) (below.2.2 ⟨catalog, locale⟩)
  · rw [get?_store_of_ne locale documents.1 own, get?_store_of_ne locale documents.2.1 own]
    exact below.2.2 ⟨name, locale⟩

theorem load_catalogs_alike {index : Keyed Source} {stored others : Keyed Table TableKey}
    (each : ∀ catalog url, (catalog, Source.here url) ∈ index → Outcome.Alike SameTables
      (loadCatalog left rootDirectory catalog url) (loadCatalog right rootDirectory catalog url))
    (below : SameTables stored others) :
    Outcome.Alike SameTables (loadCatalogs left rootDirectory index stored)
      (loadCatalogs right rootDirectory index others) := by
  induction index generalizing stored others with
  | nil => exact .ok below
  | cons entry index induction =>
      obtain ⟨name, source⟩ := entry
      have later : ∀ catalog url, (catalog, Source.here url) ∈ index → Outcome.Alike SameTables
          (loadCatalog left rootDirectory catalog url)
          (loadCatalog right rootDirectory catalog url) :=
        fun catalog url inside => each catalog url (List.mem_cons_of_mem _ inside)
      cases source with
      | here url =>
          apply (each name url List.mem_cons_self).bind
          intro document other documents
          exact induction later (store_alike name documents below)
      | remote _ => exact induction later below
      | unsupported _ => exact induction later below
      | notText _ => exact induction later below

theorem sourcesOf_congr {entries others : Keyed Json} (distinct : Keyed.Distinct entries)
    (same : entries.Perm others) : sourcesOf entries = sourcesOf others := by
  have otherDistinct : Keyed.Distinct others := (same.map Prod.fst).nodup_iff.mp distinct
  have perm : (sourcesOf entries).Perm (sourcesOf others) :=
    (Keyed.sorted_perm _).trans ((same.map _).trans (Keyed.sorted_perm _).symm)
  refine perm.eq_of_pairwise ?_ (List.pairwise_map.mp (keys_sourcesOf_rising distinct))
    (List.pairwise_map.mp (keys_sourcesOf_rising otherDistinct))
  intro entry other _ _ before after
  exact absurd after (byte_less_asymm before)

theorem sameTables_nil : SameTables ([] : Keyed Table TableKey) [] :=
  ⟨List.Pairwise.nil, List.Pairwise.nil, fun _ => .none⟩

theorem locales_congr {library other : Library} (catalog : String)
    (distinct : Keyed.Distinct library.tables) (otherDistinct : Keyed.Distinct other.tables)
    (same : ∀ key, Option.Rel SameTable (library.table? key) (other.table? key)) :
    library.locales catalog = other.locales catalog := by
  have present : ∀ locale, locale ∈ library.locales catalog ↔ locale ∈ other.locales catalog := by
    intro locale
    have found := same ⟨catalog, locale⟩
    rw [mem_locales_iff, mem_locales_iff]
    generalize library.table? ⟨catalog, locale⟩ = table at found ⊢
    generalize other.table? ⟨catalog, locale⟩ = otherTable at found ⊢
    cases found <;> simp
  have rising := (library.locales_rising distinct catalog).imp (byte_less_iff _ _).mp
  have otherRising := (other.locales_rising otherDistinct catalog).imp (byte_less_iff _ _).mp
  exact rising.sortedLT.eq_of_mem_iff otherRising.sortedLT present

theorem answers_alike (indexPath : String) (index : Keyed Source)
    {tables others : Keyed Table TableKey} (same : SameTables tables others) :
    SameAnswers ⟨indexPath, index, tables⟩ ⟨indexPath, index, others⟩ where
  check _ := rfl
  table := same.2.2
  locales catalog := locales_congr catalog same.1 same.2.1 same.2.2
  names := rfl

theorem load_alike_of_rearranged (rearranged : Rearranged left right indexPath) :
    Outcome.Alike SameAnswers (load left indexPath) (load right indexPath) := by
  have index := read_document_alike rearranged.index decodeIndex?_alike (.unreadableIndex indexPath)
  apply (Outcome.Alike.attach index).bind
  intro entries others parts
  obtain ⟨read, _, reordered⟩ := parts
  have distinct := read_index_distinct read
  dsimp only
  rw [← sourcesOf_congr distinct reordered.perm]
  apply Outcome.Alike.bind (load_catalogs_alike ?_ sameTables_nil)
  · intro tables otherTables same
    exact .ok (answers_alike indexPath _ same)
  · intro catalog url member
    have isLocal := (mem_sourcesOf_iff distinct catalog url).mp member
    exact load_catalog_alike rearranged.places (rearranged.catalog entries catalog url read isLocal)

end Rearranging

/-- Trees whose documents differ in the order of members only load alike. If loading fails, it is
for the index, or for the first local catalog in byte order of the names that is to blame. -/
theorem load_order_independent (rearranged : Rearranged left right indexPath) :
    Outcome.Alike SameAnswers (load left indexPath) (load right indexPath) ∧
      ∀ failure, load left indexPath = .error failure ↔ readIndex left indexPath = .error failure ∨
        ∃ entries, readIndex left indexPath = .ok entries ∧
          FirstFailure left indexPath entries failure :=
  ⟨load_alike_of_rearranged rearranged, fun _ => load_error_iff⟩

section Orders

/-- The index of two catalogs that share the file `c.json`. -/
def twoCatalogs (index catalog : String) : FileTree where
  files := [(["index.json"], index.toUTF8), (["c.json"], catalog.toUTF8)]
  directories := []
  workingDirectory := []

def fallingIndex : String :=
  "\x7b\"d\":\x7b\"url\":\"file://c.json\"\x7d,\"c\":\x7b\"url\":\"file://c.json\"\x7d\x7d"

def risingIndex : String :=
  "\x7b\"c\":\x7b\"url\":\"file://c.json\"\x7d,\"d\":\x7b\"url\":\"file://c.json\"\x7d\x7d"

def fallingCatalog : String :=
  "\x7b\"en\":\x7b\"Y\":\x7b\x7d,\"X\":\x7b\x7d\x7d,\"de\":\x7b\x7d\x7d"

def risingCatalog : String := "\x7b\"de\":\x7b\x7d,\"en\":\x7b\"X\":\x7b\x7d,\"Y\":\x7b\x7d\x7d\x7d"

def jsonMember (key : String) (node : Node) : Node × Node :=
  (.scalar (Json.Reader.textScalar (some key)), node)

def urlNode : Node :=
  .mapping [jsonMember "url" (.scalar (Json.Reader.textScalar (some "file://c.json")))]

def urlEntry : Json := .object [("url", .text "file://c.json")]

def emptyEntry : Entry := ⟨none, none, none, none, none, []⟩

theorem falling_index_written :
    Node.ofText? .json .whole fallingIndex =
      some (.mapping [jsonMember "d" urlNode, jsonMember "c" urlNode]) := by
  cbv

theorem rising_index_written :
    Node.ofText? .json .whole risingIndex =
      some (.mapping [jsonMember "c" urlNode, jsonMember "d" urlNode]) := by
  cbv

theorem falling_catalog_written : Node.ofText? .json .whole fallingCatalog =
    some (.mapping
      [jsonMember "en" (.mapping [jsonMember "Y" (.mapping []), jsonMember "X" (.mapping [])]),
        jsonMember "de" (.mapping [])]) := by cbv

theorem rising_catalog_written : Node.ofText? .json .whole risingCatalog =
    some (.mapping [jsonMember "de" (.mapping []),
      jsonMember "en"
        (.mapping [jsonMember "X" (.mapping []), jsonMember "Y" (.mapping [])])]) := by cbv

theorem same_document_of_texts {related : Node → Node → Prop} {text other : String}
    {node otherNode : Node} (found : left.find path = .ok (.file text.toUTF8))
    (otherFound : right.find path = .ok (.file other.toUTF8))
    (written : Node.ofText? (DocumentForm.ofPath path.toList) .whole text = some node)
    (otherWritten : Node.ofText? (DocumentForm.ofPath path.toList) .whole other = some otherNode)
    (nodes : related node otherNode) : SameDocument related left right path := by
  rw [SameDocument, FileTree.readText_of_file found, FileTree.readText_of_file otherFound]
  apply Outcome.Alike.ok
  rw [written, otherWritten]
  exact .some nodes

theorem reordered_swap {Value : Type} {related : Value → Value → Prop} {first second : String}
    {left leftOther right rightOther : Value} (differ : first ≠ second)
    (lefts : related left leftOther) (rights : related right rightOther) :
    Keyed.Reordered related [(first, left), (second, right)]
      [(second, rightOther), (first, leftOther)] := by
  refine ⟨[(second, right), (first, left)], Or.inr ⟨?_, .swap _ _ []⟩,
    .cons ⟨rfl, rights⟩ (.cons ⟨rfl, lefts⟩ .nil)⟩
  simpa [Keyed.Distinct, Keyed.keys] using differ

theorem read_falling_index (catalog : String) :
    readIndex (twoCatalogs fallingIndex catalog) "index.json" =
      .ok [("d", urlEntry), ("c", urlEntry)] := by
  have found :
      (twoCatalogs fallingIndex catalog).find "index.json" = .ok (.file fallingIndex.toUTF8) := rfl
  apply read_document_of_file found
  change (Node.ofText? .json .whole fallingIndex).bind decodeIndex? = _
  rw [falling_index_written]
  rfl

theorem read_rising_index (catalog : String) :
    readIndex (twoCatalogs risingIndex catalog) "index.json" =
      .ok [("c", urlEntry), ("d", urlEntry)] := by
  have found :
      (twoCatalogs risingIndex catalog).find "index.json" = .ok (.file risingIndex.toUTF8) := rfl
  apply read_document_of_file found
  change (Node.ofText? .json .whole risingIndex).bind decodeIndex? = _
  rw [rising_index_written]
  rfl

theorem rearranged_orders : Rearranged (twoCatalogs fallingIndex fallingCatalog)
    (twoCatalogs risingIndex risingCatalog) "index.json" where
  places := ⟨rfl, rfl, rfl⟩
  index := same_document_of_texts rfl rfl falling_index_written rising_index_written
    (.members rfl rfl (reordered_swap (by decide) rfl rfl))
  catalog entries catalog url read isLocal := by
    rw [read_falling_index] at read
    cases read
    obtain ⟨entry, _, _, found, isText, _⟩ := isLocal
    have member : catalog = "d" ∧ entry = urlEntry ∨ catalog = "c" ∧ entry = urlEntry := by
      simpa using Keyed.mem_of_get? found
    have same : entry = urlEntry := member.elim And.right And.right
    rw [same] at isText
    cases isText
    have codes : Node.Reordered Eq
        (.mapping [jsonMember "Y" (.mapping []), jsonMember "X" (.mapping [])])
        (.mapping [jsonMember "X" (.mapping []), jsonMember "Y" (.mapping [])]) :=
      .members rfl rfl (reordered_swap (by decide) rfl rfl)
    have locales : Keyed.Reordered (Node.Reordered Eq)
        [("en", .mapping [jsonMember "Y" (.mapping []), jsonMember "X" (.mapping [])]),
          ("de", .mapping [])]
        [("de", .mapping []),
          ("en", .mapping [jsonMember "X" (.mapping []), jsonMember "Y" (.mapping [])])] :=
      reordered_swap (by decide) codes (.same _)
    exact same_document_of_texts rfl rfl falling_catalog_written rising_catalog_written
      (.members rfl rfl locales)

theorem rising_catalog_decoded : (Node.ofText? .json .whole risingCatalog).bind decodeCatalog? =
    some [("de", []), ("en", [("X", emptyEntry), ("Y", emptyEntry)])] := by
  rw [rising_catalog_written]
  rfl

theorem load_rising :
    ∃ library, load (twoCatalogs risingIndex risingCatalog) "index.json" = .ok library := by
  have leads :
      catalogPath (twoCatalogs risingIndex risingCatalog) (root "index.json") "file://c.json" =
        "c.json" :=
    rfl
  have found : (twoCatalogs risingIndex risingCatalog).find "c.json" =
      .ok (.file risingCatalog.toUTF8) := rfl
  have read : ∀ catalog,
      readCatalog (twoCatalogs risingIndex risingCatalog) (root "index.json") catalog
        "file://c.json" = .ok [("de", []), ("en", [("X", emptyEntry), ("Y", emptyEntry)])] :=
    fun _ => read_catalog_of_file leads found rising_catalog_decoded
  have loaded := fun catalog => load_catalog_ok_iff.mpr ⟨read catalog, rfl⟩
  have sources : sourcesOf [("c", urlEntry), ("d", urlEntry)] =
      [("c", .here "file://c.json"), ("d", .here "file://c.json")] := by
    rw [sourcesOf_of_rising (by decide +kernel)]
    rfl
  rw [load, read_rising_index]
  simp only [bind, Except.bind, sources, loadCatalogs, loaded]
  exact ⟨_, rfl⟩

theorem load_order_independent_falling : ∃ library other,
    load (twoCatalogs fallingIndex fallingCatalog) "index.json" = .ok library ∧
      load (twoCatalogs risingIndex risingCatalog) "index.json" = .ok other ∧
        SameAnswers library other := by
  have alike := (load_order_independent rearranged_orders).1
  obtain ⟨other, loaded⟩ := load_rising
  rw [loaded] at alike ⊢
  cases found : load (twoCatalogs fallingIndex fallingCatalog) "index.json" with
  | error failure =>
      rw [found] at alike
      cases alike
  | ok library =>
      rw [found] at alike
      cases alike with
      | ok answers => exact ⟨library, other, rfl, rfl, answers⟩

end Orders

end Library

end MessageCatalog
