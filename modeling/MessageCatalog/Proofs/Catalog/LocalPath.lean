import MessageCatalog.Catalog.Library
import MessageCatalog.Proofs.Catalog.Source
import MessageCatalog.Proofs.Text.AsciiCase

/-!
The path of a local url. The scheme is the first seven bytes of the url in whatever case, so that
all of what stands behind it counts, and the path made of that is joined to the directory of the
index and never takes its place. Paths are as they are spelled: parents are not resolved.
-/

namespace MessageCatalog

namespace Text

theorem byteCount_of_ascii {text : List Char} (ascii : ∀ c ∈ text, c.toNat < 0x80) :
    byteCount text = text.length := by
  induction text with
  | nil => rfl
  | cons c rest induction =>
      obtain ⟨native, others⟩ := List.forall_mem_cons.mp ascii
      have single : c.utf8Size = 1 := by
        rw [Char.utf8Size_eq_one_iff, UInt32.le_iff_toNat_le, Char.toNat_val]
        exact Nat.le_of_lt_succ native
      rw [byteCount, single, induction others, List.length_cons, Nat.add_comm]

end Text

namespace Path

/-- What a join puts between the base and a path that is not absolute. -/
def joint (base : List Char) : List Char :=
  if base.isEmpty || base.getLast? == some '/' then [] else ['/']

theorem join_of_relative (base : List Char) {path : List Char}
    (relative : isAbsolute path = false) :
    join base path = base ++ (joint base ++ path) := by
  rw [join, joint, relative, Bool.false_or]
  by_cases bare : base.isEmpty = true
  · rw [if_pos bare, bare, Bool.true_or, if_pos rfl, List.isEmpty_iff.mp bare]
    rfl
  · have given : base.isEmpty = false := by simpa using bare
    rw [given, Bool.false_or, if_neg (by decide)]
    split <;> rfl

end Path

namespace Source

open Text

theorem fileScheme_plain :
    ∀ sign ∈ fileScheme, sign.toNat < 0x80 ∧ sign.toLower = sign ∧ sign ≠ 's' ∧ sign ≠ 'k' := by
  have all : (fileScheme.all fun sign =>
      decide (sign.toNat < 0x80 ∧ sign.toLower = sign ∧ sign ≠ 's' ∧ sign ≠ 'k')) = true := by
        decide
  exact fun sign member => of_decide_eq_true (List.all_eq_true.mp all sign member)

theorem sameText_fileScheme_iff (text : List Char) :
    SameText fileScheme text ↔ text.map Char.toLower = fileScheme :=
  sameText_iff_lower fileScheme_plain text

/-- The letters of a scheme have one byte each. -/
theorem byteCount_scheme {scheme : List Char} (variant : scheme.map Char.toLower = fileScheme) :
    byteCount scheme = 7 := by
  have ascii : ∀ c ∈ scheme, c.toNat < 0x80 := by
    intro c member
    have inside : c.toLower ∈ fileScheme := variant ▸ List.mem_map_of_mem member
    have small : c.toLower.toNat < 0x80 := (fileScheme_plain _ inside).1
    have lowered := toNat_toLower c
    split at lowered <;> omega
  rw [byteCount_of_ascii ascii, ← List.length_map Char.toLower, variant]
  rfl

theorem isLocalUrl_of_scheme {scheme : List Char} (variant : scheme.map Char.toLower = fileScheme)
    (rest : List Char) :
    isLocalUrl (scheme ++ rest) = true :=
  (isLocalUrl_iff _).mpr ⟨scheme, rest, rfl, (sameText_fileScheme_iff scheme).mpr variant⟩

theorem relativePath_of_scheme {scheme : List Char} (variant : scheme.map Char.toLower = fileScheme)
    (rest : List Char) :
    relativePath (scheme ++ rest) = (dropDotSlashes rest).dropWhile (· == '/') := by
  have found : dropStart? fileScheme (scheme ++ rest) = some rest :=
    dropStart?_eq_some_iff.mpr ⟨scheme, rfl, (sameText_fileScheme_iff scheme).mpr variant⟩
  rw [relativePath, found]
  rfl

/-- Any number of `./`. -/
def dotSlashes (count : Nat) : List Char := (List.replicate count ['.', '/']).flatten

theorem dropDotSlashes_append (count : Nat) (rest : List Char) :
    dropDotSlashes (dotSlashes count ++ rest) = dropDotSlashes rest := by
  induction count with
  | zero => rfl
  | succ count induction =>
      rw [dotSlashes, List.replicate_succ, List.flatten_cons]
      exact induction

theorem dropDotSlashes_of_other {text : List Char} (other : ¬ ['.', '/'] <+: text) :
    dropDotSlashes text = text := by
  unfold dropDotSlashes
  split
  · next rest => exact absurd ⟨rest, rfl⟩ other
  · rfl

/-- Leading `./` and the slashes behind them are dropped. -/
theorem relativePath_of_leading {scheme rest : List Char}
    (variant : scheme.map Char.toLower = fileScheme) (noDot : ¬ ['.', '/'] <+: rest)
    (noSlash : ¬ ['/'] <+: rest) (dots slashes : Nat) :
    relativePath (scheme ++ (dotSlashes dots ++ (List.replicate slashes '/' ++ rest))) = rest := by
  have unslashed : rest.dropWhile (· == '/') = rest := by
    cases rest with
    | nil => rfl
    | cons c behind =>
        have other : c ≠ '/' := fun slash => noSlash ⟨behind, by rw [slash]; rfl⟩
        simp [other]
  have undotted :
      dropDotSlashes (List.replicate slashes '/' ++ rest) = List.replicate slashes '/' ++ rest := by
    cases slashes with
    | zero => exact dropDotSlashes_of_other noDot
    | succ slashes => rfl
  have dropped :
      (List.replicate slashes '/' ++ rest).dropWhile (· == '/') = rest.dropWhile (· == '/') :=
    List.dropWhile_append_of_pos (by intro c member; simp [List.eq_of_mem_replicate member])
  rw [relativePath_of_scheme variant, dropDotSlashes_append, undotted, dropped, unslashed]

end Source

namespace Library

open Source

theorem catalogPath_of_relativePath {url : String} {path : List Char}
    (leads : relativePath url.toList = path) (tree : FileTree) (root : List Char) :
    catalogPath tree root url = String.ofList
      (if tree.isDirectory (String.ofList (Path.join root path)) then
        Path.join (Path.join root path) "index.json".toList
      else Path.join root path) := by
  rw [catalogPath, leads]

theorem prefix_catalogPath (tree : FileTree) (root : List Char) (url : String) :
    root <+: (catalogPath tree root url).toList := by
  have below := Path.prefix_join root _ (relativePath_not_absolute url.toList)
  rw [catalogPath_of_relativePath rfl, String.toList_ofList]
  split
  · exact below.trans (Path.prefix_join _ _ (by decide))
  · exact below

/-- The first seven bytes of a local url are the scheme in some case, and the path is made of all
the rest: it is relative, so that joining it to the directory of the index keeps that directory in
front. Leading `./` and slashes behind them make no difference to it. -/
theorem local_paths_stay_under_root (tree : FileTree) (root : List Char) :
    (∀ value url, classify value = .here url →
      ∃ scheme remainder,
        Text.splitBytes? 7 url.toList = some (scheme, remainder) ∧
          scheme ++ remainder = url.toList ∧ scheme.map Char.toLower = "file://".toList ∧
          relativePath url.toList = (dropDotSlashes remainder).dropWhile (· == '/') ∧
          (relativePath url.toList).head? ≠ some '/' ∧
          Path.join root (relativePath url.toList) =
            root ++ (Path.joint root ++ relativePath url.toList) ∧
          root <+: (catalogPath tree root url).toList) ∧
      ∀ scheme rest, scheme.map Char.toLower = "file://".toList → ¬ ['.', '/'] <+: rest →
        ¬ ['/'] <+: rest → ∀ dots slashes,
          let url :=
            String.ofList (scheme ++ (dotSlashes dots ++ (List.replicate slashes '/' ++ rest)))
          classify (some (.text url)) = .here url ∧
            catalogPath tree root url = catalogPath tree root (String.ofList (scheme ++ rest)) ∧
            catalogPath tree root url = String.ofList
              (if tree.isDirectory (String.ofList (Path.join root rest)) then
                Path.join (Path.join root rest) "index.json".toList
              else Path.join root rest) := by
  constructor
  · intro value url local_url
    obtain ⟨_, isLocal⟩ := (classify_eq_here_iff value url).mp local_url
    obtain ⟨scheme, remainder, shape, same⟩ := (isLocalUrl_iff url.toList).mp isLocal
    have variant := (sameText_fileScheme_iff scheme).mp same
    have cut := Text.splitBytes?_byteCount scheme remainder
    rw [byteCount_scheme variant, ← shape] at cut
    have path := relativePath_of_scheme variant remainder
    rw [← shape] at path
    have relative := relativePath_not_absolute url.toList
    have noSlash : (relativePath url.toList).head? ≠ some '/' := path ▸ dropWhile_head_ne _
    exact ⟨scheme, remainder, cut, shape.symm, variant, path, noSlash,
      Path.join_of_relative root relative, prefix_catalogPath tree root url⟩
  · intro scheme rest variant noDot noSlash dots slashes url
    have text : url.toList = scheme ++ (dotSlashes dots ++ (List.replicate slashes '/' ++ rest)) :=
      String.toList_ofList
    have isLocal : isLocalUrl url.toList = true := text ▸ isLocalUrl_of_scheme variant _
    have path : relativePath url.toList = rest :=
      text ▸ relativePath_of_leading variant noDot noSlash dots slashes
    have bare : relativePath (String.ofList (scheme ++ rest)).toList = rest := by
      rw [String.toList_ofList]
      exact relativePath_of_leading variant noDot noSlash 0 0
    refine ⟨(classify_eq_here_iff _ url).mpr ⟨rfl, isLocal⟩, ?_,
      catalogPath_of_relativePath path tree root⟩
    rw [catalogPath_of_relativePath path, catalogPath_of_relativePath bare]

/-- Slashes in front of a dot stay out of the path, but the dot behind them does not. -/
example : relativePath "FILE://././//./a.json".toList = "./a.json".toList := by decide +kernel

end Library

end MessageCatalog
