import MessageCatalog.Files.Path
import MessageCatalog.Text.Utf8

/-!
A file system as a value: files and empty directories by the names on the way from the root, and
the directory that relative paths start from. A path is walked name by name, so that the reason of a
failure is the one found first on the way.
-/

namespace MessageCatalog

structure FileTree where
  files : List (List String × ByteArray)
  directories : List (List String)
  workingDirectory : List String

inductive ReadError where
  | notFound
  | notDirectory
  | isDirectory
  | nameTooLong
  | invalidText
  | nulInName
deriving DecidableEq

def ReadError.message : ReadError → String
  | notFound => "No such file or directory (os error 2)"
  | notDirectory => "Not a directory (os error 20)"
  | isDirectory => "Is a directory (os error 21)"
  | nameTooLong => "File name too long (os error 36)"
  | invalidText => "stream did not contain valid UTF-8"
  | nulInName => "file name contained an unexpected NUL byte"

namespace FileTree

inductive Found where
  | file (content : ByteArray)
  | directory

def file? (tree : FileTree) (place : List String) : Option ByteArray :=
  (tree.files.find? (·.1 == place)).map Prod.snd

def hasDirectory (tree : FileTree) (place : List String) : Bool :=
  tree.directories.any place.isPrefixOf ||
    tree.files.any (fun file => place.isPrefixOf file.1 && place != file.1) || place.isEmpty

def look (tree : FileTree) (place : List String) : Except ReadError Found :=
  match tree.file? place with
  | some content => .ok (.file content)
  | none => if tree.hasDirectory place then .ok .directory else .error .notFound

/-- The greatest size of a name in bytes. -/
def nameLimit : Nat := 255

/-- The greatest size of a path in bytes. -/
def pathLimit : Nat := 4095

def walk (tree : FileTree) : List String → List (List Char) → Except ReadError Found
  | place, [] => tree.look place
  | place, part :: parts => do
      match ← tree.look place with
      | .file _ => .error .notDirectory
      | .directory =>
          if part.isEmpty || part == ['.'] then walk tree place parts
          else if part == ['.', '.'] then walk tree place.dropLast parts
          else if nameLimit < Text.byteCount part then .error .nameTooLong
          else walk tree (place ++ [String.ofList part]) parts

def find (tree : FileTree) (path : String) : Except ReadError Found :=
  let text := path.toList
  if text.contains '\x00' then .error .nulInName
  else if text.isEmpty then .error .notFound
  else if pathLimit < Text.byteCount text then .error .nameTooLong
  else walk tree (if Path.isAbsolute text then [] else tree.workingDirectory) (Path.split text)

def isDirectory (tree : FileTree) (path : String) : Bool :=
  match tree.find path with
  | .ok .directory => true
  | _ => false

def exists? (tree : FileTree) (path : String) : Bool := (tree.find path).isOk

/-- The content of a file, which must be UTF-8. -/
def readText (tree : FileTree) (path : String) : Except ReadError String := do
  match ← tree.find path with
  | .directory => .error .isDirectory
  | .file content =>
      match String.fromUTF8? content with
      | some text => .ok text
      | none => .error .invalidText

theorem readText_of_file {tree : FileTree} {path text : String}
    (found : tree.find path = .ok (.file text.toUTF8)) : tree.readText path = .ok text := by
  have decoded := Text.fromUTF8?_toUTF8 text
  unfold readText
  rw [found]
  simp only [bind, Except.bind, decoded]

end FileTree

end MessageCatalog
