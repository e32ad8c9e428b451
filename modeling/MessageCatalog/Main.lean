import MessageCatalog.Startup.Launch

/-!
The command line: the arguments, the environment and the files below the working directory are
gathered, the start is decided on them, and the outcome is printed.
-/

open MessageCatalog

/-- The entries of a directory, with the names that lead there. -/
partial def gather (place : List String) (entries : Array IO.FS.DirEntry) (tree : FileTree) :
    IO FileTree := do
  let mut tree := { tree with directories := place :: tree.directories }
  for entry in entries do
    let here := place ++ [entry.fileName]
    if ← entry.path.isDir then
      tree ← gather here (← entry.path.readDir) tree
    else
      tree := { tree with files := (here, ← IO.FS.readBinFile entry.path) :: tree.files }
  return tree

def variableNames : List String :=
  [Settings.pathVariable, Settings.indexVariable, Settings.addressVariable,
    Settings.bodyLimitVariable, Settings.logLevelVariable, Settings.logJsonVariable]

def gatherEnvironment : IO Environment := do
  let mut values : List (String × String) := []
  for name in variableNames do
    match ← IO.getEnv name with
    | some value => values := (name, value) :: values
    | none => pure ()
  let found := values
  return fun name => found.lookup name

def report (failure : Failure) : IO Unit := do
  match failure.chain with
  | [] => pure ()
  | outermost :: causes =>
      IO.eprintln ("Error: " ++ outermost)
      if !causes.isEmpty then
        IO.eprintln "\nCaused by:"
        for (cause, number) in causes.zipIdx do
          IO.eprintln ("    " ++ Text.natText number ++ ": " ++ cause)

def main (arguments : List String) : IO UInt32 := do
  let directory ← IO.currentDir
  let place := (directory.toString.splitOn "/").filter (· != "")
  let tree ← gather place (← directory.readDir) ⟨[], [], place⟩
  match Launch.run tree (← gatherEnvironment) arguments with
  | .printed text =>
      IO.println text
      return 0
  | .misused =>
      IO.eprintln Launch.usage
      return 2
  | .failed failure =>
      report failure
      return 1
  | .ready formatter address =>
      IO.println ("Catalogs for " ++ address ++ ": " ++ ", ".intercalate formatter.library.names)
      return 0
