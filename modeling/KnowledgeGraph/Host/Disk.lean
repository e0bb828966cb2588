import KnowledgeGraph.Config.Loading
import KnowledgeGraph.Config.Variables
import Std.Async.System

/-!
# Files and variables of the system
-/

namespace KnowledgeGraph.Host

def faultOf : IO.Error → Files.Fault
  | .inappropriateType .. => .isFolder
  | .permissionDenied .. => .system "Permission denied (os error 13)"
  | _ => .missing

def readBytes (path : String) : IO (Except Files.Fault ByteArray) := do
  try return .ok (← IO.FS.readBinFile path)
  catch e => return .error (faultOf e)

def readText (path : String) : IO (Except Files.Fault String) :=
  return (← readBytes path) >>= Files.readText

def textsAt (paths : List String) : IO Config.TextOf := do
  let texts ← paths.mapM fun path => return (path, ← readText path)
  return fun path => (texts.lookup path).getD (.error .missing)

-- ---------------------------------------------------------------------------
-- The environment.

/-- The variables of the system, completed by those of a file of the folder that the program was
started in. -/
def environment : IO Telemetry.Environment := do
  let vars ← Std.Async.System.getEnv
  let env : Telemetry.Environment := fun name => vars.get? name
  match ← readText ".env" with
  | .ok text => return Config.completed env text
  | .error _ => return env

def homeFolder (env : Telemetry.Environment) : String := (env "HOME").getD ""

def configFolder (env : Telemetry.Environment) : String :=
  ((env "XDG_CONFIG_HOME").filter (·.startsWith "/")).getD (Files.join (homeFolder env) ".config")

-- ---------------------------------------------------------------------------
-- Folders.

partial def readLines (source : IO.FS.Stream) (before : List String) : IO (List String) := do
  let line ← source.getLine
  if line.isEmpty then return before.reverse
  else readLines source (Text.trim line :: before)

/-- The names on a path that are not the folder itself. -/
def names (path : String) : List String :=
  (Text.split '/' path).filter fun name => name ≠ "" ∧ name ≠ "."

/-- The folder at a path, with the files that are named line by line, as far as they are there. A
folder without any is missing. -/
def folderOf (source : IO.FS.Stream) (path : String) : IO (Except Files.Fault Files.Folder) := do
  let paths ← readLines source []
  let root ← paths.foldlM (fun root path => do
    match ← readBytes path with
    | .ok bytes => return Files.Folder.place (.file bytes) (names path) root
    | .error (.system text) =>
      return Files.Folder.place (.closedFile (.system text)) (names path) root
    | .error _ => return root) Files.Folder.nil
  return root.folder ("/".intercalate (names path))

end KnowledgeGraph.Host
