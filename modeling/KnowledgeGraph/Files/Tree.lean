import KnowledgeGraph.Text.Split
import KnowledgeGraph.Text.Utf8

/-!
# Files and folders

A folder is a list of named files and folders, in whatever order its system lists them. What a folder
lists need not be open to whoever lists it, and a list may break off. Paths are followed name by name,
with `.` for the folder itself and `..` for the one around it.

Names are texts: a file whose name is no UTF-8 has no place in a folder here. What a file holds are
bytes, which may be anything.
-/

namespace KnowledgeGraph.Files

inductive Fault where
  | missing
  | notFolder
  | isFolder
  | notText
  | system (text : String)
  deriving DecidableEq

def Fault.text : Fault → String
  | .missing => "No such file or directory (os error 2)"
  | .notFolder => "Not a directory (os error 20)"
  | .isFolder => "Is a directory (os error 21)"
  | .notText => "stream did not contain valid UTF-8"
  | .system text => text

mutual
inductive Entry where
  | file (bytes : ByteArray)
  | folder (content : Folder)
  | closedFile (fault : Fault)
  | closedFolder (fault : Fault)
inductive Folder where
  | nil
  | cons (name : String) (entry : Entry) (rest : Folder)
  /-- The list breaks off. -/
  | torn (fault : Fault)
end

def Entry.content? : Entry → Option (Except Fault ByteArray)
  | .file bytes => some (.ok bytes)
  | .closedFile fault => some (.error fault)
  | .folder _ | .closedFolder _ => none

namespace Folder

def entries : Folder → List (String × Entry)
  | .nil | .torn _ => []
  | .cons name entry rest => (name, entry) :: rest.entries

def tear? : Folder → Option Fault
  | .nil => none
  | .cons _ _ rest => rest.tear?
  | .torn fault => some fault

def find? (name : String) : Folder → Option Entry
  | .nil | .torn _ => none
  | .cons n e rest => if n = name then some e else rest.find? name

/-- Puts an entry into the folder, in the place of one of the same name. -/
def set (name : String) (entry : Entry) : Folder → Folder
  | .nil => .cons name entry .nil
  | .torn fault => .cons name entry (.torn fault)
  | .cons n e rest => if n = name then .cons name entry rest else .cons n e (rest.set name entry)

/-- Puts an entry at the end of a path, and folders on the way to it where there are none. -/
def place (entry : Entry) : (names : List String) → Folder → Folder
  | [], f => f
  | [name], f => f.set name entry
  | name :: names, f =>
    let inner := match f.find? name with
      | some (.folder g) => g
      | _ => .nil
    f.set name (.folder (place entry names inner))

end Folder

-- ---------------------------------------------------------------------------
-- Paths.

def follow : (names : List String) → (around : List Folder) → Folder → Except Fault Entry
  | [], _, here => .ok (.folder here)
  | "" :: names, around, here => follow names around here
  | "." :: names, around, here => follow names around here
  | ".." :: names, outer :: around, _ => follow names around outer
  | ".." :: _, [], _ => .error .missing
  | name :: names, around, here =>
    match here.find? name, names with
    | none, _ => .error .missing
    | some (.folder f), names => follow names (here :: around) f
    | some (.closedFolder fault), _ :: _ => .error fault
    | some entry, [] => .ok entry
    | some _, _ :: _ => .error .notFolder

def Folder.lookup (root : Folder) (path : String) : Except Fault Entry :=
  if path.isEmpty || path.startsWith "/" then .error .missing
  else follow (Text.split '/' path) [] root

def Folder.folder (root : Folder) (path : String) : Except Fault Folder := do
  match ← root.lookup path with
  | .folder f => return f
  | .closedFolder fault => throw fault
  | _ => throw .notFolder

def readText (bytes : ByteArray) : Except Fault String :=
  match Text.Utf8.text? bytes.toList with
  | some s => .ok s
  | none => .error .notText

def Folder.text (root : Folder) (path : String) : Except Fault String := do
  match (← root.lookup path).content? with
  | some content => content >>= readText
  | none => throw .isFolder

def join (path name : String) : String :=
  if path.isEmpty then name
  else if path.endsWith "/" then path ++ name
  else path ++ "/" ++ name

/-- What follows the last dot of a name that is not only what starts with it. -/
def extension? (name : String) : Option String :=
  match name.toList.reverse.span (· ≠ '.') with
  | (after, _ :: _ :: _) => some (String.ofList after.reverse)
  | _ => none

end KnowledgeGraph.Files
