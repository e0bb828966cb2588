import KnowledgeGraph.Error
import KnowledgeGraph.Files.Tree
import KnowledgeGraph.Text.Blank

/-!
# Scripts

A script is a file of statements, each of which ends with a semicolon at the end of a line. The
scripts of a folder come in the order of their names, before those of the folders in it. All folders
are listed before a script is read.
-/

namespace KnowledgeGraph.Schema

open Files

def isSemicolon (c : Char) : Bool := c == ';'

def statementOf (piece : List Char) : List Char :=
  Text.trimChars (Text.dropEnd isSemicolon (Text.trimChars piece))

def splitStatements (text : String) : List String :=
  let lines := Text.replaceText ['\r', '\n'] ['\n'] text.toList
  (((Text.splitOnText [';', '\n'] lines).map statementOf).filter (!·.isEmpty)).map String.ofList

def scriptExtension : String := "cypher"

structure Script where
  path : String
  content : Except Fault ByteArray

def byName (a b : String × α) : Bool := a.1 ≤ b.1

def scriptFile? (name : String) (entry : Entry) : Option (String × Except Fault ByteArray) :=
  if extension? name = some scriptExtension then entry.content?.map (name, ·) else none

def scriptFiles (f : Folder) : List (String × Except Fault ByteArray) :=
  f.entries.filterMap fun (name, entry) => scriptFile? name entry

def unlisted (cause : String) : Error := .operationFailed "read_cypher_dir" cause

/-- The scripts of a folder, given those of the folders in it, of which the first by name that
cannot be listed ends it all. -/
def inOrder (path : String) (f : Folder) (inner : List (String × Except Error (List Script))) :
    Except Error (List Script) := do
  if let some fault := f.tear? then throw (unlisted fault.text)
  let below ← (inner.mergeSort byName).mapM (·.2)
  return ((scriptFiles f).mergeSort byName).map (fun (name, content) => ⟨join path name, content⟩) ++
    below.flatten

def closed (path : String) (fault : Fault) : Error := unlisted (path ++ ": " ++ fault.text)

def innerScripts (path : String) : Folder → List (String × Except Error (List Script))
  | .nil | .torn _ => []
  | .cons name (.folder f) rest =>
    (name, inOrder (join path name) f (innerScripts (join path name) f)) :: innerScripts path rest
  | .cons name (.closedFolder fault) rest =>
    (name, .error (closed (join path name) fault)) :: innerScripts path rest
  | .cons _ _ rest => innerScripts path rest

def scripts (path : String) (f : Folder) : Except Error (List Script) :=
  inOrder path f (innerScripts path f)

def collect (path : String) : (found : Except Fault Folder) → Except Error (List Script)
  | .ok f => scripts path f
  | .error fault => .error (closed path fault)

end KnowledgeGraph.Schema
