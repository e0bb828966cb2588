import KnowledgeGraph.Error
import KnowledgeGraph.Text.Blank
import KnowledgeGraph.Text.Split

/-!
# Quoted identifiers

Labels, relationship types and property keys stand in a statement's text between backticks. A
backtick inside is written twice, and that is the only escape there is.
-/

namespace KnowledgeGraph.Graph

def maxIdentifierLength : Nat := 256

def doubleBackticks : List Char → List Char
  | [] => []
  | c :: cs => if c = '\x60' then '\x60' :: '\x60' :: doubleBackticks cs else c :: doubleBackticks cs

def quoteChars (cs : List Char) : List Char :=
  '\x60' :: doubleBackticks cs ++ ['\x60']

def quote (name : String) : Except Error String :=
  let cs := Text.trimChars name.toList
  if cs.isEmpty then .error (.invalidInput "identifier must not be empty")
  else if maxIdentifierLength < cs.length then
    .error (.invalidInput "identifier exceeds 256 characters")
  else if cs.any Text.isControl then
    .error (.invalidInput "identifier must not contain control characters")
  else .ok (String.ofList (quoteChars cs))

def labelExpression : List String → Except Error String
  | [] => .ok ""
  | label :: labels => do
    let quoted ← quote label
    let rest ← labelExpression labels
    return ":" ++ quoted ++ rest

/-- The labels of a list with commas; blank ones are dropped. -/
def splitLabels (raw : String) : List String :=
  ((Text.split ',' raw).map Text.trim).filter (!·.isEmpty)

end KnowledgeGraph.Graph
