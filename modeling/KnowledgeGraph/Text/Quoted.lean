import KnowledgeGraph.Text.Blank

/-!
# Quoted text

A text between quotes for people to read. What would end it or could not be seen is escaped.
-/

namespace KnowledgeGraph.Text

def isHidden (c : Char) : Bool := isControl c || (isBlank c && c != ' ')

def escapeChar (c : Char) : List Char :=
  if c = '"' then ['\\', '"']
  else if c = '\\' then ['\\', '\\']
  else if c = '\n' then ['\\', 'n']
  else if c = '\r' then ['\\', 'r']
  else if c = '\t' then ['\\', 't']
  else if c.toNat = 0 then ['\\', '0']
  else if isHidden c then ['\\', 'u', '\x7b'] ++ Nat.toDigits 16 c.toNat ++ ['\x7d']
  else [c]

def quoted (s : String) : String :=
  String.ofList (['"'] ++ s.toList.flatMap escapeChar ++ ['"'])

end KnowledgeGraph.Text
