import KnowledgeGraph.Text.Blank
import KnowledgeGraph.Text.Utf8

/-!
# Headers

Names and values in the order in which they were sent. Names are in lower case; a value is bytes,
which are read as text only if all of them can be seen.
-/

namespace KnowledgeGraph.Http

abbrev Headers := List (String × List UInt8)

namespace Headers

def get? (hs : Headers) (name : String) : Option (List UInt8) := hs.lookup name

/-- Gives a name this value and no other. -/
def set (hs : Headers) (name : String) (value : List UInt8) : Headers :=
  hs.filter (·.1 ≠ name) ++ [(name, value)]

def setText (hs : Headers) (name value : String) : Headers := hs.set name (Text.Utf8.bytes value)

end Headers

def isVisible (b : UInt8) : Bool := b == 0x09 || (0x20 ≤ b && b < 0x7F)

def visible? (value : List UInt8) : Option String :=
  if value.all isVisible then some (String.ofList (value.map fun b => Char.ofNat b.toNat)) else none

def isLegalValue (value : List UInt8) : Bool :=
  value.all fun b => b == 0x09 || (0x20 ≤ b && b != 0x7F)

def Headers.text? (hs : Headers) (name : String) : Option String := hs.get? name >>= visible?

def Headers.trimmed? (hs : Headers) (name : String) : Option String :=
  hs.text? name >>= Text.trimmed?

end KnowledgeGraph.Http
