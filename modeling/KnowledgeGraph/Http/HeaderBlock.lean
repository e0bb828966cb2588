import KnowledgeGraph.Http.Headers
import KnowledgeGraph.Http.MediaType
import KnowledgeGraph.Text.Split

/-!
# Headers as they are sent

A line for each header: its name, a colon and its value, around which blanks do not count. A blank
line ends them.
-/

namespace KnowledgeGraph.Http

def lineEnd : List UInt8 := [0x0D, 0x0A]

def blankLine : List UInt8 := lineEnd ++ lineEnd

def isNameByte (b : UInt8) : Bool := b < 0x80 && MediaType.isToken (Char.ofNat b.toNat)
def isPadding (b : UInt8) : Bool := b == 0x20 || b == 0x09

def dropPadding (bs : List UInt8) : List UInt8 := bs.dropWhile isPadding

theorem length_dropPadding_le (bs : List UInt8) : (dropPadding bs).length ≤ bs.length :=
  (List.dropWhile_suffix _).length_le

def readHeader (line : List UInt8) : Option (String × List UInt8) :=
  match line.span isNameByte with
  | (b :: name, 0x3A :: value) =>
    let value := (dropPadding (dropPadding value).reverse).reverse
    if isLegalValue value then
      some (String.ofList ((b :: name).map fun b => (Char.ofNat b.toNat).toLower), value)
    else none
  | _ => none

def dropReturn (line : List UInt8) : List UInt8 :=
  if line.getLast? = some 0x0D then line.dropLast else line

def headerLines (block : List UInt8) : List (List UInt8) :=
  ((Text.splitBy (· == 0x0A) block).map dropReturn).takeWhile (· ≠ [])

end KnowledgeGraph.Http
