import KnowledgeGraph.Wire.Shape
import KnowledgeGraph.Text.Split

/-!
# Query strings

The part of an address after `?`: pairs of a name and a value, separated by `&`, with blanks as
`+` and other bytes as `%` and two hexadecimal digits. A record is read from it like from an
object of strings, with numbers in decimal digits.
-/

namespace KnowledgeGraph.Wire.Form

def hexValue? (b : UInt8) : Option UInt8 :=
  if 48 ≤ b && b ≤ 57 then some (b - 48)
  else if 97 ≤ b && b ≤ 102 then some (b - 87)
  else if 65 ≤ b && b ≤ 70 then some (b - 55)
  else none

/-- Undoes the `%` escapes; one that is not followed by two digits stands for itself. -/
def percentDecode : List UInt8 → List UInt8
  | [] => []
  | [a] => [a]
  | [a, b] => [a, b]
  | a :: b :: c :: rest =>
    match a == 0x25, hexValue? b, hexValue? c with
    | true, some hi, some lo => (hi * 16 + lo) :: percentDecode rest
    | _, _, _ => a :: percentDecode (b :: c :: rest)

def decodePart (bytes : List UInt8) : String :=
  Text.Utf8.lossy (percentDecode (bytes.map fun b => if b == 0x2B then 0x20 else b))

/-- The pairs of a query string; an empty part gives none, one without `=` an empty value. -/
def pairs (query : List UInt8) : List (String × String) :=
  ((Text.splitBy (· == 0x26) query).filter (· ≠ [])).map fun part =>
    let value := (part.dropWhile (· ≠ 0x3D)).drop 1
    (decodePart (part.takeWhile (· ≠ 0x3D)), decodePart value)

/-- A number in decimal digits, which a plus sign may lead. -/
def decimal? (s : String) : Option Nat :=
  let digits := match s.toList with
    | '+' :: rest => rest
    | cs => cs
  if digits ≠ [] ∧ digits.all Char.isDigit then
    some (digits.foldl (fun n c => n * 10 + (c.toNat - 48)) 0)
  else none

def sourceOf : Shape → String → Source
  | .optional s, text => sourceOf s text
  | .nat32, text =>
    match decimal? text with
    | some n => .num (.int n)
    | none => .str text
  | _, text => .str text

def shapeOf? (key : String) : Layout → Option Shape
  | .nil => none
  | .cons name _ s rest => if key = name then some s else shapeOf? key rest

def readLayout (l : Layout) (ps : List (String × String)) : Except Fault l.Meaning := do
  let slots ← ps.foldlM (fun slots (key, text) =>
    match shapeOf? key l with
    | none => .ok slots
    | some s => (l.readMember maxDepth key (sourceOf s text) slots).getD (.ok slots)) l.emptySlots
  l.finish slots

end Form

def readQuery (α : Type) [Readable α] (query : List UInt8) : Except Fault α :=
  (Form.readLayout (Readable.fields α) (Form.pairs query)).map Readable.ofMeaning

end KnowledgeGraph.Wire
