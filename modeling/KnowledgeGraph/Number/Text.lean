import KnowledgeGraph.Number.Shortest

/-!
# Numbers as text

Three ways to write a binary floating-point number: as JSON does, plainly with every digit in
place, and rounded to a fixed number of decimal places.
-/

namespace KnowledgeGraph.Binary64

def decimalDigits (n : Nat) : List Char := (Nat.repr n).toList

def zeros (n : Nat) : List Char := List.replicate n '0'

/-- Digits in their place around the decimal point, without a point when no digit follows it. -/
def positional (digits : List Char) (power : Int) : List Char :=
  let point := (digits.length : Int) + power
  if 0 ≤ power then digits ++ zeros power.toNat
  else if 0 < point then digits.take point.toNat ++ '.' :: digits.drop point.toNat
  else '0' :: '.' :: zeros (-point).toNat ++ digits

/-- Digits with one digit before the point and an exponent that shows its sign. -/
def scientific (digits : List Char) (power : Int) : List Char :=
  let e := (digits.length : Int) + power - 1
  let mantissa :=
    match digits with
    | [] => ['0']
    | [d] => [d]
    | d :: rest => d :: '.' :: rest
  mantissa ++ 'e' :: (if e < 0 then '-' else '+') :: decimalDigits e.natAbs

def signed (x : Binary64) (body : List Char) : List Char :=
  if x.isNegative then '-' :: body else body

/-- JSON's number text: the shortest digits, positional from `1e-5` to below `1e16`, and always
with a point or an exponent, so that it reads back as a float. -/
def jsonChars (x : Binary64) : List Char :=
  let d := x.shortest
  let digits := decimalDigits d.digits
  let point := (digits.length : Int) + d.power
  if -5 < point ∧ point ≤ 16 then
    signed x (positional digits d.power ++ if 0 ≤ d.power then ['.', '0'] else [])
  else signed x (scientific digits d.power)

def plainText (x : Binary64) : String :=
  if x.isNaN then "NaN"
  else if x.isInfinite then String.ofList (signed x ['i', 'n', 'f'])
  else String.ofList (signed x (positional (decimalDigits x.shortest.digits) x.shortest.power))

/-- The number rounded to a count of decimal places, an exact tie to the even digit. -/
def fixedText (places : Nat) (x : Binary64) : String :=
  if x.isNaN then "NaN"
  else if x.isInfinite then String.ofList (signed x ['i', 'n', 'f'])
  else
    let (num, den) := x.quotient
    let scaled := decimalDigits (roundDiv (num * Nat.pow 10 places) den)
    let padded := zeros (places + 1 - scaled.length) ++ scaled
    String.ofList (signed x (positional padded (-(places : Int))))

end KnowledgeGraph.Binary64
