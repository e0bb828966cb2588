/-!
# Binary floating point

Numbers of the IEEE format `binary64`, held as their bits: a sign, a magnitude `m · 2^q`, the
infinities and the values that are not numbers. Rounding is to nearest, a tie to the even
neighbour, in exact arithmetic on natural numbers.
-/

namespace KnowledgeGraph

structure Binary64 where
  bits : UInt64
  deriving DecidableEq, Inhabited

namespace Binary64

def signBit : Nat := 0x8000000000000000

/-- The place above the bits of the fraction, where a normal number has a bit that is not held. -/
def leadingBit : Nat := 0x10000000000000

def isNegative (x : Binary64) : Bool := x.bits.toNat / signBit == 1

def magnitude (x : Binary64) : Nat := x.bits.toNat % signBit

def infinityBits : Nat := 2047 * leadingBit

def isFinite (x : Binary64) : Bool := x.magnitude < infinityBits
def isInfinite (x : Binary64) : Bool := x.magnitude == infinityBits
def isNaN (x : Binary64) : Bool := infinityBits < x.magnitude

def ofMagnitude (negative : Bool) (magnitude : Nat) : Binary64 :=
  ⟨UInt64.ofNat (magnitude + if negative then signBit else 0)⟩

def zero : Binary64 := ⟨0⟩
def infinity : Binary64 := ofMagnitude false infinityBits
def nan : Binary64 := ofMagnitude false (infinityBits + leadingBit / 2)

def negate (x : Binary64) : Binary64 := ofMagnitude (!x.isNegative) x.magnitude

/-- The magnitude of a finite number as `m · 2^q`. -/
def parts (x : Binary64) : Nat × Int :=
  let e : Nat := x.magnitude / leadingBit
  let f : Nat := x.magnitude % leadingBit
  if e = 0 then (f, -1074) else (f + leadingBit, (e : Int) - 1075)

/-- Place on the number line: equal for both zeros, meaningless for what is not a number. -/
def place (x : Binary64) : Int :=
  if x.isNegative then -(x.magnitude : Int) else x.magnitude

/-- Place in the total order, in which the negative zero comes before the positive one, and
what is not a number comes at either end. -/
def rank (x : Binary64) : Int :=
  if x.isNegative then -(x.magnitude : Int) - 1 else x.magnitude

/-- Greater as numbers; nothing is greater than, or less than, what is not a number. -/
def gt (x y : Binary64) : Bool :=
  !x.isNaN && !y.isNaN && decide (y.place < x.place)

/-- The quotient rounded to the nearest integer, a tie to the even one. -/
def roundDiv (num den : Nat) : Nat :=
  let q := num / den
  let r := num % den
  if 2 * r < den then q
  else if den < 2 * r then q + 1
  else q + q % 2

def floorLog2 (num den : Nat) : Int :=
  let e := (num.log2 : Int) - den.log2
  let reached := if 0 ≤ e then den * Nat.pow 2 e.toNat ≤ num else den ≤ num * Nat.pow 2 (-e).toNat
  if reached then e else e - 1

/-- The number nearest to a quotient; beyond the greatest finite number, an infinity. -/
def ofQuotient (negative : Bool) (num den : Nat) : Binary64 :=
  if num = 0 then ofMagnitude negative 0
  else
    let q := max (floorLog2 num den - 52) (-1074)
    let m := if 0 ≤ q then roundDiv num (den * Nat.pow 2 q.toNat) else roundDiv (num * Nat.pow 2 (-q).toNat) den
    ofMagnitude negative (min (m + leadingBit * (q + 1074).toNat) infinityBits)

def ofNat (n : Nat) : Binary64 := ofQuotient false n 1

def ofInt (n : Int) : Binary64 := ofQuotient (n < 0) n.natAbs 1

def quotient (x : Binary64) : Nat × Nat :=
  let (m, q) := x.parts
  if 0 ≤ q then (m * Nat.pow 2 q.toNat, 1) else (m, Nat.pow 2 (-q).toNat)

/-- The rounded product of finite numbers of positive sign. -/
def mul (x y : Binary64) : Binary64 :=
  let (a, b) := x.quotient
  let (c, d) := y.quotient
  ofQuotient false (a * c) (b * d)

/-- The rounded quotient of finite numbers of positive sign. -/
def div (x y : Binary64) : Binary64 :=
  let (a, b) := x.quotient
  let (c, d) := y.quotient
  ofQuotient false (a * d) (b * c)

/-- The number nearest to `m · 10^e`. -/
def ofDecimal (negative : Bool) (m : Nat) (e : Int) : Binary64 :=
  if 0 ≤ e then ofQuotient negative (m * Nat.pow 10 e.toNat) 1
  else ofQuotient negative m (Nat.pow 10 (-e).toNat)

end Binary64

end KnowledgeGraph
