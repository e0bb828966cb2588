import KnowledgeGraph.Number.Binary64

/-!
# Shortest decimal digits

The fewest decimal digits that read back as the same number. On the decimal grid of each length,
from one digit up, only the two neighbours of the number itself are tested: if any point of a
grid reads back, so does one of those two.
-/

namespace KnowledgeGraph.Binary64

/-- Decimal digits `d` with a power of ten `k`, for the number `d · 10^k`. -/
structure Digits where
  digits : Nat
  power : Int
  deriving DecidableEq

/-- The ends of the interval of reals that round to a positive finite number, over a common
denominator with the number itself. -/
structure Cell where
  low : Nat
  value : Nat
  high : Nat
  den : Nat
  closed : Bool

def cell (x : Binary64) : Cell :=
  let (m, q) := x.parts
  let below := if m = leadingBit ∧ -1074 < q then 1 else 2
  let scale := if 0 ≤ q then Nat.pow 2 q.toNat else 1
  let den := if 0 ≤ q then 1 else Nat.pow 2 (-q).toNat
  ⟨(4 * m - below) * scale, 4 * m * scale, (4 * m + 2) * scale, 4 * den, m % 2 = 0⟩

def Cell.holds (c : Cell) (d : Nat) (k : Int) : Bool :=
  let p := if 0 ≤ k then d * Nat.pow 10 k.toNat * c.den else d * c.den
  let s := if 0 ≤ k then 1 else Nat.pow 10 (-k).toNat
  if c.closed then c.low * s ≤ p && p ≤ c.high * s else c.low * s < p && p < c.high * s

/-- The neighbour of the number on the grid with step `10^k` that reads back; of two, the
nearer, and a tie goes to the even one. -/
def Cell.onGrid? (c : Cell) (k : Int) : Option Nat :=
  let (num, den) :=
    if 0 ≤ k then (c.value, c.den * Nat.pow 10 k.toNat) else (c.value * Nat.pow 10 (-k).toNat, c.den)
  let d := num / den
  match c.holds d k, c.holds (d + 1) k with
  | true, true => some (roundDiv num den)
  | true, false => some d
  | false, true => some (d + 1)
  | false, false => none

/-- The exponent of the leading decimal digit of a positive quotient: the floor of its decimal
logarithm, found upwards from an estimate that is never too large. -/
def leadingPower (num den : Nat) : Int :=
  let reached (e : Int) : Bool :=
    if 0 ≤ e then den * Nat.pow 10 e.toNat ≤ num else den ≤ num * Nat.pow 10 (-e).toNat
  let guess := floorLog2 num den * 30103 / 100000 - 2
  (List.range 5).foldl (fun (e : Int) (i : Nat) => if reached (guess + i) then guess + i else e) guess

/-- The first grid, from `n` digits up, on which a neighbour reads back. -/
def searchGrids (c : Cell) (lead : Int) : (fuel n : Nat) → Digits
  | 0, n => ⟨c.value / c.den, n - n⟩
  | fuel + 1, n =>
    let k := lead - n + 1
    match c.onGrid? k with
    | some d => ⟨d, k⟩
    | none => searchGrids c lead fuel (n + 1)

def Digits.normal (d : Digits) : (fuel : Nat) → Digits
  | 0 => d
  | fuel + 1 =>
    if d.digits ≠ 0 ∧ d.digits % 10 = 0 then normal ⟨d.digits / 10, d.power + 1⟩ fuel else d

/-- The shortest digits of a finite number's magnitude; no number needs more than 17. -/
def shortest (x : Binary64) : Digits :=
  if x.magnitude = 0 then ⟨0, 0⟩
  else
    let c := x.cell
    (searchGrids c (leadingPower c.value c.den) 18 1).normal 18

end KnowledgeGraph.Binary64
