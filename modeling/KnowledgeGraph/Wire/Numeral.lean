import KnowledgeGraph.Number.Limits
import KnowledgeGraph.Wire.Source

/-!
# Numerals

Reading the number at the start of a JSON text. Digits are gathered into a significand of 64
bits; a digit that does not fit any more is dropped, and the power of ten makes up for it. The
float is then the significand times or divided by that power, each rounded on its own, so that a
long numeral may come out beside the nearest float.
-/

namespace KnowledgeGraph.Wire

/-- A character of a text, or a piece of it that is not well-formed. -/
abbrev Glyph := Option Char

namespace Numeral

def maxSignificand : Nat := maxNat64
def maxExponent : Nat := 0x7FFFFFFF

def digit? : Glyph → Option Nat
  | some c => if '0' ≤ c ∧ c ≤ '9' then some (c.toNat - 48) else none
  | none => none

def digits : List Glyph → List Nat × List Glyph
  | [] => ([], [])
  | g :: gs =>
    match digit? g with
    | some d => let (ds, rest) := digits gs; (d :: ds, rest)
    | none => ([], g :: gs)

/-- The significand, and how many digits at the end were not taken up. -/
def gather (start : Nat) : List Nat → Nat × Nat
  | [] => (start, 0)
  | d :: ds =>
    if start * 10 + d ≤ maxSignificand then gather (start * 10 + d) ds else (start, ds.length + 1)

/-- A significand times a power of ten; none if the product is out of range. Powers beyond
`10^308` are applied in steps. -/
def scale : (fuel : Nat) → (x : Binary64) → (exponent : Int) → Option Binary64
  | 0, x, _ => some x
  | fuel + 1, x, e =>
    if e.natAbs ≤ 308 then
      let pow := Binary64.ofNat (Nat.pow 10 e.natAbs)
      if 0 ≤ e then
        let y := x.mul pow
        if y.isInfinite then none else some y
      else some (x.div pow)
    else if x.magnitude = 0 then some x
    else if 0 ≤ e then none
    else scale fuel (x.div (Binary64.ofNat (Nat.pow 10 308))) (e + 308)

def toFloat (negative : Bool) (significand : Nat) (exponent : Int) : Source :=
  match scale 8 (Binary64.ofNat significand) exponent with
  | none => .outOfRange
  | some x => .num (.float (if negative then x.negate else x))

/-- A whole number that fits its range stays one; zero with a sign does not. -/
def ofDigits (negative : Bool) (ds : List Nat) : Source :=
  let (m, dropped) := gather 0 ds
  if dropped = 0 then
    if !negative then .num (.int m)
    else if 0 < m ∧ m ≤ 0x8000000000000000 then .num (.int (-(m : Int)))
    else .num (.float (Binary64.ofNat m).negate)
  else toFloat negative m dropped

def withExponent (negative : Bool) (significand : Nat) (exponent : Int) (gs : List Glyph) :
    Option (Source × List Glyph) :=
  let (minus, gs) :=
    match gs with
    | some '+' :: r => (false, r)
    | some '-' :: r => (true, r)
    | _ => (false, gs)
  match digits gs with
  | ([], _) => none
  | (ds, rest) =>
    let e := ds.foldl (fun n d => n * 10 + d) 0
    if maxExponent < e then
      if significand ≠ 0 ∧ !minus then some (.outOfRange, rest)
      else some (.num (.float (Binary64.ofMagnitude negative 0)), rest)
    else some (toFloat negative significand (exponent + if minus then -(e : Int) else e), rest)

def read (negative : Bool) (gs : List Glyph) : Option (Source × List Glyph) :=
  match digits gs with
  | ([], _) => none
  | (0 :: _ :: _, _) => none
  | (ds, rest) =>
    let (m, dropped) := gather 0 ds
    match rest with
    | some '.' :: rest =>
      match digits rest with
      | ([], _) => none
      | (fs, rest) =>
        let (m, unused) := gather m fs
        let exponent : Int := dropped - (fs.length - unused : Nat)
        match rest with
        | some 'e' :: r | some 'E' :: r => withExponent negative m exponent r
        | _ => some (toFloat negative m exponent, rest)
    | some 'e' :: r | some 'E' :: r => withExponent negative m dropped r
    | _ => some (ofDigits negative ds, rest)

end Numeral

end KnowledgeGraph.Wire
