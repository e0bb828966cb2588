import KnowledgeGraph.Text.Split
import KnowledgeGraph.Toml.Table

/-!
# Unquoted values

Truth values, numbers, dates and times. The digits of a number may be parted by single
underscores; a decimal number has no leading zeros.
-/

namespace KnowledgeGraph.Toml

/-- The digits of a number, without the underscores between them. -/
def parted (isDigit : Char → Bool) (cs : List Char) : Option (List Char) :=
  let groups := Text.splitBy (· == '_') cs
  if groups.all fun g => !g.isEmpty && g.all isDigit then some groups.flatten else none

def digitValue (c : Char) : Nat :=
  if c.isDigit then c.toNat - 48
  else if 'a' ≤ c ∧ c ≤ 'f' then c.toNat - 87
  else c.toNat - 55

def valueOf (radix : Nat) (digits : List Char) : Nat :=
  digits.foldl (fun n c => n * radix + digitValue c) 0

def isHexDigit (c : Char) : Bool := c.isDigit || ('a' ≤ c && c ≤ 'f') || ('A' ≤ c && c ≤ 'F')
def isOctalDigit (c : Char) : Bool := '0' ≤ c && c ≤ '7'
def isBinaryDigit (c : Char) : Bool := c == '0' || c == '1'

def wholeDigits (cs : List Char) : Option (List Char) := do
  let ds ← parted Char.isDigit cs
  match ds with
  | '0' :: _ :: _ => none
  | _ => return ds

def sign : List Char → Bool × List Char
  | '-' :: cs => (true, cs)
  | '+' :: cs => (false, cs)
  | cs => (false, cs)

def signedInt (negative : Bool) (n : Nat) : Int := if negative then -(n : Int) else n

def integer? (cs : List Char) : Option Int :=
  match cs with
  | '0' :: 'x' :: ds => (parted isHexDigit ds).map fun ds => (valueOf 16 ds : Int)
  | '0' :: 'o' :: ds => (parted isOctalDigit ds).map fun ds => (valueOf 8 ds : Int)
  | '0' :: 'b' :: ds => (parted isBinaryDigit ds).map fun ds => (valueOf 2 ds : Int)
  | cs =>
    let (negative, ds) := sign cs
    (wholeDigits ds).map fun ds => signedInt negative (valueOf 10 ds)

/-- The numbers that any reader takes, if only to skip them. -/
def isHeld (n : Int) : Bool :=
  -0x80000000000000000000000000000000 ≤ n && n ≤ 0xFFFFFFFFFFFFFFFFFFFFFFFFFFFFFFFF

def exponent? (cs : List Char) : Option Int :=
  let (negative, ds) := sign cs
  (parted Char.isDigit ds).map fun ds => signedInt negative (valueOf 10 ds)

def cut? (p : Char → Bool) (cs : List Char) : Option (List Char × List Char) :=
  match cs.span (!p ·) with
  | (_, []) => none
  | (before, _ :: after) => some (before, after)

def finite? (negative : Bool) (cs : List Char) : Option Binary64 := do
  let (mantissa, exponent) := match cut? (fun c => c == 'e' || c == 'E') cs with
    | some (m, e) => (m, some e)
    | none => (cs, none)
  let e ← match exponent with
    | some e => exponent? e
    | none => some 0
  match cut? (· == '.') mantissa with
  | some (whole, fraction) =>
    let ws ← wholeDigits whole
    let fs ← parted Char.isDigit fraction
    return .ofDecimal negative (valueOf 10 (ws ++ fs)) (e - fs.length)
  | none =>
    if exponent.isNone then none
    let ws ← wholeDigits mantissa
    return .ofDecimal negative (valueOf 10 ws) e

def float? (cs : List Char) : Option Binary64 :=
  let (negative, rest) := sign cs
  if rest = ['i', 'n', 'f'] then some (if negative then Binary64.infinity.negate else .infinity)
  else if rest = ['n', 'a', 'n'] then some .nan
  else finite? negative rest

-- ---------------------------------------------------------------------------
-- Dates and times.

def twoDigits? (most : Nat) : List Char → Option (Nat × List Char)
  | a :: b :: rest =>
    if a.isDigit ∧ b.isDigit ∧ valueOf 10 [a, b] ≤ most then some (valueOf 10 [a, b], rest)
    else none
  | _ => none

def after? (c : Char) : List Char → Option (List Char)
  | d :: rest => if c = d then some rest else none
  | [] => none

def daysIn (year month : Nat) : Nat :=
  if month = 2 then
    if year % 4 = 0 ∧ (year % 100 ≠ 0 ∨ year % 400 = 0) then 29 else 28
  else if month = 4 ∨ month = 6 ∨ month = 9 ∨ month = 11 then 30
  else 31

/-- What follows a date. -/
def date? (cs : List Char) : Option (List Char) := do
  let (century, cs) ← twoDigits? 99 cs
  let (year, cs) ← twoDigits? 99 cs
  let (month, cs) ← twoDigits? 12 (← after? '-' cs)
  let (day, cs) ← twoDigits? 31 (← after? '-' cs)
  if 1 ≤ month ∧ 1 ≤ day ∧ day ≤ daysIn (century * 100 + year) month then some cs else none

def fraction? : List Char → Option (List Char)
  | '.' :: cs =>
    let rest := cs.dropWhile Char.isDigit
    if rest.length < cs.length then some rest else none
  | cs => some cs

/-- What follows a time; the seconds may be left out. -/
def time? (cs : List Char) : Option (List Char) := do
  let (_, cs) ← twoDigits? 23 cs
  let (_, cs) ← twoDigits? 59 (← after? ':' cs)
  match cs with
  | ':' :: cs => do
    let (_, cs) ← twoDigits? 60 cs
    fraction? cs
  | cs => some cs

def zone? : List Char → Option (List Char)
  | 'Z' :: cs | 'z' :: cs => some cs
  | '+' :: cs | '-' :: cs => do
    let (_, cs) ← twoDigits? 24 cs
    let (_, cs) ← twoDigits? 59 (← after? ':' cs)
    return cs
  | cs => some cs

def isMoment (cs : List Char) : Bool :=
  match date? cs with
  | none => time? cs == some []
  | some [] => true
  | some (sep :: rest) =>
    (sep == 'T' || sep == 't' || sep == ' ') && (time? rest >>= zone?) == some []

-- ---------------------------------------------------------------------------

def scalar? (cs : List Char) : Option Value :=
  if cs = ['t', 'r', 'u', 'e'] then some (.flag true)
  else if cs = ['f', 'a', 'l', 's', 'e'] then some (.flag false)
  else
    match integer? cs with
    | some n => if isHeld n then some (.integer n) else none
    | none =>
      match float? cs with
      | some x => some (.float x)
      | none => if isMoment cs then some (.moment (String.ofList cs)) else none

end KnowledgeGraph.Toml
