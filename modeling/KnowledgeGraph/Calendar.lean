/-!
# Calendar

The date and time of day, in universal time, of a count of seconds since 1970.
-/

namespace KnowledgeGraph.Calendar

structure Date where
  year : Nat
  month : Nat
  day : Nat

/-- The date of a count of days since 1970. Years are taken to begin in March, so that a leap day
is the last of its year, and are gathered in eras of 400 years. -/
def ofDays (days : Nat) : Date :=
  let z := days + 719468
  let era := z / 146097
  let dayOfEra := z % 146097
  let yearOfEra := (dayOfEra - dayOfEra / 1460 + dayOfEra / 36524 - dayOfEra / 146096) / 365
  let dayOfYear := dayOfEra - (365 * yearOfEra + yearOfEra / 4 - yearOfEra / 100)
  let fromMarch := (5 * dayOfYear + 2) / 153
  let month := if fromMarch < 10 then fromMarch + 3 else fromMarch - 9
  let year := yearOfEra + era * 400 + (if month ≤ 2 then 1 else 0)
  ⟨year, month, dayOfYear - (153 * fromMarch + 2) / 5 + 1⟩

def padded (width n : Nat) : String :=
  let digits := Nat.repr n
  String.ofList (List.replicate (width - digits.length) '0') ++ digits

/-- Date and time as `2023-11-14 22:13:20`; a year of more than four digits shows its sign. -/
def timestamp (seconds : Nat) : String :=
  let d := ofDays (seconds / 86400)
  let s := seconds % 86400
  (if 9999 < d.year then "+" else "") ++ padded 4 d.year ++ "-" ++ padded 2 d.month ++ "-" ++
    padded 2 d.day ++ " " ++ padded 2 (s / 3600) ++ ":" ++ padded 2 (s / 60 % 60) ++ ":" ++
    padded 2 (s % 60)

end KnowledgeGraph.Calendar
