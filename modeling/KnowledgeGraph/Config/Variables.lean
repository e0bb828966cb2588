import KnowledgeGraph.Telemetry.Settings
import KnowledgeGraph.Text.Split

/-!
# Files of variables

A line gives a variable its value: `NAME=value`. A value ends at a blank, unless it is quoted, and
a number sign starts a comment. Lines are read up to the first that is none of this. What the
environment says itself comes first.
-/

namespace KnowledgeGraph.Config

open Telemetry (Environment)

inductive Quoting where
  | bare
  | single
  | double

def unescaped? (c : Char) : Option Char :=
  if c = 'n' then some '\n' else if "\\\"'$ ".toList.contains c then some c else none

def isComment (cs : List Char) : Bool :=
  match cs.dropWhile Text.isBlank with
  | [] => true
  | c :: _ => c == '#'

def readValue : Quoting → List Char → Option (List Char)
  | .bare, [] => some []
  | _, [] => none
  | .single, c :: cs =>
    if c = '\'' then readValue .bare cs else (readValue .single cs).map (c :: ·)
  | _, '\\' :: [] => none
  | .double, '\\' :: c :: cs => do return (← unescaped? c) :: (← readValue .double cs)
  | .bare, '\\' :: c :: cs => do return (← unescaped? c) :: (← readValue .bare cs)
  | .double, c :: cs =>
    if c = '"' then readValue .bare cs else (readValue .double cs).map (c :: ·)
  | .bare, c :: cs =>
    if c = '"' then readValue .double cs
    else if c = '\'' then readValue .single cs
    else if Text.isBlank c then if isComment cs then some [] else none
    else (readValue .bare cs).map (c :: ·)

def isNameChar (c : Char) : Bool := c.isAlphanum || c == '_' || c == '.'

def readVariable (line : String) : Option (String × String) := do
  let line := (Text.stripLead? line "export ").getD line
  let (name, value) ← Text.splitOnce? '=' line
  let name := Text.trim name
  if name.isEmpty || !name.toList.all isNameChar || (name.toList.head?.any Char.isDigit) then none
  else
    return (name, String.ofList (← readValue .bare (Text.trim value).toList))

/-- The variables of a text, up to the first line that gives none. -/
def readVariables : (lines : List String) → List (String × String)
  | [] => []
  | line :: lines =>
    if isComment line.toList then readVariables lines
    else
      match readVariable (Text.trim line) with
      | some v => v :: readVariables lines
      | none => []

/-- The environment with what a text says of variables that it lacks. -/
def completed (env : Environment) (text : String) : Environment := fun name =>
  (env name).orElse fun _ => (readVariables (Text.split '\n' text)).lookup name

end KnowledgeGraph.Config
