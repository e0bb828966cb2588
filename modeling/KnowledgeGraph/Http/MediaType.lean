import KnowledgeGraph.Text.Split

/-!
# Media types

A type and a subtype with parameters after semicolons, as in `text/plain; charset=utf-8`. What
follows the last plus sign of the subtype is its suffix. Only the values of parameters are told
apart by case, and not all of them.
-/

namespace KnowledgeGraph.Http

structure MediaType where
  kind : String
  subtype : String
  suffix : Option String
  params : List (String × String)
  /-- The whole in lower case where case does not count. -/
  text : String

namespace MediaType

def isToken (c : Char) : Bool := c.isAlphanum || "!#$%&'*+-.^_\x60|~".toList.contains c

def isQuotable (c : Char) : Bool := 0x1F < c.toNat && c != '\x7f'

/-- How far the parameters are read; what was read of a name or a value is in reverse. -/
inductive Place where
  | start
  | name (cs : List Char)
  | value (name : String) (cs : List Char)
  | quoted (name : String) (cs : List Char)
  | closed

structure Progress where
  place : Place
  params : List (String × String)
  text : List Char

def reversed (cs : List Char) : String := String.ofList cs.reverse

def fold (name : String) (c : Char) : Char := if name = "charset" then c.toLower else c

def Progress.move (p : Progress) (place : Place) (c : Char) : Progress :=
  { p with place, text := c :: p.text }

def Progress.add (p : Progress) (name : String) (cs : List Char) : Progress :=
  { p with params := p.params ++ [(name, reversed cs)] }

def step (p : Progress) (c : Char) : Option Progress :=
  match p.place with
  | .start =>
    if c = ' ' then some (p.move .start c)
    else if isToken c then some (p.move (.name [c.toLower]) c.toLower)
    else none
  | .name cs =>
    if isToken c then some (p.move (.name (c.toLower :: cs)) c.toLower)
    else if c = '=' then some (p.move (.value (reversed cs) []) c)
    else none
  | .value name cs =>
    if c = '"' ∧ cs = [] then some (p.move (.quoted name []) c)
    else if isToken c then some (p.move (.value name (fold name c :: cs)) (fold name c))
    else if c = ';' ∧ cs ≠ [] then some ((p.add name cs).move .start c)
    else none
  | .quoted name cs =>
    if c = '"' ∧ cs ≠ [] then some ((p.add name cs).move .closed c)
    else if isQuotable c then some (p.move (.quoted name (fold name c :: cs)) (fold name c))
    else none
  | .closed =>
    if c = ';' then some (p.move .start c)
    else if c = ' ' then some (p.move .closed c)
    else none

def Progress.finish (p : Progress) : Option Progress :=
  match p.place with
  | .start | .closed => some p
  | .name _ | .quoted _ _ => none
  | .value name cs => some (p.add name cs)

/-- The subtype before the last plus sign, if one stands behind its start, and what follows it. -/
def splitSuffix (cs : List Char) : String × Option String :=
  match cs.reverse.span (· ≠ '+') with
  | (after, _ :: c :: before) => (reversed (c :: before), some (reversed after))
  | _ => (String.ofList cs, none)

def read? (s : String) : Option MediaType := do
  let (kind, rest) := s.toList.span isToken
  let '/' :: rest := rest | none
  let (sub, params) := rest.span isToken
  if kind = [] then none
  let whole := (kind ++ '/' :: sub).map Char.toLower
  let (subtype, suffix) := splitSuffix (sub.map Char.toLower)
  let kind := String.ofList (kind.map Char.toLower)
  match params with
  | [] => return ⟨kind, subtype, suffix, [], String.ofList whole⟩
  | ';' :: params =>
    if sub = [] then none
    let p ← params.foldlM step ⟨.start, [], ';' :: whole.reverse⟩
    let p ← p.finish
    return ⟨kind, subtype, suffix, p.params,
      if p.params.isEmpty then String.ofList whole else reversed p.text⟩
  | _ => none

def isJson (t : MediaType) : Bool :=
  t.kind == "application" && (t.subtype == "json" || t.suffix == some "json")

def boundary? (t : MediaType) : Option String :=
  if t.kind = "multipart" ∧ t.subtype = "form-data" then t.params.lookup "boundary" else none

end MediaType

end KnowledgeGraph.Http
