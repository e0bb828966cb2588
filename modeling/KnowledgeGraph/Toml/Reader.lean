import KnowledgeGraph.Toml.Scalar

/-!
# Reading TOML

A document is lines: headers, keys with values, comments and blanks. Every reader answers what it
read and what follows, or nothing if the text is not TOML. The fuel of a reader is the length of
what it may read.
-/

namespace KnowledgeGraph.Toml

abbrev Reader (α : Type) := List Char → Option (α × List Char)

def skipBlanks : List Char → List Char
  | ' ' :: cs | '\t' :: cs => skipBlanks cs
  | cs => cs

def isPlain (c : Char) : Bool := c == '\t' || (' ' ≤ c && c != '\x7f')

def skipComment : List Char → List Char
  | '#' :: cs => cs.dropWhile isPlain
  | cs => cs

def newline? : List Char → Option (List Char)
  | '\n' :: cs => some cs
  | '\r' :: '\n' :: cs => some cs
  | _ => none

/-- What follows the end of a line, which may have a comment. -/
def lineEnd? (cs : List Char) : Option (List Char) :=
  match skipComment (skipBlanks cs) with
  | [] => some []
  | rest => newline? rest

def skipLines (fuel : Nat) (cs : List Char) : List Char :=
  match fuel with
  | 0 => cs
  | fuel + 1 =>
    let rest := skipComment (skipBlanks cs)
    match newline? rest with
    | some rest => skipLines fuel rest
    | none => rest

-- ---------------------------------------------------------------------------
-- Strings.

def hexChar? (count : Nat) (cs : List Char) : Option (Char × List Char) :=
  let ds := cs.take count
  let n := valueOf 16 ds
  if ds.length = count ∧ ds.all isHexDigit ∧ n.isValidChar then
    some (Char.ofNat n, cs.drop count)
  else none

def escape? : List Char → Option (Char × List Char)
  | 'b' :: cs => some ('\x08', cs)
  | 't' :: cs => some ('\t', cs)
  | 'n' :: cs => some ('\n', cs)
  | 'f' :: cs => some ('\x0c', cs)
  | 'r' :: cs => some ('\r', cs)
  | 'e' :: cs => some ('\x1b', cs)
  | '"' :: cs => some ('"', cs)
  | '\\' :: cs => some ('\\', cs)
  | 'x' :: cs => hexChar? 2 cs
  | 'u' :: cs => hexChar? 4 cs
  | 'U' :: cs => hexChar? 8 cs
  | _ => none

def basic (fuel : Nat) (cs : List Char) : Option (List Char × List Char) :=
  match fuel with
  | 0 => none
  | fuel + 1 =>
    match cs with
    | '"' :: rest => some ([], rest)
    | '\\' :: rest => do
      let (c, rest) ← escape? rest
      let (s, rest) ← basic fuel rest
      return (c :: s, rest)
    | c :: rest =>
      if isPlain c then (basic fuel rest).map fun (s, rest) => (c :: s, rest) else none
    | [] => none

def literal : List Char → Option (List Char × List Char)
  | '\'' :: rest => some ([], rest)
  | c :: rest => if isPlain c then (literal rest).map fun (s, rest) => (c :: s, rest) else none
  | [] => none

/-- How many quotes a text starts with, up to five. -/
def quotes (q : Char) (cs : List Char) : Nat := ((cs.take 5).takeWhile (· == q)).length

/-- What follows a backslash at the end of a line: blanks and ends of lines are left out. -/
def continuation? (cs : List Char) : Option (List Char) := do
  let rest ← newline? (skipBlanks cs)
  return rest.dropWhile fun c => c == ' ' || c == '\t' || c == '\n' || c == '\r'

/-- The rest of a string over several lines, up to three quotes; two more may be part of it. -/
def multiline (q : Char) (escapes : Bool) (fuel : Nat) (cs : List Char) :
    Option (List Char × List Char) :=
  match fuel with
  | 0 => none
  | fuel + 1 =>
    match cs with
    | [] => none
    | c :: rest =>
      if c = q then
        let n := quotes q cs
        if 3 ≤ n then some (List.replicate (n - 3) q, cs.drop n)
        else (multiline q escapes fuel rest).map fun (s, rest) => (q :: s, rest)
      else if c = '\\' ∧ escapes then
        match escape? rest with
        | some (c, rest) => (multiline q escapes fuel rest).map fun (s, rest) => (c :: s, rest)
        | none => continuation? rest >>= multiline q escapes fuel
      else if isPlain c ∨ (newline? cs).isSome ∨ c = '\n' then
        (multiline q escapes fuel rest).map fun (s, rest) => (c :: s, rest)
      else none

def skipFirstNewline (cs : List Char) : List Char := (newline? cs).getD cs

def string? (fuel : Nat) : Reader String := fun cs =>
  let found := match cs with
    | '"' :: '"' :: '"' :: rest => multiline '"' true fuel (skipFirstNewline rest)
    | '\'' :: '\'' :: '\'' :: rest => multiline '\'' false fuel (skipFirstNewline rest)
    | '"' :: rest => basic fuel rest
    | '\'' :: rest => literal rest
    | _ => none
  found.map fun (s, rest) => (String.ofList s, rest)

-- ---------------------------------------------------------------------------
-- Keys.

def isBare (c : Char) : Bool := c.isAlphanum || c == '-' || c == '_'

def simpleKey (fuel : Nat) : Reader String := fun cs =>
  match cs with
  | '"' :: rest => (basic fuel rest).map fun (s, rest) => (String.ofList s, rest)
  | '\'' :: rest => (literal rest).map fun (s, rest) => (String.ofList s, rest)
  | cs =>
    match cs.span isBare with
    | ([], _) => none
    | (key, rest) => some (String.ofList key, rest)

/-- A key with dots: the way to a table, and the key in it. -/
def key (fuel : Nat) : Reader (List String × String) := fun cs =>
  match fuel with
  | 0 => none
  | fuel + 1 => do
    let (k, rest) ← simpleKey (fuel + 1) (skipBlanks cs)
    match skipBlanks rest with
    | '.' :: rest => do
      let ((path, last), rest) ← key fuel rest
      return ((k :: path, last), rest)
    | rest => return (([], k), rest)

-- ---------------------------------------------------------------------------
-- Values.

def isAtomEnd (c : Char) : Bool :=
  " \t\r\n,[]\x7b\x7d#=\"'".toList.contains c

/-- The characters of an unquoted value. Between a date and a time may be a blank. -/
def atom (cs : List Char) : List Char × List Char :=
  let (a, rest) := cs.span (!isAtomEnd ·)
  match rest with
  | ' ' :: d :: more =>
    if date? a = some [] ∧ d.isDigit then
      let (b, rest) := (d :: more).span (!isAtomEnd ·)
      (a ++ ' ' :: b, rest)
    else (a, rest)
  | _ => (a, rest)

mutual
def value (fuel : Nat) (cs : List Char) : Option (Value × List Char) :=
  match fuel with
  | 0 => none
  | fuel + 1 =>
    match cs with
    | '"' :: _ | '\'' :: _ => (string? (cs.length + 1) cs).map fun (s, rest) => (.text s, rest)
    | '[' :: rest => (items fuel rest).map fun (vs, rest) => (.list vs, rest)
    | '\x7b' :: rest =>
      (entries fuel rest (.empty .inline)).map fun (t, rest) => (.table .inline t.members, rest)
    | cs =>
      let (a, rest) := atom cs
      (scalar? a).map fun v => (v, rest)
def items (fuel : Nat) (cs : List Char) : Option (List Value × List Char) :=
  match fuel with
  | 0 => none
  | fuel + 1 =>
    match skipLines cs.length cs with
    | ']' :: rest => some ([], rest)
    | cs => do
      let (v, rest) ← value fuel cs
      match skipLines rest.length rest with
      | ']' :: rest => return ([v], rest)
      | ',' :: rest => do
        let (vs, rest) ← items fuel rest
        return (v :: vs, rest)
      | _ => none
def entries (fuel : Nat) (cs : List Char) (t : Table) : Option (Table × List Char) :=
  match fuel with
  | 0 => none
  | fuel + 1 =>
    match skipLines cs.length cs with
    | '\x7d' :: rest => some (t, rest)
    | cs => do
      let ((path, last), rest) ← key cs.length cs
      match skipBlanks rest with
      | '=' :: rest => do
        let (v, rest) ← value fuel (skipBlanks rest)
        let t ← t.addKey path last v
        match skipLines rest.length rest with
        | '\x7d' :: rest => return (t, rest)
        | ',' :: rest => entries fuel rest t
        | _ => none
      | _ => none
end

-- ---------------------------------------------------------------------------
-- Documents.

/-- A document that has been read in part: its table, and where the keys of the present header
go. -/
structure Draft where
  root : Table
  here : List String

def Draft.add (d : Draft) (path : List String) (last : String) (v : Value) : Option Draft := do
  let root ← d.root.descend false (Table.addKey path last v) d.here
  return { d with root }

def header (close : List Char) : Reader (List String × String) := fun cs => do
  let (name, rest) ← key cs.length cs
  let rest ← Text.dropLead? close (skipBlanks rest)
  return (name, ← lineEnd? rest)

def keyLine : Reader ((List String × String) × Value) := fun cs => do
  let (name, rest) ← key cs.length cs
  match skipBlanks rest with
  | '=' :: rest => do
    let (v, rest) ← value (2 * rest.length + 2) (skipBlanks rest)
    return ((name, v), ← lineEnd? rest)
  | _ => none

def lines (fuel : Nat) (cs : List Char) (d : Draft) : Option Table :=
  match fuel with
  | 0 => none
  | fuel + 1 =>
    match skipLines cs.length cs with
    | [] => some d.root
    | '[' :: '[' :: rest => do
      let ((path, last), rest) ← header [']', ']'] rest
      lines fuel rest ⟨← d.root.openItem path last, path ++ [last]⟩
    | '[' :: rest => do
      let ((path, last), rest) ← header [']'] rest
      lines fuel rest ⟨← d.root.openTable path last, path ++ [last]⟩
    | cs => do
      let (((path, last), v), rest) ← keyLine cs
      lines fuel rest (← d.add path last v)

/-- The table of a document, which may start with a byte order mark. -/
def read? (s : String) : Option Table :=
  let cs := match s.toList with
    | '\uFEFF' :: cs => cs
    | cs => cs
  lines (cs.length + 1) cs ⟨.empty .headed, []⟩

end KnowledgeGraph.Toml
