import KnowledgeGraph.Wire.Numeral
import KnowledgeGraph.Text.Utf8

/-!
# Reading JSON text

From the glyphs of a text to the tree of what was written. The reader never fails: where the
text breaks off, the tree does too.
-/

namespace KnowledgeGraph.Wire.Reader

def skipBlanks : List Glyph → List Glyph
  | some ' ' :: gs | some '\n' :: gs | some '\t' :: gs | some '\r' :: gs => skipBlanks gs
  | gs => gs

def hexDigit? : Glyph → Option Nat
  | none => none
  | some c =>
    if '0' ≤ c ∧ c ≤ '9' then some (c.toNat - 48)
    else if 'a' ≤ c ∧ c ≤ 'f' then some (c.toNat - 87)
    else if 'A' ≤ c ∧ c ≤ 'F' then some (c.toNat - 55)
    else none

def hex4? : List Glyph → Option (Nat × List Glyph)
  | a :: b :: c :: d :: rest => do
    let a ← hexDigit? a
    let b ← hexDigit? b
    let c ← hexDigit? c
    let d ← hexDigit? d
    return (((a * 16 + b) * 16 + c) * 16 + d, rest)
  | _ => none

def plainEscape? : Char → Option Char
  | '"' => some '"'
  | '\\' => some '\\'
  | '/' => some '/'
  | 'b' => some '\x08'
  | 'f' => some '\x0c'
  | 'n' => some '\n'
  | 'r' => some '\r'
  | 't' => some '\t'
  | _ => none

def isHighSurrogate (n : Nat) : Bool := 0xD800 ≤ n && n < 0xDC00
def isLowSurrogate (n : Nat) : Bool := 0xDC00 ≤ n && n < 0xE000

/-- The text after an opening quote, and what follows its closing quote. A string that holds
half a surrogate pair or an ill-formed piece is no text, but it does not end the reading; a
control character, an unknown escape or a missing quote does. The fuel is the length. -/
def string (fuel : Nat) (gs : List Glyph) (acc : List Char) (clean : Bool) :
    Option (Option String × List Glyph) :=
  match fuel with
  | 0 => none
  | fuel + 1 =>
    match gs with
    | [] => none
    | some '"' :: rest => some (if clean then some (String.ofList acc.reverse) else none, rest)
    | some '\\' :: some 'u' :: rest => do
      let (n, rest) ← hex4? rest
      if isLowSurrogate n then string fuel rest acc false
      else if isHighSurrogate n then
        match rest with
        | some '\\' :: some 'u' :: rest' =>
          let (m, after) ← hex4? rest'
          if isLowSurrogate m then
            string fuel after (Char.ofNat (0x10000 + (n - 0xD800) * 0x400 + (m - 0xDC00)) :: acc)
              clean
          else string fuel rest acc false
        | _ => string fuel rest acc false
      else string fuel rest (Char.ofNat n :: acc) clean
    | some '\\' :: some c :: rest => do
      let c ← plainEscape? c
      string fuel rest (c :: acc) clean
    | some c :: rest =>
      if c = '\\' ∨ c.toNat < 0x20 then none else string fuel rest (c :: acc) clean
    | none :: rest => string fuel rest acc false

def isWord (word : List Char) (gs : List Glyph) : Option (List Glyph) :=
  match word with
  | [] => some gs
  | c :: word =>
    match gs with
    | some d :: gs => if c = d then isWord word gs else none
    | _ => none

mutual
def value (fuel : Nat) (gs : List Glyph) : Source × List Glyph :=
  match fuel with
  | 0 => (.broken, [])
  | fuel + 1 =>
    match skipBlanks gs with
    | some 'n' :: rest => word ['u', 'l', 'l'] .null rest
    | some 't' :: rest => word ['r', 'u', 'e'] (.bool true) rest
    | some 'f' :: rest => word ['a', 'l', 's', 'e'] (.bool false) rest
    | some '"' :: rest =>
      match string (rest.length + 1) rest [] true with
      | none => (.broken, [])
      | some (some s, rest) => (.str s, rest)
      | some (none, rest) => (.garbled, rest)
    | some '[' :: rest =>
      match skipBlanks rest with
      | some ']' :: rest => (.list [], rest)
      | rest =>
        let (items, rest) := items fuel rest
        (.list items, rest)
    | some '\x7b' :: rest =>
      match skipBlanks rest with
      | some '\x7d' :: rest => (.object [], rest)
      | rest =>
        let (ms, rest) := members fuel rest
        (.object ms, rest)
    | some '-' :: rest => (Numeral.read true rest).getD (.broken, [])
    | gs => (Numeral.read false gs).getD (.broken, [])
where
  word (w : List Char) (v : Source) (rest : List Glyph) : Source × List Glyph :=
    match isWord w rest with
    | some rest => (v, rest)
    | none => (.broken, [])
def items (fuel : Nat) (gs : List Glyph) : List Source × List Glyph :=
  match fuel with
  | 0 => ([.broken], [])
  | fuel + 1 =>
    let (v, rest) := value fuel gs
    match skipBlanks rest with
    | some ']' :: rest => ([v], rest)
    | some ',' :: rest =>
      let (vs, rest) := items fuel rest
      (v :: vs, rest)
    | _ => ([v, .broken], [])
def members (fuel : Nat) (gs : List Glyph) : List (Option String × Source) × List Glyph :=
  match fuel with
  | 0 => ([(none, .broken)], [])
  | fuel + 1 =>
    match skipBlanks gs with
    | some '"' :: rest =>
      match string (rest.length + 1) rest [] true with
      | none => ([(none, .broken)], [])
      | some (key, rest) =>
        match skipBlanks rest with
        | some ':' :: rest =>
          let (v, rest) := value fuel rest
          match skipBlanks rest with
          | some '\x7d' :: rest => ([(key, v)], rest)
          | some ',' :: rest =>
            let (ms, rest) := members fuel rest
            ((key, v) :: ms, rest)
          | _ => ([(key, v), (none, .broken)], [])
        | _ => ([(key, .broken)], [])
    | _ => ([(none, .broken)], [])
end

end Reader

/-- A text read as one value: the tree, and whether nothing but blanks follows it. -/
structure Document where
  root : Source
  ends : Bool

namespace Document

def ofGlyphs (gs : List Glyph) : Document :=
  let (v, rest) := Reader.value (2 * gs.length + 2) gs
  ⟨v, (Reader.skipBlanks rest).isEmpty⟩

def ofText (s : String) : Document := ofGlyphs (s.toList.map some)

def ofBytes (bytes : ByteArray) : Document := ofGlyphs (Text.Utf8.decode bytes.toList)

def read (d : Document) (reader : Source → Except Fault α) : Except Fault α := do
  let a ← reader d.root
  if d.ends then return a else throw .malformed

def json (d : Document) : Except Fault Json := d.read (Source.toJson maxDepth)

end Document

end KnowledgeGraph.Wire
