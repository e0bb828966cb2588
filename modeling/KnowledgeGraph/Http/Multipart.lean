import KnowledgeGraph.Http.HeaderBlock
import KnowledgeGraph.Text.Quoted

/-!
# Forms in parts

A form that was sent in parts. Each part stands between two boundaries: lines of two dashes and a
text that none of the parts holds. It has headers, which tell its name, and after a blank line its
content. Two dashes more follow the last boundary.
-/

namespace KnowledgeGraph.Http.Multipart

structure Part where
  name : Option String
  contentType : Option MediaType

inductive Fault where
  /-- The form breaks off, or something else stands where a boundary or a line must end. -/
  | incomplete
  /-- No boundary follows the content of a part. -/
  | endless (name : Option String)
  | headers
  | tooLarge
  deriving DecidableEq

def Fault.message : Fault → String
  | .incomplete => "incomplete multipart stream"
  | .endless name =>
    "field " ++ Text.quoted (name.getD "<unknown>") ++ " received with incomplete data"
  | .headers => "failed to read headers"
  | .tooLarge => "Request payload is too large"

def dashes : List UInt8 := [0x2D, 0x2D]

-- ---------------------------------------------------------------------------
-- The headers of a part.

def maxHeaders : Nat := 32

/-- The headers up to the first blank line; the last one of a name counts. -/
def readHeaders (block : List UInt8) : Except Fault Headers :=
  match (headerLines block).mapM readHeader with
  | some hs =>
    if maxHeaders < hs.length then .error .headers
    else .ok (hs.foldl (fun all (name, value) => all.set name value) [])
  | none => .error .headers

-- ---------------------------------------------------------------------------
-- The name of a part.

def isSpace (b : UInt8) : Bool :=
  b == 0x20 || b == 0x09 || b == 0x0A || b == 0x0C || b == 0x0D

/-- A value up to the quote that ends it; a quote that does not follows a backslash. -/
def quotedValue : List UInt8 → Option (List UInt8)
  | [] => none
  | 0x22 :: _ => some []
  | 0x5C :: 0x22 :: rest => (quotedValue rest).map (0x22 :: ·)
  | b :: rest => (quotedValue rest).map (b :: ·)

def attributeValue (bs : List UInt8) : Option (List UInt8) :=
  match bs.dropWhile isSpace with
  | 0x3D :: rest =>
    match rest.dropWhile isSpace with
    | 0x22 :: rest => quotedValue rest
    | rest => some (rest.takeWhile fun b => b != 0x3B && b != 0x20)
  | _ => none

def nameWord : List UInt8 := [0x6E, 0x61, 0x6D, 0x65]

/-- The value of the attribute `name`, which starts the text or follows a blank or a semicolon. -/
def nameValue? (bs : List UInt8) : Option (List UInt8) :=
  match _h : Text.cutAt? nameWord bs with
  | none => none
  | some (before, rest) =>
    if before.getLast?.all fun b => isSpace b || b == 0x3B then attributeValue rest
    else nameValue? rest
termination_by bs.length
decreasing_by
  have := Text.length_of_cutAt? _h
  simp only [nameWord, List.length_cons, List.length_nil] at this
  omega

def Part.ofHeaders (hs : Headers) : Part where
  name := (hs.get? "content-disposition" >>= nameValue?) >>= Text.Utf8.text?
  contentType := hs.text? "content-type" >>= MediaType.read?

-- ---------------------------------------------------------------------------
-- Parts.

/-- Reads the end of a boundary's line, and the part that starts there; there is none after the
last boundary. -/
def readHead (bs : List UInt8) : Except Fault (Option (Part × List UInt8)) :=
  match bs with
  | 0x2D :: 0x2D :: _ => .ok none
  | _ =>
    match dropPadding bs with
    | 0x0D :: 0x0A :: rest =>
      match Text.cutAt? blankLine rest with
      | none => .error .incomplete
      | some (block, content) => do
        return some (.ofHeaders (← readHeaders block), content)
    | _ => .error .incomplete

theorem length_of_readHead {bs content : List UInt8} {part : Part}
    (h : readHead bs = .ok (some (part, content))) : content.length < bs.length := by
  unfold readHead at h
  split at h
  · simp at h
  · split at h
    · next rest hd =>
      have hle := length_dropPadding_le bs
      rw [hd] at hle
      split at h
      · simp at h
      · next block content' hc =>
        have := Text.length_of_cutAt? hc
        cases hr : readHeaders block <;> simp [hr, bind, Except.bind, pure, Except.pure] at h
        obtain ⟨-, rfl⟩ := h
        simp [blankLine, lineEnd] at this hle
        omega
    · simp at h

/-- The first part of a name, with its content; read from what follows a boundary. -/
def findPart (delimiter : List UInt8) (name : String) (bs : List UInt8) :
    Except Fault (Option (Part × List UInt8)) :=
  match _h : readHead bs with
  | .error fault => .error fault
  | .ok none => .ok none
  | .ok (some (part, rest)) =>
    match _hc : Text.cutAt? delimiter rest with
    | none => .error (.endless part.name)
    | some (content, rest) =>
      if part.name = some name then .ok (some (part, content)) else findPart delimiter name rest
termination_by bs.length
decreasing_by
  have := length_of_readHead _h
  have := Text.length_of_cutAt? _hc
  omega

def find (boundary name : String) (body : List UInt8) :
    Except Fault (Option (Part × List UInt8)) :=
  let opening := dashes ++ Text.Utf8.bytes boundary
  match Text.cutAt? opening body with
  | none => .error .incomplete
  | some (_, rest) => findPart (lineEnd ++ opening) name rest

end KnowledgeGraph.Http.Multipart
