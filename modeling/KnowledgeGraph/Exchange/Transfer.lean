import KnowledgeGraph.Exchange.Message
import KnowledgeGraph.Http.Client
import KnowledgeGraph.Http.HeaderBlock

/-!
# Requests and responses as bytes

A request is sent on a connection of its own, so that the end of the connection ends the response.
What came is nevertheless checked against what the response says of its own size.
-/

namespace KnowledgeGraph.Exchange

open Http

-- ---------------------------------------------------------------------------
-- Requests.

def escaped (b : UInt8) : List Char := '%' :: (Http.hexDigits b).map Char.toUpper

/-- What follows the host, without what only its sender looks at, and with escapes for what may
not stand there. -/
def Url.target (u : Url) : String :=
  let sent := u.rest.toList.takeWhile (· ≠ '#')
  String.ofList ((Text.Utf8.bytes (String.ofList sent)).flatMap fun b =>
    if 0x20 < b && b < 0x7F then [Char.ofNat b.toNat] else escaped b)

def Request.headers (r : Request) (url : Url) (size : Nat) : List (String × String) :=
  [("host", url.authority.getD ""), ("accept", "*/*"), ("connection", "close")] ++
    (match r.bearer with
      | some bearer => [("authorization", "Bearer " ++ bearer)]
      | none => []) ++
    if r.body.isSome then
      [("content-type", "application/json"), ("content-length", Nat.repr size)]
    else []

def Request.bytes (r : Request) (url : Url) : List UInt8 :=
  let body := match r.body with
    | some j => Text.Utf8.bytes j.text
    | none => []
  let lines := (r.method ++ " " ++ url.target ++ " HTTP/1.1") ::
    (r.headers url body.length).map fun (name, value) => name ++ ": " ++ value
  lines.flatMap (fun line => Text.Utf8.bytes line ++ lineEnd) ++ lineEnd ++ body

-- ---------------------------------------------------------------------------
-- Responses.

def readStatus (line : List UInt8) : Option Nat := do
  let s ← visible? line
  let (version, rest) ← Text.splitOnce? ' ' s
  let digits := rest.toList.takeWhile (· ≠ ' ')
  if (Text.stripLead? version "HTTP/1.").isSome ∧ digits.length = 3 ∧ digits.all Char.isDigit then
    some (digits.foldl (fun n c => n * 10 + (c.toNat - 48)) 0)
  else none

def chunkSize? (line : List UInt8) : Option Nat := do
  let (digits, _) := Network.digits 16 (line.map fun b => Char.ofNat b.toNat)
  if digits.isEmpty then none else some (digits.foldl (fun n d => n * 16 + d) 0)

/-- A body in pieces, each behind a line with its size, up to an empty piece. -/
def joinChunks (bytes : List UInt8) : Option (List UInt8) :=
  match _h : Text.cutAt? lineEnd bytes with
  | none => none
  | some (line, rest) =>
    match chunkSize? line with
    | none => none
    | some 0 => some []
    | some n =>
      if rest.length < n + lineEnd.length then none
      else (joinChunks (rest.drop (n + lineEnd.length))).map (rest.take n ++ ·)
termination_by bytes.length
decreasing_by
  have := Text.length_of_cutAt? _h
  simp only [lineEnd, List.length_cons, List.length_nil] at this
  simp only [List.length_drop]
  omega

/-- The body that follows such headers, if all of it is there. -/
def readBody (hs : Headers) (bytes : List UInt8) : Option (List UInt8) :=
  if hs.trimmed? "transfer-encoding" = some "chunked" then joinChunks bytes
  else
    match hs.trimmed? "content-length" >>= String.toNat? with
    | some n => if bytes.length < n then none else some (bytes.take n)
    | none => some bytes

def Response.read? (bytes : List UInt8) : Option Response := do
  let (head, rest) ← Text.cutAt? blankLine bytes
  let (first, lines) ← (headerLines head).head?.map (·, (headerLines head).tail)
  let hs : Headers ← lines.mapM readHeader
  let status ← readStatus first
  let body ← readBody hs rest
  return ⟨status, hs.text? "content-type", ⟨body.toArray⟩⟩

end KnowledgeGraph.Exchange
