import KnowledgeGraph.Http.Message
import KnowledgeGraph.Http.Multipart
import KnowledgeGraph.Wire.Form

/-!
# Reading requests

What a request says, in its query, its body or its path. A request that cannot be read is answered
with the reason.
-/

namespace KnowledgeGraph.Api

open Http

def readQuery (α : Type) [Wire.Readable α] (r : Request) : Except Error α :=
  match Wire.readQuery α r.query with
  | .ok a => .ok a
  | .error _ =>
    .error (.invalidInput "Failed to deserialize query string: a value is not as expected")

-- ---------------------------------------------------------------------------
-- Bodies.

def mediaType? (r : Request) : Option MediaType :=
  r.headers.text? "content-type" >>= MediaType.read?

def bodyFault : Wire.Fault → String
  | .malformed => "Failed to parse the request body as JSON: malformed text"
  | .mismatch =>
    "Failed to deserialize the JSON body into the target type: a value is not as expected"

/-- Reads the body as a JSON text, if it is said to be one and is not too long. -/
def readJson (α : Type) [Wire.Readable α] (maxBytes : Nat) (r : Request) : Except Error α :=
  if !(mediaType? r).any (·.isJson) then
    .error (.invalidInput "Expected request with \x60Content-Type: application/json\x60")
  else if maxBytes < r.body.size then
    .error (.invalidInput "Failed to buffer the request body: length limit exceeded")
  else
    match (Wire.Document.ofBytes r.body).readAs α with
    | .ok a => .ok a
    | .error fault => .error (.invalidInput (bodyFault fault))

def boundary? (r : Request) : Option String := mediaType? r >>= MediaType.boundary?

def filePart : String := "file"

def readFile (maxBytes : Nat) (boundary : String) (r : Request) :
    Except Error (ByteArray × Option String) :=
  let found :=
    if maxBytes < r.body.size then .error .tooLarge
    else Multipart.find boundary filePart r.body.toList
  match found with
  | .error fault => .error (.invalidInput fault.message)
  | .ok none => .error (.invalidInput "No file provided")
  | .ok (some (part, content)) => .ok (⟨content.toArray⟩, part.contentType.map (·.text))

-- ---------------------------------------------------------------------------
-- Paths.

def readSegment (s : String) : Option String :=
  Text.Utf8.text? (Wire.Form.percentDecode (Text.Utf8.bytes s))

end KnowledgeGraph.Api
