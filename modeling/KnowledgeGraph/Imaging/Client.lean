import KnowledgeGraph.Digest.Base64
import KnowledgeGraph.Exchange.Message
import KnowledgeGraph.Wire.Shape

/-!
# The image service

It is sent a prompt and answers the bytes of an image, or a JSON text that holds them or tells
where they are. Without an endpoint there is no image service.
-/

namespace KnowledgeGraph.Imaging

open Wire Exchange

structure Settings where
  endpoint : Option String := none
  apiKey : Option String := none
  width : Nat := 1024
  height : Nat := 1024
  steps : Nat := 8
  timeoutSeconds : Nat := 120
  deriving DecidableEq

def request (settings : Settings) (endpoint prompt : String) : Request where
  method := "POST"
  url := endpoint
  bearer := settings.apiKey
  body := some (.obj [("prompt", .str prompt), ("width", .nat settings.width),
    ("height", .nat settings.height), ("num_inference_steps", .nat settings.steps)])

-- ---------------------------------------------------------------------------
-- The answer.

structure Image where
  url : Option String
  encoded : Option String
  deriving DecidableEq

structure Envelope where
  images : List Image

def imageLayout : Layout :=
  .cons "url" .free (.optional .text) <| .cons "b64_json" .free (.optional .text) .nil

instance : Readable Envelope where
  fields := .cons "data" .free (.list (.record imageLayout)) .nil
  ofMeaning := fun (images, _) => ⟨images.map fun (url, encoded, _) => ⟨url, encoded⟩⟩

inductive Found where
  | bytes (bytes : ByteArray)
  | url (url : String)

def responseFailure (cause : String) : Failure := ⟨"image_generation_response", cause⟩

def Image.find (i : Image) : Except Failure Found :=
  match i.encoded, i.url with
  | some s, _ =>
    match Base64.standard.decode (Text.Utf8.bytes s) with
    | .ok bytes => .ok (.bytes ⟨bytes.toArray⟩)
    | .error fault => .error ⟨"image_generation_decode", fault.message⟩
  | none, some url => .ok (.url url)
  | none, none => .error (responseFailure "image entry had neither url nor b64_json")

def readEnvelope (body : ByteArray) : Except Failure Found :=
  match (Document.ofBytes body).readAs Envelope with
  | .error _ => .error (responseFailure "malformed text at line 1")
  | .ok e =>
    match e.images with
    | [] => .error (responseFailure "response contained no images")
    | i :: _ => i.find

def isJson (r : Response) : Bool :=
  r.contentType.any fun t => (Text.stripLead? t "application/json").isSome

def readResponse (r : Response) : Except Failure Found :=
  if !r.isSuccess then .error (r.rejection "image_generation_request")
  else if isJson r then readEnvelope r.body
  else .ok (.bytes r.body)

def readDownload (r : Response) : Except Failure ByteArray :=
  if r.isSuccess then .ok r.body
  else .error ⟨"image_download", "download returned status: " ++ Http.statusText r.status⟩

def download [Monad m] (sender : Sender m) (url : String) : m (Except Failure ByteArray) := do
  match ← (Request.mk "GET" url none none).send "image_download" sender with
  | .ok r => return readDownload r
  | .error failure => return .error failure

def generate [Monad m] (settings : Settings) (sender : Sender m) (endpoint prompt : String) :
    m (Except Failure ByteArray) := do
  match ← (request settings endpoint prompt).send "image_generation_request" sender with
  | .error failure => return .error failure
  | .ok r =>
    match readResponse r with
    | .error failure => return .error failure
    | .ok (.bytes bytes) => return .ok bytes
    | .ok (.url url) => download sender url

end KnowledgeGraph.Imaging
