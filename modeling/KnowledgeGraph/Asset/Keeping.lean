import KnowledgeGraph.Asset.ContentType
import KnowledgeGraph.Workflow.Checks

/-!
# Keeping objects for clients

A client names a key and may name a bucket; else the configured one is meant. The content type
is the declared one, or the sniffed one when none, or the type of unknown bytes, was declared.
-/

namespace KnowledgeGraph.Asset

def resolve (defaultBucket bucket key : Option String) : Except Error (String × String) :=
  match key.bind Text.trimmed? with
  | none => .error (.invalidInput "key is required")
  | some key =>
    match (bucket.bind Text.trimmed?).orElse fun _ => defaultBucket with
    | none => .error (.invalidInput "bucket is required; no default bucket is configured")
    | some bucket => .ok (bucket, key)

def typeOf (bytes : ByteArray) (declared : Option String) : String :=
  (declared.filter fun t => !t.isEmpty && t != defaultContentType).getD (sniff bytes)

def fetch (defaultBucket bucket key : Option String) : Workflow Object := do
  let (bucket, key) ← resolve defaultBucket bucket key
  Workflow.get bucket key

def keep (defaultBucket bucket key : Option String) (bytes : ByteArray)
    (declared : Option String) : Workflow Unit := do
  let (bucket, key) ← resolve defaultBucket bucket key
  Workflow.put bucket key ⟨bytes, typeOf bytes declared⟩

end KnowledgeGraph.Asset
