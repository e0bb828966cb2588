import KnowledgeGraph.Wire.Form

/-!
# Requests of the helper routes: objects and embeddings
-/

namespace KnowledgeGraph.Asset

open Wire

structure Location where
  bucket : Option String
  key : Option String

instance : Readable Location where
  fields := .cons "bucket" .free (.optional .text) <|
    .cons "key" .free (.optional .text) .nil
  ofMeaning := fun (bucket, key, _) => ⟨bucket, key⟩

structure EmbeddingRequest where
  text : String

instance : Readable EmbeddingRequest where
  fields := .cons "text" .free .text .nil
  ofMeaning := fun (text, _) => ⟨text⟩

structure EmbeddingResponse where
  embedding : List Binary64

instance : Writable EmbeddingResponse where
  fields := .cons "embedding" .required (.list .float) .nil
  ofMeaning := fun (embedding, _) => ⟨embedding⟩
  toMeaning := fun r => (r.embedding, ())

end KnowledgeGraph.Asset
