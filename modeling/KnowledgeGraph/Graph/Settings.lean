import KnowledgeGraph.Number.Binary64

/-!
# Settings of the graph
-/

namespace KnowledgeGraph.Graph

structure Settings where
  vectorIndex : String := "nodeEmbeddings"
  vectorLabel : String := "L1"
  similarityThreshold : Binary64 := .ofDecimal false 7 (-1)
  maxDepth : Nat := 5

end KnowledgeGraph.Graph
