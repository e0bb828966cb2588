import KnowledgeGraph.Graph.Statement
import KnowledgeGraph.Text.Split

/-!
# Statements that write

A statement can only change the graph by an updating clause, which starts with a word of its own.
-/

namespace KnowledgeGraph.Graph

def updatingWords : List String := ["CREATE", "MERGE", "SET", "REMOVE", "DELETE"]

/-- The runs of letters of a text. -/
def words (text : String) : List String :=
  (Text.splitBy (!·.isAlpha) text.toList).map String.ofList

/-- Whether the text of a statement holds a word of an updating clause, be it only inside a name. -/
def Statement.Writes (st : Statement) : Prop := ∃ word ∈ words st.text, word ∈ updatingWords

instance (st : Statement) : Decidable st.Writes :=
  inferInstanceAs (Decidable (∃ word ∈ words st.text, word ∈ updatingWords))

end KnowledgeGraph.Graph
