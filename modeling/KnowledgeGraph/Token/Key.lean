import KnowledgeGraph.Token.Authority

/-!
# Fresh secrets
-/

namespace KnowledgeGraph.Token

def freshSecretSize : Nat := 48

/-- A secret of random bytes, in characters that need no quoting anywhere. -/
def freshSecret (bytes : List UInt8) : String := encodePart bytes

end KnowledgeGraph.Token
