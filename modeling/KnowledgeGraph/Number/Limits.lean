/-!
# The numbers of fixed sizes

The ends of their ranges.
-/

namespace KnowledgeGraph

def maxNat16 : Nat := 0xFFFF
def maxNat32 : Nat := 0xFFFFFFFF
def maxNat64 : Nat := 0xFFFFFFFFFFFFFFFF
def minInt64 : Int := -0x8000000000000000
def maxInt64 : Int := 0x7FFFFFFFFFFFFFFF

end KnowledgeGraph
