import KnowledgeGraph.Text.Split

/-!
# Places in a network

The name or the address of a host, and a port.
-/

namespace KnowledgeGraph.Network

structure Place where
  host : String
  port : Nat
  deriving DecidableEq

def withoutBrackets (cs : List Char) : List Char := cs.filter fun c => c != '[' && c != ']'

/-- The place that is named with or without a port; without one it is the given port. -/
def Place.read (own : Nat) (s : String) : Place :=
  match s.toList.reverse.span Char.isDigit with
  | (d :: ds, ':' :: before) =>
    ⟨String.ofList (withoutBrackets before.reverse),
      (d :: ds).reverse.foldl (fun n c => n * 10 + (c.toNat - 48)) 0⟩
  | _ => ⟨String.ofList (withoutBrackets s.toList), own⟩

/-- What stands before the path of an address and behind its scheme, if it has one. -/
def authorityOf (uri : String) : String :=
  let rest := match Text.cutAt? [':', '/', '/'] uri.toList with
    | some (_, rest) => rest
    | none => uri.toList
  String.ofList (rest.takeWhile fun c => c != '/' && c != '?')

end KnowledgeGraph.Network
