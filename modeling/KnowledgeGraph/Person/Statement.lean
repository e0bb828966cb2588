import KnowledgeGraph.Graph.Statement

/-!
# Statements about people
-/

namespace KnowledgeGraph.Person

open KnowledgeGraph.Graph

/-- Whoever has the phone number or the name already. -/
def holders (username phone : String) : Statement :=
  .ofLines ["MATCH (n:Person)", "WHERE n.phone = $phone OR n.username = $username",
      "RETURN elementId(n) AS id"]
    [("phone", .str phone), ("username", .str username)] ["id"]

def create (username passwordHash phone : String) : Statement :=
  .ofLines ["CREATE (p:Person:L3 " ++
      braced "username: $username, password: $password, phone: $phone" ++ ")",
      "RETURN elementId(p) AS id"]
    [("username", .str username), ("password", .str passwordHash), ("phone", .str phone)] ["id"]

def passwordOf (username : String) : Statement :=
  .ofLines ["MATCH (n:Person)", "WHERE n.username = $username", "RETURN n.password AS password"]
    [("username", .str username)] ["password"]

def profile (username : String) : Statement :=
  .ofLines (["MATCH (node:Person)", "WHERE node.username = $username"] ++ expansion 1)
    [("username", .str username)] expansionColumns

end KnowledgeGraph.Person
