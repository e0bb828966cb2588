import KnowledgeGraph.Wire.Form

/-!
# Requests about accounts
-/

namespace KnowledgeGraph.Person

open Wire

structure SignUp where
  username : String
  password : String
  phone : String

instance : Readable SignUp where
  fields := .cons "username" .free .text <|
    .cons "password" .free .text <|
    .cons "phone" .free .text .nil
  ofMeaning := fun (username, password, phone, _) => ⟨username, password, phone⟩

structure Login where
  username : String
  password : String

instance : Readable Login where
  fields := .cons "username" .free .text <| .cons "password" .free .text .nil
  ofMeaning := fun (username, password, _) => ⟨username, password⟩

structure Token where
  token : String
  deriving DecidableEq

instance : Writable Token where
  fields := .cons "token" .required .text .nil
  ofMeaning := fun (token, _) => ⟨token⟩
  toMeaning := fun t => (t.token, ())

end KnowledgeGraph.Person
