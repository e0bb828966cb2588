import KnowledgeGraph.Password.Scheme
import KnowledgeGraph.Person.Request
import KnowledgeGraph.Person.Statement
import KnowledgeGraph.Token.Authority
import KnowledgeGraph.Workflow.Checks

/-!
# Signing up and logging in

An account is a person with a name, a phone number and a stored password. Names and phone
numbers are trimmed, passwords are taken as they are. Both operations answer a token.
-/

namespace KnowledgeGraph.Person

open KnowledgeGraph.Graph

def requireAll (texts : List String) : Except Error Unit :=
  if texts.any String.isEmpty then .error (.invalidInput "invalid request") else .ok ()

def issueToken (tokens : Token.Authority) (username : String) : Workflow Token := do
  let now ← Workflow.now
  return ⟨tokens.issue now username⟩

def signUp (scheme : Password.Scheme) (tokens : Token.Authority) (request : SignUp) :
    Workflow Token := do
  let username := Text.trim request.username
  let phone := Text.trim request.phone
  requireAll [username, phone, request.password]
  let taken ← Workflow.query (holders username phone)
  unless taken.isEmpty do
    Workflow.refuse (.alreadyExists "Username or phone number already exists!")
  let salt ← Workflow.entropy scheme.saltSize
  let stored ← scheme.hash salt.toList request.password
  discard <| Workflow.query (create username stored phone)
  Workflow.count .accountCreated
  issueToken tokens username

def storedPassword (rows : List Record) : Except Error String :=
  match rows with
  | [row] =>
    match row.str? "password" with
    | some stored => .ok stored
    | none => notFound
  | _ => notFound
where
  notFound : Except Error String :=
    .error (.unauthorized "Username and password combo not found!")

def login (scheme : Password.Scheme) (tokens : Token.Authority) (request : Login) :
    Workflow Token := do
  let username := Text.trim request.username
  requireAll [username, request.password]
  let rows ← Workflow.query (passwordOf username)
  let stored ← storedPassword rows
  let isSame ← scheme.verify request.password stored
  unless isSame do Workflow.refuse (.unauthorized "invalid username or password")
  issueToken tokens username

end KnowledgeGraph.Person
