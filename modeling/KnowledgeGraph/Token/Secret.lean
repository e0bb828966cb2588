import KnowledgeGraph.Error
import KnowledgeGraph.Text.Split

/-!
# The secret that tokens are signed with

A secret is refused if it is short, is made of few characters or holds a text that is guessed
first.
-/

namespace KnowledgeGraph.Token

structure Settings where
  secret : Option String
  lifetimeHours : Nat
  deriving DecidableEq

def defaultLifetimeHours : Nat := 24

/-- The least length of a secret, in bytes. -/
def minSecretLength : Nat := 32

def minDistinctChars : Nat := 8

def guessedFirst : List String :=
  ["password", "secret", "123456", "abcdef", "qwerty", "000000", "111111", "aaaaaa"]

def distinctChars (s : String) : Nat := s.toList.eraseDups.length

/-- The first guess that the secret holds, in whatever case. -/
def weakness? (secret : String) : Option String :=
  let lower := String.ofList (secret.toList.map Char.toLower)
  guessedFirst.find? fun guess => Text.contains lower guess

def checkSecret (secret : Option String) : Except Error String :=
  match secret with
  | none => refuse "JWT_SECRET is not configured"
  | some secret =>
    if secret.utf8ByteSize < minSecretLength then
      refuse ("JWT secret must be at least " ++ Nat.repr minSecretLength ++ " characters (got " ++
        Nat.repr secret.utf8ByteSize ++ ")")
    else if distinctChars secret < minDistinctChars then
      refuse ("JWT secret has insufficient entropy: only " ++ Nat.repr (distinctChars secret) ++
        " unique characters (minimum: " ++ Nat.repr minDistinctChars ++ ")")
    else
      match weakness? secret with
      | some guess => refuse ("JWT secret contains weak pattern '" ++ guess ++ "'")
      | none => .ok secret
where
  refuse (cause : String) : Except Error String := .error (.operationFailed "jwt_config" cause)

end KnowledgeGraph.Token
