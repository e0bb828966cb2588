import KnowledgeGraph.Bolt.Packing
import KnowledgeGraph.Bolt.Store

/-!
# Talking to the database

Both sides send messages. A message is a structure, and is sent in chunks that say their own size;
an empty chunk ends it. Who connects says first which versions he speaks, and then who he is. To
each request there is one answer, and before it all rows that were asked for.
-/

namespace KnowledgeGraph.Bolt

-- ---------------------------------------------------------------------------
-- Chunks.

def maxChunk : Nat := 0xFFFF

def chunk (bytes : List UInt8) : List UInt8 := bigEndian 2 bytes.length ++ bytes

def chunks (message : List UInt8) : List UInt8 :=
  if message.length ≤ maxChunk then chunk message ++ chunk []
  else chunk (message.take maxChunk) ++ chunks (message.drop maxChunk)
termination_by message.length
decreasing_by
  have : 0 < maxChunk := by decide
  simp only [List.length_drop]
  omega

/-- The first whole message of what was received, and what follows it. Empty chunks before it
mean nothing. -/
def firstMessage? (begun : List UInt8) : Unpacker (List UInt8)
  | a :: b :: bytes =>
    let n := ofBigEndian [a, b]
    if n = 0 then
      if begun.isEmpty then firstMessage? begun bytes else some (begun, bytes)
    else if bytes.length < n then none
    else firstMessage? (begun ++ bytes.take n) (bytes.drop n)
  | _ => none
termination_by bytes => bytes.length
decreasing_by
  · simp only [List.length_cons]; omega
  · simp only [List.length_cons, List.length_drop]; omega

-- ---------------------------------------------------------------------------
-- Requests.

/-- What opens a connection, and the one version that is spoken. -/
def greeting : List UInt8 :=
  [0x60, 0x60, 0xB0, 0x17, 0, 0, 1, 4, 0, 0, 0, 0, 0, 0, 0, 0, 0, 0, 0, 0]

def isGreetingAccepted (answer : List UInt8) : Bool := answer == [0, 0, 1, 4]

structure Credentials where
  user : String
  password : String

inductive Request where
  | hello (who : Credentials)
  | run (c : Command) (database : String)
  | pull

def agent : String := "atlas/0.3.0"

def Request.fields : Request → UInt8 × List Value
  | .hello who =>
    (0x01, [.map [("user_agent", .text agent), ("scheme", .text "basic"),
      ("principal", .text who.user), ("credentials", .text who.password)]])
  | .run c database => (0x10, [.text c.text, .map c.params, .map [("db", .text database)]])
  | .pull => (0x3F, [.map [("n", .integer (-1))]])

def Request.bytes (r : Request) : List UInt8 :=
  let (tag, fields) := r.fields
  chunks (structureHead fields.length tag ++ packItems fields)

-- ---------------------------------------------------------------------------
-- Answers.

inductive Reply where
  | success (about : List (String × Value))
  | row (values : List Value)
  | ignored
  | failure (about : List (String × Value))

def maxNesting : Nat := 128

def Reply.ofFields : UInt8 × List Value → Option Reply
  | (0x70, [.map about]) => some (.success about)
  | (0x71, [.list values]) => some (.row values)
  | (0x7E, _) => some .ignored
  | (0x7F, [.map about]) => some (.failure about)
  | _ => none

def Reply.read? : List UInt8 → Option Reply
  | [] => none
  | mark :: bytes => do
    let (fields, _) ← takeStructure (unpack maxNesting) mark bytes
    Reply.ofFields fields

def Reply.isLast : Reply → Bool
  | .row _ => false
  | _ => true

def about (entries : List (String × Value)) (name : String) : String :=
  match entries.lookup name with
  | some (.text s) => s
  | _ => ""

def failureText (entries : List (String × Value)) : String :=
  "Neo4j error \x60" ++ about entries "code" ++ "\x60: " ++ about entries "message"

def unexpected : String := "unexpected answer of the database"

/-- What a request that answers no rows came to. -/
def Reply.settle : Reply → Except String (List (String × Value))
  | .success about => .ok about
  | .failure about => .error (failureText about)
  | .row _ | .ignored => .error unexpected

def fieldNames (about : List (String × Value)) : List String :=
  match about.lookup "fields" with
  | some (.list names) => (texts? names).getD []
  | _ => []

def collectRows (fields : List String) : List Reply → Rows
  | [] => ⟨fields, [], some unexpected⟩
  | .row values :: replies =>
    let r := collectRows fields replies
    { r with rows := values :: r.rows }
  | .success _ :: _ => ⟨fields, [], none⟩
  | .failure about :: _ => ⟨fields, [], some (failureText about)⟩
  | .ignored :: _ => ⟨fields, [], some unexpected⟩

end KnowledgeGraph.Bolt
