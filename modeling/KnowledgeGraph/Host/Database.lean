import KnowledgeGraph.Bolt.Dialogue
import KnowledgeGraph.Config.Settings
import KnowledgeGraph.Host.Socket

/-!
# Connections to the database

A command runs on a connection of its own. One on which nothing failed is kept for the next.
-/

namespace KnowledgeGraph.Host

open Std.Async

structure Connection where
  client : TCP.Socket.Client
  /-- What was received but not yet read. -/
  unread : List UInt8

structure Database where
  settings : Config.Database
  /-- Connections that no command runs on. -/
  idle : IO.Ref (List Connection)

namespace Database

def boltPort : Nat := 7687

def new (settings : Config.Database) : IO Database := return ⟨settings, ← IO.mkRef []⟩

def place (d : Database) : Network.Place :=
  .read boltPort (Network.authorityOf d.settings.uri)

def nextReply (c : Connection) : Async (Bolt.Reply × Connection) := do
  let (message, unread) ← receiveUntil c.client (Bolt.firstMessage? []) c.unread
  match Bolt.Reply.read? message with
  | some reply => return (reply, { c with unread })
  | none => throw (.userError Bolt.unexpected)

partial def replies (c : Connection) (before : List Bolt.Reply) :
    Async (List Bolt.Reply × Connection) := do
  let (reply, c) ← nextReply c
  if reply.isLast then return ((reply :: before).reverse, c)
  else replies c (reply :: before)

def settled (reply : Bolt.Reply) : Async (List (String × Bolt.Value)) :=
  match reply.settle with
  | .ok about => return about
  | .error cause => throw (.userError cause)

def openConnection (d : Database) : Async Connection := do
  let client ← connect d.place
  send client Bolt.greeting
  let (version, unread) ← receiveUntil client (Bolt.takeBytes 4) []
  if !Bolt.isGreetingAccepted version then
    throw (.userError "the database speaks no version that is known here")
  send client (Bolt.Request.hello ⟨d.settings.user, d.settings.password⟩).bytes
  let (reply, c) ← nextReply ⟨client, unread⟩
  discard <| settled reply
  return c

def takeConnection (d : Database) : Async Connection := do
  let kept ← d.idle.modifyGet fun
    | [] => (none, [])
    | c :: cs => (some c, cs)
  match kept with
  | some c => return c
  | none => d.openConnection

def keep (d : Database) (c : Connection) : IO Unit :=
  d.idle.modify fun cs => if cs.length < d.settings.maxConnections then c :: cs else cs

def runOn (d : Database) (c : Connection) (command : Bolt.Command) : Async Bolt.Rows := do
  send c.client
    ((Bolt.Request.run command d.settings.database).bytes ++ Bolt.Request.pull.bytes)
  let (reply, c) ← nextReply c
  let fields := Bolt.fieldNames (← settled reply)
  let (answers, c) ← replies c []
  let rows := Bolt.collectRows fields answers
  if rows.brokeOff.isNone then d.keep c
  return rows

def session (d : Database) : Bolt.Session Async := fun command => do
  try return .ok (← d.runOn (← d.takeConnection) command)
  catch e => return .error (toString e)

end Database

end KnowledgeGraph.Host
