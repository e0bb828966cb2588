import KnowledgeGraph.Network.Address
import KnowledgeGraph.Network.Place
import Std.Async.DNS
import Std.Async.TCP
import Std.Async.Timer

/-!
# Sockets

Connections to places in the network, over which bytes are sent and received.
-/

namespace KnowledgeGraph.Host

open Std.Async Std.Net

def byte (octets : List Nat) (i : Nat) : UInt8 := .ofNat (octets.getD i 0)
def word16 (groups : List Nat) (i : Nat) : UInt16 := .ofNat (groups.getD i 0)

def hostAddress : Network.Host → IPAddr
  | .v4 os => .v4 (.ofParts (byte os 0) (byte os 1) (byte os 2) (byte os 3))
  | .v6 gs _ => .v6 (.ofParts (word16 gs 0) (word16 gs 1) (word16 gs 2) (word16 gs 3)
      (word16 gs 4) (word16 gs 5) (word16 gs 6) (word16 gs 7))

def socketAddress (a : IPAddr) (port : Nat) : SocketAddress :=
  match a with
  | .v4 addr => .v4 ⟨addr, .ofNat port⟩
  | .v6 addr => .v6 ⟨addr, .ofNat port⟩

def addresses (p : Network.Place) : Async (List SocketAddress) := do
  let found ← DNS.getAddrInfo p.host (Nat.repr p.port)
  return found.toList.map (socketAddress · p.port)

def connectFirst : List SocketAddress → Async TCP.Socket.Client
  | [] => throw (.userError "there is no address of this name")
  | a :: as => do
    let client ← TCP.Socket.Client.mk
    try
      client.connect a
      return client
    catch e => if as.isEmpty then throw e else connectFirst as

def connect (p : Network.Place) : Async TCP.Socket.Client := do connectFirst (← addresses p)

def send (c : TCP.Socket.Client) (bytes : List UInt8) : Async Unit := c.send ⟨bytes.toArray⟩

def receiveSize : UInt64 := 65536

partial def receiveAll (c : TCP.Socket.Client) (before : List UInt8) : Async (List UInt8) := do
  match ← c.recv? receiveSize with
  | none => return before
  | some bytes => receiveAll c (before ++ bytes.toList)

partial def receiveUntil (c : TCP.Socket.Client) (read : List UInt8 → Option (α × List UInt8))
    (before : List UInt8) : Async (α × List UInt8) := do
  match read before with
  | some found => return found
  | none =>
    match ← c.recv? receiveSize with
    | none => throw (.userError "the connection was closed")
    | some bytes => receiveUntil c read (before ++ bytes.toList)

def within (seconds : Nat) (action : Async α) : Async (Option α) := do
  Async.race (some <$> action) do
    sleep (.ofNat (seconds * 1000))
    return none

end KnowledgeGraph.Host
