import KnowledgeGraph.Api.Serving
import KnowledgeGraph.Host.Backends
import Std.Async.Signal
import Std.Http.Server

/-!
# Serving over HTTP

Requests from the network are given to the service, and its answers are sent back, until the
program is told to stop.
-/

namespace KnowledgeGraph.Host

open Std.Async

def peerOf (a : Std.Net.SocketAddress) : Network.Address :=
  match a with
  | .v4 a => ⟨.v4 (a.addr.octets.toList.map UInt8.toNat), a.port.toNat⟩
  | .v6 a => ⟨.v6 (a.addr.segments.toList.map UInt16.toNat) 0, a.port.toNat⟩

def incoming (r : Std.Http.Request Std.Http.Body.Stream) (body : ByteArray) (arrival : Nat) :
    Http.Request where
  method := toString r.line.method
  target := toString r.line.uri
  headers := r.line.headers.toList.map fun (name, value) =>
    (name.value, Text.Utf8.bytes value.value)
  body
  peer := (r.extensions.get Std.Http.Server.RemoteAddr).map fun a => peerOf a.addr
  arrival

/-- The head of an answer; a header that cannot be sent is left out. -/
def outgoingHead (res : Http.Response) : Std.Http.Response.Builder :=
  let status := (Std.Http.Status.ofCode none (.ofNat res.status)).getD .internalServerError
  res.headers.foldl (fun head (name, value) =>
    (head.header? name (Text.Utf8.lossy value)).getD head) (Std.Http.Response.withStatus status)

structure Server where
  service : Api.Service
  backends : Backends
  windows : IO.Ref Traffic.Windows

namespace Server

def answerOf : Except Error Http.Response → Http.Response
  | .ok res => res
  | .error e => .ofError e

def respond (s : Server) (r : Std.Http.Request Std.Http.Body.Stream) : Async Http.Response := do
  let arrival ← IO.monoNanosNow
  let r := incoming r (← r.body.readAll) arrival
  let admission ← s.windows.modifyGet fun ws => s.service.receive r ws
  return answerOf (← s.backends.run (s.service.track r admission))

def handler (s : Server) : Std.Http.Server.StatelessHandler :=
  Std.Http.Server.Handler.ofFn fun r => do
    let res ← s.respond r
    let body ← Std.Http.Body.Full.ofByteArray ⟨res.body.toBytes.toArray⟩
    return (outgoingHead res).body (.ofBody body)

def untilStopped : Async Unit := do
  let interrupt ← Signal.Waiter.mk .sigint false
  let terminate ← Signal.Waiter.mk .sigterm false
  Async.race (discard <| await (← interrupt.wait)) (discard <| await (← terminate.wait))

/-- Bodies beyond this size are not even read; those beyond what the service takes are refused by
it. -/
def largestBody (s : Server) : Nat := max (64 * 1024 * 1024) (2 * s.service.maxBodyBytes)

def serve (s : Server) (a : Network.Address) : Async (Except Error Unit) := do
  try
    let running ← Std.Http.Server.serve (socketAddress (hostAddress a.host) a.port) s.handler
      { maxBodySize := s.largestBody, serverName := none }
    s.backends.log.write ⟨.info, "atlas", "Atlas API listening addr=" ++ a.text⟩
    untilStopped
    s.backends.log.write ⟨.info, "atlas", "Shutdown signal received"⟩
    running.shutdownAndWait
    s.backends.log.write ⟨.info, "atlas", "Atlas API stopped"⟩
    return .ok ()
  catch e => return .error (.operationFailed "bind" (a.text ++ ": " ++ toString e))

end Server

end KnowledgeGraph.Host
