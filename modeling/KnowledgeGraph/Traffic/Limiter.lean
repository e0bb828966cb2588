import Std.Data.HashMap

/-!
# Rate limiting

Each client has a window of time, opened by its first request, in which so many requests are
admitted. A request after the end of the window opens the next one. When many clients are known,
those whose window has ended are forgotten, which no client can tell.
-/

namespace KnowledgeGraph.Traffic

structure Limits where
  maxRequests : Nat
  /-- In nanoseconds. -/
  window : Nat
  deriving DecidableEq

def nanosecondsPerSecond : Nat := 1000000000

def Limits.ofSeconds (maxRequests windowSeconds : Nat) : Limits :=
  ⟨maxRequests, windowSeconds * nanosecondsPerSecond⟩

def defaultLimits : Limits := .ofSeconds 60 60

/-- The requests admitted since a time. -/
structure Window where
  admitted : Nat
  start : Nat
  deriving DecidableEq

inductive Decision where
  /-- Admitted; so many more are in this window. -/
  | allowed (remaining : Nat)
  /-- Refused for so many nanoseconds. -/
  | limited (retryAfter : Nat)
  deriving DecidableEq

def Decision.isAllowed : Decision → Bool
  | .allowed _ => true
  | .limited _ => false

/-- Whether a time is in the window. A time before its start counts as its start. -/
def Limits.covers (l : Limits) (now : Nat) (w : Window) : Bool := now - w.start ≤ l.window

def Limits.windowAt (l : Limits) (now : Nat) : Option Window → Window
  | none => ⟨0, now⟩
  | some w => if l.covers now w then w else ⟨0, now⟩

/-- Decides about a request in its window, and counts it if it is admitted. -/
def Limits.enter (l : Limits) (now : Nat) (w : Window) : Decision × Window :=
  if l.maxRequests ≤ w.admitted then (.limited (l.window - (now - w.start)), w)
  else (.allowed (l.maxRequests - (w.admitted + 1)), { w with admitted := w.admitted + 1 })

-- ---------------------------------------------------------------------------
-- All clients.

abbrev Windows := Std.HashMap String Window

/-- How many clients may be known before a request has the others looked at. -/
def sweepThreshold : Nat := 10000

def Limits.sweep (l : Limits) (now : Nat) (ws : Windows) : Windows :=
  if sweepThreshold < ws.size then ws.filter fun _ w => l.covers now w else ws

def Limits.check (l : Limits) (client : String) (now : Nat) (ws : Windows) :
    Decision × Windows :=
  let ws := l.sweep now ws
  let (decision, w) := l.enter now (l.windowAt now ws[client]?)
  (decision, ws.insert client w)

end KnowledgeGraph.Traffic
