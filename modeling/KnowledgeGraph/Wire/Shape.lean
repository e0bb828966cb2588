import KnowledgeGraph.Number.Limits
import KnowledgeGraph.Wire.Reader

/-!
# Shapes of requests and answers

A shape says what a value on the wire must be, and `Meaning` which Lean type it then has. A
record is read from an object, in the order in which the members stand, or from a list of its
fields; members it does not know are skipped, and one given twice is a mismatch. What a field may
leave out is its `Presence`. Reading what was written gives the same value back.
-/

namespace KnowledgeGraph.Wire

inductive Presence where
  /-- Never. -/
  | required
  /-- From an object, but not from a list of fields. -/
  | named
  /-- Always. -/
  | free
  /-- Always, and it is not written when it is absent. -/
  | sparse
  deriving DecidableEq

def Presence.inObject : Presence → Bool
  | .required => false
  | _ => true

def Presence.inList : Presence → Bool
  | .required | .named => false
  | _ => true

mutual
inductive Shape where
  | text
  | flag
  | int64
  | nat64
  | nat32
  | nat16
  | float
  | any
  | object
  | optional (s : Shape)
  | list (s : Shape)
  | record (fields : Layout)
inductive Layout where
  | nil
  | cons (name : String) (presence : Presence) (shape : Shape) (rest : Layout)
end

mutual
@[reducible] def Shape.Meaning : Shape → Type
  | .text => String
  | .flag => Bool
  | .int64 => Int64
  | .nat64 => UInt64
  | .nat32 => UInt32
  | .nat16 => UInt16
  | .float => Binary64
  | .any => Json
  | .object => Json.Members
  | .optional s => Option s.Meaning
  | .list s => List s.Meaning
  | .record l => l.Meaning
@[reducible] def Layout.Meaning : Layout → Type
  | .nil => Unit
  | .cons _ _ s rest => s.Meaning × rest.Meaning
end

@[reducible] def Layout.Slots : Layout → Type
  | .nil => Unit
  | .cons _ _ s rest => Option s.Meaning × rest.Slots

def Layout.emptySlots : (l : Layout) → l.Slots
  | .nil => ()
  | .cons _ _ _ rest => (none, rest.emptySlots)

mutual
/-- What stands for a field that was left out. -/
def Shape.absent : (s : Shape) → s.Meaning
  | .text => ""
  | .flag => false
  | .int64 => 0
  | .nat64 => 0
  | .nat32 => 0
  | .nat16 => 0
  | .float => Binary64.zero
  | .any => .null
  | .object => []
  | .optional _ => none
  | .list _ => []
  | .record l => l.absent
def Layout.absent : (l : Layout) → l.Meaning
  | .nil => ()
  | .cons _ _ s rest => (s.absent, rest.absent)
end

def Source.refusal : Source → Fault
  | .outOfRange | .garbled | .broken => .malformed
  | _ => .mismatch

def Source.integer (low high : Int) : Source → Except Fault Int
  | .num (.int n) => if low ≤ n ∧ n ≤ high then .ok n else .error .mismatch
  | v => .error v.refusal

mutual
def Shape.read (depth : Nat) : (s : Shape) → Source → Except Fault s.Meaning
  | .text, .str s => .ok s
  | .text, v => .error v.refusal
  | .flag, .bool b => .ok b
  | .flag, v => .error v.refusal
  | .int64, v => (v.integer minInt64 maxInt64).map Int64.ofInt
  | .nat64, v => (v.integer 0 maxNat64).map fun n => UInt64.ofNat n.toNat
  | .nat32, v => (v.integer 0 maxNat32).map fun n => UInt32.ofNat n.toNat
  | .nat16, v => (v.integer 0 maxNat16).map fun n => UInt16.ofNat n.toNat
  | .float, .num n => .ok n.toFloat
  | .float, v => .error v.refusal
  | .any, v => v.toJson depth
  | .object, .object ms =>
    match depth with
    | 0 => .error .malformed
    | depth + 1 => Source.membersToJson depth ms []
  | .object, v => .error v.refusal
  | .optional _, .null => .ok none
  | .optional s, v => (s.read depth v).map some
  | .list s, .list items =>
    match depth with
    | 0 => .error .malformed
    | depth + 1 => items.mapM (s.read depth)
  | .list _, v => .error v.refusal
  | .record l, .object ms =>
    match depth with
    | 0 => .error .malformed
    | depth + 1 => do
      let slots ← ms.foldlM (fun slots (key, v) =>
        match key with
        | none => .error .malformed
        | some key =>
          match l.readMember depth key v slots with
          | some slots => slots
          | none => if v.isWhole then .ok slots else .error .malformed) l.emptySlots
      l.finish slots
  | .record l, .list items =>
    match depth with
    | 0 => .error .malformed
    | depth + 1 => l.readItems depth items
  | .record _, v => .error v.refusal
def Layout.readMember (depth : Nat) :
    (l : Layout) → String → Source → l.Slots → Option (Except Fault l.Slots)
  | .nil, _, _, _ => none
  | .cons name _ s rest, key, v, (slot, slots) =>
    if key = name then
      match slot with
      | some _ => some (.error .mismatch)
      | none => some ((s.read depth v).map fun a => (some a, slots))
    else (rest.readMember depth key v slots).map (·.map fun slots => (slot, slots))
def Layout.finish : (l : Layout) → l.Slots → Except Fault l.Meaning
  | .nil, _ => .ok ()
  | .cons _ presence s rest, (slot, slots) =>
    match slot with
    | some a => (rest.finish slots).map fun r => (a, r)
    | none =>
      if presence.inObject then (rest.finish slots).map fun r => (s.absent, r)
      else .error .mismatch
def Layout.readItems (depth : Nat) : (l : Layout) → List Source → Except Fault l.Meaning
  | .nil, [] => .ok ()
  | .nil, _ :: _ => .error .malformed
  | .cons _ presence s rest, [] =>
    if presence.inList then (rest.readItems depth []).map fun r => (s.absent, r)
    else .error .mismatch
  | .cons _ _ s rest, v :: vs => do
    let a ← s.read depth v
    let r ← rest.readItems depth vs
    return (a, r)
end

def Shape.isAbsent : (s : Shape) → s.Meaning → Bool
  | .optional _, none => true
  | _, _ => false

mutual
def Shape.write : (s : Shape) → s.Meaning → Json
  | .text, s => .str s
  | .flag, b => .bool b
  | .int64, n => .int n.toInt
  | .nat64, n => .nat n.toNat
  | .nat32, n => .nat n.toNat
  | .nat16, n => .nat n.toNat
  | .float, x => .float x
  | .any, j => j
  | .object, ms => .obj ms
  | .optional _, none => .null
  | .optional s, some a => s.write a
  | .list s, as => .arr (as.map s.write)
  | .record l, r => .obj (l.write r)
def Layout.write : (l : Layout) → l.Meaning → List (String × Json)
  | .nil, _ => []
  | .cons name presence s rest, (a, r) =>
    if presence = .sparse ∧ s.isAbsent a then rest.write r
    else (name, s.write a) :: rest.write r
end

class Readable (α : Type) where
  fields : Layout
  ofMeaning : fields.Meaning → α

class Writable (α : Type) extends Readable α where
  toMeaning : α → fields.Meaning

def readAs (α : Type) [Readable α] (v : Source) : Except Fault α :=
  ((Shape.record (Readable.fields α)).read maxDepth v).map Readable.ofMeaning

def toJson [Writable α] (a : α) : Json :=
  .obj ((Readable.fields α).write (Writable.toMeaning a))

def Document.readAs (α : Type) [Readable α] (d : Document) : Except Fault α :=
  d.read (Wire.readAs α)

end KnowledgeGraph.Wire
