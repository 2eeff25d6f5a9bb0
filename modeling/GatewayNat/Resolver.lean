import GatewayNat.Directory.Basic
import GatewayNat.Journal

/-!
# Resolvers

A resolver finds the interfaces of one gateway on networks and remembers them.

* The gateway is looked for when it is first needed, and again only if it was
  not found.
* A network that was found is not looked for again.
* A failure changes nothing but the memory of the gateway.

Every step says what it did.  The events of a step are the calls it made and the
records it wrote, in their order.  A look-up is announced by a record before its
calls.
-/

namespace GatewayNat

/-- Something a run does: it calls the directory, or it writes a record. -/
inductive Event where
  | call (call : Call)
  | record (record : Journal.Record)
  deriving DecidableEq, Repr

namespace Event

/-- The call of an event. -/
def call? : Event → Option Call
  | .call c => some c
  | .record _ => none

/-- The record of an event. -/
def record? : Event → Option Journal.Record
  | .call _ => none
  | .record r => some r

/-- The calls of a run in their order. -/
def calls (events : List Event) : List Call := events.filterMap call?

/-- The records of a run in their order. -/
def records (events : List Event) : List Journal.Record := events.filterMap record?

@[simp] theorem calls_nil : calls [] = [] := rfl

@[simp] theorem calls_append (first second : List Event) :
    calls (first ++ second) = calls first ++ calls second := by
  simp [calls]

@[simp] theorem records_nil : records [] = [] := rfl

@[simp] theorem records_append (first second : List Event) :
    records (first ++ second) = records first ++ records second := by
  simp [records]

end Event

/-- What a resolver remembers. -/
structure Resolver where
  gatewayId : Text
  /-- Whether the gateway was found. -/
  entered : Bool
  /-- The interfaces found so far. -/
  interfaces : Table Text Descriptor
  deriving DecidableEq, Repr

/-- The outcome of a resolver's step. -/
structure Resolved (α : Type) where
  result : Except Failure α
  events : List Event
  resolver : Resolver

namespace Resolver

/-- The resolver of a gateway that remembers nothing. -/
def new (gatewayId : Text) : Resolver := ⟨gatewayId, false, []⟩

/-- The number of networks found. -/
def size (r : Resolver) : Nat := r.interfaces.length

/-- Whether a network was found. -/
def knows (r : Resolver) (network : Text) : Bool := r.interfaces.has network

/-- The record that announces a look-up. -/
def lookupRecord (r : Resolver) (network : Text) : Journal.Record where
  component := .resolver
  level := .debug
  message := "Looking up interface for network " ++ network ++ " on gateway " ++ r.gatewayId

/-- Finds the gateway unless it was found. -/
def enter (d : Directory) (past : List Call) (r : Resolver) : Resolved Text :=
  if r.entered then ⟨.ok r.gatewayId, [], r⟩
  else
    match d.gateway past r.gatewayId with
    | .ok () => ⟨.ok r.gatewayId, [.call (.gateway r.gatewayId)], { r with entered := true }⟩
    | .error failure => ⟨.error failure, [.call (.gateway r.gatewayId)], r⟩

/-- Looks for a network on a gateway that was found. -/
def lookUp (d : Directory) (past : List Call) (r : Resolver) (network : Text)
    (rule : Option Int) : Resolved Descriptor :=
  let events := [.call (.interface r.gatewayId network)]
  match d.interface past r.gatewayId network with
  | .ok (some descriptor) =>
    ⟨.ok descriptor, events, { r with interfaces := r.interfaces.set network descriptor }⟩
  | .ok none => ⟨.error (.rejected (.unknownNetwork r.gatewayId network rule)), events, r⟩
  | .error failure => ⟨.error failure, events, r⟩

/-- The interface on a network, for the rule of an index if it is asked for by one. -/
def resolve (d : Directory) (past : List Call) (r : Resolver) (network : Text)
    (rule : Option Int) : Resolved Descriptor :=
  match r.interfaces.find? network with
  | some descriptor => ⟨.ok descriptor, [], r⟩
  | none =>
    let entry := r.enter d past
    match entry.result with
    | .error failure =>
      ⟨.error failure, .record (r.lookupRecord network) :: entry.events, entry.resolver⟩
    | .ok _ =>
      let found := entry.resolver.lookUp d (past ++ Event.calls entry.events) network rule
      ⟨found.result, .record (r.lookupRecord network) :: (entry.events ++ found.events),
        found.resolver⟩

end Resolver

end GatewayNat
