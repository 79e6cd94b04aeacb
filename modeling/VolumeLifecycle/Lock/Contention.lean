import VolumeLifecycle.Lock.Registry
/-!
# Contention on one registry

Several operations share one registry, each acquiring in its own thread. The state of such
a run is the registry and one lease per acquisition, numbered in the order the acquisitions
were made (failed ones included). A lease is

* `failed` — its endpoint has no key;
* `waiting` — its ticket is not served yet;
* `held` — its ticket is served and the operation runs;
* `released` — the operation released it (releasing again changes nothing);
* `cancelled` — the waiting operation was interrupted and gave its ticket up.

A step acquires, releases, cancels a waiting acquisition, or does both at once under the
slot's guard (`releaseCancel`), or reads the registry. After every step each waiting lease
whose ticket is now being served becomes held, as its thread wakes up.
-/

namespace VolumeLifecycle.Lock

open VolumeLifecycle.Value

/-- Where one acquisition stands. -/
inductive LeaseState where
  | failed
  | waiting
  | held
  | released
  | cancelled
  deriving DecidableEq

/-- The state as reports name it. -/
def LeaseState.name : LeaseState → String
  | .failed => "error"
  | .waiting => "waiting"
  | .held => "held"
  | .released => "released"
  | .cancelled => "cancelled"

/-- One acquisition: the key and ticket it took (none when it failed) and its state. -/
structure Lease where
  key : String := ""
  ticket : Nat := 0
  state : LeaseState

/-- A run of several operations on one registry. -/
structure Contention where
  registry : Registry := {}
  leases : Array Lease := #[]

/-- Why a step cannot be taken in the current state of the run. -/
inductive StepRefusal where
  | noLease (id : Nat)
  | notAcquired (id : Nat)
  | notWaiting
  deriving DecidableEq

/-- The words of a refusal. -/
def StepRefusal.text : StepRefusal → String
  | .noLease id => s!"no lease {id}"
  | .notAcquired id => s!"lease {id} was never acquired"
  | .notWaiting => "only a waiting acquire can be cancelled"

/-- Wake every waiting lease whose ticket is being served. -/
def Contention.wake (c : Contention) : Contention :=
  { c with leases := c.leases.map fun l =>
      if l.state == .waiting && (c.registry.slot l.key).serving == l.ticket then
        { l with state := .held }
      else l }

/-- Acquire `endpoint`: the new lease's number and the failure when the endpoint has no
key. -/
def Contention.acquire (c : Contention) (endpoint : Value) :
    Nat × Option Failure × Contention :=
  let id := c.leases.size
  match c.registry.take endpoint with
  | .error f => (id, some f, { c with leases := c.leases.push { state := .failed } })
  | .ok (key, ticket, served, registry) =>
      let state := if served then LeaseState.held else .waiting
      (id, none, { registry, leases := c.leases.push { key, ticket, state } })

/-- The lease with number `id`. -/
def Contention.lease? (c : Contention) (id : Nat) : Except StepRefusal Lease :=
  match c.leases[id]? with
  | some l => .ok l
  | none => .error (.noLease id)

/-- The run with lease `id` set to `l`. -/
def Contention.setLease (c : Contention) (id : Nat) (l : Lease) : Contention :=
  { c with leases := c.leases.setIfInBounds id l }

/-- Release lease `id`; releasing a released lease changes nothing. -/
def Contention.release (c : Contention) (id : Nat) : Except StepRefusal Contention := do
  let l ← c.lease? id
  match l.state with
  | .held =>
      pure { (c.setLease id { l with state := .released }) with
             registry := c.registry.release l.key }
  | .released => pure c
  | _ => throw (.notAcquired id)

/-- Interrupt the waiting acquisition `id`: it gives its ticket up. -/
def Contention.cancel (c : Contention) (id : Nat) : Except StepRefusal Contention := do
  let l ← c.lease? id
  if l.state != .waiting then throw .notWaiting
  let c := c.setLease id { l with state := .cancelled }
  pure { c with registry := c.registry.giveUp l.key l.ticket }

/-- Under the guard of the waiting lease `cancelled`'s slot, mark it cancelled, then release
`released`; the interrupted waiter then gives its ticket up, moving the slot on when its
ticket became the one served. -/
def Contention.releaseCancel (c : Contention) (released cancelled : Nat) :
    Except StepRefusal Contention := do
  let _ ← c.lease? released
  let w ← c.lease? cancelled
  if w.state != .waiting then throw .notWaiting
  let c := c.setLease cancelled { w with state := .cancelled }
  let c ← c.release released
  pure { c with registry := c.registry.giveUp w.key w.ticket }

/-- The names of the lease states, by lease number. -/
def Contention.states (c : Contention) : List String :=
  c.leases.toList.map (·.state.name)

end VolumeLifecycle.Lock
