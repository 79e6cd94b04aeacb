import VolumeLifecycle.Redfish.Controller
import VolumeLifecycle.Document.Arith
/-!
# The site: a controller and a clock

Every lifecycle operation acts on a **site**: the controller it sends requests to and the
clock its waits run on. The clock reads `now` and advances only by `sleep`, which also
keeps the list of waits in the order they were made; a wait adds to `now` with the
arithmetic of document numbers, so whole-number waits on a whole-number clock stay whole.

`Act` is the effect of an operation: it changes the site and may fail. A failure keeps the
site as it was when the failure happened, so the requests and waits made before it remain
on record.

The site also keeps a **journal**: every request with the answer it got, and every wait, in
the order they were made. The controller's list of calls and the clock's list of waits are
the journal's two halves; only the journal keeps how they interleave.
-/

namespace VolumeLifecycle

open VolumeLifecycle.Redfish

/-- A clock that moves only when waited on. -/
structure Clock where
  now : Value
  sleeps : Array Value := #[]

/-- What happened on a site: a request and the answer it got, or a wait. -/
inductive Event where
  | exchange (call : Call) (answer : Except Failure Response)
  | sleep (seconds : Value)

/-- The controller and the clock an operation acts on, and the journal of what happened. -/
structure Site where
  controller : Controller
  clock : Clock
  journal : Array Event := #[]

/-- An operation on a site that may fail. -/
abbrev Act := ExceptT Failure (StateM Site)

/-- Fail with `f`. -/
def Act.fail {α : Type} (f : Failure) : Act α := throw f

/-- Take the result of a computation that may fail. -/
def Act.ofExcept {α : Type} : Except Failure α → Act α
  | .ok a => pure a
  | .error f => throw f

/-- The time on the clock. -/
def Act.now : Act Value := do
  return (← get).clock.now

/-- Wait `seconds`: recorded, then added to the clock. -/
def Act.sleep (seconds : Value) : Act Unit := do
  let s ← get
  let sleeps := s.clock.sleeps.push seconds
  set { s with clock := { s.clock with sleeps }, journal := s.journal.push (.sleep seconds) }
  let now ← Act.ofExcept (Value.plus s.clock.now seconds)
  modify fun s => { s with clock := { s.clock with now } }

/-- Send a request for `path` to the controller and take its answer. -/
def Act.exchange (m : Method) (path : String) (payload : Value) : Act Response := do
  let s ← get
  let (answer, controller) := s.controller.receive m path payload
  set { s with controller, journal := s.journal.push (.exchange { method := m, path, payload } answer) }
  Act.ofExcept answer

end VolumeLifecycle
