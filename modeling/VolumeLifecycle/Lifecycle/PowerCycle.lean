import VolumeLifecycle.Lifecycle.JobWait
/-!
# Power cycles

A change that applies on reset takes effect when the system that owns the storage controller
is reset. A power cycle:

1. refuses a reset type other than `ForceRestart`, `GracefulRestart` and `PowerCycle`
   before touching the controller;
2. reads the current power state and issues **one** reset — `On` instead of the requested
   type when the system is off, since a powered-off system cannot be restarted; a failure
   here is a power-operation error naming the reset that was rejected;
3. polls the power state at the interval, never sleeping past the deadline and riding out
   failed reads, recording each change of state, until the system reports `On`.

Not reaching `On` in time is a power-operation error whose detail lists the states seen.
-/

namespace VolumeLifecycle.Lifecycle

open VolumeLifecycle.Redfish VolumeLifecycle.Value

/-- The reset types a power cycle accepts. -/
def resetTypeNames : List String := ["ForceRestart", "GracefulRestart", "PowerCycle"]

/-- The power state every accepted reset type settles in. -/
def settledState : Value := .str "On"

/-- The result of a completed power cycle. -/
structure PowerResult where
  systemUri : Value
  resetType : Value
  issued : Value
  finalState : Value
  transitions : List Value
  polls : Nat
  elapsed : Value

/-- The result as a document. -/
def PowerResult.toValue (r : PowerResult) : Value :=
  .dict [("system_uri", r.systemUri), ("reset_type", r.resetType),
    ("issued_reset_type", r.issued), ("final_state", r.finalState),
    ("transitions", .list r.transitions), ("polls", .int r.polls), ("elapsed", r.elapsed)]

/-- A power-operation error of the power stage. -/
def powerFailure (message : String) (detail : Value := .null) : Failure :=
  .raise .powerOperation message (.str "power") detail

/-- The refusal of a reset type, listing the accepted ones. -/
def unsupportedReset (resetType : Value) : Failure :=
  .raise .precondition s!"Unsupported reset type: {resetType.display}" (.str "power")
    (.str ("supported values: " ++ ", ".intercalate resetTypeNames))

/-- The states seen so far with `state` added when it differs from the last one. -/
def noteState (seen : List Value) (state : Value) : List Value :=
  match seen.getLast? with
  | some last => if same last state then seen else seen ++ [state]
  | none => [state]

/-- Poll the power state until it is `expected` or the deadline passes; the states seen and
the number of polls are carried along. -/
def pollPower (c : Client) (systemUri expected interval deadline : Value) :
    Nat → List Value → Nat → Act (Option Value × List Value × Nat)
  | 0, _, _ => Act.fail .exhausted
  | fuel + 1, seen, polls => do
      let some remaining ← timeLeft deadline | return (none, seen, polls)
      sleepWithin interval remaining
      let polls := polls + 1
      let some state ← riding (c.powerState systemUri)
        | pollPower c systemUri expected interval deadline fuel seen polls
      let seen := noteState seen state
      if same state expected then return (some state, seen, polls)
      pollPower c systemUri expected interval deadline fuel seen polls

/-- A coordinator of power cycles: the client and the interval between polls. -/
structure Coordinator where
  client : Client
  interval : Value

/-- Reset a system and wait until it reports the settled power state. -/
def Coordinator.powerCycle (pc : Coordinator) (systemUri resetType timeout : Value) :
    Act PowerResult := do
  if !resetTypeNames.any (fun t => same resetType (.str t)) then
    Act.fail (unsupportedReset resetType)
  let c := pc.client
  let rejected (issued : Value) (f : Failure) : Act Unit :=
    if f.isTransient then
      Act.fail (powerFailure s!"Reset {issued.display} of {systemUri.display} was rejected"
        (.str f.message))
    else Act.fail f
  let current ← tryCatch (some <$> c.powerState systemUri) fun f => do
    rejected resetType f
    pure none
  let issued := if current.any (same · (.str "Off")) then .str "On" else resetType
  tryCatch (c.reset systemUri issued) (rejected issued)
  let start ← Act.now
  let deadline ← Act.ofExcept (plus start timeout)
  let (reached, seen, polls) ←
    pollPower c systemUri settledState pc.interval deadline (pollBudget pc.interval timeout) [] 0
  match reached with
  | some state =>
      let elapsed ← Act.ofExcept (minus (← Act.now) start)
      pure { systemUri, resetType, issued, finalState := state, transitions := seen, polls,
             elapsed }
  | none =>
      let observed ← Act.ofExcept (joinTexts " -> " (.list seen))
      let observed := if observed.isEmpty then "no power state" else observed
      Act.fail (powerFailure
        s!"System {systemUri.display} did not reach power state {settledState.display} within {timeout.display} seconds"
        (.str s!"observed: {observed}"))

end VolumeLifecycle.Lifecycle
