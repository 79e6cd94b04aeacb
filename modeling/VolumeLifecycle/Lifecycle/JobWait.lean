import VolumeLifecycle.Redfish.Client
/-!
# Waiting for a job

A job is polled at a fixed interval until it reaches a terminal state or the time allowed
runs out. The loop:

1. computes the time left until the deadline (`start + timeout`) and stops when none is left;
2. sleeps for the interval, or for the time left when that is shorter, so it **never sleeps
   past the deadline**;
3. reads the task; a read that fails in transport, or answers with a failed status, is
   ridden out and the loop goes on;
4. stops with `succeeded` on `Completed` and with `failed` on `Exception`, `Killed`,
   `Cancelled`, `Failed` or `CompletedWithErrors`.

The first poll thus happens one interval after the start. A local timeout does not cancel
the job on the controller. `JobResult.check` turns a result that is not a success into the
error the caller raises.

The loop runs on a step budget (`pollBudget`). With whole-number times and a positive
interval the deadline ends it within `⌈timeout / interval⌉` polls, which the budget covers; the
`2 ^ 32` steps beyond them are used up only by a loop that never reaches its deadline (an
interval of zero, or a double too small to move the clock), and stand for waiting until the
process is stopped.
-/

namespace VolumeLifecycle.Lifecycle

open VolumeLifecycle.Redfish VolumeLifecycle.Value

/-- How a job ended. -/
inductive JobOutcome where
  | succeeded
  | failed
  | timedOut
  deriving DecidableEq

/-- The outcome as reports name it. -/
def JobOutcome.name : JobOutcome → String
  | .succeeded => "Succeeded"
  | .failed => "Failed"
  | .timedOut => "TimedOut"

/-- The last observation of a job and the number of polls so far. -/
structure JobSight where
  state : Value := .null
  percent : Value := .null
  message : Value := .null
  polls : Nat := 0

/-- The terminal result of polling one job. -/
structure JobResult where
  jobRef : Value
  outcome : JobOutcome
  sight : JobSight
  elapsed : Value

/-- The result as a document. -/
def JobResult.toValue (r : JobResult) : Value :=
  .dict [("job_ref", r.jobRef), ("outcome", .str r.outcome.name), ("state", r.sight.state),
    ("percent_complete", r.sight.percent), ("message", r.sight.message),
    ("polls", .int r.sight.polls), ("elapsed", r.elapsed)]

/-- Task states of a job that succeeded. -/
def succeededStates : List String := ["Completed"]

/-- Task states of a job that failed. -/
def failedStates : List String := ["Exception", "Killed", "Cancelled", "Failed", "CompletedWithErrors"]

/-- Whether a state is one of `states`; a state that cannot be hashed cannot be looked up. -/
def stateIn (state : Value) (states : List String) : Except Failure Bool :=
  if !state.hashable then .error (.mistyped (.unhashable state.kind))
  else match state with
    | .str s => .ok (states.contains s)
    | _ => .ok false

/-- The seconds left until `deadline`, or `none` when none are left. -/
def timeLeft (deadline : Value) : Act (Option Value) := do
  let remaining ← Act.ofExcept (minus deadline (← Act.now))
  if ← Act.ofExcept (atMost remaining (.int 0)) then pure none else pure (some remaining)

/-- Sleep for `interval`, but not past the time left. -/
def sleepWithin (interval remaining : Value) : Act Unit := do
  Act.sleep (← Act.ofExcept (least interval remaining))

/-- Run `act`, turning a failure that a poll loop rides out into `none`. -/
def riding {α : Type} (act : Act α) : Act (Option α) :=
  tryCatch (some <$> act) fun f => if f.isTransient then pure none else Act.fail f

/-- Poll the task until it is terminal or the deadline passes. -/
def pollJob (c : Client) (jobRef interval deadline : Value) :
    Nat → JobSight → Act (JobOutcome × JobSight)
  | 0, _ => Act.fail .exhausted
  | fuel + 1, sight => do
      let some remaining ← timeLeft deadline | return (.timedOut, sight)
      sleepWithin interval remaining
      let sight := { sight with polls := sight.polls + 1 }
      let some status ← riding (c.taskStatus jobRef) | pollJob c jobRef interval deadline fuel sight
      let sight ← Act.ofExcept do
        pure { sight with state := ← status.getOr "state",
                          percent := ← status.getOr "percent_complete",
                          message := ← status.getOr "message" }
      if ← Act.ofExcept (stateIn sight.state succeededStates) then return (.succeeded, sight)
      if ← Act.ofExcept (stateIn sight.state failedStates) then return (.failed, sight)
      pollJob c jobRef interval deadline fuel sight

/-- The polls a wait of `timeout` seconds at `interval` makes at most when both are whole
numbers and the interval is positive: `⌈timeout / interval⌉`, none for a timeout that is not
positive. Other times give `0`. -/
def wholePolls (interval timeout : Value) : Nat :=
  match interval.numeric?, timeout.numeric? with
  | some (.whole i), some (.whole t) => if 0 < i then ((t + i - 1) / i).toNat else 0
  | _, _ => 0

/-- The step budget of a poll loop that waits `timeout` seconds at `interval`. -/
def pollBudget (interval timeout : Value) : Nat := wholePolls interval timeout + 4294967296

/-- A poller: the client it reads tasks with and its default interval. -/
structure Poller where
  client : Client
  interval : Value

/-- Wait for the job `jobRef` for at most `timeout` seconds, polling every `interval`
seconds (the poller's own interval when `interval` is `null`). -/
def Poller.wait (p : Poller) (jobRef timeout : Value) (interval : Value := .null) :
    Act JobResult := do
  if !jobRef.truthy then
    Act.fail (.raise .submission "Cannot poll a job without a job reference" (.str "poll"))
  let interval := if interval matches .null then p.interval else interval
  let start ← Act.now
  let deadline ← Act.ofExcept (plus start timeout)
  let (outcome, sight) ← pollJob p.client jobRef interval deadline (pollBudget interval timeout) {}
  let elapsed ← Act.ofExcept (minus (← Act.now) start)
  pure { jobRef, outcome, sight, elapsed }

/-- The error a result that is not a success raises: a failed job names its state and
carries the job's message, a timed-out one names the last state seen. -/
def JobResult.check (r : JobResult) : Except Failure Unit :=
  match r.outcome with
  | .succeeded => .ok ()
  | .failed =>
      .error (.lifecycle
        { cls := .jobFailed, stage := .str "poll", jobRef := r.jobRef,
          message := s!"Job {r.jobRef.display} failed with state {r.sight.state.display}",
          detail := r.sight.message })
  | .timedOut =>
      let last := if r.sight.state.truthy then r.sight.state.display else "unknown"
      .error (.lifecycle
        { cls := .jobTimeout, stage := .str "poll", jobRef := r.jobRef,
          message := s!"Timeout reached when waiting for job {r.jobRef.display} to finish (last state: {last})" })

end VolumeLifecycle.Lifecycle
