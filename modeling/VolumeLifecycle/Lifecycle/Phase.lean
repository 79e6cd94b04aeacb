import VolumeLifecycle.Document.Access
/-!
# Phases of a lifecycle operation

Every lifecycle operation runs as up to three phases, always in this order:

* **discover** — probe capabilities and locate the resources involved, without side effects;
* **process** — submit the change and power-cycle the system when required;
* **housekeep** — wait for the job and read the hardware state back.

`execute` runs the phases of a selection (all of them when none is given) and keeps a
`PhaseRecord`: which phases completed, which timestamps were set, and the status of the run.
A selection is any collection that can be listed and searched: a list of phase names, a
mapping whose keys are phase names, or a text in which the names are looked for.

A phase that fails records the failure and stops the run:

* a lifecycle error without a stage gets the phase as its stage;
* a transport failure is wrapped into the phase's own error class (precondition,
  submission, reconciliation) with the transport failure as detail and cause;
* any other failure passes through without touching the status.

The start and end timestamps of the run and of each phase that ran are set whatever
happens, and nothing from an earlier run survives.
-/

namespace VolumeLifecycle.Lifecycle

open VolumeLifecycle.Value

/-- A phase of a lifecycle operation. -/
inductive Phase where
  | discover
  | process
  | housekeep
  deriving DecidableEq

/-- The phases in the order they run. -/
def Phase.all : List Phase := [.discover, .process, .housekeep]

/-- The name of a phase, which is also its stage. -/
def Phase.name : Phase → String
  | .discover => "discover"
  | .process => "process"
  | .housekeep => "housekeep"

/-- The activity a phase performs, as messages name it. -/
def Phase.label : Phase → String
  | .discover => "discovery"
  | .process => "processing"
  | .housekeep => "housekeeping"

/-- The activity with a capital first letter. -/
def Phase.title : Phase → String
  | .discover => "Discovery"
  | .process => "Processing"
  | .housekeep => "Housekeeping"

/-- The error class a transport failure during the phase is reported as. -/
def Phase.failureClass : Phase → ErrorClass
  | .discover => .precondition
  | .process => .submission
  | .housekeep => .reconciliation

/-- The outcome of the last run. -/
structure Status where
  success : Bool := false
  error : Value := .null
  message : Value := .null
  stage : Value := .null

/-- What the last run did: the phases that completed, the timestamps that were set (by
name, in the order they were set) and the status. -/
structure PhaseRecord where
  executed : List Phase := []
  stamps : List String := []
  status : Status := {}

/-- Set the timestamp `name`. -/
def PhaseRecord.stamp (r : PhaseRecord) (name : String) : PhaseRecord :=
  if r.stamps.contains name then r else { r with stamps := r.stamps ++ [name] }

/-- Mark a phase as completed. -/
def PhaseRecord.complete (r : PhaseRecord) (p : Phase) : PhaseRecord :=
  if r.executed.contains p then r else { r with executed := r.executed ++ [p] }

/-- Record the failure `e` of phase `p`. -/
def PhaseRecord.fail (r : PhaseRecord) (p : Phase) (e : LifecycleError) : PhaseRecord :=
  { r with status := { success := false, error := .str e.text, stage := e.stage,
                       message := .str s!"{p.title} phase failed: {e.message}" } }

/-- Record a run that completed. -/
def PhaseRecord.succeed (r : PhaseRecord) : PhaseRecord :=
  { r with status := { r.status with success := true,
                                     message := .str "Execution completed successfully" } }

/-- The status as a document. -/
def Status.toValue (s : Status) : Value :=
  .dict [("success", .bool s.success), ("error", s.error), ("message", s.message),
    ("stage", s.stage)]

/-- Which phases completed, as a document from phase name to flag. -/
def PhaseRecord.executedValue (r : PhaseRecord) : Value :=
  .dict (Phase.all.map fun p => (p.name, .bool (r.executed.contains p)))

/-- The names of the timestamps that were set, sorted. -/
def PhaseRecord.stampsValue (r : PhaseRecord) : Value :=
  .list ((r.stamps.mergeSort (fun a b => decide (a ≤ b))).map .str)

/-- How a failure of phase `p` is reported: the error the run stops with, and the lifecycle
error the status records, when there is one. -/
def phaseFailure (p : Phase) : Failure → Failure × Option LifecycleError
  | .lifecycle e =>
      let e := if e.stage matches .null then { e with stage := .str p.name } else e
      (.lifecycle e, some e)
  | .transport cls message => wrap cls message
  | .undecodable e => wrap "JSONDecodeError" e.message
  | f => (f, none)
where
  /-- A transport failure of kind `cls` wrapped into the phase's class. -/
  wrap (cls message : String) : Failure × Option LifecycleError :=
    let e : LifecycleError :=
      { cls := p.failureClass, message := s!"Redfish request failed during {p.label}",
        stage := .str p.name, detail := .str message, cause := some cls }
    (.lifecycle e, some e)

section Runner

variable {m : Type → Type} [Monad m] [MonadExceptOf Failure m]

/-- Take the result of a computation that may fail. -/
def liftFailure {α : Type} : Except Failure α → m α
  | .ok a => pure a
  | .error f => throw f

/-- Run one phase, recording its timestamps and its outcome through `touch`. -/
def runPhase (touch : (PhaseRecord → PhaseRecord) → m Unit) (action : Phase → m Unit)
    (p : Phase) : m Unit := do
  touch (·.stamp (p.name ++ "_start"))
  tryCatch (action p) fun f => do
    let (f, recorded) := phaseFailure p f
    if let some e := recorded then touch (·.fail p e)
    touch (·.stamp (p.name ++ "_end"))
    throw f
  touch (·.stamp (p.name ++ "_end"))
  touch (·.complete p)

/-- Run the selected phases in lifecycle order; `null` selects all of them. -/
def execute (touch : (PhaseRecord → PhaseRecord) → m Unit) (action : Phase → m Unit)
    (selection : Value) : m Unit := do
  let selection := if selection matches .null then .list (Phase.all.map (.str ·.name))
    else selection
  touch fun _ => {}
  touch (·.stamp "start")
  let _ ← liftFailure (joinTexts ", " selection)
  tryCatch
    (do
      for p in Phase.all do
        if ← liftFailure (selection.contains (.str p.name)) then runPhase touch action p
      touch (·.succeed))
    fun f => do
      touch (·.stamp "end")
      throw f
  touch (·.stamp "end")

end Runner

/-- The identity of a component: the configured `component_id` when it is true, else none
(a fresh one is generated). -/
def componentIdOf (config : Value) : Except Failure Value := do
  let id ← config.getOr "component_id"
  pure (if id.truthy then id else .null)

/-- The names of the log levels. -/
def levelNames : List String :=
  ["CRITICAL", "FATAL", "ERROR", "WARN", "WARNING", "INFO", "DEBUG", "NOTSET"]

/-- Check a configured log level: a whole number or the name of a level. -/
def checkLevel (level : Value) : Except Failure Unit :=
  match level with
  | .int _ | .bool _ => .ok ()
  | .str s => if levelNames.contains s then .ok () else .error (.invalid (.unknownLevel s))
  | v => .error (.mistyped (.levelArgument v.literal))

end VolumeLifecycle.Lifecycle
