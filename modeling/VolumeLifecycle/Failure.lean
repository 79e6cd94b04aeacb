import VolumeLifecycle.Document.Display
import VolumeLifecycle.Json.Reader
/-!
# Failures

Why an operation stops, as causes. A `LifecycleError` is a failure of the lifecycle itself
(a precondition, a rejected submission, a failed job, …) and carries the stage that failed;
the other causes are a transport failure reported by the HTTP layer, an answer body that is
not JSON, and the faults of reading a document that does not have the expected shape.

Every cause has one text, `Failure.message`. A lifecycle error's text is built in three
steps: the message; then `": "` and the detail when the detail is true as a condition; then
`"[stage] "` in front when the stage is a non-empty text.
-/

namespace VolumeLifecycle

open VolumeLifecycle.Text

/-- The classes of lifecycle errors. -/
inductive ErrorClass where
  /-- The base class. -/
  | general
  /-- An operation cannot be attempted; raised before any side effect. -/
  | precondition
  /-- The mutating request was not accepted or returned no job. -/
  | submission
  /-- A reset was rejected or the expected power state was not reached. -/
  | powerOperation
  /-- A failure observed while tracking a remote job. -/
  | job
  /-- The remote job reached a failed terminal state. -/
  | jobFailed
  /-- The remote job was not terminal before the local deadline. -/
  | jobTimeout
  /-- The hardware state cannot be read back into the model. -/
  | reconciliation
  /-- The volume resource does not exist on the controller. -/
  | volumeNotFound
  /-- A read returned a non-success status code. -/
  | redfishRequest
  deriving DecidableEq, Repr, Inhabited

/-- A lifecycle error. `jobRef` belongs to the job classes, `status` and `uri` to failed
reads; the other classes leave them `null`. The stage and detail are values: a stage is
shown when it is true as a condition, and so is a detail. -/
structure LifecycleError where
  cls : ErrorClass
  message : String
  stage : Value := .null
  detail : Value := .null
  jobRef : Value := .null
  status : Value := .null
  uri : Value := .null
  /-- The kind of the transport failure this error wraps, if it wraps one. -/
  cause : Option String := none
  deriving Inhabited

/-- The text of a lifecycle error: `[stage] message: detail`, each part only when present. -/
def LifecycleError.text (e : LifecycleError) : String :=
  let body := if e.detail.truthy then e.message ++ ": " ++ e.detail.display else e.message
  if e.stage.truthy then "[" ++ e.stage.display ++ "] " ++ body else body

/-- Faults of applying an operation to a value of the wrong kind. -/
inductive TypeFault where
  | notIterable (kind : String)
  /-- Membership asked of something that cannot be walked. -/
  | notContainer (kind : String)
  | notSubscriptable (kind : String)
  | unhashable (kind : String)
  /-- A list indexed by something other than a whole number. -/
  | listIndex (kind : String)
  /-- A text indexed by something other than a whole number. -/
  | textIndex (kind : String)
  | operands (op left right : String)
  | unordered (op left right : String)
  /-- Joining texts met an item that is not a text. -/
  | joinItem (index : Nat) (kind : String)
  | joinArgument
  | intArgument (kind : String)
  | floatArgument (kind : String)
  | jsonArgument (kind : String)
  /-- Searching a text for something that is not a text. -/
  | containsLeft (kind : String)
  | levelArgument (shown : String)
  /-- A pattern searched in something that is not a text. -/
  | patternArgument (kind : String)
  /-- An item of a sequence of pairs that is not itself a sequence. -/
  | pairItem (index : Nat)
  deriving Inhabited


/-- The words of a type fault. -/
def TypeFault.text : TypeFault → String
  | .notIterable k => s!"'{k}' object is not iterable"
  | .notContainer k => s!"argument of type '{k}' is not iterable"
  | .notSubscriptable k => s!"'{k}' object is not subscriptable"
  | .unhashable k => s!"unhashable type: '{k}'"
  | .listIndex k => s!"list indices must be integers or slices, not {k}"
  | .textIndex k => s!"string indices must be integers, not '{k}'"
  | .operands op l r => s!"unsupported operand type(s) for {op}: '{l}' and '{r}'"
  | .unordered op l r => s!"'{op}' not supported between instances of '{l}' and '{r}'"
  | .joinItem i k => s!"sequence item {i}: expected str instance, {k} found"
  | .joinArgument => "can only join an iterable"
  | .intArgument k =>
      s!"int() argument must be a string, a bytes-like object or a real number, not '{k}'"
  | .floatArgument k => s!"float() argument must be a string or a real number, not '{k}'"
  | .jsonArgument k => s!"the JSON object must be str, bytes or bytearray, not {k}"
  | .containsLeft k => s!"'in <string>' requires string as left operand, not {k}"
  | .levelArgument shown => s!"Level not an integer or a valid string: {shown}"
  | .patternArgument k => s!"expected string or bytes-like object, got '{k}'"
  | .pairItem i => s!"cannot convert dictionary update sequence element #{i} to a sequence"

/-- Faults of a value that has the right kind but not an acceptable content. -/
inductive ValueFault where
  | intLiteral (text : String)
  /-- A base-ten text with more digits than a whole number may be read from. -/
  | tooManyDigits (count : Nat)
  | floatLiteral (text : String)
  /-- Bytes that do not spell a real number. -/
  | floatBytes (bytes : List UInt8)
  | nanToInt
  /-- A client needs an endpoint. -/
  | endpointRequired
  /-- The lock needs an endpoint that is not blank. -/
  | endpointIdentityRequired
  | unknownFields (names : List String)
  | unknownLevel (name : String)
  /-- The configuration file could not be read or parsed. -/
  | configUnreadable (path reason : String)
  | configNotMapping (path : String)
  /-- An environment variable could not be converted. -/
  | badVariable (name : String) (reason : ValueFault)
  | negativeTiming (key : String)
  /-- An item of a sequence of pairs that does not hold two things. -/
  | pairLength (index length : Nat)
  deriving Inhabited

/-- The words of a value fault. -/
def ValueFault.text : ValueFault → String
  | .intLiteral t => "invalid literal for int() with base 10: " ++ quote t
  | .tooManyDigits count => Number.tooManyDigitsText count
  | .floatLiteral t => "could not convert string to float: " ++ quote t
  | .floatBytes bs => "could not convert string to float: " ++ quoteBytes bs
  | .nanToInt => "cannot convert float NaN to integer"
  | .endpointRequired => "Redfish endpoint is required"
  | .endpointIdentityRequired => "Endpoint identity is required"
  | .unknownFields names => "Unknown reconcile fields: " ++ ", ".intercalate names
  | .unknownLevel name => "Unknown level: " ++ quote name
  | .configUnreadable path reason => s!"Error loading configuration file {path}: {reason}"
  | .configNotMapping path => s!"Configuration file {path} must contain a mapping"
  | .badVariable v reason => s!"Invalid value for {v}: " ++ reason.text
  | .negativeTiming key => s!"{key} must not be negative"
  | .pairLength i n => s!"dictionary update sequence element #{i} has length {n}; 2 is required"

/-- Why an operation stops. -/
inductive Failure where
  | lifecycle (e : LifecycleError)
  /-- The HTTP layer failed; `cls` names the kind of transport failure. -/
  | transport (cls : String) (message : String)
  /-- An answer body that should be JSON is not. -/
  | undecodable (e : Json.ReadError)
  | missingKey (key : Value)
  | noAttribute (kind name : String)
  | mistyped (fault : TypeFault)
  | invalid (fault : ValueFault)
  /-- A whole number too large for a double. -/
  | intTooLarge
  /-- An infinite double where a whole number is needed. -/
  | infinityToInt
  | indexOutOfRange
  /-- A loop used up its step budget. -/
  | exhausted
  /-- An error of a kind this library does not raise itself, raised by code it runs. -/
  | raisedBy (kind message : String)
  deriving Inhabited

/-- The text of a failure. A missing key is shown as a literal. -/
def Failure.message : Failure → String
  | .lifecycle e => e.text
  | .transport _ m => m
  | .undecodable e => e.message
  | .missingKey k => k.literal
  | .noAttribute k n => s!"'{k}' object has no attribute '{n}'"
  | .mistyped f => f.text
  | .invalid f => f.text
  | .intTooLarge => "int too large to convert to float"
  | .infinityToInt => "cannot convert float infinity to integer"
  | .indexOutOfRange => "list index out of range"
  | .exhausted => "step budget exhausted"
  | .raisedBy _ m => m

/-- The failure of reading a text as JSON: a text that is not JSON is undecodable, one nested
too deep stops on the depth of recursion, and a whole number too long is a value error. -/
def Failure.ofRefusal : Json.Refusal → Failure
  | .malformed e => .undecodable e
  | r@(.tooDeep _) => .raisedBy "RecursionError" r.message
  | .tooManyDigits count => .invalid (.tooManyDigits count)

/-- Whether a poll loop rides a failure out: any transport failure (an answer that is not
JSON among them) and any failed read. -/
def Failure.isTransient : Failure → Bool
  | .transport .. | .undecodable _ => true
  | .lifecycle e => e.cls == .redfishRequest
  | _ => false

/-- Whether a failure comes from the HTTP layer. -/
def Failure.isTransport : Failure → Bool
  | .transport .. | .undecodable _ => true
  | _ => false

/-- A lifecycle error of class `cls` with a message, a stage and a detail. -/
def Failure.raise (cls : ErrorClass) (message : String) (stage : Value := .null)
    (detail : Value := .null) : Failure :=
  .lifecycle { cls, message, stage, detail }

end VolumeLifecycle
