import VolumeLifecycle.Yaml.Document
import VolumeLifecycle.Document.Access
import VolumeLifecycle.Failure
/-!
# Configuration

The configuration of a component is built from three sources, the later ones winning:

1. a YAML file, which must hold a mapping (an empty file, or one whose document is false as
   a condition, counts as an empty mapping);
2. environment variables `STORAGEBOT_*`, each converted for its key: texts as they are,
   `VERIFY_CERT` true when it is `1`, `true`, `yes` or `on` (blanks and case ignored), the
   timings read as real numbers, and `PRESERVE_FIELDS` split at commas into the non-empty
   trimmed names. A variable that cannot be converted names itself in the error;
3. explicit overrides, those that are not `null`.

The environment is asked for each variable by membership and then by subscript, and the
overrides are read only when they are true as a condition, so an environment or overrides
of another shape fail the way those questions fail.

Then every timing that is present must read as a number that is not negative (a NaN
passes).

A desired volume state is read from a YAML file the same way; when the file's mapping has
a mapping under `volume`, that inner mapping is the state.

A file is read as text: a carriage return, with or without a line feed after it, is a line
break. A file that cannot be read or parsed is reported with its path and the reason.
-/

namespace VolumeLifecycle.Config

open VolumeLifecycle.Value VolumeLifecycle.Text

/-- Where a configuration file's text comes from. -/
inductive Source where
  /-- No file. -/
  | none
  /-- A path where there is no file. -/
  | missing (path : String)
  /-- A file at a path, with its text. -/
  | file (path contents : String)
  /-- A file that cannot be read as text: the kind of error and its message. -/
  | unreadable (kind message : String)

/-- A text as a file read in text mode gives it: each carriage return, alone or before a line
feed, becomes one line feed. -/
def textMode (s : String) : String :=
  String.ofList (go s.toList)
where
  go : List Char → List Char
    | '\r' :: '\n' :: rest => '\n' :: go rest
    | '\r' :: rest => '\n' :: go rest
    | c :: rest => c :: go rest
    | [] => []

/-- The mapping a YAML file holds. -/
def readMapping (path contents : String) : Except Failure (List (String × Value)) := do
  let doc ← match Yaml.loadDocument (textMode contents) with
    | .ok doc => pure (doc.getD .null)
    | .error (.raised kind message) => throw (.raisedBy kind message)
    | .error e => throw (.invalid (.configUnreadable path (e.text path)))
  match (if doc.truthy then doc else .dict []) with
  | .dict es => pure es
  | _ => throw (.invalid (.configNotMapping path))

/-- The mapping of a configuration file. -/
def readSource : Source → Except Failure (List (String × Value))
  | .none =>
      .error (.raisedBy "TypeError" "expected str, bytes or os.PathLike object, not NoneType")
  | .missing path =>
      .error (.invalid (.configUnreadable path
        ("[Errno 2] No such file or directory: " ++ quote path)))
  | .file path contents => readMapping path contents
  | .unreadable kind message => .error (.raisedBy kind message)

/-- How an environment variable's text becomes a configuration value. -/
inductive Conversion where
  | text
  | flag
  | number
  | names

/-- The environment variables read, in order, with their keys and conversions. -/
def environmentVariables : List (String × String × Conversion) :=
  [("STORAGEBOT_ENDPOINT", "endpoint", .text),
   ("STORAGEBOT_USERNAME", "username", .text),
   ("STORAGEBOT_PASSWORD", "password", .text),
   ("STORAGEBOT_VERIFY_CERT", "verify_cert", .flag),
   ("STORAGEBOT_LOG_LEVEL", "log_level", .text),
   ("STORAGEBOT_REQUEST_TIMEOUT", "request_timeout", .number),
   ("STORAGEBOT_JOB_POLL_INTERVAL", "job_poll_interval", .number),
   ("STORAGEBOT_POWER_POLL_INTERVAL", "power_poll_interval", .number),
   ("STORAGEBOT_SETTLE_DELAY", "settle_delay", .number),
   ("STORAGEBOT_DELETE_RESET_GRACE_PERIOD", "delete_reset_grace_period", .number),
   ("STORAGEBOT_PRESERVE_FIELDS", "preserve_fields", .names)]

/-- The keys of the timings, which must not be negative. -/
def timingKeys : List String :=
  ["request_timeout", "job_poll_interval", "power_poll_interval", "settle_delay",
   "delete_reset_grace_period"]

/-- The words a flag is true for. -/
def trueWords : List String := ["1", "true", "yes", "on"]

/-- Convert a variable's value. -/
def Conversion.apply (c : Conversion) (v : Value) : Except Failure Value :=
  match c, v with
  | .text, _ => pure (.str v.display)
  | .flag, .str s => pure (.bool (trueWords.contains (lower (trimBlank s))))
  | .flag, _ => .error (.noAttribute v.kind "strip")
  | .number, _ => .float <$> realOf v
  | .names, .str s =>
      pure (.list (((s.splitOn ",").map trimBlank).filter (!·.isEmpty) |>.map Value.str))
  | .names, _ => .error (.noAttribute v.kind "split")

/-- The value of an environment variable, if the environment has it. The environment is
usually a mapping; anything else is asked the same questions (`in`, then subscript). -/
def variableIn (environ : Value) (var : String) : Except Failure (Option Value) := do
  if ← environ.contains (.str var) then some <$> environ.field var else pure none

/-- The entries of the overrides that are not `null`: overrides that are false as a
condition are none; others must be a mapping. -/
def overrideEntries (overrides : Value) : Except Failure (List (String × Value)) :=
  if !overrides.truthy then pure []
  else match overrides with
    | .dict es => pure (es.filter fun e => !(e.2 matches .null))
    | v => .error (.noAttribute v.kind "items")

/-- Write one environment variable over the configuration: when the environment has the
variable, its key takes the variable's value converted; a value the conversion refuses is
reported with the variable's name. -/
def applyVariable (environ : Value) (config : List (String × Value))
    (spec : String × String × Conversion) : Except Failure (List (String × Value)) := do
  match ← variableIn environ spec.1 with
  | none => pure config
  | some raw =>
      match spec.2.2.apply raw with
      | .ok v => pure (insert config spec.2.1 v)
      | .error (.invalid f) => throw (.invalid (.badVariable spec.1 f))
      | .error f => throw f

/-- A timing that is present must read as a number that is not below zero. -/
def checkTiming (config : List (String × Value)) (key : String) : Except Failure Unit :=
  match lookup config key with
  | some v => do if (← realOf v) < 0.0 then throw (.invalid (.negativeTiming key))
  | none => pure ()

/-- Every timing that is present must read as a number that is not below zero, checked in
order. -/
def checkTimings (config : List (String × Value)) : Except Failure Unit :=
  timingKeys.forM (checkTiming config)

/-- The mapping a configuration starts from: the file's, or an empty one without a file. -/
def baseOf : Source → Except Failure (List (String × Value))
  | .none => pure []
  | s => readSource s

/-- The configuration from a file, the environment and overrides. -/
def load (source : Source) (environ overrides : Value) :
    Except Failure (List (String × Value)) := do
  let config ← baseOf source
  let config ← environmentVariables.foldlM (applyVariable environ) config
  let config := update config (← overrideEntries overrides)
  checkTimings config
  pure config

/-- A desired volume state from a file: its mapping, or the mapping under `volume`. -/
def loadVolumeState (source : Source) : Except Failure (List (String × Value)) := do
  let data ← readSource source
  match lookup data "volume" with
  | some (.dict inner) => pure inner
  | _ => pure data

end VolumeLifecycle.Config
