import VolumeLifecycle.Document.Access
/-!
# Declarative volume state

A volume state is a document of named fields (`volume_name`, `drives`, `raid_type`,
`settings_apply_time`, …); fields it does not set take **the schema defaults**. This module
holds:

* `defaults` — the fields every filled-in state has, in their order;
* `raidLevel` — the RAID level of a state: `raid_type` when it is set to a true value,
  otherwise the level the deprecated `volume_type` stands for, otherwise `RAID0`;
* `withDefaults` — the defaults overwritten by every field the state sets to something
  other than `null`, with `raid_type` then replaced by `raidLevel` of the given state;
* `readImport` — the server connection and initial state named by an import identity, a
  JSON object text that must carry a true `id`.

Because `raidLevel` looks at the state *before* defaults, a state that only sets a
deprecated `volume_type` keeps the level that type stands for.
-/

namespace VolumeLifecycle.Volume

open VolumeLifecycle.Value

/-- Seconds a power cycle may take, unless the state says otherwise. -/
def resetTimeoutDefault : Int := 120

/-- Seconds a volume job may take, unless the state says otherwise. -/
def jobTimeoutDefault : Int := 1200

/-- The fields a state takes when it does not set them. -/
def defaults : List (String × Value) :=
  [("raid_type", .str "RAID0"),
   ("read_cache_policy", .str "Off"),
   ("write_cache_policy", .str "UnprotectedWriteBack"),
   ("disk_cache_policy", .str "Enabled"),
   ("encrypted", .bool false),
   ("settings_apply_time", .str "Immediate"),
   ("reset_type", .str "ForceRestart"),
   ("reset_timeout", .int resetTimeoutDefault),
   ("volume_job_timeout", .int jobTimeoutDefault)]

/-- The RAID level each deprecated volume type stands for. -/
def legacyLevels : List (String × String) :=
  [("NonRedundant", "RAID0"),
   ("Mirrored", "RAID1"),
   ("StripedWithParity", "RAID5"),
   ("SpannedMirrors", "RAID10"),
   ("SpannedStripesWithParity", "RAID50")]

/-- The level a volume type names, `RAID0` for any other key. A key must be hashable to be
looked up at all. -/
def legacyLevel (key : Value) : Except Failure Value :=
  if !key.hashable then .error (.mistyped (.unhashable key.kind))
  else match key with
    | .str s => .ok (.str (((legacyLevels.find? (·.1 == s)).map (·.2)).getD "RAID0"))
    | _ => .ok (.str "RAID0")

/-- The RAID level of a state. -/
def raidLevel (state : Value) : Except Failure Value := do
  let level ← state.getOr "raid_type"
  if level.truthy then return level
  let kind ← state.getOr "volume_type"
  legacyLevel (if kind.truthy then kind else .str "")

/-- The state with every unset field filled from `defaults`. -/
def withDefaults (state : Value) : Except Failure Value := do
  let entries ← match state with
    | .dict es => pure es
    | _ => throw (.noAttribute state.kind "items")
  let merged := update defaults (entries.filter fun e => !(e.2 matches .null))
  let level ← raidLevel state
  pure (.dict (insert merged "raid_type" level))

/-- A failure to read an import identity. -/
def importFailure (message : String) (detail : Value := .null) : Failure :=
  .raise .precondition message (.str "import") detail

/-- The server connection and volume state an import identity names. -/
def readImport (importId : Value) : Except Failure (Value × Value) := do
  let text ← match importId with
    | .str s => pure s
    | v => throw (importFailure "Error while unmarshalling import id"
        (.str (TypeFault.jsonArgument v.kind).text))
  let document ← match Json.parse text with
    | .ok d => pure d
    | .error r@(.tooDeep _) => throw (Failure.ofRefusal r)
    | .error e => throw (importFailure "Error while unmarshalling import id" (.str e.message))
  let es ← match document with
    | .dict es => pure es
    | _ => throw (importFailure "Import id must be a JSON object")
  let field (k : String) (fallback : Value) : Value := (lookup es k).getD fallback
  if !(field "id" .null).truthy then throw (importFailure "Import id does not name a volume")
  let server : Value := .dict
    [("endpoint", field "endpoint" (.str "")),
     ("username", field "username" (.str "")),
     ("password", field "password" (.str "")),
     ("ssl_insecure", .bool (field "ssl_insecure" (.bool false)).truthy),
     ("redfish_alias", field "redfish_alias" (.str ""))]
  let state : Value := .dict
    [("id", field "id" .null),
     ("system_id", field "system_id" (.str "")),
     ("reset_timeout", .int resetTimeoutDefault),
     ("reset_type", .str "ForceRestart"),
     ("volume_job_timeout", .int jobTimeoutDefault),
     ("settings_apply_time", .str "Immediate")]
  pure (server, state)

end VolumeLifecycle.Volume
