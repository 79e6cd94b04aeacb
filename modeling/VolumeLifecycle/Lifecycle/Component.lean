import VolumeLifecycle.Lifecycle.Phase
import VolumeLifecycle.Lifecycle.Submit
import VolumeLifecycle.Lifecycle.PowerCycle
import VolumeLifecycle.Lifecycle.Reconcile
import VolumeLifecycle.Volume.ApplyTime
import VolumeLifecycle.Lock.Registry
/-!
# The storage volume component

Creates, reads, updates and deletes RAID volumes on one management controller. Every verb
holds the controller's endpoint lock for its whole run and goes through the phases:

* **discover** — the server generation (for create), the system, the storage controller
  named by `storage_controller_id`, the drives named in `drives` (every name must match a
  drive, for create), and the apply-time check against the controller's volume collection;
  a delete takes the controller and the system from the volume's own URI;
* **process** — one submission, then, for a change that applies on reset, a power cycle of
  the system (after a grace period, for a delete);
* **housekeep** — the job is waited for and must succeed; a delete must leave the volume
  gone, a create or update waits for the controller to settle and reads the volume back by
  name into the state; a read reads the volume at the state's `id` back into the state, and a
  volume that no longer exists is reported as not found with the state unchanged.

An update that would turn encryption off is refused before the lock is taken. The component
keeps what the last operation found and did (`Progress`), which is reset when the next one
starts; the record of its phases (status, completed phases, timestamps) is reset only when the
phases start, so a run that fails before them leaves the last run's record.
-/

namespace VolumeLifecycle.Lifecycle

open VolumeLifecycle.Redfish VolumeLifecycle.Value VolumeLifecycle.Volume VolumeLifecycle.Lock

/-- What the current operation has found and done so far. -/
structure Progress where
  operation : Value := .null
  desired : Value := .dict []
  prior : Value := .dict []
  discovered : List (String × Value) := []
  processed : List (String × Value) := []
  housekept : List (String × Value) := []
  result : Value := .null
  found : Bool := true
  record : PhaseRecord := {}

/-- Everything a component's operation acts on: the site, the lock registry it shares with
other components, and its own progress. -/
structure Station where
  site : Site
  registry : Registry
  progress : Progress

/-- An operation of a component. -/
abbrev Op := ExceptT Failure (StateM Station)

/-- Run an action on the site. -/
def Op.act {α : Type} (a : Act α) : Op α := do
  let st ← get
  let (r, site) := (a.run).run st.site
  set { st with site }
  liftFailure r

/-- Change the progress. -/
def Op.note (f : Progress → Progress) : Op Unit :=
  modify fun st => { st with progress := f st.progress }

/-- The progress so far. -/
def Op.progress : Op Progress := do
  return (← get).progress

/-- Change the phase record. -/
def Op.touch (f : PhaseRecord → PhaseRecord) : Op Unit :=
  Op.note fun p => { p with record := f p.record }

/-- Record a discovery. -/
def Op.discover (key : String) (v : Value) : Op Unit :=
  Op.note fun p => { p with discovered := insert p.discovered key v }

/-- A discovery that must have been made. -/
def Op.discovered (key : String) : Op Value := do
  match lookup (← Op.progress).discovered key with
  | some v => pure v
  | none => throw (.missingKey (.str key))

/-- Hold the lock of `endpoint` while `body` runs; it is released however `body` ends. An
operation whose ticket is not served at once would wait forever. -/
def withLock {α : Type} (endpoint : Value) (body : Op α) : Op α := do
  let st ← get
  let (key, _, served, registry) ← liftFailure (st.registry.take endpoint)
  set { st with registry }
  if !served then throw .exhausted
  let release : Op Unit := modify fun st => { st with registry := st.registry.release key }
  let a ← tryCatch body fun f => do
    release
    throw f
  release
  pure a

/-- The configuration a component starts from, before the given one is written over it. -/
def componentDefaults : List (String × Value) :=
  [("endpoint", .null), ("username", .str "root"), ("password", .null),
   ("verify_cert", .bool false), ("request_timeout", .int 30),
   ("job_poll_interval", .int 10), ("power_poll_interval", .int 10),
   ("settle_delay", .int 60), ("delete_reset_grace_period", .int 30),
   ("reconcile_fields", .list (ReadBack.defaults.map (.str ·.key))),
   ("preserve_fields", .list [])]

/-- A storage volume component. -/
structure Component where
  config : List (String × Value)
  componentId : Value
  endpoint : Value
  client : Client
  poller : Poller
  power : Coordinator
  reconciler : Reconciler

/-- A configuration entry that the merged configuration always has. -/
def configValue (config : List (String × Value)) (key : String) : Except Failure Value :=
  match lookup config key with
  | some v => .ok v
  | none => .error (.missingKey (.str key))

/-- A component for `config`, talking through `client` (or through a client built from the
configuration when none is given). -/
def Component.create (config : Value) (client : Option Client) : Except Failure Component := do
  let given ← match config with
    | .dict es => pure es
    | v => throw (.noAttribute v.kind "items")
  let merged := update componentDefaults (given.filter fun e => !(e.2 matches .null))
  let componentId ← componentIdOf (.dict merged)
  checkLevel ((lookup merged "log_level").getD (.str "INFO"))
  let endpoint := (lookup merged "endpoint").getD .null
  if !endpoint.truthy then throw (.invalid .endpointRequired)
  let client ← match client with
    | some c => pure c
    | none =>
        Client.create endpoint ((lookup merged "username").getD .null)
          ((lookup merged "password").getD .null) ((lookup merged "verify_cert").getD (.bool false))
          ((lookup merged "request_timeout").getD (.int 30))
  let poller : Poller := { client, interval := ← configValue merged "job_poll_interval" }
  let power : Coordinator := { client, interval := ← configValue merged "power_poll_interval" }
  let reconciler ← Reconciler.create client (← configValue merged "reconcile_fields")
    (← configValue merged "preserve_fields")
  pure { config := merged, componentId, endpoint, client, poller, power, reconciler }

/-- The part of `uri` before the last occurrence of `marker`, which must stand after its
first character. -/
def parentUri (uri : Value) (marker : String) : Except Failure Value := do
  let s ← textOf uri "rfind"
  let cs := s.toList
  let ms := marker.toList
  let starts := (List.range (cs.length + 1)).filter fun i => (cs.drop i).take ms.length == ms
  match starts.getLast? with
  | some i =>
      if i == 0 then throw (.raise .precondition s!"Malformed resource URI: {s}")
      pure (.str (String.ofList (cs.take i)))
  | none => throw (.raise .precondition s!"Malformed resource URI: {s}")

/-- The drives of the controller that the desired state names, in the controller's order;
every name must match. -/
def matchDrives (drives names : List Value) : Except Failure (List Value) := do
  let matched ← drives.filterM fun d => do
    let n ← d.getOr "Name"
    pure (names.any (same n))
  if matched.length != names.length then
    let found ← matched.mapM (·.getOr "Name")
    if let some n := found.find? (!·.hashable) then throw (.mistyped (.unhashable n.kind))
    let missing ← names.filterM fun n => do
      if !n.hashable then throw (.mistyped (.unhashable n.kind))
      pure (!found.any (same n))
    let listed ← joinTexts ", " (.list missing)
    let listed := if listed.isEmpty then "duplicate names" else listed
    throw (.raise .precondition "Any of the drives you inserted doesn't exist"
      .null (.str s!"not found: {listed}"))
  let _ ← joinTexts ", " (.list names)
  pure matched

/-- A precondition error without a stage; the phase it fails in becomes its stage. -/
def preconditionFailure (message : String) (detail : Value := .null) : Failure :=
  .raise .precondition message .null detail

/-- The system with id `systemId` (the first one when no id is given); a missing system is a
failed precondition. -/
def Component.system (c : Component) (systemId : Value) : Op Value :=
  tryCatch (Op.act (c.client.system (if systemId.truthy then systemId else .null))) fun f =>
    match f with
    | .lifecycle e =>
        if e.cls == .redfishRequest && same e.status (.int 404) then
          let named := if systemId.truthy then systemId.display else ""
          throw (preconditionFailure
            (Text.trimBlank s!"Couldn't find the computer system {named}") e.detail)
        else throw f
    | _ => throw f

/-- Find the system and the storage controller `controllerId`, and check the apply time
against the controller's volume collection. -/
def Component.discoverController (c : Component) (systemId controllerId : Value) : Op Value := do
  if !controllerId.truthy then throw (preconditionFailure "A storage controller id is required")
  let system ← c.system systemId
  Op.discover "system_id" (← liftFailure (system.getOr "Id"))
  Op.discover "system_uri" (← liftFailure (system.field "@odata.id"))
  let storage ← Op.act (c.client.storageController system controllerId)
  if storage matches .null then
    throw (preconditionFailure s!"Couldn't find the storage controller {controllerId.display}")
  let storageUri ← liftFailure (storage.field "@odata.id")
  Op.discover "storage_uri" storageUri
  let supported ← Op.act (c.client.supportedApplyTimes storageUri)
  Op.discover "supported_apply_times" (.list supported)
  let desired := (← Op.progress).desired
  liftFailure (checkApplyTime (.list supported) (← liftFailure (desired.field "settings_apply_time"))
    controllerId)
  pure storage

/-- Discovery for a create. -/
def Component.discoverCreate (c : Component) : Op Unit := do
  let desired := (← Op.progress).desired
  let drives ← liftFailure (desired.getOr "drives")
  let names ← liftFailure (if drives.truthy then drives else .list []).members
  if names.isEmpty then throw (preconditionFailure "At least one drive is required to create a volume")
  if !(← liftFailure (desired.getOr "volume_name")).truthy then
    throw (preconditionFailure "A volume name is required to create a volume")
  let inLinks ← Op.act c.client.seventeenOrLater
  Op.discover "drives_in_links" (.bool inLinks)
  let storage ← c.discoverController (← liftFailure (desired.getOr "system_id"))
    (← liftFailure (desired.getOr "storage_controller_id"))
  let drives ← liftFailure (matchDrives (← Op.act (c.client.drives storage)) names)
  Op.discover "drive_uris" (.list (← liftFailure (drives.mapM (·.field "@odata.id"))))

/-- Discovery for a delete: the controller and the system come from the volume's URI. -/
def Component.discoverDelete (c : Component) : Op Unit := do
  let desired := (← Op.progress).desired
  let volumeUri ← liftFailure (desired.getOr "id")
  if !volumeUri.truthy then throw (preconditionFailure "Cannot delete a volume without its id")
  let storageUri ← liftFailure (parentUri volumeUri "/Volumes/")
  let systemUri ← liftFailure (parentUri storageUri "/Storage/")
  let systemUri ← if (← liftFailure (desired.getOr "system_id")).truthy then do
      let system ← c.system (← liftFailure (desired.field "system_id"))
      liftFailure (system.field "@odata.id")
    else pure systemUri
  Op.discover "system_uri" systemUri
  Op.discover "storage_uri" storageUri
  let supported ← Op.act (c.client.supportedApplyTimes storageUri)
  liftFailure (checkApplyTime (.list supported) (← liftFailure (desired.field "settings_apply_time"))
    storageUri)

/-- The discover phase. -/
def Component.discoverPhase (c : Component) : Op Unit := do
  let p ← Op.progress
  match p.operation with
  | .str "create" => c.discoverCreate
  | .str "update" =>
      if !(← liftFailure (p.prior.getOr "id")).truthy then
        throw (preconditionFailure "Cannot update a volume without its id")
      let _ ← c.discoverController (← liftFailure (p.desired.getOr "system_id"))
        (← liftFailure (p.desired.getOr "storage_controller_id"))
  | .str "delete" => c.discoverDelete
  | _ => pure ()

/-- Record a processing result. -/
def Op.process (key : String) (v : Value) : Op Unit :=
  Op.note fun p => { p with processed := insert p.processed key v }

/-- Submit the change the request of `p` asks for; the job reference the controller
returned. -/
def Component.submitChange (c : Component) (p : Progress) : Op Value :=
  match p.operation with
  | .str "create" => do
      let r ← liftFailure (CreateRequest.ofState p.desired (← Op.discovered "drive_uris"))
      let storageUri ← Op.discovered "storage_uri"
      let inLinks ← Op.discovered "drives_in_links"
      Op.act (submitCreate c.client storageUri r inLinks.truthy)
  | .str "update" => do
      let r ← liftFailure (UpdateRequest.ofState p.desired (← liftFailure (p.prior.field "id")))
      Op.act (submitUpdate c.client r)
  | _ => do
      let r ← liftFailure (DeleteRequest.ofState p.desired)
      Op.act (submitDelete c.client r)

/-- Before a reset, a delete waits its grace period so that the reset does not disturb its
job. -/
def Component.resetGrace (c : Component) (p : Progress) : Op Unit :=
  match p.operation with
  | .str "delete" => do
      Op.act (Act.sleep (← liftFailure (configValue c.config "delete_reset_grace_period")))
  | _ => pure ()

/-- Power cycle the system so that a change applied on reset takes effect. -/
def Component.resetForChange (c : Component) (p : Progress) : Op Unit := do
  c.resetGrace p
  let result ← Op.act (c.power.powerCycle (← Op.discovered "system_uri")
    (← liftFailure (p.desired.field "reset_type")) (← liftFailure (p.desired.field "reset_timeout")))
  Op.process "reboot_triggered" (.bool true)
  Op.process "power" result.toValue

/-- The process phase. -/
def Component.processPhase (c : Component) : Op Unit := do
  let p ← Op.progress
  let applyTime ← liftFailure (p.desired.field "settings_apply_time")
  let jobRef ← c.submitChange p
  Op.process "job_id" jobRef
  Op.process "reboot_triggered" (.bool false)
  if same applyTime (.str "OnReset") then c.resetForChange p

/-- Read the volume at the state's `id` back into the state. -/
def Component.refresh (c : Component) : Op Unit := do
  let desired := (← Op.progress).desired
  let volumeUri ← liftFailure (desired.getOr "id")
  if !volumeUri.truthy then throw (preconditionFailure "Cannot read a volume without its id")
  let volume? ← tryCatch (some <$> Op.act (c.reconciler.readVolume volumeUri)) fun f =>
    match f with
    | .lifecycle e => if e.cls == .volumeNotFound then pure none else throw f
    | _ => throw f
  match volume? with
  | none => Op.note fun p => { p with found := false, result := desired }
  | some volume =>
      let result ← Op.act (c.reconciler.reconcile desired volume)
      Op.note fun p => { p with result }

/-- The housekeep phase. -/
def Component.housekeepPhase (c : Component) : Op Unit := do
  let p ← Op.progress
  if p.operation matches .str "read" then return ← c.refresh
  let jobRef := (lookup p.processed "job_id").getD .null
  let job ← Op.act (c.poller.wait jobRef (← liftFailure (p.desired.field "volume_job_timeout")))
  Op.note fun p => { p with housekept := insert p.housekept "job" job.toValue }
  liftFailure job.check
  if p.operation matches .str "delete" then
    Op.act (c.reconciler.confirmAbsent (← liftFailure (p.desired.field "id")))
    Op.note fun p => { p with result := .null }
    return
  Op.act (Act.sleep (← liftFailure (configValue c.config "settle_delay")))
  let volume ← Op.act (c.reconciler.findVolume (← Op.discovered "storage_uri")
    (← liftFailure (p.desired.field "volume_name")))
  let state ← liftFailure p.desired.entriesOf
  let state := insert state "system_id" (← Op.discovered "system_id")
  let result ← Op.act (c.reconciler.reconcile (.dict state) volume)
  Op.note fun p => { p with result }

/-- The action of a phase. -/
def Component.phase (c : Component) : Phase → Op Unit
  | .discover => c.discoverPhase
  | .process => c.processPhase
  | .housekeep => c.housekeepPhase

/-- Run the operation `operation` under the endpoint lock, with the phases of `selection`;
the result and whether the volume was found. -/
def Component.run (c : Component) (operation : String) (desired prior selection : Value) :
    Op (Value × Bool) :=
  withLock c.endpoint do
    -- the operation's own fields start afresh; the phase record stays until the phases run
    Op.note fun p => { operation := .str operation, record := p.record }
    let desired ← liftFailure (withDefaults desired)
    Op.note fun p => { p with desired }
    let prior ← liftFailure (withDefaults (if prior.truthy then prior else .dict []))
    Op.note fun p => { p with prior }
    execute Op.touch c.phase selection
    let p ← Op.progress
    pure (p.result, p.found)

/-- Create a volume; the reconciled state with the id the controller assigned. -/
def Component.createVolume (c : Component) (desired : Value) : Op Value := do
  return (← c.run "create" desired .null .null).1

/-- Refresh a state from the controller: the state and whether the volume still exists. -/
def Component.readVolume (c : Component) (state : Value) : Op (Value × Bool) :=
  c.run "read" state .null (.list [.str "housekeep"])

/-- The refusal of an update that would turn encryption off. -/
def encryptionLocked : Failure :=
  .raise .precondition
    "Invalid Configuration. Cannot disable encryption, once a disk is encrypted it cannot be transformed back into an non-encrypted state."
    (.str "discover")

/-- Apply new settings to an existing volume. -/
def Component.updateVolume (c : Component) (desired prior : Value) : Op Value := do
  let d ← liftFailure (withDefaults desired)
  let p ← liftFailure (withDefaults prior)
  let de ← liftFailure (d.field "encrypted")
  let pe ← liftFailure (p.field "encrypted")
  if !de.truthy && pe.truthy then throw encryptionLocked
  return (← c.run "update" desired prior .null).1

/-- Delete a volume and confirm it is gone. -/
def Component.deleteVolume (c : Component) (state : Value) : Op Unit := do
  let _ ← c.run "delete" state .null .null

/-- The progress as a document. -/
def Progress.toValue (p : Progress) : Value :=
  .dict [("operation", p.operation), ("found", .bool p.found),
    ("status", p.record.status.toValue), ("phases_executed", p.record.executedValue),
    ("discovery_results", .dict p.discovered), ("processing_results", .dict p.processed),
    ("housekeeping_results", .dict p.housekept), ("timestamps_set", p.record.stampsValue)]

end VolumeLifecycle.Lifecycle
