import VolumeLifecycle.Redfish.Client
/-!
# Reading a volume back into its state

After a job finishes, the volume is read from the controller and the properties it reports
are copied into the declarative state. Which state fields are written back is configured:
an **allow list** of fields, less a **deny list** of fields that are never overwritten. By
default the RAID level, the encryption flag and the disk cache policy are not written back,
so a value the controller reports mid-transition does not show up as drift.

Each writable field has one place in the volume resource it is read from (`ReadBack.read`);
`drives` is special: it is the list of the names of the drives the volume references,
each drive read from the controller.

Besides the copy (`Reconciler.reconcile`), the reconciler finds a volume by name, reads a
volume (a missing one is a volume-not-found error), and confirms that a deleted volume is
gone.
-/

namespace VolumeLifecycle.Lifecycle

open VolumeLifecycle.Redfish VolumeLifecycle.Value

/-- A state field that can be read back from a volume. -/
inductive ReadBack where
  | capacityBytes
  | optimumIoSizeBytes
  | readCachePolicy
  | volumeName
  | volumeType
  | writeCachePolicy
  | raidType
  | encrypted
  | diskCachePolicy
  | drives
  deriving DecidableEq

/-- Every field that can be read back, in the order the fields are listed. -/
def ReadBack.all : List ReadBack :=
  [.capacityBytes, .optimumIoSizeBytes, .readCachePolicy, .volumeName, .volumeType,
   .writeCachePolicy, .raidType, .encrypted, .diskCachePolicy, .drives]

/-- The name of the field in a volume state. -/
def ReadBack.key : ReadBack → String
  | .capacityBytes => "capacity_bytes"
  | .optimumIoSizeBytes => "optimum_io_size_bytes"
  | .readCachePolicy => "read_cache_policy"
  | .volumeName => "volume_name"
  | .volumeType => "volume_type"
  | .writeCachePolicy => "write_cache_policy"
  | .raidType => "raid_type"
  | .encrypted => "encrypted"
  | .diskCachePolicy => "disk_cache_policy"
  | .drives => "drives"

/-- The field a state key names, if it names one. -/
def ReadBack.ofKey? (v : Value) : Option ReadBack :=
  match v with
  | .str s => ReadBack.all.find? (·.key == s)
  | _ => none

/-- The fields written back when none are configured. -/
def ReadBack.defaults : List ReadBack :=
  [.capacityBytes, .optimumIoSizeBytes, .readCachePolicy, .volumeName, .volumeType,
   .writeCachePolicy, .drives]

/-- The property of the volume a field is read from (not for `drives`). -/
def ReadBack.property (volume : Value) : ReadBack → Except Failure Value
  | .capacityBytes => volume.getOr "CapacityBytes"
  | .optimumIoSizeBytes => volume.getOr "OptimumIOSizeBytes"
  | .readCachePolicy => volume.getOr "ReadCachePolicy"
  | .volumeName => volume.getOr "Name"
  | .volumeType => volume.getOr "VolumeType"
  | .writeCachePolicy => volume.getOr "WriteCachePolicy"
  | .raidType => volume.getOr "RAIDType"
  | .encrypted => volume.getOr "Encrypted"
  | .diskCachePolicy => do
      let oem ← volume.getOr "Oem" (.dict [])
      let vendor ← oem.getOr "Dell" (.dict [])
      let block ← vendor.getOr "DellVolume" (.dict [])
      block.getOr "DiskCachePolicy"
  | .drives => .ok .null

/-- A reconciler: the client, the allow list and the deny list. -/
structure Reconciler where
  client : Client
  fields : List ReadBack
  preserved : List Value

/-- The allow list read from a configured value: every item must name a field; unknown
names are refused all together. -/
def readFields (fields : Value) : Except Failure (List ReadBack) := do
  let items ← fields.members
  let unknown ← items.filterM fun f => do
    if !f.hashable then throw (.mistyped (.unhashable f.kind))
    pure (ReadBack.ofKey? f).isNone
  if !unknown.isEmpty then
    let names ← textsOf unknown
    throw (.invalid (.unknownFields names))
  pure (items.filterMap ReadBack.ofKey?)

/-- A reconciler with a configured allow list and deny list. -/
def Reconciler.create (client : Client) (fields : Value) (preserved : Value) :
    Except Failure Reconciler := do
  let items ← fields.members
  let preserved ← preserved.members
  if let some p := preserved.find? (!·.hashable) then throw (.mistyped (.unhashable p.kind))
  let fields ← readFields (.list items)
  pure { client, fields, preserved }

/-- The fields written back: the allow list less the deny list, in the allow list's order. -/
def Reconciler.writable (r : Reconciler) : List ReadBack :=
  r.fields.filter fun f => !r.preserved.any (same (.str f.key))

/-- Read a volume; one the controller does not have is a volume-not-found error. -/
def Reconciler.readVolume (r : Reconciler) (volumeUri : Value) : Act Value :=
  tryCatch (r.client.get volumeUri) fun f =>
    match f with
    | .lifecycle e =>
        if e.cls == .redfishRequest && same e.status (.int 404) then
          Act.fail (.raise .volumeNotFound s!"Volume {volumeUri.display} doesn't exist"
            (.str "housekeep"))
        else Act.fail f
    | _ => Act.fail f

/-- The first volume of a storage controller whose `Name` equals `volumeName`. -/
def Reconciler.findVolume (r : Reconciler) (storageUri volumeName : Value) : Act Value := do
  let volumes ← r.client.volumes storageUri
  let found ← volumes.findM? fun v => do
    pure (same (← Act.ofExcept (v.getOr "Name")) volumeName)
  match found with
  | some v => pure v
  | none =>
      Act.fail (.raise .reconciliation
        s!"Couldn't find a volume with the provided name: {volumeName.display}" (.str "housekeep"))

/-- Succeed when a deleted volume is gone, fail when it still exists. -/
def Reconciler.confirmAbsent (r : Reconciler) (volumeUri : Value) : Act Unit := do
  if ← r.client.exists volumeUri then
    Act.fail (.raise .reconciliation s!"Volume {volumeUri.display} still exists after deletion"
      (.str "housekeep"))

/-- The names of the drives a volume references, under `Links.Drives` or else `Drives`. -/
def Reconciler.driveNames (r : Reconciler) (volume : Value) : Act (List Value) := do
  let refs ← Act.ofExcept do
    let links ← volume.getOr "Links" (.dict [])
    let linked ← links.getOr "Drives"
    if linked.truthy then pure linked else
    let direct ← volume.getOr "Drives"
    pure (if direct.truthy then direct else .list [])
  let refs ← Act.ofExcept refs.members
  refs.foldlM (fun names ref => do
    let uri ← Act.ofExcept (ref.getOr "@odata.id")
    if uri.truthy then
      let drive ← r.client.get uri
      pure (names ++ [← Act.ofExcept (drive.getOr "Name")])
    else pure names) []

/-- Copy the reported properties into the state: `id` becomes the volume's URI and every
writable field takes the value the volume reports; the other fields are kept. -/
def Reconciler.reconcile (r : Reconciler) (state volume : Value) : Act Value := do
  let es ← Act.ofExcept state.entriesOf
  let es := insert es "id" (← Act.ofExcept (volume.field "@odata.id"))
  let es ← r.writable.foldlM (fun es f => do
    let v ← if f == .drives then (.list ·) <$> r.driveNames volume
      else Act.ofExcept (f.property volume)
    pure (insert es f.key v)) es
  pure (.dict es)

end VolumeLifecycle.Lifecycle
