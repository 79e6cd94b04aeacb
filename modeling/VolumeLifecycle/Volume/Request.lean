import VolumeLifecycle.Volume.State
/-!
# Volume requests and their payloads

A change to a volume is one of three requests, each built from a volume state after
`withDefaults`:

* `CreateRequest` — name, RAID level, cache policies, sizes, encryption, apply time and the
  drives, POSTed to the controller's volume collection;
* `UpdateRequest` — the settings that can change on an existing volume, PATCHed to its
  settings resource;
* `DeleteRequest` — the volume to remove and the apply time.

Sizes are whole numbers (an unset or false size is `0`) and encryption is a flag. The payload
of a create request puts the drives under `Links.Drives` for controllers that expect that
and at the top level otherwise; the payload of an update request always asks for native
drive encryption, the one encryption type the controller accepts.
-/

namespace VolumeLifecycle.Volume

open VolumeLifecycle.Value

/-- Everything needed to POST a new volume. -/
structure CreateRequest where
  name : Value
  raidType : Value
  readCachePolicy : Value
  writeCachePolicy : Value
  diskCachePolicy : Value
  capacityBytes : Int
  optimumIoSizeBytes : Int
  encrypted : Bool
  applyTime : Value
  driveUris : List Value

/-- Everything needed to PATCH an existing volume's settings. -/
structure UpdateRequest where
  volumeUri : Value
  name : Value
  readCachePolicy : Value
  writeCachePolicy : Value
  diskCachePolicy : Value
  encrypted : Bool
  applyTime : Value

/-- The target of a volume deletion. -/
structure DeleteRequest where
  volumeUri : Value
  applyTime : Value

/-- A size field as a whole number; unset or false sizes are `0`. -/
def sizeField (state : Value) (key : String) : Except Failure Int := do
  let v ← state.getOr key
  wholeOf (if v.truthy then v else .int 0)

/-- The create request for a state and the URIs of the drives it uses. -/
def CreateRequest.ofState (state drives : Value) : Except Failure CreateRequest := do
  let state ← withDefaults state
  let name ← state.field "volume_name"
  let raidType ← raidLevel state
  let readCachePolicy ← state.field "read_cache_policy"
  let writeCachePolicy ← state.field "write_cache_policy"
  let diskCachePolicy ← state.field "disk_cache_policy"
  let capacityBytes ← sizeField state "capacity_bytes"
  let optimumIoSizeBytes ← sizeField state "optimum_io_size_bytes"
  let encrypted ← state.field "encrypted"
  let applyTime ← state.field "settings_apply_time"
  let driveUris ← drives.members
  pure { name, raidType, readCachePolicy, writeCachePolicy, diskCachePolicy, capacityBytes,
         optimumIoSizeBytes, encrypted := encrypted.truthy, applyTime, driveUris }

/-- The update request for a state and the URI of the volume it changes. -/
def UpdateRequest.ofState (state volumeUri : Value) : Except Failure UpdateRequest := do
  let state ← withDefaults state
  let name ← state.field "volume_name"
  let readCachePolicy ← state.field "read_cache_policy"
  let writeCachePolicy ← state.field "write_cache_policy"
  let diskCachePolicy ← state.field "disk_cache_policy"
  let encrypted ← state.field "encrypted"
  let applyTime ← state.field "settings_apply_time"
  pure { volumeUri, name, readCachePolicy, writeCachePolicy, diskCachePolicy,
         encrypted := encrypted.truthy, applyTime }

/-- The delete request for a state: its `id` is the volume's URI. -/
def DeleteRequest.ofState (state : Value) : Except Failure DeleteRequest := do
  let state ← withDefaults state
  let volumeUri ← state.field "id"
  let applyTime ← state.field "settings_apply_time"
  pure { volumeUri, applyTime }

/-- The request as a document. -/
def CreateRequest.toValue (r : CreateRequest) : Value :=
  .dict [("kind", .str "create"), ("name", r.name), ("raid_type", r.raidType),
    ("read_cache_policy", r.readCachePolicy), ("write_cache_policy", r.writeCachePolicy),
    ("disk_cache_policy", r.diskCachePolicy), ("capacity_bytes", .int r.capacityBytes),
    ("optimum_io_size_bytes", .int r.optimumIoSizeBytes), ("encrypted", .bool r.encrypted),
    ("apply_time", r.applyTime), ("drive_uris", .list r.driveUris)]

/-- The request as a document. -/
def UpdateRequest.toValue (r : UpdateRequest) : Value :=
  .dict [("kind", .str "update"), ("volume_uri", r.volumeUri), ("name", r.name),
    ("read_cache_policy", r.readCachePolicy), ("write_cache_policy", r.writeCachePolicy),
    ("disk_cache_policy", r.diskCachePolicy), ("encrypted", .bool r.encrypted),
    ("apply_time", r.applyTime)]

/-- The request as a document. -/
def DeleteRequest.toValue (r : DeleteRequest) : Value :=
  .dict [("kind", .str "delete"), ("volume_uri", r.volumeUri), ("apply_time", r.applyTime)]

/-- The vendor block that carries the disk cache policy. -/
def vendorBlock (diskCachePolicy : Value) : Value :=
  .dict [("Dell", .dict [("DellVolume", .dict [("DiskCachePolicy", diskCachePolicy)])])]

/-- A reference to a resource by its URI. -/
def reference (uri : Value) : Value := .dict [("@odata.id", uri)]

/-- The body POSTed to create the volume; `drivesInLinks` puts the drives under
`Links.Drives`. -/
def CreateRequest.payload (r : CreateRequest) (drivesInLinks : Bool) : Value :=
  let drives := Value.list (r.driveUris.map reference)
  .dict ([("DisplayName", r.name), ("Name", r.name),
    ("ReadCachePolicy", r.readCachePolicy), ("WriteCachePolicy", r.writeCachePolicy),
    ("CapacityBytes", .int r.capacityBytes), ("OptimumIOSizeBytes", .int r.optimumIoSizeBytes),
    ("RAIDType", r.raidType), ("Encrypted", .bool r.encrypted),
    ("Oem", vendorBlock r.diskCachePolicy),
    ("@Redfish.OperationApplyTime", r.applyTime)] ++
    (if drivesInLinks then [("Links", .dict [("Drives", drives)])] else [("Drives", drives)]))

/-- The encryption types a settings change asks for. -/
def encryptionTypes : List String := ["NativeDriveEncryption"]

/-- The body PATCHed to change the volume's settings. -/
def UpdateRequest.payload (r : UpdateRequest) : Value :=
  .dict [("ReadCachePolicy", r.readCachePolicy), ("WriteCachePolicy", r.writeCachePolicy),
    ("DisplayName", r.name), ("Name", r.name), ("Encrypted", .bool r.encrypted),
    ("EncryptionTypes", .list (encryptionTypes.map .str)),
    ("Oem", vendorBlock r.diskCachePolicy),
    ("@Redfish.SettingsApplyTime", .dict [("ApplyTime", r.applyTime)])]

end VolumeLifecycle.Volume
