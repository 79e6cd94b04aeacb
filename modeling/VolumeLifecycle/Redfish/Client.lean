import VolumeLifecycle.Site
import VolumeLifecycle.Redfish.Message
import VolumeLifecycle.Text.Blank
import VolumeLifecycle.Text.Digit
import VolumeLifecycle.Number.Read
/-!
# The controller client

A client for one management controller: its base URL, the credentials and certificate
policy of its session, and the reads and writes the volume lifecycle needs.

* **Base URL.** The endpoint without surrounding blanks and trailing slashes, with `https://`
  in front unless it already starts with `http://` or `https://` (exactly those letters).
* **URLs.** A URI that starts with `http://` or `https://` is used as it is; any other is a
  path below the base URL, with a `/` put in front when it has none.
* **Reads** fail with a failed-request error, carrying the status code, the URI and the
  response's readable message, on any status other than 200 (task reads also accept 202);
  **writes** return the response whatever its status.
* **Discovery** walks collections by their `Members` references, finds a system (the first
  one when no id is given), its storage controllers, their drives and volumes, the apply
  times a volume collection advertises, and the server generation in the manager's model
  name (the digits before the first `G` that follows a run of digits).

Every document read from the controller has an unknown shape, so each step uses the lookups
of `Document.Access` and fails as they do.
-/

namespace VolumeLifecycle.Redfish

open VolumeLifecycle.Value VolumeLifecycle.Text

/-- The root of the controller's resource tree. -/
def serviceRoot : String := "/redfish/v1"

/-- A client's connection settings. -/
structure Client where
  baseUrl : String
  /-- User name and password, when a user name is given. -/
  auth : Option (Value × Value)
  verify : Value
  timeout : Value
  /-- Headers sent with every request. -/
  headers : List (String × Value)

/-- Whether a text starts with one of the two web schemes, letter for letter. -/
def hasScheme (s : String) : Bool := s.startsWith "http://" || s.startsWith "https://"

/-- The text of a value that must be a text for the operation `op`. -/
def textOf (v : Value) (op : String) : Except Failure String :=
  match v with
  | .str s => .ok s
  | _ => .error (.noAttribute v.kind op)

/-- The base URL of an endpoint. -/
def baseUrlOf (endpoint : String) : String :=
  let e := trimRightChar (trimBlank endpoint) '/'
  if hasScheme e then e else "https://" ++ e

/-- A client for `endpoint`; an endpoint that is false as a condition is refused. -/
def Client.create (endpoint username password verify timeout : Value) :
    Except Failure Client := do
  if !endpoint.truthy then throw (.invalid .endpointRequired)
  let e ← textOf endpoint "strip"
  let auth := match username with
    | .null => none
    | u => some (u, if password.truthy then password else .str "")
  pure { baseUrl := baseUrlOf e, auth, verify, timeout,
         headers := [("content-type", .str "application/json")] }

/-- The session settings as a document: credentials, certificate policy and headers. -/
def Client.sessionDocument (c : Client) : Value :=
  .dict [("auth", match c.auth with
            | some (u, p) => .list [u, p]
            | none => .null),
         ("verify", c.verify), ("headers", .dict c.headers)]

/-- The absolute URL of a URI. -/
def Client.url (c : Client) (uri : Value) : Except Failure String := do
  let u ← textOf uri "startswith"
  if hasScheme u then return u
  let u := if u.startsWith "/" then u else "/" ++ u
  pure (c.baseUrl ++ u)

/-- The path the controller sees for a URL: the part after the base URL, or the whole URL
when it lies elsewhere. -/
def Client.pathOf (c : Client) (url : String) : String :=
  if url.startsWith c.baseUrl then String.ofList (url.toList.drop c.baseUrl.length) else url

/-- Send one request. -/
def Client.send (c : Client) (m : Method) (uri : Value) (payload : Value := .null) :
    Act Response := do
  let url ← Act.ofExcept (c.url uri)
  Act.exchange m (c.pathOf url) payload

/-- A failed read: the status, the URI and the response's readable message. -/
def requestFailure (message : String) (r : Response) (uri : Value) : Act Failure := do
  let detail ← Act.ofExcept r.message
  pure (.lifecycle { cls := .redfishRequest, message, detail, status := .int r.status, uri })

/-- Read a resource; any status but 200 fails. -/
def Client.get (c : Client) (uri : Value) : Act Value := do
  let r ← c.send .get uri
  if r.status != 200 then
    Act.fail (← requestFailure s!"GET request to {uri.display} failed with status {r.status}" r uri)
  Act.ofExcept r.json

/-- POST a payload. -/
def Client.post (c : Client) (uri payload : Value) : Act Response := c.send .post uri payload

/-- PATCH a payload. -/
def Client.patch (c : Client) (uri payload : Value) : Act Response := c.send .patch uri payload

/-- DELETE a resource. -/
def Client.delete (c : Client) (uri : Value) : Act Response := c.send .delete uri

/-- Whether a resource exists: `false` on 404, `true` on 200, a failure otherwise. -/
def Client.exists (c : Client) (uri : Value) : Act Bool :=
  tryCatch (do let _ ← c.get uri; pure true) fun f =>
    match f with
    | .lifecycle e =>
        if e.cls == .redfishRequest && same e.status (.int 404) then pure false else throw f
    | _ => throw f

/-- Read every member a collection references, in order; references without a true
`@odata.id` are skipped. -/
def Client.members (c : Client) (uri : Value) : Act (List Value) := do
  let collection ← c.get uri
  let refs ← Act.ofExcept (do (← collection.getOr "Members" (.list [])).members)
  refs.foldlM (fun acc ref => do
    let target ← Act.ofExcept (ref.getOr "@odata.id")
    if target.truthy then pure (acc ++ [← c.get target]) else pure acc) []

/-- The failure of a system lookup in an empty collection. -/
def noSystems : Failure :=
  .lifecycle { cls := .redfishRequest, message := "No computer systems found",
               status := .int 404, uri := .str (serviceRoot ++ "/Systems") }

/-- A system by id, or the first listed system when no true id is given. -/
def Client.system (c : Client) (systemId : Value := .null) : Act Value := do
  if systemId.truthy then
    return ← c.get (.str s!"{serviceRoot}/Systems/{systemId.display}")
  let collection ← c.get (.str s!"{serviceRoot}/Systems")
  let members ← Act.ofExcept (collection.getOr "Members" (.list []))
  if !members.truthy then Act.fail noSystems
  let first ← Act.ofExcept (members.item 0)
  c.get (← Act.ofExcept (first.field "@odata.id"))

/-- The storage controllers of a system: its `Storage` collection, or the one below the
system's own URI when the system names none. -/
def Client.storageControllers (c : Client) (system : Value) : Act (List Value) := do
  let storage ← Act.ofExcept (system.getOr "Storage" (.dict []))
  let uri ← Act.ofExcept (storage.getOr "@odata.id")
  let uri ← if uri.truthy then pure uri else do
    let own ← Act.ofExcept (system.field "@odata.id")
    pure (.str s!"{own.display}/Storage")
  c.members uri

/-- The storage controller of a system whose `Id` equals `controllerId`, if any. -/
def Client.storageController (c : Client) (system controllerId : Value) : Act Value := do
  let controllers ← c.storageControllers system
  controllers.foldlM (fun found ctl => do
    if found matches .null then
      if same (← Act.ofExcept (ctl.getOr "Id")) controllerId then pure ctl else pure .null
    else pure found) .null

/-- The drives a storage controller references. -/
def Client.drives (c : Client) (storage : Value) : Act (List Value) := do
  let refs ← Act.ofExcept (do (← storage.getOr "Drives" (.list [])).members)
  refs.foldlM (fun acc ref => do
    if ← Act.ofExcept (ref.contains (.str "@odata.id")) then
      pure (acc ++ [← c.get (← Act.ofExcept (ref.field "@odata.id"))])
    else pure acc) []

/-- The volumes of a storage controller. -/
def Client.volumes (c : Client) (storageUri : Value) : Act (List Value) :=
  c.members (.str s!"{storageUri.display}/Volumes")

/-- The apply times a storage controller's volume collection advertises. -/
def Client.supportedApplyTimes (c : Client) (storageUri : Value) : Act (List Value) := do
  let volumes ← c.get (.str s!"{storageUri.display}/Volumes")
  Act.ofExcept do
    let support ← volumes.getOr "@Redfish.OperationApplyTimeSupport" (.dict [])
    (← support.getOr "SupportedValues" (.list [])).members

/-- The digits of the first run of decimal digits directly followed by `G`; `run` holds the
digits read since the last other character. -/
def generationDigits (run : List Char) : List Char → Option (List Char)
  | [] => none
  | c :: rest =>
      if isDecimalDigit c then generationDigits (run ++ [c]) rest
      else if c == 'G' && !run.isEmpty then some run
      else generationDigits [] rest

/-- The server generation named in a manager model, such as `14` for `14G Monolithic`. -/
def generationOf (model : Value) : Except Failure Value := do
  let text ← match model with
    | .str s => pure s
    | _ => throw (.mistyped (.patternArgument model.kind))
  match generationDigits [] text.toList with
  | some ds =>
      match Number.readWhole (String.ofList ds) with
      | .error (.tooLong count) => throw (.invalid (.tooManyDigits count))
      | r => pure (.int (r.toOption.getD 0))
  | none => pure .null

/-- The generation of the server, from the model of its first manager; `null` when there
is no manager or the model names no generation. -/
def Client.serverGeneration (c : Client) : Act Value := do
  let managers ← c.get (.str s!"{serviceRoot}/Managers")
  let members ← Act.ofExcept (managers.getOr "Members" (.list []))
  if !members.truthy then return .null
  let first ← Act.ofExcept (members.item 0)
  let manager ← c.get (← Act.ofExcept (first.field "@odata.id"))
  let model ← Act.ofExcept (manager.getOr "Model" (.str ""))
  Act.ofExcept (generationOf (if model.truthy then model else .str ""))

/-- Whether the server is of generation 17 or later; those take the drives of a new volume
under `Links`. -/
def Client.seventeenOrLater (c : Client) : Act Bool := do
  match ← c.serverGeneration with
  | .null => pure false
  | g => Act.ofExcept (atMost (.int 17) g)

/-- One observation of a task: its state, percentage and message. -/
def Client.taskStatus (c : Client) (jobRef : Value) : Act Value := do
  let r ← c.send .get jobRef
  if r.status != 200 && r.status != 202 then
    Act.fail (← requestFailure s!"Failed to check job status: {r.status}" r jobRef)
  let data ← Act.ofExcept r.json
  Act.ofExcept do
    let message ← data.getOr "Message"
    let messages ← data.getOr "Messages"
    let message ← if !message.truthy && messages.truthy then
        (← messages.item 0).getOr "Message"
      else pure message
    let taskState ← data.getOr "TaskState"
    let state ← if taskState.truthy then pure taskState else data.getOr "JobState"
    let percent ← data.getOr "PercentComplete"
    pure (.dict [("state", state), ("percent_complete", percent), ("message", message)])

/-- The power state a system reports. -/
def Client.powerState (c : Client) (systemUri : Value) : Act Value := do
  let system ← c.get systemUri
  Act.ofExcept (system.getOr "PowerState")

/-- Issue a reset of `resetType` through the system's reset action (its advertised target,
or the conventional one below the system's URI). -/
def Client.reset (c : Client) (systemUri resetType : Value) : Act Unit := do
  let system ← c.get systemUri
  let target ← Act.ofExcept do
    let actions ← system.getOr "Actions" (.dict [])
    let action ← actions.getOr "#ComputerSystem.Reset" (.dict [])
    action.getOr "target"
  let target := if target.truthy then target
    else .str s!"{systemUri.display}/Actions/ComputerSystem.Reset"
  let r ← c.post target (.dict [("ResetType", resetType)])
  if r.status != 200 && r.status != 202 && r.status != 204 then
    Act.fail (← requestFailure s!"Failed to reset system: {r.status}" r target)

end VolumeLifecycle.Redfish
