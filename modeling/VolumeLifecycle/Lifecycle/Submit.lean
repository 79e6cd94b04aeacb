import VolumeLifecycle.Redfish.Client
import VolumeLifecycle.Volume.Request
/-!
# Submitting a change

A change is sent as **exactly one** mutating request, never retried, because sending a
hardware change twice is not safe. The controller accepts it with status 202 and names the
job that carries it out in the `Location` header; that job reference is the result.

Every way of not getting a job reference is a submission error of the processing stage:

* the request does not reach the controller (the transport failure is the detail);
* the status is not 202 (the response's readable message is the detail);
* the `Location` header is missing or empty.
-/

namespace VolumeLifecycle.Lifecycle

open VolumeLifecycle.Redfish VolumeLifecycle.Volume VolumeLifecycle.Value

/-- The three kinds of volume change. -/
inductive ChangeKind where
  | create
  | update
  | delete
  deriving DecidableEq

/-- The kind as messages name it. -/
def ChangeKind.name : ChangeKind → String
  | .create => "create"
  | .update => "update"
  | .delete => "delete"

/-- A submission error of the processing stage. -/
def submissionFailure (message : String) (detail : Value := .null) : Failure :=
  .raise .submission message (.str "process") detail

/-- Send one change and take the job reference from the accepted response. -/
def submit (c : Client) (kind : ChangeKind) (m : Method) (uri : Value) (payload : Value) :
    Act Value := do
  let r ← tryCatch (c.send m uri payload) fun f =>
    if f.isTransport then
      Act.fail (submissionFailure
        s!"Error while sending the volume {kind.name} request to {uri.display}" (.str f.message))
    else Act.fail f
  if r.status != 202 then
    let detail ← Act.ofExcept r.message
    Act.fail (submissionFailure
      s!"The volume {kind.name} request was not accepted. Return code {r.status} was different from 202 ACCEPTED"
      detail)
  let jobRef := (r.header? "Location").getD (.str "")
  if !jobRef.truthy then
    Act.fail (submissionFailure
      s!"No job reference returned for the accepted volume {kind.name} request")
  pure jobRef

/-- POST a new volume to the volume collection of `storageUri`. -/
def submitCreate (c : Client) (storageUri : Value) (r : CreateRequest) (drivesInLinks : Bool) :
    Act Value :=
  submit c .create .post (.str s!"{storageUri.display}/Volumes") (r.payload drivesInLinks)

/-- PATCH the settings resource of the volume. -/
def submitUpdate (c : Client) (r : UpdateRequest) : Act Value :=
  submit c .update .patch (.str s!"{r.volumeUri.display}/Settings") r.payload

/-- DELETE the volume. -/
def submitDelete (c : Client) (r : DeleteRequest) : Act Value :=
  submit c .delete .delete r.volumeUri .null

end VolumeLifecycle.Lifecycle
