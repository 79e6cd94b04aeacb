import VolumeLifecycle.Redfish.Response
/-!
# A scripted controller

A management controller whose answers are written down in advance, for running the
lifecycle without hardware. It holds resources by path, scripted answers for reads and for
changes, and the power state of one system; it records every request it receives.

**Reads** of a path are answered by the first rule that applies:

1. the answer every read fails with, when one is set;
2. the next scripted answer for that path;
3. for the system whose power is modelled, its resource with `PowerState` set to the
   current power state — after a reset, each read first takes the next scripted power
   step, which is either a new power state or a whole answer;
4. the resource at that path;
5. a not-found answer whose extended info names the path.

**Changes** (`POST`, `PATCH`, `DELETE`) take the next scripted answer for the method and
path, else for a reset action the reset answer, else the default answer. A `POST` to a reset
action marks the system as reset and records the reset type it asks for, whichever answer
follows.

A scripted list of answers gives one answer per request and repeats its last one. An answer
may instead be a transport failure, and may change the resources; the changes are made after
the response is built, or before the failure is raised. A raw text that holds a lone
surrogate has no UTF-8 bytes, so its response cannot be built: that is a failure of its own,
and the changes are not made.
-/

namespace VolumeLifecycle.Redfish

open VolumeLifecycle.Value

/-- The HTTP methods the lifecycle uses. -/
inductive Method where
  | get
  | post
  | patch
  | delete
  deriving DecidableEq

/-- The method as HTTP writes it. -/
def Method.name : Method → String
  | .get => "GET"
  | .post => "POST"
  | .patch => "PATCH"
  | .delete => "DELETE"

/-- A change a scripted answer makes to the resources. -/
inductive Effect where
  /-- Store a body at a path. -/
  | put (path : String) (body : Value)
  /-- Remove the resource at a path. -/
  | remove (path : String)
  /-- Write the given fields over the resource at a path. -/
  | merge (path : String) (fields : Value)
  /-- Append a reference to `Members` of the collection at a path. -/
  | addMember (path : String) (member : Value)
  /-- Drop every reference to `member` from `Members` of the collection at a path. -/
  | removeMember (path : String) (member : Value)

/-- A scripted answer. -/
structure Reply where
  status : Int := 200
  body : Value := .dict []
  /-- Raw text that replaces the JSON text of `body`. -/
  text : Option String := none
  headers : List (String × Value) := []
  /-- A transport failure raised instead of answering: its kind and message. -/
  failure : Option (String × String) := none
  effects : List Effect := []

/-- The response an answer gives; its body text is the JSON text of `body` unless raw text
is given, which must have a UTF-8 form. -/
def Reply.response (r : Reply) : Except Failure Response := do
  if let some message := r.text.bind Text.utf8Problem then
    throw (.raisedBy "UnicodeEncodeError" message)
  pure { status := r.status, headers := headersOf r.headers,
         text := r.text.getD (Json.Style.standard.write r.body) }

/-- One step of the power script after a reset. -/
inductive PowerStep where
  /-- The system reports a new power state. -/
  | state (s : Value)
  /-- The read is answered by this reply instead. -/
  | reply (r : Reply)

/-- The power of the modelled system. -/
structure Power where
  path : String
  state : Value
  afterReset : List PowerStep

/-- A request as the controller received it: method, path and JSON payload (`null` for
reads and deletions). -/
structure Call where
  method : Method
  path : String
  payload : Value

/-- The call as a document `[method, path, payload]`. -/
def Call.toValue (c : Call) : Value := .list [.str c.method.name, .str c.path, c.payload]

/-- A scripted controller and what it has received. -/
structure Controller where
  resources : List (String × Value)
  readScripts : List (String × List Reply)
  changeScripts : List (String × List Reply)
  defaultChange : Reply
  resetReply : Reply
  power : Option Power
  failReads : Option Reply
  resetIssued : Bool := false
  calls : Array Call := #[]
  resetTypes : Array Value := #[]

/-- The answer to a change that no script covers: accepted, with a task in `Location`. -/
def Reply.accepted : Reply :=
  { status := 202, headers := [("Location", .str "/redfish/v1/TaskService/Tasks/J1")] }

/-- The answer to a reset that no script covers. -/
def Reply.noContent : Reply := { status := 204 }

/-- The next answer of a script and the script after it: the last answer stays. -/
def nextScripted (scripts : List (String × List Reply)) (key : String) :
    Option (Reply × List (String × List Reply)) :=
  match lookup scripts key with
  | some [r] => some (r, scripts)
  | some (r :: rest) => some (r, insert scripts key rest)
  | _ => none

/-- The references of a collection, or none when it has no list of them. -/
def memberList (collection : Value) : List Value :=
  match collection with
  | .dict es => match lookup es "Members" with
    | some (.list ms) => ms
    | _ => []
  | _ => []

/-- The entries of a resource that is a mapping, none otherwise. -/
def entriesOf : Value → List (String × Value)
  | .dict es => es
  | _ => []

/-- Apply one effect to the resources. -/
def Effect.apply (rs : List (String × Value)) : Effect → List (String × Value)
  | .put p b => insert rs p b
  | .remove p => erase rs p
  | .merge p fields =>
      insert rs p (.dict (update (entriesOf ((lookup rs p).getD (.dict []))) (entriesOf fields)))
  | .addMember p m =>
      let c := entriesOf ((lookup rs p).getD (.dict []))
      let ms := memberList (.dict c) ++ [.dict [("@odata.id", m)]]
      insert rs p (.dict (insert c "Members" (.list ms)))
  | .removeMember p m =>
      let c := entriesOf ((lookup rs p).getD (.dict []))
      let keep (r : Value) : Bool := !(same (lookup (entriesOf r) "@odata.id" |>.getD .null) m)
      insert rs p (.dict (insert c "Members" (.list ((memberList (.dict c)).filter keep))))

/-- The controller after an answer's effects. -/
def Controller.applyEffects (c : Controller) (effects : List Effect) : Controller :=
  { c with resources := effects.foldl Effect.apply c.resources }

/-- What an answer delivers: its response, or its transport failure; the effects are made
either way, unless the response cannot be built. -/
def Controller.deliver (c : Controller) (r : Reply) : Except Failure Response × Controller :=
  match r.failure with
  | some (cls, message) => (.error (.transport cls message), c.applyEffects r.effects)
  | none =>
      match r.response with
      | .ok response => (.ok response, c.applyEffects r.effects)
      | .error f => (.error f, c)

/-- The answer for a path no resource lives at. -/
def notFound (path : String) : Reply :=
  { status := 404,
    body := .dict [("error", .dict [("@Message.ExtendedInfo", .list [.dict
      [("Message", .str s!"The resource at {path} was not found."),
       ("Resolution", .str "Check the URI."),
       ("MessageId", .str "Base.1.12.ResourceNotFound")]])])] }

/-- The resource of the modelled system with its current power state. -/
def Controller.powerReply (c : Controller) (path : String) (state : Value) : Reply :=
  let body := entriesOf ((lookup c.resources path).getD (.dict []))
  { body := .dict (insert body "PowerState" state) }

/-- The stored resource at `path`, or not found. -/
def Controller.resourceReply (c : Controller) (path : String) : Reply :=
  match lookup c.resources path with
  | some b => { body := b }
  | none => notFound path

/-- The answer to a read of `path`, and the controller after it. -/
def Controller.read (c : Controller) (path : String) : Reply × Controller :=
  match c.failReads with
  | some r => (r, c)
  | none =>
    match nextScripted c.readScripts path with
    | some (r, scripts) => (r, { c with readScripts := scripts })
    | none =>
      match c.power with
      | some p =>
        if p.path == path then
          match c.resetIssued, p.afterReset with
          | true, .state s :: rest =>
              let c := { c with power := some { p with state := s, afterReset := rest } }
              (c.powerReply path s, c)
          | true, .reply r :: rest =>
              (r, { c with power := some { p with afterReset := rest } })
          | _, _ => (c.powerReply path p.state, c)
        else (c.resourceReply path, c)
      | none => (c.resourceReply path, c)

/-- Whether a path is the reset action of a system. -/
def isResetAction (path : String) : Bool := path.endsWith "ComputerSystem.Reset"

/-- The answer to a change, and the controller after it. -/
def Controller.change (c : Controller) (m : Method) (path : String) (payload : Value) :
    Reply × Controller :=
  let isReset := m == .post && isResetAction path
  let c := if isReset then
      { c with resetIssued := true,
               resetTypes := c.resetTypes.push ((lookup (entriesOf payload) "ResetType").getD .null) }
    else c
  match nextScripted c.changeScripts (m.name ++ " " ++ path) with
  | some (r, scripts) => (r, { c with changeScripts := scripts })
  | none => (if isReset then c.resetReply else c.defaultChange, c)

/-- Receive a request: record it, pick the answer and deliver it. -/
def Controller.receive (c : Controller) (m : Method) (path : String) (payload : Value) :
    Except Failure Response × Controller :=
  let call : Call := { method := m, path, payload }
  let c := { c with calls := c.calls.push call }
  let (r, c) := if m == .get then c.read path else c.change m path payload
  c.deliver r

end VolumeLifecycle.Redfish
