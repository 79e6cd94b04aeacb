import VolumeLifecycle.Redfish.Response
import VolumeLifecycle.Document.Access
/-!
# Readable messages of failed responses

A failed response explains itself in one of a few places, tried in this order:

1. the first entry of `@Message.ExtendedInfo` in the body's `error` object (or in the body
   itself when it has no `error`): its `Message` (or, when that is empty, its `MessageId`),
   followed by its `Resolution` when there is one;
2. the `message` of that object;
3. the raw body text;
4. `HTTP <status>`.

A body that is not JSON, or not an object, goes straight to the raw text. The lookups are
those of a document of unknown shape, so an `error` that is not an object, or an extended
info that is not a list of objects, makes the extraction itself fail.
-/

namespace VolumeLifecycle.Redfish

open VolumeLifecycle.Value VolumeLifecycle.Text

/-- The raw text of a response, or its status when the text is empty. -/
def Response.fallbackText (r : Response) : Value :=
  .str (if r.text.isEmpty then s!"HTTP {r.status}" else r.text)

/-- The message of the first extended info entry. -/
def infoMessage (info : Value) : Except Failure Value := do
  let message ← info.getOr "Message"
  let message ← if message.truthy then pure message else info.getOr "MessageId" (.str "")
  let resolution ← info.getOr "Resolution"
  if resolution.truthy then
    pure (.str (trimBlank (message.display ++ " " ++ resolution.display)))
  else pure message

/-- The readable message of a failed response. -/
def Response.message (r : Response) : Except Failure Value := do
  let body ← match r.json with
    | .ok b => pure b
    | .error (.undecodable _) | .error (.invalid _) => return r.fallbackText
    | .error f => throw f
  let error ← match body with
    | .dict _ => body.getOr "error" body
    | _ => pure (.dict [])
  let extended ← error.getOr "@Message.ExtendedInfo"
  if extended.truthy then
    infoMessage (← extended.item 0)
  else
    let m ← error.getOr "message"
    pure (if m.truthy then m else r.fallbackText)

end VolumeLifecycle.Redfish
