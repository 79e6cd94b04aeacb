import VolumeLifecycle.Lock.Slot
import VolumeLifecycle.Document.Access
import VolumeLifecycle.Text.Blank
import VolumeLifecycle.Text.Lowercase
/-!
# The endpoint lock registry

Operations on one management controller are serialized: the registry maps each endpoint
key to its ticket slot, and operations on different keys never wait on each other.

The **key** of an endpoint address is its stable spelling: the address without surrounding
blanks and trailing slashes, with `https://` put in front unless it already starts with
`http://` or `https://` in any case, all in lower case. Every spelling of one controller so
shares one lock; a blank or missing address has no key.

A slot comes into being with the first acquisition of its key; asking whether a key is locked
does not create one.
-/

namespace VolumeLifecycle.Lock

open VolumeLifecycle.Text VolumeLifecycle.Value

/-- The key of an endpoint address. -/
def endpointKey (endpoint : Value) : Except Failure String := do
  if !endpoint.truthy then throw (.invalid .endpointIdentityRequired)
  let text ← match endpoint with
    | .str s => pure s
    | v => throw (.noAttribute v.kind "strip")
  let trimmed := trimBlank text
  if trimmed.isEmpty then throw (.invalid .endpointIdentityRequired)
  let key := trimRightChar trimmed '/'
  let lowered := lower key
  let key := if lowered.startsWith "http://" || lowered.startsWith "https://" then key
    else "https://" ++ key
  pure (lower key)

/-- The slots of every endpoint key acquired so far. -/
structure Registry where
  slots : List (String × Slot) := []

/-- The slot of a key, fresh when the key was never acquired. -/
def Registry.slot (r : Registry) (key : String) : Slot := (lookup r.slots key).getD {}

/-- The registry with the slot of `key` replaced. -/
def Registry.setSlot (r : Registry) (key : String) (s : Slot) : Registry :=
  { slots := insert r.slots key s }

/-- Whether any operation holds or waits for the endpoint. -/
def Registry.isLocked (r : Registry) (endpoint : Value) : Except Failure Bool := do
  let key ← endpointKey endpoint
  pure (((lookup r.slots key).map Slot.held).getD false)

/-- Take a ticket for the endpoint: its key, the ticket, and whether it is served at once. -/
def Registry.take (r : Registry) (endpoint : Value) :
    Except Failure (String × Nat × Bool × Registry) := do
  let key ← endpointKey endpoint
  let (ticket, s) := (r.slot key).take
  pure (key, ticket, s.serving == ticket, r.setSlot key s)

/-- Release the ticket being served on `key`. -/
def Registry.release (r : Registry) (key : String) : Registry :=
  r.setSlot key (r.slot key).advance

/-- Withdraw a waiting ticket on `key`. -/
def Registry.giveUp (r : Registry) (key : String) (ticket : Nat) : Registry :=
  r.setSlot key ((r.slot key).giveUp ticket)

end VolumeLifecycle.Lock
