import VolumeLifecycle.Failure
import VolumeLifecycle.Json.Writer
import VolumeLifecycle.Text.Lowercase
/-!
# Controller responses

One answer of the controller: a status code, headers and a body text.

Header names are **case-insensitive**: a header is found under any spelling of its name, and
writing a name again under another spelling replaces the value and the spelling but keeps
the place of the first. The body is JSON text; reading it refuses text that is not JSON with
the reader's fault and position (`Failure.undecodable`).
-/

namespace VolumeLifecycle.Redfish

open VolumeLifecycle.Text

/-- A header: its name folded to lower case, its name as last written, and its value. -/
structure Header where
  key : String
  name : String
  value : Value

/-- One answer of the controller. -/
structure Response where
  status : Int
  headers : List Header
  text : String

/-- Headers from `(name, value)` pairs in order, later spellings of a name replacing
earlier ones in place. -/
def headersOf (pairs : List (String × Value)) : List Header :=
  pairs.foldl (fun hs (n, v) =>
    let k := lower n
    if hs.any (·.key == k) then hs.map fun h => if h.key == k then { key := k, name := n, value := v } else h
    else hs ++ [{ key := k, name := n, value := v }]) []

/-- The value of the header `name`, under any spelling. -/
def Response.header? (r : Response) (name : String) : Option Value :=
  let k := lower name
  (r.headers.find? (·.key == k)).map (·.value)

/-- The headers as a mapping from their names as written. -/
def Response.headerDocument (r : Response) : Value :=
  .dict (r.headers.map fun h => (h.name, h.value))

/-- The body read as JSON. -/
def Response.json (r : Response) : Except Failure Value :=
  match Json.parse r.text with
  | .ok v => .ok v
  | .error e => .error (Failure.ofRefusal e)

/-- The response as a document: status code, headers and text. -/
def Response.toValue (r : Response) : Value :=
  .dict [("status_code", .int r.status), ("headers", r.headerDocument), ("text", .str r.text)]

end VolumeLifecycle.Redfish
