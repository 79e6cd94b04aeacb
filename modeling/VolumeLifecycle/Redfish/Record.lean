import VolumeLifecycle.Redfish.Controller
/-!
# Controller records

A scripted controller written down as a JSON document, so that the lifecycle can run
against a controller recorded in a file. The document is a mapping; every part is optional:

* `resources` — a mapping from path to the body a read of that path answers;
* `get_sequences` — a mapping from path to a list of answers, one per read;
* `mutations` — a mapping from `"METHOD path"` to a list of answers, one per change;
* `default_mutation` — the answer to a change no script covers (by default accepted with
  status 202 and a task in `Location`);
* `reset_response` — the answer to a reset no script covers (by default status 204);
* `power` — the modelled system: its `path`, its power `state` (by default `On`) and, in
  `after_reset`, what each read after a reset takes: a power state, or a whole answer;
* `fail_gets` — an answer every read fails with.

An **answer** is a mapping: `status` (default 200), `body` (default `{}`), `text` (raw body
text that replaces `body`), `headers`, `raise` (the kind of a transport failure raised
instead of answering, with its `message`) and `effects`. An effect is a mapping whose `op`
is `put` (with `path` and `body`), `delete` (with `path`), `merge` (with `path` and
`fields`), `add_member` or `remove_member` (with `path` and `member`); effects of any other
`op` are left out.

Parts of the wrong kind count as absent: a status that is not a whole number is 200, a list
or mapping that is not one is empty.
-/

namespace VolumeLifecycle.Redfish

open VolumeLifecycle.Value

/-- The part `key` of a record, if the record is a mapping that has it. -/
def recordPart (record : Value) (key : String) : Option Value :=
  match record with
  | .dict es => lookup es key
  | _ => none

/-- The part `key` of a record, or `fallback`. -/
def recordPartD (record : Value) (key : String) (fallback : Value := .null) : Value :=
  (recordPart record key).getD fallback

/-- The entries of a record part that is a mapping. -/
def recordEntries : Value → List (String × Value)
  | .dict es => es
  | _ => []

/-- The items of a record part that is a list. -/
def recordItems : Value → List Value
  | .list xs => xs
  | _ => []

/-- The text of a record part that is a text, or the empty text. -/
def recordText : Value → String
  | .str s => s
  | _ => ""

/-- An effect from its record. -/
def Effect.ofRecord (v : Value) : Option Effect :=
  let path := recordText (recordPartD v "path")
  match recordPartD v "op" with
  | .str "put" => some (.put path (recordPartD v "body"))
  | .str "delete" => some (.remove path)
  | .str "merge" => some (.merge path (recordPartD v "fields" (.dict [])))
  | .str "add_member" => some (.addMember path (recordPartD v "member"))
  | .str "remove_member" => some (.removeMember path (recordPartD v "member"))
  | _ => none

/-- An answer from its record. -/
def Reply.ofRecord (v : Value) : Reply :=
  { status := match recordPartD v "status" with
      | .int n => n
      | _ => 200
    body := recordPartD v "body" (.dict [])
    text := match recordPart v "text" with
      | some (.str s) => some s
      | _ => none
    headers := recordEntries (recordPartD v "headers" (.dict []))
    failure := match recordPart v "raise" with
      | some (.str kind) => some (kind, (recordPartD v "message" (.str "")).display)
      | _ => none
    effects := (recordItems (recordPartD v "effects" (.list []))).filterMap Effect.ofRecord }

/-- Scripts of answers from their record: a mapping from key to a list of answers. -/
def scriptsOfRecord (v : Value) : List (String × List Reply) :=
  (recordEntries v).map fun (k, rs) => (k, (recordItems rs).map Reply.ofRecord)

/-- The modelled power from its record, when the record is a mapping. -/
def Power.ofRecord (v : Value) : Option Power :=
  match v with
  | .dict _ =>
      some { path := recordText (recordPartD v "path"),
             state := recordPartD v "state" (.str "On"),
             afterReset := (recordItems (recordPartD v "after_reset" (.list []))).map fun s =>
               match s with
               | .dict _ => .reply (Reply.ofRecord s)
               | _ => .state s }
  | _ => none

/-- An answer given by a record part that is a mapping. -/
def replyPart (record : Value) (key : String) : Option Reply :=
  match recordPart record key with
  | some (.dict es) => some (Reply.ofRecord (.dict es))
  | _ => none

/-- A controller from its record, with nothing received yet. -/
def Controller.ofRecord (record : Value) : Controller :=
  { resources := recordEntries (recordPartD record "resources" (.dict []))
    readScripts := scriptsOfRecord (recordPartD record "get_sequences" (.dict []))
    changeScripts := scriptsOfRecord (recordPartD record "mutations" (.dict []))
    defaultChange := (replyPart record "default_mutation").getD Reply.accepted
    resetReply := (replyPart record "reset_response").getD Reply.noContent
    power := Power.ofRecord (recordPartD record "power")
    failReads := replyPart record "fail_gets" }

end VolumeLifecycle.Redfish
