import VolumeLifecycle.Yaml.Token
/-!
# Events of YAML documents

The tokens of a document are read into a stream of events: the start and end of the stream, of each
document, of each sequence and mapping, and one event per scalar and per alias. A node's
anchor and tag ride on the event that starts it.

A scalar's event records whether its tag may be **resolved** from its text: a plain scalar
without a tag, and any scalar with the non-specific tag `!`, is resolved by the patterns of
the core types (`true`, `12`, `~`, …); every other scalar is a string unless its tag says
otherwise.
-/

namespace VolumeLifecycle.Yaml

/-- What an event is. -/
inductive EventKind where
  | streamStart
  | streamEnd
  | documentStart (explicit : Bool)
  | documentEnd (explicit : Bool)
  | alias (anchor : String)
  /-- A scalar: anchor, tag, whether its tag is resolved from its text, text and style. -/
  | scalar (anchor tag : Option String) (resolved : Bool) (text : String) (style : ScalarStyle)
  | sequenceStart (anchor tag : Option String)
  | sequenceEnd
  | mappingStart (anchor tag : Option String)
  | mappingEnd
  deriving Inhabited

/-- An event with the marks where it starts and ends. -/
structure Event where
  kind : EventKind
  start : Mark
  stop : Mark
  deriving Inhabited

/-- The anchor an event gives its node, if any. -/
def EventKind.anchor? : EventKind → Option String
  | .scalar a .. | .sequenceStart a _ | .mappingStart a _ => a
  | _ => none

/-- The empty scalar that stands for a missing node at a mark. -/
def Event.empty (m : Mark) : Event := ⟨.scalar none none true "" .plain, m, m⟩

end VolumeLifecycle.Yaml
