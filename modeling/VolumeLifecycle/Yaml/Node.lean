import VolumeLifecycle.Yaml.Event.Stream
import VolumeLifecycle.Yaml.Tag
/-!
# Composing nodes

The events of a document are put together into a tree of **nodes**: scalars with their text,
sequences with their items, and mappings with their pairs in order, each with its tag
(resolved when it was not given) and the mark where it starts.

An anchor names the node it is on; a later alias stands for that node. An alias to an anchor
not yet seen is an error, and so is a second anchor of the same name within a document (the
error shows both places). An anchor on a collection is taken from the moment the collection
starts, so an anchor of the same name inside it is a duplicate. An alias inside the
collection it names makes the collection hold itself: the alias becomes a back reference,
and the finished collection a `cyclic` node binding the name over its body.

Nodes may be nested at most `nestingLimit` deep; a deeper node stops the composition.

A stream must hold at most one document.
-/

namespace VolumeLifecycle.Yaml

/-- A node of a document. -/
inductive Node where
  | scalar (tag : String) (text : String) (start : Mark)
  | sequence (tag : String) (items : List Node) (start : Mark)
  | mapping (tag : String) (pairs : List (Node × Node)) (start : Mark)
  /-- An alias inside the collection it names: the tag and start of that collection, and
  whether it is a mapping. -/
  | back (name : String) (tag : String) (isMapping : Bool) (start : Mark)
  /-- A collection that holds itself, where `back name` inside `body` stands for the whole. -/
  | cyclic (name : String) (body : Node)
  deriving Inhabited

/-- The tag of a node. -/
def Node.tag : Node → String
  | .scalar t .. | .sequence t .. | .mapping t .. | .back _ t .. => t
  | .cyclic _ body => body.tag

/-- The mark where a node starts. -/
def Node.start : Node → Mark
  | .scalar _ _ m | .sequence _ _ m | .mapping _ _ m | .back _ _ _ m => m
  | .cyclic _ body => body.start

/-- The kind of a node, as errors name it. -/
def Node.id : Node → String
  | .scalar .. => "scalar"
  | .sequence .. => "sequence"
  | .mapping .. => "mapping"
  | .back _ _ isMapping _ => if isMapping then "mapping" else "sequence"
  | .cyclic _ body => body.id

/-- Whether a node is a sequence or a mapping. -/
def Node.isCollection : Node → Bool
  | .scalar .. => false
  | .cyclic _ body => body.isCollection
  | _ => true

/-- The most nodes that may stand one inside the other. -/
def nestingLimit : Nat := 490

/-- What is known of an anchor: a collection still being composed (its tag, whether it is a
mapping, and whether an alias inside it has named it), or the finished node. -/
inductive Anchored where
  | composing (tag : String) (isMapping : Bool) (named : Bool)
  | done (n : Node)

/-- The state of composition: the events and the anchors seen in the current document, each
with the mark of its node. -/
structure Assembly where
  events : EventStream
  anchors : List (String × Mark × Anchored) := []

/-- A step of composition. -/
abbrev Assemble := StateT Assembly (Except Error)

namespace Assemble

/-- Run a step of the event stream. -/
def pull {α : Type} (x : Events α) : Assemble α := fun c => do
  let (a, p) ← StateT.run x c.events
  pure (a, { c with events := p })

/-- Stop with a syntax error. -/
def fail {α : Type} (context : Option String) (contextMark : Option Mark) (problem : String)
    (m : Mark) : Assemble α :=
  throw (.marked context contextMark problem m)

/-- The next event; the stream's end stands in after it. -/
def peek : Assemble Event := do
  match ← pull Events.peekEvent with
  | some e => pure e
  | none => pure ⟨.streamEnd, default, default⟩

/-- Take the next event. -/
def take : Assemble Event := do
  let e ← peek
  discard (pull Events.takeEvent)
  pure e

/-- Record what is known of an anchor's node. -/
def note (anchor : Option String) (m : Mark) (n : Anchored) : Assemble Unit :=
  match anchor with
  | some a => modify fun c =>
      { c with anchors := (a, m, n) :: c.anchors.filter (·.1 != a) }
  | none => pure ()

/-- Finish an anchored collection: one that an alias inside it named binds the anchor's
name over itself. -/
def close (anchor : Option String) (m : Mark) (n : Node) : Assemble Node := do
  let anchors := (← get).anchors
  let named := match anchor with
    | some a => match anchors.find? (·.1 == a) with
      | some (_, _, .composing _ _ named) => named
      | _ => false
    | none => false
  let n := match anchor, named with
    | some a, true => Node.cyclic a n
    | _, _ => n
  note anchor m (.done n)
  pure n

/-- The error of nodes nested past `nestingLimit`. -/
def tooDeep : Error :=
  .raised "RecursionError" "maximum recursion depth exceeded while calling a Python object"

/-- The tag of a collection: its own, or `fallback` when it has none or the non-specific one. -/
def collectionTag (tag : Option String) (fallback : String) : String :=
  match tag with
  | some t => if t == "!" then fallback else t
  | none => fallback

mutual
/-- Assemble the node the next events describe, standing inside `depth` others. -/
def node (depth : Nat) : Nat → Assemble Node
  | 0 => throw (.raised "RecursionError" "maximum recursion depth exceeded")
  | fuel + 1 => do
      if depth ≥ nestingLimit then throw tooDeep
      let e ← peek
      match e.kind with
      | .alias name => do
          discard take
          match (← get).anchors.find? (·.1 == name) with
          | some (_, _, .done n) => pure n
          | some (_, m, .composing tag isMapping _) =>
              note (some name) m (.composing tag isMapping true)
              pure (.back name tag isMapping m)
          | none => fail none none ("found undefined alias " ++ Text.quote name) e.start
      | kind => do
          if let some a := kind.anchor? then
            if let some (_, first, _) := (← get).anchors.find? (·.1 == a) then
              fail (some ("found duplicate anchor " ++ Text.quote a ++ "; first occurrence"))
                (some first) "second occurrence" e.start
          match kind with
          | .scalar anchor tag resolved text _ => do
              discard take
              let tag := match tag with
                | some t => if t == "!" then resolveScalar text resolved else t
                | none => resolveScalar text resolved
              let n := Node.scalar tag text e.start
              note anchor e.start (.done n)
              pure n
          | .sequenceStart anchor tag => do
              discard take
              let tag := collectionTag tag (coreTag "seq")
              note anchor e.start (.composing tag false false)
              let items ← items depth fuel []
              close anchor e.start (Node.sequence tag items e.start)
          | .mappingStart anchor tag => do
              discard take
              let tag := collectionTag tag (coreTag "map")
              note anchor e.start (.composing tag true false)
              let pairs ← pairs depth fuel []
              close anchor e.start (Node.mapping tag pairs e.start)
          | _ => fail none none "expected a node" e.start

/-- Assemble the items of a sequence standing inside `depth` nodes, up to its end. -/
def items (depth : Nat) : Nat → List Node → Assemble (List Node)
  | 0, _ => throw (.raised "RecursionError" "maximum recursion depth exceeded")
  | fuel + 1, acc => do
      if (← peek).kind matches .sequenceEnd then
        discard take
        pure acc.reverse
      else
        let n ← node (depth + 1) fuel
        items depth fuel (n :: acc)

/-- Assemble the pairs of a mapping standing inside `depth` nodes, up to its end. -/
def pairs (depth : Nat) : Nat → List (Node × Node) → Assemble (List (Node × Node))
  | 0, _ => throw (.raised "RecursionError" "maximum recursion depth exceeded")
  | fuel + 1, acc => do
      if (← peek).kind matches .mappingEnd then
        discard take
        pure acc.reverse
      else
        let k ← node (depth + 1) fuel
        let v ← node (depth + 1) fuel
        pairs depth fuel ((k, v) :: acc)
end

/-- Assemble a document: its start, its root node and its end. -/
def document : Assemble Node := do
  discard take
  let fuel := 4 * ((← get).events.tokens.text.size + 4)
  let n ← node 0 fuel
  discard take
  modify fun c => { c with anchors := [] }
  pure n

/-- Assemble the only document of a stream, if it has one. -/
def single : Assemble (Option Node) := do
  discard take
  let doc ← if (← peek).kind matches .streamEnd then pure none else some <$> document
  let e ← peek
  if !(e.kind matches .streamEnd) then
    discard take
    fail (some "expected a single document in the stream") (doc.map Node.start)
      "but found another document" e.start
  discard take
  pure doc

end Assemble

end VolumeLifecycle.Yaml
