import VolumeLifecycle.Yaml.Node
import VolumeLifecycle.Yaml.Timestamp
import VolumeLifecycle.Text.Base64
import VolumeLifecycle.Text.Lowercase
import VolumeLifecycle.Number.Read
import VolumeLifecycle.Document.Display
/-!
# Building values from nodes

Each tag of the core schema has a builder: `null`, `bool`, `int`, `float`, `binary` (base64
bytes), `timestamp` and `str` read a scalar's text, `seq` makes a list, `map` a mapping,
`set` the set of a mapping's keys, and `omap` and `pairs` a list of key-value pairs from a
sequence of one-pair mappings. Any other tag is an error.

**Order of errors.** A collection is built in two steps: when it is met, only its tag is
checked (a scalar, by contrast, is built at once); its contents are built later, after every
collection met before it, level by level. So of two faults the one at a shallower level is
reported, and at one level the earlier one. `check` walks the nodes in exactly that order,
and `build` makes the value once nothing is wrong.

**Mappings.** Merge keys `<<` are replaced by the pairs of the mapping (or mappings, the
later ones first) they name, which come before the mapping's own pairs; a key of the
`value` type `=` becomes the text `=`. A key that is a collection cannot be a key. Keys that
are equal as values (`1`, `1.0` and `true` among them) are one key: it keeps its first
place and its last value. The keys of the finished mapping are their display texts, and
keys of one text are one entry.

**NaN.** Every `.nan` of a document is one and the same double, so a set holds it once;
any other NaN (`!!float nan`) is a double of its own node, and so is a member apart.

**Collections that hold themselves.** A `cyclic` node is built by unrolling: its body is
built with the back references standing for the previous round's value, starting from the
empty collection, `cycleRounds` times (twice inside another cyclic body, whose own rounds
already nest it). The result is nested deeper than any writer of values goes. A mapping
that merges a collection it is inside merges that collection's value of the previous round;
merging itself adds nothing to its own pairs.
-/

namespace VolumeLifecycle.Yaml

open VolumeLifecycle.Text VolumeLifecycle.Number

/-- The builders of the core tags. -/
inductive Builder where
  | null
  | bool
  | int
  | float
  | binary
  | timestamp
  | omap
  | pairs
  | set
  | str
  | seq
  | map
  deriving DecidableEq

/-- The builder of a tag, if it has one. -/
def Builder.ofTag (tag : String) : Option Builder :=
  ([("null", Builder.null), ("bool", .bool), ("int", .int), ("float", .float),
    ("binary", .binary), ("timestamp", .timestamp), ("omap", .omap), ("pairs", .pairs),
    ("set", .set), ("str", .str), ("seq", .seq), ("map", .map)].find?
      (fun e => coreTag e.1 == tag)).map (·.2)

/-- Whether a builder makes a collection (whose contents are built later). -/
def Builder.isCollection : Builder → Bool
  | .omap | .pairs | .set | .seq | .map => true
  | _ => false

/-- An error of building, without context. -/
def buildError (problem : String) (m : Mark) : Error := .marked none none problem m

/-- An error of building a mapping that starts at `start`. -/
def mappingError (start : Mark) (problem : String) (m : Mark) : Error :=
  .marked (some "while constructing a mapping") (some start) problem m

/-! ### Scalars -/

/-- The text of a scalar node. -/
def scalarText (n : Node) : Except Error String :=
  match n with
  | .scalar _ t _ => pure t
  | _ => throw (buildError s!"expected a scalar node, but found {n.id}" n.start)

/-- The error of indexing an empty text. -/
def emptyIndex : Error := .raised "IndexError" "string index out of range"

/-- A whole number in `base`, or the error of a text that is not one. -/
def wholeIn (base : Nat) (s : String) : Except Error Int :=
  let read := if base == 10 then readWhole s else (readIntBase? s base).elim (.error .malformed) .ok
  match read with
  | .ok n => pure n
  | .error (.tooLong count) => throw (.raised "ValueError" (tooManyDigitsText count))
  | .error .malformed =>
      let shownText := quote s
      throw (.raised "ValueError" s!"invalid literal for int() with base {base}: {shownText}")

/-- A number from its base-60 parts, the last part the units. -/
def sexagesimal {α : Type} [Add α] [Mul α] (fromNat : Nat → α) (zero : α) (parts : List α) : α :=
  (parts.reverse.foldl (fun (acc, base) d => (acc + d * fromNat base, base * 60)) (zero, 1)).1

/-- An integer scalar: underscores dropped, an optional sign, then `0`, binary `0b…`,
hexadecimal `0x…`, octal `0…`, sexagesimal `…:…` or decimal. -/
def intValue (text : String) : Except Error Value := do
  let cs := text.toList.filter (· != '_')
  let some first := cs.head? | throw emptyIndex
  let sign : Int := if first == '-' then -1 else 1
  let cs := if first == '+' || first == '-' then cs.drop 1 else cs
  let s := String.ofList cs
  if s == "0" then return .int 0
  if s.startsWith "0b" then return .int (sign * (← wholeIn 2 (String.ofList (cs.drop 2))))
  if s.startsWith "0x" then return .int (sign * (← wholeIn 16 (String.ofList (cs.drop 2))))
  let some head := cs.head? | throw emptyIndex
  if head == '0' then return .int (sign * (← wholeIn 8 s))
  if cs.contains ':' then
    let parts ← (s.splitOn ":").mapM (wholeIn 10)
    return .int (sign * sexagesimal (fun n => (n : Int)) 0 parts)
  pure (.int (sign * (← wholeIn 10 s)))

/-- A double, or the error of a text that is not one. -/
def realOfText (s : String) : Except Error Float :=
  match readFloat? s with
  | some x => pure x
  | none => throw (.raised "ValueError" ("could not convert string to float: " ++ quote s))

/-- The text of a float scalar in lower case without underscores and without its sign. -/
def floatWord (text : String) : String :=
  let cs := (lower text).toList.filter (· != '_')
  String.ofList (match cs with
    | '+' :: rest | '-' :: rest => rest
    | _ => cs)

/-- A float scalar: underscores dropped, lower case, an optional sign, then `.inf`, `.nan`,
sexagesimal `…:…` or a decimal. -/
def floatValue (text : String) : Except Error Value := do
  let cs := (lower text).toList.filter (· != '_')
  let some first := cs.head? | throw emptyIndex
  let negative := first == '-'
  let cs := if first == '+' || first == '-' then cs.drop 1 else cs
  let s := String.ofList cs
  let signed (x : Float) : Value := .float (if negative then -x else x)
  if s == ".inf" then return signed (signedInfinity false)
  if s == ".nan" then return .float quietNaN
  if cs.contains ':' then
    let parts ← (s.splitOn ":").mapM realOfText
    return signed (sexagesimal Float.ofNat 0.0 parts)
  pure (signed (← realOfText s))

/-- A boolean scalar. -/
def boolValue (text : String) : Except Error Value :=
  let low := lower text
  if low == "yes" || low == "true" || low == "on" then pure (.bool true)
  else if low == "no" || low == "false" || low == "off" then pure (.bool false)
  else throw (.raised "KeyError" (quote low))

/-- The escape a character outside ASCII is shown with. -/
def asciiEscape (c : Char) : String :=
  let n := c.toNat
  if let some code := surrogateOf? c then "\\u" ++ hexPadded 4 code
  else if n ≤ 0xFF then "\\x" ++ hexPadded 2 n
  else if n ≤ 0xFFFF then "\\u" ++ hexPadded 4 n
  else "\\U" ++ hexPadded 8 n

/-- Why a text cannot be encoded as ASCII: its first run of characters outside ASCII. -/
def asciiProblem (s : String) : Option String :=
  let cs := s.toList
  match cs.findIdx? (·.toNat ≥ 128) with
  | none => none
  | some i =>
      let run := (cs.drop i).takeWhile (·.toNat ≥ 128)
      let reason := "ordinal not in range(128)"
      if run.length == 1 then
        let shownChar := asciiEscape (run.headD ' ')
        some s!"'ascii' codec can't encode character '{shownChar}' in position {i}: {reason}"
      else
        some s!"'ascii' codec can't encode characters in position {i}-{i + run.length - 1}: {reason}"

/-- A binary scalar: base64 text, which must be ASCII. -/
def binaryValue (n : Node) (text : String) : Except Error Value :=
  match asciiProblem text with
  | some reason => throw (buildError ("failed to convert base64 data into ascii: " ++ reason) n.start)
  | none =>
      match decodeBase64 text with
      | .ok bs => pure (.bytes bs)
      | .error reason => throw (buildError ("failed to decode base64 data: " ++ reason) n.start)

/-- A timestamp scalar. -/
def timestampValue (text : String) : Except Error Value :=
  match readStamp text with
  | some s => s.value
  | none => throw (.raised "AttributeError" "'NoneType' object has no attribute 'groupdict'")

/-- Build a scalar with a scalar builder. -/
def scalarValue (b : Builder) (n : Node) : Except Error Value := do
  let text ← scalarText n
  match b with
  | .null => pure .null
  | .bool => boolValue text
  | .int => intValue text
  | .float => floatValue text
  | .binary => binaryValue n text
  | .timestamp => timestampValue text
  | _ => pure (.str text)

/-! ### Mappings -/

/-- The node with another tag. -/
def Node.retag (n : Node) (tag : String) : Node :=
  match n with
  | .scalar _ t m => .scalar tag t m
  | .sequence _ xs m => .sequence tag xs m
  | .mapping _ ps m => .mapping tag ps m
  | other => other

mutual
/-- The node with every back reference to `name` replaced by `whole`. -/
def Node.unfold : Node → String → Node → Node
  | .back a t isMapping m, name, whole => if a == name then whole else .back a t isMapping m
  | .sequence t xs m, name, whole => .sequence t (Node.unfoldItems xs name whole) m
  | .mapping t ps m, name, whole => .mapping t (Node.unfoldPairs ps name whole) m
  | .cyclic a body, name, whole => .cyclic a (if a == name then body else body.unfold name whole)
  | .scalar t s m, _, _ => .scalar t s m

/-- `Node.unfold` on every item. -/
def Node.unfoldItems : List Node → String → Node → List Node
  | [], _, _ => []
  | x :: xs, name, whole => x.unfold name whole :: Node.unfoldItems xs name whole

/-- `Node.unfold` on both sides of every pair. -/
def Node.unfoldPairs : List (Node × Node) → String → Node → List (Node × Node)
  | [], _, _ => []
  | (k, v) :: ps, name, whole =>
      (k.unfold name whole, v.unfold name whole) :: Node.unfoldPairs ps name whole
end

/-- A collection node as it stands where it is merged or walked: a cyclic node is its body
with its back references standing for the whole node again. -/
def Node.opened : Node → Node
  | .cyclic a body => body.unfold a (.cyclic a body)
  | n => n

/-- A pair of a mapping after merging: a pair of nodes, or an entry of a value already built
(from merging a collection that the mapping is inside). -/
inductive Entry where
  | nodes (k v : Node)
  | built (k : String) (v : Value)

/-- The entries that merging a collection the mapping is inside brings: the entries of its
value in `env`, or of each mapping in it when it is a list, the later ones first. -/
def backEntries (env : List (String × Value)) (name : String) : List Entry :=
  let entries : Value → List Entry
    | .dict es => es.map fun (k, v) => .built k v
    | _ => []
  match Value.lookup env name with
  | some (.list items) => (items.reverse.map entries).flatten
  | some v => entries v
  | none => []

/-- The pairs of a mapping starting at `start` with its merge keys replaced by the pairs they
merge, in front, and its value keys read as texts. A merge of a collection the mapping is
inside takes that collection's value in `env`. -/
def flatten (env : List (String × Value)) : Nat → Mark → List (Node × Node) →
    Except Error (List Entry)
  | 0, _, pairs => pure (pairs.map fun (k, v) => .nodes k v)
  | fuel + 1, start, pairs => do
      let (merged, own) ← pairs.foldlM (fun (merged, own) (k, v) => do
        if k.tag == coreTag "merge" then
          match v.opened with
          | .mapping _ sub s => pure (merged ++ (← flatten env fuel s sub), own)
          | .sequence _ items _ =>
              let parts ← items.mapM fun sub => do
                match sub.opened with
                | .mapping _ subPairs s => flatten env fuel s subPairs
                | .back name _ true _ => pure (backEntries env name)
                | _ =>
                    throw (mappingError start
                      s!"expected a mapping for merging, but found {sub.id}" sub.start)
              pure (merged ++ parts.reverse.flatten, own)
          | .back name _ _ _ => pure (merged ++ backEntries env name, own)
          | _ =>
              throw (mappingError start
                s!"expected a mapping or list of mappings for merging, but found {v.id}" v.start)
        else if k.tag == coreTag "value" then
          pure (merged, .nodes (k.retag (coreTag "str")) v :: own)
        else pure (merged, .nodes k v :: own)) ([], [])
      pure (merged ++ own.reverse)

/-! ### The order of building -/

/-- Meet a node: a node without builder is an error, a scalar is built, and a collection is
returned to have its contents built later. A back reference names a collection met before. -/
def meet (n : Node) : Except Error (Option (Node × Builder)) :=
  match n with
  | .back .. => pure none
  | .cyclic _ body => meet body
  | _ =>
    match Builder.ofTag n.tag with
    | none =>
        let shownTag := quote n.tag
        throw (buildError s!"could not determine a constructor for the tag {shownTag}" n.start)
    | some b =>
        if b.isCollection then pure (some (n, b))
        else do
          discard (scalarValue b n)
          pure none

/-- Build the contents of a collection met earlier: the collections met among them. -/
def finish (fuel : Nat) (n : Node) (b : Builder) : Except Error (List (Node × Builder)) :=
  match b with
  | .seq =>
      match n with
      | .sequence _ items _ => items.filterMapM meet
      | _ => throw (buildError s!"expected a sequence node, but found {n.id}" n.start)
  | .map | .set =>
      match n with
      | .mapping _ pairs start => do
          let entries ← flatten [] fuel start pairs
          entries.foldlM (fun acc e => do
            match e with
            | .nodes k v =>
                if k.isCollection then
                  discard (meet k)
                  throw (mappingError start "found unhashable key" k.start)
                discard (meet k)
                pure (acc ++ (← meet v).toList)
            | .built .. => pure acc) []
      | _ => throw (buildError s!"expected a mapping node, but found {n.id}" n.start)
  | .omap | .pairs =>
      let context := if b == .omap then "while constructing an ordered map" else "while constructing pairs"
      match n with
      | .sequence _ items start =>
          items.foldlM (fun acc sub => do
            match sub with
            | .mapping _ [(k, v)] _ => pure (acc ++ (← meet k).toList ++ (← meet v).toList)
            | .mapping _ ps _ =>
                throw (.marked (some context) (some start)
                  s!"expected a single mapping item, but found {ps.length} items" sub.start)
            | _ =>
                throw (.marked (some context) (some start)
                  s!"expected a mapping of length 1, but found {sub.id}" sub.start)) []
      | _ =>
          throw (.marked (some context) (some n.start) s!"expected a sequence, but found {n.id}"
            n.start)
  | _ => pure []

/-- Build the contents of the collections of one level, then of the next. -/
def checkLevels (fuel : Nat) : Nat → List (Node × Builder) → Except Error Unit
  | 0, _ => pure ()
  | depth + 1, level =>
      if level.isEmpty then pure ()
      else do
        let next ← level.foldlM (fun acc (n, b) => do pure (acc ++ (← finish fuel n b))) []
        checkLevels fuel depth next

/-- Find the first fault of building a document, in the order building meets them. -/
def check (fuel : Nat) (root : Node) : Except Error Unit := do
  match ← meet root with
  | some nb => checkLevels fuel fuel [nb]
  | none => pure ()

/-! ### Values -/

/-- A key as building compares it: its value, and for a NaN the identity of its double. -/
structure Key where
  value : Value
  nan : Option Nat

/-- The key a node's value makes: every `.nan` is the one shared double (identity 0), any
other NaN is the double of its own node. -/
def Key.of (n : Node) (v : Value) : Key :=
  match v with
  | .float x =>
      if x.isNaN then
        match n with
        | .scalar _ t m => ⟨v, some (if floatWord t == ".nan" then 0 else m.index + 1)⟩
        | _ => ⟨v, some (n.start.index + 1)⟩
      else ⟨v, none⟩
  | _ => ⟨v, none⟩

/-- The text two keys share exactly when they are one key: NaN doubles by identity, other
keys by equality. -/
def Key.canon (k : Key) : String :=
  match k.nan with
  | some i => "nan" ++ toString i
  | none => k.value.keyCanon

/-- How many rounds a cyclic node is unrolled. -/
def cycleRounds : Nat := 500

/-- The empty value of a collection node's kind, where the unrolling of a cycle starts. -/
def emptyOf (n : Node) : Value :=
  match Builder.ofTag n.tag with
  | some .map => .dict []
  | some .set => .set []
  | _ => .list []

mutual
/-- Build the value of a node; `env` gives the values that back references stand for, and
`rounds` how often a cyclic node is unrolled. -/
def build (env : List (String × Value)) (rounds : Nat) : Nat → Node → Except Error Value
  | 0, _ => throw (.raised "RecursionError" "maximum recursion depth exceeded")
  | fuel + 1, n =>
      match n with
      | .back name .. => pure ((Value.lookup env name).getD .null)
      | .cyclic name body =>
          (List.range rounds).foldlM (fun v _ => build ((name, v) :: env) 2 fuel body)
            (emptyOf body)
      | _ => do
          let some b := Builder.ofTag n.tag
            | let shownTag := quote n.tag
              throw (buildError s!"could not determine a constructor for the tag {shownTag}" n.start)
          match b, n with
          | .seq, .sequence _ items _ => .list <$> items.mapM (build env rounds fuel)
          | .map, .mapping _ pairs start => do
              let es ← keyedPairs env rounds fuel start pairs
              pure (.dict (Value.collapse (es.map fun (k, v) => (k.value.keyText, v))))
          | .set, .mapping _ pairs start => do
              let es ← keyedPairs env rounds fuel start pairs
              pure (.set (es.map (·.1.value)))
          | .omap, .sequence _ items _ | .pairs, .sequence _ items _ =>
              .list <$> items.mapM fun sub => do
                match sub with
                | .mapping _ [(k, v)] _ =>
                    pure (.list [← build env rounds fuel k, ← build env rounds fuel v])
                | _ => pure .null
          | b, n =>
              if b.isCollection then throw (buildError s!"expected a {n.id} node" n.start)
              else scalarValue b n

/-- The pairs of a mapping starting at `start`, merged and built, equal keys made one: the
first key at its place, with the last value. -/
def keyedPairs (env : List (String × Value)) (rounds : Nat) :
    Nat → Mark → List (Node × Node) → Except Error (List (Key × Value))
  | 0, _, _ => throw (.raised "RecursionError" "maximum recursion depth exceeded")
  | fuel + 1, start, pairs => do
      let entries ← flatten env fuel start pairs
      let built ← entries.mapM fun e => do
        match e with
        | .nodes k v =>
            let key ← build env rounds fuel k
            pure (Key.of k key, ← build env rounds fuel v)
        | .built k v => pure (⟨.str k, none⟩, v)
      pure (Value.collapseBy Key.canon built)
end

/-- The value of a document's root node, once `check` finds nothing wrong. -/
def construct (root : Node) (fuel : Nat) : Except Error Value := do
  check fuel root
  build [] cycleRounds fuel root

end VolumeLifecycle.Yaml
