import VolumeLifecycle.Yaml.Token.Stream
import VolumeLifecycle.Yaml.Event
/-!
# The stream of events

Events are made one at a time from the tokens, by a state machine: the current `Step` says
what the next event is read as, and a stack of pending steps says where to go back to when
a node is done. Each step reads a few tokens and gives one event; nothing here loops over
the document, so the only loops are the ones that skip repeated document-end markers and
read directives, and they run on the text's length.

The grammar errors name the collection being read (with the mark where it began) and the
token found instead of the one expected.

Tag handles are resolved here: `!` is the local handle and `!!` stands for
`tag:yaml.org,2002:`, unless a `%TAG` directive of the document says otherwise.
-/

namespace VolumeLifecycle.Yaml

/-- The states of the grammar: what the next event is read as. -/
inductive Step where
  | streamStart
  | implicitDocumentStart
  | documentStart
  | documentEnd
  | documentContent
  | blockNode
  | blockSequenceFirstEntry
  | blockSequenceEntry
  | indentlessSequenceEntry
  | blockMappingFirstKey
  | blockMappingKey
  | blockMappingValue
  | flowSequenceFirstEntry
  | flowSequenceEntry
  | flowSequenceEntryMappingKey
  | flowSequenceEntryMappingValue
  | flowSequenceEntryMappingEnd
  | flowMappingFirstKey
  | flowMappingKey
  | flowMappingValue
  | flowMappingEmptyValue
  deriving Inhabited

/-- The state of the event stream. -/
structure EventStream where
  tokens : TokenStream
  /-- The current step; none once the stream has ended. -/
  step : Option Step := some .streamStart
  /-- The steps to go back to, innermost first. -/
  pending : List Step := []
  /-- The marks where the open collections began, innermost first. -/
  marks : List Mark := []
  /-- The tag handles of the current document with their prefixes. -/
  handles : List (String × String) := []
  /-- An event read ahead and not yet taken. -/
  current : Option Event := none
  deriving Inhabited

/-- A step of the event stream. -/
abbrev Events := StateT EventStream (Except Error)

/-- The handles every document has unless it redefines them. -/
def defaultHandles : List (String × String) := [("!", "!"), ("!!", "tag:yaml.org,2002:")]

namespace Events

/-- Run a step of the token stream. -/
def lex {α : Type} (x : Lex α) : Events α := fun p => do
  let (a, s) ← x.run p.tokens
  pure (a, { p with tokens := s })

/-- The next token, not taken. -/
def peekToken : Events Token := lex Lex.peekToken

/-- Take the next token. -/
def takeToken : Events Token := lex Lex.takeToken

/-- Whether the next token is of one of the classes. -/
def nextIs (classes : List TokenClass) : Events Bool := lex (Lex.nextIs classes)

/-- Stop with a syntax error. -/
def fail {α : Type} (context : Option String) (contextMark : Option Mark) (problem : String)
    (m : Mark) : Events α :=
  throw (.marked context contextMark problem m)

/-- A budget no loop over the tokens can use up. -/
def budget : Events Nat := do
  pure ((← get).tokens.text.size + 2)

/-- Make `s` the next step. -/
def goTo (s : Step) : Events Unit := modify fun p => { p with step := some s }

/-- Come back to `s` when the node about to be read is done. -/
def push (s : Step) : Events Unit := modify fun p => { p with pending := s :: p.pending }

/-- Go back to the step waiting for the node just read. -/
def resume : Events Unit := modify fun p =>
  match p.pending with
  | s :: rest => { p with step := some s, pending := rest }
  | [] => { p with step := none }

/-- Remember where a collection began. -/
def openMark (m : Mark) : Events Unit := modify fun p => { p with marks := m :: p.marks }

/-- Forget where the innermost collection began. -/
def closeMark : Events Unit := modify fun p => { p with marks := p.marks.drop 1 }

/-- Where the innermost collection began. -/
def innerMark : Events Mark := do
  pure ((← get).marks.head?.getD default)

/-- The error of a token that is not what a collection expects. -/
def unexpected {α : Type} (context expected : String) : Events α := do
  let t ← peekToken
  fail (some context) (some (← innerMark)) (expected ++ Text.quote t.kind.id) t.start

/-! ### Nodes -/

/-- The name of an anchor or alias token. -/
def nameOf (t : Token) : String :=
  match t.kind with
  | .anchor n | .alias n => n
  | _ => ""

/-- The handle and suffix of a tag token. -/
def tagOf (t : Token) : Option String × String :=
  match t.kind with
  | .tag h s => (h, s)
  | _ => (none, "")

/-- Read a node's anchor and tag, in either order: the anchor, the tag with its handle and
suffix, the marks of the start and end of the properties and of the tag. -/
def properties :
    Events (Option String × Option (Option String × String) × Option (Mark × Mark) × Option Mark) := do
  if ← nextIs [.anchor] then
    let a ← takeToken
    if ← nextIs [.tag] then
      let t ← takeToken
      pure (some (nameOf a), some (tagOf t), some (a.start, t.stop), some t.start)
    else pure (some (nameOf a), none, some (a.start, a.stop), none)
  else if ← nextIs [.tag] then
    let t ← takeToken
    if ← nextIs [.anchor] then
      let a ← takeToken
      pure (some (nameOf a), some (tagOf t), some (t.start, a.stop), some t.start)
    else pure (none, some (tagOf t), some (t.start, t.stop), some t.start)
  else pure (none, none, none, none)

/-- Read a node: an alias, or a node with optional properties and then a scalar, a
collection, or nothing (an empty scalar) when it has properties. In a block mapping a
sequence may start at the key's indentation (`indentless`). -/
def node (block indentless : Bool) : Events Event := do
  if ← nextIs [.alias] then
    let t ← takeToken
    resume
    return ⟨.alias (nameOf t), t.start, t.stop⟩
  let (anchor, tag, span, tagMark) ← properties
  let handles := (← get).handles
  let tag ← match tag with
    | none => pure none
    | some (none, suffix) => pure (some suffix)
    | some (some handle, suffix) =>
        match handles.find? (·.1 == handle) with
        | some (_, pre) => pure (some (pre ++ suffix))
        | none =>
            fail (some "while parsing a node") (span.map (·.1))
              ("found undefined tag handle " ++ Text.quote handle) (tagMark.getD default)
  let (start, stop) ← match span with
    | some s => pure s
    | none => do
        let t ← peekToken
        pure (t.start, t.start)
  let plainTag := tag.isNone || tag == some "!"
  if indentless && (← nextIs [.blockEntry]) then
    let t ← peekToken
    goTo .indentlessSequenceEntry
    return ⟨.sequenceStart anchor tag, start, t.stop⟩
  if ← nextIs [.scalar] then
    let t ← takeToken
    resume
    match t.kind with
    | .scalar text style =>
        let resolved := (style == .plain && tag.isNone) || tag == some "!"
        return ⟨.scalar anchor tag resolved text style, start, t.stop⟩
    | _ => return ⟨.scalar anchor tag plainTag "" .plain, start, t.stop⟩
  if ← nextIs [.flowSequenceStart] then
    let t ← peekToken
    goTo .flowSequenceFirstEntry
    return ⟨.sequenceStart anchor tag, start, t.stop⟩
  if ← nextIs [.flowMappingStart] then
    let t ← peekToken
    goTo .flowMappingFirstKey
    return ⟨.mappingStart anchor tag, start, t.stop⟩
  if block && (← nextIs [.blockSequenceStart]) then
    let t ← peekToken
    goTo .blockSequenceFirstEntry
    return ⟨.sequenceStart anchor tag, start, t.start⟩
  if block && (← nextIs [.blockMappingStart]) then
    let t ← peekToken
    goTo .blockMappingFirstKey
    return ⟨.mappingStart anchor tag, start, t.start⟩
  if anchor.isSome || tag.isSome then
    resume
    return ⟨.scalar anchor tag plainTag "" .plain, start, stop⟩
  let t ← peekToken
  fail (some ("while parsing a " ++ (if block then "block" else "flow") ++ " node")) (some start)
    ("expected the node content, but found " ++ Text.quote t.kind.id) t.start

/-- An empty scalar at a mark, going on with `s`. -/
def emptyThen (s : Step) (m : Mark) : Events Event := do
  goTo s
  pure (Event.empty m)

/-- Read a node, coming back to `s` after it, unless the next token is of one of the classes
`closers`: then the node is an empty scalar at `m` and `s` comes next. -/
def nodeOrEmpty (s : Step) (closers : List TokenClass) (m : Mark) (block indentless : Bool) :
    Events Event := do
  if ← nextIs closers then emptyThen s m
  else
    push s
    node block indentless

/-! ### Documents -/

/-- The start of the stream. -/
def streamStart : Events Event := do
  let t ← takeToken
  goTo .implicitDocumentStart
  pure ⟨.streamStart, t.start, t.stop⟩

/-- Read the directives of a document and set its tag handles. -/
def directives : Events Unit := do
  let handles ← go (← budget) false []
  let missing := defaultHandles.filter fun (h, _) => !handles.any (·.1 == h)
  modify fun p => { p with handles := handles ++ missing }
where
  go : Nat → Bool → List (String × String) → Events (List (String × String))
    | 0, _, hs => pure hs
    | fuel + 1, versioned, hs => do
        if !(← nextIs [.directive]) then return hs
        let t ← takeToken
        match t.kind with
        | .directive "YAML" (.version major _) =>
            if versioned then fail none none "found duplicate YAML directive" t.start
            if major != 1 then
              fail none none "found incompatible YAML document (version 1.* is required)" t.start
            go fuel true hs
        | .directive "TAG" (.tagPrefix handle pre) =>
            if hs.any (·.1 == handle) then
              fail none none ("duplicate tag handle " ++ Text.quote handle) t.start
            go fuel versioned (hs ++ [(handle, pre)])
        | _ => go fuel versioned hs

/-- Skip document-end markers. -/
def skipDocumentEnds : Events Unit := do
  go (← budget)
where
  go : Nat → Events Unit
    | 0 => pure ()
    | fuel + 1 => do
        if ← nextIs [.documentEnd] then
          discard takeToken
          go fuel

/-- An explicit document start (after its directives), or the end of the stream. -/
def documentStart : Events Event := do
  skipDocumentEnds
  if ← nextIs [.streamEnd] then
    let t ← takeToken
    modify fun p => { p with step := none }
    pure ⟨.streamEnd, t.start, t.stop⟩
  else
    let start := (← peekToken).start
    directives
    if !(← nextIs [.documentStart]) then
      let t ← peekToken
      fail none none ("expected '<document start>', but found " ++ Text.quote t.kind.id) t.start
    let t ← takeToken
    push .documentEnd
    goTo .documentContent
    pure ⟨.documentStart true, start, t.stop⟩

/-- The start of a document without `---`, unless the stream goes on otherwise. -/
def implicitDocumentStart : Events Event := do
  if ← nextIs [.directive, .documentStart, .streamEnd] then documentStart
  else
    modify fun p => { p with handles := defaultHandles }
    let t ← peekToken
    push .documentEnd
    goTo .blockNode
    pure ⟨.documentStart false, t.start, t.start⟩

/-- The end of a document, with or without `...`. -/
def documentEnd : Events Event := do
  let start := (← peekToken).start
  let (stop, explicit) ←
    if ← nextIs [.documentEnd] then do
      let t ← takeToken
      pure (t.stop, true)
    else pure (start, false)
  goTo .documentStart
  pure ⟨.documentEnd explicit, start, stop⟩

/-- The content of an explicit document, empty when the document ends at once. -/
def documentContent : Events Event := do
  if ← nextIs [.directive, .documentStart, .documentEnd, .streamEnd] then
    let t ← peekToken
    resume
    pure (Event.empty t.start)
  else node true false

/-! ### Block collections -/

/-- An entry of a block sequence, or its end. -/
def blockSequenceEntry : Events Event := do
  if ← nextIs [.blockEntry] then
    let t ← takeToken
    nodeOrEmpty .blockSequenceEntry [.blockEntry, .blockEnd] t.stop true false
  else if !(← nextIs [.blockEnd]) then
    unexpected "while parsing a block collection" "expected <block end>, but found "
  else
    let t ← takeToken
    resume
    closeMark
    pure ⟨.sequenceEnd, t.start, t.stop⟩

/-- An entry of a sequence written at its mapping's indentation, or its end. -/
def indentlessSequenceEntry : Events Event := do
  if ← nextIs [.blockEntry] then
    let t ← takeToken
    nodeOrEmpty .indentlessSequenceEntry [.blockEntry, .key, .value, .blockEnd] t.stop true false
  else
    let t ← peekToken
    resume
    pure ⟨.sequenceEnd, t.start, t.start⟩

/-- A key of a block mapping, or its end. -/
def blockMappingKey : Events Event := do
  if ← nextIs [.key] then
    let t ← takeToken
    nodeOrEmpty .blockMappingValue [.key, .value, .blockEnd] t.stop true true
  else if !(← nextIs [.blockEnd]) then
    unexpected "while parsing a block mapping" "expected <block end>, but found "
  else
    let t ← takeToken
    resume
    closeMark
    pure ⟨.mappingEnd, t.start, t.stop⟩

/-- A value of a block mapping, empty when there is none. -/
def blockMappingValue : Events Event := do
  if ← nextIs [.value] then
    let t ← takeToken
    nodeOrEmpty .blockMappingKey [.key, .value, .blockEnd] t.stop true true
  else emptyThen .blockMappingKey (← peekToken).start

/-! ### Flow collections -/

/-- An entry of a flow sequence, or its end. After the first entry a comma must come first.
An entry with `?` is a mapping of one pair. -/
def flowSequenceEntry (first : Bool) : Events Event := do
  if !(← nextIs [.flowSequenceEnd]) then
    if !first then
      if ← nextIs [.flowEntry] then discard takeToken
      else unexpected "while parsing a flow sequence" "expected ',' or ']', but got "
    if ← nextIs [.key] then
      let t ← peekToken
      goTo .flowSequenceEntryMappingKey
      return ⟨.mappingStart none none, t.start, t.stop⟩
    if !(← nextIs [.flowSequenceEnd]) then
      push .flowSequenceEntry
      return ← node false false
  let t ← takeToken
  resume
  closeMark
  pure ⟨.sequenceEnd, t.start, t.stop⟩

/-- The key of a one-pair mapping inside a flow sequence. -/
def flowSequenceEntryMappingKey : Events Event := do
  let t ← takeToken
  nodeOrEmpty .flowSequenceEntryMappingValue [.value, .flowEntry, .flowSequenceEnd] t.stop
    false false

/-- The value of a one-pair mapping inside a flow sequence. -/
def flowSequenceEntryMappingValue : Events Event := do
  if ← nextIs [.value] then
    let t ← takeToken
    nodeOrEmpty .flowSequenceEntryMappingEnd [.flowEntry, .flowSequenceEnd] t.stop false false
  else emptyThen .flowSequenceEntryMappingEnd (← peekToken).start

/-- The end of a one-pair mapping inside a flow sequence. -/
def flowSequenceEntryMappingEnd : Events Event := do
  goTo .flowSequenceEntry
  let t ← peekToken
  pure ⟨.mappingEnd, t.start, t.start⟩

/-- A key of a flow mapping, or its end. After the first pair a comma must come first. -/
def flowMappingKey (first : Bool) : Events Event := do
  if !(← nextIs [.flowMappingEnd]) then
    if !first then
      if ← nextIs [.flowEntry] then discard takeToken
      else unexpected "while parsing a flow mapping" "expected ',' or '\x7d', but got "
    if ← nextIs [.key] then
      let t ← takeToken
      return ← nodeOrEmpty .flowMappingValue [.value, .flowEntry, .flowMappingEnd] t.stop
        false false
    if !(← nextIs [.flowMappingEnd]) then
      push .flowMappingEmptyValue
      return ← node false false
  let t ← takeToken
  resume
  closeMark
  pure ⟨.mappingEnd, t.start, t.stop⟩

/-- A value of a flow mapping, empty when there is none. -/
def flowMappingValue : Events Event := do
  if ← nextIs [.value] then
    let t ← takeToken
    nodeOrEmpty .flowMappingKey [.flowEntry, .flowMappingEnd] t.stop false false
  else emptyThen .flowMappingKey (← peekToken).start

/-- The opening token of a collection, remembered for its errors. -/
def openCollection : Events Unit := do
  let t ← takeToken
  openMark t.start

/-- Run one step. -/
def run : Step → Events Event
  | .streamStart => streamStart
  | .implicitDocumentStart => implicitDocumentStart
  | .documentStart => documentStart
  | .documentEnd => documentEnd
  | .documentContent => documentContent
  | .blockNode => node true false
  | .blockSequenceFirstEntry => do
      openCollection
      blockSequenceEntry
  | .blockSequenceEntry => blockSequenceEntry
  | .indentlessSequenceEntry => indentlessSequenceEntry
  | .blockMappingFirstKey => do
      openCollection
      blockMappingKey
  | .blockMappingKey => blockMappingKey
  | .blockMappingValue => blockMappingValue
  | .flowSequenceFirstEntry => do
      openCollection
      flowSequenceEntry true
  | .flowSequenceEntry => flowSequenceEntry false
  | .flowSequenceEntryMappingKey => flowSequenceEntryMappingKey
  | .flowSequenceEntryMappingValue => flowSequenceEntryMappingValue
  | .flowSequenceEntryMappingEnd => flowSequenceEntryMappingEnd
  | .flowMappingFirstKey => do
      openCollection
      flowMappingKey true
  | .flowMappingKey => flowMappingKey false
  | .flowMappingValue => flowMappingValue
  | .flowMappingEmptyValue => do
      goTo .flowMappingKey
      pure (Event.empty (← peekToken).start)

/-! ### Events -/

/-- The next event, not taken; none after the end of the stream. -/
def peekEvent : Events (Option Event) := do
  let p ← get
  match p.current with
  | some e => pure (some e)
  | none =>
      match p.step with
      | none => pure none
      | some s => do
          let e ← run s
          modify fun p => { p with current := some e }
          pure (some e)

/-- Take the next event. -/
def takeEvent : Events (Option Event) := do
  let e ← peekEvent
  modify fun p => { p with current := none }
  pure e

end Events

end VolumeLifecycle.Yaml
