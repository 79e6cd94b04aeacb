import VolumeLifecycle.Yaml.Token.Scalar
import VolumeLifecycle.Yaml.Token.Property
/-!
# The token stream

Tokens are made on demand. Before the next token can be handed out, the lexer must know
whether it starts a simple key: while a remembered key is still open at the front of the
queue, more tokens are read, until a `:` closes it (its key token, and a block-mapping start
when it opens a mapping, are then put in front of it) or it goes stale.

Each call of `fetch` skips blanks and comments, closes the block collections the column has
left, and reads one token, chosen by the character at the cursor. A character that can start
no token is an error. Every `fetch` either moves the cursor or ends the stream, so the loop
that fills the queue runs on the text's length.
-/

namespace VolumeLifecycle.Yaml

namespace Lex

/-- Skip spaces, comments and line breaks up to the next token; after a line break in block
context a simple key may start. A byte-order mark at the start is skipped. -/
def toNextToken : Lex Unit := do
  if (← get).index == 0 && (← peek) == '\uFEFF' then forward 1
  go (← budget)
where
  go : Nat → Lex Unit
    | 0 => pure ()
    | fuel + 1 => do
        skipWhile (· == ' ')
        if (← peek) == '#' then skipWhile (!isBreakOrEnd ·)
        if (← lineBreak) != "" then
          if (← get).flowLevel == 0 then allowKey true
          go fuel

/-- A token spanning the next `n` characters. -/
def simpleToken (kind : TokenKind) (n : Nat := 1) : Lex Unit := do
  let start ← mark
  forward n
  push ⟨kind, start, ← mark⟩

/-- A token without extent at the cursor. -/
def markerToken (kind : TokenKind) : Lex Unit := do
  let m ← mark
  push ⟨kind, m, m⟩

/-! ### Fetching each kind of token -/

/-- The end of the stream: all block collections close. -/
def fetchStreamEnd : Lex Unit := do
  unwindIndent (-1)
  removeKey
  modify fun s => { s with allowSimpleKey := false, keys := [] }
  markerToken .streamEnd
  modify fun s => { s with done := true }

/-- A directive. -/
def fetchDirective : Lex Unit := do
  unwindIndent (-1)
  removeKey
  allowKey false
  push (← directive)

/-- A document start or end marker. -/
def fetchDocumentIndicator (kind : TokenKind) : Lex Unit := do
  unwindIndent (-1)
  removeKey
  allowKey false
  simpleToken kind 3

/-- An opening bracket or brace. -/
def fetchFlowStart (kind : TokenKind) : Lex Unit := do
  saveKey
  modify fun s => { s with flowLevel := s.flowLevel + 1 }
  allowKey true
  simpleToken kind

/-- A closing bracket or brace. -/
def fetchFlowEnd (kind : TokenKind) : Lex Unit := do
  removeKey
  modify fun s => { s with flowLevel := s.flowLevel - 1 }
  allowKey false
  simpleToken kind

/-- A comma between flow entries. -/
def fetchFlowEntry : Lex Unit := do
  allowKey true
  removeKey
  simpleToken .flowEntry

/-- A `-` entry of a block sequence, which may open the sequence. -/
def fetchBlockEntry : Lex Unit := do
  let s ← get
  if s.flowLevel == 0 then
    if !s.allowSimpleKey then fail none none "sequence entries are not allowed here" (← mark)
    if ← addIndent s.column then markerToken .blockSequenceStart
  allowKey true
  removeKey
  simpleToken .blockEntry

/-- A `?` key indicator, which may open a block mapping. -/
def fetchKey : Lex Unit := do
  let s ← get
  if s.flowLevel == 0 then
    if !s.allowSimpleKey then fail none none "mapping keys are not allowed here" (← mark)
    if ← addIndent s.column then markerToken .blockMappingStart
  allowKey (s.flowLevel == 0)
  removeKey
  simpleToken .key

/-- Put `t` into the queue before the token numbered `number`. -/
def insertToken (number : Nat) (t : Token) : Lex Unit :=
  modify fun s =>
    let k := number - s.taken
    { s with queue := s.queue.take k ++ t :: s.queue.drop k }

/-- A `:` value indicator. When a simple key is open at this level, its key token goes in
front of it (with a block-mapping start when it opens one); otherwise the value belongs to
a key written with `?`, or to an empty key. -/
def fetchValue : Lex Unit := do
  let s ← get
  match s.keys.find? (·.1 == s.flowLevel) with
  | some (_, key) =>
      set { s with keys := s.keys.filter (·.1 != s.flowLevel) }
      insertToken key.tokenNumber ⟨.key, key.mark, key.mark⟩
      if s.flowLevel == 0 then
        if ← addIndent key.mark.column then
          insertToken key.tokenNumber ⟨.blockMappingStart, key.mark, key.mark⟩
      allowKey false
  | none =>
      if s.flowLevel == 0 then
        if !s.allowSimpleKey then fail none none "mapping values are not allowed here" (← mark)
        if ← addIndent s.column then markerToken .blockMappingStart
      allowKey (s.flowLevel == 0)
      removeKey
  simpleToken .value

/-- A token that may start a simple key and cannot be followed by one. -/
def fetchKeyable (read : Lex Token) : Lex Unit := do
  saveKey
  allowKey false
  push (← read)

/-- A block scalar. -/
def fetchBlockScalar (folded : Bool) : Lex Unit := do
  allowKey true
  removeKey
  push (← blockScalar folded)

/-! ### Choosing the token -/

/-- Whether a plain scalar starts at the cursor: a character that is no indicator, or `-`
(and in block context `?` and `:`) followed by a non-blank. -/
def atPlain : Lex Bool := do
  let ch ← peek
  let indicator := "-?:,[]\x7b\x7d#&*!|>'\"%@".toList.contains ch || ch == '\x60'
  let next ← peekAt 1
  let s ← get
  pure (!(isBlankOrEnd ch || indicator)
    || (!isBlankOrEnd next && (ch == '-' || (s.flowLevel == 0 && (ch == '?' || ch == ':')))))

/-- Read the next token into the queue. -/
def fetch : Lex Unit := do
  toNextToken
  staleKeys
  unwindIndent (← get).column
  let ch ← peek
  let next ← peekAt 1
  let s ← get
  let inBlock := s.flowLevel == 0
  if ch == '\x00' then fetchStreamEnd
  else if ch == '%' && s.column == 0 then fetchDirective
  else if ch == '-' && s.column == 0 && (← atSeparator "---") then
    fetchDocumentIndicator .documentStart
  else if ch == '.' && s.column == 0 && (← atSeparator "...") then
    fetchDocumentIndicator .documentEnd
  else if ch == '[' then fetchFlowStart .flowSequenceStart
  else if ch == '{' then fetchFlowStart .flowMappingStart
  else if ch == ']' then fetchFlowEnd .flowSequenceEnd
  else if ch == '}' then fetchFlowEnd .flowMappingEnd
  else if ch == ',' then fetchFlowEntry
  else if ch == '-' && isBlankOrEnd next then fetchBlockEntry
  else if ch == '?' && (!inBlock || isBlankOrEnd next) then fetchKey
  else if ch == ':' && (!inBlock || isBlankOrEnd next) then fetchValue
  else if ch == '*' then fetchKeyable (anchor true)
  else if ch == '&' then fetchKeyable (anchor false)
  else if ch == '!' then fetchKeyable tag
  else if ch == '|' && inBlock then fetchBlockScalar false
  else if ch == '>' && inBlock then fetchBlockScalar true
  else if ch == '\'' then fetchKeyable (flowScalar false)
  else if ch == '"' then fetchKeyable (flowScalar true)
  else if ← atPlain then fetchKeyable plain
  else
    fail (some "while scanning for the next token") none
      ("found character " ++ shown ch ++ " that cannot start any token") (← mark)

/-- Whether more tokens must be read before the next one can be handed out. -/
def needMore : Lex Bool := do
  let s ← get
  if s.done then return false
  if s.queue.isEmpty then return true
  staleKeys
  let s ← get
  pure (nextKeyNumber s == some s.taken)

/-- Read tokens until the next one can be handed out. -/
def fill : Lex Unit := do
  go (← budget)
where
  go : Nat → Lex Unit
    | 0 => pure ()
    | fuel + 1 => do
        if ← needMore then
          fetch
          go fuel

end Lex

/-- The next token, without taking it. -/
def Lex.peekToken : Lex Token := do
  Lex.fill
  match (← get).queue with
  | t :: _ => pure t
  | [] => do
      let m ← Lex.mark
      pure ⟨.streamEnd, m, m⟩

/-- Take the next token. -/
def Lex.takeToken : Lex Token := do
  let t ← Lex.peekToken
  modify fun s => { s with queue := s.queue.drop 1, taken := s.taken + 1 }
  pure t

/-- Whether the next token is of one of the classes. -/
def Lex.nextIs (classes : List TokenClass) : Lex Bool := do
  let t ← Lex.peekToken
  pure (classes.any t.kind.isOf)

/-- A token stream at the start of a text, with the stream-start token queued. -/
def TokenStream.start (text : Array Char) : TokenStream :=
  { text, queue := [⟨.streamStart, ⟨0, 0, 0⟩, ⟨0, 0, 0⟩⟩] }

end VolumeLifecycle.Yaml
