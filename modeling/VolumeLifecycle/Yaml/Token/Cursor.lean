import VolumeLifecycle.Yaml.Token
/-!
# The lexer's state

The lexer reads a document one character at a time. Its state is the text with a cursor
(offset, line and column), the tokens made and not yet taken, the indentation levels of the
open block collections, the depth of flow collections, and the **possible simple keys**:
places where a key written without `?` may have started, remembered until a `:` shows that it
did (the key token is then put in front of them) or until they can no longer be keys.

This module has the cursor's moves, the character classes the grammar uses, the bookkeeping
of simple keys and the indentation stack. Every loop in it moves the cursor forward, and
runs on a budget of the text's length, so all of it is total.

Reading past the end yields the character `NUL`, which ends every run.

**Reading in portions.** The text is taken in portions: the first `firstPortion` characters
at once, then `portion` more each time the lexer looks past what it has, and each portion is
checked for characters a document may not hold when it is taken. So a bad character beyond
the first portion is reported only once the lexer looks into its portion; a syntax error met
before that wins. `Lex.reach` is that look: every move and look of the cursor goes through it.
-/

namespace VolumeLifecycle.Yaml

/-- A place where a simple key may have started. -/
structure SimpleKey where
  /-- The number of the token the key token would be put in front of. -/
  tokenNumber : Nat
  /-- Whether the key must be one: a block key at the current indentation. -/
  required : Bool
  mark : Mark
  deriving Inhabited

/-- The characters taken at once when reading starts. -/
def firstPortion : Nat := 8192

/-- The characters taken each time the lexer looks past what it has. -/
def portion : Nat := 4096

/-- The offset of the portion that holds offset `p`. -/
def portionStart (p : Nat) : Nat :=
  if p < firstPortion then 0 else firstPortion + (p - firstPortion) / portion * portion

/-- A character a document may not hold, with its offset and the start of its portion. -/
structure Unacceptable where
  code : Nat
  position : Nat
  portionStart : Nat
  deriving Inhabited

/-- The state of the lexer. -/
structure TokenStream where
  text : Array Char
  /-- The first character the document may not hold, beyond the first portion. -/
  unacceptable : Option Unacceptable := none
  index : Nat := 0
  line : Nat := 0
  column : Nat := 0
  /-- Whether the end of the stream has been reached. -/
  done : Bool := false
  /-- The depth of flow collections; a stray closing bracket takes it below zero. -/
  flowLevel : Int := 0
  /-- Tokens made and not yet taken, the next one first. -/
  queue : List Token := []
  /-- How many tokens have been taken. -/
  taken : Nat := 0
  /-- The indentation of the innermost open block collection, `-1` outside all. -/
  indent : Int := -1
  /-- The indentations of the enclosing block collections, innermost first. -/
  indents : List Int := []
  /-- Whether a simple key may start at the cursor. -/
  allowSimpleKey : Bool := true
  /-- The possible simple keys by flow level, in the order they were remembered. -/
  keys : List (Int × SimpleKey) := []
  deriving Inhabited

/-- A step of the lexer. -/
abbrev Lex := StateT TokenStream (Except Error)

/-! ### Character classes -/

/-- Line-break characters. -/
def isBreak (c : Char) : Bool :=
  c == '\r' || c == '\n' || c == '\x85' || c == '\u2028' || c == '\u2029'

/-- A line break or the end. -/
def isBreakOrEnd (c : Char) : Bool := c == '\x00' || isBreak c

/-- A space, a tab, a line break or the end. -/
def isBlankOrEnd (c : Char) : Bool := c == ' ' || c == '\t' || isBreakOrEnd c

/-- A space, a line break or the end (a tab does not count). -/
def isSpaceOrEnd (c : Char) : Bool := c == ' ' || isBreakOrEnd c

/-- An ASCII letter or digit, `-` or `_`: the characters of anchors and tag handles. -/
def isWordChar (c : Char) : Bool := c.isAlphanum || c == '-' || c == '_'

/-- A hexadecimal digit. -/
def isHexDigit (c : Char) : Bool :=
  c.isDigit || ('a' ≤ c && c ≤ 'f') || ('A' ≤ c && c ≤ 'F')

/-- The value of hexadecimal digits. -/
def hexValue (cs : List Char) : Nat :=
  cs.foldl (fun acc c =>
    let d := if c.isDigit then c.toNat - '0'.toNat
      else if 'a' ≤ c && c ≤ 'f' then c.toNat - 'a'.toNat + 10
      else c.toNat - 'A'.toNat + 10
    acc * 16 + d) 0

/-- A character as messages show it: quoted. -/
def shown (c : Char) : String := Text.quote (String.singleton c)

namespace Lex

/-! ### The cursor -/

/-- Stop with a syntax error. -/
def fail {α : Type} (context : Option String) (contextMark : Option Mark) (problem : String)
    (m : Mark) : Lex α :=
  throw (.marked context contextMark problem m)

/-- Look at offset `q`: past the start of the portion with a bad character, that character
is an error. -/
def reach (q : Nat) : Lex Unit := do
  if let some u := (← get).unacceptable then
    if q ≥ u.portionStart then throw (.unacceptable u.code u.position)

/-- The character `k` places after the cursor. -/
def peekAt (k : Nat) : Lex Char := do
  let s ← get
  reach (s.index + k)
  pure (s.text.getD (s.index + k) '\x00')

/-- The character at the cursor. -/
def peek : Lex Char := peekAt 0

/-- The cursor's mark. -/
def mark : Lex Mark := do
  let s ← get
  pure { index := s.index, line := s.line, column := s.column }

/-- The next `n` characters (fewer at the end). -/
def ahead (n : Nat) : Lex String := do
  let s ← get
  if n > 0 then reach (s.index + n - 1)
  pure (String.ofList (s.text.extract s.index (s.index + n)).toList)

/-- A budget no loop over the text can use up: one step per character, and one more. -/
def budget : Lex Nat := do
  pure ((← get).text.size + 2)

/-- Move past one character: a line feed, NEL, a line or paragraph separator, or a carriage
return not followed by a line feed starts a new line; a byte-order mark takes no column. -/
def forward1 : Lex Unit := do
  reach ((← get).index + 1)
  modify fun s =>
    let ch := s.text.getD s.index '\x00'
    if ch == '\n' || ch == '\x85' || ch == '\u2028' || ch == '\u2029'
        || (ch == '\r' && s.text.getD (s.index + 1) '\x00' != '\n') then
      { s with index := s.index + 1, line := s.line + 1, column := 0 }
    else if ch == '\uFEFF' then { s with index := s.index + 1 }
    else { s with index := s.index + 1, column := s.column + 1 }

/-- Move past `n` characters. -/
def forward : Nat → Lex Unit
  | 0 => pure ()
  | n + 1 => do
      forward1
      forward n

/-- The first offset from `i` on whose character does not satisfy `p`. -/
def runEnd (text : Array Char) (p : Char → Bool) : Nat → Nat → Nat
  | 0, i => i
  | fuel + 1, i => if p (text.getD i '\x00') then runEnd text p fuel (i + 1) else i

/-- How many characters from `k` places after the cursor on satisfy `p`. -/
def span (p : Char → Bool) (k : Nat := 0) : Lex Nat := do
  let s ← get
  let origin := s.index + k
  let stop := runEnd s.text p (s.text.size + 1) origin
  reach stop
  pure (stop - origin)

/-- Move past the characters that satisfy `p`. -/
def skipWhile (p : Char → Bool) : Lex Unit := do
  forward (← span p)

/-- Read a line break: a carriage return with a line feed, either alone, and NEL all read as
a line feed; a line or paragraph separator reads as itself; anything else is not read and
gives the empty text. -/
def lineBreak : Lex String := do
  let ch ← peek
  if ch == '\r' || ch == '\n' || ch == '\x85' then
    if ch == '\r' && (← peekAt 1) == '\n' then forward 2 else forward 1
    pure "\n"
  else if ch == '\u2028' || ch == '\u2029' then
    forward 1
    pure (String.singleton ch)
  else pure ""

/-- Whether the next three characters are `marker` followed by a blank or the end: a
document separator at the start of a line. -/
def atSeparator (marker : String) : Lex Bool := do
  pure ((← ahead 3) == marker && isBlankOrEnd (← peekAt 3))

/-! ### Tokens -/

/-- Put a token at the end of the queue. -/
def push (t : Token) : Lex Unit :=
  modify fun s => { s with queue := s.queue ++ [t] }

/-- Allow or forbid a simple key at the cursor. -/
def allowKey (b : Bool) : Lex Unit :=
  modify fun s => { s with allowSimpleKey := b }

/-! ### Simple keys -/

/-- The error of a required key that was not closed by `:`. -/
def keyNotClosed {α : Type} (key : SimpleKey) : Lex α := do
  fail (some "while scanning a simple key") (some key.mark) "could not find expected ':'" (← mark)

/-- Whether a remembered key can no longer be a key: it is on an earlier line, or more than
1024 characters back. -/
def SimpleKey.stale (s : TokenStream) (key : SimpleKey) : Bool :=
  key.mark.line != s.line || s.index - key.mark.index > 1024

/-- Forget the keys that can no longer be keys; one that was required is an error. -/
def staleKeys : Lex Unit := do
  let s ← get
  if let some (_, key) := s.keys.find? fun (_, k) => SimpleKey.stale s k && k.required then
    keyNotClosed key
  set { s with keys := s.keys.filter fun (_, k) => !SimpleKey.stale s k }

/-- Forget the key of the current flow level; a required one is an error. -/
def removeKey : Lex Unit := do
  let s ← get
  match s.keys.find? (·.1 == s.flowLevel) with
  | some (_, key) =>
      if key.required then keyNotClosed key
      set { s with keys := s.keys.filter (·.1 != s.flowLevel) }
  | none => pure ()

/-- Remember that the next token may start a simple key, when one may start here. -/
def saveKey : Lex Unit := do
  let s ← get
  let required := s.flowLevel == 0 && s.indent == (s.column : Int)
  if s.allowSimpleKey then
    removeKey
    let s ← get
    let key : SimpleKey := { tokenNumber := s.taken + s.queue.length, required, mark := ← mark }
    set { s with keys := s.keys ++ [(s.flowLevel, key)] }

/-- The lowest token number of a remembered key. -/
def nextKeyNumber (s : TokenStream) : Option Nat :=
  s.keys.foldl (fun acc (_, k) =>
    match acc with
    | some n => some (min n k.tokenNumber)
    | none => some k.tokenNumber) none

/-! ### Indentation -/

/-- Close the block collections indented deeper than `column`, one block-end token each.
Flow collections ignore indentation. -/
def unwindIndent (column : Int) : Lex Unit := do
  if (← get).flowLevel != 0 then return
  go (← get).indents.length
where
  go : Nat → Lex Unit
    | 0 => pure ()
    | n + 1 => do
        let s ← get
        if s.indent > column then
          let m ← mark
          match s.indents with
          | i :: rest =>
              set { s with indent := i, indents := rest, queue := s.queue ++ [({ kind := .blockEnd, start := m, stop := m } : Token)] }
              go n
          | [] => pure ()

/-- Open a block collection at `column` when it is deeper than the current one. -/
def addIndent (column : Int) : Lex Bool := do
  let s ← get
  if s.indent < column then
    set { s with indents := s.indent :: s.indents, indent := column }
    pure true
  else pure false

end Lex

end VolumeLifecycle.Yaml
