import VolumeLifecycle.Yaml.Token.Cursor
/-!
# Reading scalars

The three ways of writing a scalar, each read into its text:

* **block scalars** (`|` literal, `>` folded): a header with optional chomping (`+` keep,
  `-` strip) and indentation indicators, then the lines indented at least as deep as the
  first non-empty one. Folding joins two lines of text that both start with a non-space by
  one space, and an empty line stands for a line break;
* **flow scalars** (`'…'`, `"…"`): a line break inside folds to a space, empty lines to line
  breaks; `''` is a quote in single quotes, and double quotes have backslash escapes. A
  numeric escape names one code unit: two escapes that spell a surrogate pair, with nothing
  between them in the text, make the one character of the pair, and a surrogate without its
  partner reads as U+FFFD;
* **plain scalars**: runs of characters that cannot start a token, up to `: ` or ` #`, and
  in a flow collection up to `,`, `[`, `]`, `{` or `}`. Continuation lines must be indented
  deeper than the enclosing block collection, and a document separator ends the scalar.

Every loop here moves the cursor forward at each turn and runs on the text's length.
-/

namespace VolumeLifecycle.Yaml

namespace Lex

/-! ### Block scalars -/

/-- The chomping and indentation indicators of a block scalar's header. -/
def blockIndicators (start : Mark) : Lex (Option Bool × Option Nat) := do
  let context := some "while scanning a block scalar"
  let zero {α : Type} : Lex α := do
    fail context (some start) "expected indentation indicator in the range 1-9, but found 0" (← mark)
  let ch ← peek
  let result ←
    if ch == '+' || ch == '-' then do
      forward 1
      let d ← peek
      if d.isDigit then
        if d == '0' then zero
        forward 1
        pure (some (ch == '+'), some (d.toNat - '0'.toNat))
      else pure (some (ch == '+'), none)
    else if ch.isDigit then do
      if ch == '0' then zero
      forward 1
      let c ← peek
      if c == '+' || c == '-' then
        forward 1
        pure (some (c == '+'), some (ch.toNat - '0'.toNat))
      else pure (none, some (ch.toNat - '0'.toNat))
    else pure (none, none)
  let ch ← peek
  if !isSpaceOrEnd ch then
    fail context (some start)
      ("expected chomping or indentation indicators, but found " ++ shown ch) (← mark)
  pure result

/-- The rest of a header line: spaces and a comment, then a line break or the end. -/
def blockIgnoredLine (start : Mark) : Lex Unit := do
  skipWhile (· == ' ')
  if (← peek) == '#' then skipWhile (!isBreakOrEnd ·)
  let ch ← peek
  if !isBreakOrEnd ch then
    fail (some "while scanning a block scalar") (some start)
      ("expected a comment or a line break, but found " ++ shown ch) (← mark)
  discard lineBreak

/-- Read the empty lines before the first line of text, to find the indentation: the line
breaks read, the deepest column reached and the mark after the last break. -/
def blockIndentation : Lex (Array String × Nat × Mark) := do
  go (← budget) #[] 0 (← mark)
where
  go : Nat → Array String → Nat → Mark → Lex (Array String × Nat × Mark)
    | 0, chunks, deepest, m => pure (chunks, deepest, m)
    | fuel + 1, chunks, deepest, m => do
        let ch ← peek
        if ch == ' ' then
          forward 1
          go fuel chunks (max deepest (← get).column) m
        else if isBreak ch then
          let b ← lineBreak
          go fuel (chunks.push b) deepest (← mark)
        else pure (chunks, deepest, m)

/-- Move past spaces while the column is below `indent`. -/
def indentTo (indent : Int) : Lex Unit := do
  go (← budget)
where
  go : Nat → Lex Unit
    | 0 => pure ()
    | fuel + 1 => do
        if ((← get).column : Int) < indent && (← peek) == ' ' then
          forward 1
          go fuel

/-- Read the line breaks (and the indentation after each) between lines of text: the
breaks read and the mark after the last one. -/
def blockBreaks (indent : Int) : Lex (Array String × Mark) := do
  let m ← mark
  indentTo indent
  go (← budget) #[] m
where
  go : Nat → Array String → Mark → Lex (Array String × Mark)
    | 0, chunks, m => pure (chunks, m)
    | fuel + 1, chunks, m => do
        if isBreak (← peek) then
          let b ← lineBreak
          let m ← mark
          indentTo indent
          go fuel (chunks.push b) m
        else pure (chunks, m)

/-- Whether the cursor is at the indentation of a block scalar, on a line with text. -/
def atBlockLine (indent : Int) : Lex Bool := do
  pure (((← get).column : Int) == indent && (← peek) != '\x00')

/-- Read the lines of a block scalar: the text so far, the last line break and the breaks
after it (both left for chomping), and the end mark. -/
def blockLines (folded : Bool) (indent : Int) :
    Nat → Array String → String → Array String → Mark →
      Lex (Array String × String × Array String × Mark)
  | 0, chunks, lastBreak, breaks, m => pure (chunks, lastBreak, breaks, m)
  | fuel + 1, chunks, lastBreak, breaks, m => do
      if !(← atBlockLine indent) then return (chunks, lastBreak, breaks, m)
      let chunks := chunks ++ breaks
      let first ← peek
      let leadingNonSpace := !(first == ' ' || first == '\t')
      let n ← span (!isBreakOrEnd ·)
      let chunks := chunks.push (← ahead n)
      forward n
      let lastBreak ← lineBreak
      let (breaks, m) ← blockBreaks indent
      if !(← atBlockLine indent) then return (chunks, lastBreak, breaks, m)
      let next ← peek
      let chunks :=
        if folded && lastBreak == "\n" && leadingNonSpace && !(next == ' ' || next == '\t') then
          if breaks.isEmpty then chunks.push " " else chunks
        else chunks.push lastBreak
      blockLines folded indent fuel chunks lastBreak breaks m

/-- Read a block scalar, literal or folded. -/
def blockScalar (folded : Bool) : Lex Token := do
  let start ← mark
  forward 1
  let (chomping, increment) ← blockIndicators start
  blockIgnoredLine start
  let minIndent : Int := max ((← get).indent + 1) 1
  let (breaks, indent, m) ← match increment with
    | none => do
        let (breaks, deepest, m) ← blockIndentation
        pure (breaks, max minIndent (deepest : Int), m)
    | some inc => do
        let indent := minIndent + inc - 1
        let (breaks, m) ← blockBreaks indent
        pure (breaks, indent, m)
  let (chunks, lastBreak, breaks, m) ← blockLines folded indent (← budget) #[] "" breaks m
  let chunks := if chomping != some false then chunks.push lastBreak else chunks
  let chunks := if chomping == some true then chunks ++ breaks else chunks
  pure ⟨.scalar (String.join chunks.toList) (if folded then .folded else .literal), start, m⟩

/-! ### Flow scalars -/

/-- The character a one-letter escape stands for. -/
def escapeReplacement : Char → Option Char
  | '0' => some '\x00'
  | 'a' => some '\x07'
  | 'b' => some '\x08'
  | 't' => some '\t'
  | '\t' => some '\t'
  | 'n' => some '\n'
  | 'v' => some '\x0b'
  | 'f' => some '\x0c'
  | 'r' => some '\r'
  | 'e' => some '\x1b'
  | ' ' => some ' '
  | '"' => some '"'
  | '\\' => some '\\'
  | '/' => some '/'
  | 'N' => some '\x85'
  | '_' => some '\xa0'
  | 'L' => some '\u2028'
  | 'P' => some '\u2029'
  | _ => none

/-- The number of hex digits of a numeric escape. -/
def escapeDigits : Char → Option Nat
  | 'x' => some 2
  | 'u' => some 4
  | 'U' => some 8
  | _ => none

/-- Read the line breaks inside a quoted scalar, with the blanks around them; a document
separator there is an error. -/
def quotedBreaks (start : Mark) : Nat → Array String → Lex (Array String)
  | 0, chunks => pure chunks
  | fuel + 1, chunks => do
      if (← atSeparator "---") || (← atSeparator "...") then
        fail (some "while scanning a quoted scalar") (some start)
          "found unexpected document separator" (← mark)
      skipWhile (fun c => c == ' ' || c == '\t')
      if isBreak (← peek) then
        let b ← lineBreak
        quotedBreaks start fuel (chunks.push b)
      else pure chunks

/-- Read a numeric escape's digits (after its letter) into its character; a surrogate stays
one on its own. -/
def numericEscape (start : Mark) (n : Nat) : Lex String := do
  let digits ← (List.range n).mapM fun k => peekAt k
  if let some k := (List.range n).find? fun k => !isHexDigit (digits.getD k '\x00') then
    let found := shown (digits.getD k '\x00')
    fail (some "while scanning a double-quoted scalar") (some start)
      s!"expected escape sequence of {n} hexadecimal numbers, but found {found}" (← mark)
  let code := hexValue digits
  if code > 0x10FFFF then throw (.raised "ValueError" "chr() arg not in range(0x110000)")
  forward n
  pure (String.singleton (Text.charOfCode code))

/-- Read the text of a quoted scalar up to a blank, a line break or its end quote. -/
def quotedText (double : Bool) (start : Mark) : Nat → Array String → Lex (Array String)
  | 0, chunks => pure chunks
  | fuel + 1, chunks => do
      let n ← span fun c => !(c == '\'' || c == '"' || c == '\\' || isBlankOrEnd c)
      let run ← ahead n
      let chunks := if n > 0 then chunks.push run else chunks
      forward n
      let ch ← peek
      if !double && ch == '\'' && (← peekAt 1) == '\'' then
        forward 2
        quotedText double start fuel (chunks.push "'")
      else if (double && ch == '\'') || (!double && (ch == '"' || ch == '\\')) then
        forward 1
        quotedText double start fuel (chunks.push (String.singleton ch))
      else if double && ch == '\\' then
        forward 1
        let e ← peek
        if let some r := escapeReplacement e then
          forward 1
          quotedText double start fuel (chunks.push (String.singleton r))
        else if let some n := escapeDigits e then
          forward 1
          let c ← numericEscape start n
          quotedText double start fuel (chunks.push c)
        else if isBreak e then
          discard lineBreak
          let chunks ← quotedBreaks start (← budget) chunks
          quotedText double start fuel chunks
        else
          fail (some "while scanning a double-quoted scalar") (some start)
            ("found unknown escape character " ++ shown e) (← mark)
      else pure chunks

/-- Read the blanks inside a quoted scalar: kept as they are on one line, folded across a
line break. -/
def quotedSpaces (start : Mark) : Lex (Array String) := do
  let n ← span fun c => c == ' ' || c == '\t'
  let blanks ← ahead n
  forward n
  let ch ← peek
  if ch == '\x00' then
    fail (some "while scanning a quoted scalar") (some start) "found unexpected end of stream"
      (← mark)
  else if isBreak ch then
    let b ← lineBreak
    let breaks ← quotedBreaks start (← budget) #[]
    let head : Array String :=
      if b != "\n" then #[b] else if breaks.isEmpty then #[" "] else #[]
    pure (head ++ breaks)
  else pure #[blanks]

/-- Read the parts of a quoted scalar until its end quote. -/
def quotedParts (double : Bool) (start : Mark) (quote : Char) :
    Nat → Array String → Lex (Array String)
  | 0, chunks => pure chunks
  | fuel + 1, chunks => do
      if (← peek) == quote then return chunks
      let chunks := chunks ++ (← quotedSpaces start)
      let chunks ← quotedText double start (← budget) chunks
      quotedParts double start quote fuel chunks

/-- Read a single- or double-quoted scalar. -/
def flowScalar (double : Bool) : Lex Token := do
  let start ← mark
  let quote ← peek
  forward 1
  let chunks ← quotedText double start (← budget) #[]
  let chunks ← quotedParts double start quote (← budget) chunks
  forward 1
  pure ⟨.scalar (String.join chunks.toList) (if double then .double else .single), start,
    ← mark⟩

/-! ### Plain scalars -/

/-- The length of the run of a plain scalar's characters at the cursor. -/
def plainRun : Lex Nat := do
  let s ← get
  let inFlow := s.flowLevel != 0
  let stops (c next : Char) : Bool :=
    isBlankOrEnd c
      || (c == ':' && (isBlankOrEnd next
            || (inFlow && (next == ',' || next == '[' || next == ']' || next == '{' || next == '}'))))
      || (inFlow && (c == ',' || c == '?' || c == '[' || c == ']' || c == '{' || c == '}'))
  let stop := go s.text stops s.index (s.text.size + 1)
  Lex.reach (if s.text.getD stop '\x00' == ':' then stop + 1 else stop)
  pure (stop - s.index)
where
  go (text : Array Char) (stops : Char → Char → Bool) (i : Nat) : Nat → Nat
    | 0 => i
    | fuel + 1 =>
        if stops (text.getD i '\x00') (text.getD (i + 1) '\x00') then i
        else go text stops (i + 1) fuel

/-- Read the blank lines after a line of a plain scalar, up to the text of the next line. -/
def plainBreaks : Nat → Array String → Lex (Option (Array String))
  | 0, breaks => pure (some breaks)
  | fuel + 1, breaks => do
      let ch ← peek
      if ch == ' ' then
        forward 1
        plainBreaks fuel breaks
      else if isBreak ch then
        let b ← lineBreak
        if (← atSeparator "---") || (← atSeparator "...") then return none
        plainBreaks fuel (breaks.push b)
      else pure (some breaks)

/-- Read the spaces after a run of a plain scalar: what they stand for in the scalar, or
`none` when a document separator ends it. -/
def plainSpaces : Lex (Option (Array String)) := do
  let n ← span (· == ' ')
  let spaces ← ahead n
  forward n
  let ch ← peek
  if isBreak ch then
    let b ← lineBreak
    allowKey true
    if (← atSeparator "---") || (← atSeparator "...") then return none
    let some breaks ← plainBreaks (← budget) #[] | return none
    let head := if b != "\n" then #[b] else if breaks.isEmpty then #[" "] else #[]
    pure (some (head ++ breaks))
  else if n > 0 then pure (some #[spaces])
  else pure (some #[])

/-- Read the runs of a plain scalar: its text so far, the spaces before the next run and the
end mark. -/
def plainRuns (indent : Int) : Nat → Array String → Array String → Mark →
    Lex (Array String × Mark)
  | 0, chunks, _, m => pure (chunks, m)
  | fuel + 1, chunks, spaces, m => do
      if (← peek) == '#' then return (chunks, m)
      let n ← plainRun
      if n == 0 then return (chunks, m)
      allowKey false
      let chunks := (chunks ++ spaces).push (← ahead n)
      forward n
      let m ← mark
      match ← plainSpaces with
      | none => pure (chunks, m)
      | some spaces =>
          let s ← get
          if spaces.isEmpty || (← peek) == '#' || (s.flowLevel == 0 && (s.column : Int) < indent) then
            pure (chunks, m)
          else plainRuns indent fuel chunks spaces m

/-- Read a plain scalar. -/
def plain : Lex Token := do
  let start ← mark
  let indent := (← get).indent + 1
  let (chunks, m) ← plainRuns indent (← budget) #[] #[] start
  pure ⟨.scalar (String.join chunks.toList) .plain, start, m⟩

end Lex

end VolumeLifecycle.Yaml
