import VolumeLifecycle.Yaml.Token.Cursor
import VolumeLifecycle.Text.Utf8
/-!
# Reading node properties and directives

The tokens that are not scalars but carry text:

* **anchors** `&name` and **aliases** `*name`: a name of ASCII letters, digits, `-` and `_`,
  ended by a blank or by one of `?:,]}%@` and the backquote;
* **tags**: `!<uri>` (verbatim), `!` alone (the non-specific tag), `!suffix` and
  `!handle!suffix`. The suffix is a URI whose `%XX` escapes are decoded as UTF-8;
* **directives** `%YAML major.minor` and `%TAG handle prefix`; a directive of another name
  is skipped to the end of its line.
-/

namespace VolumeLifecycle.Yaml

namespace Lex

/-- A character of a tag's URI. -/
def isUriChar (c : Char) : Bool :=
  c.isAlphanum || "-;/?:@&=+$,_.!~*'()[]%".toList.contains c

/-- Read `%XX` escapes into the text their bytes encode in UTF-8. -/
def uriEscapes (name : String) (start : Mark) : Lex String := do
  let m ← mark
  let codes ← go (← budget) #[]
  match Text.decodeUtf8 codes.toList with
  | .ok s => pure s
  | .error reason => fail (some ("while scanning a " ++ name)) (some start) reason m
where
  go : Nat → Array UInt8 → Lex (Array UInt8)
    | 0, codes => pure codes
    | fuel + 1, codes => do
        if (← peek) != '%' then return codes
        forward 1
        for k in [0, 1] do
          let c ← peekAt k
          if !isHexDigit c then
            fail (some ("while scanning a " ++ name)) (some start)
              ("expected URI escape sequence of 2 hexadecimal numbers, but found " ++ shown c)
              (← mark)
        let code := hexValue [← peekAt 0, ← peekAt 1]
        forward 2
        go fuel (codes.push code.toUInt8)

/-- Read the URI of a tag or of a `%TAG` prefix. -/
def tagUri (name : String) (start : Mark) : Lex String := do
  let (chunks, stop) ← go (← budget) #[]
  if chunks.isEmpty then
    fail (some ("while parsing a " ++ name)) (some start) ("expected URI, but found " ++ shown stop)
      (← mark)
  pure (String.join chunks.toList)
where
  /-- The parts read, and the character the URI stopped at. -/
  go : Nat → Array String → Lex (Array String × Char)
    | 0, chunks => pure (chunks, '\x00')
    | fuel + 1, chunks => do
        let n ← span (fun c => isUriChar c && c != '%')
        let ch ← peekAt n
        if ch == '%' then
          let run ← ahead n
          forward n
          let decoded ← uriEscapes name start
          go fuel ((chunks.push run).push decoded)
        else if n > 0 then
          let run ← ahead n
          forward n
          pure (chunks.push run, ch)
        else pure (chunks, ch)

/-- Read a tag handle: `!`, `!!` or `!word!`. -/
def tagHandle (name : String) (start : Mark) : Lex String := do
  let context := some ("while scanning a " ++ name)
  let ch ← peek
  if ch != '!' then fail context (some start) ("expected '!', but found " ++ shown ch) (← mark)
  let n ← if (← peekAt 1) != ' ' then do
      let n := 1 + (← span isWordChar 1)
      let ch ← peekAt n
      if ch != '!' then
        forward n
        fail context (some start) ("expected '!', but found " ++ shown ch) (← mark)
      pure (n + 1)
    else pure 1
  let value ← ahead n
  forward n
  pure value

/-- Whether a second `!` comes before the next space or line break: the tag then has a
handle of its own. -/
def hasHandle : Lex Bool := do
  let n ← span (fun c => !isSpaceOrEnd c && c != '!') 1
  pure ((← peekAt (n + 1)) == '!')

/-- Read a tag. -/
def tag : Lex Token := do
  let start ← mark
  let ch ← peekAt 1
  let (handle, suffix) ←
    if ch == '<' then do
      forward 2
      let suffix ← tagUri "tag" start
      let close ← peek
      if close != '>' then
        fail (some "while parsing a tag") (some start) ("expected '>', but found " ++ shown close)
          (← mark)
      forward 1
      pure (none, suffix)
    else if isBlankOrEnd ch then do
      forward 1
      pure (none, "!")
    else if ← hasHandle then do
      let handle ← tagHandle "tag" start
      pure (some handle, ← tagUri "tag" start)
    else do
      forward 1
      pure (some "!", ← tagUri "tag" start)
  let ch ← peek
  if !isSpaceOrEnd ch then
    fail (some "while scanning a tag") (some start) ("expected ' ', but found " ++ shown ch)
      (← mark)
  pure ⟨.tag handle suffix, start, ← mark⟩

/-- Read an anchor, or an alias when `isAlias` is set. -/
def anchor (isAlias : Bool) : Lex Token := do
  let start ← mark
  let context := some ("while scanning an " ++ if isAlias then "alias" else "anchor")
  forward 1
  let n ← span isWordChar
  if n == 0 then
    fail context (some start)
      ("expected alphabetic or numeric character, but found " ++ shown (← peek)) (← mark)
  let value ← ahead n
  forward n
  let ch ← peek
  if !(isBlankOrEnd ch || "?:,]\x7d%@".toList.contains ch || ch == '\x60') then
    fail context (some start) ("expected alphabetic or numeric character, but found " ++ shown ch)
      (← mark)
  let stop ← mark
  pure ⟨if isAlias then .alias value else .anchor value, start, stop⟩

/-! ### Directives -/

/-- Read the name of a directive. -/
def directiveName (start : Mark) : Lex String := do
  let context := some "while scanning a directive"
  let n ← span isWordChar
  if n == 0 then
    fail context (some start)
      ("expected alphabetic or numeric character, but found " ++ shown (← peek)) (← mark)
  let value ← ahead n
  forward n
  let ch ← peek
  if !isSpaceOrEnd ch then
    fail context (some start) ("expected alphabetic or numeric character, but found " ++ shown ch)
      (← mark)
  pure value

/-- Read one number of a `%YAML` version. -/
def versionNumber (start : Mark) : Lex Nat := do
  let ch ← peek
  if !ch.isDigit then
    fail (some "while scanning a directive") (some start) ("expected a digit, but found " ++ shown ch)
      (← mark)
  let n ← span Char.isDigit
  let digits ← ahead n
  forward n
  pure (digits.toList.foldl (fun acc c => acc * 10 + (c.toNat - '0'.toNat)) 0)

/-- Read the version of a `%YAML` directive. -/
def versionValue (start : Mark) : Lex Directive := do
  let context := some "while scanning a directive"
  skipWhile (· == ' ')
  let major ← versionNumber start
  let ch ← peek
  if ch != '.' then
    fail context (some start) ("expected a digit or '.', but found " ++ shown ch) (← mark)
  forward 1
  let minor ← versionNumber start
  let ch ← peek
  if !isSpaceOrEnd ch then
    fail context (some start) ("expected a digit or ' ', but found " ++ shown ch) (← mark)
  pure (.version major minor)

/-- Read the handle and prefix of a `%TAG` directive. -/
def tagDirectiveValue (start : Mark) : Lex Directive := do
  let context := some "while scanning a directive"
  skipWhile (· == ' ')
  let handle ← tagHandle "directive" start
  let ch ← peek
  if ch != ' ' then fail context (some start) ("expected ' ', but found " ++ shown ch) (← mark)
  skipWhile (· == ' ')
  let pre ← tagUri "directive" start
  let ch ← peek
  if !isSpaceOrEnd ch then
    fail context (some start) ("expected ' ', but found " ++ shown ch) (← mark)
  pure (.tagPrefix handle pre)

/-- The rest of a directive's line: spaces and a comment, then a line break or the end. -/
def directiveIgnoredLine (start : Mark) : Lex Unit := do
  skipWhile (· == ' ')
  if (← peek) == '#' then skipWhile (!isBreakOrEnd ·)
  let ch ← peek
  if !isBreakOrEnd ch then
    fail (some "while scanning a directive") (some start)
      ("expected a comment or a line break, but found " ++ shown ch) (← mark)
  discard lineBreak

/-- Read a directive. -/
def directive : Lex Token := do
  let start ← mark
  forward 1
  let name ← directiveName start
  let (value, stop) ←
    if name == "YAML" then do
      let v ← versionValue start
      pure (v, ← mark)
    else if name == "TAG" then do
      let v ← tagDirectiveValue start
      pure (v, ← mark)
    else do
      let m ← mark
      skipWhile (!isBreakOrEnd ·)
      pure (.other, m)
  directiveIgnoredLine start
  pure ⟨.directive name value, start, stop⟩

end Lex

end VolumeLifecycle.Yaml
