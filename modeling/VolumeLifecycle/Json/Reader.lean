import VolumeLifecycle.Document.Value
import VolumeLifecycle.Number.Read
import VolumeLifecycle.Text.Surrogate
/-!
# Reading JSON

A JSON text is read into a `Value`. Besides standard JSON the reader accepts the words `NaN`,
`Infinity` and `-Infinity` as doubles. A number with a fraction or an exponent is a double
(the nearest one), any other number a whole number of any size. When a key occurs twice in an
object, the key keeps its first place and takes the last value.

A text that is not JSON is refused with a `ReadError`: what was expected or what was wrong,
and the position, counted in characters from zero and also given as a line and a column
counted from one. Blanks between tokens are space, tab, newline and carriage return. The
positions follow one rule per fault:

* a value that cannot start where one is needed: *Expecting value*, at that place;
* an object entry that does not start with a quote: *Expecting property name enclosed in
  double quotes*, at that place (so a trailing comma is reported at the closing brace);
* a missing `:` or `,`: at the place where it was expected;
* a text string never closed: at its opening quote; a raw control character in it: at that
  character; a bad escape: at its backslash, or at the `u` of a bad `\u` escape;
* anything after the document: *Extra data*, at its first character.

Two limits stop a reading that is not a `ReadError` (`Refusal`): containers nested more than
`nestingLimit` deep, and a whole number with more digits than `wholeDigitLimit`. Each stops
the reading where it is met, so a fault earlier in the text is reported instead.
-/

namespace VolumeLifecycle.Json

open VolumeLifecycle.Number VolumeLifecycle.Text

/-- What makes a text fail to be JSON. -/
inductive Fault where
  | expectingValue
  | expectingPropertyName
  | expectingColon
  | expectingComma
  | unterminatedString
  | controlCharacter
  | badEscape
  | badUnicodeEscape
  | extraData
  | byteOrderMark
  /-- An array (or an object, when the flag is false) nested too deep. -/
  | nestedTooDeep (array : Bool)
  /-- A whole number with `count` digits, more than may be read. -/
  | tooManyDigits (count : Nat)
  deriving DecidableEq, Repr

/-- The words of a fault. -/
def Fault.text : Fault → String
  | .expectingValue => "Expecting value"
  | .expectingPropertyName => "Expecting property name enclosed in double quotes"
  | .expectingColon => "Expecting ':' delimiter"
  | .expectingComma => "Expecting ',' delimiter"
  | .unterminatedString => "Unterminated string starting at"
  | .controlCharacter => "Invalid control character at"
  | .badEscape => "Invalid \\escape"
  | .badUnicodeEscape => "Invalid \\uXXXX escape"
  | .extraData => "Extra data"
  | .byteOrderMark => "Unexpected UTF-8 BOM (decode using utf-8-sig)"
  | .nestedTooDeep array =>
      let container := if array then "array" else "object"
      s!"maximum recursion depth exceeded while decoding a JSON {container} from a unicode string"
  | .tooManyDigits count => tooManyDigitsText count

/-- A refused text: the fault, its position in characters, and the line and column of that
position, both counted from one. -/
structure ReadError where
  fault : Fault
  pos : Nat
  line : Nat
  column : Nat
  deriving Repr

/-- The message of a refused text: `fault: line L column C (char P)`. -/
def ReadError.message (e : ReadError) : String :=
  s!"{e.fault.text}: line {e.line} column {e.column} (char {e.pos})"

/-- Locate position `pos` of `text`: the line is one more than the newlines before it, the
column counts from the last of them. -/
def ReadError.at (text : Array Char) (fault : Fault) (pos : Nat) : ReadError :=
  let before := (text.toList.take pos)
  let lines := before.count '\n'
  let column := match (before.reverse.findIdx? (· == '\n')) with
    | some k => k + 1
    | none => pos + 1
  { fault, pos, line := lines + 1, column }

/-- Why a text is not read: it is not JSON, or it goes past a limit of the reader. -/
inductive Refusal where
  | malformed (e : ReadError)
  /-- Containers nested more than `nestingLimit` deep; the flag tells an array. -/
  | tooDeep (array : Bool)
  /-- A whole number of `count` digits. -/
  | tooManyDigits (count : Nat)

/-- The most containers that may be nested one inside the other. -/
def nestingLimit : Nat := 980

/-- A fault and where it happened, before it is located in lines and columns. -/
abbrev Scan := Except (Fault × Nat)

/-- Blanks between tokens. -/
def isBlank (c : Char) : Bool := c == ' ' || c == '\t' || c == '\n' || c == '\r'

/-- The first position at or after `i` that holds no blank. -/
def skipBlanks (s : Array Char) (i : Nat) : Nat :=
  if h : i < s.size then
    if isBlank s[i] then skipBlanks s (i + 1) else i
  else i
termination_by s.size - i

/-- The value of a hex digit. -/
def hexValue? (c : Char) : Option Nat :=
  if '0' ≤ c && c ≤ '9' then some (c.toNat - '0'.toNat)
  else if 'a' ≤ c && c ≤ 'f' then some (c.toNat - 'a'.toNat + 10)
  else if 'A' ≤ c && c ≤ 'F' then some (c.toNat - 'A'.toNat + 10)
  else none

/-- The number four hex digits at `i` spell. -/
def hex4? (s : Array Char) (i : Nat) : Option Nat := do
  let a ← hexValue? (← s[i]?)
  let b ← hexValue? (← s[i + 1]?)
  let c ← hexValue? (← s[i + 2]?)
  let d ← hexValue? (← s[i + 3]?)
  pure (((a * 16 + b) * 16 + c) * 16 + d)


/-- The character of a one-letter escape. -/
def escapeChar? : Char → Option Char
  | '"' => some '"'
  | '\\' => some '\\'
  | '/' => some '/'
  | 'b' => some (Char.ofNat 8)
  | 'f' => some (Char.ofNat 12)
  | 'n' => some '\n'
  | 'r' => some '\r'
  | 't' => some '\t'
  | _ => none

/-- The escape whose backslash is at `j`: the character and the position after it. A high
surrogate followed by the escape of a low surrogate joins it. -/
def readEscape (s : Array Char) (begin j : Nat) : Scan (Char × Nat) :=
  match s[j + 1]? with
  | none => .error (.unterminatedString, begin)
  | some 'u' =>
      if j + 6 ≥ s.size then .error (.badUnicodeEscape, j + 1)
      else
        match hex4? s (j + 2) with
        | none => .error (.badUnicodeEscape, j + 1)
        | some c =>
            if 0xD800 ≤ c && c ≤ 0xDBFF && j + 12 < s.size &&
                s[j + 6]? == some '\\' && s[j + 7]? == some 'u' then
              match hex4? s (j + 8) with
              | none => .error (.badUnicodeEscape, j + 7)
              | some c2 =>
                  if 0xDC00 ≤ c2 && c2 ≤ 0xDFFF then
                    .ok (Char.ofNat (0x10000 + ((c - 0xD800) <<< 10) + (c2 - 0xDC00)), j + 12)
                  else .ok (charOfCode c, j + 6)
            else .ok (charOfCode c, j + 6)
  | some e =>
      match escapeChar? e with
      | some c => .ok (c, j + 2)
      | none => .error (.badEscape, j)

/-- The rest of a text string whose opening quote is at `begin`, from `i` on: its characters
and the position after the closing quote. -/
def readString (s : Array Char) (begin i : Nat) (acc : List Char) : Scan (String × Nat) :=
  if h : i < s.size then
    let c := s[i]
    if c == '"' then .ok (String.ofList acc.reverse, i + 1)
    else if c == '\\' then
      match readEscape s begin i with
      | .error e => .error e
      | .ok (ch, next) =>
          if next > i then readString s begin next (ch :: acc)
          else .error (.badEscape, i)
    else if c.toNat ≤ 0x1F then .error (.controlCharacter, i)
    else readString s begin (i + 1) (c :: acc)
  else .error (.unterminatedString, begin)
termination_by s.size - i

/-- Whether position `i` holds an ASCII digit. -/
def digitAt (s : Array Char) (i : Nat) : Bool :=
  match s[i]? with
  | some c => '0' ≤ c && c ≤ '9'
  | none => false

/-- The first position at or after `i` that holds no digit. -/
def skipDigits (s : Array Char) (i : Nat) : Nat :=
  if h : i < s.size then
    if '0' ≤ s[i] && s[i] ≤ '9' then skipDigits s (i + 1) else i
  else i
termination_by s.size - i

/-- The digits of `s` from `a` to before `b`, as a number. -/
def digitsBetween (s : Array Char) (a b : Nat) : Nat :=
  ((s.extract a b).toList).foldl (fun acc c => acc * 10 + (c.toNat - '0'.toNat)) 0

/-- A number starting at `i`: its value and the position after it. A fraction needs a digit
after the point and an exponent a digit after its mark and sign; otherwise the number ends
before the point or the mark. -/
def readNumber (s : Array Char) (i : Nat) : Scan (Value × Nat) :=
  let neg := s[i]? == some '-'
  let a := if neg then i + 1 else i
  if a ≥ s.size then .error (.expectingValue, i)
  else
    let afterWhole :=
      if s[a]? == some '0' then some (a + 1)
      else if digitAt s a then some (skipDigits s a)
      else none
    match afterWhole with
    | none => .error (.expectingValue, i)
    | some w =>
        let whole := digitsBetween s a w
        let (fracEnd, hasFrac) :=
          if w + 1 < s.size && s[w]? == some '.' && digitAt s (w + 1) then
            (skipDigits s (w + 1), true)
          else (w, false)
        let fracDigits := if hasFrac then digitsBetween s (w + 1) fracEnd else 0
        let fracLen := if hasFrac then fracEnd - (w + 1) else 0
        let expPart : Option (Int × Nat) :=
          if fracEnd + 1 < s.size && (s[fracEnd]? == some 'e' || s[fracEnd]? == some 'E') then
            let signed := fracEnd + 2 < s.size &&
              (s[fracEnd + 1]? == some '+' || s[fracEnd + 1]? == some '-')
            let ds := if signed then fracEnd + 2 else fracEnd + 1
            let de := skipDigits s ds
            if de > ds then
              let mag : Int := digitsBetween s ds de
              some (if s[fracEnd + 1]? == some '-' then -mag else mag, de)
            else none
          else none
        match hasFrac, expPart with
        | false, none =>
            if w - a > wholeDigitLimit then .error (.tooManyDigits (w - a), a)
            else .ok (.int (if neg then -(whole : Int) else whole), w)
        | _, _ =>
            let (e, stop) := expPart.getD (0, fracEnd)
            let d := whole * Nat.pow 10 fracLen + fracDigits
            .ok (.float (decimalFloat neg d (e - fracLen)), stop)

/-- Whether the characters of `word` stand at position `i`. -/
def wordAt (s : Array Char) (i : Nat) (word : String) : Bool :=
  (s.extract i (i + word.length)).toList == word.toList

mutual
/-- A value starting at `i` inside `depth` containers: the value and the position after it.
`fuel` bounds the depth of nesting and the entries of each container; the reader gives it
one unit per character. -/
def readValue (s : Array Char) (depth : Nat) : Nat → Nat → Scan (Value × Nat)
  | 0, i => .error (.expectingValue, i)
  | fuel + 1, i =>
      match s[i]? with
      | none => .error (.expectingValue, i)
      | some '"' => (readString s i (i + 1) []).map fun (t, j) => (.str t, j)
      | some '{' =>
          if depth ≥ nestingLimit then .error (.nestedTooDeep false, i)
          else readObject s (depth + 1) fuel (skipBlanks s (i + 1)) []
      | some '[' =>
          if depth ≥ nestingLimit then .error (.nestedTooDeep true, i)
          else readArray s (depth + 1) fuel (skipBlanks s (i + 1)) []
      | some c =>
          if c == 'n' && wordAt s i "null" then .ok (.null, i + 4)
          else if c == 't' && wordAt s i "true" then .ok (.bool true, i + 4)
          else if c == 'f' && wordAt s i "false" then .ok (.bool false, i + 5)
          else if c == 'N' && wordAt s i "NaN" then .ok (.float quietNaN, i + 3)
          else if c == 'I' && wordAt s i "Infinity" then .ok (.float (signedInfinity false), i + 8)
          else if c == '-' && wordAt s i "-Infinity" then
            .ok (.float (signedInfinity true), i + 9)
          else readNumber s i

/-- The items of an array from `i` on, after the opening bracket and blanks. -/
def readArray (s : Array Char) (depth : Nat) : Nat → Nat → List Value → Scan (Value × Nat)
  | 0, i, _ => .error (.expectingValue, i)
  | fuel + 1, i, acc =>
      if acc.isEmpty && s[i]? == some ']' then .ok (.list [], i + 1)
      else
        match readValue s depth fuel i with
        | .error e => .error e
        | .ok (v, j) =>
            let k := skipBlanks s j
            match s[k]? with
            | some ']' => .ok (.list (v :: acc).reverse, k + 1)
            | some ',' => readArray s depth fuel (skipBlanks s (k + 1)) (v :: acc)
            | _ => .error (.expectingComma, k)

/-- The entries of an object from `i` on, after the opening brace and blanks; `acc` holds the
entries read so far, the last first. -/
def readObject (s : Array Char) (depth : Nat) :
    Nat → Nat → List (String × Value) → Scan (Value × Nat)
  | 0, i, _ => .error (.expectingValue, i)
  | fuel + 1, i, acc =>
      if acc.isEmpty && s[i]? == some '}' then .ok (.dict [], i + 1)
      else if s[i]? != some '"' then .error (.expectingPropertyName, i)
      else
        match readString s i (i + 1) [] with
        | .error e => .error e
        | .ok (key, j) =>
            let k := skipBlanks s j
            if s[k]? != some ':' then .error (.expectingColon, k)
            else
              match readValue s depth fuel (skipBlanks s (k + 1)) with
              | .error e => .error e
              | .ok (v, m) =>
                  let n := skipBlanks s m
                  let acc := (key, v) :: acc
                  match s[n]? with
                  | some '}' => .ok (.dict (Value.collapse acc.reverse), n + 1)
                  | some ',' => readObject s depth fuel (skipBlanks s (n + 1)) acc
                  | _ => .error (.expectingComma, n)
end

/-- The refusal of a fault met at position `pos` of `text`. -/
def Refusal.at (text : Array Char) : Fault → Nat → Refusal
  | .nestedTooDeep array, _ => .tooDeep array
  | .tooManyDigits count, _ => .tooManyDigits count
  | fault, pos => .malformed (ReadError.at text fault pos)

/-- The message of a refusal. -/
def Refusal.message : Refusal → String
  | .malformed e => e.message
  | .tooDeep array => (Fault.nestedTooDeep array).text
  | .tooManyDigits count => tooManyDigitsText count

/-- Read a whole JSON text: one value between optional blanks. A text that starts with a
byte-order mark is refused. -/
def parse (text : String) : Except Refusal Value :=
  let s := text.toList.toArray
  if s[0]? == some (Char.ofNat 0xFEFF) then .error (Refusal.at s .byteOrderMark 0)
  else
    let start := skipBlanks s 0
    match readValue s 0 (2 * s.size + 2) start with
    | .error (f, p) => .error (Refusal.at s f p)
    | .ok (v, j) =>
        let k := skipBlanks s j
        if k == s.size then .ok v else .error (Refusal.at s .extraData k)

end VolumeLifecycle.Json
