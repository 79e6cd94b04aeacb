import VolumeLifecycle.Text.Printable
import VolumeLifecycle.Text.Surrogate
/-!
# Quoted text

The quoted form of a text, as messages show a key or a literal: single quotes, or double
quotes when the text holds a single quote and no double quote. Inside, the chosen quote and
the backslash get a backslash, tab, newline and carriage return their letter escapes, other
ASCII controls and DEL a two-digit hex escape, and characters that are not printable the
shortest of `\xNN`, `\uNNNN` and `\UNNNNNNNN`; a lone surrogate is not printable and shows
its own code. Hex digits are lower case.
-/

namespace VolumeLifecycle.Text

/-- `n` in lower-case hex, padded with zeros to `width` digits. -/
def hexPadded (width n : Nat) : String :=
  let ds := Nat.toDigits 16 n
  String.ofList (List.replicate (width - ds.length) '0' ++ ds)

/-- The escape of one character inside quotes `q`. -/
def quoteChar (q : Char) (c : Char) : String :=
  let n := c.toNat
  if let some code := surrogateOf? c then "\\u" ++ hexPadded 4 code
  else if c == q || c == '\\' then "\\" ++ String.singleton c
  else if c == '\t' then "\\t"
  else if c == '\n' then "\\n"
  else if c == '\r' then "\\r"
  else if n < 0x20 || n == 0x7F then "\\x" ++ hexPadded 2 n
  else if n < 0x7F then String.singleton c
  else if isPrintable c then String.singleton c
  else if n ≤ 0xFF then "\\x" ++ hexPadded 2 n
  else if n ≤ 0xFFFF then "\\u" ++ hexPadded 4 n
  else "\\U" ++ hexPadded 8 n

/-- The quote a text is shown in. -/
def quoteFor (cs : List Char) : Char :=
  if cs.contains '\'' && !cs.contains '"' then '"' else '\''

/-- The quoted form of a text. -/
def quote (s : String) : String :=
  let q := quoteFor s.toList
  String.singleton q ++ String.join (s.toList.map (quoteChar q)) ++ String.singleton q

/-- The quoted form of a byte string: `b` and quotes around ASCII, escapes for the rest. -/
def quoteBytes (bs : List UInt8) : String :=
  let cs := bs.map fun b => Char.ofNat b.toNat
  let q := quoteFor cs
  let esc (b : UInt8) : String :=
    let c := Char.ofNat b.toNat
    if c == q || c == '\\' then "\\" ++ String.singleton c
    else if c == '\t' then "\\t"
    else if c == '\n' then "\\n"
    else if c == '\r' then "\\r"
    else if b < 0x20 || b ≥ 0x7F then "\\x" ++ hexPadded 2 b.toNat
    else String.singleton c
  "b" ++ String.singleton q ++ String.join (bs.map esc) ++ String.singleton q

end VolumeLifecycle.Text
