import VolumeLifecycle.Document.Display
import VolumeLifecycle.Number.Format
/-!
# Writing JSON

A `Value` is written as JSON text under a `Style`: the separators between items and after
keys, whether keys are sorted, and whether every character outside printable ASCII is
escaped. Doubles are written by their shortest digits (`FloatFormat.json`), so NaN and the
infinities appear as the words `NaN`, `Infinity` and `-Infinity`.

`Style.standard` is the text a controller's answer body has: items separated by `, `, keys
followed by `: `, keys in their own order, and only printable ASCII in the output. Dates and
byte strings have no JSON form; they are written as their ISO text and as hex.
-/

namespace VolumeLifecycle.Json

open VolumeLifecycle.Number

/-- The decisions of one way of writing JSON. -/
structure Style where
  /-- Between items of arrays and objects. -/
  itemSep : String
  /-- Between a key and its value. -/
  keySep : String
  /-- Keys in sorted order rather than their own. -/
  sortKeys : Bool
  /-- Escape every character outside printable ASCII. -/
  asciiOnly : Bool

/-- The text of a controller's answer body. -/
def Style.standard : Style := { itemSep := ", ", keySep := ": ", sortKeys := false, asciiOnly := true }

/-- Compact text with sorted keys and characters as they are. -/
def Style.compact : Style := { itemSep := ",", keySep := ":", sortKeys := true, asciiOnly := false }

/-- Four lower-case hex digits. -/
def hex4 (n : Nat) : String :=
  let ds := Nat.toDigits 16 n
  String.ofList (List.replicate (4 - ds.length) '0' ++ ds)

/-- The escape of one character inside a JSON string. A lone surrogate is always escaped. -/
def escapeChar (asciiOnly : Bool) (c : Char) : String :=
  let n := c.toNat
  if let some code := Text.surrogateOf? c then "\\u" ++ hex4 code
  else if c == '"' then "\\\""
  else if c == '\\' then "\\\\"
  else if c == '\n' then "\\n"
  else if c == '\r' then "\\r"
  else if c == '\t' then "\\t"
  else if n == 8 then "\\b"
  else if n == 12 then "\\f"
  else if n < 0x20 then "\\u" ++ hex4 n
  else if !asciiOnly || n < 0x7F then String.singleton c
  else if n < 0x10000 then "\\u" ++ hex4 n
  else
    let v := n - 0x10000
    "\\u" ++ hex4 (0xD800 + (v >>> 10)) ++ "\\u" ++ hex4 (0xDC00 + (v &&& 0x3FF))

/-- A JSON string. -/
def Style.string (st : Style) (s : String) : String :=
  "\"" ++ String.join (s.toList.map (escapeChar st.asciiOnly)) ++ "\""

/-- Written entries `(key, text)` in the order the style writes them. -/
def Style.order (st : Style) (es : List (String × String)) : List (String × String) :=
  if st.sortKeys then es.mergeSort (fun a b => decide (a.1 ≤ b.1)) else es

/-- Bytes as hex. -/
def bytesHex (bs : List UInt8) : String :=
  String.join (bs.map fun b =>
    let ds := Nat.toDigits 16 b.toNat
    String.ofList (List.replicate (2 - ds.length) '0' ++ ds))

mutual
/-- The JSON text of a value. -/
def Style.write (st : Style) : Value → String
  | .null => "null"
  | .bool b => if b then "true" else "false"
  | .int n => intText n
  | .float x => FloatFormat.json.render x
  | .str s => st.string s
  | .list xs | .set xs => "[" ++ st.itemSep.intercalate (st.writeItems xs) ++ "]"
  | .dict es =>
      "\x7b" ++ st.itemSep.intercalate ((st.order (st.writeEntries es)).map (·.2)) ++ "\x7d"
  | .date y m d => st.string s!"{y}-{m}-{d}"
  | .moment y m d t => st.string (Value.momentIso y m d t)
  | .bytes bs => st.string (bytesHex bs)

/-- The texts of items. -/
def Style.writeItems (st : Style) : List Value → List String
  | [] => []
  | x :: xs => st.write x :: st.writeItems xs

/-- Each entry's key with its text `key: value`. -/
def Style.writeEntries (st : Style) : List (String × Value) → List (String × String)
  | [] => []
  | (k, v) :: es => (k, st.string k ++ st.keySep ++ st.write v) :: st.writeEntries es
end

end VolumeLifecycle.Json
