import VolumeLifecycle.Text.Pattern
/-!
# Resolving the tags of untagged nodes

A node without a tag gets one from its kind: a sequence is a `seq`, a mapping a `map`. A
plain scalar without a tag (or any scalar with the non-specific tag `!`) is matched against
the patterns of the YAML 1.1 core types, tried in a fixed order among those that its first
character can start:

* `bool`: `yes`, `no`, `true`, `false`, `on`, `off`, each in lower case, capitalized or
  upper case;
* `float`: a decimal with a point (the exponent needs a sign), a sexagesimal number with a
  point, `.inf` and `.nan` in three casings, with a sign for infinity;
* `int`: binary `0b…`, octal `0…`, decimal, hexadecimal `0x…` and sexagesimal `1:30`, with
  underscores allowed among the digits;
* `merge` `<<`, `null` (`~`, `null` in three casings, and the empty text), `timestamp`
  (a date, or a date and a time), `value` `=`.

A scalar that matches none of them is a `str`. So `1e3` is a string (no point), `0o17` is a
string (no such prefix in YAML 1.1), and `0x1F` is the integer 31.
-/

namespace VolumeLifecycle.Yaml

open VolumeLifecycle.Text Pattern

/-- The full name of a tag of the core schema. -/
def coreTag (name : String) : String := "tag:yaml.org,2002:" ++ name

/-- `+` or `-`, or nothing. -/
def signPattern : Pattern := .opt (oneOf "-+")

/-- Digits and underscores. -/
def digitsPattern : Pattern := .star (oneOf "0123456789_")

/-- A base-60 part: `:` and one digit, or two digits the first of which is at most 5. -/
def sexagesimalPart : Pattern := seqs [lit ":", .opt (range '0' '5'), digit]

/-- The booleans. -/
def boolPattern : Pattern :=
  alts (["yes", "Yes", "YES", "no", "No", "NO", "true", "True", "TRUE", "false", "False", "FALSE",
    "on", "On", "ON", "off", "Off", "OFF"].map lit)

/-- The floating-point numbers. -/
def floatPattern : Pattern :=
  let exponent := Pattern.opt (seqs [oneOf "eE", oneOf "-+", plus digit])
  alts [
    seqs [signPattern, digit, digitsPattern, lit ".", digitsPattern, exponent],
    seqs [lit ".", digit, digitsPattern, exponent],
    seqs [signPattern, digit, digitsPattern, plus sexagesimalPart, lit ".", digitsPattern],
    seqs [signPattern, lit ".", alts [lit "inf", lit "Inf", lit "INF"]],
    seqs [lit ".", alts [lit "nan", lit "NaN", lit "NAN"]]]

/-- The integers. -/
def intPattern : Pattern :=
  alts [
    seqs [signPattern, lit "0b", plus (oneOf "01_")],
    seqs [signPattern, lit "0", plus (oneOf "01234567_")],
    seqs [signPattern, alts [lit "0", seqs [range '1' '9', digitsPattern]]],
    seqs [signPattern, lit "0x", plus (oneOf "0123456789abcdefABCDEF_")],
    seqs [signPattern, range '1' '9', digitsPattern, plus sexagesimalPart]]

/-- The nulls, the empty text among them. -/
def nullPattern : Pattern := alts [lit "~", lit "null", lit "Null", lit "NULL", .done]

/-- Dates, and dates with a time. -/
def timestampPattern : Pattern :=
  let blanks := oneOf " \t"
  alts [
    seqs [digit, digit, digit, digit, lit "-", digit, digit, lit "-", digit, digit],
    seqs [digit, digit, digit, digit, lit "-", digit, .opt digit, lit "-", digit, .opt digit,
      alts [oneOf "Tt", plus blanks], digit, .opt digit, lit ":", digit, digit, lit ":", digit,
      digit, .opt (seqs [lit ".", .star digit]),
      .opt (seqs [.star blanks,
        alts [lit "Z", seqs [oneOf "-+", digit, .opt digit, .opt (seqs [lit ":", digit, digit])]]])]]

/-- The implicit tags in the order they are tried: the tag, the first characters (none for
the empty text) a scalar of it can start with, and its pattern. -/
def implicitTags : List (String × List (Option Char) × Pattern) :=
  let chars (s : String) : List (Option Char) := s.toList.map some
  [(coreTag "bool", chars "yYnNtTfFoO", boolPattern),
   (coreTag "float", chars "-+0123456789.", floatPattern),
   (coreTag "int", chars "-+0123456789", intPattern),
   (coreTag "merge", chars "<", lit "<<"),
   (coreTag "null", chars "~nN" ++ [none], nullPattern),
   (coreTag "timestamp", chars "0123456789", timestampPattern),
   (coreTag "value", chars "=", lit "="),
   (coreTag "yaml", chars "!&*", alts [lit "!", lit "&", lit "*"])]

/-- The tag of a scalar without a specific tag: resolved from its text when `resolved`,
otherwise `str`. -/
def resolveScalar (text : String) (resolved : Bool) : String :=
  if !resolved then coreTag "str"
  else
    let first := text.toList.head?
    match implicitTags.find? fun (_, firsts, p) => firsts.contains first && p.fullMatch text with
    | some (tag, _, _) => tag
    | none => coreTag "str"

end VolumeLifecycle.Yaml
