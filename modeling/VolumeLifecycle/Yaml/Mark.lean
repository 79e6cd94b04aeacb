import VolumeLifecycle.Text.Quote
/-!
# Positions and syntax errors of YAML documents

Every token, event and node of a YAML document carries the **mark** where it starts: the
offset in characters, the line and the column, all counted from zero. A syntax error names
what was being read when it failed (its context, with the mark where that began) and what
went wrong (its problem, with the mark where that was found). Messages count lines and
columns from one.

A context whose mark is the problem's own mark is not repeated: the message then shows the
context's words, the problem and one mark.

Before any token is read, the text is checked for characters YAML does not allow; such a
character is reported with its code point and its offset.
-/

namespace VolumeLifecycle.Yaml

/-- A position in a document: offset in characters, line and column, from zero. -/
structure Mark where
  index : Nat
  line : Nat
  column : Nat
  deriving Inhabited, BEq

/-- The line naming a mark in a message, for a document called `name`. -/
def Mark.text (name : String) (m : Mark) : String :=
  s!"  in \"{name}\", line {m.line + 1}, column {m.column + 1}"

/-- An error found while reading a document. -/
inductive Error where
  /-- A syntax error: what was being read and where that began (each may be missing), and
  the problem with its mark. -/
  | marked (context : Option String) (contextMark : Option Mark) (problem : String) (found : Mark)
  /-- A character that no document may hold, with its code point and offset. -/
  | unacceptable (code : Nat) (position : Nat)
  /-- A fault of another kind met while building a value (a date that does not exist, a
  number that does not read): its kind and its text. -/
  | raised (kind message : String)
  deriving Inhabited

/-- The message of an error in a document called `name`. -/
def Error.text (name : String) : Error → String
  | .marked context contextMark problem m =>
      let head := match context with
        | some c => [c]
        | none => []
      let placed := match contextMark with
        | some cm => if cm.line == m.line && cm.column == m.column then [] else [cm.text name]
        | none => []
      "\n".intercalate (head ++ placed ++ [problem, m.text name])
  | .unacceptable code position =>
      s!"unacceptable character #x{Text.hexPadded 4 code}: special characters are not allowed\n  in \"{name}\", position {position}"
  | .raised _ message => message

/-- Whether a character may appear in a document: tab, line feed, carriage return, the
printable ASCII range, NEL, and the rest of Unicode but for surrogates and the two
non-characters at the end of the basic plane. -/
def allowedChar (c : Char) : Bool :=
  let n := Text.codePoint c
  n == 0x09 || n == 0x0A || n == 0x0D || (0x20 ≤ n && n ≤ 0x7E) || n == 0x85
    || (0xA0 ≤ n && n ≤ 0xD7FF) || (0xE000 ≤ n && n ≤ 0xFFFD) || 0x10000 ≤ n

/-- The first character a document may not hold, with its offset. -/
def firstUnacceptable (cs : List Char) : Option (Char × Nat) :=
  go cs 0
where
  go : List Char → Nat → Option (Char × Nat)
    | [], _ => none
    | c :: rest, i => if allowedChar c then go rest (i + 1) else some (c, i)

end VolumeLifecycle.Yaml
