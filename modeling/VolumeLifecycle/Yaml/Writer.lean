import VolumeLifecycle.Yaml.Tag
import VolumeLifecycle.Yaml.Token
import VolumeLifecycle.Document.Display
import VolumeLifecycle.Text.Base64
/-!
# Writing YAML

A value written as a YAML document in **block style**: a mapping puts each entry on its own
line as `key: value`, a sequence each item after `- `, nested collections are indented by
two columns (a sequence that is the value of a mapping entry stays at the entry's column),
and an empty collection is written `[]` or `{}`. Mappings keep the order of their entries.

Each scalar is written in the first style that reads back as the same value:

* **plain**, when its text is read back as a value of its own kind (so the text `"12"` is
  quoted, the number `12` is not) and the text has none of what plain scalars cannot hold:
  an indicator at the start, `: ` or ` #` inside, blanks at either end, a line break, or a
  character outside printable ASCII;
* **single-quoted**, when it needs no escape: no character outside printable ASCII and
  line breaks, and no space next to a line break;
* **double-quoted**, with escapes, otherwise.

Binary data is written in base64 as a literal block tagged `!!binary`.

A key is written in place (a *simple* key) when it is not empty, has no line break and is
short; any other key is written as `? key` with its value on a line `: value`. Values are
folded at a space once a line runs past 80 columns; keys are never folded. A document whose
top is a plain scalar ends with the marker `...`.
-/

namespace VolumeLifecycle.Yaml

open VolumeLifecycle.Value VolumeLifecycle.Number VolumeLifecycle.Text

/-- The column past which long scalars are folded. -/
def lineWidth : Nat := 80

/-- The indentation of a nested block. -/
def indentStep : Nat := 2

/-- Whether a character breaks a line. -/
def isLineBreak (c : Char) : Bool :=
  c == '\n' || c == '\u0085' || c == '\u2028' || c == '\u2029'

/-- Whether a character separates an indicator from what follows: a blank, a line break or
NUL. -/
def isSeparator (c : Char) : Bool :=
  c == '\x00' || c == ' ' || c == '\t' || c == '\r' || isLineBreak c

/-- Whether a character is printable ASCII. -/
def isPrintableAscii (c : Char) : Bool := ' ' ≤ c && c ≤ '~'

/-! ### What a scalar's text allows -/

/-- The styles a scalar's text allows. -/
structure ScalarShape where
  empty : Bool
  multiline : Bool
  /-- It may be written plain in a block. -/
  plain : Bool
  /-- It may be written between single quotes. -/
  singleQuoted : Bool

/-- Whether the character at `i` is an indicator that a plain scalar cannot hold there: any
of the leading indicators at the start, `?`, `:` or `-` at the start before a separator, and
inside the text a `:` before a separator or a `#` after one. -/
def indicatorAt (cs : Array Char) (i : Nat) : Bool :=
  let c := cs.getD i ' '
  let beforeSeparator := i + 1 ≥ cs.size || isSeparator (cs.getD (i + 1) ' ')
  if i == 0 then
    "#,[]\x7b\x7d&*!|>'\"%@".toList.contains c || c == '\x60' ||
      ((c == '?' || c == ':' || c == '-') && beforeSeparator)
  else
    (c == ':' && beforeSeparator) || (c == '#' && isSeparator (cs.getD (i - 1) ' '))

/-- The shape of a scalar's text. -/
def shapeOf (text : String) : ScalarShape :=
  let cs := text.toList.toArray
  let n := cs.size
  if n == 0 then { empty := true, multiline := false, plain := true, singleQuoted := true }
  else
    let charAt (i : Nat) : Char := cs.getD i ' '
    let places := List.range n
    let indicators := text.startsWith "---" || text.startsWith "..." || places.any (indicatorAt cs)
    let lineBreaks := cs.any isLineBreak
    let special := cs.any fun c => !(c == '\n' || isPrintableAscii c)
    let blankEdge := charAt 0 == ' ' || isLineBreak (charAt 0) || charAt (n - 1) == ' ' ||
      isLineBreak (charAt (n - 1))
    let breakSpace := places.any fun i => i > 0 && charAt i == ' ' && isLineBreak (charAt (i - 1))
    let spaceBreak := places.any fun i => i > 0 && isLineBreak (charAt i) && charAt (i - 1) == ' '
    { empty := false, multiline := lineBreaks,
      plain := !(blankEdge || breakSpace || spaceBreak || special || lineBreaks || indicators),
      singleQuoted := !(breakSpace || spaceBreak || special) }

/-- The style of a scalar: plain when its text reads back as the same kind of value
(`readsBack`) and plain allows it, else single quotes when they allow it, else double
quotes. A simple key is neither plain when empty nor quoted across lines. -/
def chooseStyle (shape : ScalarShape) (readsBack simpleKey : Bool) : ScalarStyle :=
  if readsBack && !(simpleKey && (shape.empty || shape.multiline)) && shape.plain then .plain
  else if shape.singleQuoted && !(simpleKey && shape.multiline) then .single
  else .double

/-- The escape of a character in double quotes. -/
def escapeOf (c : Char) : String :=
  match c with
  | '\x00' => "\\0"
  | '\x07' => "\\a"
  | '\x08' => "\\b"
  | '\t' => "\\t"
  | '\n' => "\\n"
  | '\x0b' => "\\v"
  | '\x0c' => "\\f"
  | '\r' => "\\r"
  | '\x1b' => "\\e"
  | '"' => "\\\""
  | '\\' => "\\\\"
  | '\u0085' => "\\N"
  | '\u00a0' => "\\_"
  | '\u2028' => "\\L"
  | '\u2029' => "\\P"
  | _ =>
      let n := c.toNat
      let hex (w : Nat) : String := String.ofList ((hexPadded w n).toList.map Char.toUpper)
      if n ≤ 0xFF then "\\x" ++ hex 2 else if n ≤ 0xFFFF then "\\u" ++ hex 4 else "\\U" ++ hex 8

/-- Whether a character is escaped in double quotes. -/
def needsEscape (c : Char) : Bool :=
  c == '"' || c == '\\' || c == '\u0085' || c == '\u2028' || c == '\u2029' || c == '\ufeff' ||
    !isPrintableAscii c

/-- Consecutive characters grouped by `kind`. -/
def runsOf (kind : Char → Nat) : List Char → List (Nat × List Char)
  | [] => []
  | c :: cs =>
      match runsOf kind cs with
      | (k, run) :: rest =>
          if k == kind c then (k, c :: run) :: rest else (kind c, [c]) :: (k, run) :: rest
      | [] => [(kind c, [c])]

/-- The kind of a character in a flowing scalar: a space (1), a line break (2) or other (0). -/
def flowKind (c : Char) : Nat := if c == ' ' then 1 else if isLineBreak c then 2 else 0

/-! ### The pen -/

/-- The text written so far and where the writer stands. -/
structure Pen where
  out : String := ""
  column : Nat := 0
  /-- The last thing written ends in a blank, or the line is empty. -/
  whitespace : Bool := true
  /-- Only indentation and indicators stand on the current line. -/
  indention : Bool := true
  /-- A plain scalar at the top of the document was written last. -/
  openEnded : Bool := false

/-- Write text on the current line. -/
def Pen.write (p : Pen) (s : String) : Pen :=
  { p with out := p.out ++ s, column := p.column + s.length }

/-- End the current line with `brk`. -/
def Pen.lineBreak (p : Pen) (brk : String) : Pen :=
  { p with out := p.out ++ brk, column := 0, whitespace := true, indention := true }

/-- Go to column `indent`, on a new line unless the current one holds only indentation
before that column. -/
def Pen.indentTo (p : Pen) (indent : Nat) : Pen :=
  let p := if !p.indention || p.column > indent || (p.column == indent && !p.whitespace) then
      p.lineBreak "\n"
    else p
  if p.column < indent then
    { p.write (String.ofList (List.replicate (indent - p.column) ' ')) with whitespace := true }
  else p

/-- Write an indicator, after a space when `spaced` and the pen is not after a blank;
`whitespace` says whether the indicator counts as a blank, `indention` whether it may stand
in the indentation. -/
def Pen.indicator (p : Pen) (s : String) (spaced whitespace indention : Bool) : Pen :=
  let data := if p.whitespace || !spaced then s else " " ++ s
  { p.write data with whitespace, indention := p.indention && indention, openEnded := false }

/-! ### Scalars -/

/-- A plain scalar; a single space past the line width folds the line when `split`. -/
def Pen.plain (p : Pen) (text : String) (split : Bool) (indent : Nat) (top : Bool) : Pen :=
  let p := if top then { p with openEnded := true } else p
  if text.isEmpty then p
  else
    let p := if p.whitespace then p else p.write " "
    let p := { p with whitespace := false, indention := false }
    (runsOf flowKind text.toList).foldl (fun p (k, run) =>
      if k == 1 && run.length == 1 && p.column > lineWidth && split then
        { p.indentTo indent with whitespace := false, indention := false }
      else p.write (String.ofList run)) p

/-- A single-quoted scalar: quotes doubled, a line break written as an empty line, and a
single inner space past the line width folding the line when `split`. -/
def Pen.singleQuoted (p : Pen) (text : String) (split : Bool) (indent : Nat) : Pen :=
  let cs := text.toList
  let p := p.indicator "'" true false false
  let (p, _) := (runsOf flowKind cs).foldl (fun (p, pos) (k, run) =>
    let stop := pos + run.length
    let p :=
      if k == 1 then
        if run.length == 1 && p.column > lineWidth && split && pos != 0 && stop != cs.length then
          p.indentTo indent
        else p.write (String.ofList run)
      else if k == 2 then
        let p := if run.head? == some '\n' then p.lineBreak "\n" else p
        (run.foldl (fun p br => p.lineBreak (String.singleton br)) p).indentTo indent
      else p.write (String.join (run.map fun c => if c == '\'' then "''" else String.singleton c))
    (p, stop)) (p, 0)
  p.indicator "'" false false false

/-- The characters of `cs` from `a` to before `b`. -/
def slice (cs : Array Char) (a b : Nat) : String := String.ofList (cs.extract a b).toList

/-- The rest of a double-quoted scalar from position `stop`, the text from `start` not yet
written: escapes are written as they come, and a line past the width is folded with a final
backslash when `split`. -/
def Pen.doubleQuotedFrom (p : Pen) (cs : Array Char) (split : Bool) (indent start stop : Nat) :
    Pen :=
  if stop ≤ cs.size then
    let ch := cs[stop]?
    let (p, start) :=
      if ch.all needsEscape then
        let (p, start) := if start < stop then (p.write (slice cs start stop), stop) else (p, start)
        match ch with
        | some c => (p.write (escapeOf c), stop + 1)
        | none => (p, start)
      else (p, start)
    let fold := 0 < stop && stop + 1 < cs.size && (ch == some ' ' || start ≥ stop) &&
      (p.column : Int) + ((stop : Int) - start) > lineWidth && split
    let (p, start) :=
      if fold then
        let p := p.write (slice cs start stop ++ "\\")
        let start := if start < stop then stop else start
        let p := { p.indentTo indent with whitespace := false, indention := false }
        (if cs[start]? == some ' ' then p.write "\\" else p, start)
      else (p, start)
    p.doubleQuotedFrom cs split indent start (stop + 1)
  else p
termination_by cs.size + 1 - stop

/-- A double-quoted scalar. -/
def Pen.doubleQuoted (p : Pen) (text : String) (split : Bool) (indent : Nat) : Pen :=
  let p := p.indicator "\"" true false false
  let p := p.doubleQuotedFrom text.toList.toArray split indent 0 0
  p.indicator "\"" false false false

/-- The indicator of a literal block: the indentation when the text starts with a blank or a
line break, then `-` when it does not end with a line break, or `+` when it ends with more
than one. -/
def blockHints (cs : List Char) : String :=
  match cs.head?, cs.getLast? with
  | some first, some last =>
      let lead := if first == ' ' || isLineBreak first then toString indentStep else ""
      let chomp := if !isLineBreak last then "-"
        else if cs.length == 1 || isLineBreak (cs.getD (cs.length - 2) ' ') then "+"
        else ""
      lead ++ chomp
  | _, _ => ""

/-- A literal block: its lines below the indicator, each at column `indent`. -/
def Pen.literal (p : Pen) (text : String) (indent : Nat) : Pen :=
  let cs := text.toList
  let hints := blockHints cs
  let p := p.indicator ("|" ++ hints) true false false
  let p := if hints.endsWith "+" then { p with openEnded := true } else p
  let p := p.lineBreak "\n"
  let runs := runsOf (fun c => if isLineBreak c then 1 else 0) cs
  let (p, _) := runs.foldl (fun (p, i) (k, run) =>
    let last := i + 1 == runs.length
    if k == 1 then
      let p := run.foldl (fun p br => p.lineBreak (String.singleton br)) p
      (if last then p else p.indentTo indent, i + 1)
    else
      let p := if i == 0 then p.indentTo indent else p
      let p := p.write (String.ofList run)
      (if last then p.lineBreak "\n" else p, i + 1)) (p, 0)
  p

/-- The text of a double as written in YAML: `.nan`, `.inf`, `-.inf`, or its shortest digits
in lower case, with `.0` before an exponent that has no point before it. -/
def floatText (x : Float) : String :=
  match Binary.ofFloat x with
  | .nan => ".nan"
  | .infinite neg => if neg then "-.inf" else ".inf"
  | .finite .. =>
      let t := (FloatFormat.display.render x).toLower
      if !t.contains '.' && t.contains 'e' then t.replace "e" ".0e" else t

/-- The text of a scalar and whether it reads back plain as a value of its own kind. -/
def writtenScalar : Value → String × Bool
  | .null => ("null", true)
  | .bool b => (if b then "true" else "false", true)
  | .int n => (intText n, true)
  | .float x => (floatText x, true)
  | .str s => (s, resolveScalar s true == coreTag "str")
  | .date y m d => (dateText y m d, true)
  | .moment y m d t => (dateText y m d ++ " " ++ timeText t, true)
  | v => (v.display, false)

/-- Where a node stands. -/
structure Place where
  /-- At the top of the document. -/
  top : Bool := false
  /-- A key or a value of a mapping. -/
  mapping : Bool := false
  /-- A key written in place. -/
  simpleKey : Bool := false

/-- Write a scalar at indentation `indent`. -/
def Pen.scalar (p : Pen) (place : Place) (indent : Nat) (v : Value) : Pen :=
  let (text, readsBack) := writtenScalar v
  let split := !place.simpleKey
  match chooseStyle (shapeOf text) readsBack place.simpleKey with
  | .plain => p.plain text split indent place.top
  | .single => p.singleQuoted text split indent
  | _ => p.doubleQuoted text split indent

/-- Whether a key is written in place: not empty, on one line, and short with its tag. -/
def simpleKey (key : String) : Bool :=
  let shape := shapeOf key
  key.length + "!!str".length < 128 && !shape.empty && !shape.multiline

/-- The indentation of what a node at `indent` holds. -/
def innerIndent : Option Nat → Nat
  | none => indentStep
  | some i => i + indentStep

mutual
/-- Write a node standing at indentation `indent` (`none` at the top). -/
def Pen.node (p : Pen) (place : Place) (indent : Option Nat) : Value → Pen
  | .list xs =>
      if xs.isEmpty then (p.indicator "[" true true false).indicator "]" false false false
      else
        let inner := match indent with
          | none => 0
          | some i => if place.mapping && !p.indention then i else i + indentStep
        p.items inner xs
  | .dict es =>
      if es.isEmpty then (p.indicator "\x7b" true true false).indicator "\x7d" false false false
      else p.entries (match indent with | none => 0 | some i => i + indentStep) es
  | .bytes bs =>
      (p.indicator "!!binary" true false false).literal (encodeBase64Lines bs) (innerIndent indent)
  | v => p.scalar place (innerIndent indent) v

/-- Write the items of a block sequence at `indent`. -/
def Pen.items (p : Pen) (indent : Nat) : List Value → Pen
  | [] => p
  | x :: xs =>
      let p := (p.indentTo indent).indicator "-" true false true
      (p.node {} (some indent) x).items indent xs

/-- Write the entries of a block mapping at `indent`. -/
def Pen.entries (p : Pen) (indent : Nat) : List (String × Value) → Pen
  | [] => p
  | (k, v) :: es =>
      let p := p.indentTo indent
      let p :=
        if simpleKey k then
          let p := p.scalar { mapping := true, simpleKey := true } (indent + indentStep) (.str k)
          (p.indicator ":" false false false).node { mapping := true } (some indent) v
        else
          let p := (p.indicator "?" true false true).scalar { mapping := true }
            (indent + indentStep) (.str k)
          let p := (p.indentTo indent).indicator ":" true false true
          p.node { mapping := true } (some indent) v
      p.entries indent es
end

/-- A value as a YAML document. -/
def writeDocument (v : Value) : String :=
  let p := ({} : Pen).node { top := true } none v
  let p := p.indentTo 0
  let p := if p.openEnded then (p.indicator "..." true false false).indentTo 0 else p
  p.out

end VolumeLifecycle.Yaml
