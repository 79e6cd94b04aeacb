import VolumeLifecycle.Document.Value
import VolumeLifecycle.Number.Format
import VolumeLifecycle.Text.Quote
/-!
# How values are shown in messages

Two texts of a value. `Value.literal` is the form a value takes inside a list or a mapping, and
the form of a key in a missing-key message: texts quoted, `None`, `True` and `False`, doubles
by their shortest digits, brackets and braces with `, ` between items and `: ` after keys.
`Value.display` is the form a value takes when it is written into a message on its own: a
text is itself, a date is `YYYY-MM-DD` (with ` HH:MM:SS` after it when it has a time), and
everything else is as `Value.literal` writes it.
-/

namespace VolumeLifecycle.Value

open VolumeLifecycle.Number VolumeLifecycle.Text

/-- `n` in decimal, padded with zeros to `width` digits. -/
def padDecimal (width n : Nat) : String :=
  let ds := toString n
  String.ofList (List.replicate (width - ds.length) '0') ++ ds

/-- A date as `YYYY-MM-DD`. -/
def dateText (year month day : Nat) : String :=
  padDecimal 4 year ++ "-" ++ padDecimal 2 month ++ "-" ++ padDecimal 2 day

/-- An offset from UTC in minutes as `+HH:MM` or `-HH:MM`. -/
def offsetText (minutes : Int) : String :=
  let sign := if minutes < 0 then "-" else "+"
  let a := minutes.natAbs
  sign ++ padDecimal 2 (a / 60) ++ ":" ++ padDecimal 2 (a % 60)

/-- A time as `HH:MM:SS`, then `.ffffff` when it has microseconds, then its offset. -/
def timeText (t : TimeOfDay) : String :=
  padDecimal 2 t.hour ++ ":" ++ padDecimal 2 t.minute ++ ":" ++ padDecimal 2 t.second
    ++ (if t.micro == 0 then "" else "." ++ padDecimal 6 t.micro)
    ++ (match t.offset with
        | some o => offsetText o
        | none => "")

/-- A date with a time in ISO form, `T` between the two. -/
def momentIso (year month day : Nat) (t : TimeOfDay) : String :=
  dateText year month day ++ "T" ++ timeText t

/-- An offset from UTC as a literal: whole days (rounded down) and the seconds left. -/
def offsetLiteral (minutes : Int) : String :=
  if minutes == 0 then "datetime.timezone.utc"
  else
    let secs := minutes * 60
    let days := secs / 86400
    let rest := secs - days * 86400
    let parts := (if days == 0 then [] else ["days=" ++ toString days])
      ++ (if rest == 0 then [] else ["seconds=" ++ toString rest])
    "datetime.timezone(datetime.timedelta(" ++ ", ".intercalate parts ++ "))"

/-- A date with a time as a literal: the microseconds are left out when zero, and then the
seconds too when zero. -/
def momentLiteral (year month day : Nat) (t : TimeOfDay) : String :=
  let tail := if t.micro != 0 then [t.second, t.micro]
    else if t.second != 0 then [t.second] else []
  let fields := [year, month, day, t.hour, t.minute] ++ tail
  let zone := match t.offset with
    | some o => ", tzinfo=" ++ offsetLiteral o
    | none => ""
  "datetime.datetime(" ++ ", ".intercalate (fields.map toString) ++ zone ++ ")"

mutual
/-- The form of a value inside a container. -/
def literal : Value → String
  | .null => "None"
  | .bool b => if b then "True" else "False"
  | .int n => intText n
  | .float x => FloatFormat.display.render x
  | .str s => quote s
  | .list xs => "[" ++ literalItems xs ++ "]"
  | .set xs => if xs.isEmpty then "set()" else "\x7b" ++ literalItems xs ++ "\x7d"
  | .dict es => "\x7b" ++ literalEntries es ++ "\x7d"
  | .date y m d => s!"datetime.date({y}, {m}, {d})"
  | .moment y m d t => momentLiteral y m d t
  | .bytes bs => quoteBytes bs

/-- Items separated by `, `. -/
def literalItems : List Value → String
  | [] => ""
  | [x] => literal x
  | x :: xs => literal x ++ ", " ++ literalItems xs

/-- Entries `key: value` separated by `, `. -/
def literalEntries : List (String × Value) → String
  | [] => ""
  | [(k, v)] => quote k ++ ": " ++ literal v
  | (k, v) :: es => quote k ++ ": " ++ literal v ++ ", " ++ literalEntries es
end

/-- The form of a value written on its own into a message. -/
def display : Value → String
  | .str s => s
  | .date y m d => dateText y m d
  | .moment y m d t => dateText y m d ++ " " ++ timeText t
  | v => v.literal

/-- The text a mapping key is stored under: the key's own display form, so `true` becomes
`True` and a null key `None`. Keys of one text are one entry. -/
def keyText (v : Value) : String := v.display

end VolumeLifecycle.Value
