import VolumeLifecycle.Number.Binary
import VolumeLifecycle.Text.Blank
import VolumeLifecycle.Text.Digit
/-!
# Reading numbers from text

* `decimalFloat` — the double nearest to `±d · 10 ^ e`, exactly rounded. Exponents far past the
  double range are settled without computing their power: a nonzero `d · 10 ^ e` with
  `e > 400` is past the largest double, and one whose last digit sits below `10 ^ -330` is
  below half the least subnormal.
* `readInt?` — a whole number: optional blanks around, an optional sign, decimal digits of
  any script with single underscores between digits.
* `readWhole` — `readInt?` with a bound on length: a text whose run of digits is longer than
  `wholeDigitLimit` is refused for that before anything after the run is looked at.
* `readIntBase?` — a whole number in base 2, 8, 10 or 16, in the same frame; in bases 2, 8
  and 16 the digits may follow the base's prefix (`0b`, `0o`, `0x`, in either case). Decimal
  digits of any script count as the digits 0 to 9 in every base.
* `readFloat?` — a real number: the same frame around digits with an optional point and an
  optional exponent, or the words `inf`, `infinity` and `nan` in any case.
-/

namespace VolumeLifecycle.Number

open VolumeLifecycle.Text

/-- The double nearest to `±d · 10 ^ e`. -/
def decimalFloat (neg : Bool) (d : Nat) (e : Int) : Float :=
  if d == 0 then signedZero neg
  else if e > 400 then signedInfinity neg
  else if e + (Nat.toDigits 10 d).length < -330 then signedZero neg
  else if e ≥ 0 then nearestFloat neg (d * Nat.pow 10 e.toNat) 1
  else nearestFloat neg d (Nat.pow 10 (-e).toNat)

/-- Digits of any script with single underscores between them, as their values; `none` when
the text is empty, starts or ends with an underscore, has two underscores together, or holds
anything else. -/
def digitRun? (cs : List Char) : Option (List Nat) :=
  let rec go : List Char → Bool → Option (List Nat)
    | [], afterDigit => if afterDigit then some [] else none
    | '_' :: rest, afterDigit => if afterDigit then go rest false else none
    | c :: rest, _ => do
        let v ← digitValue? c
        let vs ← go rest true
        pure (v :: vs)
  match cs with
  | '_' :: _ => none
  | _ => go cs false

/-- The number the digit values spell in base ten. -/
def digitsValue (ds : List Nat) : Nat := ds.foldl (fun acc d => acc * 10 + d) 0

/-- Split an optional leading sign off. -/
def splitSign (cs : List Char) : Bool × List Char :=
  match cs with
  | '-' :: rest => (true, rest)
  | '+' :: rest => (false, rest)
  | _ => (false, cs)

/-- A whole number written in base ten, if `s` is one. -/
def readInt? (s : String) : Option Int := do
  let (neg, body) := splitSign (trimBlank s).toList
  let ds ← digitRun? body
  let n := digitsValue ds
  pure (if neg then -(n : Int) else n)

/-- The most digits a whole number written in base ten may have. -/
def wholeDigitLimit : Nat := 4300

/-- The message of a base-ten text with `count` digits, more than `wholeDigitLimit`. -/
def tooManyDigitsText (count : Nat) : String :=
  s!"Exceeds the limit ({wholeDigitLimit} digits) for integer string conversion: value has {count} digits; use sys.set_int_max_str_digits() to increase the limit"

/-- Why a text is not read as a whole number. -/
inductive WholeFault where
  /-- The text does not spell a whole number. -/
  | malformed
  /-- The text's run of digits has `count` digits, more than `wholeDigitLimit`. -/
  | tooLong (count : Nat)
  deriving DecidableEq

/-- The digits of the run of digits and single underscores that a whole number starts with,
when the run itself is well formed: no underscore first, last or next to another. -/
def leadingDigitCount? (body : List Char) : Option Nat :=
  let run := body.takeWhile fun c => c == '_' || (digitValue? c).isSome
  let pieces := run.splitOn '_'
  if pieces.any List.isEmpty && !run.isEmpty then none
  else some (run.filter (· != '_')).length

/-- A whole number written in base ten; a run of more than `wholeDigitLimit` digits is
refused whatever follows it. -/
def readWhole (s : String) : Except WholeFault Int :=
  let (_, body) := splitSign (s.toList.dropWhile isBlank)
  match leadingDigitCount? body with
  | some count =>
      if count > wholeDigitLimit then .error (.tooLong count)
      else (readInt? s).elim (.error .malformed) .ok
  | none => .error .malformed

/-- The value of a digit or an ASCII letter as a digit of `base`, if it is one: decimal
digits of any script are 0 to 9, letters from `a` on are 10 and up. -/
def baseDigit? (base : Nat) (c : Char) : Option Nat :=
  let v := if 'a' ≤ c && c ≤ 'z' then some (c.toNat - 'a'.toNat + 10)
    else if 'A' ≤ c && c ≤ 'Z' then some (c.toNat - 'A'.toNat + 10)
    else digitValue? c
  v.bind fun d => if d < base then some d else none

/-- Digits of `base` with single underscores between them (and, after a prefix, before the
first), as their values. -/
def baseRun? (base : Nat) (leadingUnderscore : Bool) (cs : List Char) : Option (List Nat) :=
  let rec go : List Char → Bool → Option (List Nat)
    | [], afterDigit => if afterDigit then some [] else none
    | '_' :: rest, afterDigit => if afterDigit then go rest false else none
    | c :: rest, _ => do
        let v ← baseDigit? base c
        let vs ← go rest true
        pure (v :: vs)
  match cs with
  | '_' :: rest => if leadingUnderscore then go rest false else none
  | _ => go cs false

/-- A whole number written in `base` (2, 8, 10 or 16), if `s` is one. -/
def readIntBase? (s : String) (base : Nat) : Option Int := do
  if base == 10 then return ← readInt? s
  let (neg, body) := splitSign (trimBlank s).toList
  let marker := if base == 2 then 'b' else if base == 8 then 'o' else 'x'
  let (prefixed, digits) := match body with
    | '0' :: m :: rest => if m.toLower == marker then (true, rest) else (false, body)
    | _ => (false, body)
  let ds ← baseRun? base prefixed digits
  let n := ds.foldl (fun acc d => acc * base + d) 0
  pure (if neg then -(n : Int) else n)

/-- The characters of `cs` in lower case, for the ASCII letters only. -/
def asciiLower (cs : List Char) : List Char := cs.map Char.toLower

/-- The mantissa of a real number: digits with an optional point, at least one digit on
one side. Returns the digit values and how many of them follow the point. -/
def mantissa? (cs : List Char) : Option (List Nat × Nat) :=
  match cs.span (· != '.') with
  | (whole, []) => (digitRun? whole).map fun ds => (ds, 0)
  | (whole, _ :: frac) =>
      match whole, frac with
      | [], [] => none
      | [], _ => (digitRun? frac).map fun ds => (ds, ds.length)
      | _, [] => (digitRun? whole).map fun ds => (ds, 0)
      | _, _ => do
          let w ← digitRun? whole
          let f ← digitRun? frac
          pure (w ++ f, f.length)

/-- What the text of a real number stands for. -/
inductive RealText where
  | finite (d : Nat) (e : Int)
  | infinity
  | nan

/-- A real number's text without sign: mantissa and optional exponent, or a word. -/
def RealText.read? (cs : List Char) : Option RealText :=
  let low := asciiLower cs
  if low == "inf".toList || low == "infinity".toList then some .infinity
  else if low == "nan".toList then some .nan
  else
    match cs.span (fun c => c != 'e' && c != 'E') with
    | (m, []) => (mantissa? m).map fun (ds, k) => .finite (digitsValue ds) (-(k : Int))
    | (m, _ :: ex) => do
        let (ds, k) ← mantissa? m
        let (eneg, edigits) := splitSign ex
        let es ← digitRun? edigits
        let e : Int := if eneg then -(digitsValue es : Int) else digitsValue es
        pure (.finite (digitsValue ds) (e - k))

/-- A real number, if `s` is one. -/
def readFloat? (s : String) : Option Float :=
  let (neg, body) := splitSign (trimBlank s).toList
  (RealText.read? body).map fun
    | .finite d e => decimalFloat neg d e
    | .infinity => signedInfinity neg
    | .nan => quietNaN

end VolumeLifecycle.Number
