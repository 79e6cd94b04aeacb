import VolumeLifecycle.Number.Shortest
/-!
# Writing numbers

Integers are written in plain decimal with a leading `-` when negative. A double is written
from its shortest digits (`shortestDecimal`) under a `FloatFormat`, the record of the
decisions a format makes: where positional notation ends, the suffix of a whole number, the
exponent's mark, sign and width, and the words for NaN and infinity.

`FloatFormat.display` is the format of messages and displayed values: positional when the
decimal point falls after at most 16 digits and no more than 4 zeros follow the point, whole
numbers keep `.0`, exponents are signed and have two digits at least. `FloatFormat.json` is the
same with JSON's `NaN` and `Infinity`.
-/

namespace VolumeLifecycle.Number

/-- The decisions of one way of writing doubles. -/
structure FloatFormat where
  /-- Positional notation is used when `minPoint < p ≤ maxPoint`, where the value is
  `0.d₁d₂… · 10 ^ p`. -/
  minPoint : Int
  /-- See `minPoint`. -/
  maxPoint : Int
  /-- Appended to a whole number written positionally. -/
  wholeSuffix : String
  /-- Mark before the exponent. -/
  expMark : String
  /-- Least number of exponent digits. -/
  expDigits : Nat
  /-- Text of NaN. -/
  nan : String
  /-- Text of positive infinity; negative infinity gets a `-` in front. -/
  inf : String

/-- Messages and displayed values. -/
def FloatFormat.display : FloatFormat :=
  { minPoint := -4, maxPoint := 16, wholeSuffix := ".0", expMark := "e", expDigits := 2,
    nan := "nan", inf := "inf" }

/-- JSON text. -/
def FloatFormat.json : FloatFormat :=
  { FloatFormat.display with nan := "NaN", inf := "Infinity" }

/-- Decimal text of an integer. -/
def intText (n : Int) : String :=
  if n < 0 then "-" ++ toString n.natAbs else toString n.natAbs

/-- `n` zeros. -/
def zeros (n : Nat) : String := String.ofList (List.replicate n '0')

/-- The digits `ds` (no trailing zero) of a value `0.ds · 10 ^ p`, written by `fmt`. -/
def FloatFormat.digitsText (fmt : FloatFormat) (ds : String) (p : Int) : String :=
  let n := ds.length
  if fmt.minPoint < p && p ≤ fmt.maxPoint then
    if p ≤ 0 then "0." ++ zeros (-p).toNat ++ ds
    else if p.toNat < n then
      String.ofList (ds.toList.take p.toNat) ++ "." ++ String.ofList (ds.toList.drop p.toNat)
    else ds ++ zeros (p.toNat - n) ++ fmt.wholeSuffix
  else
    let mant := match ds.toList with
      | [] => "0"
      | [d] => String.singleton d
      | d :: rest => String.singleton d ++ "." ++ String.ofList rest
    let e := p - 1
    let digits := toString e.natAbs
    let padded := zeros (fmt.expDigits - digits.length) ++ digits
    mant ++ fmt.expMark ++ (if e < 0 then "-" else "+") ++ padded

/-- Text of a double under `fmt`. -/
def FloatFormat.render (fmt : FloatFormat) (x : Float) : String :=
  match Binary.ofFloat x with
  | .nan => fmt.nan
  | .infinite neg => (if neg then "-" else "") ++ fmt.inf
  | .finite neg m q =>
      let sign := if neg then "-" else ""
      if m == 0 then sign ++ "0" ++ fmt.wholeSuffix
      else
        let (d, t) := shortestDecimal m q
        let ds := toString d
        sign ++ fmt.digitsText ds (t + ds.length)

end VolumeLifecycle.Number
