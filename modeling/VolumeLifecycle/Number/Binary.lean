/-!
# Binary doubles as exact numbers

A double is read off its 64 bits as a signed `m · 2 ^ q`, a signed infinity or NaN, and built
back from an exact positive rational by **rounding to nearest, ties to an even mantissa**.
Everything here is `Nat` and `Int` arithmetic, so the rules can be reasoned about; the only
floating-point primitives used are `Float.toBits` and `Float.ofBits`.

* `Binary.ofFloat` — what a double stands for.
* `nearestBits` — the double nearest to `num / den`, or `none` past the largest finite one.
* `Binary.compareInt` — exact comparison of a finite double with an integer.
-/

namespace VolumeLifecycle.Number

/-- What a double stands for: a finite `±m · 2 ^ q`, a signed infinity, or NaN. -/
inductive Binary where
  | finite (neg : Bool) (m : Nat) (q : Int)
  | infinite (neg : Bool)
  | nan
  deriving Inhabited

/-- Decode 64 bits: exponent field `0x7FF` is an infinity (zero fraction) or NaN, field `0`
is subnormal with scale `2 ^ -1074`, and any other field `e` adds the hidden bit and has
scale `2 ^ (e - 1075)`. -/
def Binary.ofBits (b : UInt64) : Binary :=
  let neg := (b >>> 63) == 1
  let e := ((b >>> 52) &&& 0x7FF).toNat
  let f := (b &&& 0xFFFFFFFFFFFFF).toNat
  if e == 0x7FF then
    if f == 0 then .infinite neg else .nan
  else if e == 0 then .finite neg f (-1074)
  else .finite neg (f + Nat.pow 2 52) ((e : Int) - 1075)

/-- What the double `x` stands for. -/
def Binary.ofFloat (x : Float) : Binary := Binary.ofBits x.toBits

/-- `2 ^ e ≤ num / den`, decided in `Nat` arithmetic. -/
def pow2Le (num den : Nat) (e : Int) : Bool :=
  if e ≥ 0 then den * Nat.pow 2 e.toNat ≤ num else den ≤ num * Nat.pow 2 (-e).toNat

/-- The binary exponent `e` with `2 ^ e ≤ num / den < 2 ^ (e + 1)`, for `num > 0`: the
difference of the two bit lengths is that exponent or one more. -/
def binaryExponent (num den : Nat) : Int :=
  let e0 : Int := (Nat.log2 num : Int) - (Nat.log2 den : Int)
  if pow2Le num den e0 then e0 else e0 - 1

/-- `num / den` rounded to an integer, ties to even. -/
def roundHalfEven (num den : Nat) : Nat :=
  let q := num / den
  let r := num % den
  if 2 * r > den || (2 * r == den && q % 2 == 1) then q + 1 else q

/-- The bits (without sign) of the double nearest to `num / den`, ties to an even mantissa;
`none` when the nearest value is past the largest finite double. The mantissa is rounded at
scale `2 ^ s` with `s = max (e - 52) (-1074)`, so subnormals keep their fixed scale; a mantissa
that rounds up to `2 ^ 53` moves to the next binade. -/
def nearestBits (num den : Nat) : Option UInt64 :=
  if num == 0 || den == 0 then some 0
  else
    let e := binaryExponent num den
    let s : Int := max (e - 52) (-1074)
    let m := if s ≥ 0 then roundHalfEven num (den * Nat.pow 2 s.toNat)
      else roundHalfEven (num * Nat.pow 2 (-s).toNat) den
    let (m, s) := if m ≥ Nat.pow 2 53 then (m / 2, s + 1) else (m, s)
    if m < Nat.pow 2 52 then some m.toUInt64
    else
      let field := s + 1075
      if field ≥ 2047 then none
      else some ((field.toNat.toUInt64 <<< 52) ||| (m - Nat.pow 2 52).toUInt64)

/-- Zero with the given sign. -/
def signedZero (neg : Bool) : Float := Float.ofBits (if neg then 0x8000000000000000 else 0)

/-- Infinity with the given sign. -/
def signedInfinity (neg : Bool) : Float :=
  Float.ofBits ((if neg then 0x8000000000000000 else 0) ||| 0x7FF0000000000000)

/-- The quiet NaN with a clear sign bit. -/
def quietNaN : Float := Float.ofBits 0x7FF8000000000000

/-- The double nearest to `±num / den`; past the largest finite double it is an infinity. -/
def nearestFloat (neg : Bool) (num den : Nat) : Float :=
  let sign : UInt64 := if neg then 0x8000000000000000 else 0
  match nearestBits num den with
  | some bits => Float.ofBits (sign ||| bits)
  | none => signedInfinity neg

/-- The double nearest to an integer, or `none` when it would be past the largest finite
double (the integer is then too large to convert). -/
def Binary.ofInt? (n : Int) : Option Float :=
  let sign : UInt64 := if n < 0 then 0x8000000000000000 else 0
  (nearestBits n.natAbs 1).map fun bits => Float.ofBits (sign ||| bits)

/-- Exact order of a finite `±m · 2 ^ q` against an integer. -/
def compareFiniteInt (neg : Bool) (m : Nat) (q : Int) (n : Int) : Ordering :=
  -- both sides scaled by 2 ^ (-q) when q < 0
  let lhs : Int := if q ≥ 0 then (m * Nat.pow 2 q.toNat : Nat) else m
  let rhs : Int := if q ≥ 0 then n else n * (Nat.pow 2 (-q).toNat : Nat)
  let lhs := if neg then -lhs else lhs
  compare lhs rhs

/-- Exact comparison of a double with an integer: `none` for NaN, infinities lie beyond
every integer. -/
def Binary.compareInt : Binary → Int → Option Ordering
  | .nan, _ => none
  | .infinite neg, _ => some (if neg then .lt else .gt)
  | .finite neg m q, n => some (compareFiniteInt neg m q n)

/-- The integer a finite double equals, when it is integral. -/
def Binary.toInt? : Binary → Option Int
  | .finite neg m q =>
      let v : Option Nat :=
        if q ≥ 0 then some (m * Nat.pow 2 q.toNat)
        else if m % Nat.pow 2 (-q).toNat == 0 then some (m / Nat.pow 2 (-q).toNat) else none
      v.map fun k => if neg then -(k : Int) else k
  | _ => none

end VolumeLifecycle.Number
