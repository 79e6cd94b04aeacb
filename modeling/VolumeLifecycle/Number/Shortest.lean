import VolumeLifecycle.Number.Binary
/-!
# Shortest decimal digits of a double

The decimal `d · 10 ^ t` with the **fewest significant digits that reads back** as the given
finite positive double `m · 2 ^ q`, and of those the **nearest**. A decimal reads back when it
lies in the double's rounding interval: half a unit of the mantissa on either side (a quarter
below a power of two, where the gap below is half as wide), ends included exactly when `m`
is even, since a tie rounds to the even mantissa.

For `n = 1, 2, …, 17` digits the value's two neighbours on the grid `10 ^ (E - n + 1)` are
tested, where `10 ^ E ≤ x < 10 ^ (E + 1)`: if any point of that grid lies in the interval,
one of the two neighbours does. The first grid with a hit wins, of two hits the nearer, and
of two equally near the even one. All of it is exact `Nat` arithmetic on the value scaled to
an integer.
-/

namespace VolumeLifecycle.Number

/-- Number of decimal digits of `n` (one for zero). -/
def decimalLength (n : Nat) : Nat := (Nat.toDigits 10 n).length

/-- The decimal exponent `E` with `10 ^ E ≤ num / den < 10 ^ (E + 1)`, for `num > 0`: the
difference of the two digit counts is that exponent or one more. -/
def decimalExponent (num den : Nat) : Int :=
  let e0 : Int := (decimalLength num : Int) - (decimalLength den : Int)
  let holds : Bool :=
    if e0 ≥ 0 then den * Nat.pow 10 e0.toNat ≤ num else den ≤ num * Nat.pow 10 (-e0).toNat
  if holds then e0 else e0 - 1

/-- Drop trailing zeros of `d · 10 ^ t`, keeping its value. -/
def stripZeros (d : Nat) (t : Int) : Nat → Nat × Int
  | 0 => (d, t)
  | fuel + 1 => if d != 0 && d % 10 == 0 then stripZeros (d / 10) (t + 1) fuel else (d, t)

/-- The candidate on the grid `10 ^ t` for `m · 2 ^ q`, if a grid point reads back.

The value, the two half-gaps and the grid step are scaled by `2 ^ max 0 (2 - q)` and
`10 ^ max 0 (-t)`, which makes all four integers. -/
def gridHit (m : Nat) (q : Int) (t : Int) : Option Nat :=
  let two := Nat.pow 2 (max q 2).toNat
  let ten := Nat.pow 10 (max 0 (-t)).toNat
  let x := m * two * ten
  let above := Nat.pow 2 ((max q 2) - 1).toNat * ten
  let below :=
    if m == Nat.pow 2 52 && q > -1074 then Nat.pow 2 ((max q 2) - 2).toNat * ten else above
  let g := Nat.pow 10 (max t 0).toNat * Nat.pow 2 (max 0 (2 - q)).toNat
  let c := x / g
  if x % g == 0 then some c
  else
    let inclusive := m % 2 == 0
    let lo := x - c * g
    let hi := (c + 1) * g - x
    let inLo := if inclusive then lo ≤ below else lo < below
    let inHi := if inclusive then hi ≤ above else hi < above
    if inLo && inHi then
      if lo < hi then some c
      else if hi < lo then some (c + 1)
      else if c % 2 == 0 then some c else some (c + 1)
    else if inLo then some c
    else if inHi then some (c + 1)
    else none

/-- Search the grids for `n = k + 1, …` significant digits below `10 ^ (e + 1)`. -/
def searchGrids (m : Nat) (q : Int) (e : Int) (k : Nat) : Nat → Nat × Int
  | 0 => (m, q)
  | fuel + 1 =>
      let t := e - k
      match gridHit m q t with
      | some d => stripZeros d t (decimalLength d)
      | none => searchGrids m q e (k + 1) fuel

/-- The shortest decimal `(d, t)`, meaning `d · 10 ^ t`, that reads back as the finite
positive double `m · 2 ^ q`; `d` has no trailing zero. Seventeen digits always suffice. -/
def shortestDecimal (m : Nat) (q : Int) : Nat × Int :=
  if m == 0 then (0, 0)
  else
    let num := m * Nat.pow 2 q.toNat
    let den := Nat.pow 2 (-q).toNat
    searchGrids m q (decimalExponent num den) 0 17

end VolumeLifecycle.Number
