import VolumeLifecycle.Document.Access
/-!
# Arithmetic and order on document numbers

Timeouts, intervals and clock readings come from documents, so they are values of any kind.
This module gives them the arithmetic of mixed numbers:

* booleans are the whole numbers `0` and `1`;
* two whole numbers add and subtract exactly;
* when either side is a double, both become doubles and the IEEE operation applies, and a
  whole number too large for a double is refused;
* order compares the exact values, so `2 ^ 53 + 1` is above the double `2 ^ 53`, and NaN is
  in no order with anything;
* any other kind is refused with the operator and both kinds named, left side first.

`Value.least` is the smaller of two values where the first wins unless the second is
strictly below it; that is the order in which a refusal names the kinds.
-/

namespace VolumeLifecycle.Value

open VolumeLifecycle.Number

/-- A number as a double. -/
def Numeric.toReal : Numeric → Except Failure Float
  | .whole n => wholeToReal n
  | .real x => .ok x

/-- Exact order of two numbers; `none` when a NaN is involved. -/
def Numeric.order : Numeric → Numeric → Option Ordering
  | .whole a, .whole b => some (compare a b)
  | .real x, .real y =>
      if x < y then some .lt else if x == y then some .eq else if y < x then some .gt else none
  | .whole a, .real y => ((Binary.ofFloat y).compareInt a).map Ordering.swap
  | .real x, .whole b => (Binary.ofFloat x).compareInt b

/-- One of the two arithmetic operators on numbers. -/
inductive Arith where
  | add
  | sub

/-- The operator as messages write it. -/
def Arith.symbol : Arith → String
  | .add => "+"
  | .sub => "-"

/-- Apply an operator to two numbers. -/
def Arith.apply (op : Arith) (a b : Numeric) : Except Failure Value :=
  match a, b with
  | .whole x, .whole y => .ok (.int (match op with | .add => x + y | .sub => x - y))
  | _, _ => do
      let x ← a.toReal
      let y ← b.toReal
      pure (.float (match op with | .add => x + y | .sub => x - y))

/-- `a op b` on documents: numbers as above, and `+` also joins two texts or two lists. -/
def arith (op : Arith) (a b : Value) : Except Failure Value :=
  match a.numeric?, b.numeric? with
  | some x, some y => op.apply x y
  | _, _ =>
      match op, a, b with
      | .add, .str s, .str t => .ok (.str (s ++ t))
      | .add, .list xs, .list ys => .ok (.list (xs ++ ys))
      | _, _, _ => .error (.mistyped (.operands op.symbol a.kind b.kind))

/-- `a + b`. -/
def plus (a b : Value) : Except Failure Value := arith .add a b

/-- `a - b`. -/
def minus (a b : Value) : Except Failure Value := arith .sub a b

/-- The order of two values that can be ordered: numbers by value and texts by code
points; `symbol` names the comparison in the refusal. -/
def order (symbol : String) (a b : Value) : Except Failure (Option Ordering) :=
  match a.numeric?, b.numeric?, a, b with
  | some x, some y, _, _ => .ok (x.order y)
  | _, _, .str s, .str t => .ok (some (compare s t))
  | _, _, _, _ => .error (.mistyped (.unordered symbol a.kind b.kind))

/-- `a < b`. -/
def lessThan (a b : Value) : Except Failure Bool :=
  (order "<" a b).map (· == some .lt)

/-- `a <= b`. -/
def atMost (a b : Value) : Except Failure Bool :=
  (order "<=" a b).map fun o => o == some .lt || o == some .eq

/-- The smaller of two values: `b` only when it is strictly below `a`. -/
def least (a b : Value) : Except Failure Value := do
  if ← lessThan b a then pure b else pure a

end VolumeLifecycle.Value
