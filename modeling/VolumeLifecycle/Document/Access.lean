import VolumeLifecycle.Failure
import VolumeLifecycle.Number.Read
/-!
# Reading documents that may have any shape

The operations that read a document whose shape is not guaranteed, each with the failure it
reports when the shape is wrong:

* `getOr` — the value under a key of a mapping, or a default; anything but a mapping has no
  such operation;
* `field` — the value under a key that must be there;
* `item` — the item of a list at a position, or the value of a mapping under a whole number;
* `members` — what a `for` walks: the items of a list, the keys of a mapping, the characters
  of a text;
* `contains` — membership: equality for a list, key for a mapping, part for a text;
* `entriesOf` — the mapping a value makes: a copy of a mapping, or the pairs a list holds;
* `joinTexts` — texts joined by a separator, refusing anything that is not a text;
* `wholeOf` / `realOf` — conversion to a whole number or a double (a double may also be
  written in ASCII bytes).
-/

namespace VolumeLifecycle.Value

open VolumeLifecycle.Number

/-- The value under `key` of a mapping, or `fallback`; other kinds have no `get`. -/
def getOr (v : Value) (key : String) (fallback : Value := .null) : Except Failure Value :=
  match v with
  | .dict es => .ok ((lookup es key).getD fallback)
  | _ => .error (.noAttribute v.kind "get")

/-- The value under `key`, which must be there. -/
def field (v : Value) (key : String) : Except Failure Value :=
  match v with
  | .dict es =>
      match lookup es key with
      | some x => .ok x
      | none => .error (.missingKey (.str key))
  | .list _ => .error (.mistyped (.listIndex "str"))
  | .str _ => .error (.mistyped (.textIndex "str"))
  | _ => .error (.mistyped (.notSubscriptable v.kind))

/-- Whether a value can be a key of a set or a mapping: lists, sets and mappings cannot. -/
def hashable : Value → Bool
  | .list _ | .set _ | .dict _ => false
  | _ => true

/-- The item at position `i` of a list (from the end when negative), or the value of a
mapping under the whole number `i`; a mapping's keys are texts, so that lookup fails. -/
def item (v : Value) (i : Int) : Except Failure Value :=
  match v with
  | .list xs =>
      let n : Int := xs.length
      let j := if i < 0 then i + n else i
      if j < 0 || j ≥ n then .error .indexOutOfRange
      else match xs[j.toNat]? with
        | some x => .ok x
        | none => .error .indexOutOfRange
  | .str s =>
      let cs := s.toList
      let n : Int := cs.length
      let j := if i < 0 then i + n else i
      if j < 0 || j ≥ n then .error .indexOutOfRange
      else match cs[j.toNat]? with
        | some c => .ok (.str (String.singleton c))
        | none => .error .indexOutOfRange
  | .dict _ => .error (.missingKey (.int i))
  | _ => .error (.mistyped (.notSubscriptable v.kind))

/-- What a `for` loop walks over a value. -/
def members (v : Value) : Except Failure (List Value) :=
  match v with
  | .list xs | .set xs => .ok xs
  | .dict es => .ok (es.map fun e => .str e.1)
  | .str s => .ok (s.toList.map fun c => .str (String.singleton c))
  | .bytes bs => .ok (bs.map fun b => .int b.toNat)
  | _ => .error (.mistyped (.notIterable v.kind))

/-- Whether `x` occurs in `container`. -/
def contains (container x : Value) : Except Failure Bool :=
  match container with
  | .list xs => .ok (xs.any (same x))
  | .set xs =>
      if !x.hashable then .error (.mistyped (.unhashable x.kind))
      else .ok (xs.any (same x))
  | .dict es =>
      if !x.hashable then .error (.mistyped (.unhashable x.kind))
      else match x with
        | .str k => .ok (es.any (·.1 == k))
        | _ => .ok false
  | .str s =>
      match x with
      | .str t => .ok ((s.splitOn t).length > 1 || t.isEmpty)
      | _ => .error (.mistyped (.containsLeft x.kind))
  | _ => .error (.mistyped (.notContainer container.kind))

/-- The mapping a value makes when taken as one: a mapping is copied; anything else that can
be walked must give pairs, each item itself a sequence of a key and a value (a later pair
with an equal key replaces the earlier value in its place, the first key staying). Keys are
stored under their display text. -/
def entriesOf (v : Value) : Except Failure (List (String × Value)) :=
  match v with
  | .dict es => .ok es
  | _ => do
    let items ← v.members
    let rec go : Nat → List Value → List (Value × Value) → Except Failure (List (Value × Value))
      | _, [], acc => .ok acc.reverse
      | i, x :: rest, acc => do
        let pair ← match x.members with
          | .ok pair => .ok pair
          | .error _ => .error (.mistyped (.pairItem i))
        match pair with
        | [k, y] =>
            if !k.hashable then .error (.mistyped (.unhashable k.kind))
            else go (i + 1) rest ((k, y) :: acc)
        | _ => .error (.invalid (.pairLength i pair.length))
    let pairs ← go 0 items []
    pure (collapse ((collapseBy keyCanon pairs).map fun (k, y) => (k.keyText, y)))

/-- The texts of `items`, refusing the first item that is not a text. -/
def textsOf (items : List Value) : Except Failure (List String) :=
  let rec go : Nat → List Value → Except Failure (List String)
    | _, [] => .ok []
    | i, .str s :: rest => (go (i + 1) rest).map (s :: ·)
    | i, x :: _ => .error (.mistyped (.joinItem i x.kind))
  go 0 items

/-- The items of `v` joined by `sep`; they must all be texts. -/
def joinTexts (sep : String) (v : Value) : Except Failure String := do
  let items ← match v.members with
    | .ok xs => pure xs
    | .error _ => throw (.mistyped .joinArgument)
  let texts ← textsOf items
  pure (sep.intercalate texts)

/-- The whole number a finite double is, cut toward zero. -/
def truncate (neg : Bool) (m : Nat) (q : Int) : Int :=
  let k : Nat := if q ≥ 0 then m * Nat.pow 2 q.toNat else m / Nat.pow 2 (-q).toNat
  if neg then -(k : Int) else k

/-- A value as a whole number: doubles are cut toward zero and texts read in base ten. -/
def wholeOf (v : Value) : Except Failure Int :=
  match v with
  | .bool b => .ok (if b then 1 else 0)
  | .int n => .ok n
  | .float x =>
      match Binary.ofFloat x with
      | .finite neg m q => .ok (truncate neg m q)
      | .infinite _ => .error .infinityToInt
      | .nan => .error (.invalid .nanToInt)
  | .str s =>
      match readWhole s with
      | .ok n => .ok n
      | .error (.tooLong count) => .error (.invalid (.tooManyDigits count))
      | .error .malformed => .error (.invalid (.intLiteral s))
  | _ => .error (.mistyped (.intArgument v.kind))

/-- A whole number as a double; one past the largest double is refused. -/
def wholeToReal (n : Int) : Except Failure Float :=
  match Binary.ofInt? n with
  | some x => .ok x
  | none => .error .intTooLarge

/-- Whether a byte is a blank that may surround a real number written in bytes. -/
def isByteBlank (b : UInt8) : Bool := b == 32 || (9 ≤ b && b ≤ 13)

/-- A real number written in ASCII bytes, if the bytes spell one; blanks around it are the
ASCII ones. -/
def readFloatBytes? (bs : List UInt8) : Option Float :=
  let body := (bs.dropWhile isByteBlank).reverse.dropWhile isByteBlank |>.reverse
  if body.all (fun b => 33 ≤ b && b ≤ 126) then
    readFloat? (String.ofList (body.map fun b => Char.ofNat b.toNat))
  else none

/-- A value as a double: texts, and bytes, are read as real numbers. -/
def realOf (v : Value) : Except Failure Float :=
  match v with
  | .bytes bs =>
      match readFloatBytes? bs with
      | some x => .ok x
      | none => .error (.invalid (.floatBytes bs))
  | .bool b => .ok (if b then 1.0 else 0.0)
  | .int n => wholeToReal n
  | .float x => .ok x
  | .str s =>
      match readFloat? s with
      | some x => .ok x
      | none => .error (.invalid (.floatLiteral s))
  | _ => .error (.mistyped (.floatArgument v.kind))

end VolumeLifecycle.Value
