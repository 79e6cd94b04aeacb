import VolumeLifecycle.Number.Binary
/-!
# Document values

The values that documents are made of: the JSON answers of a controller, the YAML of a
configuration file, volume states and requests. A mapping keeps its keys in the order they
were first written; writing an existing key replaces its value where it stands.

Besides the JSON kinds there are calendar dates and byte strings, which a YAML document can
hold. Numbers keep the distinction between whole numbers (unbounded `Int`) and doubles.

The module fixes the rules every later module relies on:

* `Value.truthy` — empty texts, lists and mappings, zero, `false` and `null` are false;
* `Value.same` — equality of documents: numbers compare by value across whole numbers,
  doubles and booleans, mappings compare as sets of entries, sets as sets;
* `Value.kind` — the name a value's kind has in messages.
-/

namespace VolumeLifecycle

/-- A time of day to the microsecond, with its offset from UTC in minutes when it has one. -/
structure TimeOfDay where
  hour : Nat
  minute : Nat
  second : Nat
  micro : Nat
  offset : Option Int
  deriving Inhabited, BEq

/-- A document value. -/
inductive Value where
  | null
  | bool (b : Bool)
  | int (n : Int)
  | float (x : Float)
  | str (s : String)
  | list (items : List Value)
  /-- A set: its members, each once, in the order they were added. -/
  | set (members : List Value)
  | dict (entries : List (String × Value))
  | date (year month day : Nat)
  /-- A calendar date with a time of day. -/
  | moment (year month day : Nat) (time : TimeOfDay)
  | bytes (data : List UInt8)
  deriving Inhabited

namespace Value

/-- The name of a value's kind, as messages spell it. -/
def kind : Value → String
  | .null => "NoneType"
  | .bool _ => "bool"
  | .int _ => "int"
  | .float _ => "float"
  | .str _ => "str"
  | .list _ => "list"
  | .set _ => "set"
  | .dict _ => "dict"
  | .date .. => "datetime.date"
  | .moment .. => "datetime.datetime"
  | .bytes _ => "bytes"

/-- Whether a value counts as true in a condition. A NaN double is true: it is not zero. -/
def truthy : Value → Bool
  | .null => false
  | .bool b => b
  | .int n => n != 0
  | .float x => !(x == 0.0)
  | .str s => !s.isEmpty
  | .list xs | .set xs => !xs.isEmpty
  | .dict es => !es.isEmpty
  | .date .. | .moment .. => true
  | .bytes b => !b.isEmpty

/-- The value stored under `k`, if any. -/
def lookup {α : Type} (es : List (String × α)) (k : String) : Option α :=
  (es.find? (·.1 == k)).map (·.2)

/-- Store `v` under `k`: in place when `k` is present, at the end otherwise. -/
def insert {α : Type} (es : List (String × α)) (k : String) (v : α) : List (String × α) :=
  if es.any (·.1 == k) then es.map fun e => if e.1 == k then (k, v) else e
  else es ++ [(k, v)]

/-- The entries without the one under `k`. -/
def erase {α : Type} (es : List (String × α)) (k : String) : List (String × α) :=
  es.filter (·.1 != k)

/-- One entry `(text, place, key, value)` added to the runs of equal texts built so far, the
last run first: it joins the last run when it has that run's text, which keeps its place and
key and takes the new value, and starts a run of its own otherwise. -/
def collapseStep {β α : Type} (acc : List (String × Nat × β × α)) (e : String × Nat × β × α) :
    List (String × Nat × β × α) :=
  match acc with
  | (c', i', k', _) :: rest => if c' == e.1 then (c', i', k', e.2.2.2) :: rest else e :: acc
  | [] => [e]

/-- `a` put into `l` before the first entry it does not come after under `le`. -/
def insertBy {γ : Type} (le : γ → γ → Bool) (a : γ) : List γ → List γ
  | [] => [a]
  | b :: l => if le a b then a :: b :: l else b :: insertBy le a l

/-- `l` sorted by `le`, stably: entries that `le` ranks alike keep their order. An insertion
sort: each of its steps is structural, so a document that is collapsed can be evaluated by
the kernel, which `List.mergeSort`'s well-founded recursion stops. Proofs see it through its
equations only. -/
@[irreducible] def sortBy {γ : Type} (le : γ → γ → Bool) (l : List γ) : List γ :=
  l.foldr (insertBy le) []

/-- Entries whose keys have one `canon` text made one: at the place of the first of them,
with the first one's key and the last one's value. The entries are sorted by that text
(stably, so each run keeps its order), each run is made one, and the runs are put back in
the order of their first entries. -/
def collapseBy {β α : Type} (canon : β → String) (es : List (β × α)) : List (β × α) :=
  let indexed := es.zipIdx.map fun ((k, v), i) => (canon k, i, k, v)
  let sorted := sortBy (fun a b => decide (a.1 ≤ b.1)) indexed
  let runs := sorted.foldl collapseStep []
  (sortBy (fun a b => decide (a.2.1 ≤ b.2.1)) runs).map fun (_, _, k, v) => (k, v)

/-- Entries with one key made one, at the key's first place with its last value: what
storing the entries one after the other with `insert` gives. -/
def collapse {α : Type} (es : List (String × α)) : List (String × α) :=
  collapseBy id es

/-- Write the entries of `more` over `es` (whose keys are distinct), in order. -/
def update {α : Type} (es more : List (String × α)) : List (String × α) :=
  collapse (es ++ more)

/-- The number a value stands for, when it is one: booleans count as `0` and `1`. -/
inductive Numeric where
  | whole (n : Int)
  | real (x : Float)

/-- The number a value stands for, if it is a boolean, a whole number or a double. -/
def numeric? : Value → Option Numeric
  | .bool b => some (.whole (if b then 1 else 0))
  | .int n => some (.whole n)
  | .float x => some (.real x)
  | _ => none

/-- Equality of numbers by value: a double equals a whole number only when it is that
number exactly, and NaN equals nothing. -/
def Numeric.same : Numeric → Numeric → Bool
  | .whole a, .whole b => a == b
  | .real x, .real y => x == y
  | .whole a, .real y | .real y, .whole a =>
      (Number.Binary.ofFloat y).compareInt a == some .eq

/-- Equality of two values as numbers: `false` unless both are numbers. -/
def sameNumber (a b : Value) : Bool :=
  match a.numeric?, b.numeric? with
  | some x, some y => x.same y
  | _, _ => false

mutual
/-- Equality of documents. Each kind of the first value has its own case, so that the
recursion is structural and the kernel can evaluate it. -/
def same : Value → Value → Bool
  | .null, b => match b with
    | .null => true
    | _ => false
  | .bool x, b => sameNumber (.bool x) b
  | .int n, b => sameNumber (.int n) b
  | .float x, b => sameNumber (.float x) b
  | .str a, b => match b with
    | .str b => a == b
    | _ => false
  | .list xs, b => match b with
    | .list ys => sameList xs ys
    | _ => false
  | .set xs, b => match b with
    | .set ys => xs.length == ys.length && sameMembers xs ys
    | _ => false
  | .dict xs, b => match b with
    | .dict ys => xs.length == ys.length && sameEntries xs ys
    | _ => false
  | .date y m d, b => match b with
    | .date y' m' d' => y == y' && m == m' && d == d'
    | _ => false
  | .moment y m d t, b => match b with
    | .moment y' m' d' t' => y == y' && m == m' && d == d' && t == t'
    | _ => false
  | .bytes a, b => match b with
    | .bytes b => a == b
    | _ => false
termination_by structural a _ => a

/-- Element-wise equality of two lists. -/
def sameList : List Value → List Value → Bool
  | [], ys => ys.isEmpty
  | x :: xs, ys => match ys with
    | [] => false
    | y :: ys => same x y && sameList xs ys
termination_by structural xs _ => xs

/-- Every member of the first set is in the second. -/
def sameMembers : List Value → List Value → Bool
  | [], _ => true
  | x :: rest, ys => ys.any (fun y => same x y) && sameMembers rest ys
termination_by structural xs _ => xs

/-- Every entry of the first mapping is in the second with an equal value. -/
def sameEntries : List (String × Value) → List (String × Value) → Bool
  | [], _ => true
  | (k, v) :: rest, ys =>
      (match ys.find? (·.1 == k) with
        | some (_, w) => same v w
        | none => false) && sameEntries rest ys
termination_by structural es _ => es
end

/-- A text that two keys share exactly when they are equal (`same`): numbers by their value,
so `1`, `1.0` and `true` share one, and every NaN shares one. Lists, sets and mappings are
never keys. -/
def keyCanon : Value → String
  | .null => "z"
  | .str s => "s" ++ s
  | .bytes bs => "b" ++ toString (bs.map UInt8.toNat)
  | .date y m d => s!"d{y}-{m}-{d}"
  | .moment y m d t =>
      s!"t{y}-{m}-{d} {t.hour}:{t.minute}:{t.second}.{t.micro} " ++ toString t.offset
  | v =>
      match v.numeric? with
      | some (.whole n) => "n" ++ toString n
      | some (.real x) =>
          match (Number.Binary.ofFloat x).toInt? with
          | some n => "n" ++ toString n
          | none => if x.isNaN then "nan" else "f" ++ toString x.toBits
      | none => "?"

mutual
/-- Whether containers stand in `v` more than `limit` deep, one inside the other. The
members are searched in order, so the first path that goes too deep ends the search. -/
def nestedBeyond : Nat → Value → Bool
  | limit, .list xs | limit, .set xs =>
      match limit with
      | 0 => true
      | l + 1 => anyNestedBeyond l xs
  | limit, .dict es =>
      match limit with
      | 0 => true
      | l + 1 => anyEntryNestedBeyond l es
  | _, _ => false

/-- Whether some item goes more than `limit` deep. -/
def anyNestedBeyond (limit : Nat) : List Value → Bool
  | [] => false
  | x :: xs => nestedBeyond limit x || anyNestedBeyond limit xs

/-- Whether some entry's value goes more than `limit` deep. -/
def anyEntryNestedBeyond (limit : Nat) : List (String × Value) → Bool
  | [] => false
  | (_, v) :: es => nestedBeyond limit v || anyEntryNestedBeyond limit es
end

end Value

end VolumeLifecycle
