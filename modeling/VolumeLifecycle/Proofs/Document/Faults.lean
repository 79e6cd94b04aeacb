import VolumeLifecycle.Redfish.Message
import VolumeLifecycle.Document.Arith
/-!
# VolumeLifecycle.Proofs.Document.Faults

**Reading a document never raises a lifecycle error.** The lifecycle errors (preconditions,
rejected submissions, failed jobs, …) are raised by the lifecycle itself, at a handful of
places. Everything below it fails only with a fault of the document or of the answer: a
missing key, a value of the wrong kind, a sum that cannot be formed, an answer that is not
JSON. This module gives every failure its class (`Failure.cls?`, none for a fault) and proves
`Plain` (fails, if at all, with a fault) of each accessor the lifecycle reads documents
and answers with. The proofs about the lifecycle then tell its own errors from the rest by
class alone.
-/

namespace VolumeLifecycle

open VolumeLifecycle.Redfish

variable {α β : Type}

/-- The class of a lifecycle error; the other failures are faults and have none. -/
def Failure.cls? : Failure → Option ErrorClass
  | .lifecycle e => some e.cls
  | _ => none

@[simp] theorem Failure.cls?_raise (cls : ErrorClass) (message : String) (stage detail : Value) :
    (Failure.raise cls message stage detail).cls? = some cls := rfl

/-- A computation that fails, if at all, with a fault. -/
def Plain (x : Except Failure α) : Prop := ∀ f, x = .error f → f.cls? = none

@[simp] theorem plain_ok (a : α) : Plain (Except.ok a : Except Failure α) :=
  fun _ h => nomatch h

@[simp] theorem plain_error {f : Failure} : Plain (Except.error f : Except Failure α) ↔
    f.cls? = none :=
  ⟨fun h => h f rfl, fun h _ he => by cases he; exact h⟩

theorem Plain.bind {x : Except Failure α} {g : α → Except Failure β} (hx : Plain x)
    (hg : ∀ a, Plain (g a)) : Plain (x >>= g) := by
  cases x with
  | ok a => exact hg a
  | error f =>
    intro f' h
    cases h
    exact hx f rfl

theorem Plain.map {x : Except Failure α} (g : α → β) (hx : Plain x) : Plain (g <$> x) := by
  cases x with
  | ok a => exact plain_ok _
  | error f =>
    intro f' h
    cases h
    exact hx f rfl

/-- A chain of reads that succeeded: each step succeeded. -/
theorem exists_of_bind_eq_ok {x : Except Failure α} {g : α → Except Failure β} {b : β}
    (h : (x >>= g) = .ok b) : ∃ a, x = .ok a ∧ g a = .ok b := by
  cases x with
  | error f => cases h
  | ok a => exact ⟨a, rfl, h⟩

namespace Value

theorem getOr_plain (v : Value) (key : String) (fallback : Value) :
    Plain (v.getOr key fallback) := by
  intro f h
  unfold getOr at h
  split at h <;> grind [Failure.cls?]

theorem field_plain (v : Value) (key : String) : Plain (v.field key) := by
  intro f h
  unfold field at h
  split at h <;> grind [Failure.cls?]

theorem item_plain (v : Value) (i : Int) : Plain (v.item i) := by
  intro f h
  unfold item at h
  split at h <;> grind [Failure.cls?]

theorem members_plain (v : Value) : Plain v.members := by
  intro f h
  unfold members at h
  split at h <;> grind [Failure.cls?]

theorem contains_plain (container x : Value) : Plain (container.contains x) := by
  intro f h
  unfold contains at h
  split at h <;> grind [Failure.cls?]

theorem entriesOf_plain (v : Value) : Plain v.entriesOf := by
  unfold entriesOf
  split
  · exact plain_ok _
  refine (members_plain v).bind fun items => ?_
  -- the loop carries the position of the pair it reads and the pairs read so far
  suffices h : ∀ i acc, Plain (entriesOf.go i items acc) from (h 0 []).bind fun _ => plain_ok _
  induction items with
  | nil => exact fun _ _ => plain_ok _
  | cons x rest ih =>
    intro i acc
    unfold entriesOf.go
    dsimp only
    split
    · refine (plain_ok _).bind fun pair => ?_
      split
      · split
        · exact plain_error.2 rfl
        · exact ih _ _
      · exact plain_error.2 rfl
    · exact plain_error.2 rfl

theorem textsOf_plain (items : List Value) : Plain (textsOf items) := by
  -- the loop carries the position of the item it looks at
  suffices h : ∀ i, Plain (textsOf.go i items) from h 0
  intro i
  induction items generalizing i with
  | nil => intro f h; cases h
  | cons x rest ih =>
    cases x
    case str s => exact (ih (i + 1)).map _
    all_goals intro f h; cases h; rfl

theorem joinTexts_plain (sep : String) (v : Value) : Plain (joinTexts sep v) := by
  unfold joinTexts
  dsimp only
  split
  · exact (textsOf_plain _).bind fun _ => plain_ok _
  · intro f h
    cases h
    rfl

theorem wholeOf_plain (v : Value) : Plain (wholeOf v) := by
  intro f h
  unfold wholeOf at h
  split at h <;> grind [Failure.cls?]

theorem wholeToReal_plain (n : Int) : Plain (wholeToReal n) := by
  intro f h
  unfold wholeToReal at h
  split at h <;> grind [Failure.cls?]

theorem arith_plain (op : Arith) (a b : Value) : Plain (arith op a b) := by
  have toReal_plain : ∀ n : Numeric, Plain n.toReal := by
    intro n
    cases n with
    | whole n => exact wholeToReal_plain n
    | real x => exact plain_ok x
  unfold arith
  split
  · rename_i x y _ _
    unfold Arith.apply
    split
    · exact plain_ok _
    · exact (toReal_plain x).bind fun _ => (toReal_plain y).bind fun _ => plain_ok _
  · intro f h
    split at h <;> grind [Failure.cls?]

theorem plus_plain (a b : Value) : Plain (plus a b) := arith_plain .add a b

theorem minus_plain (a b : Value) : Plain (minus a b) := arith_plain .sub a b

theorem order_plain (symbol : String) (a b : Value) : Plain (order symbol a b) := by
  intro f h
  unfold order at h
  split at h <;> grind [Failure.cls?]

theorem atMost_plain (a b : Value) : Plain (atMost a b) :=
  (order_plain "<=" a b).map _

theorem least_plain (a b : Value) : Plain (least a b) :=
  ((order_plain "<" b a).map _).bind fun below => by
    cases below <;> exact plain_ok _

end Value

theorem Redfish.Response.json_plain (r : Response) : Plain r.json := by
  intro f h
  unfold Response.json at h
  split at h
  · cases h
  · rename_i e _
    cases h
    cases e <;> rfl

theorem Redfish.infoMessage_plain (info : Value) : Plain (infoMessage info) := by
  unfold infoMessage
  dsimp only
  refine (info.getOr_plain _ _).bind fun message => ?_
  -- the message falls back on the message id; a resolution is appended when there is one
  have withResolution : ∀ m : Value, Plain (do
      let resolution ← info.getOr "Resolution"
      if resolution.truthy = true then
        pure (Value.str (Text.trimBlank (m.display ++ " " ++ resolution.display)))
      else pure m) := fun m =>
    (info.getOr_plain _ _).bind fun _ => by split <;> exact plain_ok _
  split
  · exact (plain_ok message).bind withResolution
  · exact (info.getOr_plain _ _).bind withResolution

theorem Redfish.Response.message_plain (r : Response) : Plain r.message := by
  unfold Response.message
  dsimp only
  -- what is read from the error object: its first extended info's message, or its message
  have fromError : ∀ error : Value, Plain (do
      let extended ← error.getOr "@Message.ExtendedInfo"
      if extended.truthy = true then do
          let first ← extended.item 0
          infoMessage first
        else do
          let m ← error.getOr "message"
          pure (if m.truthy = true then m else r.fallbackText)) := fun error =>
    (error.getOr_plain _ _).bind fun extended => by
      split
      · exact (extended.item_plain 0).bind infoMessage_plain
      · exact (error.getOr_plain _ _).bind fun _ => plain_ok _
  split
  · exact (plain_ok _).bind fun body => by
      split
      · exact (Value.getOr_plain _ _ _).bind fromError
      · exact (plain_ok _).bind fromError
  · exact plain_ok _
  · exact plain_ok _
  · rename_i f _ _ hjson
    intro f' h
    cases h
    exact r.json_plain f hjson

end VolumeLifecycle
