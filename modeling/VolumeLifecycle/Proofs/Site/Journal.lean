import VolumeLifecycle.Site
import VolumeLifecycle.Proofs.Document.Faults
/-!
# VolumeLifecycle.Proofs.Site.Journal

**What an action does to a site is a list of events.** An action changes a site only through
its two primitives: a request (`Act.exchange`) and a wait (`Act.sleep`). Each appends one
event to the journal, the request also to the controller's calls and the wait to the clock's
waits. `Site.After s evs s'` says that `s'` is `s` after the events `evs` in that sense, and
`Act.Spec a Q` that every run of `a`, from any site, ends after some events `evs` with a result
`r` such that `Q r evs`.

The rules are compositional, one per way of building an action:

* `Act.spec_pure`, `Act.spec_throw`, `Act.spec_ofExcept`, `Act.spec_now` — no events;
* `Act.spec_exchange` — one event, whose answer is the result; `Act.spec_sleep` — one wait,
  failing only as the clock's addition fails;
* `Act.Spec.bind`, `Act.Spec.tryCatch` — the events of the parts, concatenated.

`Act.Within p q a` is the common special case: every event satisfies `p` and every failure
`q`. It composes with no side conditions (`Act.Within.bind`, `Act.Within.foldlM`, …), so a
function that only reads is shown to only read by walking its definition once.
-/

namespace VolumeLifecycle

open VolumeLifecycle.Redfish

variable {α β : Type}

/-! ## Events -/

/-- The request of an event, if it is one. -/
def Event.call? : Event → Option Call
  | .exchange call _ => some call
  | .sleep _ => none

/-- The wait of an event, if it is one. -/
def Event.seconds? : Event → Option Value
  | .exchange .. => none
  | .sleep seconds => some seconds

/-- A read: a request with the GET method. -/
def Event.IsRead : Event → Prop
  | .exchange call _ => call.method = .get
  | .sleep _ => False

/-- A change: a request with any other method. -/
def Event.IsChange : Event → Prop
  | .exchange call _ => call.method ≠ .get
  | .sleep _ => False

/-- A wait. -/
def Event.IsSleep : Event → Prop
  | .exchange .. => False
  | .sleep _ => True

@[simp] theorem Event.isRead_exchange (call : Call) (answer : Except Failure Response) :
    (Event.exchange call answer).IsRead ↔ call.method = .get := Iff.rfl

@[simp] theorem Event.not_isRead_sleep (seconds : Value) : ¬ (Event.sleep seconds).IsRead :=
  fun h => h

@[simp] theorem Event.isChange_exchange (call : Call) (answer : Except Failure Response) :
    (Event.exchange call answer).IsChange ↔ call.method ≠ .get := Iff.rfl

@[simp] theorem Event.not_isChange_sleep (seconds : Value) : ¬ (Event.sleep seconds).IsChange :=
  fun h => h

/-- The request of a change. -/
def Event.change? : Event → Option Call
  | .exchange call _ => if call.method = .get then none else some call
  | .sleep _ => none

/-- The changes among some events, in order. -/
def changes (evs : List Event) : List Call := evs.filterMap Event.change?

@[simp] theorem changes_nil : changes [] = [] := rfl

@[simp] theorem changes_append (e₁ e₂ : List Event) :
    changes (e₁ ++ e₂) = changes e₁ ++ changes e₂ :=
  List.filterMap_append

@[simp] theorem changes_cons_sleep (seconds : Value) (evs : List Event) :
    changes (.sleep seconds :: evs) = changes evs := rfl

theorem changes_cons_exchange (call : Call) (answer : Except Failure Response) (evs : List Event) :
    changes (.exchange call answer :: evs) =
      (if call.method = .get then [] else [call]) ++ changes evs := by
  by_cases h : call.method = .get <;> simp [changes, Event.change?, h]

theorem Event.IsRead.not_isChange {e : Event} (h : e.IsRead) : ¬ e.IsChange := by
  cases e with
  | exchange call answer => exact fun hc => hc h
  | sleep seconds => exact h.elim

theorem Event.IsRead.not_isSleep {e : Event} (h : e.IsRead) : ¬ e.IsSleep := by
  cases e with
  | exchange call answer => exact id
  | sleep seconds => exact h.elim

/-- Reads and waits change nothing. -/
theorem changes_eq_nil {evs : List Event} (h : ∀ e ∈ evs, ¬ e.IsChange) : changes evs = [] := by
  induction evs with
  | nil => rfl
  | cons e rest ih =>
    have hrest := ih fun e' m => h e' (List.mem_cons_of_mem e m)
    cases e with
    | exchange call answer =>
      have hget : call.method = .get := by
        have := h _ List.mem_cons_self
        simpa using this
      simp [changes_cons_exchange, hget, hrest]
    | sleep seconds => simpa using hrest

theorem changes_eq_nil_of_isRead {evs : List Event} (h : ∀ e ∈ evs, e.IsRead) : changes evs = [] :=
  changes_eq_nil fun e m => (h e m).not_isChange

/-- Every event is a read, a change or a wait, and only one of them. -/
theorem Event.isRead_or_isChange_or_isSleep (e : Event) : e.IsRead ∨ e.IsChange ∨ e.IsSleep := by
  cases e with
  | exchange call answer => by_cases h : call.method = .get <;> simp [h, Event.IsSleep]
  | sleep seconds => exact .inr (.inr trivial)

/-! ## Performing events -/

/-- Perform the request of an event on a site as it stands now: a request goes to the
controller, which answers it from its present state, and a wait goes to the clock, as
`Act.exchange` and `Act.sleep` do. The event performed carries the answer given now. -/
def Site.perform (s : Site) : Event → Event × Site
  | .exchange call _ =>
    let (answer, controller) := s.controller.receive call.method call.path call.payload
    (.exchange call answer, { s with controller, journal := s.journal.push (.exchange call answer) })
  | .sleep seconds =>
    let now := match Value.plus s.clock.now seconds with
      | .ok now => now
      | .error _ => s.clock.now
    (.sleep seconds, { s with clock := { now, sleeps := s.clock.sleeps.push seconds },
                              journal := s.journal.push (.sleep seconds) })

/-- `s'` is `s` after performing the events `evs` one after another, each answered as it was
recorded. -/
def Site.Replays : Site → List Event → Site → Prop
  | s, [], s' => s' = s
  | s, e :: evs, s' => (s.perform e).1 = e ∧ Site.Replays (s.perform e).2 evs s'

theorem Site.Replays.append {s₁ s₂ s₃ : Site} {e₁ e₂ : List Event} (h₁ : s₁.Replays e₁ s₂)
    (h₂ : s₂.Replays e₂ s₃) : s₁.Replays (e₁ ++ e₂) s₃ := by
  induction e₁ generalizing s₁ with
  | nil =>
    cases h₁
    exact h₂
  | cons e rest ih => exact ⟨h₁.1, ih h₁.2⟩

/-- A replay through a prefix stops at the one site the whole replay passes through. -/
theorem Site.Replays.of_append {s₁ s₃ : Site} {e₁ e₂ : List Event} (h : s₁.Replays (e₁ ++ e₂) s₃) :
    ∃ s₂, s₁.Replays e₁ s₂ ∧ s₂.Replays e₂ s₃ := by
  induction e₁ generalizing s₁ with
  | nil => exact ⟨s₁, rfl, h⟩
  | cons e rest ih =>
    obtain ⟨s₂, h₁, h₂⟩ := ih h.2
    exact ⟨s₂, ⟨h.1, h₁⟩, h₂⟩

/-- The events fix the site they lead to. -/
theorem Site.Replays.unique {s s₁ s₂ : Site} {evs : List Event} (h₁ : s.Replays evs s₁)
    (h₂ : s.Replays evs s₂) : s₁ = s₂ := by
  induction evs generalizing s with
  | nil => exact h₁.trans h₂.symm
  | cons e rest ih => exact ih h₁.2 h₂.2

theorem Site.perform_journal (s : Site) (e : Event) :
    (s.perform e).2.journal = s.journal.push (s.perform e).1 := by
  cases e <;> rfl

/-- A replay appends its events to the journal. -/
theorem Site.Replays.journal {s s' : Site} {evs : List Event} (h : s.Replays evs s') :
    s'.journal.toList = s.journal.toList ++ evs := by
  induction evs generalizing s with
  | nil =>
    cases h
    rw [List.append_nil]
  | cons e rest ih =>
    rw [ih h.2, Site.perform_journal, h.1, Array.toList_push, List.append_assoc,
      List.singleton_append]

/-- A site that replays a prefix of some events performs the next one as it was recorded. -/
theorem Site.Replays.next {s s' s'' : Site} {evs : List Event} {k : Nat} {e : Event}
    (h : s.Replays evs s') (hk : s.Replays (evs.take k) s'') (he : evs[k]? = some e) :
    (s''.perform e).1 = e := by
  obtain ⟨hlt, rfl⟩ := List.getElem?_eq_some_iff.1 he
  have hsplit : evs = evs.take k ++ evs[k] :: evs.drop (k + 1) := by
    rw [List.getElem_cons_drop hlt, List.take_append_drop]
  rw [hsplit] at h
  obtain ⟨s₂, h₁, h₂⟩ := h.of_append
  rw [hk.unique h₁]
  exact h₂.1

/-! ## Sites after events -/

/-- `s'` is `s` after the events `evs`: they are appended to the journal, their requests to
the controller's calls and their waits to the clock's, and performing them on `s` one after
another, each answered as recorded, leads to `s'`. -/
structure Site.After (s : Site) (evs : List Event) (s' : Site) : Prop where
  journal : s'.journal.toList = s.journal.toList ++ evs
  calls : s'.controller.calls.toList = s.controller.calls.toList ++ evs.filterMap Event.call?
  sleeps : s'.clock.sleeps.toList = s.clock.sleeps.toList ++ evs.filterMap Event.seconds?
  replays : s.Replays evs s'

theorem Site.After.refl (s : Site) : s.After [] s :=
  ⟨by simp, by simp, by simp, rfl⟩

theorem Site.After.trans {s₁ s₂ s₃ : Site} {e₁ e₂ : List Event} (h₁ : s₁.After e₁ s₂)
    (h₂ : s₂.After e₂ s₃) : s₁.After (e₁ ++ e₂) s₃ :=
  ⟨by rw [h₂.journal, h₁.journal, List.append_assoc],
   by rw [h₂.calls, h₁.calls, List.filterMap_append, List.append_assoc],
   by rw [h₂.sleeps, h₁.sleeps, List.filterMap_append, List.append_assoc],
   h₁.replays.append h₂.replays⟩

/-- The events a site had since it was `s`: what its journal holds beyond the journal of `s`. -/
def Site.since (s s' : Site) : List Event := s'.journal.toList.drop s.journal.size

theorem Site.After.since_eq {s s' : Site} {evs : List Event} (h : s.After evs s') :
    s.since s' = evs := by
  unfold Site.since
  rw [h.journal, ← Array.length_toList, List.drop_left]

/-- The journal alone fixes the events. -/
theorem Site.After.events_eq {s s' : Site} {e₁ e₂ : List Event} (h₁ : s.After e₁ s')
    (h₂ : s.After e₂ s') : e₁ = e₂ :=
  List.append_cancel_left (h₁.journal.symm.trans h₂.journal)

/-- Receiving a request records it, whatever the answer. -/
theorem Controller.receive_calls (c : Controller) (m : Method) (path : String) (payload : Value) :
    (c.receive m path payload).2.calls = c.calls.push { method := m, path, payload } := by
  unfold Controller.receive
  -- the read and the change never touch the calls, and neither does delivering the answer
  have hread : ∀ (c : Controller) p, (c.read p).2.calls = c.calls := by
    intro c p
    unfold Controller.read
    split
    · rfl
    · split
      · rfl
      · split
        · split
          · split <;> rfl
          · rfl
        · rfl
  have hchange : ∀ (c : Controller) m p v, (c.change m p v).2.calls = c.calls := by
    intro c m p v
    unfold Controller.change
    dsimp only
    split <;> split <;> rfl
  have hdeliver : ∀ (c : Controller) r, (c.deliver r).2.calls = c.calls := by
    intro c r
    unfold Controller.deliver
    split
    · rfl
    · split <;> rfl
  split <;> rw [hdeliver] <;> simp only [hread, hchange]

/-- The controller answers with a response, a transport failure or a response it cannot
build: never with a lifecycle error. -/
theorem Controller.receive_plain (c : Controller) (m : Method) (path : String) (payload : Value) :
    Plain (c.receive m path payload).1 := by
  have deliver_plain : ∀ (c : Controller) (r : Reply), Plain (c.deliver r).1 := by
    intro c r f h
    unfold Controller.deliver at h
    split at h
    · cases h; rfl
    · split at h
      · cases h
      · rename_i f' hr
        cases h
        unfold Reply.response at hr
        split at hr
        · cases hr; rfl
        · cases hr
  exact deliver_plain _ _

/-! ## Actions -/

/-- Run an action from a site. -/
def Act.runOn (a : Act α) (s : Site) : Except Failure α × Site := a.run.run s

theorem Act.runOn_bind (a : Act α) (f : α → Act β) (s : Site) :
    (a >>= f).runOn s = match a.runOn s with
      | (.ok x, s') => (f x).runOn s'
      | (.error e, s') => (.error e, s') := by
  simp only [Act.runOn, ExceptT.run_bind, StateT.run_bind]
  rcases a.run.run s with ⟨r, s'⟩
  cases r <;> rfl

@[simp] theorem Act.runOn_pure (x : α) (s : Site) : (pure x : Act α).runOn s = (.ok x, s) := rfl

@[simp] theorem Act.runOn_throw (f : Failure) (s : Site) :
    (throw f : Act α).runOn s = (.error f, s) := rfl

@[simp] theorem Act.runOn_get (s : Site) : (get : Act Site).runOn s = (.ok s, s) := rfl

@[simp] theorem Act.runOn_set (s s' : Site) : (set s' : Act PUnit).runOn s = (.ok ⟨⟩, s') := rfl

@[simp] theorem Act.runOn_modify (f : Site → Site) (s : Site) :
    (modify f : Act PUnit).runOn s = (.ok ⟨⟩, f s) := rfl

@[simp] theorem Act.runOn_ofExcept (x : Except Failure α) (s : Site) :
    (Act.ofExcept x).runOn s = (x, s) := by
  cases x <;> rfl

theorem Act.runOn_tryCatch (a : Act α) (h : Failure → Act α) (s : Site) :
    (tryCatch a h).runOn s = match a.runOn s with
      | (.ok x, s') => (.ok x, s')
      | (.error e, s') => (h e).runOn s' := by
  show (ExceptT.tryCatch a h).run.run s = _
  simp only [ExceptT.tryCatch, ExceptT.run, ExceptT.mk, StateT.run_bind, Act.runOn]
  rcases StateT.run a s with ⟨r, s'⟩
  cases r <;> rfl

/-- Every run of `a`, from any site, ends after some events `evs` with a result `r` such
that `Q r evs`. -/
def Act.Spec (a : Act α) (Q : Except Failure α → List Event → Prop) : Prop :=
  ∀ s, ∃ evs, s.After evs (a.runOn s).2 ∧ Q (a.runOn s).1 evs

section Spec

variable {a : Act α} {Q Q' : Except Failure α → List Event → Prop}

theorem Act.Spec.mono (h : a.Spec Q) (hQ : ∀ r evs, Q r evs → Q' r evs) : a.Spec Q' := by
  intro s
  obtain ⟨evs, hs, hq⟩ := h s
  exact ⟨evs, hs, hQ _ _ hq⟩

/-- Two specs of one action hold together: the events of a run are fixed by its sites. -/
theorem Act.Spec.and (h : a.Spec Q) (h' : a.Spec Q') : a.Spec fun r evs => Q r evs ∧ Q' r evs := by
  intro s
  obtain ⟨e, hs, hq⟩ := h s
  obtain ⟨e', hs', hq'⟩ := h' s
  cases hs.events_eq hs'
  exact ⟨e, hs, hq, hq'⟩

/-- A spec that holds under a fact about the inputs of an action holds with the fact as a
hypothesis, given any spec of the action for the other inputs. -/
theorem Act.Spec.imp {P : Prop} (h₀ : a.Spec Q') (h : P → a.Spec Q) :
    a.Spec fun r evs => P → Q r evs := by
  by_cases hp : P
  · exact (h hp).mono fun _ _ hq _ => hq
  · exact h₀.mono fun _ _ _ hp' => absurd hp' hp

theorem Act.spec_pure (x : α) (h : Q (.ok x) []) : (pure x : Act α).Spec Q :=
  fun s => ⟨[], Site.After.refl s, h⟩

theorem Act.spec_throw (f : Failure) (h : Q (.error f) []) : (throw f : Act α).Spec Q :=
  fun s => ⟨[], Site.After.refl s, h⟩

theorem Act.spec_fail (f : Failure) (h : Q (.error f) []) : (Act.fail f : Act α).Spec Q :=
  Act.spec_throw f h

theorem Act.spec_ofExcept (x : Except Failure α) (h : Q x []) : (Act.ofExcept x).Spec Q := by
  cases x with
  | ok x => exact Act.spec_pure x h
  | error f => exact Act.spec_throw f h

theorem Act.pure_spec (x : α) : (pure x : Act α).Spec fun r evs => r = .ok x ∧ evs = [] :=
  Act.spec_pure x ⟨rfl, rfl⟩

/-- Taking a result is exactly that result, with no events. -/
theorem Act.ofExcept_spec (x : Except Failure α) :
    (Act.ofExcept x).Spec fun r evs => r = x ∧ evs = [] :=
  Act.spec_ofExcept x ⟨rfl, rfl⟩

/-- Nothing runs after a failure. -/
@[simp] theorem Act.fail_bind (f : Failure) (k : α → Act β) : (Act.fail f >>= k) = Act.fail f := rfl

theorem Act.fail_spec (f : Failure) :
    (Act.fail f : Act α).Spec fun r evs => r = .error f ∧ evs = [] :=
  Act.spec_fail f ⟨rfl, rfl⟩

theorem Act.spec_now {Q : Except Failure Value → List Event → Prop} (h : ∀ v, Q (.ok v) []) :
    Act.now.Spec Q :=
  fun s => ⟨[], Site.After.refl s, h s.clock.now⟩

/-- The events of `a >>= f` are those of `a` followed, when `a` succeeds, by those of `f`. -/
theorem Act.Spec.bind {f : α → Act β} {S : α → Except Failure β → List Event → Prop}
    {R : Except Failure β → List Event → Prop} (ha : a.Spec Q) (hf : ∀ x, (f x).Spec (S x))
    (hok : ∀ x r e₁ e₂, Q (.ok x) e₁ → S x r e₂ → R r (e₁ ++ e₂))
    (herr : ∀ f e, Q (.error f) e → R (.error f) e) : (a >>= f).Spec R := by
  intro s
  obtain ⟨e₁, hs₁, hq₁⟩ := ha s
  rw [Act.runOn_bind]
  rcases hrun : a.runOn s with ⟨r, s₁⟩
  rw [hrun] at hs₁ hq₁
  cases r with
  | ok x =>
    obtain ⟨e₂, hs₂, hq₂⟩ := hf x s₁
    exact ⟨e₁ ++ e₂, hs₁.trans hs₂, hok x _ e₁ e₂ hq₁ hq₂⟩
  | error f => exact ⟨e₁, hs₁, herr f e₁ hq₁⟩

/-- The events of `tryCatch a h` are those of `a` followed, when `a` fails, by those of the
handler. -/
theorem Act.Spec.tryCatch {h : Failure → Act α} {Qh : Failure → Except Failure α → List Event → Prop}
    {R : Except Failure α → List Event → Prop} (ha : a.Spec Q) (hh : ∀ f, (h f).Spec (Qh f))
    (hok : ∀ x e, Q (.ok x) e → R (.ok x) e)
    (herr : ∀ f r e₁ e₂, Q (.error f) e₁ → Qh f r e₂ → R r (e₁ ++ e₂)) :
    (tryCatch a h).Spec R := by
  intro s
  obtain ⟨e₁, hs₁, hq₁⟩ := ha s
  rw [Act.runOn_tryCatch]
  rcases hrun : a.runOn s with ⟨r, s₁⟩
  rw [hrun] at hs₁ hq₁
  cases r with
  | ok x => exact ⟨e₁, hs₁, hok x e₁ hq₁⟩
  | error f =>
    obtain ⟨e₂, hs₂, hq₂⟩ := hh f s₁
    exact ⟨e₁ ++ e₂, hs₁.trans hs₂, herr f _ e₁ e₂ hq₁ hq₂⟩

theorem Act.Spec.map {g : α → β} {R : Except Failure β → List Event → Prop} (ha : a.Spec Q)
    (hok : ∀ x e, Q (.ok x) e → R (.ok (g x)) e) (herr : ∀ f e, Q (.error f) e → R (.error f) e) :
    (g <$> a).Spec R := by
  rw [map_eq_pure_bind]
  refine Act.Spec.bind ha (fun x => Act.pure_spec (g x)) ?_ herr
  intro x r e₁ e₂ hq ⟨hr, he₂⟩
  subst hr he₂
  simpa using hok x e₁ hq

/-- A fold whose every step keeps a property of the accumulated value returns a value with the
property, when it started from one. -/
theorem Act.Spec.foldlM {f : β → α → Act β} {I : β → Prop}
    (hf : ∀ acc x, (f acc x).Spec fun r _ => I acc → ∀ v, r = .ok v → I v) (xs : List α)
    (init : β) : (xs.foldlM f init).Spec fun r _ => I init → ∀ v, r = .ok v → I v := by
  induction xs generalizing init with
  | nil => exact Act.spec_pure init fun h v hv => by cases hv; exact h
  | cons x rest ih =>
    rw [List.foldlM_cons]
    exact Act.Spec.bind (hf init x) ih
      (fun acc _ _ _ hacc hrest hinit => hrest (hacc hinit acc rfl)) fun _ _ _ _ _ hv => nomatch hv

end Spec

theorem Act.runOn_exchange (m : Method) (path : String) (payload : Value) (s : Site) :
    (Act.exchange m path payload).runOn s =
      ((s.controller.receive m path payload).1,
       { s with controller := (s.controller.receive m path payload).2,
                journal := s.journal.push
                  (.exchange { method := m, path, payload } (s.controller.receive m path payload).1) }) := by
  simp only [Act.exchange, Act.runOn_bind, Act.runOn_get, Act.runOn_set, Act.runOn_ofExcept]

/-- A request is one event that records the request with its answer, which is also the
result; a failed answer is a fault. -/
theorem Act.spec_exchange (m : Method) (path : String) (payload : Value) :
    (Act.exchange m path payload).Spec fun r evs =>
      evs = [.exchange { method := m, path, payload } r] ∧ ∀ f, r = .error f → f.cls? = none := by
  intro s
  rw [Act.runOn_exchange]
  refine ⟨_, ⟨?_, ?_, ?_, ?_⟩, rfl, Controller.receive_plain _ _ _ _⟩ <;>
    simp [Controller.receive_calls, Event.call?, Event.seconds?, Site.Replays, Site.perform]

/-- A wait is one event; it fails only when the clock cannot add the wait to the time. -/
theorem Act.spec_sleep (seconds : Value) :
    (Act.sleep seconds).Spec fun r evs => evs = [.sleep seconds] ∧
      ∀ f, r = .error f → ∃ now, Value.plus now seconds = .error f := by
  intro s
  simp only [Act.sleep, Act.runOn_bind, Act.runOn_get, Act.runOn_set, Act.runOn_ofExcept]
  cases h : Value.plus s.clock.now seconds with
  | ok now =>
    refine ⟨[.sleep seconds], ⟨?_, ?_, ?_, ?_⟩, rfl, fun f hf => nomatch hf⟩ <;>
      simp [Event.call?, Event.seconds?, Site.Replays, Site.perform, h]
  | error f =>
    refine ⟨[.sleep seconds], ⟨?_, ?_, ?_, ?_⟩, rfl, fun f' hf => ⟨s.clock.now, ?_⟩⟩
    all_goals simp_all [Event.call?, Event.seconds?, Site.Replays, Site.perform]

/-! ## Actions that stay within a class of events and failures -/

/-- Every run of `a` makes only events that satisfy `p` and fails only with failures that
satisfy `q`. -/
def Act.Within (p : Event → Prop) (q : Failure → Prop) (a : Act α) : Prop :=
  a.Spec fun r evs => (∀ e ∈ evs, p e) ∧ ∀ f, r = .error f → q f

section Within

variable {p p' : Event → Prop} {q q' : Failure → Prop} {a : Act α}

theorem Act.Within.mono (h : a.Within p q) (hp : ∀ e, p e → p' e) (hq : ∀ f, q f → q' f) :
    a.Within p' q' :=
  Act.Spec.mono h fun _ _ ⟨he, hf⟩ => ⟨fun e m => hp e (he e m), fun f hr => hq f (hf f hr)⟩

theorem Act.within_pure (x : α) : (pure x : Act α).Within p q :=
  Act.spec_pure x ⟨fun _ m => (nomatch m), fun _ h => (nomatch h)⟩

theorem Act.within_throw {f : Failure} (h : q f) : (throw f : Act α).Within p q :=
  Act.spec_throw f ⟨fun _ m => (nomatch m), fun _ hr => by cases hr; exact h⟩

theorem Act.within_fail {f : Failure} (h : q f) : (Act.fail f : Act α).Within p q :=
  Act.within_throw h

theorem Act.within_ofExcept {x : Except Failure α} (h : ∀ f, x = .error f → q f) :
    (Act.ofExcept x).Within p q :=
  Act.spec_ofExcept x ⟨fun _ m => (nomatch m), h⟩

/-- A lookup that fails only with faults stays within any class that admits faults. -/
theorem Act.within_plain {x : Except Failure α} (hx : Plain x) (hq : ∀ f, f.cls? = none → q f) :
    (Act.ofExcept x).Within p q :=
  Act.within_ofExcept fun f hf => hq f (hx f hf)

theorem Act.within_now : Act.now.Within p q :=
  Act.spec_now fun _ => ⟨fun _ m => (nomatch m), fun _ h => (nomatch h)⟩

theorem Act.Within.bind {f : α → Act β} (ha : a.Within p q) (hf : ∀ x, (f x).Within p q) :
    (a >>= f).Within p q :=
  Act.Spec.bind ha hf
    (fun _ _ _ _ ⟨h₁, _⟩ ⟨h₂, hr⟩ => ⟨fun e m => (List.mem_append.1 m).elim (h₁ e) (h₂ e), hr⟩)
    (fun _ _ ⟨h₁, h₂⟩ => ⟨h₁, fun f hr => h₂ f (by cases hr; rfl)⟩)

/-- Events of a class followed by an action with a property that such events do not disturb. -/
theorem Act.Within.bind_spec {f : α → Act β} {R : Except Failure β → List Event → Prop}
    (ha : a.Within p q) (hf : ∀ x, (f x).Spec R)
    (hpre : ∀ r e₁ e₂, (∀ e ∈ e₁, p e) → R r e₂ → R r (e₁ ++ e₂))
    (herr : ∀ f e, (∀ x ∈ e, p x) → q f → R (.error f) e) : (a >>= f).Spec R :=
  Act.Spec.bind ha hf (fun _ _ _ _ ⟨h₁, _⟩ h₂ => hpre _ _ _ h₁ h₂)
    (fun f e ⟨h₁, h₂⟩ => herr f e h₁ (h₂ f rfl))

/-- An action followed by steps within a class: what follows the action's events is of the
class, and so is a failure of the steps. -/
theorem Act.Spec.bind_within {f : α → Act β} {Q : Except Failure α → List Event → Prop}
    {R : Except Failure β → List Event → Prop} (ha : a.Spec Q) (hf : ∀ x, (f x).Within p q)
    (hok : ∀ x r e₁ e₂, Q (.ok x) e₁ → (∀ e ∈ e₂, p e) → (∀ f, r = .error f → q f) →
      R r (e₁ ++ e₂))
    (herr : ∀ f evs, Q (.error f) evs → R (.error f) evs) : (a >>= f).Spec R :=
  Act.Spec.bind ha hf (fun x r e₁ e₂ hq ⟨he₂, hr⟩ => hok x r e₁ e₂ hq he₂ hr) herr

/-- An action followed by steps that send nothing has the action's events; a failure of the
steps is one the steps are known to fail with. -/
theorem Act.Spec.bind_quiet {f : α → Act β} {Q : Except Failure α → List Event → Prop}
    {R : Except Failure β → List Event → Prop} (ha : a.Spec Q) (hf : ∀ x, (f x).Within (fun _ => False) q)
    (hok : ∀ x r evs, Q (.ok x) evs → (∀ f, r = .error f → q f) → R r evs)
    (herr : ∀ f evs, Q (.error f) evs → R (.error f) evs) : (a >>= f).Spec R :=
  Act.Spec.bind ha hf
    (fun x r e₁ e₂ hq ⟨he₂, hr⟩ => by
      have : e₂ = [] := List.eq_nil_iff_forall_not_mem.2 fun e m => he₂ e m
      subst this
      simpa using hok x r e₁ hq hr)
    herr

/-- Steps that send nothing, then an action: the events are the action's; a failure of the
steps comes with no events. -/
theorem Act.Within.quiet_bind {f : α → Act β} {R : Except Failure β → List Event → Prop}
    (ha : a.Within (fun _ => False) q) (hf : ∀ x, (f x).Spec R) (herr : ∀ f, q f → R (.error f) []) :
    (a >>= f).Spec R := by
  refine ha.bind_spec hf ?_ ?_
  · intro r e₁ e₂ he₁ h
    rw [List.eq_nil_iff_forall_not_mem.2 he₁]
    exact h
  · intro f e he hf
    rw [List.eq_nil_iff_forall_not_mem.2 he]
    exact herr f hf

theorem Act.Within.map (g : α → β) (ha : a.Within p q) : (g <$> a).Within p q := by
  rw [map_eq_pure_bind]
  exact ha.bind fun x => Act.within_pure (g x)

/-- A handler runs on the failures of its action, so it only has to be within the class for
those. -/
theorem Act.Within.tryCatch {h : Failure → Act α} (ha : a.Within p q')
    (hh : ∀ f, q' f → (h f).Within p q) : (tryCatch a h).Within p q := by
  intro s
  obtain ⟨e₁, hs₁, he₁, hq₁⟩ := ha s
  rw [Act.runOn_tryCatch]
  rcases hrun : a.runOn s with ⟨r, s₁⟩
  rw [hrun] at hs₁ hq₁
  cases r with
  | ok x => exact ⟨e₁, hs₁, he₁, fun _ h => nomatch h⟩
  | error f =>
    obtain ⟨e₂, hs₂, he₂, hq₂⟩ := hh f (hq₁ f rfl) s₁
    exact ⟨e₁ ++ e₂, hs₁.trans hs₂,
      fun e m => (List.mem_append.1 m).elim (he₁ e) (he₂ e), hq₂⟩

/-- A handler within a class, which runs only on the failures its action ends with. -/
theorem Act.Spec.tryCatch_within {h : Failure → Act α} {Q R : Except Failure α → List Event → Prop}
    (ha : a.Spec Q) (hh : ∀ f e, Q (.error f) e → (h f).Within p q)
    (hok : ∀ x e, Q (.ok x) e → R (.ok x) e)
    (herr : ∀ f r e₁ e₂, Q (.error f) e₁ → (∀ e ∈ e₂, p e) → (∀ f', r = .error f' → q f') →
      R r (e₁ ++ e₂)) :
    (MonadExcept.tryCatch a h).Spec R := by
  intro s
  obtain ⟨e₁, hs₁, hq₁⟩ := ha s
  rw [Act.runOn_tryCatch]
  rcases hrun : a.runOn s with ⟨r, s₁⟩
  rw [hrun] at hs₁ hq₁
  cases r with
  | ok x => exact ⟨e₁, hs₁, hok x e₁ hq₁⟩
  | error f =>
    obtain ⟨e₂, hs₂, he₂, hr⟩ := hh f e₁ hq₁ s₁
    exact ⟨e₁ ++ e₂, hs₁.trans hs₂, herr f _ e₁ e₂ hq₁ he₂ hr⟩

theorem Act.Within.foldlM {f : β → α → Act β} {xs : List α} (h : ∀ acc, ∀ x ∈ xs, (f acc x).Within p q)
    (init : β) : (xs.foldlM f init).Within p q := by
  induction xs generalizing init with
  | nil => exact Act.within_pure init
  | cons x rest ih =>
    rw [List.foldlM_cons]
    exact (h init x List.mem_cons_self).bind fun acc =>
      ih (fun acc y hy => h acc y (List.mem_cons_of_mem x hy)) acc

theorem Act.Within.findM? {test : α → Act Bool} {xs : List α} (h : ∀ x ∈ xs, (test x).Within p q) :
    (xs.findM? test).Within p q := by
  induction xs with
  | nil => exact Act.within_pure none
  | cons x rest ih =>
    rw [List.findM?]
    refine (h x List.mem_cons_self).bind fun found => ?_
    cases found
    · exact ih fun y hy => h y (List.mem_cons_of_mem x hy)
    · exact Act.within_pure _

/-- A request stays within a class that admits it, whatever its answer, and the faults. -/
theorem Act.within_exchange {m : Method} {path : String} {payload : Value}
    (hp : ∀ answer, p (.exchange { method := m, path, payload } answer))
    (hq : ∀ f, f.cls? = none → q f) : (Act.exchange m path payload).Within p q :=
  Act.Spec.mono (Act.spec_exchange m path payload) fun _ _ ⟨hevs, hf⟩ =>
    ⟨fun e m => by rw [hevs, List.mem_singleton] at m; rw [m]; exact hp _,
     fun f hr => hq f (hf f hr)⟩

/-- A wait stays within a class that admits it and the faults. -/
theorem Act.within_sleep {seconds : Value} (hp : p (.sleep seconds))
    (hq : ∀ f, f.cls? = none → q f) : (Act.sleep seconds).Within p q :=
  Act.Spec.mono (Act.spec_sleep seconds) fun _ _ ⟨hevs, hf⟩ =>
    ⟨fun e m => by rw [hevs, List.mem_singleton] at m; rw [m]; exact hp,
     fun f hr => by
       obtain ⟨now, hplus⟩ := hf f hr
       exact hq f (Value.plus_plain now seconds f hplus)⟩

end Within

end VolumeLifecycle
