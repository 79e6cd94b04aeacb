import VolumeLifecycle.Proofs.Lifecycle.Actions
/-!
# VolumeLifecycle.Proofs.Lifecycle.Station

**An operation's events are those of the actions it runs on the site.** An operation of the
component (`Op`) runs on a station: the site, the lock registry it shares with other
components, and its own progress. Only `Op.act` touches the site; notes touch the progress and
the lock touches the registry, and neither adds an event.

`Op.Spec o Q` says that every run of `o` ends after events `evs` with `Q st r st' evs`, where
`st` is the station the run starts from, `st'` the one it ends on and `r` its result. Having the
start station in `Q` makes preconditions part of a spec; having the end station lets a later
phase read what an earlier one noted. `Op.Within p q o` is the common special case that only
classifies the events and the failures.

* primitives: `Op.act_spec` (an action's spec, the registry and the progress kept),
  `Op.spec_note`, `Op.spec_liftFailure`, `Op.spec_progress`;
* composition: `Op.Spec.bind`, `Op.Spec.tryCatch`, and their `Within` forms;
* the two layers around the phases, each opened once: the frame of stamps (`framedPhases_spec`,
  which changes the record alone) and the request under the lock (`Component.runHeld_spec`,
  which fills in the defaults and returns what the phases left).
-/

namespace VolumeLifecycle.Lifecycle

open VolumeLifecycle.Redfish VolumeLifecycle.Value VolumeLifecycle.Lock VolumeLifecycle.Volume

variable {α β : Type}

/-! ## Running an operation -/

/-- Run an operation from a station. -/
def Op.runOn (o : Op α) (st : Station) : Except Failure α × Station := o.run.run st

theorem Op.runOn_bind (o : Op α) (f : α → Op β) (st : Station) :
    (o >>= f).runOn st = match o.runOn st with
      | (.ok x, st') => (f x).runOn st'
      | (.error e, st') => (.error e, st') := by
  simp only [Op.runOn, ExceptT.run_bind, StateT.run_bind]
  rcases o.run.run st with ⟨r, st'⟩
  cases r <;> rfl

@[simp] theorem Op.runOn_pure (x : α) (st : Station) : (pure x : Op α).runOn st = (.ok x, st) :=
  rfl

@[simp] theorem Op.runOn_throw (f : Failure) (st : Station) :
    (throw f : Op α).runOn st = (.error f, st) := rfl

@[simp] theorem Op.throw_bind (f : Failure) (g : α → Op β) : (throw f >>= g : Op β) = throw f := rfl

@[simp] theorem Op.runOn_get (st : Station) : (get : Op Station).runOn st = (.ok st, st) := rfl

@[simp] theorem Op.runOn_set (st st' : Station) :
    (set st' : Op PUnit).runOn st = (.ok ⟨⟩, st') := rfl

@[simp] theorem Op.runOn_setOf (st st' : Station) :
    (MonadStateOf.set st' : Op PUnit).runOn st = (.ok ⟨⟩, st') := rfl

@[simp] theorem Op.runOn_progress (st : Station) : Op.progress.runOn st = (.ok st.progress, st) :=
  rfl

@[simp] theorem Op.runOn_modify (f : Station → Station) (st : Station) :
    (modify f : Op PUnit).runOn st = (.ok ⟨⟩, f st) := rfl

@[simp] theorem Op.runOn_liftFailure (x : Except Failure α) (st : Station) :
    (liftFailure x : Op α).runOn st = (x, st) := by
  cases x <;> rfl

theorem Op.runOn_tryCatch (o : Op α) (h : Failure → Op α) (st : Station) :
    (tryCatch o h).runOn st = match o.runOn st with
      | (.ok x, st') => (.ok x, st')
      | (.error e, st') => (h e).runOn st' := by
  show (ExceptT.tryCatch o h).run.run st = _
  simp only [ExceptT.tryCatch, ExceptT.run, ExceptT.mk, StateT.run_bind, Op.runOn]
  rcases StateT.run o st with ⟨r, st'⟩
  cases r <;> rfl

theorem Op.runOn_map (g : α → β) (o : Op α) (st : Station) :
    (g <$> o).runOn st = match o.runOn st with
      | (.ok x, st') => (.ok (g x), st')
      | (.error e, st') => (.error e, st') := by
  rw [map_eq_pure_bind, Op.runOn_bind]
  rcases o.runOn st with ⟨_ | x, st'⟩ <;> rfl

theorem Op.runOn_map_ok {o : Op α} {st st' : Station} {x : α} (h : o.runOn st = (.ok x, st'))
    (g : α → β) : (g <$> o).runOn st = (.ok (g x), st') := by
  rw [Op.runOn_map, h]

/-- An action runs on the site alone. -/
theorem Op.runOn_act (a : Act α) (st : Station) :
    (Op.act a).runOn st = ((a.runOn st.site).1, { st with site := (a.runOn st.site).2 }) := by
  unfold Op.act Act.runOn
  simp only [Op.runOn_bind, Op.runOn_get]
  rcases StateT.run (ExceptT.run a) st.site with ⟨r, site⟩
  cases r <;> rfl

/-! ## Specs -/

/-- Every run of `o`, from any station `st`, ends on a station `st'` after some events `evs`
with a result `r` such that `Q st r st' evs`. -/
def Op.Spec (o : Op α) (Q : Station → Except Failure α → Station → List Event → Prop) : Prop :=
  ∀ st, ∃ evs, st.site.After evs (o.runOn st).2.site ∧ Q st (o.runOn st).1 (o.runOn st).2 evs

section Spec

variable {o : Op α} {Q Q' : Station → Except Failure α → Station → List Event → Prop}

theorem Op.Spec.mono (h : o.Spec Q) (hQ : ∀ st r st' evs, Q st r st' evs → Q' st r st' evs) :
    o.Spec Q' := by
  intro st
  obtain ⟨evs, hs, hq⟩ := h st
  exact ⟨evs, hs, hQ _ _ _ _ hq⟩

theorem Op.spec_pure (x : α) (h : ∀ st, Q st (.ok x) st []) : (pure x : Op α).Spec Q :=
  fun st => ⟨[], Site.After.refl _, h st⟩

theorem Op.spec_throw (f : Failure) (h : ∀ st, Q st (.error f) st []) : (throw f : Op α).Spec Q :=
  fun st => ⟨[], Site.After.refl _, h st⟩

theorem Op.spec_liftFailure (x : Except Failure α) (h : ∀ st, Q st x st []) :
    (liftFailure x : Op α).Spec Q := by
  intro st
  rw [Op.runOn_liftFailure]
  exact ⟨[], Site.After.refl _, h st⟩

theorem Op.spec_progress {Q : Station → Except Failure Progress → Station → List Event → Prop}
    (h : ∀ st, Q st (.ok st.progress) st []) : Op.progress.Spec Q :=
  fun st => ⟨[], Site.After.refl _, h st⟩

theorem Op.spec_note (f : Progress → Progress)
    {Q : Station → Except Failure Unit → Station → List Event → Prop}
    (h : ∀ st, Q st (.ok ()) { st with progress := f st.progress } []) : (Op.note f).Spec Q :=
  fun st => ⟨[], Site.After.refl _, h st⟩

theorem Op.note_spec (f : Progress → Progress) :
    (Op.note f).Spec fun st r st' evs => r = .ok () ∧ st'.progress = f st.progress ∧ evs = [] :=
  Op.spec_note f fun _ => ⟨rfl, rfl, rfl⟩

/-- An action's events are its own, and it leaves the registry and the progress alone. -/
theorem Op.act_spec {a : Act α} {Q : Except Failure α → List Event → Prop} (h : a.Spec Q) :
    (Op.act a).Spec fun st r st' evs =>
      Q r evs ∧ st'.registry = st.registry ∧ st'.progress = st.progress := by
  intro st
  obtain ⟨evs, hs, hq⟩ := h st.site
  rw [Op.runOn_act]
  exact ⟨evs, hs, hq, rfl, rfl⟩

/-- The events of `o >>= f` are those of `o` followed, when `o` succeeds, by those of `f`. -/
theorem Op.Spec.bind {f : α → Op β} {S : α → Station → Except Failure β → Station → List Event → Prop}
    {R : Station → Except Failure β → Station → List Event → Prop} (ho : o.Spec Q)
    (hf : ∀ x, (f x).Spec (S x))
    (hok : ∀ x st st₁ r st₂ e₁ e₂, Q st (.ok x) st₁ e₁ → S x st₁ r st₂ e₂ → R st r st₂ (e₁ ++ e₂))
    (herr : ∀ f st st₁ e, Q st (.error f) st₁ e → R st (.error f) st₁ e) : (o >>= f).Spec R := by
  intro st
  obtain ⟨e₁, hs₁, hq₁⟩ := ho st
  rw [Op.runOn_bind]
  rcases hrun : o.runOn st with ⟨r, st₁⟩
  rw [hrun] at hs₁ hq₁
  cases r with
  | ok x =>
    obtain ⟨e₂, hs₂, hq₂⟩ := hf x st₁
    exact ⟨e₁ ++ e₂, hs₁.trans hs₂, hok x _ _ _ _ e₁ e₂ hq₁ hq₂⟩
  | error f => exact ⟨e₁, hs₁, herr f _ _ e₁ hq₁⟩

/-- The events of `tryCatch o h` are those of `o` followed, when `o` fails, by those of the
handler. -/
theorem Op.Spec.tryCatch {h : Failure → Op α}
    {Qh : Failure → Station → Except Failure α → Station → List Event → Prop}
    {R : Station → Except Failure α → Station → List Event → Prop} (ho : o.Spec Q)
    (hh : ∀ f, (h f).Spec (Qh f))
    (hok : ∀ x st st' e, Q st (.ok x) st' e → R st (.ok x) st' e)
    (herr : ∀ f st st₁ r st₂ e₁ e₂, Q st (.error f) st₁ e₁ → Qh f st₁ r st₂ e₂ →
      R st r st₂ (e₁ ++ e₂)) :
    (MonadExcept.tryCatch o h).Spec R := by
  intro st
  obtain ⟨e₁, hs₁, hq₁⟩ := ho st
  rw [Op.runOn_tryCatch]
  rcases hrun : o.runOn st with ⟨r, st₁⟩
  rw [hrun] at hs₁ hq₁
  cases r with
  | ok x => exact ⟨e₁, hs₁, hok x _ _ e₁ hq₁⟩
  | error f =>
    obtain ⟨e₂, hs₂, hq₂⟩ := hh f st₁
    exact ⟨e₁ ++ e₂, hs₁.trans hs₂, herr f _ _ _ _ e₁ e₂ hq₁ hq₂⟩

/-- A lookup, then an operation that may assume what the lookup gave: the lookup adds nothing. -/
theorem Op.Spec.lift_bind {x : Except Failure α} {f : α → Op β}
    {R : Station → Except Failure β → Station → List Event → Prop}
    (hf : ∀ a, x = .ok a → (f a).Spec R) (herr : ∀ st f, x = .error f → R st (.error f) st []) :
    (liftFailure x >>= f).Spec R := by
  intro st
  rw [Op.runOn_bind, Op.runOn_liftFailure]
  cases x with
  | ok a => exact hf a rfl st
  | error f => exact ⟨[], Site.After.refl _, herr st f rfl⟩

/-- A lookup that fails only with faults, then an operation. -/
theorem Op.Spec.plain_bind {x : Except Failure α} {f : α → Op β}
    {R : Station → Except Failure β → Station → List Event → Prop} (hx : Plain x)
    (hf : ∀ a, (f a).Spec R) (herr : ∀ st f, f.cls? = none → R st (.error f) st []) :
    (liftFailure x >>= f).Spec R :=
  Op.Spec.lift_bind (fun a _ => hf a) fun st f h => herr st f (hx f h)

/-- A note, then an operation whose spec speaks of the station before the note. -/
theorem Op.Spec.note_bind {g : Progress → Progress} {f : Unit → Op β}
    {R : Station → Except Failure β → Station → List Event → Prop}
    (h : (f ()).Spec fun st r st' evs =>
      ∀ st₀ : Station, st = { st₀ with progress := g st₀.progress } → R st₀ r st' evs) :
    (Op.note g >>= f).Spec R := by
  intro st
  simp only [Op.runOn_bind, Op.note, Op.runOn_modify]
  obtain ⟨evs, hs, hq⟩ := h { st with progress := g st.progress }
  exact ⟨evs, hs, hq st rfl⟩

/-- A note before an operation whose outcome is read off the final station alone. -/
theorem Op.Spec.note_bind_final {g : Progress → Progress} {f : Unit → Op β}
    {P : Except Failure β → Station → List Event → Prop} (h : (f ()).Spec fun _ r st' evs => P r st' evs) :
    (Op.note g >>= f).Spec fun _ r st' evs => P r st' evs :=
  Op.Spec.note_bind (h.mono fun _ _ _ _ hp _ _ => hp)

/-- An operation that starts by reading the progress may assume what it read. -/
theorem Op.Spec.progress_bind {f : Progress → Op α} (h : ∀ pr, (f pr).Spec fun st r st' evs =>
    st.progress = pr → Q st r st' evs) : (Op.progress >>= f).Spec Q := by
  intro st
  rw [Op.runOn_bind, Op.runOn_progress]
  obtain ⟨evs, hs, hq⟩ := h st.progress st
  exact ⟨evs, hs, hq rfl⟩

theorem Op.Spec.map {g : α → β} {R : Station → Except Failure β → Station → List Event → Prop}
    (ho : o.Spec Q) (hok : ∀ x st st' e, Q st (.ok x) st' e → R st (.ok (g x)) st' e)
    (herr : ∀ f st st' e, Q st (.error f) st' e → R st (.error f) st' e) : (g <$> o).Spec R := by
  rw [map_eq_pure_bind]
  refine Op.Spec.bind ho (fun x => Op.spec_pure (g x)
    (Q := fun st r st' evs => r = .ok (g x) ∧ st' = st ∧ evs = []) fun _ => ⟨rfl, rfl, rfl⟩) ?_ herr
  intro x st st₁ r st₂ e₁ e₂ hq ⟨hr, hst, he₂⟩
  subst hr hst he₂
  simpa using hok x st _ e₁ hq

/-- A spec read at one run whose outcome is known: its events are what the site's journal gained. -/
theorem Op.Spec.at_run (h : o.Spec Q) {st st' : Station} {r : Except Failure α}
    (hrun : o.runOn st = (r, st')) : Q st r st' (st.site.since st'.site) := by
  obtain ⟨evs, hafter, hq⟩ := h st
  rw [hrun] at hafter hq
  rwa [hafter.since_eq]

/-- Two specs of one operation hold together: the events of a run are fixed by its sites. -/
theorem Op.Spec.and (h : o.Spec Q) (h' : o.Spec Q') :
    o.Spec fun st r st' evs => Q st r st' evs ∧ Q' st r st' evs := by
  intro st
  obtain ⟨e, hs, hq⟩ := h st
  obtain ⟨e', hs', hq'⟩ := h' st
  cases hs.events_eq hs'
  exact ⟨e, hs, hq, hq'⟩

/-- An operation that runs as `o'` from the stations where `P` holds has the spec of `o'` from
there, given any spec of its own for the other stations. -/
theorem Op.Spec.when {o' : Op α} {P : Station → Prop} (h₀ : o.Spec Q')
    (heq : ∀ st, P st → o.runOn st = o'.runOn st) (h : o'.Spec Q) :
    o.Spec fun st r st' evs => P st → Q st r st' evs := by
  intro st
  by_cases hp : P st
  · obtain ⟨evs, hs, hq⟩ := h st
    rw [← heq st hp] at hs hq
    exact ⟨evs, hs, fun _ => hq⟩
  · obtain ⟨evs, hs, -⟩ := h₀ st
    exact ⟨evs, hs, fun h => absurd h hp⟩

end Spec

/-! ## Operations within a class of events and failures -/

/-- What an operation was asked to do: its name, the desired state and the prior state. No
phase changes it. -/
def Progress.request (p : Progress) : Value × Value × Value := (p.operation, p.desired, p.prior)

/-- Every run of `o` keeps the request of the progress, makes only events that satisfy `p`
and fails only with failures that satisfy `q`. -/
def Op.Within (p : Event → Prop) (q : Failure → Prop) (o : Op α) : Prop :=
  o.Spec fun st r st' evs =>
    st'.progress.request = st.progress.request ∧ (∀ e ∈ evs, p e) ∧ ∀ f, r = .error f → q f

section Within

variable {p : Event → Prop} {q q' : Failure → Prop} {o : Op α}

theorem Op.Within.mono {p' : Event → Prop} (h : o.Within p q) (hp : ∀ e, p e → p' e)
    (hq : ∀ f, q f → q' f) : o.Within p' q' :=
  Op.Spec.mono h fun _ _ _ _ ⟨hk, he, hf⟩ =>
    ⟨hk, fun e m => hp e (he e m), fun f hr => hq f (hf f hr)⟩

theorem Op.within_pure (x : α) : (pure x : Op α).Within p q :=
  Op.spec_pure x fun _ => ⟨rfl, List.forall_mem_nil _, fun _ h => by cases h⟩

theorem Op.within_throw {f : Failure} (h : q f) : (throw f : Op α).Within p q :=
  Op.spec_throw f fun _ => ⟨rfl, List.forall_mem_nil _, fun _ hr => by cases hr; exact h⟩

theorem Op.within_liftFailure {x : Except Failure α} (h : ∀ f, x = .error f → q f) :
    (liftFailure x : Op α).Within p q :=
  Op.spec_liftFailure x fun _ => ⟨rfl, List.forall_mem_nil _, h⟩

/-- A lookup that fails only with faults stays within any class that admits faults. -/
theorem Op.within_plain {x : Except Failure α} (hx : Plain x) (hq : ∀ f, f.cls? = none → q f) :
    (liftFailure x : Op α).Within p q :=
  Op.within_liftFailure fun f hf => hq f (hx f hf)

theorem Op.within_progress : Op.progress.Within p q :=
  Op.spec_progress fun _ => ⟨rfl, List.forall_mem_nil _, fun _ h => by cases h⟩

/-- A note that keeps the request. -/
theorem Op.within_note {f : Progress → Progress} (hf : ∀ pr, (f pr).request = pr.request) :
    (Op.note f).Within p q :=
  Op.spec_note f fun st => ⟨hf st.progress, List.forall_mem_nil _, fun _ h => by cases h⟩

theorem Op.within_act {a : Act α} (h : a.Within p q) : (Op.act a).Within p q :=
  (Op.act_spec h).mono fun _ _ _ _ ⟨h, _, hp⟩ => ⟨by rw [hp], h⟩

theorem Op.Within.bind {f : α → Op β} (ho : o.Within p q) (hf : ∀ x, (f x).Within p q) :
    (o >>= f).Within p q :=
  Op.Spec.bind ho hf
    (fun _ _ _ _ _ _ _ ⟨k₁, h₁, _⟩ ⟨k₂, h₂, hr⟩ =>
      ⟨k₂.trans k₁, fun e m => (List.mem_append.1 m).elim (h₁ e) (h₂ e), hr⟩)
    fun f _ _ _ ⟨k₁, h₁, hf⟩ => ⟨k₁, h₁, fun f' h => by cases h; exact hf f rfl⟩

/-- An operation followed by steps within a class that keep the request. -/
theorem Op.Spec.bind_within {f : α → Op β} {Q : Station → Except Failure α → Station → List Event → Prop}
    {R : Station → Except Failure β → Station → List Event → Prop} (ho : o.Spec Q)
    (hf : ∀ x, (f x).Within p q)
    (hok : ∀ x st st₁ r st₂ e₁ e₂, Q st (.ok x) st₁ e₁ →
      st₂.progress.request = st₁.progress.request → (∀ e ∈ e₂, p e) →
      (∀ f, r = .error f → q f) → R st r st₂ (e₁ ++ e₂))
    (herr : ∀ f st st₁ e, Q st (.error f) st₁ e → R st (.error f) st₁ e) : (o >>= f).Spec R :=
  Op.Spec.bind ho hf (fun x st st₁ r st₂ e₁ e₂ hq ⟨hk, he, hr⟩ => hok x st st₁ r st₂ e₁ e₂ hq hk he hr)
    herr

/-- A note that keeps the request, then steps within the class. -/
theorem Op.Within.note_bind {f : Progress → Progress} {g : Unit → Op β}
    (hf : ∀ pr, (f pr).request = pr.request) (hg : ∀ x, (g x).Within p q) :
    (Op.note f >>= g).Within p q :=
  (Op.within_note hf).bind hg

theorem Op.Within.map (g : α → β) (h : o.Within p q) : (g <$> o).Within p q := by
  rw [map_eq_pure_bind]
  exact h.bind fun x => Op.within_pure (g x)

/-- A handler runs on the failures of its operation, so it only has to be within the class for
those. -/
theorem Op.Within.tryCatch {h : Failure → Op α} (ho : o.Within p q')
    (hh : ∀ f, q' f → (h f).Within p q) : (MonadExcept.tryCatch o h).Within p q := by
  intro st
  obtain ⟨e₁, hs₁, k₁, he₁, hq₁⟩ := ho st
  rw [Op.runOn_tryCatch]
  rcases hrun : o.runOn st with ⟨r, st₁⟩
  rw [hrun] at hs₁ k₁ hq₁
  cases r with
  | ok x => exact ⟨e₁, hs₁, k₁, he₁, nofun⟩
  | error f =>
    obtain ⟨e₂, hs₂, k₂, he₂, hq₂⟩ := hh f (hq₁ f rfl) st₁
    exact ⟨e₁ ++ e₂, hs₁.trans hs₂, k₂.trans k₁,
      fun e m => (List.mem_append.1 m).elim (he₁ e) (he₂ e), hq₂⟩

end Within

/-! ## What an operation keeps -/

/-- Every run of `o` ends with the same `k` of the progress as it started with. -/
def Op.Keeps {κ : Type} (k : Progress → κ) (o : Op α) : Prop :=
  o.Spec fun st _ st' _ => k st'.progress = k st.progress

section Keeps

variable {κ : Type} {k : Progress → κ} {o : Op α}

theorem Op.keeps_pure (x : α) : (pure x : Op α).Keeps k :=
  Op.spec_pure x fun _ => rfl

theorem Op.keeps_throw (f : Failure) : (throw f : Op α).Keeps k :=
  Op.spec_throw f fun _ => rfl

theorem Op.keeps_liftFailure (x : Except Failure α) : (liftFailure x : Op α).Keeps k :=
  Op.spec_liftFailure x fun _ => rfl

theorem Op.keeps_progress : Op.progress.Keeps k :=
  Op.spec_progress fun _ => rfl

theorem Op.keeps_note {f : Progress → Progress} (hf : ∀ pr, k (f pr) = k pr) : (Op.note f).Keeps k :=
  Op.spec_note f fun st => hf st.progress

theorem Op.keeps_act {a : Act α} {Q : Except Failure α → List Event → Prop} (h : a.Spec Q) :
    (Op.act a).Keeps k :=
  (Op.act_spec h).mono fun _ _ _ _ ⟨_, _, hp⟩ => by rw [hp]

theorem Op.Keeps.bind {f : α → Op β} (ho : o.Keeps k) (hf : ∀ x, (f x).Keeps k) : (o >>= f).Keeps k :=
  Op.Spec.bind ho hf (fun _ _ _ _ _ _ _ h₁ h₂ => h₂.trans h₁) fun _ _ _ _ h => h

/-- A handler that keeps what the operation it guards keeps keeps it too. -/
theorem Op.Keeps.tryCatch {h : Failure → Op α} (ho : o.Keeps k) (hh : ∀ f, (h f).Keeps k) :
    (tryCatch o h).Keeps k :=
  Op.Spec.tryCatch ho hh (fun _ _ _ _ h => h) fun _ _ _ _ _ _ _ h₁ h₂ => h₂.trans h₁

theorem Op.Keeps.map {g : α → β} (ho : o.Keeps k) : (g <$> o).Keeps k :=
  Op.Spec.map ho (fun _ _ _ _ h => h) fun _ _ _ _ h => h

end Keeps

/-! ## Runs of phases -/

/-- The progress without its phase record, which is all the runner of phases writes. -/
def Progress.work (p : Progress) : Progress := { p with record := {} }

theorem Progress.request_eq_of_work {p p' : Progress} (h : p.work = p'.work) :
    p.request = p'.request := by
  have h' := congrArg Progress.request h
  exact h'

theorem Progress.discovered_eq_of_work {p p' : Progress} (h : p.work = p'.work) :
    p.discovered = p'.discovered := by
  have h' := congrArg Progress.discovered h
  exact h'

theorem Progress.operation_eq_of_request {p p' : Progress} (h : p.request = p'.request) :
    p.operation = p'.operation := by
  have h' := congrArg Prod.fst h
  exact h'

theorem Progress.desired_eq_of_request {p p' : Progress} (h : p.request = p'.request) :
    p.desired = p'.desired := by
  have h' := congrArg (fun q => q.2.1) h
  exact h'

theorem Progress.prior_eq_of_request {p p' : Progress} (h : p.request = p'.request) :
    p.prior = p'.prior := by
  have h' := congrArg (fun q => q.2.2) h
  exact h'

/-- A run of the phases `phs` from the progress `w` to the progress `w'`, where phase `ph` runs
as `Q ph` says: the phases run in order, each from the progress the last one ended with (up to the
record), and the first that fails stops the run with its failure as `phaseFailure` reports it.
The run ends with the progress its last phase ended with. -/
def PhaseRun (Q : Phase → Progress → Except Failure Unit → Progress → List Event → Prop) :
    List Phase → Progress → Except Failure Unit → Progress → List Event → Prop
  | [], w, r, w', evs => r = .ok () ∧ evs = [] ∧ w'.work = w.work
  | ph :: rest, w, r, w', evs => ∃ p₀ r₀ p₁ e₀, p₀.work = w.work ∧ Q ph p₀ r₀ p₁ e₀ ∧
      ((∃ f, r₀ = .error f ∧ r = .error (phaseFailure ph f).1 ∧ evs = e₀ ∧ w'.work = p₁.work) ∨
       (r₀ = .ok () ∧ ∃ e₁, evs = e₀ ++ e₁ ∧ PhaseRun Q rest p₁ r w' e₁))

variable {Q : Phase → Progress → Except Failure Unit → Progress → List Event → Prop}
  {action : Phase → Op Unit}

theorem PhaseRun.of_work_eq {phs : List Phase} {w w₂ w' : Progress} {r : Except Failure Unit}
    {evs : List Event} (hw : w.work = w₂.work) (h : PhaseRun Q phs w r w' evs) :
    PhaseRun Q phs w₂ r w' evs := by
  cases phs with
  | nil => exact ⟨h.1, h.2.1, h.2.2.trans hw⟩
  | cons ph rest =>
    obtain ⟨p₀, r₀, p₁, e₀, h₀, hq, hrest⟩ := h
    exact ⟨p₀, r₀, p₁, e₀, h₀.trans hw, hq, hrest⟩

/-- Only the work of the progress a run ends with counts. -/
theorem PhaseRun.of_end_work_eq {phs : List Phase} {w w' w₂ : Progress} {r : Except Failure Unit}
    {evs : List Event} (hw : w'.work = w₂.work) (h : PhaseRun Q phs w r w' evs) :
    PhaseRun Q phs w r w₂ evs := by
  induction phs generalizing w evs with
  | nil => exact ⟨h.1, h.2.1, hw.symm.trans h.2.2⟩
  | cons ph rest ih =>
    obtain ⟨p₀, r₀, p₁, e₀, h₀, hq, hrest⟩ := h
    refine ⟨p₀, r₀, p₁, e₀, h₀, hq, ?_⟩
    rcases hrest with ⟨f, hr₀, hr, he, hend⟩ | ⟨hok, e₁, he, hrun⟩
    · exact .inl ⟨f, hr₀, hr, he, hw.symm.trans hend⟩
    · exact .inr ⟨hok, e₁, he, ih hrun⟩

theorem PhaseRun.mono {Q' : Phase → Progress → Except Failure Unit → Progress → List Event → Prop}
    (hQ : ∀ ph p₀ r₀ p₁ e₀, Q ph p₀ r₀ p₁ e₀ → Q' ph p₀ r₀ p₁ e₀) {phs : List Phase}
    {w w' : Progress} {r : Except Failure Unit} {evs : List Event} (h : PhaseRun Q phs w r w' evs) :
    PhaseRun Q' phs w r w' evs := by
  induction phs generalizing w evs with
  | nil => exact h
  | cons ph rest ih =>
    obtain ⟨p₀, r₀, p₁, e₀, h₀, hq, hrest⟩ := h
    refine ⟨p₀, r₀, p₁, e₀, h₀, hQ _ _ _ _ _ hq, ?_⟩
    rcases hrest with hfail | ⟨hok, e₁, he, hrun⟩
    · exact .inl hfail
    · exact .inr ⟨hok, e₁, he, ih hrun⟩

/-- **Phases that keep the request run on the request they started with**: each phase starts
from a progress with the request of the run. -/
theorem PhaseRun.with_request (hQ : ∀ ph p₀ r₀ p₁ e₀, Q ph p₀ r₀ p₁ e₀ → p₁.request = p₀.request)
    {phs : List Phase} {w w' : Progress} {r : Except Failure Unit} {evs : List Event}
    (h : PhaseRun Q phs w r w' evs) :
    PhaseRun (fun ph p₀ r₀ p₁ e₀ => Q ph p₀ r₀ p₁ e₀ ∧ p₀.request = w.request) phs w r w' evs := by
  induction phs generalizing w evs with
  | nil => exact h
  | cons ph rest ih =>
    obtain ⟨p₀, r₀, p₁, e₀, h₀, hq, hrest⟩ := h
    -- the record is all the runner changes, so the request is the run's
    have hreq : p₀.request = w.request := Progress.request_eq_of_work h₀
    refine ⟨p₀, r₀, p₁, e₀, h₀, ⟨hq, hreq⟩, ?_⟩
    rcases hrest with hfail | ⟨hok, e₁, he, hrun⟩
    · exact .inl hfail
    · refine .inr ⟨hok, e₁, he, (ih hrun).mono fun _ _ _ _ _ ⟨hq', hreq'⟩ => ⟨hq', ?_⟩⟩
      rw [hreq', hQ _ _ _ _ _ hq, hreq]

/-- Phases that keep the request end the run with the request it started with. -/
theorem PhaseRun.end_request (hQ : ∀ ph p₀ r₀ p₁ e₀, Q ph p₀ r₀ p₁ e₀ → p₁.request = p₀.request)
    {phs : List Phase} {w w' : Progress} {r : Except Failure Unit} {evs : List Event}
    (h : PhaseRun Q phs w r w' evs) : w'.request = w.request := by
  induction phs generalizing w evs with
  | nil => exact Progress.request_eq_of_work h.2.2
  | cons ph rest ih =>
    obtain ⟨p₀, r₀, p₁, e₀, h₀, hq, ⟨f, -, -, -, hend⟩ | ⟨-, e₁, -, hrun⟩⟩ := h
    · rw [Progress.request_eq_of_work hend, hQ _ _ _ _ _ hq, Progress.request_eq_of_work h₀]
    · rw [ih hrun, hQ _ _ _ _ _ hq, Progress.request_eq_of_work h₀]

/-- One phase runs as its action, from and to the progress of the station up to the record, and
fails as `phaseFailure` reports. -/
theorem runPhase_spec (ph : Phase)
    (h : (action ph).Spec fun st r st' evs => Q ph st.progress r st'.progress evs) :
    (runPhase Op.touch action ph).Spec fun st r st' evs => ∃ p₀ r₀ p₁,
      Q ph p₀ r₀ p₁ evs ∧ p₀.work = st.progress.work ∧ p₁.work = st'.progress.work ∧
      r = r₀.mapError fun f => (phaseFailure ph f).1 := by
  intro st
  unfold runPhase
  simp only [Op.runOn_bind, Op.runOn_tryCatch, Op.touch, Op.note, Op.runOn_modify]
  -- the phase runs from the station with its start stamped
  let st₀ : Station :=
    { st with progress := { st.progress with record := st.progress.record.stamp (ph.name ++ "_start") } }
  obtain ⟨evs, hs, hq⟩ := h st₀
  rcases hrun : (action ph).runOn st₀ with ⟨r₀, st₁⟩
  rw [hrun] at hs hq
  cases r₀ with
  | ok u => exact ⟨evs, hs, _, _, _, hq, rfl, rfl, rfl⟩
  | error f =>
    dsimp only
    rcases hpf : phaseFailure ph f with ⟨f', recorded⟩
    cases recorded <;> simp only [Op.runOn_bind, Op.runOn_modify, Op.runOn_throw] <;>
      exact ⟨evs, hs, _, _, _, hq, rfl, rfl, by show _ = Except.error (phaseFailure ph f).1; rw [hpf]⟩

/-- The phases of a list run one after the other until one fails. -/
theorem forM_runPhase_spec (phs : List Phase)
    (h : ∀ ph, (action ph).Spec fun st r st' evs => Q ph st.progress r st'.progress evs) :
    (phs.forM (runPhase Op.touch action)).Spec fun st r st' evs =>
      PhaseRun Q phs st.progress r st'.progress evs := by
  induction phs with
  | nil => exact Op.spec_pure () fun _ => ⟨rfl, rfl, rfl⟩
  | cons ph rest ih =>
    show (runPhase Op.touch action ph >>= fun _ => rest.forM (runPhase Op.touch action)).Spec _
    refine Op.Spec.bind (runPhase_spec ph (h ph)) (fun _ => ih) ?_ ?_
    · intro _ st st₁ r st₂ e₁ e₂ ⟨p₀, r₀, p₁, hq, h₀, h₁, hr⟩ hrest
      cases r₀ with
      | ok u => exact ⟨p₀, .ok u, p₁, e₁, h₀, hq, .inr ⟨rfl, e₂, rfl, hrest.of_work_eq h₁.symm⟩⟩
      | error f => cases hr
    · intro f st st₁ e ⟨p₀, r₀, p₁, hq, h₀, h₁, hr⟩
      cases r₀ with
      | ok u => cases hr
      | error f₀ =>
        cases hr
        exact ⟨p₀, .error f₀, p₁, e, h₀, hq, .inl ⟨f₀, rfl, rfl, rfl, h₁.symm⟩⟩

/-- The phases `phs` in the frame a run puts around them: the record starts afresh and is
stamped at the start, a run that gets through them is marked a success, and the end is stamped
whatever happens. -/
def framedPhases (action : Phase → Op Unit) (phs : List Phase) : Op Unit := do
  Op.touch fun _ => {}
  Op.touch (·.stamp "start")
  tryCatch (do phs.forM (runPhase Op.touch action); Op.touch (·.succeed))
    fun f => do
      Op.touch (·.stamp "end")
      throw f
  Op.touch (·.stamp "end")

/-- **The frame changes the record alone**: a run of the framed phases is a run of the phases
from the progress with a fresh record, with the same events and outcome, ending with the same
work. -/
theorem framedPhases_spec (phs : List Phase)
    {S : Station → Except Failure Unit → Station → List Event → Prop}
    (h : (phs.forM (runPhase Op.touch action)).Spec S) :
    (framedPhases action phs).Spec fun st r st' evs => ∃ st₀ st₁,
      st₀.progress.work = st.progress.work ∧ st₁.progress.work = st'.progress.work ∧
        S st₀ r st₁ evs := by
  intro st
  -- the phases run from the station whose record is fresh and stamped at the start
  let st₀ : Station :=
    { st with progress := { st.progress with record := ({} : PhaseRecord).stamp "start" } }
  obtain ⟨evs, hs, hq⟩ := h st₀
  simp only [framedPhases, Op.runOn_bind, Op.runOn_tryCatch, Op.touch, Op.note, Op.runOn_modify]
  rcases hrun : (phs.forM (runPhase Op.touch action)).runOn st₀ with ⟨r, st₁⟩
  rw [hrun] at hs hq
  -- whatever the phases end with, the frame only stamps the record
  cases r with
  | ok u => exact ⟨evs, hs, st₀, st₁, rfl, rfl, hq⟩
  | error f =>
    simp only [Op.runOn_throw]
    exact ⟨evs, hs, st₀, st₁, rfl, rfl, hq⟩

/-- A run of framed phases is the run of the phases, from the progress it starts with to the
one it ends with. -/
theorem phases_spec (phs : List Phase)
    (h : ∀ ph, (action ph).Spec fun st r st' evs => Q ph st.progress r st'.progress evs) :
    (framedPhases action phs).Spec fun st r st' evs => PhaseRun Q phs st.progress r st'.progress evs :=
  (framedPhases_spec phs (forM_runPhase_spec phs h)).mono
    fun _ _ _ _ ⟨_, _, h₀, h₁, hq⟩ => (hq.of_work_eq h₀).of_end_work_eq h₁

/-- A phase whose success relates the progress it starts from to the one it ends with keeps
that relation under the runner, which changes the record alone. -/
theorem runPhase_ok (ph : Phase) {T : Progress → Progress → List Event → Prop}
    (h : (action ph).Spec fun st r st' evs => r = .ok () → T st.progress.work st'.progress.work evs) :
    (runPhase Op.touch action ph).Spec fun st r st' evs =>
      r = .ok () → T st.progress.work st'.progress.work evs := by
  refine (runPhase_spec (Q := fun _ p₀ r₀ p₁ evs => r₀ = .ok () → T p₀.work p₁.work evs) ph h).mono ?_
  rintro st r st' evs ⟨p₀, r₀, p₁, hq, h₀, h₁, rfl⟩ hok
  cases r₀ with
  | ok u =>
    rw [← h₀, ← h₁]
    exact hq rfl
  | error f => cases hok

/-- What a successful run of the phases gives between the progress it starts from and the one
it ends with, the whole run gives: around the phases only the record changes. -/
theorem phases_ok (phs : List Phase) {T : Progress → Progress → List Event → Prop}
    (h : (phs.forM (runPhase Op.touch action)).Spec fun st r st' evs =>
      r = .ok () → T st.progress.work st'.progress.work evs) :
    (framedPhases action phs).Spec fun st r st' evs =>
      r = .ok () → T st.progress.work st'.progress.work evs :=
  (framedPhases_spec phs h).mono fun _ _ _ _ ⟨_, _, h₀, h₁, hq⟩ hok => h₀ ▸ h₁ ▸ hq hok

/-- A phase that must succeed from a progress satisfying `P` when its events satisfy `G`
succeeds under the runner, leaving what it leaves. -/
theorem runPhase_by (ph : Phase) {P : Progress → Prop} {G : List Event → Prop}
    {T : Progress → Progress → Prop}
    (h : (action ph).Spec fun st r st' evs =>
      P st.progress.work → G evs → r = .ok () ∧ T st.progress.work st'.progress.work) :
    (runPhase Op.touch action ph).Spec fun st r st' evs =>
      P st.progress.work → G evs → r = .ok () ∧ T st.progress.work st'.progress.work := by
  refine (runPhase_spec (Q := fun _ p₀ r₀ p₁ evs => P p₀.work → G evs → r₀ = .ok () ∧
    T p₀.work p₁.work) ph h).mono ?_
  rintro st r st' evs ⟨p₀, r₀, p₁, hq, h₀, h₁, rfl⟩ hP hG
  rw [← h₀] at hP
  obtain ⟨rfl, hT⟩ := hq hP hG
  rw [← h₀, ← h₁]
  exact ⟨rfl, hT⟩

/-- Phases that must succeed make a run that succeeds: around them only the record changes. -/
theorem phases_by (phs : List Phase) {P : Progress → Prop} {G : List Event → Prop}
    {T : Progress → Progress → Prop}
    (h : (phs.forM (runPhase Op.touch action)).Spec fun st r st' evs =>
      P st.progress.work → G evs → r = .ok () ∧ T st.progress.work st'.progress.work) :
    (framedPhases action phs).Spec fun st r st' evs =>
      P st.progress.work → G evs → r = .ok () ∧ T st.progress.work st'.progress.work :=
  (framedPhases_spec phs h).mono fun _ _ _ _ ⟨_, _, h₀, h₁, hq⟩ hP hG => h₀ ▸ h₁ ▸ hq (h₀ ▸ hP) hG

theorem execute_all (action : Phase → Op Unit) :
    execute Op.touch action .null = framedPhases action Phase.all := by
  have hjoin : joinTexts ", " (.list [.str "discover", .str "process", .str "housekeep"]) =
      .ok "discover, process, housekeep" := rfl
  unfold execute framedPhases
  simp only [Phase.all, List.forIn_cons, List.forIn_nil, if_true]
  simp [liftFailure, Value.contains, Phase.name, same, hjoin]

theorem execute_housekeep (action : Phase → Op Unit) :
    execute Op.touch action (.list [.str "housekeep"]) = framedPhases action [.housekeep] := by
  have hjoin : joinTexts ", " (.list [.str "housekeep"]) = .ok "housekeep" := rfl
  unfold execute framedPhases
  simp only [Phase.all, List.forIn_cons, List.forIn_nil]
  simp [liftFailure, Value.contains, Phase.name, same, hjoin]

/-- Running the phases of a list of one is running that phase. -/
theorem forM_runPhase_single (ph : Phase) :
    [ph].forM (runPhase Op.touch action) = runPhase Op.touch action ph :=
  bind_pure_unit

/-! ## The lock and a whole run -/

theorem endpointKey_plain (endpoint : Value) : Plain (endpointKey endpoint) := by
  unfold endpointKey
  dsimp only
  split
  · exact plain_error.2 rfl
  split
  · refine (plain_ok _).bind fun text => ?_
    split
    · exact plain_error.2 rfl
    · exact plain_ok _
  · exact plain_error.2 rfl

theorem Registry.take_plain (r : Registry) (endpoint : Value) : Plain (r.take endpoint) :=
  (endpointKey_plain endpoint).bind fun _ => plain_ok _

/-- The lock of `endpoint` is served at once from the registry `reg`: the ticket taken now is
the one being served. -/
def Registry.ServesAtOnce (reg : Registry) (endpoint : Value) : Prop :=
  ∃ key ticket reg', reg.take endpoint = .ok (key, ticket, true, reg')

/-- **The lock adds no event**: either it is not served at once and nothing runs, or the body
runs, with its events and its result, from the station with the lock taken; releasing the lock
touches the registry alone. -/
theorem withLock_cases {α : Type} (endpoint : Value) {body : Op α}
    {R : Station → Except Failure α → Station → List Event → Prop} (h : body.Spec R) :
    (withLock endpoint body).Spec fun st r st' evs =>
      (evs = [] ∧ (∃ f, r = .error f ∧ f.cls? = none) ∧
        ¬ Registry.ServesAtOnce st.registry endpoint) ∨
      ∃ st₀ st₁, st₀.site = st.site ∧ st₀.progress = st.progress ∧ R st₀ r st₁ evs ∧
        st'.site = st₁.site ∧ st'.progress = st₁.progress := by
  intro st
  unfold withLock
  simp only [Op.runOn_bind, Op.runOn_get, Op.runOn_liftFailure]
  rcases htake : st.registry.take endpoint with f | ⟨key, ticket, served, registry⟩
  · exact ⟨[], Site.After.refl _, .inl ⟨rfl, ⟨f, rfl, Registry.take_plain _ _ f htake⟩,
      fun ⟨_, _, _, h⟩ => by rw [htake] at h; cases h⟩⟩
  dsimp only
  cases served with
  | false =>
    simp only [Bool.not_false, if_true, Op.runOn_bind, Op.runOn_throw]
    exact ⟨[], Site.After.refl _, .inl ⟨rfl, ⟨.exhausted, rfl, rfl⟩,
      fun ⟨_, _, _, h⟩ => by rw [htake] at h; cases h⟩⟩
  | true =>
    simp only [Bool.not_true, Bool.false_eq_true, if_false, Op.runOn_bind, Op.runOn_tryCatch,
      Op.runOn_setOf]
    -- the body runs from the station with the lock taken
    let st₀ : Station := { st with registry }
    obtain ⟨evs, hs, hq⟩ := h st₀
    rcases hrun : body.runOn st₀ with ⟨r, st₁⟩
    rw [hrun] at hs hq
    cases r <;> simp only [Op.runOn_modify, Op.runOn_throw, Op.runOn_pure] <;>
      exact ⟨evs, hs, .inr ⟨st₀, st₁, rfl, rfl, hq, rfl, rfl⟩⟩

theorem withLock_spec {α : Type} (endpoint : Value) {body : Op α}
    {R : Station → Except Failure α → Station → List Event → Prop} (h : body.Spec R) :
    (withLock endpoint body).Spec fun st r st' evs =>
      (evs = [] ∧ ∃ f, r = .error f ∧ f.cls? = none) ∨
      ∃ st₀ st₁, st₀.site = st.site ∧ st₀.progress = st.progress ∧ R st₀ r st₁ evs ∧
        st'.site = st₁.site ∧ st'.progress = st₁.progress :=
  (withLock_cases endpoint h).mono fun _ _ _ _ h => h.imp_left fun ⟨he, hf, _⟩ => ⟨he, hf⟩

/-- A lock served at once runs the body. -/
theorem withLock_served {α : Type} (endpoint : Value) {body : Op α}
    {R : Station → Except Failure α → Station → List Event → Prop} (h : body.Spec R) :
    (withLock endpoint body).Spec fun st r st' evs => Registry.ServesAtOnce st.registry endpoint →
      ∃ st₀ st₁, st₀.site = st.site ∧ st₀.progress = st.progress ∧ R st₀ r st₁ evs ∧
        st'.site = st₁.site ∧ st'.progress = st₁.progress :=
  (withLock_cases endpoint h).mono fun _ _ _ _ h hserved =>
    h.resolve_left fun ⟨_, _, hnot⟩ => hnot hserved

/-- What a run and its events satisfy carries through the lock, if the lock's own failures
satisfy it. -/
theorem withLock_spec_of {α : Type} {endpoint : Value} {body : Op α}
    {P : Except Failure α → List Event → Prop} (h : body.Spec fun _ r _ evs => P r evs)
    (hlock : ∀ f, f.cls? = none → P (.error f) []) :
    (withLock endpoint body).Spec fun _ r _ evs => P r evs :=
  (withLock_spec endpoint h).mono fun _ _ _ _ h => by
    rcases h with ⟨he, f, hr, hf⟩ | ⟨_, _, _, _, hq, _, _⟩
    · subst he hr
      exact hlock f hf
    · exact hq

/-- A run of the component while the lock of its endpoint is held: the operation's fields start
afresh with the request, the states have their defaults filled in, and the phases run; the
result and the found flag are those the phases left. -/
def Component.runHeld (c : Component) (operation : String) (desired prior selection : Value) :
    Op (Value × Bool) := do
  Op.note fun p => { operation := .str operation, record := p.record }
  let desired ← liftFailure (withDefaults desired)
  Op.note fun p => { p with desired }
  let prior ← liftFailure (withDefaults (if prior.truthy then prior else .dict []))
  Op.note fun p => { p with prior }
  execute Op.touch c.phase selection
  let p ← Op.progress
  pure (p.result, p.found)

theorem Component.run_eq_withLock (c : Component) (operation : String)
    (desired prior selection : Value) :
    c.run operation desired prior selection =
      withLock c.endpoint (c.runHeld operation desired prior selection) := rfl

/-- **Under the lock, a run is a run of its phases**: it fails with no event when a state has
no defaults, and otherwise runs the phases from a progress whose work is the request with the
defaults filled in, returning the result and the found flag they leave. -/
theorem Component.runHeld_spec (c : Component) (operation : String)
    (desired prior selection : Value)
    {S : Station → Except Failure Unit → Station → List Event → Prop}
    (hexec : (execute Op.touch c.phase selection).Spec S) :
    (c.runHeld operation desired prior selection).Spec fun _ r st' evs =>
      (evs = [] ∧ ∃ f, r = .error f ∧ (withDefaults desired = .error f ∨
        withDefaults (if prior.truthy then prior else .dict []) = .error f)) ∨
      ∃ D P st₀ r', withDefaults desired = .ok D ∧
        withDefaults (if prior.truthy then prior else .dict []) = .ok P ∧
        st₀.progress.work = ({ operation := .str operation, desired := D, prior := P } : Progress).work ∧
        S st₀ r' st' evs ∧ r = (fun _ => (st'.progress.result, st'.progress.found)) <$> r' := by
  intro st
  simp only [Component.runHeld, Op.runOn_bind, Op.note, Op.runOn_modify, Op.runOn_liftFailure]
  cases hD : withDefaults desired with
  | error f => exact ⟨[], Site.After.refl _, .inl ⟨rfl, f, rfl, .inl rfl⟩⟩
  | ok D =>
  cases hP : withDefaults (if prior.truthy then prior else .dict []) with
  | error f => exact ⟨[], Site.After.refl _, .inl ⟨rfl, f, rfl, .inr rfl⟩⟩
  | ok P =>
  dsimp only
  -- the phases run from the progress that holds the request and the last run's record
  let st₀ : Station := { st with progress :=
    { operation := .str operation, desired := D, prior := P, record := st.progress.record } }
  obtain ⟨evs, hs, hq⟩ := hexec st₀
  rcases hrun : (execute Op.touch c.phase selection).runOn st₀ with ⟨r', st₁⟩
  rw [hrun] at hs hq
  refine ⟨evs, ?_⟩
  cases r' with
  | ok u =>
    simp only [Op.runOn_progress]
    exact ⟨hs, .inr ⟨D, P, st₀, .ok u, rfl, rfl, rfl, hq, rfl⟩⟩
  | error f => exact ⟨hs, .inr ⟨D, P, st₀, .error f, rfl, rfl, rfl, hq, rfl⟩⟩

/-- **A run of the component is a run of its phases**, under the lock, on the desired and prior
states after defaults, ending with the progress the phases left; a run that does not get that
far makes no event. -/
theorem Component.run_spec (c : Component) (operation : String) (desired prior selection : Value)
    {phs : List Phase}
    (hexec : (execute Op.touch c.phase selection).Spec fun st r st' evs =>
      PhaseRun Q phs st.progress r st'.progress evs) :
    (c.run operation desired prior selection).Spec fun _ r st' evs =>
      (evs = [] ∧ ∃ f, r = .error f) ∨
      ∃ D P r', withDefaults desired = .ok D ∧
        withDefaults (if prior.truthy then prior else .dict []) = .ok P ∧
        PhaseRun Q phs { operation := .str operation, desired := D, prior := P } r' st'.progress evs ∧
        ∀ f, r = .error f ↔ r' = .error f := by
  rw [Component.run_eq_withLock]
  refine (withLock_spec c.endpoint (c.runHeld_spec operation desired prior selection hexec)).mono
    fun _ r st' evs h => ?_
  rcases h with ⟨he, f, hr, -⟩ | ⟨-, st₁, -, -, hheld, -, hend⟩
  · exact .inl ⟨he, f, hr⟩
  rcases hheld with ⟨he, f, hr, -⟩ | ⟨D, P, st₀, r', hD, hP, h₀, hq, rfl⟩
  · exact .inl ⟨he, f, hr⟩
  -- the run fails exactly when its phases do, with their failure; releasing the lock keeps
  -- the progress the phases left
  refine .inr ⟨D, P, r', hD, hP, (hq.of_work_eq h₀).of_end_work_eq (by rw [hend]), fun f => ?_⟩
  cases r' with
  | ok u => exact ⟨nofun, nofun⟩
  | error g => exact ⟨fun h => by cases h; rfl, fun h => by cases h; rfl⟩

/-- **A run of the component that returns gives what its phases left**: the result and the
found flag of the progress they ended with, having run on the request with the defaults filled
in. -/
theorem Component.run_ok (c : Component) (operation : String) (desired prior selection : Value)
    {T : Progress → Progress → List Event → Prop}
    (hexec : (execute Op.touch c.phase selection).Spec fun st r st' evs =>
      r = .ok () → T st.progress.work st'.progress.work evs) :
    (c.run operation desired prior selection).Spec fun _ r _ evs => ∀ x, r = .ok x →
      ∃ D P w, withDefaults desired = .ok D ∧
        withDefaults (if prior.truthy then prior else .dict []) = .ok P ∧
        T { operation := .str operation, desired := D, prior := P } w evs ∧
        x = (w.result, w.found) := by
  rw [Component.run_eq_withLock]
  refine withLock_spec_of ((c.runHeld_spec operation desired prior selection hexec).mono
    fun _ r st' evs h x hx => ?_) fun _ _ _ h => nomatch h
  rcases h with ⟨-, f, rfl, -⟩ | ⟨D, P, st₀, r', hD, hP, h₀, hq, rfl⟩
  · cases hx
  cases r' with
  | ok u =>
    have hT : T st₀.progress.work st'.progress.work evs := hq rfl
    rw [h₀] at hT
    exact ⟨D, P, st'.progress.work, hD, hP, hT, by cases hx; rfl⟩
  | error f => cases hx

/-- **A run served at once whose phases must succeed returns what they left**: under the lock,
with the defaults filled in, phases that succeed when the events satisfy `G` give the result
and the found flag of the progress they end with. -/
theorem Component.run_by (c : Component) (operation : String) (desired prior selection : Value)
    {D P : Value} (hD : withDefaults desired = .ok D)
    (hP : withDefaults (if prior.truthy then prior else .dict []) = .ok P)
    {G : List Event → Prop} {T : Progress → Prop}
    (hexec : (execute Op.touch c.phase selection).Spec fun st r st' evs =>
      st.progress.work = ({ operation := .str operation, desired := D, prior := P } : Progress).work →
        G evs → r = .ok () ∧ T st'.progress) :
    (c.run operation desired prior selection).Spec fun st r _ evs =>
      Registry.ServesAtOnce st.registry c.endpoint → G evs →
        ∃ w, r = .ok (w.result, w.found) ∧ T w := by
  rw [Component.run_eq_withLock]
  refine (withLock_served (R := fun _ r _ evs => G evs → ∃ w, r = .ok (w.result, w.found) ∧ T w)
    c.endpoint ((c.runHeld_spec operation desired prior selection hexec).mono
      fun _ r st' evs h hG => ?_)).mono fun _ _ _ _ h hserved => ?_
  · -- the states have their defaults, so the phases run, and they succeed
    rcases h with ⟨-, f, -, hfail | hfail⟩ | ⟨D', P', st₀, r', hD', hP', h₀, hq, rfl⟩
    · rw [hD] at hfail
      cases hfail
    · rw [hP] at hfail
      cases hfail
    rw [hD] at hD'
    rw [hP] at hP'
    cases hD'
    cases hP'
    obtain ⟨rfl, hT⟩ := hq h₀ hG
    exact ⟨st'.progress, rfl, hT⟩
  · obtain ⟨_, _, _, _, hq, _, _⟩ := h hserved
    exact hq

end VolumeLifecycle.Lifecycle
