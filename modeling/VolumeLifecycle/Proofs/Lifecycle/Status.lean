import VolumeLifecycle.Proofs.Lifecycle.Verbs
/-!
# VolumeLifecycle.Proofs.Lifecycle.Status

**What the status says after a verb.** The phase runner records the failure of a phase in the
component's status, and a run that gets through its phases marks the status a success. This
module states what that gives for every verb:

* a verb that returns leaves a status that says success;
* a verb that fails with a lifecycle error from one of its phases leaves that error in the
  status: not a success, the error's text, its stage (which the runner fills in when the error
  had none), and the phase in the message (`Status.Records`);
* two kinds of failure are left out of the status. A fault that is no lifecycle error (a
  missing key, a wrong kind of value, an answer of a kind the client cannot read) passes
  through the runner as it is, and one that stops the verb before its phases (a blank
  endpoint, a state that is not a mapping) never reaches the runner. An update that would
  turn encryption off is refused before anything runs, with a lifecycle error that has a stage
  but that no status records: the component is left as it was.

`Component.verb_status` puts these together.
-/

namespace VolumeLifecycle.Lifecycle

open VolumeLifecycle.Redfish VolumeLifecycle.Value VolumeLifecycle.Volume

/-! ## Statuses -/

/-- The status records the lifecycle error `e` of a phase: the run did not succeed, the error is
`e`'s text, the stage is `e`'s stage, and the message names the phase that failed. -/
def Status.Records (s : Status) (e : LifecycleError) : Prop :=
  s.success = false ∧ s.error = .str e.text ∧ s.stage = e.stage ∧
    ∃ ph : Phase, s.message = .str s!"{ph.title} phase failed: {e.message}"

/-- How a failure stands in the status of the run it ended: a lifecycle error with a stage,
which the status records, or a fault that is no lifecycle error. -/
def Status.Reports (s : Status) (f : Failure) : Prop :=
  (∃ e, f = .lifecycle e ∧ e.stage ≠ .null ∧ s.Records e) ∨ f.cls? = none

/-- The status after a run that ended with `r`: a success when the run returned, and a report
of the failure when it failed. -/
def Status.After {α : Type} (s : Status) (r : Except Failure α) : Prop :=
  (∀ x, r = .ok x → s.success = true) ∧ ∀ f, r = .error f → s.Reports f

theorem Status.after_fault {α : Type} (s : Status) {f : Failure} (hf : f.cls? = none) :
    s.After (.error f : Except Failure α) :=
  ⟨nofun, fun _ h => by cases h; exact .inr hf⟩

/-- What the status says is about the outcome alone, so it holds of any result with the same
outcome. -/
theorem Status.After.of_outcome {α β : Type} {s : Status} {r : Except Failure α}
    {r' : Except Failure β} (h : s.After r) (hok : ∀ x, r' = .ok x → ∃ y, r = .ok y)
    (herr : ∀ f, r' = .error f → r = .error f) : s.After r' :=
  ⟨fun x hx => by obtain ⟨y, hy⟩ := hok x hx; exact h.1 y hy, fun f hf => h.2 f (herr f hf)⟩

@[simp] theorem PhaseRecord.stamp_status (r : PhaseRecord) (name : String) :
    (r.stamp name).status = r.status := by
  unfold PhaseRecord.stamp
  split <;> rfl

@[simp] theorem PhaseRecord.complete_status (r : PhaseRecord) (p : Phase) :
    (r.complete p).status = r.status := by
  unfold PhaseRecord.complete
  split <;> rfl

theorem PhaseRecord.fail_records (r : PhaseRecord) (p : Phase) (e : LifecycleError) :
    (r.fail p e).status.Records e :=
  ⟨rfl, rfl, rfl, p, rfl⟩

/-- **A phase reports a failure as a lifecycle error with a stage and records it, or passes on
a fault.** A lifecycle error keeps its stage or takes the phase's; a transport failure and an
answer that is not JSON become the phase's own error, with the phase as stage. -/
theorem phaseFailure_reported (ph : Phase) (f : Failure) :
    (∃ e, phaseFailure ph f = (.lifecycle e, some e) ∧ e.stage ≠ .null) ∨
    (phaseFailure ph f = (f, none) ∧ f.cls? = none) := by
  cases f with
  | lifecycle e =>
    refine .inl ?_
    dsimp only [phaseFailure]
    split
    · exact ⟨_, rfl, nofun⟩
    · rename_i hstage
      exact ⟨e, by simp, fun h => hstage (by rw [h])⟩
  | transport cls message => exact .inl ⟨_, rfl, nofun⟩
  | undecodable e => exact .inl ⟨_, rfl, nofun⟩
  | _ => exact .inr ⟨rfl, rfl⟩

/-! ## The runner of phases -/

section Runner

variable {action : Phase → Op Unit}

/-- **One phase either returns or fails with a failure its status reports.** -/
theorem runPhase_reports (ph : Phase) (h : (action ph).Spec fun _ _ _ _ => True) :
    (runPhase Op.touch action ph).Spec fun _ r st' _ =>
      ∀ f, r = .error f → st'.progress.record.status.Reports f := by
  intro st
  unfold runPhase
  simp only [Op.runOn_bind, Op.runOn_tryCatch, Op.touch, Op.note, Op.runOn_modify]
  let st₀ : Station :=
    { st with progress := { st.progress with record := st.progress.record.stamp (ph.name ++ "_start") } }
  obtain ⟨evs, hs, -⟩ := h st₀
  rcases hrun : (action ph).runOn st₀ with ⟨r₀, st₁⟩
  rw [hrun] at hs
  cases r₀ with
  | ok u => exact ⟨evs, hs, fun _ h => by cases h⟩
  | error f =>
    dsimp only
    -- the handler records the reported error, stamps the end and fails with the report
    rcases phaseFailure_reported ph f with ⟨e, hpf, hstage⟩ | ⟨hpf, hf⟩
    · simp only [hpf, Op.runOn_bind, Op.runOn_modify, Op.runOn_throw]
      refine ⟨evs, hs, fun f' h => ?_⟩
      cases h
      exact .inl ⟨e, rfl, hstage, by simpa using PhaseRecord.fail_records _ ph e⟩
    · simp only [hpf, Op.runOn_bind, Op.runOn_modify, Op.runOn_throw]
      exact ⟨evs, hs, fun f' h => by cases h; exact .inr hf⟩

theorem forM_runPhase_reports (phs : List Phase) (h : ∀ ph, (action ph).Spec fun _ _ _ _ => True) :
    (phs.forM (runPhase Op.touch action)).Spec fun _ r st' _ =>
      ∀ f, r = .error f → st'.progress.record.status.Reports f := by
  induction phs with
  | nil => exact Op.spec_pure () fun _ => nofun
  | cons ph rest ih =>
    show (runPhase Op.touch action ph >>= fun _ => rest.forM (runPhase Op.touch action)).Spec _
    exact Op.Spec.bind (runPhase_reports ph (h ph)) (fun _ => ih)
      (fun _ _ _ _ _ _ _ _ hrest => hrest) fun _ _ _ _ hfail => hfail

/-- A touch that leaves the status alone. -/
theorem Op.touch_keeps_status {g : PhaseRecord → PhaseRecord} (hg : ∀ r, (g r).status = r.status) :
    (Op.touch g).Spec fun st r st' _ =>
      r = .ok () ∧ st'.progress.record.status = st.progress.record.status :=
  Op.spec_note _ fun st => ⟨rfl, hg st.progress.record⟩

/-- **The status after a run of phases says how the run ended**: the record starts afresh, a
run that gets through its phases is marked a success, and the failure of a phase stays as that
phase reported it. -/
theorem phases_status (phs : List Phase) (h : ∀ ph, (action ph).Spec fun _ _ _ _ => True) :
    (framedPhases action phs).Spec fun _ r st' _ => st'.progress.record.status.After r := by
  unfold framedPhases
  refine Op.Spec.note_bind_final (Op.Spec.note_bind_final ?_)
  refine Op.Spec.bind (Q := fun _ r st' _ => st'.progress.record.status.After r) ?_
    (fun _ => Op.touch_keeps_status (PhaseRecord.stamp_status · "end")) ?_ ?_
  · refine Op.Spec.tryCatch (Q := fun _ r st' _ => st'.progress.record.status.After r) ?_
      (fun f => Op.Spec.bind (Op.touch_keeps_status (PhaseRecord.stamp_status · "end"))
        (fun _ => Op.spec_throw f (Q := fun st r st' _ => r = .error f ∧ st' = st)
          fun _ => ⟨rfl, rfl⟩)
        (R := fun st r st' _ => r = .error f ∧
          st'.progress.record.status = st.progress.record.status)
        (fun _ _ _ _ _ _ _ ⟨_, hs⟩ ⟨hr, hst⟩ => ⟨hr, by rw [hst, hs]⟩) fun _ _ _ _ h => nomatch h.1)
      (fun _ _ _ _ h => h) ?_
    · -- the phases, then the mark of success
      refine Op.Spec.bind (forM_runPhase_reports phs h)
        (fun _ => Op.spec_note _ (Q := fun _ r st' _ => r = .ok () ∧
          st'.progress.record.status.success = true) fun _ => ⟨rfl, rfl⟩) ?_ ?_
      · intro _ _ _ r _ _ _ _ ⟨hr, hs⟩
        exact ⟨fun _ _ => hs, fun f h => by rw [hr] at h; cases h⟩
      · intro f _ _ _ hf
        exact ⟨nofun, fun f' h => by cases h; exact hf f rfl⟩
    · -- a failure of the phases: the handler stamps the end and fails again
      intro f _ st₁ r _ _ _ hrep ⟨hr, hs⟩
      subst hr
      exact ⟨nofun, fun f' h => by cases h; rw [hs]; exact hrep.2 f rfl⟩
  · intro _ _ _ r _ _ _ hafter ⟨hr, hs⟩
    subst hr
    exact ⟨fun _ _ => by rw [hs]; exact hafter.1 _ rfl, nofun⟩
  · intro f _ _ _ hafter
    exact hafter.of_outcome nofun fun _ h => by cases h; rfl

end Runner

/-! ## The verbs -/

/-- **A run of the component leaves a status that says how it ended**, when its phases leave
one: the lock and the defaults of the states fail only with faults, and the end of the run
changes nothing in the status. -/
theorem Component.run_status (c : Component) (operation : String) (desired prior selection : Value)
    (hexec : (execute Op.touch c.phase selection).Spec fun _ r st' _ =>
      st'.progress.record.status.After r) :
    (c.run operation desired prior selection).Spec fun _ r st' _ =>
      st'.progress.record.status.After r := by
  unfold Component.run
  refine (withLock_spec (R := fun _ r st' _ => st'.progress.record.status.After r) _ ?_).mono
    fun _ r st' _ h => ?_
  rotate_left
  · rcases h with ⟨-, f, rfl, hf⟩ | ⟨_, st₁, -, -, hafter, -, hp⟩
    · exact Status.after_fault _ hf
    · rw [hp]
      exact hafter
  refine Op.Spec.note_bind_final ?_
  refine Op.Spec.plain_bind (withDefaults_plain _) (fun D => ?_)
    fun st f hf => Status.after_fault _ hf
  refine Op.Spec.note_bind_final ?_
  refine Op.Spec.plain_bind (withDefaults_plain _) (fun P => ?_)
    fun st f hf => Status.after_fault _ hf
  refine Op.Spec.note_bind_final ?_
  -- the phases, then the result is read off the progress
  refine Op.Spec.bind hexec
    (S := fun _ st r st' _ => r = .ok (st.progress.result, st.progress.found) ∧ st' = st)
    (fun _ => Op.Spec.progress_bind fun p => Op.spec_pure _ fun _ hp => by rw [hp]; exact ⟨rfl, rfl⟩)
    ?_ ?_
  · intro _ _ _ r _ _ _ hafter ⟨hr, hst⟩
    subst hr hst
    exact ⟨fun _ _ => hafter.1 () rfl, nofun⟩
  · intro f _ _ _ hafter
    exact hafter.of_outcome nofun fun _ h => by cases h; rfl

/-- Dropping or projecting the result of an operation keeps what the status says. -/
theorem Op.Spec.status_map {α β : Type} {o : Op α} (g : α → β)
    (h : o.Spec fun st r st' _ => st'.progress.record.status.After r ∨
      (r = .error encryptionLocked ∧ st' = st)) :
    (g <$> o).Spec fun st r st' _ => st'.progress.record.status.After r ∨
      (r = .error encryptionLocked ∧ st' = st) :=
  Op.Spec.map h
    (fun x _ _ _ hx => by
      rcases hx with hafter | hlock
      · exact .inl (hafter.of_outcome (fun _ _ => ⟨x, rfl⟩) nofun)
      · exact nomatch hlock.1)
    fun _ _ _ _ hf => by
      rcases hf with hafter | hlock
      · exact .inl (hafter.of_outcome nofun fun _ h => by cases h; rfl)
      · obtain ⟨hr, hst⟩ := hlock
        cases hr
        exact .inr ⟨rfl, hst⟩

/-- **What the status says after a verb.** A verb that returns leaves a status that says
success. A verb that fails either leaves a status that reports its failure (`Status.Reports`:
the lifecycle error with its stage, recorded; or a fault that is no lifecycle error at all), or
is an update refused for turning encryption off, which leaves the component as it was. -/
theorem Component.verb_status (c : Component) (v : Verb) :
    (c.perform v).Spec fun st r st' _ =>
      (∀ x, r = .ok x → st'.progress.record.status.success = true) ∧
      ∀ f, r = .error f → st'.progress.record.status.Reports f ∨
        (f = encryptionLocked ∧ st' = st) := by
  have hphase : ∀ ph, (c.phase ph).Spec fun _ _ _ _ => True :=
    fun ph => (c.phase_spec ph).mono fun _ _ _ _ _ => trivial
  have hrun : ∀ (operation : String) desired prior,
      (c.run operation desired prior .null).Spec fun st r st' _ =>
        st'.progress.record.status.After r ∨ (r = .error encryptionLocked ∧ st' = st) :=
    fun operation desired prior => (c.run_status operation desired prior .null
      (by rw [execute_all]; exact phases_status Phase.all hphase)).mono fun _ _ _ _ h => .inl h
  suffices h : (c.perform v).Spec fun st r st' _ =>
      st'.progress.record.status.After r ∨ (r = .error encryptionLocked ∧ st' = st) by
    refine h.mono fun _ r _ _ h => ⟨fun x hx => ?_, fun f hf => ?_⟩
    · rcases h with hafter | ⟨hr, -⟩
      · exact hafter.1 x hx
      · rw [hr] at hx
        cases hx
    · rcases h with hafter | ⟨hr, hst⟩
      · exact .inl (hafter.2 f hf)
      · rw [hr] at hf
        cases hf
        exact .inr ⟨rfl, hst⟩
  cases v with
  | create desired =>
    refine Op.Spec.status_map _ ?_
    unfold Component.createVolume
    rw [← map_eq_pure_bind]
    exact Op.Spec.status_map _ (hrun "create" desired .null)
  | read state =>
    refine Op.Spec.status_map _ ?_
    exact (c.run_status "read" state .null _
      (by rw [execute_housekeep]; exact phases_status [.housekeep] hphase)).mono
      fun _ _ _ _ h => .inl h
  | update desired prior =>
    refine Op.Spec.status_map _ ?_
    unfold Component.updateVolume
    have hfault : ∀ (st : Station) (f : Failure), f.cls? = none →
        st.progress.record.status.After (.error f : Except Failure Value) ∨
          ((.error f : Except Failure Value) = .error encryptionLocked ∧ st = st) :=
      fun st f hf => .inl (Status.after_fault _ hf)
    refine Op.Spec.plain_bind (withDefaults_plain _) (fun d => ?_) hfault
    refine Op.Spec.plain_bind (withDefaults_plain _) (fun p => ?_) hfault
    refine Op.Spec.plain_bind (field_plain _ _) (fun de => ?_) hfault
    refine Op.Spec.plain_bind (field_plain _ _) (fun pe => ?_) hfault
    split
    · -- the encryption check refuses before anything runs
      simp only [Op.throw_bind]
      exact Op.spec_throw _ fun _ => .inr ⟨rfl, rfl⟩
    · rw [← map_eq_pure_bind]
      exact Op.Spec.status_map _ (hrun "update" desired prior)
  | delete state =>
    show (c.deleteVolume state).Spec _
    unfold Component.deleteVolume
    rw [← map_eq_pure_bind]
    exact Op.Spec.status_map _ (hrun "delete" state .null)

/-- The bench's create returns, and leaves a status that says success. -/
theorem Component.verb_status_bench_create : ∃ st',
    (Bench.component.perform (.create Bench.request)).runOn Bench.station = (.ok (), st') ∧
    st'.progress.record.status.success = true := by
  obtain ⟨st', hrun, -⟩ := Bench.perform_create_run
  exact ⟨st', hrun, ((Bench.component.verb_status (.create Bench.request)).at_run hrun).1 () rfl⟩

end VolumeLifecycle.Lifecycle
