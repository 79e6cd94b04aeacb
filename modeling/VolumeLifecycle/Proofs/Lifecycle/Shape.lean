import VolumeLifecycle.Proofs.Lifecycle.Verbs
/-!
# VolumeLifecycle.Proofs.Lifecycle.Shape

**The order of a change's calls and waits.** A create, update or delete talks to the
controller in one fixed order, whatever the controller answers:

1. discovery, which only reads; a run that ends before it submits has only read;
2. one submission (`Submits`), sent once and never again;
3. nothing more unless the controller accepted it (status 202 and a `Location`, `Accepts`);
4. for a change applied on reset, the grace (one sleep, for a delete) and the power cycle,
   which sends at most one reset (`ResetRun`); nothing follows a power cycle that failed;
5. housekeeping, which polls the job, each poll one sleep and then one read (`JobWaits`),
   and then only reads and waits.

`ChangeShape` says this of a list of events, read against the progress the run ends with: the
submission is the one that progress asks for, so a create POSTs to the storage URI and with the
drives that its discovery noted and that the component still shows after the run.
`Component.change_run_shape` proves it of every run of every verb. The proof reads each phase's
trace off its spec (`PhaseTrace`), with processing and housekeeping keeping what discovery noted
(`Component.phase_shape_spec`), and puts the phases in their order (`PhaseRun.change_shape`);
where a phase ends the run, the events after it are empty.
-/

namespace VolumeLifecycle.Lifecycle

open VolumeLifecycle.Redfish VolumeLifecycle.Value VolumeLifecycle.Volume

/-! ## The shape of a run -/

/-- What housekeeping after a change sends: the polls of the job at `target`, each one wait and
then one read of the job (`JobWaits`), then reads and waits that change nothing. -/
def AfterJob (target : Except Failure String) (evs : List Event) : Prop :=
  ∃ waits rest, evs = waits ++ rest ∧ JobWaits target waits ∧ ∀ e ∈ rest, ¬ e.IsChange

/-- What follows a change the controller accepted for the job `jobRef`, on the request of `w`.
A change applied on reset runs its grace and the power cycle (`ResetRun`), and only a power
cycle that returned is followed by housekeeping; any other change goes to housekeeping at
once, with no reset. -/
def AfterAccepted (c : Component) (w : Progress) (jobRef : Value) (evs : List Event) : Prop :=
  ∃ applyTime, w.desired.field "settings_apply_time" = .ok applyTime ∧
    if same applyTime (.str "OnReset") then
      ∃ rr : Except Failure Unit, ∃ reset after, evs = reset ++ after ∧ ResetRun c w rr reset ∧
        (rr = .ok () → AfterJob (c.poller.client.target jobRef) after) ∧
        (∀ f, rr = .error f → after = [])
    else AfterJob (c.poller.client.target jobRef) evs

/-- The shape of a run of a change, read against the progress `w` the run ends with, which holds
its request and what its discovery noted: it only read, or it read, sent the one submission that
`w` asks for (`Submits`: for a create, to the storage URI and with the drives noted in `w`), and
sent nothing more unless the controller accepted it, after which it went on as `AfterAccepted`
says. -/
def ChangeShape (c : Component) (w : Progress) (evs : List Event) : Prop :=
  (∀ e ∈ evs, e.IsRead) ∨
  ∃ reads call answer rest, evs = reads ++ .exchange call answer :: rest ∧
    (∀ e ∈ reads, e.IsRead) ∧ Submits c.client w call ∧
    ((∀ jobRef, ¬ Accepts answer jobRef) → rest = []) ∧
    ∀ jobRef, Accepts answer jobRef → AfterAccepted c w jobRef rest

/-! ## Each part in its place -/

/-- An accepting answer names one job. -/
theorem Accepts.unique {answer : Except Failure Response} {j j' : Value} (h : Accepts answer j)
    (h' : Accepts answer j') : j = j' := by
  obtain ⟨r, rfl, -, hj, -⟩ := h
  obtain ⟨r', hr', -, hj', -⟩ := h'
  cases hr'
  exact hj.symm.trans hj'

theorem Grace.of_request {c : Component} {p q : Progress} {evs : List Event} (h : Grace c p evs)
    (hreq : p.request = q.request) : Grace c q evs := by
  rw [Grace, ← Progress.operation_eq_of_request hreq]
  exact h

/-- The reset after a change reads only the request. -/
theorem ResetRun.of_request {c : Component} {p q : Progress} {r : Except Failure Unit}
    {evs : List Event} (h : ResetRun c p r evs) (hreq : p.request = q.request) :
    ResetRun c q r evs := by
  rcases h with hfault | ⟨grace, power, resetType, he, hgrace, ht, hpc⟩
  · exact .inl hfault
  · refine .inr ⟨grace, power, resetType, he, hgrace.of_request hreq, ?_, hpc⟩
    rw [← Progress.desired_eq_of_request hreq]
    exact ht

/-- Housekeeping after a change polls the job the process phase recorded. -/
theorem HousekeepTrace.afterJob {c : Component} {p p' : Progress} {r : Except Failure Unit}
    {evs : List Event} {jobRef : Value} (h : HousekeepTrace c p r p' evs)
    (hop : p.operation ≠ .str "read") (hjob : lookup p.processed "job_id" = some jobRef) :
    AfterJob (c.poller.client.target jobRef) evs := by
  obtain ⟨-, waits, rest, he, hwaits, hrest⟩ := h.2.2 hop
  rw [hjob, Option.getD_some] at hwaits
  exact ⟨waits, rest, he, hwaits, hrest⟩

/-- A submission reads the request and the discoveries of its progress, nothing else. -/
theorem Submits.of_request {client : Client} {p q : Progress} {call : Call}
    (h : Submits client p call) (hreq : q.request = p.request) (hdisc : q.discovered = p.discovered) :
    Submits client q call := by
  unfold Submits at h ⊢
  rw [Progress.operation_eq_of_request hreq, Progress.desired_eq_of_request hreq,
    Progress.prior_eq_of_request hreq, hdisc]
  exact h

/-- A run of one phase is that phase's trace, from the progress the run starts with to the one
it ends with. -/
theorem PhaseRun.single {Q : Phase → Progress → Except Failure Unit → Progress → List Event → Prop}
    {ph : Phase} {w w' : Progress} {r : Except Failure Unit} {evs : List Event}
    (h : PhaseRun Q [ph] w r w' evs) :
    ∃ p₀ r₀ p₁, p₀.work = w.work ∧ Q ph p₀ r₀ p₁ evs ∧ w'.work = p₁.work := by
  obtain ⟨p₀, r₀, p₁, e₀, hw, hq, ⟨_, _, _, rfl, hend⟩ | ⟨_, e₁, rfl, -, rfl, hend⟩⟩ := h
  · exact ⟨p₀, r₀, p₁, hw, hq, hend⟩
  · exact ⟨p₀, r₀, p₁, hw, by rw [List.append_nil]; exact hq, hend⟩

/-- What a phase of a change does, as the shape of its run reads it: its trace, and, after
discovery, the discoveries kept. -/
theorem Component.phase_shape_spec (c : Component) (ph : Phase) :
    (c.phase ph).Spec fun st r st' evs => PhaseTrace c ph st.progress r st'.progress evs ∧
      (ph ≠ .discover → st'.progress.discovered = st.progress.discovered) := by
  cases ph with
  | discover => exact (c.phase_spec .discover).mono fun _ _ _ _ h => ⟨h, fun hne => absurd rfl hne⟩
  | process =>
    exact ((c.phase_spec .process).and c.processPhase_keeps_discovered).mono
      fun _ _ _ _ ⟨h, hk⟩ => ⟨h, fun _ => hk⟩
  | housekeep =>
    exact ((c.phase_spec .housekeep).and c.housekeepPhase_keeps_discovered).mono
      fun _ _ _ _ ⟨h, hk⟩ => ⟨h, fun _ => hk⟩

/-- What follows an accepted submission, given how the process phase went on from it and
what housekeeping did after a process phase that succeeded. -/
theorem AfterAccepted.of_process {c : Component} {w p : Progress} {jobRef applyTime : Value}
    {r : Except Failure Unit} {rest tail : List Event} (hreq : p.request = w.request)
    (happly : p.desired.field "settings_apply_time" = .ok applyTime)
    (hproc : if same applyTime (.str "OnReset") then ResetRun c p r rest else rest = [] ∧ r = .ok ())
    (hok : r = .ok () → AfterJob (c.poller.client.target jobRef) tail)
    (hfail : ∀ f, r = .error f → tail = []) :
    AfterAccepted c w jobRef (rest ++ tail) := by
  refine ⟨applyTime, by rw [← Progress.desired_eq_of_request hreq]; exact happly, ?_⟩
  split
  · rename_i hreset
    rw [if_pos hreset] at hproc
    exact ⟨r, rest, tail, rfl, hproc.of_request hreq, hok, hfail⟩
  · rename_i hreset
    rw [if_neg hreset] at hproc
    obtain ⟨rfl, rfl⟩ := hproc
    exact hok rfl

/-- **Over the three phases of a change, the run has the shape `ChangeShape` says**, read against
the progress it ends with. Discovery only reads; the process phase submits once and, when the
change was accepted, power cycles for a change applied on reset; housekeeping follows only a
process phase that succeeded. Neither processing nor housekeeping touches what discovery noted,
so the progress the run ends with asks for the submission that was sent. -/
theorem PhaseRun.change_shape {c : Component} {w w' : Progress} {r : Except Failure Unit}
    {evs : List Event} (hop : w.operation ≠ .str "read")
    (h : PhaseRun (fun ph p₀ r₀ p₁ e₀ => (PhaseTrace c ph p₀ r₀ p₁ e₀ ∧
      (ph ≠ .discover → p₁.discovered = p₀.discovered)) ∧ p₀.request = w.request)
      Phase.all w r w' evs) : ChangeShape c w' evs := by
  have hend : w'.request = w.request := h.end_request fun _ _ _ _ _ hq => hq.1.1.request_eq
  obtain ⟨p₀, r₀, p₁, e₀, -, ⟨⟨hdisc, -⟩, -⟩, ⟨f₀, -, -, rfl, -⟩ | ⟨-, e₁, rfl, hrest⟩⟩ := h
  · -- discovery failed, having only read
    exact .inl hdisc.2
  obtain ⟨p₂, r₂, p₃, e₂, -, ⟨⟨hproc, hkeep₂⟩, hreq₂⟩, hlast⟩ := hrest
  -- the events after the process phase: none when it ended the run, housekeeping's otherwise;
  -- either way the run ends with the discoveries the process phase kept
  obtain ⟨tail, rfl, hok, hfail, hkept⟩ : ∃ tail, e₁ = e₂ ++ tail ∧
      (r₂ = .ok () → ∃ p₄ r₄ p₅, p₄.work = p₃.work ∧ HousekeepTrace c p₄ r₄ p₅ tail ∧
        p₄.request = w.request) ∧ (∀ f, r₂ = .error f → tail = []) ∧
      w'.discovered = p₃.discovered := by
    rcases hlast with ⟨f, rfl, -, rfl, hw'⟩ | ⟨rfl, e₃, rfl, hhouse⟩
    · exact ⟨[], (List.append_nil _).symm, nofun, fun _ _ => rfl, Progress.discovered_eq_of_work hw'⟩
    · obtain ⟨p₄, r₄, p₅, hw, ⟨⟨hq, hkeep₄⟩, hreq₄⟩, hw'⟩ := hhouse.single
      have hkept : w'.discovered = p₃.discovered := by
        rw [Progress.discovered_eq_of_work hw', hkeep₄ (by decide), Progress.discovered_eq_of_work hw]
      exact ⟨e₃, rfl, fun _ => ⟨p₄, r₄, p₅, hw, hq, hreq₄⟩, nofun, hkept⟩
  have hsame : w'.request = p₂.request ∧ w'.discovered = p₂.discovered :=
    ⟨hend.trans hreq₂.symm, hkept.trans (hkeep₂ (by decide))⟩
  rcases hproc.2 with ⟨rfl, f, rfl, -⟩ | ⟨call, answer, rest, rfl, hcall, hsent⟩
  · -- nothing was submitted: the process phase failed and ended the run
    rw [hfail f rfl]
    exact .inl (by simpa using hdisc.2)
  refine .inr ⟨e₀, call, answer, rest ++ tail, by simp, hdisc.2,
    hcall.of_request hsame.1 hsame.2, ?_, ?_⟩
  · -- a change that was not accepted fails the process phase, which ends the run
    intro hnone
    rcases hsent with ⟨-, rfl, f, rfl, -⟩ | ⟨jobRef, -, hacc, -⟩
    · exact hfail f rfl
    · exact absurd hacc (hnone jobRef)
  · intro jobRef hacc
    rcases hsent with ⟨hnone, -⟩ | ⟨jobRef', applyTime, hacc', hjob, happly, htail⟩
    · exact absurd hacc (hnone jobRef)
    rw [Accepts.unique hacc' hacc] at hjob
    refine AfterAccepted.of_process hsame.1.symm happly htail (fun hr => ?_) hfail
    obtain ⟨p₄, r₄, p₅, hw, hhouse, hreq₄⟩ := hok hr
    -- housekeeping starts from what the process phase left, up to the record
    have hjob₄ : lookup p₄.processed "job_id" = some jobRef := by
      have h' := congrArg Progress.processed hw
      exact h' ▸ hjob
    exact hhouse.afterJob (by rw [Progress.operation_eq_of_request hreq₄]; exact hop) hjob₄

/-! ## What a run of that shape changes -/

/-- Polling a job changes nothing. -/
theorem JobWaits.changes_nil {target : Except Failure String} {evs : List Event}
    (h : JobWaits target evs) : changes evs = [] := by
  induction h with
  | nil => rfl
  | wait seconds => rfl
  | poll _ _ ih => simpa [changes_cons_exchange] using ih

theorem AfterJob.changes_nil {target : Except Failure String} {evs : List Event}
    (h : AfterJob target evs) : changes evs = [] := by
  obtain ⟨waits, rest, rfl, hwaits, hrest⟩ := h
  rw [changes_append, hwaits.changes_nil, changes_eq_nil hrest, List.append_nil]

/-- The reset after a change changes at most one thing, a reset of the system. -/
theorem ResetRun.resetChanges {c : Component} {p : Progress} {r : Except Failure Unit}
    {evs : List Event} (h : ResetRun c p r evs) : ∃ t, ResetChanges t evs := by
  rcases h with ⟨-, -, -, rfl | ⟨s, rfl⟩⟩ | ⟨grace, power, resetType, rfl, hgrace, -, hpc⟩
  · exact ⟨.null, .of_changes_nil rfl⟩
  · exact ⟨.null, .of_changes_nil rfl⟩
  have hgrace : changes grace = [] := by
    rcases hgrace.eq_nil_or_sleep with rfl | ⟨s, rfl⟩ <;> rfl
  rcases hpc with ⟨-, -, rfl⟩ | ⟨-, ⟨issued, hreset⟩, -⟩
  · exact ⟨.null, .of_changes_nil (by rw [changes_append, hgrace]; rfl)⟩
  · exact ⟨issued, by simpa using ResetChanges.append hgrace hreset changes_nil⟩

/-- **A run of that shape sends one submission and at most a reset after it**: its changes are
none, or the submission alone, or the submission and then one reset of the system. -/
theorem ChangeShape.changes_eq {c : Component} {w : Progress} {evs : List Event}
    (h : ChangeShape c w evs) :
    changes evs = [] ∨ ∃ call, Submits c.client w call ∧
      (changes evs = [call] ∨ ∃ t reset, changes evs = [call, reset] ∧ reset.AsksReset t) := by
  rcases h with hreads | ⟨reads, call, answer, rest, rfl, hreads, hcall, hnone, hacc⟩
  · exact .inl (changes_eq_nil_of_isRead hreads)
  refine .inr ⟨call, hcall, ?_⟩
  -- the submission is the first change; what follows it changes at most the reset
  have hhead : changes (reads ++ .exchange call answer :: rest) = call :: changes rest := by
    simp [changes_eq_nil_of_isRead hreads, changes_cons_exchange, hcall.method_ne_get]
  have htail : ∃ t, ResetChanges t rest := by
    by_cases haccepted : ∃ jobRef, Accepts answer jobRef
    · obtain ⟨jobRef, hj⟩ := haccepted
      obtain ⟨applyTime, -, hafter⟩ := hacc jobRef hj
      split at hafter
      · obtain ⟨rr, reset, after, rfl, hreset, hok, hfail⟩ := hafter
        obtain ⟨t, ht⟩ := hreset.resetChanges
        -- after the reset only housekeeping, which changes nothing, or nothing at all
        have hafter : changes after = [] := by
          cases rr with
          | ok u => exact (hok rfl).changes_nil
          | error f => rw [hfail f rfl]; rfl
        exact ⟨t, by simpa using ResetChanges.append changes_nil ht hafter⟩
      · exact ⟨.null, .of_changes_nil hafter.changes_nil⟩
    · rw [hnone fun j hj => haccepted ⟨j, hj⟩]
      exact ⟨.null, .of_changes_nil rfl⟩
  obtain ⟨t, hle, hask⟩ := htail
  rw [hhead]
  match hrest : changes rest, hle with
  | [], _ => exact .inl rfl
  | [reset], _ => exact .inr ⟨t, reset, rfl, hask reset (by simp [hrest])⟩

/-- **Every verb talks to the controller in the order of `ChangeShape`**, read against the
progress the component is left with: a run that gets past the lock and the defaults of its
states ends on its request with the defaults filled in, and has the shape of the change that
progress asks for (a read, which only reads, has it trivially); one that does not has no
event. -/
theorem Component.change_run_shape (c : Component) (v : Verb) :
    (c.perform v).Spec fun _ _ st' evs => evs = [] ∨
      ∃ D P, withDefaults v.desired = .ok D ∧
        withDefaults (if v.prior.truthy then v.prior else .dict []) = .ok P ∧
        st'.progress.request = (.str v.operation, D, P) ∧ ChangeShape c st'.progress evs := by
  refine (c.perform_spec (Q := fun ph p₀ r₀ p₁ e₀ => PhaseTrace c ph p₀ r₀ p₁ e₀ ∧
    (ph ≠ .discover → p₁.discovered = p₀.discovered)) c.phase_shape_spec v).mono
    fun _ _ st' evs h => ?_
  rcases h with ⟨rfl, _⟩ | ⟨D, P, r', hD, hP, hrun, -⟩
  · exact .inl rfl
  have hend : st'.progress.request = (.str v.operation, D, P) :=
    hrun.end_request fun _ _ _ _ _ hq => hq.1.request_eq
  have hrun := hrun.with_request fun _ _ _ _ _ hq => hq.1.request_eq
  refine .inr ⟨D, P, hD, hP, hend, ?_⟩
  cases v with
  | read state =>
    -- a read only housekeeps, and housekeeping a read only reads
    obtain ⟨p₀, r₀, p₁, -, ⟨⟨htrace, -⟩, hreq⟩, -⟩ := hrun.single
    exact .inl (htrace.2.1 (Progress.operation_eq_of_request hreq))
  | create desired => exact hrun.change_shape (by simp [Verb.operation])
  | update desired prior => exact hrun.change_shape (by simp [Verb.operation])
  | delete state => exact hrun.change_shape (by simp [Verb.operation])

end VolumeLifecycle.Lifecycle
