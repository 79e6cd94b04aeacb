import VolumeLifecycle.Proofs.Lifecycle.Phases
/-!
# VolumeLifecycle.Proofs.Lifecycle.Verbs

**A verb of the component is a run of its phases.** Each of the four verbs fills in the
defaults of its states, takes the lock of its endpoint and runs its phases: all three for a
change, housekeeping alone for a read. `Component.perform_spec` says so for any description
`Q` of the phases, so what a verb sends follows from what its phases send (`PhaseTrace`).

The first use is the promise of a precondition error: that it is raised before the operation
had any effect. `Component.precondition_failure_trace` shows where that holds and where it does
not. Discovery only reads, and a failed submission or housekeeping is never a precondition
error; but the power cycle checks its reset type only once the change was accepted, so a
change applied on reset with a reset type the power cycle does not know is refused after the
controller took the change (`RefusedReset`).
-/

namespace VolumeLifecycle.Lifecycle

open VolumeLifecycle.Redfish VolumeLifecycle.Value VolumeLifecycle.Volume

/-- One call of a verb of the component, with its arguments. -/
inductive Verb where
  | create (desired : Value)
  | read (state : Value)
  | update (desired prior : Value)
  | delete (state : Value)

namespace Verb

/-- The operation a verb runs as. -/
def operation : Verb → String
  | .create _ => "create"
  | .read _ => "read"
  | .update _ _ => "update"
  | .delete _ => "delete"

/-- The state a verb asks for. -/
def desired : Verb → Value
  | .create d | .read d | .update d _ | .delete d => d

/-- The prior state a verb starts from; only an update has one. -/
def prior : Verb → Value
  | .update _ p => p
  | _ => .null

/-- The phases a verb runs: a read only housekeeps. -/
def phases : Verb → List Phase
  | .read _ => [.housekeep]
  | _ => Phase.all

end Verb

/-- Perform a verb, dropping its result. -/
def Component.perform (c : Component) : Verb → Op Unit
  | .create desired => (fun _ => ()) <$> c.createVolume desired
  | .read state => (fun _ => ()) <$> c.readVolume state
  | .update desired prior => (fun _ => ()) <$> c.updateVolume desired prior
  | .delete state => c.deleteVolume state

/-! ## A bench

A station like the one the lifecycle is tested against, small enough for the kernel to run a
whole verb on it: a manager of generation 14, and the system `S` with the storage controller
`C`, whose drives `D0` and `D1` bear their own names and whose empty volume collection takes
changes applied `Immediate`ly. A POST to the collection is accepted with the task `/J`, which
has completed, and creates the volume `/V` named `V` on both drives. The theorems about whole
verbs are conditioned on how a run ends; runs on the bench show that their conditions are met.
-/

namespace Bench

/-- A reference to a resource, as collections and links hold them. -/
def ref (uri : String) : Value := .dict [("@odata.id", .str uri)]

/-- The client of the bench's controller. -/
def client : Client :=
  { baseUrl := "https://192.168.2.230", auth := some (.str "root", .str "calvin"),
    verify := .bool false, timeout := .int 30,
    headers := [("content-type", .str "application/json")] }

/-- A component with the default configuration, reading back the default fields. -/
def component : Component :=
  { config := componentDefaults, componentId := .str "svc-test", endpoint := .str "192.168.2.230",
    client := client, poller := { client := client, interval := .int 10 },
    power := { client := client, interval := .int 10 },
    reconciler := { client := client, fields := ReadBack.defaults, preserved := [] } }

/-- The volume a create makes. -/
def volume : Value :=
  .dict [("@odata.id", .str "/V"), ("Name", .str "V"),
    ("Links", .dict [("Drives", .list [ref "/D0", ref "/D1"])])]

/-- The controller before any request. -/
def controller : Controller :=
  { resources := [
      ("/redfish/v1/Managers", .dict [("Members", .list [ref "/M"])]),
      ("/M", .dict [("Model", .str "14G")]),
      ("/redfish/v1/Systems/S", .dict [("@odata.id", .str "/S"), ("Id", .str "S"),
        ("Storage", ref "/St")]),
      ("/St", .dict [("Members", .list [ref "/C"])]),
      ("/C", .dict [("@odata.id", .str "/C"), ("Id", .str "C"),
        ("Drives", .list [ref "/D0", ref "/D1"])]),
      ("/C/Volumes", .dict [("Members", .list []), ("@Redfish.OperationApplyTimeSupport",
        .dict [("SupportedValues", .list [.str "Immediate"])])]),
      ("/D0", .dict [("@odata.id", .str "/D0"), ("Name", .str "D0")]),
      ("/D1", .dict [("@odata.id", .str "/D1"), ("Name", .str "D1")])],
    readScripts := [("/J", [{ body := .dict [("TaskState", .str "Completed")] }])],
    changeScripts := [("POST /C/Volumes",
      [{ status := 202, headers := [("Location", .str "/J")],
         effects := [.put "/V" volume, .addMember "/C/Volumes" (.str "/V")] }])],
    defaultChange := .accepted, resetReply := .noContent, power := none, failReads := none }

/-- The station: the controller at time zero, no lock taken, no operation run. -/
def station : Station :=
  { site := { controller, clock := { now := .int 0 } }, registry := {}, progress := {} }

/-- A create of the volume `V` of RAID level 1 on the drives `D0` and `D1`. -/
def request : Value :=
  .dict [("volume_name", .str "V"), ("raid_type", .str "RAID1"),
    ("drives", .list [.str "D0", .str "D1"]), ("storage_controller_id", .str "C"),
    ("system_id", .str "S")]

/-- The same create on the drives `D0` and `D2`; the controller has no drive `D2`. -/
def unknownDrive : Value :=
  .dict [("volume_name", .str "V"), ("raid_type", .str "RAID1"),
    ("drives", .list [.str "D0", .str "D2"]), ("storage_controller_id", .str "C"),
    ("system_id", .str "S")]

/-- **The bench creates its volume**: the create returns a state that names its system, and
it sent a change on the way. The kernel runs the whole create. -/
theorem create_run : ∃ R st', (component.createVolume request).runOn station = (.ok R, st') ∧
    R.field "system_id" ≠ .ok .null ∧ changes (station.site.since st'.site) ≠ [] := by
  -- one Bool about the run, so that the kernel runs the create once
  have hrun : (((component.createVolume request).runOn station).1.toOption.bind
        (fun R => (R.field "system_id").toOption.map truthy) == some true &&
      !(changes (station.site.since ((component.createVolume request).runOn station).2.site)).isEmpty)
      = true := by
    decide +kernel
  generalize (component.createVolume request).runOn station = run at hrun
  obtain ⟨_ | R, st'⟩ := run
  · simp [Except.toOption] at hrun
  · simp only [Except.toOption, Option.bind_some, Bool.and_eq_true, beq_iff_eq,
      Bool.not_eq_true', List.isEmpty_eq_false_iff] at hrun
    refine ⟨R, st', rfl, fun hnull => ?_, hrun.2⟩
    have hsys := hrun.1
    rw [hnull] at hsys
    exact absurd hsys (by decide)

/-- The create performed as a verb. -/
theorem perform_create_run : ∃ st',
    (component.perform (.create request)).runOn station = (.ok (), st') ∧
    changes (station.site.since st'.site) ≠ [] := by
  obtain ⟨R, st', hrun, -, hchanges⟩ := create_run
  refine ⟨st', ?_, hchanges⟩
  rw [Component.perform]
  exact Op.runOn_map_ok hrun _

end Bench

/-! ## A verb is a run of its phases -/

section Runs

variable {Q : Phase → Progress → Except Failure Unit → Progress → List Event → Prop}

/-- What a run of the verb `v` that ends with the progress `w'` shows, for phases described by
`Q`: it fails before its phases with no event, or it is a run of its phases on its request with
the defaults filled in, ending with `w'`, and fails exactly when they do. -/
def VerbRun (Q : Phase → Progress → Except Failure Unit → Progress → List Event → Prop)
    (v : Verb) {α : Type} (r : Except Failure α) (w' : Progress) (evs : List Event) : Prop :=
  (evs = [] ∧ ∃ f, r = .error f) ∨
  ∃ D P r', withDefaults v.desired = .ok D ∧
    withDefaults (if v.prior.truthy then v.prior else .dict []) = .ok P ∧
    PhaseRun Q v.phases { operation := .str v.operation, desired := D, prior := P } r' w' evs ∧
    ∀ f, r = .error f ↔ r' = .error f

/-- What a run shows is about its failures alone. -/
theorem VerbRun.of_failures {α β : Type} {v : Verb} {r : Except Failure α}
    {r' : Except Failure β} {w' : Progress} {evs : List Event} (h : VerbRun Q v r w' evs)
    (hr : ∀ f, r' = .error f ↔ r = .error f) : VerbRun Q v r' w' evs := by
  rcases h with ⟨he, f, hf⟩ | ⟨D, P, r₀, hD, hP, hrun, hiff⟩
  · exact .inl ⟨he, f, (hr f).2 hf⟩
  · exact .inr ⟨D, P, r₀, hD, hP, hrun, fun f => (hr f).trans (hiff f)⟩

theorem VerbRun.of_early {α : Type} {v : Verb} {w' : Progress} (f : Failure) :
    VerbRun Q v (.error f : Except Failure α) w' [] :=
  .inl ⟨rfl, f, rfl⟩

/-- Dropping or projecting the result of a run keeps what it shows. -/
theorem VerbRun.spec_map {α β : Type} {v : Verb} {o : Op α} (g : α → β)
    (h : o.Spec fun _ r st' evs => VerbRun Q v r st'.progress evs) :
    (g <$> o).Spec fun _ r st' evs => VerbRun Q v r st'.progress evs :=
  Op.Spec.map h (fun _ _ _ _ hr => hr.of_failures fun _ => ⟨nofun, nofun⟩)
    fun _ _ _ _ hr => hr.of_failures fun _ => by simp

variable (c : Component)
  (hQ : ∀ ph, (c.phase ph).Spec fun st r st' evs => Q ph st.progress r st'.progress evs)
include hQ

theorem Component.run_verb_spec (v : Verb) (selection : Value)
    (hsel : execute Op.touch c.phase selection = framedPhases c.phase v.phases) :
    (c.run v.operation v.desired v.prior selection).Spec fun _ r st' evs =>
      VerbRun Q v r st'.progress evs := by
  refine c.run_spec _ _ _ _ ?_
  rw [hsel]
  exact phases_spec v.phases hQ

/-- **A verb is a run of its phases**, ending with the progress the verb leaves, unless it fails
before them with no event. -/
theorem Component.perform_spec (v : Verb) :
    (c.perform v).Spec fun _ r st' evs => VerbRun Q v r st'.progress evs := by
  cases v with
  | create desired =>
    refine VerbRun.spec_map _ ?_
    unfold Component.createVolume
    rw [← map_eq_pure_bind]
    exact VerbRun.spec_map _ (c.run_verb_spec hQ (.create desired) .null (execute_all _))
  | read state =>
    exact VerbRun.spec_map _ (c.run_verb_spec hQ (.read state) _ (execute_housekeep _))
  | update desired prior =>
    refine VerbRun.spec_map _ ?_
    unfold Component.updateVolume
    refine Op.Spec.lift_bind (fun _ _ => ?_) fun _ f _ => .of_early f
    refine Op.Spec.lift_bind (fun _ _ => ?_) fun _ f _ => .of_early f
    refine Op.Spec.lift_bind (fun _ _ => ?_) fun _ f _ => .of_early f
    refine Op.Spec.lift_bind (fun _ _ => ?_) fun _ f _ => .of_early f
    split
    · -- the encryption check refuses before anything runs
      simp only [Op.throw_bind]
      exact Op.spec_throw _ fun _ => .of_early _
    · rw [← map_eq_pure_bind]
      exact VerbRun.spec_map _ (c.run_verb_spec hQ (.update desired prior) .null (execute_all _))
  | delete state =>
    show (c.deleteVolume state).Spec _
    unfold Component.deleteVolume
    rw [← map_eq_pure_bind]
    exact VerbRun.spec_map _ (c.run_verb_spec hQ (.delete state) .null (execute_all _))

end Runs

/-! ## Precondition errors -/

/-- A phase reports a failure with the class it has, except that a transport failure or an
answer that is not JSON takes the class of the phase. -/
theorem phaseFailure_cls (ph : Phase) (f : Failure) :
    (phaseFailure ph f).1.cls? = f.cls? ∨
      (f.cls? = none ∧ (phaseFailure ph f).1.cls? = some ph.failureClass) := by
  cases f with
  | lifecycle e =>
    left
    dsimp only [phaseFailure]
    split <;> rfl
  | transport cls message => exact .inr ⟨rfl, rfl⟩
  | undecodable e => exact .inr ⟨rfl, rfl⟩
  | _ => exact .inl rfl

/-- Only discovery reports a fault as a precondition error. -/
theorem phaseFailure_precondition {ph : Phase} {f : Failure}
    (h : (phaseFailure ph f).1.cls? = some .precondition) :
    f.cls? = some .precondition ∨ (ph = .discover ∧ f.cls? = none) := by
  rcases phaseFailure_cls ph f with hc | ⟨hf, hc⟩
  · exact .inl (hc ▸ h)
  · rw [hc] at h
    cases ph with
    | discover => exact .inr ⟨rfl, hf⟩
    | process => cases h
    | housekeep => cases h

/-- The refusal of a reset type names its own stage, which the phase keeps. -/
theorem phaseFailure_unsupportedReset (ph : Phase) (resetType : Value) :
    (phaseFailure ph (unsupportedReset resetType)).1 = unsupportedReset resetType := rfl

theorem Failure.OfSubmission.notPrecondition {f : Failure} (h : f.OfSubmission) :
    f.NotPrecondition := by
  rcases h with h | h <;> simp [Failure.NotPrecondition, h]

theorem Submits.method_ne_get {client : Client} {p : Progress} {call : Call}
    (h : Submits client p call) : call.method ≠ .get := by
  unfold Submits at h
  split at h
  · obtain ⟨_, _, _, _, _, _, _, _, _, _, rfl⟩ := h
    nofun
  · obtain ⟨_, _, _, _, _, _, rfl⟩ := h
    nofun
  · obtain ⟨_, _, _, _, rfl⟩ := h
    nofun

/-- **The process phase fails with a precondition error only when the power cycle refused the
reset type**, after the controller accepted the change with the apply time on reset: the
change and at most a delete's grace sleep came before. -/
theorem ProcessTrace.precondition {c : Component} {p p' : Progress} {f : Failure}
    {evs : List Event} (h : ProcessTrace c p (.error f) p' evs) (hf : f.cls? = some .precondition) :
    ∃ applyTime resetType call answer jobRef grace,
      p.desired.field "settings_apply_time" = .ok applyTime ∧
      same applyTime (.str "OnReset") = true ∧ p.desired.field "reset_type" = .ok resetType ∧
      (resetTypeNames.any fun t => same resetType (.str t)) = false ∧
      f = unsupportedReset resetType ∧ evs = .exchange call answer :: grace ∧
      Submits c.client p call ∧ Accepts answer jobRef ∧ (grace = [] ∨ ∃ s, grace = [.sleep s]) := by
  have hsub : ¬ f.OfSubmission := fun h' => Failure.OfSubmission.notPrecondition h' hf
  rcases h.2 with ⟨_, f', hr, hf'⟩ | ⟨call, answer, rest, rfl, hcall, hrest⟩
  · cases hr
    exact absurd hf' hsub
  rcases hrest with ⟨_, _, f', hr, hf'⟩ | ⟨jobRef, applyTime, hacc, _, happly, htail⟩
  · cases hr
    exact absurd hf' hsub
  by_cases hreset : same applyTime (.str "OnReset") = true
  · rw [if_pos hreset] at htail
    rcases htail with ⟨f', hr, hfault, _⟩ | ⟨grace, power, resetType, rfl, hgrace, ht, hpc⟩
    · cases hr
      rw [hfault] at hf
      cases hf
    rcases hpc with ⟨hno, hr, rfl⟩ | ⟨_, _, hnp⟩
    · cases hr
      exact ⟨applyTime, resetType, call, answer, jobRef, grace, happly, hreset, ht, hno, rfl,
        by rw [List.append_nil], hcall, hacc, hgrace.eq_nil_or_sleep⟩
    · exact absurd hf (hnp f rfl)
  · rw [if_neg hreset] at htail
    cases htail.2

/-- A precondition failure after a change: the controller accepted the change of the request,
whose apply time after defaults is on reset, and the power cycle then refused the desired reset
type. Only reads came before the change, and at most a delete's grace sleep after it. -/
def RefusedReset (desired : Value) (f : Failure) (evs : List Event) : Prop :=
  ∃ applyTime resetType reads call answer jobRef grace,
    desired.field "settings_apply_time" = .ok applyTime ∧ same applyTime (.str "OnReset") = true ∧
    desired.field "reset_type" = .ok resetType ∧
    (resetTypeNames.any fun t => same resetType (.str t)) = false ∧
    f = unsupportedReset resetType ∧ evs = reads ++ .exchange call answer :: grace ∧
    (∀ e ∈ reads, e.IsRead) ∧ call.method ≠ .get ∧ Accepts answer jobRef ∧
    (grace = [] ∨ ∃ s, grace = [.sleep s])

/-- Over the three phases of a change, a precondition failure comes after reads alone, or is the
refused reset. -/
theorem PhaseRun.change_precondition {c : Component} {w : Progress} {f : Failure}
    {evs : List Event} (hop : w.operation ≠ .str "read")
    {w' : Progress}
    (h : PhaseRun (fun ph p₀ r₀ p₁ e₀ => PhaseTrace c ph p₀ r₀ p₁ e₀ ∧ p₀.request = w.request)
      Phase.all w (.error f) w' evs)
    (hf : f.cls? = some .precondition) :
    (∀ e ∈ evs, e.IsRead) ∨ RefusedReset w.desired f evs := by
  obtain ⟨p₀, r₀, p₁, e₀, -, ⟨hdisc, -⟩, ⟨f₀, rfl, -, rfl, -⟩ | ⟨rfl, e₁, rfl, hrest⟩⟩ := h
  · exact .inl hdisc.2
  obtain ⟨p₂, r₂, p₃, e₂, -, ⟨hproc, hreq₂⟩, ⟨f₂, rfl, hf₂, rfl, -⟩ | ⟨rfl, e₃, rfl, hrest⟩⟩ :=
    hrest
  · -- processing failed: the refused reset, after discovery's reads
    cases hf₂
    rcases phaseFailure_precondition hf with hpre | ⟨hph, _⟩
    · obtain ⟨applyTime, resetType, call, answer, jobRef, grace, happly, hreset, ht, hno, rfl,
        rfl, hcall, hacc, hgrace⟩ := hproc.precondition hpre
      rw [Progress.desired_eq_of_request hreq₂] at happly ht
      exact .inr ⟨applyTime, resetType, e₀, call, answer, jobRef, grace, happly, hreset, ht, hno,
        phaseFailure_unsupportedReset _ _, rfl, hdisc.2, hcall.method_ne_get, hacc, hgrace⟩
    · cases hph
  obtain ⟨p₄, r₄, p₅, e₄, -, ⟨hhouse, hreq₄⟩, ⟨f₄, rfl, hf₄, rfl, -⟩ | ⟨rfl, e₅, rfl, hnil⟩⟩ :=
    hrest
  · -- housekeeping after a change fails with no precondition error
    cases hf₄
    have hop₄ : p₄.operation ≠ .str "read" := by
      rw [Progress.operation_eq_of_request hreq₄]
      exact hop
    rcases phaseFailure_precondition hf with hpre | ⟨hph, _⟩
    · exact absurd hpre ((hhouse.2.2 hop₄).1 f₄ rfl)
    · cases hph
  · cases hnil.1

/-- **A verb that fails with a precondition error has only read the controller**, with one
exception: a change applied on reset whose reset type the power cycle does not know is
refused with a precondition error after the controller accepted the change (`RefusedReset`). -/
theorem Component.precondition_failure_trace (c : Component) (v : Verb) :
    (c.perform v).Spec fun _ r _ evs => ∀ f, r = .error f → f.cls? = some .precondition →
      (∀ e ∈ evs, e.IsRead) ∨
      ∃ D, withDefaults v.desired = .ok D ∧ RefusedReset D f evs := by
  refine (c.perform_spec c.phase_spec v).mono fun _ r _ evs h f hr hf => ?_
  rcases h with ⟨rfl, _⟩ | ⟨D, P, r', hD, _, hrun, hiff⟩
  · exact .inl nofun
  have hrun := hrun.with_request fun _ _ _ _ _ h => h.request_eq
  rw [(hiff f).1 hr] at hrun
  cases v with
  | read state =>
    -- a read only housekeeps, and housekeeping a read only reads
    obtain ⟨p₀, r₀, p₁, e₀, -, ⟨htrace, hreq⟩, ⟨f₀, -, -, rfl, -⟩ | ⟨-, e₁, -, hnil⟩⟩ := hrun
    · exact .inl (htrace.2.1 (Progress.operation_eq_of_request hreq))
    · cases hnil.1
  | create desired =>
    exact (hrun.change_precondition (by simp [Verb.operation]) hf).imp_right fun h => ⟨D, hD, h⟩
  | update desired prior =>
    exact (hrun.change_precondition (by simp [Verb.operation]) hf).imp_right fun h => ⟨D, hD, h⟩
  | delete state =>
    exact (hrun.change_precondition (by simp [Verb.operation]) hf).imp_right fun h => ⟨D, hD, h⟩

/-- On the bench, a create on a drive the controller does not have fails with a precondition
error, after reading the controller and only reading it: the drives are matched in discovery,
and the bench's create applies `Immediate`ly, so it is no refused reset. -/
theorem Component.precondition_failure_trace_unknown_drive : ∃ f st',
    (Bench.component.perform (.create Bench.unknownDrive)).runOn Bench.station = (.error f, st') ∧
    f.cls? = some .precondition ∧ Bench.station.site.since st'.site ≠ [] ∧
    ∀ e ∈ Bench.station.site.since st'.site, e.IsRead := by
  have hrun : (((Bench.component.perform (.create Bench.unknownDrive)).runOn Bench.station).1.mapError
        Failure.cls? == .error (some .precondition) &&
      !(Bench.station.site.since
        ((Bench.component.perform (.create Bench.unknownDrive)).runOn Bench.station).2.site).isEmpty)
      = true := by
    decide +kernel
  have hnow : ((withDefaults Bench.unknownDrive).toOption.bind fun D =>
      (D.field "settings_apply_time").toOption.map (same · (.str "OnReset"))) = some false := by
    decide +kernel
  -- the run's outcome, read off the kernel's answer
  obtain ⟨f, st', hrun, hcls, hread⟩ : ∃ f st',
      (Bench.component.perform (.create Bench.unknownDrive)).runOn Bench.station = (.error f, st') ∧
      f.cls? = some .precondition ∧ Bench.station.site.since st'.site ≠ [] := by
    generalize (Bench.component.perform (.create Bench.unknownDrive)).runOn Bench.station = run
      at hrun
    obtain ⟨f | _, st'⟩ := run
    · simp only [Except.mapError, Bool.and_eq_true, beq_iff_eq, Except.error.injEq,
        Bool.not_eq_true', List.isEmpty_eq_false_iff] at hrun
      exact ⟨f, st', rfl, hrun⟩
    · simp [Except.mapError] at hrun
  refine ⟨f, st', hrun, hcls, hread, ?_⟩
  -- a refused reset needs a change applied on reset
  refine ((Bench.component.precondition_failure_trace _).at_run hrun f rfl hcls).resolve_right ?_
  rintro ⟨D, hD, applyTime, -, -, -, -, -, -, happly, hreset, -⟩
  have hD : withDefaults Bench.unknownDrive = .ok D := hD
  rw [hD] at hnow
  simp [Except.toOption, happly, hreset] at hnow

end VolumeLifecycle.Lifecycle
