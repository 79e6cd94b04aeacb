import VolumeLifecycle.Proofs.Lifecycle.Station
import VolumeLifecycle.Proofs.Volume.Defaults
import VolumeLifecycle.Proofs.Document.Entries
/-!
# VolumeLifecycle.Proofs.Lifecycle.Phases

**What each phase of the component sends.**

* `Component.discoverPhase_within` — discovery only reads.
* `Component.housekeepPhase_within` — housekeeping changes nothing; once a change was made
  (every operation but a read) it fails with no precondition error.
-/

namespace VolumeLifecycle.Lifecycle

open VolumeLifecycle.Redfish VolumeLifecycle.Value VolumeLifecycle.Volume

variable {p : Event → Prop} {q : Failure → Prop}

/-! ## Notes of the component -/

theorem Op.within_discover (key : String) (v : Value) : (Op.discover key v).Within p q :=
  Op.within_note fun _ => rfl

/-- A discovery that was not made is a missing key, a fault. -/
theorem Op.within_discovered (key : String) (hq : ∀ f, f.cls? = none → q f) :
    (Op.discovered key).Within p q := by
  unfold Op.discovered
  refine Op.within_progress.bind fun pr => ?_
  split
  · exact Op.within_pure _
  · exact Op.within_throw (hq _ rfl)

theorem Op.keeps_discovered {κ : Type} {k : Progress → κ} (key : String) :
    (Op.discovered key).Keeps k := by
  unfold Op.discovered
  refine Op.keeps_progress.bind fun pr => ?_
  split
  · exact Op.keeps_pure _
  · exact Op.keeps_throw _

/-- A discovery, then an operation that may assume what was discovered. -/
theorem Op.Spec.discovered_bind {β : Type} {key : String} {f : Value → Op β}
    {R : Station → Except Failure β → Station → List Event → Prop}
    (hf : ∀ v, (f v).Spec fun st r st' evs =>
      lookup st.progress.discovered key = some v → R st r st' evs)
    (herr : ∀ st f, f.cls? = none → R st (.error f) st []) : (Op.discovered key >>= f).Spec R := by
  intro st
  unfold Op.discovered
  simp only [Op.runOn_bind, Op.runOn_progress]
  cases h : lookup st.progress.discovered key with
  | none => exact ⟨[], Site.After.refl _, herr st _ rfl⟩
  | some v =>
    obtain ⟨evs, hs, hq⟩ := hf v st
    exact ⟨evs, hs, hq h⟩

/-! ## Discovery -/

section Discover

variable (c : Component)

theorem Component.system_within (systemId : Value) :
    (c.system systemId).Within Event.IsRead fun _ => True := by
  unfold Component.system
  refine (Op.within_act (c.client.system_within _)).tryCatch fun f _ => ?_
  split
  · split
    · exact Op.within_throw trivial
    · exact Op.within_throw trivial
  · exact Op.within_throw trivial

theorem Component.discoverController_within (systemId controllerId : Value) :
    (c.discoverController systemId controllerId).Within Event.IsRead fun _ => True := by
  have hread : ∀ {α : Type} {a : Act α}, a.Within Event.IsRead Failure.OfRead →
      (Op.act a).Within Event.IsRead fun _ => True :=
    fun h => Op.within_act (h.mono (fun _ h => h) fun _ _ => trivial)
  unfold Component.discoverController
  split
  · exact Op.within_throw trivial
  refine (c.system_within systemId).bind fun system => ?_
  refine (Op.within_liftFailure fun _ _ => trivial).bind fun id => ?_
  refine (Op.within_discover _ _).bind fun _ => ?_
  refine (Op.within_liftFailure fun _ _ => trivial).bind fun uri => ?_
  refine (Op.within_discover _ _).bind fun _ => ?_
  refine (hread (c.client.storageController_within _ _)).bind fun storage => ?_
  split
  · exact Op.within_throw trivial
  refine (Op.within_liftFailure fun _ _ => trivial).bind fun storageUri => ?_
  refine (Op.within_discover _ _).bind fun _ => ?_
  refine (hread (c.client.supportedApplyTimes_within _)).bind fun supported => ?_
  refine (Op.within_discover _ _).bind fun _ => ?_
  refine Op.within_progress.bind fun pr => ?_
  refine (Op.within_liftFailure fun _ _ => trivial).bind fun applyTime => ?_
  refine (Op.within_liftFailure fun _ _ => trivial).bind fun _ => ?_
  exact Op.within_pure _

theorem Component.discoverCreate_within :
    c.discoverCreate.Within Event.IsRead fun _ => True := by
  have hread : ∀ {α : Type} {a : Act α}, a.Within Event.IsRead Failure.OfRead →
      (Op.act a).Within Event.IsRead fun _ => True :=
    fun h => Op.within_act (h.mono (fun _ h => h) fun _ _ => trivial)
  unfold Component.discoverCreate
  refine Op.within_progress.bind fun pr => ?_
  refine (Op.within_liftFailure fun _ _ => trivial).bind fun drives => ?_
  refine (Op.within_liftFailure fun _ _ => trivial).bind fun names => ?_
  split
  · exact Op.within_throw trivial
  refine (Op.within_liftFailure fun _ _ => trivial).bind fun name => ?_
  split
  · exact Op.within_throw trivial
  refine (hread c.client.seventeenOrLater_within).bind fun inLinks => ?_
  refine (Op.within_discover _ _).bind fun _ => ?_
  refine (Op.within_liftFailure fun _ _ => trivial).bind fun systemId => ?_
  refine (Op.within_liftFailure fun _ _ => trivial).bind fun controllerId => ?_
  refine (c.discoverController_within _ _).bind fun storage => ?_
  refine (hread (c.client.drives_within _)).bind fun found => ?_
  refine (Op.within_liftFailure fun _ _ => trivial).bind fun matched => ?_
  refine (Op.within_liftFailure fun _ _ => trivial).bind fun uris => ?_
  exact Op.within_discover _ _

theorem Component.discoverDelete_within :
    c.discoverDelete.Within Event.IsRead fun _ => True := by
  unfold Component.discoverDelete
  refine Op.within_progress.bind fun pr => ?_
  refine (Op.within_liftFailure fun _ _ => trivial).bind fun volumeUri => ?_
  split
  · exact Op.within_throw trivial
  refine (Op.within_liftFailure fun _ _ => trivial).bind fun storageUri => ?_
  refine (Op.within_liftFailure fun _ _ => trivial).bind fun systemUri => ?_
  refine (Op.within_liftFailure fun _ _ => trivial).bind fun systemId => ?_
  dsimp only
  -- the system comes from the volume's URI, or from the state's system id when it has one
  split
  case' isTrue =>
    refine (Op.within_liftFailure fun _ _ => trivial).bind fun systemId => ?_
    refine (c.system_within _).bind fun system => ?_
    refine (Op.within_liftFailure fun _ _ => trivial).bind fun systemUri => ?_
  case' isFalse => refine (Op.within_pure _).bind fun systemUri => ?_
  all_goals
  refine (Op.within_discover _ _).bind fun _ => ?_
  refine (Op.within_discover _ _).bind fun _ => ?_
  refine (Op.within_act ((c.client.supportedApplyTimes_within _).mono (fun _ h => h)
    fun _ _ => trivial)).bind fun supported => ?_
  refine (Op.within_liftFailure fun _ _ => trivial).bind fun applyTime => ?_
  exact Op.within_liftFailure fun _ _ => trivial

/-- **Discovery only reads.** -/
theorem Component.discoverPhase_within :
    c.discoverPhase.Within Event.IsRead fun _ => True := by
  unfold Component.discoverPhase
  refine Op.within_progress.bind fun pr => ?_
  split
  · exact c.discoverCreate_within
  · refine (Op.within_liftFailure fun _ _ => trivial).bind fun id => ?_
    dsimp only
    split
    -- a refusal or nothing, then the controller
    case' isTrue => refine (Op.within_throw trivial).bind fun _ => ?_
    all_goals
    refine (Op.within_liftFailure fun _ _ => trivial).bind fun systemId => ?_
    refine (Op.within_liftFailure fun _ _ => trivial).bind fun controllerId => ?_
    exact (c.discoverController_within _ _).bind fun _ => Op.within_pure _
  · exact c.discoverDelete_within
  · exact Op.within_pure _

end Discover

/-! ## Processing -/

/-- The change the process phase submits for the request of `p`, as the client addresses it:
a create POSTs the create request to the volume collection of the discovered controller, an
update PATCHes the update request to the settings of the prior volume, and any other
operation DELETEs the volume of the delete request. -/
def Submits (client : Client) (p : Progress) (call : Call) : Prop :=
  match p.operation with
  | .str "create" => ∃ drives r storageUri inLinks path,
      lookup p.discovered "drive_uris" = some drives ∧
      CreateRequest.ofState p.desired drives = .ok r ∧
      lookup p.discovered "storage_uri" = some storageUri ∧
      lookup p.discovered "drives_in_links" = some inLinks ∧
      client.target (.str s!"{storageUri.display}/Volumes") = .ok path ∧
      call = { method := .post, path, payload := r.payload inLinks.truthy }
  | .str "update" => ∃ volumeUri r path, p.prior.field "id" = .ok volumeUri ∧
      UpdateRequest.ofState p.desired volumeUri = .ok r ∧
      client.target (.str s!"{r.volumeUri.display}/Settings") = .ok path ∧
      call = { method := .patch, path, payload := r.payload }
  | _ => ∃ r path, DeleteRequest.ofState p.desired = .ok r ∧ client.target r.volumeUri = .ok path ∧
      call = { method := .delete, path, payload := .null }

/-- What submitting the change of `p` from the station `st` gives: the progress is kept, the
failures are the submission's, and either nothing was sent and no job reference came back, or
the one change of `Submits` was sent and its answer gives the job reference exactly when it
accepts the change. -/
def Submitted (client : Client) (p : Progress) (st : Station) (r : Except Failure Value)
    (st' : Station) (evs : List Event) : Prop :=
  st'.progress = st.progress ∧ (∀ f, r = .error f → f.OfSubmission) ∧
  ((evs = [] ∧ ∀ x, r ≠ .ok x) ∨
   ∃ call answer, evs = [.exchange call answer] ∧ Submits client p call ∧
     ∀ jobRef, r = .ok jobRef ↔ Accepts answer jobRef)

theorem Submitted.of_fault {client : Client} {p : Progress} {st : Station} {f : Failure}
    (hf : f.cls? = none) : Submitted client p st (.error f) st [] :=
  ⟨rfl, fun f' h => by cases h; exact .inl hf, .inl ⟨rfl, nofun⟩⟩

/-- A submission as an operation: the progress is kept and the one call goes to the target of
`uri`. -/
theorem Op.submission_spec (client : Client) (kind : ChangeKind) (m : Method) (uri payload : Value) :
    (Op.act (submit client kind m uri payload)).Spec fun st r st' evs =>
      st'.progress = st.progress ∧ (∀ f, r = .error f → f.OfSubmission) ∧
      ((evs = [] ∧ ∀ x, r ≠ .ok x) ∨
       ∃ path answer, client.target uri = .ok path ∧
         evs = [.exchange { method := m, path, payload } answer] ∧
         ∀ jobRef, r = .ok jobRef ↔ Accepts answer jobRef) :=
  (Op.act_spec (submit_spec client kind m uri payload)).mono
    fun _ _ _ _ ⟨⟨hf, hsent⟩, _, hp⟩ => ⟨hp, hf, hsent⟩

theorem configValue_plain (config : List (String × Value)) (key : String) :
    Plain (configValue config key) := by
  unfold configValue
  split
  · exact plain_ok _
  · exact plain_error.2 rfl

/-- The grace before a reset: a delete sleeps the configured grace period once; any other
operation does not wait. -/
def Grace (c : Component) (p : Progress) (evs : List Event) : Prop :=
  (p.operation = .str "delete" →
    ∃ s, configValue c.config "delete_reset_grace_period" = .ok s ∧ evs = [.sleep s]) ∧
  (p.operation ≠ .str "delete" → evs = [])

theorem Grace.eq_nil_or_sleep {c : Component} {p : Progress} {evs : List Event}
    (h : Grace c p evs) : evs = [] ∨ ∃ s, evs = [.sleep s] := by
  by_cases hop : p.operation = .str "delete"
  · obtain ⟨s, _, he⟩ := h.1 hop
    exact .inr ⟨s, he⟩
  · exact .inl (h.2 hop)

/-- The reset after a change: the grace, then the power cycle with the desired reset type. A
fault may cut it short before the power cycle, after the grace at most. -/
def ResetRun (c : Component) (p : Progress) (r : Except Failure Unit) (evs : List Event) : Prop :=
  (∃ f, r = .error f ∧ f.cls? = none ∧ (evs = [] ∨ ∃ s, evs = [.sleep s])) ∨
  ∃ grace power resetType, evs = grace ++ power ∧ Grace c p grace ∧
    p.desired.field "reset_type" = .ok resetType ∧ PowerCycled resetType r power

section Process

variable (c : Component)

/-- **The process phase sends one change, the one its request asks for**, and nothing when a
discovery or a field of the request is missing. -/
theorem Component.submitChange_spec (p : Progress) :
    (c.submitChange p).Spec fun st r st' evs =>
      st.progress.discovered = p.discovered → Submitted c.client p st r st' evs := by
  unfold Component.submitChange
  split
  · rename_i hop
    refine Op.Spec.discovered_bind (fun drives => ?_) fun _ _ hf _ => .of_fault hf
    refine Op.Spec.lift_bind (fun r hr => ?_)
      fun _ f hf => by intros; exact .of_fault (CreateRequest.ofState_plain _ _ f hf)
    refine Op.Spec.discovered_bind (fun storageUri => ?_)
      fun _ _ hf => by intros; exact .of_fault hf
    refine Op.Spec.discovered_bind (fun inLinks => ?_)
      fun _ _ hf => by intros; exact .of_fault hf
    refine (Op.submission_spec _ _ _ _ _).mono ?_
    rintro st _ _ _ ⟨hp, hf, hsent⟩ hl hs hd hdisc
    refine ⟨hp, hf, hsent.imp_right ?_⟩
    rintro ⟨path, answer, htarget, hevs, hacc⟩
    refine ⟨_, answer, hevs, ?_, hacc⟩
    rw [hdisc] at hl hs hd
    simp only [Submits, hop]
    exact ⟨drives, r, storageUri, inLinks, path, hd, hr, hs, hl, htarget, rfl⟩
  · rename_i hop
    refine Op.Spec.lift_bind (fun volumeUri hid => ?_)
      fun _ f hf _ => .of_fault (field_plain _ _ f hf)
    refine Op.Spec.lift_bind (fun r hr => ?_)
      fun _ f hf => by intros; exact .of_fault (UpdateRequest.ofState_plain _ _ f hf)
    refine (Op.submission_spec _ _ _ _ _).mono ?_
    rintro st _ _ _ ⟨hp, hf, hsent⟩ -
    refine ⟨hp, hf, hsent.imp_right ?_⟩
    rintro ⟨path, answer, htarget, hevs, hacc⟩
    refine ⟨_, answer, hevs, ?_, hacc⟩
    simp only [Submits, hop]
    exact ⟨volumeUri, r, path, hid, hr, htarget, rfl⟩
  · rename_i hcreate hupdate
    refine Op.Spec.lift_bind (fun r hr => ?_)
      fun _ f hf _ => .of_fault (DeleteRequest.ofState_plain _ f hf)
    refine (Op.submission_spec _ _ _ _ _).mono ?_
    rintro st _ _ _ ⟨hp, hf, hsent⟩ -
    refine ⟨hp, hf, hsent.imp_right ?_⟩
    rintro ⟨path, answer, htarget, hevs, hacc⟩
    refine ⟨_, answer, hevs, ?_, hacc⟩
    unfold Submits
    split
    · exact absurd ‹_› hcreate
    · exact absurd ‹_› hupdate
    · exact ⟨r, path, hr, htarget, rfl⟩

theorem Component.resetGrace_spec (p : Progress) :
    (c.resetGrace p).Spec fun st r st' evs => st'.progress = st.progress ∧
      ((∃ f, r = .error f ∧ f.cls? = none ∧ (evs = [] ∨ ∃ s, evs = [.sleep s])) ∨
       (r = .ok () ∧ Grace c p evs)) := by
  unfold Component.resetGrace
  split
  · rename_i hop
    refine Op.Spec.lift_bind (fun s hs => ?_)
      fun st f hf => ⟨rfl, .inl ⟨f, rfl, configValue_plain _ _ f hf, .inl rfl⟩⟩
    refine (Op.act_spec (Act.spec_sleep s)).mono fun st r st' evs ⟨⟨he, hf⟩, _, hp⟩ => ⟨hp, ?_⟩
    cases r with
    | ok u => exact .inr ⟨rfl, fun _ => ⟨s, hs, he⟩, fun h => absurd hop h⟩
    | error f =>
      obtain ⟨now, hplus⟩ := hf f rfl
      exact .inl ⟨f, rfl, Value.plus_plain now s f hplus, .inr ⟨s, he⟩⟩
  · rename_i hop
    exact Op.spec_pure () fun st => ⟨rfl, .inr ⟨rfl, fun h => absurd h hop, fun _ => rfl⟩⟩

/-- **After a change applied on reset, the system is power cycled**: the grace, then the power
cycle with the desired reset type. -/
theorem Component.resetForChange_spec (p : Progress) :
    (c.resetForChange p).Spec fun _ r _ evs => ResetRun c p r evs := by
  unfold Component.resetForChange
  refine Op.Spec.bind (c.resetGrace_spec p) (fun _ => ?_) ?_ ?_
    (S := fun _ _ r _ evs => (∃ f, r = .error f ∧ f.cls? = none ∧ evs = []) ∨
      ∃ resetType, p.desired.field "reset_type" = .ok resetType ∧ PowerCycled resetType r evs)
  · -- the power cycle, once its arguments are found
    refine Op.Spec.discovered_bind (fun systemUri => ?_) fun st f hf => .inl ⟨f, rfl, hf, rfl⟩
    refine Op.Spec.lift_bind (fun resetType ht => ?_)
      fun st f hf _ => .inl ⟨f, rfl, field_plain _ _ f hf, rfl⟩
    refine Op.Spec.plain_bind (field_plain _ _) (fun timeout => ?_)
      fun st f hf _ => .inl ⟨f, rfl, hf, rfl⟩
    refine Op.Spec.bind (Op.act_spec (c.power.powerCycle_spec systemUri resetType timeout))
      (fun result => Op.Spec.bind (Op.note_spec _) (fun _ => Op.note_spec _)
        (R := fun _ r _ evs => r = .ok () ∧ evs = [])
        (fun _ _ _ _ _ _ _ ⟨_, _, he₁⟩ ⟨hr, _, he₂⟩ => ⟨hr, by rw [he₁, he₂]; rfl⟩)
        fun _ _ _ _ ⟨h, _⟩ => nomatch h) ?_ ?_
    · intro _ _ _ r _ e₁ e₂ ⟨hpc, _⟩ ⟨hr, he₂⟩ _
      subst hr he₂
      rw [List.append_nil]
      exact .inr ⟨resetType, ht, hpc.of_failures fun _ => ⟨nofun, nofun⟩⟩
    · intro f _ _ _ ⟨hpc, _⟩ _
      exact .inr ⟨resetType, ht, hpc.of_failures fun _ => by simp⟩
  · intro _ _ _ r _ e₁ e₂ ⟨_, hgrace⟩ hpower
    rcases hgrace with ⟨f, hr, _⟩ | ⟨_, hgrace⟩
    · cases hr
    rcases hpower with ⟨f, hr, hf, rfl⟩ | ⟨resetType, ht, hpc⟩
    · rw [List.append_nil]
      exact .inl ⟨f, hr, hf, hgrace.eq_nil_or_sleep⟩
    · exact .inr ⟨e₁, e₂, resetType, rfl, hgrace, ht, hpc⟩
  · intro f _ _ _ ⟨_, hgrace⟩
    rcases hgrace with ⟨f', hr, hf, he⟩ | ⟨hr, _⟩
    · cases hr
      exact .inl ⟨_, rfl, hf, he⟩
    · cases hr

/-- The reset notes its outcome under keys of its own, so it keeps what those notes keep. -/
theorem Component.resetForChange_keeps (p : Progress) {κ : Type} {k : Progress → κ}
    (hk : ∀ pr key v, key = "reboot_triggered" ∨ key = "power" →
      k { pr with processed := insert pr.processed key v } = k pr) :
    (c.resetForChange p).Keeps k := by
  unfold Component.resetForChange
  refine Op.Keeps.bind ((c.resetGrace_spec p).mono fun _ _ _ _ ⟨hp, _⟩ => by rw [hp]) fun _ => ?_
  refine (Op.keeps_discovered _).bind fun _ => (Op.keeps_liftFailure _).bind fun _ => ?_
  refine (Op.keeps_liftFailure _).bind fun _ => ?_
  refine (Op.keeps_act (c.power.powerCycle_spec _ _ _)).bind fun _ => ?_
  exact (Op.keeps_note fun pr => hk pr _ _ (.inl rfl)).bind
    fun _ => Op.keeps_note fun pr => hk pr _ _ (.inr rfl)

/-- After the change was submitted its job is recorded, and a change applied on reset is
followed by the power cycle. -/
theorem Component.afterSubmit_spec (p : Progress) (applyTime jobRef : Value) :
    (do
      Op.process "job_id" jobRef
      Op.process "reboot_triggered" (.bool false)
      if same applyTime (.str "OnReset") then c.resetForChange p : Op Unit).Spec
      fun st r st' evs => st'.progress.request = st.progress.request ∧
        lookup st'.progress.processed "job_id" = some jobRef ∧
        if same applyTime (.str "OnReset") then ResetRun c p r evs else evs = [] ∧ r = .ok () := by
  refine Op.Spec.note_bind (Op.Spec.note_bind ?_)
  split
  · rename_i hreset
    -- the power cycle keeps the request and the job it follows
    have hjob : ∀ (pr : Progress) (key : String) (v : Value),
        key = "reboot_triggered" ∨ key = "power" →
        lookup (insert pr.processed key v) "job_id" = lookup pr.processed "job_id" := by
      rintro pr key v (rfl | rfl) <;> simp
    refine (((c.resetForChange_spec p).and (c.resetForChange_keeps p (k := Progress.request)
      fun _ _ _ _ => rfl)).and (c.resetForChange_keeps p (k := fun pr => lookup pr.processed "job_id")
      fun pr key v h => hjob pr key v h)).mono ?_
    rintro st r st' evs ⟨⟨hrun, hreq⟩, hkept⟩ st₁ rfl st₀ rfl
    refine ⟨hreq, ?_, ?_⟩
    · simp [hkept]
    · exact hrun
  · rename_i hreset
    refine Op.spec_pure () fun st st₁ h₁ st₀ h₀ => ?_
    subst h₁ h₀
    exact ⟨rfl, by simp, rfl, rfl⟩

end Process

/-- What the process phase does from the progress `p` to `p'`: it keeps the request and
submits the change (`Submits`); a change the controller does not accept ends the phase, and an
accepted one is recorded with its job and, when its apply time is on reset, followed by the
power cycle (`ResetRun`). -/
def ProcessTrace (c : Component) (p : Progress) (r : Except Failure Unit) (p' : Progress)
    (evs : List Event) : Prop :=
  p'.request = p.request ∧
  ((evs = [] ∧ ∃ f, r = .error f ∧ f.OfSubmission) ∨
   ∃ call answer rest, evs = .exchange call answer :: rest ∧ Submits c.client p call ∧
     (((∀ jobRef, ¬ Accepts answer jobRef) ∧ rest = [] ∧ ∃ f, r = .error f ∧ f.OfSubmission) ∨
      ∃ jobRef applyTime, Accepts answer jobRef ∧ lookup p'.processed "job_id" = some jobRef ∧
        p.desired.field "settings_apply_time" = .ok applyTime ∧
        if same applyTime (.str "OnReset") then ResetRun c p r rest else rest = [] ∧ r = .ok ()))

/-- **The process phase submits one change and power cycles after it only when the change was
accepted and applies on reset.** -/
theorem Component.processPhase_spec (c : Component) :
    c.processPhase.Spec fun st r st' evs => ProcessTrace c st.progress r st'.progress evs := by
  unfold Component.processPhase
  refine Op.Spec.progress_bind fun p => ?_
  refine Op.Spec.lift_bind (fun applyTime happly => ?_)
    fun st f hf _ => ⟨rfl, .inl ⟨rfl, f, rfl, .inl (field_plain _ _ f hf)⟩⟩
  refine Op.Spec.bind (c.submitChange_spec p) (fun jobRef => c.afterSubmit_spec p applyTime jobRef)
    ?_ ?_
  · intro jobRef st st₁ r st₂ e₁ e₂ hsub ⟨hreq, hjob, htail⟩ hp
    subst hp
    obtain ⟨hp₁, _, hsent⟩ := hsub rfl
    rcases hsent with ⟨_, hnone⟩ | ⟨call, answer, rfl, hcall, hacc⟩
    · exact absurd rfl (hnone jobRef)
    · refine ⟨by rw [hreq, hp₁], .inr ⟨call, answer, e₂, rfl, hcall, .inr ?_⟩⟩
      exact ⟨jobRef, applyTime, (hacc jobRef).1 rfl, hjob, happly, htail⟩
  · intro f st st₁ e hsub hp
    subst hp
    obtain ⟨hp₁, hf, hsent⟩ := hsub rfl
    rcases hsent with ⟨rfl, _⟩ | ⟨call, answer, rfl, hcall, hacc⟩
    · exact ⟨by rw [hp₁], .inl ⟨rfl, f, rfl, hf f rfl⟩⟩
    · refine ⟨by rw [hp₁], .inr ⟨call, answer, [], rfl, hcall, .inl ?_⟩⟩
      exact ⟨fun j hj => (nomatch (hacc j).2 hj), rfl, f, rfl, hf f rfl⟩

/-! ## What processing keeps -/

section ProcessKeeps

variable (c : Component)

/-- A submission notes nothing. -/
theorem Component.submitChange_keeps (p : Progress) {κ : Type} {k : Progress → κ} :
    (c.submitChange p).Keeps k := by
  unfold Component.submitChange
  split
  · refine (Op.keeps_discovered _).bind fun _ => (Op.keeps_liftFailure _).bind fun r => ?_
    refine (Op.keeps_discovered _).bind fun _ => (Op.keeps_discovered _).bind fun _ => ?_
    exact Op.keeps_act (submit_spec _ _ _ _ _)
  · refine (Op.keeps_liftFailure _).bind fun _ => (Op.keeps_liftFailure _).bind fun r => ?_
    exact Op.keeps_act (submit_spec _ _ _ _ _)
  · refine (Op.keeps_liftFailure _).bind fun r => ?_
    exact Op.keeps_act (submit_spec _ _ _ _ _)

/-- **Processing keeps what discovery noted**: it notes only what it processed. -/
theorem Component.processPhase_keeps_discovered : c.processPhase.Keeps Progress.discovered := by
  unfold Component.processPhase
  refine Op.keeps_progress.bind fun p => (Op.keeps_liftFailure _).bind fun applyTime => ?_
  refine (c.submitChange_keeps p).bind fun jobRef => Op.Keeps.bind ?_ fun _ => Op.Keeps.bind ?_ fun _ => ?_
  · exact Op.keeps_note fun _ => rfl
  · exact Op.keeps_note fun _ => rfl
  split
  · exact c.resetForChange_keeps p fun _ _ _ _ => rfl
  · exact Op.keeps_pure _

end ProcessKeeps

/-! ## Housekeeping -/

/-- A job that did not succeed fails as a job, never as a precondition. -/
theorem JobResult.check_notPrecondition (r : JobResult) :
    ∀ f, r.check = .error f → f.NotPrecondition := by
  intro f h
  unfold JobResult.check at h
  split at h <;> cases h <;> simp [Failure.NotPrecondition, Failure.cls?]

/-- What housekeeping does from the progress `p` to `p'`: it keeps the request; a read only
reads; any other operation waits for the job it recorded (`JobWaits`), then changes nothing
and fails with no precondition error. -/
def HousekeepTrace (c : Component) (p : Progress) (r : Except Failure Unit) (p' : Progress)
    (evs : List Event) : Prop :=
  p'.request = p.request ∧
  (p.operation = .str "read" → ∀ e ∈ evs, e.IsRead) ∧
  (p.operation ≠ .str "read" →
    (∀ f, r = .error f → f.NotPrecondition) ∧
    ∃ waits rest, evs = waits ++ rest ∧
      JobWaits (c.poller.client.target ((lookup p.processed "job_id").getD .null)) waits ∧
      ∀ e ∈ rest, ¬ e.IsChange)

section Housekeep

variable (c : Component)

/-- Refreshing a state reads the volume back. -/
theorem Component.refresh_within : c.refresh.Within Event.IsRead fun _ => True := by
  unfold Component.refresh
  refine Op.within_progress.bind fun pr => ?_
  refine (Op.within_liftFailure fun _ _ => trivial).bind fun volumeUri => ?_
  split
  · exact Op.within_throw trivial
  refine Op.Within.bind (q := fun _ => True) ?_ fun volume? => ?_
  · refine ((Op.within_act ((c.reconciler.readVolume_within _).mono (fun _ h => h)
      fun _ _ => trivial)).map some).tryCatch fun f _ => ?_
    split
    · split
      · exact Op.within_pure _
      · exact Op.within_throw trivial
    · exact Op.within_throw trivial
  split
  · exact Op.within_note fun _ => rfl
  · refine (Op.within_act ((c.reconciler.reconcile_within _ _).mono (fun _ h => h)
      fun _ _ => trivial)).bind fun result => ?_
    exact Op.within_note fun _ => rfl

/-- **Housekeeping changes nothing.** A read reads the volume back; every other operation first
waits for its job (`JobWaits`), then reads, and fails with no precondition error. -/
theorem Component.housekeepPhase_spec :
    c.housekeepPhase.Spec fun st r st' evs => HousekeepTrace c st.progress r st'.progress evs := by
  unfold Component.housekeepPhase
  refine Op.Spec.progress_bind fun pr => ?_
  split
  · rename_i hread
    simp only [if_true]
    exact Op.Spec.mono c.refresh_within fun st r st' evs ⟨hk, he, _⟩ hpr =>
      ⟨hk, fun _ => he, fun h => absurd (hpr ▸ hread) h⟩
  rename_i hread
  simp only [Bool.false_eq_true, if_false]
  have hquiet : ∀ f : Failure, f.cls? = none → f.NotPrecondition :=
    fun _ => Failure.notPrecondition_of_plain
  refine Op.Spec.plain_bind (Value.field_plain _ _) (fun timeout => ?_)
    fun st f hf _ => ⟨rfl, fun _ => List.forall_mem_nil _,
      fun _ => ⟨fun f' h => by cases h; exact hquiet f hf, [], [], rfl, .nil,
        List.forall_mem_nil _⟩⟩
  -- the job is waited for; what follows only reads and waits
  refine Op.Spec.bind_within (Op.act_spec (c.poller.wait_spec _ timeout .null))
    (p := fun e => ¬ e.IsChange) (q := Failure.NotPrecondition) (fun job => ?_) ?_ ?_
  · refine Op.Within.note_bind (fun _ => rfl) fun _ => ?_
    refine (Op.within_liftFailure job.check_notPrecondition).bind fun _ => ?_
    split
    · refine (Op.within_plain (Value.field_plain _ _) hquiet).bind fun id => ?_
      refine (Op.within_act ((c.reconciler.confirmAbsent_within id).mono
        (fun _ h => h.not_isChange) fun _ h => h)).bind fun _ => ?_
      exact Op.Within.note_bind (fun _ => rfl) fun _ => Op.within_pure _
    refine (Op.within_plain (configValue_plain _ _) hquiet).bind fun delay => ?_
    refine (Op.within_act (Act.within_sleep (by simp) hquiet)).bind fun _ => ?_
    refine (Op.within_discovered _ hquiet).bind fun storageUri => ?_
    refine (Op.within_plain (Value.field_plain _ _) hquiet).bind fun name => ?_
    refine (Op.within_act ((c.reconciler.findVolume_within _ _).mono
      (fun _ h => h.not_isChange) fun _ h => h)).bind fun volume => ?_
    refine (Op.within_plain (Value.entriesOf_plain _) hquiet).bind fun state => ?_
    refine (Op.within_discovered _ hquiet).bind fun systemId => ?_
    refine (Op.within_act ((c.reconciler.reconcile_within _ _).mono
      (fun _ h => h.not_isChange) fun _ h => h)).bind fun result => ?_
    exact Op.within_note fun _ => rfl
  · intro job st st₁ r st₂ e₁ e₂ ⟨⟨hwait, _⟩, _, hp₁⟩ hk he₂ hr hpr
    subst hpr
    refine ⟨by rw [hk, hp₁], fun h => absurd h hread, fun _ => ⟨hr, e₁, e₂, rfl, hwait, he₂⟩⟩
  · intro f st st₁ e ⟨⟨hwait, hf⟩, _, hp₁⟩ hpr
    subst hpr
    refine ⟨by rw [hp₁], fun h => absurd h hread,
      fun _ => ⟨fun f' h => by cases h; exact hf f rfl, e, [], by simp, hwait, List.forall_mem_nil _⟩⟩

/-- Refreshing a state notes the result and whether the volume was found, nothing else. -/
theorem Component.refresh_keeps_discovered : c.refresh.Keeps Progress.discovered := by
  unfold Component.refresh
  refine Op.keeps_progress.bind fun pr => (Op.keeps_liftFailure _).bind fun volumeUri => ?_
  split
  · exact Op.keeps_throw _
  refine Op.Keeps.bind ?_ fun volume? => ?_
  · refine (Op.keeps_act (c.reconciler.readVolume_within _)).map.tryCatch fun f => ?_
    split
    · split
      · exact Op.keeps_pure _
      · exact Op.keeps_throw _
    · exact Op.keeps_throw _
  split
  · exact Op.keeps_note fun _ => rfl
  · refine (Op.keeps_act (c.reconciler.reconcile_within _ _)).bind fun _ => ?_
    exact Op.keeps_note fun _ => rfl

/-- **Housekeeping keeps what discovery noted**: it notes only the job, the result and whether
the volume was found. -/
theorem Component.housekeepPhase_keeps_discovered : c.housekeepPhase.Keeps Progress.discovered := by
  unfold Component.housekeepPhase
  refine Op.keeps_progress.bind fun pr => ?_
  split
  · simp only [if_true]
    exact c.refresh_keeps_discovered
  simp only [Bool.false_eq_true, if_false]
  refine (Op.keeps_liftFailure _).bind fun timeout => ?_
  refine (Op.keeps_act (c.poller.wait_spec _ timeout .null)).bind fun job => ?_
  refine Op.Keeps.bind ?_ fun _ => (Op.keeps_liftFailure _).bind fun _ => ?_
  · exact Op.keeps_note fun _ => rfl
  split
  · refine (Op.keeps_liftFailure _).bind fun id => ?_
    refine (Op.keeps_act (c.reconciler.confirmAbsent_within id)).bind fun _ => Op.Keeps.bind ?_
      fun _ => Op.keeps_pure _
    exact Op.keeps_note fun _ => rfl
  refine (Op.keeps_liftFailure _).bind fun delay => ?_
  refine (Op.keeps_act (Act.spec_sleep delay)).bind fun _ => ?_
  refine (Op.keeps_discovered _).bind fun storageUri => (Op.keeps_liftFailure _).bind fun name => ?_
  refine (Op.keeps_act (c.reconciler.findVolume_within _ _)).bind fun volume => ?_
  refine (Op.keeps_liftFailure _).bind fun state => (Op.keeps_discovered _).bind fun systemId => ?_
  refine (Op.keeps_act (c.reconciler.reconcile_within _ _)).bind fun _ => ?_
  exact Op.keeps_note fun _ => rfl

end Housekeep

/-! ## Every phase -/

/-- What each phase does, as its specs above say. -/
def PhaseTrace (c : Component) : Phase → Progress → Except Failure Unit → Progress → List Event → Prop
  | .discover, p, _, p', evs => p'.request = p.request ∧ ∀ e ∈ evs, e.IsRead
  | .process, p, r, p', evs => ProcessTrace c p r p' evs
  | .housekeep, p, r, p', evs => HousekeepTrace c p r p' evs

theorem Component.phase_spec (c : Component) (ph : Phase) :
    (c.phase ph).Spec fun st r st' evs => PhaseTrace c ph st.progress r st'.progress evs := by
  cases ph with
  | discover => exact Op.Spec.mono c.discoverPhase_within fun _ _ _ _ ⟨hk, he, _⟩ => ⟨hk, he⟩
  | process => exact c.processPhase_spec
  | housekeep => exact c.housekeepPhase_spec

/-- Every phase keeps the request. -/
theorem PhaseTrace.request_eq {c : Component} {ph : Phase} {p p' : Progress}
    {r : Except Failure Unit} {evs : List Event} (h : PhaseTrace c ph p r p' evs) :
    p'.request = p.request := by
  cases ph with
  | discover => exact h.1
  | process => exact h.1
  | housekeep => exact h.1

end VolumeLifecycle.Lifecycle
