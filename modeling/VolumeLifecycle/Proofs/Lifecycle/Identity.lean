import VolumeLifecycle.Proofs.Lifecycle.ReadBack
import VolumeLifecycle.Proofs.Lifecycle.Verbs
/-!
# VolumeLifecycle.Proofs.Lifecycle.Identity

**Which volume a returned state names.** A create or an update does not take the id of the
volume it changed from the change itself: after the job, housekeeping lists the volume
collection of the storage controller it discovered, takes the first member whose `Name` is the
desired `volume_name`, and reconciles the state with it, so the returned `id` is that member's
`@odata.id`. This module proves exactly that, for every successful create and update
(`Component.read_back_identity`):

* `Client.Listed` — the GETs of a collection and of its members, in the order of its
  `Members`, skipping references without a true `@odata.id`;
* `FirstNamed` — the first of the listed volumes whose name is the desired one, every name
  before it read and different;
* `Identifies` — the returned state's `id` is the `@odata.id` of that volume.

The volume named is not tied to the one the change was sent to: an update whose volume shares
its name with a volume listed before it returns the other volume's id, and a create whose name
is already taken returns the existing volume's.
-/

namespace VolumeLifecycle.Lifecycle

open VolumeLifecycle.Redfish VolumeLifecycle.Value VolumeLifecycle.Volume

/-! ## The state a create or an update returns -/

/-- The state `result` names, by its `id`, the first volume whose `Name` is the `volume_name` of
`desired` among the members of a storage controller's volume collection, listed with some of
the events `evs`. -/
def Identifies (c : Component) (desired result : Value) (evs : List Event) : Prop :=
  ∃ (name storageUri : Value) (vs : List Value) (volume : Value) (pre reads post : List Event),
    desired.field "volume_name" = .ok name ∧
    evs = pre ++ reads ++ post ∧
    c.reconciler.client.Listed (.str s!"{storageUri.display}/Volumes") vs reads ∧
    FirstNamed name vs volume ∧ result.field "id" = volume.field "@odata.id"

/-- How housekeeping a create or an update reads the volume back, with the events `evs`: it
lists the volume collection of a storage controller, takes the first volume whose `Name` is
the `volume_name` of `desired`, and reconciles the desired state, with the system's id added,
with that volume, whose drives it reads after the listing. -/
def ReadsBack (c : Component) (desired result : Value) (evs : List Event) : Prop :=
  ∃ (name storageUri : Value) (vs : List Value) (volume : Value) (pre reads post : List Event)
    (ses : List (String × Value)) (systemId : Value) (names : List Value),
    desired.field "volume_name" = .ok name ∧
    evs = pre ++ reads ++ post ∧
    c.reconciler.client.Listed (.str s!"{storageUri.display}/Volumes") vs reads ∧
    FirstNamed name vs volume ∧ desired.entriesOf = .ok ses ∧
    c.reconciler.ReadBackOf (.dict (insert ses "system_id" systemId)) volume names result ∧
    c.reconciler.DrivesRead volume names post

theorem ReadsBack.append_left {c : Component} {desired result : Value} {evs : List Event}
    (e : List Event) (h : ReadsBack c desired result evs) : ReadsBack c desired result (e ++ evs) := by
  obtain ⟨name, storageUri, vs, volume, pre, reads, post, ses, systemId, names, hname, rfl, hlisted,
    hfirst, hses, hof, hdrives⟩ := h
  exact ⟨name, storageUri, vs, volume, e ++ pre, reads, post, ses, systemId, names, hname, by simp,
    hlisted, hfirst, hses, hof, hdrives⟩

/-- A state read back by name identifies the volume it was read from. -/
theorem ReadsBack.identifies {c : Component} {desired result : Value} {evs : List Event}
    (h : ReadsBack c desired result evs) : Identifies c desired result evs := by
  obtain ⟨name, storageUri, vs, volume, pre, reads, post, _, _, _, hname, he, hlisted, hfirst, -,
    hof, -⟩ := h
  exact ⟨name, storageUri, vs, volume, pre, reads, post, hname, he, hlisted, hfirst, hof.field_id⟩

/-- What housekeeping leaves, from the progress `w` to `w'`, when it is neither a read nor a
delete: a result read back by name. -/
def ReadBackRun (c : Component) (w w' : Progress) (evs : List Event) : Prop :=
  w.operation ≠ .str "read" → w.operation ≠ .str "delete" → ReadsBack c w.desired w'.result evs

/-- Events that come before a read-back, from a progress with the same request, keep it one. -/
theorem ReadBackRun.after {c : Component} {w w₁ w' : Progress} {evs : List Event}
    (hreq : w₁.request = w.request) (e : List Event) (h : ReadBackRun c w₁ w' evs) :
    ReadBackRun c w w' (e ++ evs) := fun hread hdelete => by
  rw [← Progress.operation_eq_of_request hreq] at hread hdelete
  rw [← Progress.desired_eq_of_request hreq]
  exact (h hread hdelete).append_left e

section ReadBack

variable {α : Type} (c : Component)

/-- An operation before one whose success reads the volume back. -/
theorem Op.Spec.before_read_back {o : Op α} {f : α → Op Unit}
    {Q : Station → Except Failure α → Station → List Event → Prop} {pr : Progress}
    (ho : o.Spec Q) (hf : ∀ x, (f x).Spec fun _ r st' evs =>
      r = .ok () → ReadBackRun c pr st'.progress evs) :
    (o >>= f).Spec fun _ r st' evs => r = .ok () → ReadBackRun c pr st'.progress evs :=
  Op.Spec.bind ho hf (fun _ _ _ _ _ e₁ _ _ hrest hr => (hrest hr).after rfl e₁)
    fun _ _ _ _ _ h => nomatch h

/-- **Housekeeping a create or an update reads the volume back by name**: the result it leaves
names the first listed volume of the desired name. -/
theorem Component.housekeep_reads_back :
    c.housekeepPhase.Spec fun st r st' evs =>
      r = .ok () → ReadBackRun c st.progress st'.progress evs := by
  unfold Component.housekeepPhase
  refine Op.Spec.progress_bind fun pr => ?_
  refine Op.Spec.mono (Q := fun _ r st' evs => r = .ok () → ReadBackRun c pr st'.progress evs) ?_
    fun _ _ _ _ h hpr => hpr ▸ h
  split
  · rename_i hread
    simp only [if_true]
    exact Op.Spec.mono c.refresh_within fun _ _ _ _ _ _ hne => absurd hread hne
  rename_i hread
  simp only [Bool.false_eq_true, if_false]
  refine Op.Spec.lift_bind (fun timeout _ => ?_) fun _ _ _ h => nomatch h
  refine Op.Spec.before_read_back c (Op.act_spec (c.poller.wait_spec _ timeout .null)) fun job => ?_
  refine Op.Spec.note_bind_final (Op.Spec.lift_bind (fun _ _ => ?_) fun _ _ _ h => nomatch h)
  split
  · -- a delete confirms the volume gone and leaves no state
    rename_i hdelete
    simp only [if_true]
    refine Op.Spec.lift_bind (fun id _ => ?_) fun _ _ _ h => nomatch h
    refine Op.Spec.before_read_back c (Op.act_spec (c.reconciler.confirmAbsent_within id))
      fun _ => ?_
    exact Op.Spec.note_bind_final (Op.spec_pure () fun _ _ _ hne => absurd hdelete hne)
  simp only [Bool.false_eq_true, if_false]
  refine Op.Spec.lift_bind (fun delay _ => ?_) fun _ _ _ h => nomatch h
  refine Op.Spec.before_read_back c (Op.act_spec (Act.spec_sleep delay)) fun _ => ?_
  refine Op.Spec.discovered_bind (fun storageUri => Op.Spec.mono
    (Q := fun _ r st' evs => r = .ok () → ReadBackRun c pr st'.progress evs) ?_
    fun _ _ _ _ h _ => h) fun _ _ _ h => nomatch h
  refine Op.Spec.lift_bind (fun name hname => ?_) fun _ _ _ h => nomatch h
  -- the volume found by name is the one the result is read back from
  refine Op.Spec.bind (Op.act_spec (c.reconciler.findVolume_first storageUri name))
    (S := fun volume _ r st' evs => r = .ok () → ∃ ses systemId names,
      pr.desired.entriesOf = .ok ses ∧
      c.reconciler.ReadBackOf (.dict (insert ses "system_id" systemId)) volume names
        st'.progress.result ∧ c.reconciler.DrivesRead volume names evs)
    (fun volume => ?_) ?_ fun _ _ _ _ _ h => nomatch h
  · refine Op.Spec.lift_bind (fun ses hses => ?_) fun _ _ _ h => nomatch h
    refine Op.Spec.discovered_bind (fun systemId => Op.Spec.mono
      (Q := fun _ r st' evs => r = .ok () → ∃ names,
        c.reconciler.ReadBackOf (.dict (insert ses "system_id" systemId)) volume names
          st'.progress.result ∧ c.reconciler.DrivesRead volume names evs) ?_
      fun _ _ _ _ h _ hr => ?_) fun _ _ _ h => nomatch h
    · exact Op.Spec.bind (Op.act_spec (c.reconciler.reconcile_readBack _ volume))
        (fun result => Op.spec_note _ (Q := fun _ _ st' _ => st'.progress.result = result)
          fun _ => rfl)
        (fun result _ _ _ _ _ _ ⟨hread, _⟩ hres _ => by
          obtain ⟨names, hof, hdrives⟩ := hread result rfl
          rw [hres]
          exact ⟨names, hof, fun hw => (hdrives hw).mono fun _ m => List.mem_append_left _ m⟩)
        fun _ _ _ _ _ h => nomatch h
    · obtain ⟨names, hof, hdrives⟩ := h hr
      exact ⟨ses, systemId, names, hses, hof, hdrives⟩
  · intro volume _ _ _ _ e₁ e₂ ⟨hfound, _⟩ hback hr _ _
    obtain ⟨vs, hlisted, hfirst⟩ := hfound volume rfl
    obtain ⟨ses, systemId, names, hses, hof, hdrives⟩ := hback hr
    exact ⟨name, storageUri, vs, volume, [], e₁, e₂, ses, systemId, names, hname, by simp, hlisted,
      hfirst, hses, hof, hdrives⟩

/-- **The phases of a create or an update end with the volume read back**: discovery and
processing keep the request, and housekeeping reads the volume back. -/
theorem Component.phases_read_back :
    (Phase.all.forM (runPhase Op.touch c.phase)).Spec fun st r st' evs =>
      r = .ok () → ReadBackRun c st.progress.work st'.progress.work evs := by
  have hkeep : ∀ ph, (runPhase Op.touch c.phase ph).Spec fun st r st' _ =>
      r = .ok () → st'.progress.work.request = st.progress.work.request := fun ph =>
    runPhase_ok (T := fun w w' _ => w'.request = w.request) ph
      ((c.phase_spec ph).mono fun _ _ _ _ h _ => h.request_eq)
  have hback : (runPhase Op.touch c.phase .housekeep).Spec fun st r st' evs =>
      r = .ok () → ReadBackRun c st.progress.work st'.progress.work evs :=
    runPhase_ok .housekeep c.housekeep_reads_back
  -- a phase that keeps the request goes before the read-back
  have hbefore : ∀ ph {o : Op Unit}, o.Spec (fun st r st' evs =>
      r = .ok () → ReadBackRun c st.progress.work st'.progress.work evs) →
      (runPhase Op.touch c.phase ph >>= fun _ => o).Spec fun st r st' evs =>
        r = .ok () → ReadBackRun c st.progress.work st'.progress.work evs :=
    fun ph _ ho => Op.Spec.bind (hkeep ph) (fun _ => ho)
      (fun _ _ _ _ _ e₁ _ hreq hrest hr => (hrest hr).after (hreq rfl) e₁)
      fun _ _ _ _ _ h => nomatch h
  show (runPhase Op.touch c.phase .discover >>= fun _ => runPhase Op.touch c.phase .process >>=
    fun _ => runPhase Op.touch c.phase .housekeep >>= fun _ => pure ()).Spec _
  rw [bind_pure_unit]
  exact hbefore _ (hbefore _ hback)

end ReadBack

/-- **A create or an update returns a state read back by name**: the desired state, filled in,
read back as housekeeping found the volume. -/
theorem Component.changes_read_back (c : Component) (desired prior : Value)
    {P : Value → List Event → Prop}
    (h : ∀ D x evs, withDefaults desired = .ok D → ReadsBack c D x evs → P x evs) :
    (c.createVolume desired).Spec (fun _ r _ evs => ∀ x, r = .ok x → P x evs) ∧
    (c.updateVolume desired prior).Spec (fun _ r _ evs => ∀ x, r = .ok x → P x evs) := by
  have hrun : ∀ operation prior, operation ≠ "read" → operation ≠ "delete" →
      (c.run operation desired prior .null).Spec fun _ r _ evs => ∀ x, r = .ok x → P x.1 evs := by
    intro operation prior hread hdelete
    refine (c.run_ok (T := ReadBackRun c) operation desired prior .null ?_).mono
      fun _ r _ evs hok x hx => ?_
    · rw [execute_all]
      exact phases_ok Phase.all c.phases_read_back
    obtain ⟨D, _, w, hD, -, hback, rfl⟩ := hok x hx
    exact h D _ evs hD (hback (by simpa using hread) (by simpa using hdelete))
  -- the verb returns the state of the run
  have hstate : ∀ {o : Op (Value × Bool)}, o.Spec (fun _ r _ evs => ∀ x, r = .ok x → P x.1 evs) →
      ((·.1) <$> o).Spec fun _ r _ evs => ∀ x, r = .ok x → P x evs :=
    fun h => Op.Spec.map h (fun x _ _ _ hx _ hy => by cases hy; exact hx x rfl)
      fun _ _ _ _ _ _ h => nomatch h
  constructor
  · unfold Component.createVolume
    rw [← map_eq_pure_bind]
    exact hstate (hrun "create" .null (by simp) (by simp))
  · unfold Component.updateVolume
    refine Op.Spec.lift_bind (fun _ _ => ?_) fun _ _ _ _ h => nomatch h
    refine Op.Spec.lift_bind (fun _ _ => ?_) fun _ _ _ _ h => nomatch h
    refine Op.Spec.lift_bind (fun _ _ => ?_) fun _ _ _ _ h => nomatch h
    refine Op.Spec.lift_bind (fun _ _ => ?_) fun _ _ _ _ h => nomatch h
    split
    · -- the encryption check refuses before anything runs
      simp only [Op.throw_bind]
      exact Op.spec_throw _ fun _ _ h => nomatch h
    · rw [← map_eq_pure_bind]
      exact hstate (hrun "update" prior (by simp) (by simp))

/-- **The state a create or an update returns names the volume read back by name.** Its `id`
is the `@odata.id` of the first volume of the storage controller's collection whose `Name` is
the desired `volume_name`, among the members as housekeeping listed them: the volume is found
by its name, whichever volume the change was sent to. -/
theorem Component.read_back_identity (c : Component) (desired prior : Value) :
    (c.createVolume desired).Spec (fun _ r _ evs => ∀ x, r = .ok x →
      ∃ D, withDefaults desired = .ok D ∧ Identifies c D x evs) ∧
    (c.updateVolume desired prior).Spec (fun _ r _ evs => ∀ x, r = .ok x →
      ∃ D, withDefaults desired = .ok D ∧ Identifies c D x evs) :=
  c.changes_read_back desired prior fun D _ _ hD h => ⟨D, hD, h.identifies⟩

/-- The bench's create returns a state, and that state names the volume read back by name. -/
theorem Component.read_back_identity_bench_create : ∃ R st',
    (Bench.component.createVolume Bench.request).runOn Bench.station = (.ok R, st') ∧
    ∃ D, withDefaults Bench.request = .ok D ∧
      Identifies Bench.component D R (Bench.station.site.since st'.site) := by
  obtain ⟨R, st', hrun, -, -⟩ := Bench.create_run
  exact ⟨R, st', hrun, (Bench.component.read_back_identity Bench.request .null).1.at_run hrun R rfl⟩

end VolumeLifecycle.Lifecycle
