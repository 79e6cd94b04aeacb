import Mathlib.Data.List.Perm.Subperm
import VolumeLifecycle.Proofs.Lifecycle.Gate
import VolumeLifecycle.Proofs.Redfish.DriveReads
/-!
# VolumeLifecycle.Proofs.Lifecycle.DriveMatch

**A create POSTs the drives it matched by name, as many as there are names.** Discovery for a
create reads the server's generation, finds the controller that the desired state names, and
reads that controller's drives in the order it lists them. It keeps the drives whose `Name` is
among the desired names (`matchDrives_ok`) and accepts them when they are as many as the names:
it counts, it does not compare the sets (`DrivesChosen`). The POST then references exactly
those drives, under `Links.Drives` from generation 17 on and under a top-level `Drives` before
(`Component.create_posts_named_drives`).

Counting lets a missing name through. Two drives of the controller with one name, or one drive
listed twice, make up for a name that matches nothing: the volume is then built of the wrong
drives, and no precondition error is raised. With drive names that differ from one another, a
match of the right size does cover every name (`namedIn_covers`).
-/

namespace VolumeLifecycle.Lifecycle

open VolumeLifecycle.Redfish VolumeLifecycle.Value VolumeLifecycle.Volume

/-! ## Matching drives by name -/

/-- Whether the `Name` of the drive `d` is among `names`; a drive whose name cannot be read is
not. -/
def namedIn (names : List Value) (d : Value) : Bool :=
  match d.getOr "Name" with
  | .ok n => names.any (same n)
  | .error _ => false

/-- The drive names a desired state asks for: its `drives`, none when they are unset. -/
def driveNames (desired : Value) : Except Failure (List Value) := do
  let drives ← desired.getOr "drives"
  (if drives.truthy then drives else .list []).members

/-- The loop of a filter by a test that can fail: the elements kept, last first, onto the
accumulator. -/
theorem filterAuxM_eq_ok {α : Type} {p : α → Except Failure Bool} {q : α → Bool}
    (hq : ∀ x b, p x = .ok b → q x = b) {xs acc ys : List α}
    (h : List.filterAuxM p xs acc = .ok ys) : ys = (xs.filter q).reverse ++ acc := by
  induction xs generalizing acc with
  | nil =>
    cases h
    simp
  | cons x xs ih =>
    rw [List.filterAuxM] at h
    obtain ⟨b, hb, hrest⟩ := exists_of_bind_eq_ok h
    rw [ih hrest, ← hq x b hb]
    cases hqx : q x <;> simp [hqx]

/-- A filter by a test that can fail keeps, when no test failed, what the plain test `q` keeps,
given that `q` agrees with the test wherever it answers. -/
theorem filterM_eq_ok {α : Type} {p : α → Except Failure Bool} {q : α → Bool}
    (hq : ∀ x b, p x = .ok b → q x = b) {xs ys : List α} (h : xs.filterM p = .ok ys) :
    ys = xs.filter q := by
  obtain ⟨kept, hkept, h⟩ := exists_of_bind_eq_ok h
  cases h
  rw [filterAuxM_eq_ok hq hkept, List.append_nil, List.reverse_reverse]

/-- **The drives matched are the named ones, in the controller's order, one per name.** The
match is refused, with a precondition error or a type error, unless the named drives are
exactly as many as the names. -/
theorem matchDrives_ok {drives names matched : List Value}
    (h : matchDrives drives names = .ok matched) :
    matched = drives.filter (namedIn names) ∧ matched.length = names.length := by
  unfold matchDrives at h
  obtain ⟨found, hfound, h⟩ := exists_of_bind_eq_ok h
  have hnamed : found = drives.filter (namedIn names) := by
    refine filterM_eq_ok (fun d b hb => ?_) hfound
    obtain ⟨n, hn, hb⟩ := exists_of_bind_eq_ok hb
    cases hb
    simp [namedIn, hn]
  split at h
  · -- a count that differs always ends in a failure
    obtain ⟨_, -, h⟩ := exists_of_bind_eq_ok h
    dsimp only at h
    split at h
    · cases h
    · obtain ⟨_, -, h⟩ := exists_of_bind_eq_ok h
      obtain ⟨_, -, h⟩ := exists_of_bind_eq_ok h
      cases h
  · rename_i hcount
    dsimp only at h
    obtain ⟨_, -, h⟩ := exists_of_bind_eq_ok h
    cases h
    exact ⟨hnamed, by simpa using hcount⟩

@[simp] theorem same_str (a b : String) : same (.str a) (.str b) = (a == b) := by
  simp only [same]

/-- A drive with a text name, named among text names, is named by one of them exactly. -/
theorem namedIn_name {names : List Value} (htexts : ∀ n ∈ names, ∃ t, n = .str t) {d : Value}
    {t : String} (hname : d.getOr "Name" = .ok (.str t)) (hd : namedIn names d = true) :
    .str t ∈ names := by
  simp only [namedIn, hname, List.any_eq_true] at hd
  obtain ⟨n, hn, hsame⟩ := hd
  obtain ⟨t', rfl⟩ := htexts n hn
  simp only [same_str, beq_iff_eq] at hsame
  rw [hsame]
  exact hn

/-- **With drive names that differ, a match of the right size covers every name.** When the
drives of a controller carry pairwise different text names and the desired names are texts,
the drives named are as many as the names only if each name is the `Name` of one of them. -/
theorem namedIn_covers {drives names : List Value} (htexts : ∀ n ∈ names, ∃ t, n = .str t)
    (hnamed : ∀ d ∈ drives, ∃ t, d.getOr "Name" = .ok (.str t))
    (hdistinct : (drives.map (·.getOr "Name")).Nodup)
    (hcount : (drives.filter (namedIn names)).length = names.length) :
    ∀ n ∈ names, ∃ d ∈ drives.filter (namedIn names), d.getOr "Name" = .ok n := by
  -- the names of the drives matched are desired names, each once
  have hnodup : ((drives.filter (namedIn names)).map (·.getOr "Name")).Nodup :=
    (List.filter_sublist.map _).nodup hdistinct
  have hsub : (drives.filter (namedIn names)).map (·.getOr "Name") ⊆ names.map Except.ok := by
    intro x hx
    obtain ⟨d, hd, rfl⟩ := List.mem_map.1 hx
    obtain ⟨hdrive, hd⟩ := List.mem_filter.1 hd
    obtain ⟨t, ht⟩ := hnamed d hdrive
    rw [ht]
    exact List.mem_map.2 ⟨_, namedIn_name htexts ht hd, rfl⟩
  -- as many as the names, so all of them
  have hperm : ((drives.filter (namedIn names)).map (·.getOr "Name")).Perm
      (names.map Except.ok) :=
    (hnodup.subperm hsub).perm_of_length_le (by simp [hcount])
  intro n hn
  obtain ⟨d, hd, hname⟩ := List.mem_map.1 (hperm.mem_iff.2 (List.mem_map.2 ⟨n, hn, rfl⟩))
  exact ⟨d, hd, hname⟩

/-! ## Where the body lists the drives -/

/-- Where a create body lists the drives of the new volume: under `Links.Drives`, with no
top-level `Drives`, when `inLinks`; under a top-level `Drives`, with no `Links`, otherwise. -/
def ListsDrives (payload : Value) (inLinks : Bool) (refs : List Value) : Prop :=
  if inLinks then
    payload.getOr "Links" = .ok (.dict [("Drives", .list refs)]) ∧
      payload.getOr "Drives" = .ok .null
  else payload.getOr "Drives" = .ok (.list refs) ∧ payload.getOr "Links" = .ok .null

/-- The body of a create request lists references to the request's drives where `inLinks`
says. -/
theorem CreateRequest.payload_listsDrives (r : CreateRequest) (inLinks : Bool) :
    ListsDrives (r.payload inLinks) inLinks (r.driveUris.map reference) := by
  cases inLinks <;> simp [ListsDrives, CreateRequest.payload, getOr, lookup]

/-- The drives of a create request are the members of the drive list it is given. -/
theorem CreateRequest.ofState_driveUris {state drives : Value} {r : CreateRequest}
    (h : CreateRequest.ofState state drives = .ok r) : drives.members = .ok r.driveUris := by
  unfold CreateRequest.ofState at h
  -- the fields before the drives are read off the state; the drives are read last
  repeat obtain ⟨_, _, h⟩ := exists_of_bind_eq_ok h
  cases h
  assumption

/-! ## Discovery chooses the drives -/

/-- The controller `storage` was found for the desired state `D` with the events `evs`: it is
the one that `D` names by its `storage_controller_id`, and one of the events is a GET answered
with it. -/
def ControllerFound (client : Client) (D storage : Value) (evs : List Event) : Prop :=
  (∃ controllerId i, D.getOr "storage_controller_id" = .ok controllerId ∧
    storage.getOr "Id" = .ok i ∧ same i controllerId = true) ∧
  ∃ uri e, e ∈ evs ∧ client.Answered uri storage e

/-- How discovery for a create chose the drives of the new volume, for the filled-in desired
state `D`, with the events `evs`: it read the server's generation, which gives `inLinks`, then
found the controller that `D` names, then read that controller's drives in the order it lists
them. The drives whose name `D` asks for are as many as the names, and `uris` are their
`@odata.id`, in that order. -/
def DrivesChosen (client : Client) (D : Value) (evs : List Event) (uris : List Value)
    (inLinks : Bool) : Prop :=
  ∃ names generation storage drives genEvs ctlEvs driveEvs,
    driveNames D = .ok names ∧ evs = genEvs ++ ctlEvs ++ driveEvs ∧
    client.GenerationRead generation genEvs ∧ inLinks = fromSeventeen generation ∧
    ControllerFound client D storage ctlEvs ∧ client.DrivesListed storage drives driveEvs ∧
    (drives.filter (namedIn names)).length = names.length ∧
    (drives.filter (namedIn names)).mapM (·.field "@odata.id") = .ok uris

/-- The drives that discovery chose, as the progress `p'` it leaves notes them for the process
phase. -/
def DrivesNoted (client : Client) (D : Value) (p' : Progress) (evs : List Event) : Prop :=
  ∃ uris inLinks, DrivesChosen client D evs uris inLinks ∧
    lookup p'.discovered "drive_uris" = some (.list uris) ∧
    lookup p'.discovered "drives_in_links" = some (.bool inLinks)

section Discover

variable (c : Component)

/-- Finding the system notes nothing. -/
theorem Component.system_keeps {κ : Type} {k : Progress → κ} (systemId : Value) :
    (c.system systemId).Keeps k := by
  unfold Component.system
  refine (Op.keeps_act (c.client.system_within _)).tryCatch fun f => ?_
  split
  · split <;> exact Op.keeps_throw _
  · exact Op.keeps_throw _

/-- Discovering a controller notes the system, the controller and its apply times, and leaves
the note of where the drives go. -/
theorem Component.discoverController_keeps_inLinks (systemId controllerId : Value) :
    (c.discoverController systemId controllerId).Keeps
      fun p => lookup p.discovered "drives_in_links" := by
  unfold Component.discoverController
  split
  · exact Op.keeps_throw _
  refine (c.system_keeps systemId).bind fun system => ?_
  refine (Op.keeps_liftFailure _).bind fun _ => ?_
  refine (Op.keeps_note fun _ => by simp).bind fun _ => ?_
  refine (Op.keeps_liftFailure _).bind fun _ => ?_
  refine (Op.keeps_note fun _ => by simp).bind fun _ => ?_
  refine (Op.keeps_act (c.client.storageController_within _ _)).bind fun storage => ?_
  split
  · exact Op.keeps_throw _
  refine (Op.keeps_liftFailure _).bind fun _ => ?_
  refine (Op.keeps_note fun _ => by simp).bind fun _ => ?_
  refine (Op.keeps_act (c.client.supportedApplyTimes_within _)).bind fun _ => ?_
  refine (Op.keeps_note fun _ => by simp).bind fun _ => ?_
  refine Op.keeps_progress.bind fun _ => ?_
  refine (Op.keeps_liftFailure _).bind fun _ => ?_
  refine (Op.keeps_liftFailure _).bind fun _ => ?_
  exact Op.keeps_pure _

/-- **The controller discovered was answered by the controller**: one of the events of its
discovery is a GET answered with it. -/
theorem Component.discoverController_answered (systemId controllerId : Value) :
    (c.discoverController systemId controllerId).Spec fun _ r _ evs => ∀ storage,
      r = .ok storage → ∃ uri e, e ∈ evs ∧ c.client.Answered uri storage e := by
  unfold Component.discoverController
  split
  · exact Op.spec_throw _ fun _ _ h => by cases h
  -- the system and its notes come first; the controller is read after them
  refine Op.Spec.bind_after (c.system_within systemId) (fun system => ?_)
    (fun _ _ e₁ _ h storage hr => ?_) fun _ _ _ _ h => by cases h
  · refine Op.Spec.lift_bind (fun _ _ => ?_) fun _ _ _ _ h => by cases h
    refine Op.Spec.note_bind_final ?_
    refine Op.Spec.lift_bind (fun _ _ => ?_) fun _ _ _ _ h => by cases h
    refine Op.Spec.note_bind_final ?_
    refine Op.Spec.bind (Op.act_spec (c.client.storageController_answered system controllerId))
      (fun storage => ?_)
      (S := fun storage _ r _ _ => ∀ v, r = .ok v → v = storage ∧ storage ≠ .null)
      ?_ fun _ _ _ _ _ _ h => by cases h
    · split
      · exact Op.spec_throw _ fun _ _ h => by cases h
      rename_i hnull
      -- the rest checks the apply time and returns the controller found
      refine Op.Spec.lift_bind (fun _ _ => ?_) fun _ _ _ _ h => by cases h
      refine Op.Spec.note_bind_final ?_
      refine Op.Spec.bind (Op.act_spec (c.client.supportedApplyTimes_spec _))
        (fun supported => applyTimeCheck_spec _ storage supported) ?_
        fun _ _ _ _ _ _ h => by cases h
      rintro supported st st₁ r st₂ e₁ e₂ - ⟨-, -, hr⟩ v hv
      refine ⟨(hr v hv).1, fun h => hnull ?_⟩
      rw [h]
    · rintro storage st st₁ r st₂ e₁ e₂ ⟨hans, -, -⟩ hrest v hv
      obtain ⟨rfl, hnull⟩ := hrest v hv
      rcases hans v rfl with h | ⟨uri, e, he, hans⟩
      · exact absurd h hnull
      · exact ⟨uri, e, List.mem_append_left _ he, hans⟩
  · obtain ⟨uri, e, he, hans⟩ := h storage hr
    exact ⟨uri, e, List.mem_append_right e₁ he, hans⟩

/-- After the controller, its drives: read, matched by name, and their URIs noted. -/
theorem Component.noteDrives_spec (storage : Value) (names : List Value) :
    (do
      let drives ← liftFailure (matchDrives (← Op.act (c.client.drives storage)) names)
      Op.discover "drive_uris" (.list (← liftFailure (drives.mapM (·.field "@odata.id")))) :
        Op Unit).Spec fun st r st' evs => r = .ok () → ∃ drives uris,
      c.client.DrivesListed storage drives evs ∧
      (drives.filter (namedIn names)).length = names.length ∧
      (drives.filter (namedIn names)).mapM (·.field "@odata.id") = .ok uris ∧
      st'.progress.discovered = insert st.progress.discovered "drive_uris" (.list uris) := by
  refine Op.Spec.bind (Op.act_spec (c.client.drives_listed storage)) (fun found => ?_)
    (S := fun found st r st' evs => r = .ok () → evs = [] ∧ ∃ uris,
      (found.filter (namedIn names)).length = names.length ∧
      (found.filter (namedIn names)).mapM (·.field "@odata.id") = .ok uris ∧
      st'.progress.discovered = insert st.progress.discovered "drive_uris" (.list uris))
    ?_ fun _ _ _ _ _ h => by cases h
  · refine Op.Spec.lift_bind (fun matched hmatched => ?_) fun _ _ _ h => by cases h
    obtain ⟨rfl, hcount⟩ := matchDrives_ok hmatched
    refine Op.Spec.lift_bind (fun uris huris => ?_) fun _ _ _ h => by cases h
    exact Op.spec_note _ fun st _ => ⟨rfl, uris, hcount, huris, rfl⟩
  · rintro found st st₁ r st₂ e₁ e₂ ⟨hlisted, -, hp₁⟩ hrest hr
    obtain ⟨rfl, uris, hcount, huris, hdisc⟩ := hrest hr
    refine ⟨found, uris, ?_, hcount, huris, by rw [hdisc, hp₁]⟩
    rw [List.append_nil]
    exact hlisted found rfl

/-- **Discovery for a create chooses the drives of the new volume** and notes them, with
where the body is to list them. -/
theorem Component.discoverCreate_drives :
    c.discoverCreate.Spec fun st r st' evs => r = .ok () →
      DrivesNoted c.client st.progress.desired st'.progress evs := by
  unfold Component.discoverCreate
  refine Op.Spec.progress_bind fun pr => ?_
  refine Op.Spec.mono (Q := fun _ r st' evs => r = .ok () →
    DrivesNoted c.client pr.desired st'.progress evs) ?_ fun st r st' evs h hpr => hpr ▸ h
  refine Op.Spec.lift_bind (fun drives hdrives => ?_) fun _ _ _ h => by cases h
  refine Op.Spec.lift_bind (fun names hnames => ?_) fun _ _ _ h => by cases h
  have hnames' : driveNames pr.desired = .ok names := by
    rw [driveNames, hdrives]
    exact hnames
  split
  · exact Op.spec_throw _ fun _ h => by cases h
  refine Op.Spec.lift_bind (fun _ _ => ?_) fun _ _ _ h => by cases h
  split
  · exact Op.spec_throw _ fun _ h => by cases h
  -- the generation is read first; the controller and its drives follow the note it gives
  refine Op.Spec.bind (Op.act_spec c.client.seventeenOrLater_read) (fun inLinks => ?_)
    (S := fun inLinks _ r st' evs => r = .ok () → ∃ uris storage drives ctlEvs driveEvs,
      evs = ctlEvs ++ driveEvs ∧ ControllerFound c.client pr.desired storage ctlEvs ∧
      c.client.DrivesListed storage drives driveEvs ∧
      (drives.filter (namedIn names)).length = names.length ∧
      (drives.filter (namedIn names)).mapM (·.field "@odata.id") = .ok uris ∧
      lookup st'.progress.discovered "drive_uris" = some (.list uris) ∧
      lookup st'.progress.discovered "drives_in_links" = some (.bool inLinks))
    ?_ fun _ _ _ _ _ h => by cases h
  · refine Op.Spec.note_bind ?_
    refine Op.Spec.lift_bind (fun systemId _ => ?_) fun _ _ _ _ _ h => by cases h
    refine Op.Spec.lift_bind (fun controllerId hcid => ?_) fun _ _ _ _ _ h => by cases h
    refine Op.Spec.bind (((c.discoverController_gate systemId controllerId).and
      (c.discoverController_answered systemId controllerId)).and
      (c.discoverController_keeps_inLinks systemId controllerId))
      (fun storage => c.noteDrives_spec storage names) ?_ fun _ _ _ _ _ _ _ h => by cases h
    intro storage st st₁ r st₂ e₁ e₂ ⟨⟨hgate, hanswered⟩, hkeep⟩ hdrives st₀ hst hr
    obtain ⟨storageUri, i, applyTime, hi, hsame, -, -, -⟩ := hgate storage rfl
    obtain ⟨drives, uris, hlisted, hcount, huris, hdisc⟩ := hdrives hr
    refine ⟨uris, storage, drives, e₁, e₂, rfl,
      ⟨⟨controllerId, i, hcid, hi, hsame⟩, hanswered storage rfl⟩, hlisted, hcount, huris,
      by rw [hdisc]; simp, ?_⟩
    -- the note of where the drives go outlives the controller and the drives
    dsimp only at hkeep
    rw [hdisc, lookup_insert, if_neg (by decide), hkeep, hst]
    simp
  · rintro inLinks st st₁ r st₂ e₁ e₂ ⟨hgen, -, -⟩ hrest hr
    obtain ⟨uris, storage, drives, ctlEvs, driveEvs, rfl, hnamed, hlisted, hcount, huris,
      hlook₁, hlook₂⟩ := hrest hr
    obtain ⟨generation, hread, rfl⟩ := hgen inLinks rfl
    exact ⟨uris, fromSeventeen generation, ⟨names, generation, storage, drives, e₁, ctlEvs,
      driveEvs, hnames', by simp, hread, rfl, hnamed, hlisted, hcount, huris⟩, hlook₁,
      hlook₂⟩

end Discover

/-! ## The create sends the drives chosen -/

/-- What each phase does, with the drives that discovery chooses for a create. -/
def DriveTrace (c : Component) (ph : Phase) (p : Progress) (r : Except Failure Unit)
    (p' : Progress) (evs : List Event) : Prop :=
  PhaseTrace c ph p r p' evs ∧
    (ph = .discover → p.operation = .str "create" → r = .ok () →
      DrivesNoted c.client p.desired p' evs)

theorem Component.phase_drives_spec (c : Component) (ph : Phase) :
    (c.phase ph).Spec fun st r st' evs => DriveTrace c ph st.progress r st'.progress evs := by
  cases ph with
  | discover =>
    -- discovery of a create runs as the create's discovery
    have hcreate : ∀ st : Station, st.progress.operation = .str "create" →
        c.discoverPhase.runOn st = c.discoverCreate.runOn st := by
      intro st hop
      unfold Component.discoverPhase
      rw [Op.runOn_bind, Op.runOn_progress]
      dsimp only
      rw [hop]
      rfl
    exact ((c.phase_spec .discover).and
      (Op.Spec.when (c.phase_spec .discover) hcreate c.discoverCreate_drives)).mono
      fun _ _ _ _ ⟨htrace, hdrives⟩ => ⟨htrace, fun _ hop hr => hdrives hop hr⟩
  | process =>
    exact (c.phase_spec .process).mono fun _ _ _ _ htrace => ⟨htrace, fun h => by cases h⟩
  | housekeep =>
    exact (c.phase_spec .housekeep).mono fun _ _ _ _ htrace => ⟨htrace, fun h => by cases h⟩

/-- **A create POSTs the drives it matched by name.** Before the first change a create sends,
it only read: the server's generation, the controller that its filled-in desired state `D`
names, and that controller's drives, in the order the controller lists them. The change is a
POST whose body references the drives whose name `D` asks for, in that order and as many as
the names, under `Links.Drives` from generation 17 on and under a top-level `Drives` before. -/
theorem Component.create_posts_named_drives (c : Component) (desired : Value) :
    (c.perform (.create desired)).Spec fun _ _ _ evs => changes evs ≠ [] →
      ∃ D reads call answer rest uris inLinks, withDefaults desired = .ok D ∧
        evs = reads ++ .exchange call answer :: rest ∧ (∀ e ∈ reads, e.IsRead) ∧
        DrivesChosen c.client D reads uris inLinks ∧ call.method = .post ∧
        ListsDrives call.payload inLinks (uris.map reference) := by
  refine (c.perform_spec c.phase_drives_spec (.create desired)).mono
    fun _ _ _ evs h hchange => ?_
  rcases h with ⟨rfl, _⟩ | ⟨D, P, r', hD, -, hrun, -⟩
  · exact absurd rfl hchange
  obtain ⟨p₀, p₁, p₂, r₂, p₃, e₂, reads, call, answer, rest, rfl, hw, ⟨hdisc, hdrives⟩, hwork,
    -, hsub⟩ := hrun.first_change_of (fun _ _ _ _ _ h => h.1) hchange
  -- discovery and the submission both run on the create's request
  have hreq₀ := Progress.request_eq_of_work hw
  have hreq₂ : p₂.request = p₀.request := (Progress.request_eq_of_work hwork).trans hdisc.1
  obtain ⟨uris, inLinks, hchosen, hlook₁, hlook₂⟩ :=
    hdrives rfl (Progress.operation_eq_of_request hreq₀) rfl
  rw [Progress.desired_eq_of_request hreq₀] at hchosen
  -- the submission reads the drives and where they go off the notes discovery left
  have hdisc₂ : p₂.discovered = p₁.discovered := Progress.discovered_eq_of_work hwork
  unfold Submits at hsub
  rw [Progress.operation_eq_of_request (hreq₂.trans hreq₀)] at hsub
  obtain ⟨drives, r, storageUri, inLinks', path, hdrv, hr, -, hin, -, rfl⟩ := hsub
  rw [hdisc₂, hlook₁] at hdrv
  rw [hdisc₂, hlook₂] at hin
  cases hdrv
  cases hin
  have huris : r.driveUris = uris := by
    have h := CreateRequest.ofState_driveUris hr
    cases h
    rfl
  refine ⟨D, reads, _, answer, rest, uris, inLinks, hD, rfl, hdisc.2, hchosen, rfl, ?_⟩
  rw [← huris]
  exact CreateRequest.payload_listsDrives r inLinks

/-- The bench's create POSTs a volume on the drives `D0` and `D1` it matched by name. -/
theorem Component.create_posts_named_drives_bench : ∃ st',
    (Bench.component.perform (.create Bench.request)).runOn Bench.station = (.ok (), st') ∧
    changes (Bench.station.site.since st'.site) ≠ [] ∧
    ∃ D reads call answer rest uris inLinks, withDefaults Bench.request = .ok D ∧
      Bench.station.site.since st'.site = reads ++ .exchange call answer :: rest ∧
      (∀ e ∈ reads, e.IsRead) ∧ DrivesChosen Bench.component.client D reads uris inLinks ∧
      call.method = .post ∧ ListsDrives call.payload inLinks (uris.map reference) := by
  obtain ⟨st', hrun, hchanges⟩ := Bench.perform_create_run
  exact ⟨st', hrun, hchanges,
    (Bench.component.create_posts_named_drives Bench.request).at_run hrun hchanges⟩

end VolumeLifecycle.Lifecycle
