import VolumeLifecycle.Proofs.Lifecycle.Identity
/-!
# VolumeLifecycle.Proofs.Lifecycle.Settle

**A returned state reads back as itself** from a controller that answers the volume and its
drives as they were read.
What a create, an update and a read that finds its volume return is a filled-in state read back
from one volume (`ReadBackState`): the `id` is the volume's `@odata.id`, every field written back
is read from the volume, and every other field is the filled-in state's own. Reading that state
again fills it in again, which keeps every field that is not written back
(`ReadBackEntries.refill`), and reads the same volume back over it, which writes the same fields
(`ReadBackEntries.lookup_eq`); so the read returns the state again, field for field
(`Component.read_back_settles`).

Besides the controller's answers, the read needs three things it does not check:

* the volume's `@odata.id` is true: a read refuses a state whose `id` is not, as a state
  without an id;
* where the RAID type is written back, the volume reports a true one: filling in a state whose
  `raid_type` is not set works the level out from `volume_type` again, which fails when that is a
  list or a mapping;
* for a create or an update, the system's `Id` is not `null`: it is stored as `system_id`, and
  filling in drops every field that is `null`.

The read takes the endpoint's lock, and settles when the lock is served at once.
-/

namespace VolumeLifecycle.Lifecycle

open VolumeLifecycle.Redfish VolumeLifecycle.Value VolumeLifecycle.Volume

/-! ## Reading back over a filled-in state -/

section Entries

variable {W : List ReadBack} {volume : Value} {names : List Value}

/-- **What is read back depends on the state only through the fields not written back.** Two
states read back from one volume, with the same drive names, give the same fields wherever the
states agree on the fields that are not written back. -/
theorem ReadBackEntries.lookup_eq {ses₁ ses₂ es₁ es₂ : List (String × Value)}
    (h₁ : ReadBackEntries W ses₁ volume names es₁) (h₂ : ReadBackEntries W ses₂ volume names es₂)
    (hkept : ∀ k, k ≠ "id" → (∀ f ∈ W, f.key ≠ k) → lookup ses₂ k = lookup ses₁ k)
    (k : String) : lookup es₂ k = lookup es₁ k := by
  by_cases hid : k = "id"
  · -- both take the volume's `@odata.id`
    subst hid
    obtain ⟨u₁, hu₁, hl₁⟩ := h₁.id
    obtain ⟨u₂, hu₂, hl₂⟩ := h₂.id
    rw [hu₁] at hu₂
    cases hu₂
    rw [hl₁, hl₂]
  by_cases hw : ∃ f ∈ W, f.key = k
  · -- both read the field from the volume
    obtain ⟨f, hf, rfl⟩ := hw
    obtain ⟨x₁, hx₁, hl₁⟩ := h₁.read f hf
    obtain ⟨x₂, hx₂, hl₂⟩ := h₂.read f hf
    rw [hx₁] at hx₂
    cases hx₂
    rw [hl₁, hl₂]
  · have hw : ∀ f ∈ W, f.key ≠ k := fun f hf hk => hw ⟨f, hf, hk⟩
    rw [h₂.kept k hid hw, h₁.kept k hid hw, hkept k hid hw]

/-- **Filling in a state read back over a filled-in one keeps every field not written back.** The
fields kept from the filled-in state are set, and so is the `id` the volume gave; the RAID level
is worked out again, and is the one the state has, kept or read from the volume. -/
theorem ReadBackEntries.refill {ses es : List (String × Value)}
    (hE : ReadBackEntries W ses volume names es) (hs : FilledEntries ses)
    (hraid : .raidType ∈ W → ∃ t, volume.getOr "RAIDType" = .ok t ∧ t.truthy = true)
    (hid : volume.field "@odata.id" ≠ .ok .null) :
    ∃ es', withDefaults (.dict es) = .ok (.dict es') ∧ (es'.map Prod.fst).Nodup ∧
      ∀ k, (∀ f ∈ W, f.key ≠ k) → lookup es' k = lookup es k := by
  have hnodup := hE.nodup hs.nodup
  -- the RAID level is set: read from the volume, or kept from the filled-in state
  obtain ⟨t, ht, htrue⟩ : ∃ t, lookup es "raid_type" = some t ∧ t.truthy = true := by
    by_cases hw : ReadBack.raidType ∈ W
    · obtain ⟨t, hrt, htrue⟩ := hraid hw
      obtain ⟨x, hx, hl⟩ := hE.read _ hw
      have hread : ReadBack.raidType.readFrom volume names = volume.getOr "RAIDType" := rfl
      rw [hread, hrt] at hx
      cases hx
      exact ⟨t, hl, htrue⟩
    · rw [hE.kept "raid_type" (by decide) fun f hf hk => hw (ReadBack.key_inj (g := .raidType) hk ▸ hf)]
      exact hs.raid
  refine ⟨_, withDefaults_dict (raidLevel_of_set ht htrue), insert_nodup (collapse_nodup _) _ _,
    fun k hk => ?_⟩
  by_cases hr : k = "raid_type"
  · subst hr
    rw [lookup_insert, if_pos rfl, ht]
  rw [lookup_filled hnodup t hr]
  cases hl : lookup es k with
  | some x =>
    -- a field there is set: the `id` the volume gave, or a field of the filled-in state
    have hx : x ≠ .null := by
      by_cases hk' : k = "id"
      · subst hk'
        obtain ⟨u, hu, hlu⟩ := hE.id
        rw [hl] at hlu
        cases hlu
        rintro rfl
        exact hid hu
      · rw [hE.kept k hk' hk] at hl
        exact hs.set _ ((lookup_eq_some_iff hs.nodup).1 hl)
    cases x with
    | null => exact absurd rfl hx
    | _ => rfl
  | none =>
    -- a field not there is not one of the defaults, which the filled-in state all has
    have hk' : k ≠ "id" := by
      rintro rfl
      obtain ⟨u, -, hlu⟩ := hE.id
      rw [hl] at hlu
      cases hlu
    rw [hE.kept k hk' hk] at hl
    cases hd : lookup defaults k with
    | none => rfl
    | some d =>
      have hthere := hs.hasDefaults (k, d) ((lookup_eq_some_iff defaults_nodup).1 hd)
      rw [hl] at hthere
      cases hthere

end Entries

/-! ## The states the verbs return -/

/-- The state `R` is a filled-in state read back from `volume`, which a GET of the events `evs`
answered, with the drives named as those events answered them. -/
def ReadBackState (c : Component) (volume R : Value) (evs : List Event) : Prop :=
  (∃ uri e, e ∈ evs ∧ c.reconciler.client.Answered uri volume e) ∧
  ∃ ses es names, FilledEntries ses ∧ R = .dict es ∧
    ReadBackEntries c.reconciler.writable ses volume names es ∧
    c.reconciler.DrivesRead volume names evs

section Read

variable (c : Component)

/-- A volume read is the body of the answer to a GET of its URI. -/
theorem Reconciler.readVolume_answered (r : Reconciler) (uri : Value) :
    (r.readVolume uri).Spec fun res evs => ∀ v, res = .ok v →
      ∃ e, e ∈ evs ∧ r.client.Answered uri v e := by
  unfold Reconciler.readVolume
  refine Act.Spec.tryCatch (r.client.get_answered uri)
    (fun f => show (_ : Act Value).Spec (fun res _ => ∀ v, res ≠ .ok v) by
      -- the handler only fails
      split
      · split <;> exact Act.spec_fail _ fun _ h => nomatch h
      · exact Act.spec_fail _ fun _ h => nomatch h)
    (fun _ _ h _ hv => ?_) fun _ _ _ _ _ hh v hv => absurd hv (hh v)
  cases hv
  obtain ⟨e', rfl, hans⟩ := h _ rfl
  exact ⟨e', List.mem_singleton_self _, hans⟩

/-- Housekeeping a read is refreshing the state. -/
theorem Component.housekeep_runOn_read {st : Station} (h : st.progress.operation = .str "read") :
    c.housekeepPhase.runOn st = c.refresh.runOn st := by
  unfold Component.housekeepPhase
  rw [Op.runOn_bind, Op.runOn_progress]
  simp only [h]
  rfl

end Read

/-! ## Reading a returned state again -/

/-- The volume reports a true RAID type, where the RAID type is written back. -/
def Reconciler.ReportsRaid (r : Reconciler) (volume : Value) : Prop :=
  .raidType ∈ r.writable → ∃ t, volume.getOr "RAIDType" = .ok t ∧ t.truthy = true

section Again

variable (c : Component) {A : Call → Except Failure Response}

/-- A volume read from a controller that answers its GET. -/
theorem Reconciler.readVolume_by (r : Reconciler) {uri v : Value}
    (hA : r.client.AnswersGet A uri v) :
    (r.readVolume uri).Spec fun res evs => AnsweredBy A evs → res = .ok v := by
  unfold Reconciler.readVolume
  exact Act.Spec.tryCatch (r.client.get_by hA)
    (fun f => show (_ : Act Value).Spec (fun _ _ => True) by
      split
      · split <;> exact Act.spec_fail _ trivial
      · exact Act.spec_fail _ trivial)
    (fun _ _ h => h) fun _ _ _ _ h _ hby => nomatch h hby.left

/-- **A refresh from a controller that answers as before reads the same volume back**: the
state's `id` is true and answered with `v`, so the volume is `v`, read back into the state. -/
theorem Component.refresh_by {D v u : Value} {ses : List (String × Value)} {names : List Value}
    (hses : D.entriesOf = .ok ses) (hid : D.getOr "id" = .ok u) (hu : u.truthy = true)
    (hA : c.reconciler.client.AnswersGet A u v) (hvid : v.field "@odata.id" = .ok u)
    (hdrives : .drives ∈ c.reconciler.writable → DrivesAnsweredBy c.reconciler.client A v names)
    (hfields : ∀ f ∈ c.reconciler.writable, ∃ x, f.readFrom v names = .ok x) :
    c.refresh.Spec fun st r st' evs => st.progress.desired = D → AnsweredBy A evs →
      r = .ok () ∧ st'.progress.found = st.progress.found ∧
      ∃ es, st'.progress.result = .dict es ∧ ReadBackEntries c.reconciler.writable ses v names es := by
  unfold Component.refresh
  refine Op.Spec.progress_bind fun pr => Op.Spec.mono (Q := fun st r st' evs => pr.desired = D →
      AnsweredBy A evs → r = .ok () ∧ st'.progress.found = st.progress.found ∧
      ∃ es, st'.progress.result = .dict es ∧ ReadBackEntries c.reconciler.writable ses v names es)
    ?_ fun _ _ _ _ h hpr hD => h (hpr ▸ hD)
  refine Op.Spec.lift_bind (fun uri huri => ?_) fun _ _ h hD _ => by
    rw [hD, hid] at h
    cases h
  -- the id read is `u`, which is true
  have huri : pr.desired = D → uri = u := fun hD => by
    rw [hD, hid] at huri
    cases huri
    rfl
  dsimp only
  split
  · rename_i hfalse
    exact Op.spec_throw _ fun _ hD _ => by
      rw [huri hD, hu] at hfalse
      cases hfalse
  refine Op.Spec.bind (Q := fun st r st' evs => uri = u → AnsweredBy A evs →
      r = .ok (some v) ∧ st'.progress = st.progress)
    (S := fun vol? st₁ r st₂ evs => vol? = some v → pr.desired = D →
      AnsweredBy A evs → r = .ok () ∧ st₂.progress.found = st₁.progress.found ∧
      ∃ es, st₂.progress.result = .dict es ∧ ReadBackEntries c.reconciler.writable ses v names es)
    ?_ (fun vol? => ?_) ?_ ?_
  · -- the GET of `u` is answered with `v`
    exact Op.Spec.tryCatch (Op.Spec.map (Op.act_spec (Act.Spec.imp
        (c.reconciler.readVolume_answered uri) fun h : uri = u => h ▸ c.reconciler.readVolume_by hA))
      (R := fun st r st' evs => uri = u → AnsweredBy A evs →
        r = .ok (some v) ∧ st'.progress = st.progress)
      (fun _ _ _ _ ⟨h, _, hp⟩ hu' hby => ⟨by cases h hu' hby; rfl, hp⟩)
      fun _ _ _ _ ⟨h, _, _⟩ hu' hby => nomatch h hu' hby)
      (fun f => show (_ : Op (Option Value)).Spec (fun _ _ _ _ => True) by
        split
        · split
          · exact Op.spec_pure _ fun _ => trivial
          · exact Op.spec_throw _ fun _ => trivial
        · exact Op.spec_throw _ fun _ => trivial)
      (fun _ _ _ _ h => h) fun _ _ _ _ _ _ _ hq _ hu' hby => nomatch (hq hu' hby.left).1
  · rcases vol? with _ | volume
    · exact Op.spec_note _ fun _ h => nomatch h
    -- the volume is `v`, read back into `D`
    refine Op.Spec.bind (Op.act_spec (Act.Spec.imp (Q := fun res evs => AnsweredBy A evs →
          ∃ es, res = .ok (.dict es) ∧ ReadBackEntries c.reconciler.writable ses v names es)
        (c.reconciler.reconcile_readBack pr.desired volume)
        fun h : pr.desired = D ∧ volume = v => ?_))
      (fun result => Op.spec_note _ (Q := fun st r st' _ => r = .ok () ∧
        st'.progress.result = result ∧ st'.progress.found = st.progress.found)
        fun _ => ⟨rfl, rfl, rfl⟩) ?_ ?_
    · obtain ⟨hD, rfl⟩ := h
      rw [hD]
      exact c.reconciler.reconcile_by hses hvid hdrives hfields
    · intro result _ _ _ _ _ _ ⟨hrec, _, hp₁⟩ ⟨hr, hres, hfound⟩ hsome hD hby
      obtain ⟨es, hes, hE⟩ := hrec ⟨hD, Option.some.inj hsome⟩ hby.left
      cases hes
      exact ⟨hr, hfound.trans (congrArg Progress.found hp₁), es, hres, hE⟩
    · intro _ _ _ _ ⟨hrec, _, _⟩ hsome hD hby
      obtain ⟨_, hes, _⟩ := hrec ⟨hD, Option.some.inj hsome⟩ hby
      cases hes
  · intro vol? _ _ _ _ _ _ hq hs hD hby
    obtain ⟨hvol, hp₁⟩ := hq (huri hD) hby.left
    cases hvol
    obtain ⟨hr, hfound, hres⟩ := hs rfl hD hby.right
    exact ⟨hr, hfound.trans (congrArg Progress.found hp₁), hres⟩
  · intro _ _ _ _ hq hD hby
    exact nomatch (hq (huri hD) hby).1

/-- **Only housekeeping runs in a read, and it must succeed**: what it must leave, the read's
phases leave. -/
theorem Component.executeRead_by {D : Value} {K : Value → Prop}
    (h : c.housekeepPhase.Spec fun st r st' evs =>
      st.progress.operation = .str "read" ∧ st.progress.desired = D → AnsweredBy A evs →
        r = .ok () ∧ st'.progress.found = st.progress.found ∧ K st'.progress.result) :
    (execute Op.touch c.phase (.list [.str "housekeep"])).Spec fun st r st' evs =>
      st.progress.operation = .str "read" ∧ st.progress.desired = D → AnsweredBy A evs →
        r = .ok () ∧ st'.progress.found = st.progress.found ∧ K st'.progress.result := by
  have hphase : (runPhase Op.touch c.phase .housekeep).Spec _ :=
    runPhase_by (P := fun w => w.operation = .str "read" ∧ w.desired = D)
      (G := AnsweredBy A) (T := fun w w' => w'.found = w.found ∧ K w'.result) .housekeep h
  rw [execute_housekeep]
  refine phases_by (P := fun w => w.operation = .str "read" ∧ w.desired = D)
    (G := AnsweredBy A) (T := fun w w' => w'.found = w.found ∧ K w'.result) [.housekeep] ?_
  rw [forM_runPhase_single]
  exact hphase

/-- **A read served the lock at once, whose housekeeping must succeed, finds the volume** and
returns what housekeeping left. -/
theorem Component.readVolume_by {state D : Value} (hD : withDefaults state = .ok D)
    {K : Value → Prop}
    (h : c.housekeepPhase.Spec fun st r st' evs =>
      st.progress.operation = .str "read" ∧ st.progress.desired = D → AnsweredBy A evs →
        r = .ok () ∧ st'.progress.found = st.progress.found ∧ K st'.progress.result) :
    (c.readVolume state).Spec fun st r _ evs => Registry.ServesAtOnce st.registry c.endpoint →
      AnsweredBy A evs → ∃ R₂, r = .ok (R₂, true) ∧ K R₂ := by
  have hP : withDefaults (if Value.null.truthy then Value.null else .dict []) = .ok _ :=
    withDefaults_dict (show raidLevel (.dict []) = .ok (.str "RAID0") from rfl)
  unfold Component.readVolume
  refine (c.run_by "read" state .null _ hD hP (G := AnsweredBy A)
    (T := fun w => w.found = true ∧ K w.result)
    ((c.executeRead_by h).mono fun st r st' evs hx hw hby => ?_)).mono
    fun _ _ _ _ h hserved hby => ?_
  · obtain ⟨hr, hfound, hgood⟩ :=
      hx ⟨congrArg Progress.operation hw, congrArg Progress.desired hw⟩ hby
    exact ⟨hr, hfound.trans (congrArg Progress.found hw), hgood⟩
  · obtain ⟨w, rfl, hfound, hgood⟩ := h hserved hby
    exact ⟨w.result, by rw [hfound], hgood⟩

end Again

/-! ## Returned states settle -/

/-- **The state `R`, returned by a run with the events `evs`, settles**: the run read a volume,
and where drives are written back read its drives with the names `names`, and reading `R` again
returns it, field for field, and finds the volume. That holds for every controller `A` that
answers the two kinds of GET the read sends as the run was answered: the GET of the volume's
`@odata.id` with the volume, and, where drives are written back, the GETs of its drives with
drives of those names; nothing is asked of its other answers. The lock must be served at once,
the volume's `@odata.id` must be true, and the volume must report a true RAID type where it is
written back. -/
def Component.Settles (c : Component) (R : Value) (evs : List Event) : Prop :=
  ∃ volume names, (∃ uri e, e ∈ evs ∧ c.reconciler.client.Answered uri volume e) ∧
    c.reconciler.DrivesRead volume names evs ∧
    ∀ (A : Call → Except Failure Response) (u : Value),
      volume.field "@odata.id" = .ok u → u.truthy = true →
      c.reconciler.client.AnswersGet A u volume →
      (.drives ∈ c.reconciler.writable → DrivesAnsweredBy c.reconciler.client A volume names) →
      c.reconciler.ReportsRaid volume →
      (c.readVolume R).Spec fun st r _ evs₂ => Registry.ServesAtOnce st.registry c.endpoint →
        AnsweredBy A evs₂ → ∃ R₂, r = .ok (R₂, true) ∧ ∀ k, R₂.field k = R.field k

/-- **A filled-in state read back from a volume settles.** Read again, it is filled in again,
which keeps what was not written back, and the same volume is read back over it. -/
theorem ReadBackState.settles {c : Component} {volume R : Value} {evs : List Event}
    (h : ReadBackState c volume R evs) : c.Settles R evs := by
  obtain ⟨hans, ses, es, names, hfilled, rfl, hE, hdrives⟩ := h
  refine ⟨volume, names, hans, hdrives, fun A u hu htrue hget hdrivesA hraid => ?_⟩
  have hnull : volume.field "@odata.id" ≠ .ok .null := by
    rw [hu]
    rintro h
    cases h
    cases htrue
  obtain ⟨es', hD, -, hkeep⟩ := hE.refill hfilled hraid hnull
  -- the `id` is the volume's `@odata.id`, which filling in keeps
  have hid : (Value.dict es').getOr "id" = .ok u := by
    obtain ⟨u', hu', hl⟩ := hE.id
    rw [hu] at hu'
    cases hu'
    simp [getOr, hkeep "id" fun f _ => f.key_ne_id, hl]
  have hrefresh := c.refresh_by (D := .dict es') rfl hid htrue hget hu hdrivesA
    fun f hf => (hE.read f hf).imp fun _ h => h.1
  refine (c.readVolume_by (A := A) (K := fun R => ∃ es, R = .dict es ∧
    ReadBackEntries c.reconciler.writable es' volume names es) hD ((Op.Spec.when c.housekeepPhase_spec
    (fun _ h => c.housekeep_runOn_read h) hrefresh).mono fun _ _ _ _ h hw => h hw.1 hw.2)).mono
    fun _ _ _ _ h hserved hby => ?_
  obtain ⟨R₂, hr, es₂, rfl, hE₂⟩ := h hserved hby
  refine ⟨_, hr, fun k => field_dict_congr (hE.lookup_eq hE₂ (fun k hk hw => ?_) k)⟩
  rw [hkeep k hw, hE.kept k hk hw]

end VolumeLifecycle.Lifecycle
