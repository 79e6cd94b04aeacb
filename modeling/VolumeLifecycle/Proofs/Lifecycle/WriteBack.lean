import VolumeLifecycle.Proofs.Lifecycle.ReadBack
import VolumeLifecycle.Proofs.Redfish.Answers
/-!
# VolumeLifecycle.Proofs.Lifecycle.WriteBack

**What reconciling writes, and reconciling twice.** Reconciling a state with a volume writes
the `id` and every writable field, and nothing else: every other key of the state keeps its
entry, and the result has no key the state, the `id` or a writable field does not give it
(`ReadBackEntries.isSome_lookup_iff`).

Writing a value into entries that already hold it under every entry of its key changes nothing
(`Value.insert_of_holds`). After a reconcile, every entry of the `id` and of each writable field
holds the value written (`SettledEntries`, an invariant of the fold over the writable fields),
so reconciling the result again with the same volume, the drives answering as before, returns
it entry for entry (`Reconciler.reconcile_writes_back`).

Both runs are instances of `Reconciler.reconcile_inv`: the first carries `ReadBackEntries` and
`SettledEntries` together, the second the entries it started from.
-/

namespace VolumeLifecycle.Value

variable {α : Type}

/-! ## Entries that already hold a value -/

theorem mem_insert_self (es : List (String × α)) (k : String) (x : α) : (k, x) ∈ insert es k x := by
  unfold Value.insert
  split
  · rename_i hk
    obtain ⟨e, he, hek⟩ := List.any_eq_true.mp hk
    exact List.mem_map.mpr ⟨e, he, by simp [beq_iff_eq.mp hek]⟩
  · simp

theorem mem_insert_of_ne {es : List (String × α)} {k : String} {x : α} {e : String × α}
    (he : e ∈ es) (hk : e.1 ≠ k) : e ∈ insert es k x := by
  unfold Value.insert
  split
  · exact List.mem_map.mpr ⟨e, he, by simp [hk]⟩
  · exact List.mem_append_left _ he

/-- After storing `x` under `k`, every entry of `k` holds `x`. -/
theorem mem_insert_key {es : List (String × α)} {k : String} {x : α} {e : String × α}
    (he : e ∈ insert es k x) (hk : e.1 = k) : e = (k, x) := by
  unfold Value.insert at he
  split at he
  · obtain ⟨e', -, rfl⟩ := List.mem_map.mp he
    by_cases hk' : e'.1 = k
    · simp [hk']
    · simp [hk'] at hk
  · rename_i hnone
    rcases List.mem_append.mp he with he | he
    · exact absurd (List.any_eq_true.mpr ⟨e, he, by simp [hk]⟩) hnone
    · simpa using he

/-- `k` is there, and every entry of `k` holds `x`. -/
def HoldsUnder (es : List (String × α)) (k : String) (x : α) : Prop :=
  (k, x) ∈ es ∧ ∀ e ∈ es, e.1 = k → e.2 = x

theorem holds_insert (es : List (String × α)) (k : String) (x : α) :
    HoldsUnder (insert es k x) k x :=
  ⟨mem_insert_self es k x, fun _ he hk => by rw [mem_insert_key he hk]⟩

theorem holds_insert_of_ne {es : List (String × α)} {k k' : String} {x x' : α} (hne : k' ≠ k)
    (h : HoldsUnder es k' x') : HoldsUnder (insert es k x) k' x' := by
  refine ⟨mem_insert_of_ne h.1 hne, fun e he hk' => ?_⟩
  rcases mem_insert he with he | rfl
  · exact h.2 e he hk'
  · exact absurd hk' (Ne.symm hne)

/-- **Storing a value that every entry of its key already holds changes nothing.** -/
theorem insert_of_holds {es : List (String × α)} {k : String} {x : α} (h : HoldsUnder es k x) :
    insert es k x = es := by
  unfold Value.insert
  rw [if_pos (List.any_eq_true.mpr ⟨_, h.1, by simp⟩)]
  conv => rhs; rw [← List.map_id es]
  refine List.map_congr_left fun e he => ?_
  by_cases hk : e.1 = k
  · obtain ⟨k', x'⟩ := e
    obtain rfl : k' = k := hk
    obtain rfl : x' = x := h.2 _ he rfl
    simp
  · simp [hk]

end VolumeLifecycle.Value

namespace VolumeLifecycle.Lifecycle

open VolumeLifecycle.Redfish VolumeLifecycle.Value

/-! ## The keys of a state read back -/

/-- **Reading back adds no key but the `id` and the fields read**, and loses none. -/
theorem ReadBackEntries.isSome_lookup_iff {done : List ReadBack} {ses es : List (String × Value)}
    {volume : Value} {names : List Value} (h : ReadBackEntries done ses volume names es)
    (k : String) :
    (lookup es k).isSome ↔ k = "id" ∨ (∃ f ∈ done, f.key = k) ∨ (lookup ses k).isSome := by
  by_cases hid : k = "id"
  · obtain ⟨u, -, hu⟩ := h.id
    simp [hid, hu]
  by_cases hf : ∃ f ∈ done, f.key = k
  · obtain ⟨f, hf, rfl⟩ := hf
    obtain ⟨x, -, hx⟩ := h.read f hf
    simp only [hx, Option.isSome_some, true_iff]
    exact .inr (.inl ⟨f, hf, rfl⟩)
  · rw [h.kept k hid fun f hf' hk => hf ⟨f, hf', hk⟩]
    simp [hid, hf]

/-! ## Entries written back to themselves -/

/-- The entries hold the `id` `u` and each field of `done` read back from `volume` (its drives
named `names`), under every entry of their keys. -/
structure SettledEntries (done : List ReadBack) (volume : Value) (names : List Value) (u : Value)
    (es : List (String × Value)) : Prop where
  id : HoldsUnder es "id" u
  read : ∀ f ∈ done, ∃ x, f.readFrom volume names = .ok x ∧ HoldsUnder es f.key x

namespace SettledEntries

variable {done : List ReadBack} {volume u : Value} {names : List Value} {es : List (String × Value)}

theorem start (ses : List (String × Value)) : SettledEntries [] volume names u (insert ses "id" u) where
  id := holds_insert ses "id" u
  read := nofun

theorem insert (h : SettledEntries done volume names u es) {f : ReadBack} {x : Value}
    (hx : f.readFrom volume names = .ok x) :
    SettledEntries (done ++ [f]) volume names u (insert es f.key x) where
  id := holds_insert_of_ne (f.key_ne_id).symm h.id
  read g hg := by
    by_cases hkey : g.key = f.key
    · cases ReadBack.key_inj hkey
      exact ⟨x, hx, holds_insert es f.key x⟩
    · have hg : g ∈ done :=
        (List.mem_append.mp hg).resolve_right fun h => hkey (by rw [List.mem_singleton.mp h])
      obtain ⟨y, hy, hholds⟩ := h.read g hg
      exact ⟨y, hy, holds_insert_of_ne hkey hholds⟩

/-- A field already settled is written back to the entries it settled. -/
theorem insert_self (h : SettledEntries done volume names u es) {f : ReadBack} {x : Value}
    (hf : f ∈ done) (hx : f.readFrom volume names = .ok x) : Value.insert es f.key x = es := by
  obtain ⟨y, hy, hholds⟩ := h.read f hf
  obtain rfl : x = y := Except.ok.inj (hx.symm.trans hy)
  exact insert_of_holds hholds

end SettledEntries

/-! ## Reconciling twice -/

section WriteBack

variable (r : Reconciler)

/-- Every writable field can be read once each property but the drives can. -/
theorem Reconciler.readFrom_ok {volume : Value} (names : List Value)
    (hfields : ∀ f ∈ r.writable, f ≠ .drives → ∃ x, f.property volume = .ok x) :
    ∀ f ∈ r.writable, ∃ x, f.readFrom volume names = .ok x := by
  intro f hf
  by_cases hd : f = .drives
  · exact ⟨.list names, by simp [ReadBack.readFrom, hd]⟩
  · obtain ⟨x, hx⟩ := hfields f hf hd
    exact ⟨x, by rw [ReadBack.readFrom, if_neg hd, hx]⟩

theorem Reconciler.mem_writable {f : ReadBack} :
    f ∈ r.writable ↔ f ∈ r.fields ∧ r.preserved.any (same (.str f.key)) = false := by
  simp [Reconciler.writable]

/-- **What reconciling writes, and reconciling twice.** With the volume's `@odata.id` `u`, every
property read without failing, and the drives answered with the names `names`: the result has
the `id` `u`, each field allowed and not preserved as the volume reports it, the drives under
their names, and every other key of the state as the state has it, and no other key. Reconciling
the result again with the same volume, the drives answering as before, returns it unchanged. -/
theorem Reconciler.reconcile_writes_back {A : Call → Except Failure Response}
    {state volume u : Value} {ses : List (String × Value)} {names : List Value}
    (hses : state.entriesOf = .ok ses) (hu : volume.field "@odata.id" = .ok u)
    (hdrives : .drives ∈ r.writable → DrivesAnsweredBy r.client A volume names)
    (hfields : ∀ f ∈ r.writable, f ≠ .drives → ∃ x, f.property volume = .ok x) :
    (r.reconcile state volume).Spec fun res evs => AnsweredBy A evs →
      ∃ es, res = .ok (.dict es) ∧ lookup es "id" = some u ∧
        (∀ f ∈ r.fields, r.preserved.any (same (.str f.key)) = false → f ≠ .drives →
          ∃ x, f.property volume = .ok x ∧ lookup es f.key = some x) ∧
        (.drives ∈ r.writable → lookup es "drives" = some (.list names)) ∧
        (∀ k, k ≠ "id" → (∀ f ∈ r.writable, f.key ≠ k) → lookup es k = lookup ses k) ∧
        (∀ k, (lookup es k).isSome ↔
          k = "id" ∨ (∃ f ∈ r.writable, f.key = k) ∨ (lookup ses k).isSome) ∧
        (r.reconcile (.dict es) volume).Spec fun res' evs' =>
          AnsweredBy A evs' → res' = .ok (.dict es) := by
  have hread := r.readFrom_ok names hfields
  refine (r.reconcile_inv
    (fun done es => ReadBackEntries done ses volume names es ∧ SettledEntries done volume names u es)
    hses hu hdrives hread ⟨ReadBackEntries.start hu, SettledEntries.start ses⟩
    fun _ _ _ _ _ hx hE => ⟨hE.1.insert hx fun _ => rfl, hE.2.insert hx⟩).mono ?_
  rintro res evs hres hby
  obtain ⟨es, rfl, hE, hS⟩ := hres hby
  refine ⟨es, rfl, ?_, fun f hf hkeep hd => ?_, fun hd => ?_, hE.kept, hE.isSome_lookup_iff,
    ?_⟩
  · obtain ⟨u', hu', hid⟩ := hE.id
    rw [hid, ← Except.ok.inj (hu'.symm.trans hu)]
  · obtain ⟨x, hx, hlook⟩ := hE.read f ((r.mem_writable).mpr ⟨hf, hkeep⟩)
    rw [ReadBack.readFrom, if_neg hd] at hx
    exact ⟨x, hx, hlook⟩
  · obtain ⟨x, hx, hlook⟩ := hE.read .drives hd
    simp only [ReadBack.readFrom, if_true, Except.ok.injEq] at hx
    subst hx
    exact hlook
  · -- the `id` and every writable field already hold what they would be written
    have hentries : (Value.dict es).entriesOf = .ok es := rfl
    refine (r.reconcile_inv (fun _ es' => es' = es) hentries hu hdrives hread
      (insert_of_holds hS.id) fun _ es' f x hf hx heq => ?_).mono fun res' evs' h hby' => ?_
    · rw [heq]
      exact hS.insert_self hf hx
    · obtain ⟨_, rfl, rfl⟩ := h hby'
      rfl

/-- The default fields written back from a volume with one drive linked, which the controller
names `Disk 0`, into a state with one key of its own. -/
theorem Reconciler.reconcile_writes_back_linked_drive :
    let r : Reconciler :=
      { client := { baseUrl := "https://192.168.2.230", auth := none, verify := .bool false,
                    timeout := .int 30, headers := [] },
        fields := ReadBack.defaults, preserved := [] }
    let volume : Value := .dict [("@odata.id", .str "/redfish/v1/Systems/1/Storage/1/Volumes/0"),
      ("Name", .str "data"), ("Links", .dict [("Drives",
        .list [.dict [("@odata.id", .str "/redfish/v1/Systems/1/Storage/1/Drives/0")]])])]
    let A : Call → Except Failure Response :=
      fun _ => .ok { status := 200, headers := [], text := "\x7b\"Name\": \"Disk 0\"\x7d" }
    DrivesAnsweredBy r.client A volume [.str "Disk 0"] ∧
      (r.reconcile (.dict [("owner", .str "ops")]) volume).Spec fun res evs => AnsweredBy A evs →
        ∃ es, res = .ok (.dict es) ∧ lookup es "drives" = some (.list [.str "Disk 0"]) ∧
          lookup es "owner" = some (.str "ops") ∧
          (r.reconcile (.dict es) volume).Spec fun res' evs' =>
            AnsweredBy A evs' → res' = .ok (.dict es) := by
  intro r volume A
  have hjson : ({ status := 200, headers := [], text := "\x7b\"Name\": \"Disk 0\"\x7d" } :
      Response).json = .ok (.dict [("Name", .str "Disk 0")]) := by
    with_unfolding_all rfl
  have hdrives : DrivesAnsweredBy r.client A volume [.str "Disk 0"] :=
    (Client.target_str _ _).elim fun _ hpath =>
      ⟨_, rfl, .read rfl rfl hpath rfl rfl hjson rfl .nil⟩
  refine ⟨hdrives, (r.reconcile_writes_back rfl rfl (fun _ => hdrives)
    fun f _ _ => by cases f <;> exact ⟨_, rfl⟩).mono fun res evs h hby => ?_⟩
  obtain ⟨es, hres, -, -, hd, hkept, -, hagain⟩ := h hby
  exact ⟨es, hres, hd (by decide), by rw [hkept "owner" (by decide) (by decide)]; rfl, hagain⟩

end WriteBack

end VolumeLifecycle.Lifecycle
