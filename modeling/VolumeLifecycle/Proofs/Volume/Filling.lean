import VolumeLifecycle.Proofs.Volume.Defaults
/-!
# VolumeLifecycle.Proofs.Volume.Filling

**Filling in a state once is enough.** A state is a mapping, so its keys are distinct. Filling
it in (`withDefaults`) gives the mapping whose keys are those of the defaults and those the
state sets to something other than `null`: a set field keeps the state's value, every other
field takes its default, and the RAID level is the one the state names (`namedLevel`): a true
`raid_type`, else the level of the deprecated `volume_type`, else `RAID0`. The state is a value,
so filling it in leaves it as it was.

A filled-in state fills in to itself, up to the order of its entries
(`FilledEntries.refill`): every field is set, every default is there, and the RAID level is
true, so it is kept. The three requests fill in the state they are given and then only read
fields of the filled-in state, which depend on a mapping through its lookups alone
(`CreateRequest.ofState_congr` and its two siblings); so a state and its filled-in form give
the same requests (`withDefaults_idempotent`).

The level of the `volume_type` is looked up only when `raid_type` is not true, and only a
hashable type can be looked up: with a `volume_type` that is a non-empty list or mapping, such
a state is refused.
-/

namespace VolumeLifecycle.Value

/-- A value read with a fallback depends on a mapping only through the lookup of its key. -/
theorem getOr_dict_congr {es es' : List (String × Value)} {k : String}
    (h : lookup es k = lookup es' k) (fallback : Value) :
    (Value.dict es).getOr k fallback = (Value.dict es').getOr k fallback := by
  simp only [getOr, h]

/-- A field that a mapping holds is read as it is. -/
theorem field_dict_of_lookup {es : List (String × Value)} {k : String} {v : Value}
    (h : lookup es k = some v) : (Value.dict es).field k = .ok v := by
  simp only [field, h]

end VolumeLifecycle.Value

namespace VolumeLifecycle.Volume

open VolumeLifecycle.Value

/-! ## The RAID level a state names -/

/-- The level a volume type stands for: a named type's level, `RAID0` for any other value. -/
def typeLevel (kind : Option Value) : Value :=
  .str (((match kind with
    | some (.str s) => lookup legacyLevels s
    | _ => none)).getD "RAID0")

/-- The RAID level a mapping names: its `raid_type` when that is true, else the level its
deprecated `volume_type` stands for. -/
def namedLevel (es : List (String × Value)) : Value :=
  match lookup es "raid_type" with
  | some t => if t.truthy then t else typeLevel (lookup es "volume_type")
  | none => typeLevel (lookup es "volume_type")

theorem legacyLevels_no_empty : lookup legacyLevels "" = none := by
  decide

/-- A hashable volume type, false ones read as the empty name, is looked up in the table. -/
theorem legacyLevel_hashable {v : Value} (hv : v.hashable = true) :
    legacyLevel (if v.truthy then v else .str "") = .ok (typeLevel (some v)) := by
  by_cases ht : v.truthy = true
  · rw [if_pos ht]
    cases v with
    | list _ | set _ | dict _ => cases hv
    | str s => rfl
    | _ => rfl
  · rw [if_neg ht]
    -- a false volume type is no name of the table
    show Except.ok (Value.str ((lookup legacyLevels "").getD "RAID0")) = _
    rw [legacyLevels_no_empty]
    cases v with
    | str s =>
      have hs : s = "" := by simpa [Value.truthy] using ht
      subst hs
      simp only [typeLevel, legacyLevels_no_empty]
    | _ => rfl

/-- **The RAID level of a mapping is the one it names**, when its volume type is hashable. -/
theorem raidLevel_dict {es : List (String × Value)}
    (hkind : (lookup es "volume_type").all Value.hashable = true) :
    raidLevel (.dict es) = .ok (namedLevel es) := by
  -- the level of the volume type, read with `null` for a missing one
  have htype : legacyLevel (if ((lookup es "volume_type").getD .null).truthy then
      (lookup es "volume_type").getD .null else .str "") =
        .ok (typeLevel (lookup es "volume_type")) := by
    cases hk : lookup es "volume_type" with
    | none => exact legacyLevel_hashable (v := .null) rfl
    | some v =>
      rw [hk] at hkind
      exact legacyLevel_hashable hkind
  unfold raidLevel namedLevel
  simp only [getOr, bind, Except.bind]
  cases lookup es "raid_type" with
  | none => exact htype
  | some t =>
    by_cases ht : t.truthy = true
    · simp only [Option.getD_some, if_pos ht]
      rfl
    · simp only [Option.getD_some, if_neg ht]
      exact htype

/-! ## The filled-in mapping -/

section Filled

variable {es D : List (String × Value)}

/-- A filled-in mapping holds the RAID level worked out for the mapping. -/
theorem withDefaults_raid (hD : withDefaults (.dict es) = .ok (.dict D)) :
    ∃ level, raidLevel (.dict es) = .ok level ∧ lookup D "raid_type" = some level := by
  obtain ⟨es', level, hes, hlevel, hDe⟩ := withDefaults_ok hD
  cases hes
  cases hDe
  exact ⟨level, hlevel, by simp⟩

/-- **The keys of a filled-in mapping** are the defaults' and those the mapping sets. -/
theorem withDefaults_keys (h : (es.map Prod.fst).Nodup)
    (hD : withDefaults (.dict es) = .ok (.dict D)) (k : String) :
    k ∈ D.map Prod.fst ↔ k ∈ defaults.map Prod.fst ∨ ∃ v, lookup es k = some v ∧ v ≠ .null := by
  obtain ⟨es', level, hes, -, hDe⟩ := withDefaults_ok hD
  cases hes
  cases hDe
  rw [← isSome_lookup_iff, ← isSome_lookup_iff]
  by_cases hr : k = "raid_type"
  · subst hr
    rw [lookup_insert, if_pos rfl]
    exact iff_of_true rfl (.inl rfl)
  rw [lookup_filled h level hr]
  cases hl : lookup es k with
  | none => simp
  | some v =>
    cases v with
    | null => simp
    | _ => simp

/-- A field a mapping sets keeps its value when the mapping is filled in. -/
theorem withDefaults_set_field (h : (es.map Prod.fst).Nodup)
    (hD : withDefaults (.dict es) = .ok (.dict D)) {k : String} (hk : k ≠ "raid_type") {v : Value}
    (hv : lookup es k = some v) (hnull : v ≠ .null) : lookup D k = some v := by
  obtain ⟨es', level, hes, -, hDe⟩ := withDefaults_ok hD
  cases hes
  cases hDe
  rw [lookup_filled h level hk, hv]
  cases v with
  | null => exact absurd rfl hnull
  | _ => rfl

/-- A field a mapping leaves unset, or sets to `null`, takes its default. -/
theorem withDefaults_unset_field (h : (es.map Prod.fst).Nodup)
    (hD : withDefaults (.dict es) = .ok (.dict D)) {k : String} (hk : k ≠ "raid_type")
    (hunset : ∀ v, lookup es k = some v → v = .null) : lookup D k = lookup defaults k := by
  obtain ⟨es', level, hes, -, hDe⟩ := withDefaults_ok hD
  cases hes
  cases hDe
  rw [lookup_filled h level hk]
  cases hl : lookup es k with
  | none => rfl
  | some v =>
    cases hunset v hl
    rfl

end Filled

/-- **A filled-in mapping fills in to itself**, up to the order of its entries: every field is
kept, the RAID level among them. -/
theorem FilledEntries.refill {es : List (String × Value)} (h : FilledEntries es) :
    ∃ es', withDefaults (.dict es) = .ok (.dict es') ∧ (es'.map Prod.fst).Nodup ∧
      ∀ k, lookup es' k = lookup es k := by
  obtain ⟨t, ht, htrue⟩ := h.raid
  refine ⟨_, withDefaults_dict (raidLevel_of_set ht htrue), insert_nodup (collapse_nodup _) _ _,
    fun k => ?_⟩
  by_cases hr : k = "raid_type"
  · subst hr
    rw [lookup_insert, if_pos rfl, ht]
  rw [lookup_filled h.nodup t hr]
  cases hl : lookup es k with
  | some x =>
    -- every field there is set, and so kept
    have hx : x ≠ .null := h.set _ ((lookup_eq_some_iff h.nodup).1 hl)
    cases x with
    | null => exact absurd rfl hx
    | _ => rfl
  | none =>
    -- a field not there is no default, since every default is there
    cases hd : lookup defaults k with
    | none => rfl
    | some d =>
      have hthere := h.hasDefaults (k, d) ((lookup_eq_some_iff defaults_nodup).1 hd)
      rw [hl] at hthere
      cases hthere

/-! ## Requests read the filled-in mapping through its lookups -/

section Congr

variable {s s' : Value} {D D' : List (String × Value)}

theorem raidLevel_dict_congr (h : ∀ k, lookup D k = lookup D' k) :
    raidLevel (.dict D) = raidLevel (.dict D') := by
  unfold raidLevel
  simp only [getOr_dict_congr (h _)]

theorem sizeField_dict_congr (h : ∀ k, lookup D k = lookup D' k) (key : String) :
    sizeField (.dict D) key = sizeField (.dict D') key := by
  unfold sizeField
  simp only [getOr_dict_congr (h _)]

/-- States that fill in to mappings with the same lookups give the same create request. -/
theorem CreateRequest.ofState_congr (hD : withDefaults s = .ok (.dict D))
    (hD' : withDefaults s' = .ok (.dict D')) (h : ∀ k, lookup D k = lookup D' k) (drives : Value) :
    CreateRequest.ofState s drives = CreateRequest.ofState s' drives := by
  unfold CreateRequest.ofState
  rw [hD, hD']
  simp only [bind, Except.bind, field_dict_congr (h _), raidLevel_dict_congr h,
    sizeField_dict_congr h]

/-- States that fill in to mappings with the same lookups give the same update request. -/
theorem UpdateRequest.ofState_congr (hD : withDefaults s = .ok (.dict D))
    (hD' : withDefaults s' = .ok (.dict D')) (h : ∀ k, lookup D k = lookup D' k)
    (volumeUri : Value) :
    UpdateRequest.ofState s volumeUri = UpdateRequest.ofState s' volumeUri := by
  unfold UpdateRequest.ofState
  rw [hD, hD']
  simp only [bind, Except.bind, field_dict_congr (h _)]

/-- States that fill in to mappings with the same lookups give the same delete request. -/
theorem DeleteRequest.ofState_congr (hD : withDefaults s = .ok (.dict D))
    (hD' : withDefaults s' = .ok (.dict D')) (h : ∀ k, lookup D k = lookup D' k) :
    DeleteRequest.ofState s = DeleteRequest.ofState s' := by
  unfold DeleteRequest.ofState
  rw [hD, hD']
  simp only [bind, Except.bind, field_dict_congr (h _)]

end Congr

/-! ## Filling in once -/

/-- **Filling in a state, and filling it in again.** For a mapping `es` with a hashable
`volume_type`, the filled-in mapping `D` has the keys of the defaults and those `es` sets to
something other than `null`; every field but the RAID level is the one `es` sets, or else the
default; the RAID level is the one `es` names. Filling `D` in again gives `D` up to order, with
the same RAID level, and the create, update and delete requests of `D` are those of `es`. -/
theorem withDefaults_idempotent (es : List (String × Value)) (hnodup : (es.map Prod.fst).Nodup)
    (hkind : (lookup es "volume_type").all Value.hashable = true) :
    ∃ D, withDefaults (.dict es) = .ok (.dict D) ∧ (D.map Prod.fst).Nodup ∧
      (∀ k, k ∈ D.map Prod.fst ↔
        k ∈ defaults.map Prod.fst ∨ ∃ v, lookup es k = some v ∧ v ≠ .null) ∧
      (∀ k, k ≠ "raid_type" → ∀ v, lookup es k = some v → v ≠ .null → lookup D k = some v) ∧
      (∀ k, k ≠ "raid_type" → (∀ v, lookup es k = some v → v = .null) →
        lookup D k = lookup defaults k) ∧
      raidLevel (.dict es) = .ok (namedLevel es) ∧ lookup D "raid_type" = some (namedLevel es) ∧
      (∃ D', withDefaults (.dict D) = .ok (.dict D') ∧ D'.Perm D) ∧
      raidLevel (.dict D) = raidLevel (.dict es) ∧
      (∀ drives, CreateRequest.ofState (.dict D) drives = CreateRequest.ofState (.dict es) drives) ∧
      (∀ volumeUri,
        UpdateRequest.ofState (.dict D) volumeUri = UpdateRequest.ofState (.dict es) volumeUri) ∧
      DeleteRequest.ofState (.dict D) = DeleteRequest.ofState (.dict es) := by
  have hlevel := raidLevel_dict hkind
  obtain ⟨D, hD⟩ : ∃ D, withDefaults (.dict es) = .ok (.dict D) :=
    ⟨_, withDefaults_dict hlevel⟩
  obtain ⟨D₀, hD₀, hF⟩ := withDefaults_filled hD
  cases hD₀
  obtain ⟨level, hlevel', hraid⟩ := withDefaults_raid hD
  rw [hlevel] at hlevel'
  cases hlevel'
  -- filling in again keeps every lookup, the RAID level among them
  obtain ⟨D', hD', hnodup', hsame⟩ := hF.refill
  have hlevelD : raidLevel (.dict D) = .ok (namedLevel es) :=
    raidLevel_of_set hraid (raidLevel_truthy hlevel)
  refine ⟨D, hD, hF.nodup, withDefaults_keys hnodup hD,
    fun k hk v hv hnull => withDefaults_set_field hnodup hD hk hv hnull,
    fun k hk hunset => withDefaults_unset_field hnodup hD hk hunset, hlevel, hraid,
    ⟨D', hD', perm_of_lookup_eq hnodup' hF.nodup hsame⟩, hlevelD.trans hlevel.symm,
    fun drives => ?_, fun volumeUri => ?_, ?_⟩
  · exact CreateRequest.ofState_congr hD' hD hsame drives
  · exact UpdateRequest.ofState_congr hD' hD hsame volumeUri
  · exact DeleteRequest.ofState_congr hD' hD hsame

/-- A state that sets a deprecated volume type, a name and nothing for encryption. -/
theorem withDefaults_idempotent_mirrored :
    let es : List (String × Value) :=
      [("volume_name", .str "data"), ("volume_type", .str "Mirrored"), ("encrypted", .null)]
    ((es.map Prod.fst).Nodup ∧ (lookup es "volume_type").all Value.hashable = true) ∧
      ∃ D, withDefaults (.dict es) = .ok (.dict D) ∧ (D.map Prod.fst).Nodup ∧
        (∀ k, k ∈ D.map Prod.fst ↔
          k ∈ defaults.map Prod.fst ∨ ∃ v, lookup es k = some v ∧ v ≠ .null) ∧
        (∀ k, k ≠ "raid_type" → ∀ v, lookup es k = some v → v ≠ .null → lookup D k = some v) ∧
        (∀ k, k ≠ "raid_type" → (∀ v, lookup es k = some v → v = .null) →
          lookup D k = lookup defaults k) ∧
        raidLevel (.dict es) = .ok (namedLevel es) ∧ lookup D "raid_type" = some (namedLevel es) ∧
        (∃ D', withDefaults (.dict D) = .ok (.dict D') ∧ D'.Perm D) ∧
        raidLevel (.dict D) = raidLevel (.dict es) ∧
        (∀ drives,
          CreateRequest.ofState (.dict D) drives = CreateRequest.ofState (.dict es) drives) ∧
        (∀ volumeUri,
          UpdateRequest.ofState (.dict D) volumeUri = UpdateRequest.ofState (.dict es) volumeUri) ∧
        DeleteRequest.ofState (.dict D) = DeleteRequest.ofState (.dict es) :=
  ⟨⟨by decide, rfl⟩, withDefaults_idempotent _ (by decide) rfl⟩

example : namedLevel [("volume_type", .str "Mirrored")] = .str "RAID1" := rfl

end VolumeLifecycle.Volume
