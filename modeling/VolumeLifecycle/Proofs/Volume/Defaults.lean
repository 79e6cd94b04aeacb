import VolumeLifecycle.Proofs.Document.Faults
import VolumeLifecycle.Proofs.Document.Entries
import VolumeLifecycle.Volume.Request
/-!
# VolumeLifecycle.Proofs.Volume.Defaults

**Filling in a state and building a request from it fail only with faults.** The defaults,
the RAID level and the three requests read fields of the state and nothing else, so none of
them raises a lifecycle error: whatever refuses a request does so before or after it is
built, never while.

**A filled-in state fills in to itself**, up to its RAID level, which is worked out again
(`withDefaults_field_of_filled`). The requests fill in the state they are given, and the
component gives them a state it has filled in already, so the apply time a request carries
is the filled-in state's own (`CreateRequest.ofState_applyTime` and its two siblings), and the
payloads of a create and an update carry it (a delete sends no payload).
-/

namespace VolumeLifecycle.Value

/-- A field of a mapping is read off the lookup of its key. -/
theorem field_dict_congr {es es' : List (String × Value)} {k : String}
    (h : lookup es k = lookup es' k) : (Value.dict es).field k = (Value.dict es').field k := by
  unfold field
  dsimp only
  rw [h]

end VolumeLifecycle.Value

namespace VolumeLifecycle.Volume

open VolumeLifecycle.Value

theorem legacyLevel_plain (key : Value) : Plain (legacyLevel key) := by
  intro f h
  unfold legacyLevel at h
  split at h
  · cases h
    rfl
  · split at h <;> cases h

theorem raidLevel_plain (state : Value) : Plain (raidLevel state) := by
  unfold raidLevel
  refine (getOr_plain _ _ _).bind fun level => ?_
  split
  · exact plain_ok _
  · exact (getOr_plain _ _ _).bind fun _ => legacyLevel_plain _

theorem withDefaults_plain (state : Value) : Plain (withDefaults state) := by
  unfold withDefaults
  dsimp only
  split
  · exact (plain_ok _).bind fun _ => (raidLevel_plain _).bind fun _ => plain_ok _
  · exact plain_error.2 rfl

theorem sizeField_plain (state : Value) (key : String) : Plain (sizeField state key) :=
  (getOr_plain _ _ _).bind fun _ => wholeOf_plain _

theorem CreateRequest.ofState_plain (state drives : Value) :
    Plain (CreateRequest.ofState state drives) := by
  unfold CreateRequest.ofState
  refine (withDefaults_plain state).bind fun state => ?_
  refine (field_plain _ _).bind fun _ => (raidLevel_plain _).bind fun _ => ?_
  refine (field_plain _ _).bind fun _ => (field_plain _ _).bind fun _ => ?_
  refine (field_plain _ _).bind fun _ => (sizeField_plain _ _).bind fun _ => ?_
  refine (sizeField_plain _ _).bind fun _ => (field_plain _ _).bind fun _ => ?_
  exact (field_plain _ _).bind fun _ => (members_plain _).bind fun _ => plain_ok _

theorem UpdateRequest.ofState_plain (state volumeUri : Value) :
    Plain (UpdateRequest.ofState state volumeUri) := by
  unfold UpdateRequest.ofState
  refine (withDefaults_plain state).bind fun state => ?_
  refine (field_plain _ _).bind fun _ => (field_plain _ _).bind fun _ => ?_
  refine (field_plain _ _).bind fun _ => (field_plain _ _).bind fun _ => ?_
  exact (field_plain _ _).bind fun _ => (field_plain _ _).bind fun _ => plain_ok _

theorem DeleteRequest.ofState_plain (state : Value) : Plain (DeleteRequest.ofState state) := by
  unfold DeleteRequest.ofState
  refine (withDefaults_plain state).bind fun state => ?_
  exact (field_plain _ _).bind fun _ => (field_plain _ _).bind fun _ => plain_ok _

/-! ## A filled-in state fills in to itself -/

/-- Filling in a state writes the fields it sets over the defaults and sets the RAID level of
the state. -/
theorem withDefaults_ok {state D : Value} (h : withDefaults state = .ok D) :
    ∃ es level, state = .dict es ∧ raidLevel state = .ok level ∧
      D = .dict (insert (update defaults (es.filter fun e => !(e.2 matches .null)))
        "raid_type" level) := by
  unfold withDefaults at h
  cases state with
  | dict es =>
    obtain ⟨_, hes, h⟩ := exists_of_bind_eq_ok h
    cases hes
    obtain ⟨level, hlevel, h⟩ := exists_of_bind_eq_ok h
    cases h
    exact ⟨es, level, rfl, hlevel, rfl⟩
  | _ => cases h

theorem legacyLevel_ne_null {key level : Value} (h : legacyLevel key = .ok level) :
    level ≠ .null := by
  unfold legacyLevel at h
  split at h
  · cases h
  · split at h <;> (cases h; nofun)

/-- A RAID level is set: a true `raid_type`, or the text of a level. -/
theorem raidLevel_ne_null {state level : Value} (h : raidLevel state = .ok level) :
    level ≠ .null := by
  unfold raidLevel at h
  obtain ⟨l, -, h⟩ := exists_of_bind_eq_ok h
  split at h
  · rename_i ht
    cases h
    rintro rfl
    cases ht
  · obtain ⟨kind, -, h⟩ := exists_of_bind_eq_ok h
    exact legacyLevel_ne_null h

theorem defaults_set : ∀ e ∈ defaults, (!(e.2 matches .null)) = true := by
  decide

/-- No field of a filled-in state is `null`. -/
theorem withDefaults_set {es : List (String × Value)} {level : Value} (hlevel : level ≠ .null) :
    ∀ e ∈ insert (update defaults (es.filter fun e => !(e.2 matches .null))) "raid_type" level,
      (!(e.2 matches .null)) = true := by
  intro e m
  rcases mem_insert m with m | rfl
  · -- a collapsed entry has the value of a default or of a set field
    obtain ⟨-, -, b, hb, rfl⟩ := mem_collapseBy id _ m
    rcases List.mem_append.1 hb with hb | hb
    · exact defaults_set b hb
    · exact (List.mem_filter.1 hb).2
  · cases level with
    | null => exact absurd rfl hlevel
    | _ => rfl

/-- **Filling in a filled-in state keeps every field but the RAID level.** The fields it sets
are all set, so they are written over the defaults again, each with the value it has. -/
theorem withDefaults_field_of_filled {state D D' : Value} (h : withDefaults state = .ok D)
    (h' : withDefaults D = .ok D') {k : String} (hk : k ≠ "raid_type") :
    D'.field k = D.field k := by
  obtain ⟨es, level, -, hlevel, rfl⟩ := withDefaults_ok h
  obtain ⟨E, level', hE, -, rfl⟩ := withDefaults_ok h'
  cases hE
  rw [List.filter_eq_self.2 (withDefaults_set (raidLevel_ne_null hlevel))]
  apply field_dict_congr
  have hnodup : ((insert (update defaults (es.filter fun e => !(e.2 matches .null)))
      "raid_type" level).map Prod.fst).Nodup :=
    insert_nodup (collapse_nodup _) _ _
  -- both lookups are the set field's last value, or else the default
  rw [lookup_insert, if_neg hk, lookup_update, lookup_reverse hnodup, lookup_insert, if_neg hk,
    lookup_update, Option.or_assoc, Option.or_self]

/-! ## Filling in again -/

theorem defaults_nodup : (defaults.map Prod.fst).Nodup := by
  decide

theorem legacyLevel_truthy {key level : Value} (h : legacyLevel key = .ok level) :
    level.truthy = true := by
  -- the level found for a volume type is one of the table's, or else `RAID0`
  have hfound : ∀ o : Option (String × String), (∀ e, o = some e → e ∈ legacyLevels) →
      (Value.str ((o.map (·.2)).getD "RAID0")).truthy = true := by
    have hlevels : ∀ e ∈ legacyLevels, (Value.str e.2).truthy = true := by
      decide
    rintro (_ | e) he
    · rfl
    · exact hlevels e (he e rfl)
  unfold legacyLevel at h
  split at h
  · cases h
  · split at h
    · cases h
      exact hfound _ fun _ he => List.mem_of_find?_eq_some he
    · cases h
      rfl

/-- A RAID level is true: a true `raid_type`, or the text of a level. -/
theorem raidLevel_truthy {state level : Value} (h : raidLevel state = .ok level) :
    level.truthy = true := by
  unfold raidLevel at h
  obtain ⟨l, -, h⟩ := exists_of_bind_eq_ok h
  split at h
  · rename_i ht
    cases h
    exact ht
  · obtain ⟨kind, -, h⟩ := exists_of_bind_eq_ok h
    exact legacyLevel_truthy h

/-- A mapping whose `raid_type` is true has that RAID level. -/
theorem raidLevel_of_set {es : List (String × Value)} {t : Value}
    (hraid : lookup es "raid_type" = some t) (ht : t.truthy = true) :
    raidLevel (.dict es) = .ok t := by
  unfold raidLevel
  simp only [getOr, hraid, Option.getD_some]
  show (if t.truthy = true then pure t else _) = _
  rw [if_pos ht]
  rfl

theorem withDefaults_dict {es : List (String × Value)} {level : Value}
    (h : raidLevel (.dict es) = .ok level) :
    withDefaults (.dict es) =
      .ok (.dict (insert (update defaults (es.filter fun e => !(e.2 matches .null)))
        "raid_type" level)) := by
  unfold withDefaults
  rw [h]
  rfl

/-- **The fields of a filled-in mapping**: every field but the RAID level is the one the mapping
sets, unless it is `null`, or else the default. -/
theorem lookup_filled {es : List (String × Value)} (h : (es.map Prod.fst).Nodup) (level : Value)
    {k : String} (hk : k ≠ "raid_type") :
    lookup (insert (update defaults (es.filter fun e => !(e.2 matches .null))) "raid_type" level) k =
      ((lookup es k).filter fun v => !(v matches .null)).or (lookup defaults k) := by
  have hf : ((es.filter fun e => !(e.2 matches .null)).map Prod.fst).Nodup :=
    (List.filter_sublist.map Prod.fst).nodup h
  rw [lookup_insert, if_neg hk, lookup_update, lookup_reverse hf, lookup_reverse defaults_nodup,
    lookup_filter h]

/-- The entries of a filled-in state: distinct keys, no field `null`, every default there, and
a true RAID level. -/
structure FilledEntries (es : List (String × Value)) : Prop where
  nodup : (es.map Prod.fst).Nodup
  set : ∀ e ∈ es, e.2 ≠ .null
  hasDefaults : ∀ d ∈ defaults, (lookup es d.1).isSome
  raid : ∃ t, lookup es "raid_type" = some t ∧ t.truthy = true

/-- **A filled-in state has filled-in entries.** -/
theorem withDefaults_filled {state D : Value} (h : withDefaults state = .ok D) :
    ∃ es, D = .dict es ∧ FilledEntries es := by
  obtain ⟨es, level, -, hlevel, rfl⟩ := withDefaults_ok h
  refine ⟨_, rfl, ⟨insert_nodup (collapse_nodup _) _ _, fun e m hnull => ?_, fun d hd => ?_,
    ⟨level, by simp, raidLevel_truthy hlevel⟩⟩⟩
  · have hset := withDefaults_set (raidLevel_ne_null hlevel) e m
    rw [hnull] at hset
    cases hset
  · -- a default is there, set or not
    rw [lookup_insert]
    split
    · rfl
    · rw [lookup_update, lookup_reverse defaults_nodup, (lookup_eq_some_iff defaults_nodup).2 hd]
      simp

/-- Setting a field other than the RAID level to a value other than `null` keeps a state filled
in. -/
theorem FilledEntries.insert {es : List (String × Value)} (h : FilledEntries es) {k : String}
    (hk : k ≠ "raid_type") {x : Value} (hx : x ≠ .null) : FilledEntries (insert es k x) where
  nodup := insert_nodup h.nodup _ _
  set e m := by
    rcases mem_insert m with m | rfl
    · exact h.set e m
    · exact hx
  hasDefaults d hd := by
    rw [lookup_insert]
    split
    · rfl
    · exact h.hasDefaults d hd
  raid := by
    obtain ⟨t, ht, htrue⟩ := h.raid
    exact ⟨t, by rw [lookup_insert, if_neg (Ne.symm hk), ht], htrue⟩

theorem withDefaults_applyTime {state D D' : Value} (h : withDefaults state = .ok D)
    (h' : withDefaults D = .ok D') :
    D'.field "settings_apply_time" = D.field "settings_apply_time" :=
  withDefaults_field_of_filled h h' (by decide)

/-- The apply time of a create request is that of its filled-in state. -/
theorem CreateRequest.ofState_applyTime {state drives : Value} {r : CreateRequest}
    (h : CreateRequest.ofState state drives = .ok r) :
    ∃ D, withDefaults state = .ok D ∧ D.field "settings_apply_time" = .ok r.applyTime := by
  unfold CreateRequest.ofState at h
  obtain ⟨D, hD, h⟩ := exists_of_bind_eq_ok h
  obtain ⟨_, -, h⟩ := exists_of_bind_eq_ok h
  obtain ⟨_, -, h⟩ := exists_of_bind_eq_ok h
  obtain ⟨_, -, h⟩ := exists_of_bind_eq_ok h
  obtain ⟨_, -, h⟩ := exists_of_bind_eq_ok h
  obtain ⟨_, -, h⟩ := exists_of_bind_eq_ok h
  obtain ⟨_, -, h⟩ := exists_of_bind_eq_ok h
  obtain ⟨_, -, h⟩ := exists_of_bind_eq_ok h
  obtain ⟨_, -, h⟩ := exists_of_bind_eq_ok h
  obtain ⟨applyTime, happly, h⟩ := exists_of_bind_eq_ok h
  obtain ⟨_, -, h⟩ := exists_of_bind_eq_ok h
  cases h
  exact ⟨D, hD, happly⟩

/-- An update request goes to the volume it is given, with the apply time of its filled-in
state. -/
theorem UpdateRequest.ofState_applyTime {state volumeUri : Value} {r : UpdateRequest}
    (h : UpdateRequest.ofState state volumeUri = .ok r) :
    r.volumeUri = volumeUri ∧
      ∃ D, withDefaults state = .ok D ∧ D.field "settings_apply_time" = .ok r.applyTime := by
  unfold UpdateRequest.ofState at h
  obtain ⟨D, hD, h⟩ := exists_of_bind_eq_ok h
  obtain ⟨_, -, h⟩ := exists_of_bind_eq_ok h
  obtain ⟨_, -, h⟩ := exists_of_bind_eq_ok h
  obtain ⟨_, -, h⟩ := exists_of_bind_eq_ok h
  obtain ⟨_, -, h⟩ := exists_of_bind_eq_ok h
  obtain ⟨_, -, h⟩ := exists_of_bind_eq_ok h
  obtain ⟨applyTime, happly, h⟩ := exists_of_bind_eq_ok h
  cases h
  exact ⟨rfl, D, hD, happly⟩

/-- A delete request names the volume at the `id` of its filled-in state, with that state's
apply time. -/
theorem DeleteRequest.ofState_applyTime {state : Value} {r : DeleteRequest}
    (h : DeleteRequest.ofState state = .ok r) :
    ∃ D, withDefaults state = .ok D ∧ D.field "id" = .ok r.volumeUri ∧
      D.field "settings_apply_time" = .ok r.applyTime := by
  unfold DeleteRequest.ofState at h
  obtain ⟨D, hD, h⟩ := exists_of_bind_eq_ok h
  obtain ⟨volumeUri, huri, h⟩ := exists_of_bind_eq_ok h
  obtain ⟨applyTime, happly, h⟩ := exists_of_bind_eq_ok h
  cases h
  exact ⟨D, hD, huri, happly⟩

/-- A create request's payload carries its apply time as the operation's. -/
theorem CreateRequest.payload_applyTime (r : CreateRequest) (drivesInLinks : Bool) :
    (r.payload drivesInLinks).field "@Redfish.OperationApplyTime" = .ok r.applyTime := by
  cases drivesInLinks <;> rfl

/-- An update request's payload carries its apply time as the settings'. -/
theorem UpdateRequest.payload_applyTime (r : UpdateRequest) :
    r.payload.field "@Redfish.SettingsApplyTime" = .ok (.dict [("ApplyTime", r.applyTime)]) :=
  rfl

end VolumeLifecycle.Volume
