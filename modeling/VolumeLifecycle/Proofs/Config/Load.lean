import VolumeLifecycle.Config
import VolumeLifecycle.Proofs.Document.Entries
/-!
# VolumeLifecycle.Proofs.Config.Load

**What a configuration is.** Loading reads three layers over one another, the later ones
winning: the mapping of the file (none without a file), the `STORAGEBOT_*` variables of the
environment, each converted for its key, and the overrides that are not `null`. Then every
timing that is present is read as a number and must not be below zero.

The environment is a mapping of texts (`environment`). A variable converts unless it is a
timing whose text is no number literal (`Conversion.apply_text`); such a variable is refused,
the failure naming it and its text (`Refused`). The variables are written one after the other
(`applyVariable_environment`, `foldlM_applyVariable`); their keys are distinct, so each key
takes the value of its own variable (`environmentValue`). The overrides that count are the
non-`null` ones (`overrideEntries_dict`). A timing passes when it reads as a number that is not
below zero (`TimingPasses`): a boolean reads as `0` or `1`, a text as the number it writes,
and a NaN is not below zero, so all of these pass; `null`, a list or a text that writes no
number fails with the error of reading it, and a negative number with the error that names
its key (`TimingFails`, `forM_checkTiming`).

`load_layers` puts it together (`LoadOutcome`): a refused variable fails the load; otherwise
the result is the layered configuration (`Layered`) when its timings pass, and else the
failure of one of them. A file that fails to read fails the load with its own failure:
a missing file, a text that is not YAML or a document that is true and no mapping is a value
error, and a fault of another kind that stops the YAML reader is raised as it is; an empty
document, or one that is false, reads as the empty mapping.
-/

namespace VolumeLifecycle.Config
open VolumeLifecycle.Value VolumeLifecycle.Number

theorem variableIn_dict (es : List (String × Value)) (var : String) :
    variableIn (.dict es) var = .ok (lookup es var) := by
  unfold variableIn
  -- a text is hashable, and a mapping has a key exactly when a lookup finds it
  cases h : lookup es var <;>
    simp [contains, hashable, any_key_eq_isSome, h, field, bind, Except.bind, pure, Except.pure,
      Functor.map, Except.map]

/-- An environment of texts, as the mapping a configuration is read from. -/
def environment (E : List (String × String)) : Value :=
  .dict (E.map fun e => (e.1, .str e.2))

theorem variableIn_environment (E : List (String × String)) (var : String) :
    variableIn (environment E) var = .ok ((lookup E var).map .str) := by
  rw [environment, variableIn_dict, lookup_map_value]

/-- A text converts, unless it is a timing's text that is no number literal. -/
theorem Conversion.apply_text (c : Conversion) (s : String) :
    (∃ v, c.apply (.str s) = .ok v ∧ (c = .number → (readFloat? s).isSome)) ∨
      (c = .number ∧ readFloat? s = none ∧
        c.apply (.str s) = .error (.invalid (.floatLiteral s))) := by
  cases c with
  | number =>
    cases h : readFloat? s with
    | none => exact .inr ⟨rfl, rfl, by simp [Conversion.apply, realOf, h, Functor.map, Except.map]⟩
    | some x =>
      exact .inl ⟨.float x, by simp [Conversion.apply, realOf, h, Functor.map, Except.map],
        fun _ => rfl⟩
  | text => exact .inl ⟨_, rfl, fun h => by cases h⟩
  | flag => exact .inl ⟨_, rfl, fun h => by cases h⟩
  | names => exact .inl ⟨_, rfl, fun h => by cases h⟩

section Environment

variable (E : List (String × String))

/-- The value a variable gives its key from the environment `E`: the variable's text,
converted, when `E` has the variable and the conversion takes the text. -/
def variableValue (spec : String × String × Conversion) : Option Value :=
  (lookup E spec.1).bind fun raw => (spec.2.2.apply (.str raw)).toOption

/-- The variable converts: if it is a timing that `E` gives, its text is a number literal. -/
def Converts (spec : String × String × Conversion) : Prop :=
  ∀ raw, lookup E spec.1 = some raw → spec.2.2 = .number → (readFloat? raw).isSome

/-- The variable is refused with the failure `f`: it is a timing that `E` gives with a text
that is no number literal, and `f` names the variable and the text. -/
def Refused (spec : String × String × Conversion) (f : Failure) : Prop :=
  ∃ raw, lookup E spec.1 = some raw ∧ spec.2.2 = .number ∧ readFloat? raw = none ∧
    f = .invalid (.badVariable spec.1 (.floatLiteral raw))

/-- **One variable over the configuration**: it is refused, or its key takes its value. -/
theorem applyVariable_environment (config : List (String × Value))
    (spec : String × String × Conversion) :
    (∃ f, Refused E spec f ∧ applyVariable (environment E) config spec = .error f) ∨
      (Converts E spec ∧ applyVariable (environment E) config spec =
        .ok ((variableValue E spec).elim config (insert config spec.2.1))) := by
  unfold applyVariable
  rw [variableIn_environment]
  cases hE : lookup E spec.1 with
  | none =>
    refine .inr ⟨fun raw h => by simp [hE] at h, ?_⟩
    simp [variableValue, hE, bind, Except.bind, pure, Except.pure]
  | some raw =>
    rcases Conversion.apply_text spec.2.2 raw with ⟨v, hv, hnum⟩ | ⟨hnum, hread, hfail⟩
    · refine .inr ⟨fun raw' h' => ?_, ?_⟩
      · rw [hE, Option.some_inj] at h'
        exact h' ▸ hnum
      · simp [variableValue, hE, hv, bind, Except.bind, pure, Except.pure, Except.toOption]
    · refine .inl ⟨_, ⟨raw, hE, hnum, hread, rfl⟩, ?_⟩
      simp [hfail, bind, Except.bind, throw, throwThe, MonadExceptOf.throw]

/-- The value the variables `vars` give the key `k` from `E`: that of the variable for `k`. -/
def environmentValue (vars : List (String × String × Conversion)) (k : String) : Option Value :=
  (vars.find? (·.2.1 == k)).bind (variableValue E)

/-- One variable's value as a lookup of the configuration it writes. -/
theorem lookup_variableValue (config : List (String × Value)) (spec : String × String × Conversion)
    (k : String) :
    lookup ((variableValue E spec).elim config (insert config spec.2.1)) k =
      (if spec.2.1 = k then variableValue E spec else none).or (lookup config k) := by
  cases variableValue E spec with
  | none => by_cases hk : spec.2.1 = k <;> simp [hk]
  | some v =>
    by_cases hk : spec.2.1 = k
    · simp [hk]
    · simp [hk, Ne.symm hk]

/-- **The variables over the configuration**, one after the other: one of them is refused,
or they all convert and each key takes the value of its variable when the environment gives
one. The induction is on the variables, the configuration so far generalized. -/
theorem foldlM_applyVariable : ∀ (vars : List (String × String × Conversion))
    (config : List (String × Value)), (vars.map (·.2.1)).Nodup → (config.map Prod.fst).Nodup →
    (∃ spec ∈ vars, ∃ f, Refused E spec f ∧
      vars.foldlM (applyVariable (environment E)) config = .error f) ∨
    ((∀ spec ∈ vars, Converts E spec) ∧
      ∃ C, vars.foldlM (applyVariable (environment E)) config = .ok C ∧
      (C.map Prod.fst).Nodup ∧ ∀ k, lookup C k = (environmentValue E vars k).or (lookup config k))
  | [], config, _, hc => .inr ⟨List.forall_mem_nil _, config, rfl, hc, fun _ => rfl⟩
  | spec :: vars, config, hkeys, hc => by
    rw [List.map_cons, List.nodup_cons] at hkeys
    rw [List.foldlM_cons]
    rcases applyVariable_environment E config spec with ⟨f, hf, hstep⟩ | ⟨hconv, hstep⟩
    · exact .inl ⟨spec, List.mem_cons_self, f, hf, by rw [hstep]; rfl⟩
    rw [hstep]
    have hc' :
        (((variableValue E spec).elim config (insert config spec.2.1)).map Prod.fst).Nodup := by
      cases variableValue E spec with
      | none => exact hc
      | some v => exact insert_nodup hc _ _
    rcases foldlM_applyVariable vars _ hkeys.2 hc' with ⟨spec', hmem, f, hf, hrun⟩ |
      ⟨hconvs, C, hrun, hC, hlook⟩
    · exact .inl ⟨spec', List.mem_cons_of_mem _ hmem, f, hf, hrun⟩
    refine .inr ⟨List.forall_mem_cons.2 ⟨hconv, hconvs⟩, C, hrun, hC, fun k => ?_⟩
    have hhead : environmentValue E (spec :: vars) k =
        if spec.2.1 = k then variableValue E spec else environmentValue E vars k := by
      by_cases hk : spec.2.1 = k <;> simp [environmentValue, hk]
    rw [hlook, lookup_variableValue, hhead]
    by_cases hk : spec.2.1 = k
    · -- the keys are distinct, so no later variable writes the key of this one
      have hlater : environmentValue E vars k = none := by
        refine Option.bind_eq_none_iff.2 fun spec' hspec' => absurd ?_ hkeys.1
        have hfound := List.mem_of_find?_eq_some hspec'
        have hkey : spec'.2.1 = k := by simpa using List.find?_some hspec'
        exact hk ▸ hkey ▸ List.mem_map_of_mem hfound
      rw [if_pos hk, if_pos hk, hlater]
      rfl
    · rw [if_neg hk, if_neg hk]
      rfl

end Environment

/-! ## Overrides -/

/-- A value that is set: anything but `null`. -/
def nonNull : Option Value → Option Value
  | some .null => none
  | v => v

/-- The overrides that count are those that are not `null`. -/
theorem overrideEntries_dict {O : List (String × Value)} (hO : (O.map Prod.fst).Nodup) :
    ∃ O', overrideEntries (.dict O) = .ok O' ∧ (O'.map Prod.fst).Nodup ∧
      ∀ k, lookup O' k = nonNull (lookup O k) := by
  cases O with
  | nil => exact ⟨[], rfl, List.nodup_nil, fun _ => rfl⟩
  | cons e es =>
    -- a mapping with entries is true as a condition, so its entries are filtered
    refine ⟨_, rfl, (List.filter_sublist.map Prod.fst).nodup hO, fun k => ?_⟩
    rw [lookup_filter hO]
    cases lookup (e :: es) k with
    | none => rfl
    | some v => cases v <;> rfl

/-! ## Timings -/

/-- A timing value passes: it reads as a number that is not below zero (a NaN passes). -/
def TimingPasses (v : Value) : Prop :=
  ∃ x, realOf v = .ok x ∧ ¬ x < 0.0

/-- A timing value under `key` fails with `f`: it does not read as a number, and `f` is why,
or it reads as one below zero, and `f` says the key must not be negative. -/
def TimingFails (key : String) (v : Value) (f : Failure) : Prop :=
  realOf v = .error f ∨ ∃ x, realOf v = .ok x ∧ x < 0.0 ∧ f = .invalid (.negativeTiming key)

/-- Every timing of the configuration `C` that is present passes. -/
def TimingsPass (C : List (String × Value)) : Prop :=
  ∀ key ∈ timingKeys, ∀ v, lookup C key = some v → TimingPasses v

theorem checkTiming_cases (C : List (String × Value)) (key : String) :
    (checkTiming C key = .ok () ∧ ∀ v, lookup C key = some v → TimingPasses v) ∨
      ∃ v f, lookup C key = some v ∧ TimingFails key v f ∧ checkTiming C key = .error f := by
  unfold checkTiming
  cases h : lookup C key with
  | none => exact .inl ⟨rfl, fun _ hv => by cases hv⟩
  | some v =>
    cases hr : realOf v with
    | error f => exact .inr ⟨v, f, rfl, .inl hr, by simp [hr, bind, Except.bind]⟩
    | ok x =>
      by_cases hx : x < 0.0
      · exact .inr ⟨v, _, rfl, .inr ⟨x, hr, hx, rfl⟩,
          by simp [hr, hx, bind, Except.bind, throw, throwThe, MonadExceptOf.throw]⟩
      · refine .inl ⟨by simp [hr, hx, bind, Except.bind, pure, Except.pure], fun v' hv' => ?_⟩
        cases hv'
        exact ⟨x, hr, hx⟩

/-- **The timings are checked in order**: all pass, or the check fails at one that fails. -/
theorem forM_checkTiming (C : List (String × Value)) : ∀ keys : List String,
    (keys.forM (checkTiming C) = .ok () ∧
      ∀ key ∈ keys, ∀ v, lookup C key = some v → TimingPasses v) ∨
      ∃ key ∈ keys, ∃ v f, lookup C key = some v ∧ TimingFails key v f ∧
        keys.forM (checkTiming C) = .error f
  | [] => .inl ⟨rfl, List.forall_mem_nil _⟩
  | key :: keys => by
    rw [List.forM]
    rcases checkTiming_cases C key with ⟨hok, hpass⟩ | ⟨v, f, hv, hf, herr⟩
    · rw [hok]
      rcases forM_checkTiming C keys with ⟨hrest, hpasses⟩ | ⟨key', hmem, v, f, hv, hf, herr⟩
      · exact .inl ⟨hrest, List.forall_mem_cons.2 ⟨hpass, hpasses⟩⟩
      · exact .inr ⟨key', List.mem_cons_of_mem _ hmem, v, f, hv, hf, herr⟩
    · exact .inr ⟨key, List.mem_cons_self, v, f, hv, hf, by rw [herr]; rfl⟩

/-! ## Reading the file -/

section File

variable {path contents : String}

/-- A document that is a mapping reads as that mapping. -/
theorem readMapping_of_mapping {Y : List (String × Value)}
    (h : Yaml.loadDocument (textMode contents) = .ok (some (.dict Y))) :
    readMapping path contents = .ok Y := by
  unfold readMapping
  rw [h]
  -- an empty mapping is false as a condition, and stands for itself all the same
  cases Y <;> rfl

/-- An empty document, or one that is false as a condition, reads as the empty mapping. -/
theorem readMapping_of_false {d : Option Value} (h : Yaml.loadDocument (textMode contents) = .ok d)
    (hf : (d.getD .null).truthy = false) : readMapping path contents = .ok [] := by
  simp [readMapping, h, hf, bind, Except.bind, pure, Except.pure]

/-- A document that is true as a condition and is no mapping is refused. -/
theorem readMapping_of_not_mapping {v : Value}
    (h : Yaml.loadDocument (textMode contents) = .ok (some v)) (ht : v.truthy = true)
    (hv : ∀ es, v ≠ .dict es) :
    readMapping path contents = .error (.invalid (.configNotMapping path)) := by
  simp only [readMapping, h, ht, bind, Except.bind, pure, Except.pure, Option.getD_some, if_true]
  rfl

/-- A text that does not read as YAML is refused with the reader's message. -/
theorem readMapping_of_unreadable {e : Yaml.Error}
    (h : Yaml.loadDocument (textMode contents) = .error e)
    (he : ∀ kind message, e ≠ .raised kind message) :
    readMapping path contents = .error (.invalid (.configUnreadable path (e.text path))) := by
  unfold readMapping
  rw [h]
  cases e with
  | raised kind message => exact absurd rfl (he kind message)
  | _ => rfl

/-- A fault of another kind that stops the YAML reader is raised as it is. -/
theorem readMapping_of_raised {kind message : String}
    (h : Yaml.loadDocument (textMode contents) = .error (.raised kind message)) :
    readMapping path contents = .error (.raisedBy kind message) := by
  unfold readMapping
  rw [h]
  rfl

end File

/-! ## Loading -/

/-- The configuration `C` has the layers of the file's mapping `Y`, the environment `E` and
the overrides `O`, later ones winning: for each key, the override if it is not `null`, else
the value of the key's variable, else the file's value. -/
def Layered (Y : List (String × Value)) (E : List (String × String)) (O C : List (String × Value)) :
    Prop :=
  ∀ k, lookup C k =
    (nonNull (lookup O k)).or ((environmentValue E environmentVariables k).or (lookup Y k))

/-- What loading gives from the mapping `Y`, the environment `E` and the overrides `O`: the
failure of a refused variable; or, every variable converting, the layered configuration when
its timings pass, and otherwise the failure of one of its timings. -/
def LoadOutcome (Y : List (String × Value)) (E : List (String × String)) (O : List (String × Value))
    (result : Except Failure (List (String × Value))) : Prop :=
  (∃ spec ∈ environmentVariables, ∃ f, Refused E spec f ∧ result = .error f) ∨
    ((∀ spec ∈ environmentVariables, Converts E spec) ∧
      ∃ C, (C.map Prod.fst).Nodup ∧ Layered Y E O C ∧
      ((TimingsPass C ∧ result = .ok C) ∨
        ∃ key ∈ timingKeys, ∃ v f, lookup C key = some v ∧ TimingFails key v f ∧ result = .error f))

theorem environmentVariables_keys : (environmentVariables.map (·.2.1)).Nodup := by
  decide

theorem load_of_base {source : Source} {Y : List (String × Value)} (hbase : baseOf source = .ok Y)
    (hY : (Y.map Prod.fst).Nodup) (E : List (String × String)) {O : List (String × Value)}
    (hO : (O.map Prod.fst).Nodup) : LoadOutcome Y E O (load source (environment E) (.dict O)) := by
  obtain ⟨O', hO', hO'keys, hO'look⟩ := overrideEntries_dict hO
  unfold load
  rw [hbase]
  rcases foldlM_applyVariable E environmentVariables Y environmentVariables_keys hY with
    ⟨spec, hmem, f, hf, hfold⟩ | ⟨hconv, C₁, hfold, hC₁, hlook₁⟩
  · exact .inl ⟨spec, hmem, f, hf, by simp [hfold, bind, Except.bind]⟩
  simp only [bind, Except.bind, hfold, hO']
  -- the overrides written over the file and the environment
  have hlayered : Layered Y E O (update C₁ O') := fun k => by
    rw [lookup_update, lookup_reverse hO'keys, lookup_reverse hC₁, hO'look, hlook₁]
  refine .inr ⟨hconv, update C₁ O', collapse_nodup _, hlayered, ?_⟩
  rcases forM_checkTiming (update C₁ O') timingKeys with ⟨hok, hpass⟩ |
    ⟨key, hkey, v, f, hv, hf, herr⟩
  · exact .inl ⟨hpass, by simp only [checkTimings, hok]; rfl⟩
  · exact .inr ⟨key, hkey, v, f, hv, hf, by simp only [checkTimings, herr]⟩

/-- A file's configuration starts from the mapping the file reads as. -/
theorem baseOf_file (path contents : String) :
    baseOf (.file path contents) = readMapping path contents :=
  rfl

/-- A file that fails to read fails the load with its own failure. -/
theorem load_of_base_error {source : Source} {f : Failure} (h : baseOf source = .error f)
    (environ overrides : Value) : load source environ overrides = .error f := by
  unfold load
  rw [h]
  rfl

/-- **A configuration is its three layers, with timings that are numbers not below zero.**
Over a file that reads as a mapping (or no file), an environment of texts and overrides: a
timing variable whose text is no number literal fails the load, naming itself; otherwise the
load gives the file's mapping with each variable converted over it and the non-`null`
overrides over that, when each timing present reads as a number that is not below zero (a
boolean, a numeric text or a NaN does), and otherwise fails at a timing that does not, with
the error of reading it or the one that names it negative. A file that fails to read fails the
load: a missing file, a text that is not YAML or a document that is true and no mapping with
a value error, a fault of another kind that stops the YAML reader as it is raised; an empty
or false document reads as the empty mapping. -/
theorem load_layers (E : List (String × String)) {O : List (String × Value)}
    (hO : (O.map Prod.fst).Nodup) :
    (∀ source Y, baseOf source = .ok Y → (Y.map Prod.fst).Nodup →
      LoadOutcome Y E O (load source (environment E) (.dict O))) ∧
    (∀ source f, baseOf source = .error f → load source (environment E) (.dict O) = .error f) ∧
    (∀ path, ∃ reason, baseOf (.missing path) = .error (.invalid (.configUnreadable path reason))) ∧
    (∀ path contents Y, Yaml.loadDocument (textMode contents) = .ok (some (.dict Y)) →
      baseOf (.file path contents) = .ok Y) ∧
    (∀ path contents d, Yaml.loadDocument (textMode contents) = .ok d →
      (d.getD .null).truthy = false → baseOf (.file path contents) = .ok []) ∧
    (∀ path contents v, Yaml.loadDocument (textMode contents) = .ok (some v) → v.truthy = true →
      (∀ es, v ≠ .dict es) →
        baseOf (.file path contents) = .error (.invalid (.configNotMapping path))) ∧
    (∀ path contents e, Yaml.loadDocument (textMode contents) = .error e →
      (∀ kind message, e ≠ .raised kind message) →
        baseOf (.file path contents) = .error (.invalid (.configUnreadable path (e.text path)))) ∧
    (∀ path contents kind message,
      Yaml.loadDocument (textMode contents) = .error (.raised kind message) →
        baseOf (.file path contents) = .error (.raisedBy kind message)) :=
  ⟨fun _ _ hbase hY => load_of_base hbase hY E hO,
    fun _ _ h => load_of_base_error h _ _,
    fun _ => ⟨_, rfl⟩,
    fun path contents _ h => (baseOf_file path contents).trans (readMapping_of_mapping h),
    fun path contents _ h hf => (baseOf_file path contents).trans (readMapping_of_false h hf),
    fun path contents _ h ht hv =>
      (baseOf_file path contents).trans (readMapping_of_not_mapping h ht hv),
    fun path contents _ h he => (baseOf_file path contents).trans (readMapping_of_unreadable h he),
    fun path contents _ _ h => (baseOf_file path contents).trans (readMapping_of_raised h)⟩

/-- Without a file, a timing variable and a timing override. -/
theorem load_layers_timing_variable :
    ([("request_timeout", Value.int 30)].map Prod.fst).Nodup ∧
      LoadOutcome [] [("STORAGEBOT_SETTLE_DELAY", "5")] [("request_timeout", .int 30)]
        (load .none (environment [("STORAGEBOT_SETTLE_DELAY", "5")])
          (.dict [("request_timeout", .int 30)])) :=
  ⟨by simp, (load_layers _ (by simp)).1 .none [] rfl List.nodup_nil⟩

/-- Without a variable, the environment gives no key a value. -/
theorem environmentValue_nil (vars : List (String × String × Conversion)) (k : String) :
    environmentValue [] vars k = none := by
  unfold environmentValue
  cases vars.find? (·.2.1 == k) <;> rfl

/-- A timing given as `true` is no number, yet it is kept: it reads as one. -/
theorem load_keeps_true_timing :
    ∃ C, load .none (environment []) (.dict [("settle_delay", .bool true)]) = .ok C ∧
      lookup C "settle_delay" = some (.bool true) := by
  rcases @load_of_base .none [] rfl List.nodup_nil [] [("settle_delay", .bool true)] (by simp) with
    ⟨_, -, _, ⟨_, hraw, -⟩, -⟩ | ⟨-, C, -, hC, hok | ⟨key, -, v, f, hv, hf, -⟩⟩
  · cases hraw
  · refine ⟨C, hok.2, ?_⟩
    rw [hC, environmentValue_nil]
    rfl
  -- the one value there is is the override, which reads as one and so passes
  · have hv' : v = .bool true := by
      rw [hC, environmentValue_nil, lookup_cons] at hv
      split at hv
      · exact (Option.some_inj.1 hv).symm
      · cases hv
    subst hv'
    rcases hf with hr | ⟨x, hx, hneg, -⟩
    · cases hr
    · cases hx
      exact absurd hneg (by decide)

end VolumeLifecycle.Config
