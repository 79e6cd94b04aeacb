import VolumeLifecycle.Lifecycle.Phase
import VolumeLifecycle.Proofs.Lifecycle.PowerPolls
/-!
# VolumeLifecycle.Proofs.Lifecycle.Execution

**What a run of the phases leaves.** `execute` is written for any monad that can keep a
`PhaseRecord` and fail; this module runs it in the plainest one, `Recorder`, where the record is
the whole state and each phase's action only returns or fails (`outcome`). That is the component
runner with nothing but its own bookkeeping, and the run is then determined completely
(`execute_runs_until_failure`):

* the phases run in lifecycle order, those the selection names (all of them for `null`), each
  once, up to and including the first that fails;
* the record starts afresh whatever an earlier run left: the phases that completed are marked,
  the start and end of the run and of each phase that ran are stamped, in that order;
* a run with no failure is a success; a failing phase stops the run with its failure as the phase
  reports it (`phaseFailure`), recorded in the status when it is a lifecycle error
  (`Phase.failureStatus`).

The proof has three layers: the selection becomes a filter of the phases (`execute_selected`, in
any lawful monad), one phase is one of two record updates (`runPhase_run_ok`,
`runPhase_run_error`), and the loop over the phases is an induction whose invariant is the
record of the phases done so far (`PhaseRecord.through`, `forM_runPhase_runOn`). The stamps of
distinct phases are distinct, so each stamp is added once, in order.
-/

namespace VolumeLifecycle.Lifecycle

open VolumeLifecycle.Value

/-! ## Selections -/

/-- The phases a selection names, in the order they run; all of them when none is given. -/
def selectedPhases : Option (List String) → List Phase
  | none => Phase.all
  | some names => Phase.all.filter fun p => p.name ∈ names

/-- A selection as the runner takes it: `null` for all phases, else a list of names. -/
def selectionOf : Option (List String) → Value
  | none => .null
  | some names => .list (names.map .str)

theorem selectedPhases_nodup (names : Option (List String)) : (selectedPhases names).Nodup := by
  cases names with
  | none => decide
  | some names => exact List.Nodup.sublist List.filter_sublist (by decide)

theorem contains_texts (names : List String) (s : String) :
    (Value.list (names.map .str)).contains (.str s) = .ok (decide (s ∈ names)) := by
  induction names with
  | nil => rfl
  | cons n names ih =>
    simp only [Value.contains, List.map_cons, List.any_cons, Except.ok.injEq] at ih ⊢
    rw [ih]
    by_cases hsn : s = n <;> simp [same, hsn]

/-- A loop that acts on the members a test picks is the action over the members picked. -/
theorem forIn_when {m : Type → Type} [Monad m] [LawfulMonad m] {α : Type} (xs : List α)
    (P : α → Bool) (g : α → m Unit) :
    forIn xs PUnit.unit (fun x _ =>
      if P x = true then do g x; pure (ForInStep.yield PUnit.unit)
      else pure (ForInStep.yield PUnit.unit)) = (xs.filter P).forM g := by
  induction xs with
  | nil => rfl
  | cons x xs ih =>
    by_cases h : P x
    · simp only [List.forIn_cons, h, if_true, bind_assoc, pure_bind, List.filter_cons_of_pos h, ih]
      rfl
    · simp only [List.forIn_cons, h, Bool.false_eq_true, if_false, pure_bind,
        List.filter_cons_of_neg h, ih]

/-- **A run of a selection runs the selected phases**, between a fresh start and the end: a list
of names selects the phases it names, and `null` all of them. -/
theorem execute_selected {m : Type → Type} [Monad m] [LawfulMonad m] [MonadExceptOf Failure m]
    (touch : (PhaseRecord → PhaseRecord) → m Unit) (action : Phase → m Unit)
    (names : Option (List String)) :
    execute touch action (selectionOf names) = (do
      touch fun _ => {}
      touch (·.stamp "start")
      tryCatch (do (selectedPhases names).forM (runPhase touch action); touch (·.succeed))
        fun f => do
          touch (·.stamp "end")
          throw f
      touch (·.stamp "end")) := by
  have hrun : ∀ names : List String, execute touch action (.list (names.map .str)) = (do
      touch fun _ => {}
      touch (·.stamp "start")
      tryCatch (do (selectedPhases (some names)).forM (runPhase touch action); touch (·.succeed))
        fun f => do
          touch (·.stamp "end")
          throw f
      touch (·.stamp "end")) := by
    intro names
    unfold execute
    simp only [Bool.false_eq_true, if_false, joinTexts_texts, contains_texts, liftFailure,
      pure_bind]
    rw [forIn_when Phase.all (fun p => decide (p.name ∈ names)) (runPhase touch action)]
    rfl
  -- `null` is the list of every phase's name
  cases names with
  | none => exact hrun (Phase.all.map Phase.name)
  | some names => exact hrun names

/-! ## The recording monad -/

/-- A component whose whole state is its record of phases. -/
abbrev Recorder := ExceptT Failure (StateM PhaseRecord)

namespace Recorder

variable {α β : Type}

/-- Run from a record: the result and the record left. -/
def runOn (a : Recorder α) (r : PhaseRecord) : Except Failure α × PhaseRecord := a.run.run r

@[simp] theorem runOn_pure (x : α) (r : PhaseRecord) : (pure x : Recorder α).runOn r = (.ok x, r) :=
  rfl

@[simp] theorem runOn_throw (f : Failure) (r : PhaseRecord) :
    (throw f : Recorder α).runOn r = (.error f, r) := rfl

@[simp] theorem runOn_modify (g : PhaseRecord → PhaseRecord) (r : PhaseRecord) :
    (modify g : Recorder PUnit).runOn r = (.ok ⟨⟩, g r) := rfl

@[simp] theorem runOn_liftFailure (x : Except Failure α) (r : PhaseRecord) :
    (liftFailure x : Recorder α).runOn r = (x, r) := by
  cases x <;> rfl

theorem runOn_bind (a : Recorder α) (k : α → Recorder β) (r : PhaseRecord) :
    (a >>= k).runOn r = match a.runOn r with
      | (.ok x, r') => (k x).runOn r'
      | (.error e, r') => (.error e, r') := by
  simp only [runOn, ExceptT.run_bind, StateT.run_bind]
  rcases a.run.run r with ⟨x, r'⟩
  cases x <;> rfl

theorem runOn_tryCatch (a : Recorder α) (h : Failure → Recorder α) (r : PhaseRecord) :
    (tryCatch a h).runOn r = match a.runOn r with
      | (.ok x, r') => (.ok x, r')
      | (.error e, r') => (h e).runOn r' := by
  show (ExceptT.tryCatch a h).run.run r = _
  simp only [ExceptT.tryCatch, ExceptT.run, ExceptT.mk, StateT.run_bind, runOn]
  rcases StateT.run a r with ⟨x, r'⟩
  cases x <;> rfl

end Recorder

/-! ## Stamps and records -/

/-- The timestamps a phase sets when it runs: its start and its end. -/
def Phase.stampNames (p : Phase) : List String := [p.name ++ "_start", p.name ++ "_end"]

theorem Phase.start_mem_stampNames (p q : Phase) : p.name ++ "_start" ∈ q.stampNames ↔ p = q := by
  cases p <;> cases q <;> decide

theorem Phase.end_mem_stampNames (p q : Phase) : p.name ++ "_end" ∈ q.stampNames ↔ p = q := by
  cases p <;> cases q <;> decide

theorem Phase.start_ne (p : Phase) : p.name ++ "_start" ≠ "start" ∧ p.name ++ "_start" ≠ "end" := by
  cases p <;> decide

theorem Phase.end_ne (p : Phase) :
    p.name ++ "_end" ≠ "start" ∧ p.name ++ "_end" ≠ "end" ∧
      p.name ++ "_end" ≠ p.name ++ "_start" := by
  cases p <;> decide

/-- No phase stamps the end of the run. -/
theorem end_not_mem_stamps (ps : List Phase) : "end" ∉ "start" :: ps.flatMap Phase.stampNames := by
  have hq : ∀ q : Phase, "end" ∉ q.stampNames := by intro q; cases q <;> decide
  simp only [List.mem_cons, List.mem_flatMap, not_or, not_exists, not_and]
  exact ⟨by decide, fun q _ => hq q⟩

/-- The record of a run from a fresh start through the completed phases `done`. -/
def PhaseRecord.through (done : List Phase) : PhaseRecord :=
  { executed := done, stamps := "start" :: done.flatMap Phase.stampNames }

theorem PhaseRecord.stamp_of_not_mem {r : PhaseRecord} {name : String} (h : name ∉ r.stamps) :
    r.stamp name = { r with stamps := r.stamps ++ [name] } := by
  simp [PhaseRecord.stamp, h]

theorem PhaseRecord.complete_of_not_mem {r : PhaseRecord} {p : Phase} (h : p ∉ r.executed) :
    r.complete p = { r with executed := r.executed ++ [p] } := by
  simp [PhaseRecord.complete, h]

/-- A phase not run yet has stamped neither its start nor its end. -/
theorem PhaseRecord.start_not_mem_through {done : List Phase} {p : Phase} (hp : p ∉ done) :
    p.name ++ "_start" ∉ (PhaseRecord.through done).stamps := by
  simp [PhaseRecord.through, List.mem_flatMap, Phase.start_mem_stampNames, hp, (Phase.start_ne p).1]

theorem PhaseRecord.end_not_mem_through {done : List Phase} {p : Phase} (hp : p ∉ done) :
    p.name ++ "_end" ∉ (PhaseRecord.through done).stamps ++ [p.name ++ "_start"] := by
  simp [PhaseRecord.through, List.mem_flatMap, Phase.end_mem_stampNames, hp, Phase.end_ne p]

/-- A phase that runs for the first time and completes adds its two stamps and itself. -/
theorem PhaseRecord.through_complete {done : List Phase} {p : Phase} (hp : p ∉ done) :
    (((PhaseRecord.through done).stamp (p.name ++ "_start")).stamp (p.name ++ "_end")).complete p =
      PhaseRecord.through (done ++ [p]) := by
  rw [PhaseRecord.stamp_of_not_mem (PhaseRecord.start_not_mem_through hp),
    PhaseRecord.stamp_of_not_mem (PhaseRecord.end_not_mem_through hp),
    PhaseRecord.complete_of_not_mem hp]
  simp [PhaseRecord.through, Phase.stampNames]

/-- The status a run that phase `p` stopped with the failure `f` leaves: the failure as the phase
reports it when that is a lifecycle error, else the fresh status of the run. -/
def Phase.failureStatus (p : Phase) (f : Failure) : Status :=
  match (phaseFailure p f).2 with
  | some e => { success := false, error := .str e.text, stage := e.stage,
                message := .str s!"{p.title} phase failed: {e.message}" }
  | none => {}

/-- A phase that runs for the first time and fails adds its two stamps and records its failure. -/
theorem PhaseRecord.through_fail {done : List Phase} {p : Phase} (hp : p ∉ done) (f : Failure) :
    (match (phaseFailure p f).2 with
      | some e => ((PhaseRecord.through done).stamp (p.name ++ "_start")).fail p e
      | none => (PhaseRecord.through done).stamp (p.name ++ "_start")).stamp (p.name ++ "_end") =
      { executed := done, stamps := "start" :: (done ++ [p]).flatMap Phase.stampNames,
        status := p.failureStatus f } := by
  have hend := PhaseRecord.end_not_mem_through hp
  rw [PhaseRecord.stamp_of_not_mem (PhaseRecord.start_not_mem_through hp)]
  unfold Phase.failureStatus
  -- failing or not, the record of the status is the only difference
  cases (phaseFailure p f).2 with
  | none =>
    rw [PhaseRecord.stamp_of_not_mem hend]
    simp [PhaseRecord.through, Phase.stampNames]
  | some e =>
    rw [PhaseRecord.stamp_of_not_mem hend]
    simp [PhaseRecord.through, PhaseRecord.fail, Phase.stampNames]

/-! ## Runs -/

section Outcomes

variable (outcome : Phase → Except Failure Unit)

/-- A phase whose action returns stamps its start and end and completes. -/
theorem runPhase_run_ok {p : Phase} (h : outcome p = .ok ()) (rec : PhaseRecord) :
    (runPhase (m := Recorder) modify (fun q => liftFailure (outcome q)) p).runOn rec =
      (.ok (), ((rec.stamp (p.name ++ "_start")).stamp (p.name ++ "_end")).complete p) := by
  simp [runPhase, Recorder.runOn_bind, Recorder.runOn_tryCatch, h]

/-- A phase whose action fails stamps its start and end, records the failure it reports, and
fails with it. -/
theorem runPhase_run_error {p : Phase} {f : Failure} (h : outcome p = .error f) (rec : PhaseRecord) :
    (runPhase (m := Recorder) modify (fun q => liftFailure (outcome q)) p).runOn rec =
      (.error (phaseFailure p f).1, (match (phaseFailure p f).2 with
        | some e => (rec.stamp (p.name ++ "_start")).fail p e
        | none => rec.stamp (p.name ++ "_start")).stamp (p.name ++ "_end")) := by
  simp only [runPhase, Recorder.runOn_bind, Recorder.runOn_tryCatch, Recorder.runOn_modify,
    Recorder.runOn_liftFailure, h]
  rcases phaseFailure p f with ⟨g, _ | e⟩ <;> simp [Recorder.runOn_bind]

/-- **Phases run one after the other until one fails.** From the record of the phases `done`, the
phases `ps` (none of them run before, none twice) run as far as the first that fails: those before
it complete, and it stops the run with its failure as the phase reports it. -/
theorem forM_runPhase_runOn : ∀ (ps done : List Phase), (done ++ ps).Nodup →
    ∃ ran rest, ps = ran ++ rest ∧ (∀ p ∈ ran, outcome p = .ok ()) ∧
      ((rest = [] ∧
          (ps.forM (runPhase (m := Recorder) modify fun q => liftFailure (outcome q))).runOn
            (PhaseRecord.through done) = (.ok (), PhaseRecord.through (done ++ ran))) ∨
       (∃ p f later, rest = p :: later ∧ outcome p = .error f ∧
          (ps.forM (runPhase (m := Recorder) modify fun q => liftFailure (outcome q))).runOn
            (PhaseRecord.through done) = (.error (phaseFailure p f).1,
              { executed := done ++ ran,
                stamps := "start" :: (done ++ ran ++ [p]).flatMap Phase.stampNames,
                status := p.failureStatus f }))) := by
  intro ps
  induction ps with
  | nil => exact fun done _ => ⟨[], [], rfl, nofun, .inl ⟨rfl, by simp⟩⟩
  | cons p ps ih =>
    intro done hnodup
    have hp : p ∉ done := fun h => (List.nodup_append.mp hnodup).2.2 p h p List.mem_cons_self rfl
    rw [List.forM_eq_forM, List.forM_cons, Recorder.runOn_bind]
    cases hout : outcome p with
    | error f =>
      -- the first phase fails: nothing else runs
      refine ⟨[], p :: ps, rfl, nofun, .inr ⟨p, f, ps, rfl, hout, ?_⟩⟩
      rw [runPhase_run_error outcome hout, PhaseRecord.through_fail hp]
      simp
    | ok u =>
      -- the first phase completes, and the rest run from the record that includes it
      have hrest : (done ++ [p] ++ ps).Nodup := by simpa using hnodup
      obtain ⟨ran, rest, hps, hran, hend⟩ := ih (done ++ [p]) hrest
      refine ⟨p :: ran, rest, by rw [hps]; rfl, ?_, ?_⟩
      · intro q hq
        rcases List.mem_cons.mp hq with rfl | hq
        · cases u; exact hout
        · exact hran q hq
      · rw [runPhase_run_ok outcome (by cases u; exact hout), PhaseRecord.through_complete hp]
        simpa using hend

/-- **A run of the selected phases.** The phases of the lifecycle that the selection names run
in lifecycle order, each once, up to and including the first that fails. Whatever an earlier run
left, the record starts afresh: the phases that completed are marked executed, the start and the
end of the run and of every phase that ran are stamped, and the status says success when no
phase failed; otherwise the run stops with the failure as the failing phase reports it
(`phaseFailure`), and the status records it when it is a lifecycle error. -/
theorem execute_runs_until_failure (names : Option (List String)) (rec : PhaseRecord) :
    ∃ ran rest, selectedPhases names = ran ++ rest ∧ (∀ p ∈ ran, outcome p = .ok ()) ∧
      ((rest = [] ∧
          (execute (m := Recorder) modify (fun q => liftFailure (outcome q)) (selectionOf names)).runOn
            rec = (.ok (), { executed := ran, stamps := "start" :: ran.flatMap Phase.stampNames ++ ["end"],
                              status := { success := true,
                                          message := .str "Execution completed successfully" } })) ∨
       (∃ p f later, rest = p :: later ∧ outcome p = .error f ∧
          (execute (m := Recorder) modify (fun q => liftFailure (outcome q)) (selectionOf names)).runOn
            rec = (.error (phaseFailure p f).1,
              { executed := ran, stamps := "start" :: (ran ++ [p]).flatMap Phase.stampNames ++ ["end"],
                status := p.failureStatus f }))) := by
  rw [execute_selected]
  obtain ⟨ran, rest, hsel, hran, hend⟩ :=
    forM_runPhase_runOn outcome (selectedPhases names) [] (by simpa using selectedPhases_nodup names)
  simp only [List.nil_append] at hend
  refine ⟨ran, rest, hsel, hran, ?_⟩
  -- the record starts afresh
  have hfresh : ({} : PhaseRecord).stamp "start" = PhaseRecord.through [] := rfl
  simp only [Recorder.runOn_bind, Recorder.runOn_modify, Recorder.runOn_tryCatch, hfresh]
  rcases hend with ⟨rfl, hrun⟩ | ⟨p, f, later, rfl, hf, hrun⟩
  · refine .inl ⟨rfl, ?_⟩
    rw [hrun]
    dsimp only
    rw [PhaseRecord.stamp_of_not_mem (r := (PhaseRecord.through ran).succeed) (end_not_mem_stamps ran)]
    simp [PhaseRecord.through, PhaseRecord.succeed]
  · -- the handler stamps the end and fails again, so the last stamp is not reached
    refine .inr ⟨p, f, later, rfl, hf, ?_⟩
    rw [hrun]
    dsimp only
    rw [Recorder.runOn_throw, PhaseRecord.stamp_of_not_mem (end_not_mem_stamps _)]

end Outcomes

end VolumeLifecycle.Lifecycle
