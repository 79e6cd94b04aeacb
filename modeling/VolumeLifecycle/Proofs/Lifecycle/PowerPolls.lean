import VolumeLifecycle.Proofs.Lifecycle.PollLoop
import VolumeLifecycle.Proofs.Redfish.Answers
/-!
# VolumeLifecycle.Proofs.Lifecycle.PowerPolls

**A power cycle, read off the controller's answers.** On a clock of whole seconds with a positive
interval `I`, a power cycle with a timeout of `T` seconds is fully described by what the
controller answers (`PowerCycleRun`), whether its times are whole numbers or doubles that hold
them:

* a reset type other than the three it knows is refused before any request;
* otherwise it reads the power state once, and a failed read is rejected (`rejection`): a
  power-operation error naming the reset, for a failure the controller gives;
* it then resets the system once (`ResetSent`): a second read of the system for its reset
  target, and at most one POST of the reset type — `On` for a system read `Off`
  (`issuedFor`) — to the target the system gives, or the conventional one below it; a failed
  reset is rejected the same way, before any sleep;
* it then polls the power state as a poll loop (`PollRun` of `powerRule`): at most `⌈T / I⌉`
  polls, the `i`-th after a sleep of `min I (T - i * I)` seconds, riding out the failures the
  controller gives, until a read of `On`; what it reports at the end is `powerEnd`: the state,
  the reset issued, the states seen, the polls and the seconds waited, or on a timeout the
  failure that lists the states seen and names the timeout as it was given.

## Proof shape

The reads before the polls keep the clock, so the run follows them by their event triples
(`firstRead_spec`, `Client.reset_sent`) through `Act.Timed.keeps_bind`; a handler that fails
again with `rejection` is taken through `tryCatch` once (`catch_fail_spec`). The power loop is a
poll loop (`pollPower_isPollLoop`), and `IsPollLoop.timed` gives its run; what follows the loop
takes no time and ends as `powerEnd` says.
-/

namespace VolumeLifecycle.Lifecycle

open VolumeLifecycle.Redfish VolumeLifecycle.Value

/-! ## Reads that fail again -/

/-- An action whose failures are turned into others by `g`: the same events, and the result
with its failure mapped. -/
theorem catch_fail_spec {α : Type} {act : Act α} {P : Except Failure α → List Event → Prop}
    (h : act.Spec P) (g : Failure → Failure) :
    (tryCatch act fun f => Act.fail (g f)).Spec fun r evs =>
      ∃ r₀, P r₀ evs ∧ r = r₀.mapError g := by
  refine Act.Spec.tryCatch h (fun f => Act.fail_spec (g f)) ?_ ?_
  · intro x e hx
    exact ⟨.ok x, hx, rfl⟩
  · rintro f r e₁ e₂ hf ⟨hr, he₂⟩
    subst hr he₂
    exact ⟨.error f, by rw [List.append_nil]; exact hf, rfl⟩

/-- A result with its failure mapped succeeds exactly as the result did. -/
theorem Except.mapError_eq_ok {ε ε' α : Type} {x : Except ε α} {g : ε → ε'} {v : α}
    (h : x.mapError g = .ok v) : x = .ok v := by
  cases x with
  | ok w =>
    cases h
    rfl
  | error e => cases h

/-- A result with its failure mapped fails with the mapped failure of the result. -/
theorem Except.mapError_eq_error {ε ε' α : Type} {x : Except ε α} {g : ε → ε'} {e' : ε'}
    (h : x.mapError g = .error e') : ∃ e, x = .error e ∧ e' = g e := by
  cases x with
  | ok w => cases h
  | error e =>
    cases h
    exact ⟨e, rfl, rfl⟩

/-- A mapped result fails exactly as the result did. -/
theorem Except.map_eq_error {ε α β : Type} {x : Except ε α} {g : α → β} {e : ε}
    (h : g <$> x = .error e) : x = .error e := by
  cases x with
  | ok a => cases h
  | error e' =>
    cases h
    rfl

/-- A result wrapped in `some` succeeds with the wrapped value of the result. -/
theorem Except.map_some_eq_ok {ε α : Type} {x : Except ε α} {v : Option α}
    (h : some <$> x = .ok v) : ∃ a, x = .ok a ∧ v = some a := by
  cases x with
  | ok a =>
    cases h
    exact ⟨a, rfl, rfl⟩
  | error e => cases h

theorem catch_fail_keepsClock {α : Type} {act : Act α} (h : act.KeepsClock)
    (g : Failure → Failure) : (tryCatch act fun f => Act.fail (g f)).KeepsClock :=
  h.tryCatch fun f => Act.keepsClock_fail (g f)

/-- The failure a rejected reset of the system at `systemUri` reports: a power-operation error
naming the reset `issued` when the failure is one the controller gives, and the failure itself
otherwise. -/
def rejection (systemUri issued : Value) (f : Failure) : Failure :=
  if f.isTransient then
    powerFailure s!"Reset {issued.display} of {systemUri.display} was rejected" (.str f.message)
  else f

/-- A power cycle's handler of a rejected reset fails with `rejection`. -/
theorem rejected_eq {β : Type} (systemUri issued : Value) (f : Failure) :
    (if f.isTransient then
      Act.fail (powerFailure s!"Reset {issued.display} of {systemUri.display} was rejected"
        (.str f.message))
    else Act.fail f : Act β) = Act.fail (rejection systemUri issued f) := by
  unfold rejection
  split <;> rfl

/-- The reset issued after a read of the power state `current`: `On` for a system that is
`Off`, which cannot be restarted, and the requested type otherwise. -/
def issuedFor (resetType current : Value) : Value :=
  if same current (.str "Off") then .str "On" else resetType

/-! ## The reads before the polls -/

/-- The first read of a power cycle: one GET of the system, and the state read, its failure
rejected. -/
theorem firstRead_spec (c : Client) {systemUri : Value} {path : String}
    (hpath : c.target systemUri = .ok path) (resetType : Value) :
    (tryCatch (some <$> c.powerState systemUri) fun f =>
        Act.fail (rejection systemUri resetType f)).Spec fun r evs =>
      ∃ answer, evs = [.exchange { method := .get, path, payload := .null } answer] ∧
        r = (some <$> powerRead systemUri answer).mapError (rejection systemUri resetType) := by
  have hread : (some <$> c.powerState systemUri).Spec fun r evs => ∃ answer,
      evs = [.exchange { method := .get, path, payload := .null } answer] ∧
      r = some <$> powerRead systemUri answer := by
    refine Act.Spec.map (c.powerState_answer hpath) ?_ ?_
    · rintro x e ⟨answer, he, hx⟩
      exact ⟨answer, he, by rw [← hx]; rfl⟩
    · rintro f e ⟨answer, he, hf⟩
      exact ⟨answer, he, by rw [← hf]; rfl⟩
  refine (catch_fail_spec hread _).mono fun r evs h => ?_
  obtain ⟨r₀, ⟨answer, he, hr₀⟩, hr⟩ := h
  exact ⟨answer, he, by rw [hr, hr₀]⟩

/-! ## The polls -/

/-- A ridden-out read of the power state: one GET of the system's path, no wait. -/
theorem riding_powerState_timed (c : Client) {systemUri : Value} {path : String}
    (hpath : c.target systemUri = .ok path) (tb : Timebase) (N : Int) :
    (riding (c.powerState systemUri)).Timed tb N fun r evs d => d = 0 ∧ ∃ answer,
      evs = [.exchange { method := .get, path, payload := .null } answer] ∧
      r = ridden (powerRead systemUri answer) :=
  riding_timed (c.powerState_answer hpath) (c.powerState_keepsClock systemUri) tb N

/-- Whether the power loop goes on from a read: any state, or a failure it rides out. -/
def powerReadable : Except Failure Value → Bool
  | .ok _ => true
  | .error f => f.isTransient

/-- The state a read settles the power loop in: the state read, when it is `expected`. -/
def reachesState (expected : Value) : Except Failure Value → Option Value
  | .ok state => if same state expected then some state else none
  | .error _ => none

/-- The states seen and the polls made, after a poll that read `read`: one poll more, and a state
read noted when it differs from the last one seen. -/
def notePoll (kept : List Value × Nat) : Except Failure Value → List Value × Nat
  | .ok state => (noteState kept.1 state, kept.2 + 1)
  | .error _ => (kept.1, kept.2 + 1)

/-- What the power loop makes of a read of the power state, waiting for `expected`. -/
def powerRule (expected : Value) : PollRule Value (List Value × Nat) Value :=
  ⟨powerReadable, reachesState expected, notePoll⟩

/-- The power loop is a poll loop of `powerRule`: after its sleep, a round reads the power state
once; it goes on from a failure it rides out and from a state other than `expected`, returns at
`expected`, and fails on any other read. -/
theorem pollPower_isPollLoop (c : Client) {systemUri : Value} {path : String}
    (hpath : c.target systemUri = .ok path) (expected interval deadline : Value) :
    IsPollLoop (powerRule expected) (powerRead systemUri) interval deadline path Prod.mk
      (fun fuel kept => pollPower c systemUri expected interval deadline fuel kept.1 kept.2) := by
  intro fuel kept
  apply Exists.intro
  constructor
  · show pollPower c systemUri expected interval deadline (fuel + 1) kept.1 kept.2 = _
    rw [pollPower]
    congr 1
    funext left
    cases left with
    | none => rfl
    | some remaining => rfl
  intro tb I D M hrest
  have hact : (riding (c.powerState systemUri)).Timed tb M fun r evs d => d = 0 ∧ ∃ answer,
      evs = [.exchange { method := .get, path, payload := .null } answer] ∧
      r = ridden (id <$> powerRead systemUri answer) := by
    simpa only [id_map] using riding_powerState_timed c hpath tb M
  dsimp only
  refine RoundRun.riding_bind hact (fun f => ⟨rfl, rfl⟩)
    (fun f _ => hrest (notePoll kept (.error f))) (fun answer state hread => ?_)
  have hreadable : powerReadable (powerRead systemUri answer) = true := by rw [hread]; rfl
  by_cases hs : same state expected = true
  · -- the expected state ends the loop
    have ho : (powerRule expected).settles (.ok state) = some state := by
      simp [powerRule, reachesState, hs]
    rw [id]
    dsimp only
    rw [if_pos hs]
    exact Act.Timed.of_pure (.last fun _ => by rw [hread]; exact ReadsEnd.settled rfl ho)
  · -- any other state: the rest of the loop
    have hgo : reachesState expected (powerRead systemUri answer) = none := by
      rw [hread]
      simp [reachesState, hs]
    rw [id]
    dsimp only
    rw [if_neg hs]
    refine (hrest (notePoll kept (.ok state))).mono fun r e' d' h => ?_
    obtain ⟨answers, h⟩ := h
    exact .next hreadable hgo (by rw [hread]; exact h)

/-- **The power loop on a clock of whole seconds.** At a positive interval of `I` seconds and a
deadline of `D` seconds, from `N`, with a budget beyond the polls the deadline allows, the loop
is the run its answers describe. -/
theorem pollPower_timed (c : Client) {systemUri : Value} {path : String}
    (hpath : c.target systemUri = .ok path) (expected : Value) {tb : Timebase} {I D : Int}
    (hI : 0 < I) {interval deadline : Value} (hinterval : Value.Seconds tb interval I)
    (hdeadline : Value.Seconds tb deadline D) (fuel : Nat) (seen : List Value) (polls : Nat)
    (N : Int) (hN : tb.Fits N) (hleft : tb.Fits (D - N)) (hfuel : pollsWithin I (D - N) < fuel) :
    (pollPower c systemUri expected interval deadline fuel seen polls).Timed tb N
      fun r evs d => ∃ answers, PollRun (powerRule expected) (powerRead systemUri) tb I (D - N)
        path (seen, polls) answers Prod.mk r evs d :=
  (pollPower_isPollLoop c hpath expected interval deadline).timed hI hinterval hdeadline fuel
    (seen, polls) N hN hleft hfuel

/-! ## The whole cycle -/

/-- What a power cycle reports once its polls are done, `elapsed` after the reset, from where
they settled and the states and polls kept: the result when the system reached a state, and
otherwise the failure that lists the states seen, which itself fails when a state seen is not a
text. -/
def powerEnd (systemUri resetType issued timeout elapsed : Value) (reached : Option Value)
    (kept : List Value × Nat) : Except Failure PowerResult :=
  reached.elim
    (do
      let observed ← joinTexts " -> " (.list kept.1)
      let observed := if observed.isEmpty then "no power state" else observed
      throw (powerFailure
        s!"System {systemUri.display} did not reach power state {settledState.display} within {timeout.display} seconds"
        (.str s!"observed: {observed}")))
    fun state => pure { systemUri, resetType, issued, finalState := state, transitions := kept.1,
                        polls := kept.2, elapsed }

/-- Texts joined are the texts with the separator between them. -/
theorem joinTexts_texts (sep : String) (ss : List String) :
    joinTexts sep (.list (ss.map .str)) = .ok (sep.intercalate ss) := by
  have hgo : ∀ i, textsOf.go i (ss.map .str) = .ok ss := by
    induction ss with
    | nil => intro i; rfl
    | cons s ss ih =>
      intro i
      rw [List.map_cons, textsOf.go, ih]
      rfl
  simp only [joinTexts, Value.members, textsOf, pure_bind, hgo]
  rfl

/-- A join fails at the first item that is not a text, naming its place. -/
theorem joinTexts_untexted (sep : String) (ss : List String) {x : Value} (hx : ∀ s, x ≠ .str s)
    (rest : List Value) :
    joinTexts sep (.list (ss.map .str ++ x :: rest)) =
      .error (.mistyped (.joinItem ss.length x.kind)) := by
  have hgo : ∀ i, textsOf.go i (ss.map .str ++ x :: rest) =
      .error (.mistyped (.joinItem (i + ss.length) x.kind)) := by
    induction ss with
    | nil =>
      intro i
      cases x with
      | str s => exact absurd rfl (hx s)
      | _ => rfl
    | cons s ss ih =>
      intro i
      rw [List.map_cons, List.cons_append, textsOf.go, ih, List.length_cons, ← Nat.add_assoc,
        Nat.add_right_comm]
      rfl
  simp only [joinTexts, Value.members, textsOf, pure_bind, hgo, Nat.zero_add]
  rfl

/-- A cycle that saw only texts and never reached a state reports the timeout, with the states
it saw joined by arrows, or `no power state`. -/
theorem powerEnd_timedOut (systemUri resetType issued timeout elapsed : Value)
    (seen : List String) (polls : Nat) :
    let joined := " -> ".intercalate seen
    let observed := if joined.isEmpty then "no power state" else joined
    powerEnd systemUri resetType issued timeout elapsed none (seen.map .str, polls) =
      .error (powerFailure
        s!"System {systemUri.display} did not reach power state {settledState.display} within {timeout.display} seconds"
        (.str s!"observed: {observed}")) := by
  intro joined observed
  rw [powerEnd, Option.elim, joinTexts_texts]
  rfl

/-- A cycle that never reached a state but saw one that is not a text fails on listing what it
saw, at the first such state. -/
theorem powerEnd_untexted (systemUri resetType issued timeout elapsed : Value)
    (seen : List String) {x : Value} (hx : ∀ s, x ≠ .str s) (rest : List Value) (polls : Nat) :
    powerEnd systemUri resetType issued timeout elapsed none (seen.map .str ++ x :: rest, polls) =
      .error (.mistyped (.joinItem seen.length x.kind)) := by
  rw [powerEnd, Option.elim, joinTexts_untexted _ _ hx]
  rfl

/-- How a power cycle of the system at `systemUri`, read at `path`, with `resetType` and a
timeout of `T` seconds, given as `timeout`, at the interval `I` goes on a clock in the timebase
`tb`, as its result, its events and the seconds it waits show. -/
inductive PowerCycleRun (tb : Timebase) (c : Client) (systemUri : Value) (path : String)
    (resetType : Value) (I T : Int) (timeout : Value) :
    Except Failure PowerResult → List Event → Int → Prop
  /-- A reset type it does not know is refused before any request. -/
  | refused (hunknown : (resetTypeNames.any fun t => same resetType (.str t)) = false) :
      PowerCycleRun tb c systemUri path resetType I T timeout
        (.error (unsupportedReset resetType)) [] 0
  /-- The first read of the power state failed: the reset is rejected. -/
  | unread {answer : Except Failure Response} {f : Failure}
      (hknown : (resetTypeNames.any fun t => same resetType (.str t)) = true)
      (hread : powerRead systemUri answer = .error f) :
      PowerCycleRun tb c systemUri path resetType I T timeout
        (.error (rejection systemUri resetType f))
        [.exchange { method := .get, path, payload := .null } answer] 0
  /-- The reset, `On` for a system read `Off`, failed: it is rejected, with no sleep. -/
  | unreset {answer : Except Failure Response} {current : Value} {f : Failure}
      {resetEvs : List Event}
      (hknown : (resetTypeNames.any fun t => same resetType (.str t)) = true)
      (hread : powerRead systemUri answer = .ok current)
      (hreset : ResetSent c systemUri (issuedFor resetType current) path (.error f) resetEvs) :
      PowerCycleRun tb c systemUri path resetType I T timeout
        (.error (rejection systemUri (issuedFor resetType current) f))
        (.exchange { method := .get, path, payload := .null } answer :: resetEvs) 0
  /-- The reset went through: the polls of the power state that follow, `d` seconds of them,
  end the cycle as `powerEnd` says, reporting `d` seconds waited. -/
  | polled {answer : Except Failure Response} {current : Value} {resetEvs : List Event}
      {answers : List (Except Failure Response)}
      {polls : Except Failure (Option Value × List Value × Nat)} {evs : List Event} {d : Int}
      {elapsed : Value} {r : Except Failure PowerResult}
      (hknown : (resetTypeNames.any fun t => same resetType (.str t)) = true)
      (hread : powerRead systemUri answer = .ok current)
      (hreset : ResetSent c systemUri (issuedFor resetType current) path (.ok ()) resetEvs)
      (hpolls : PollRun (powerRule settledState) (powerRead systemUri) tb I T path ([], 0) answers
        Prod.mk polls evs d)
      (helapsed : Value.Seconds tb elapsed d)
      (hr : r = polls >>= fun x =>
        powerEnd systemUri resetType (issuedFor resetType current) timeout elapsed x.1 x.2) :
      PowerCycleRun tb c systemUri path resetType I T timeout r
        (.exchange { method := .get, path, payload := .null } answer :: resetEvs ++ evs) d

/-- **A power cycle on a clock of whole seconds.** A power cycle of the system at `uri` with a
timeout of `T` seconds, at the coordinator's positive interval of `I` seconds, from any time `N`
the timebase spans the wait from, goes as `PowerCycleRun` says. The times may be whole numbers,
or doubles that hold whole numbers. -/
theorem Coordinator.powerCycle_run (pc : Coordinator) {uri : String} {resetType : Value}
    {tb : Timebase} {I T : Int} (hI : 0 < I) (hinterval : Value.Seconds tb pc.interval I)
    {timeout : Value} (htimeout : Value.Seconds tb timeout T) {path : String}
    (hpath : pc.client.target (.str uri) = .ok path) (N : Int) (hspan : tb.Spans N T) :
    (pc.powerCycle (.str uri) resetType timeout).Timed tb N
      (PowerCycleRun tb pc.client (.str uri) path resetType I T timeout) := by
  unfold Coordinator.powerCycle
  dsimp only
  split
  · -- a reset type it does not know
    rename_i hunknown
    rw [Act.fail_bind]
    exact Act.Timed.of_fail (.refused (by simpa using hunknown))
  rename_i hknown
  have hknown : (resetTypeNames.any fun t => same resetType (.str t)) = true := by
    simpa using hknown
  simp only [rejected_eq, Act.fail_bind]
  -- the first read of the power state
  refine Act.Timed.keeps_bind (firstRead_spec pc.client hpath resetType)
    (catch_fail_keepsClock ((pc.client.powerState_keepsClock _).map some) _)
    (fun current e₁ h => ?_) (fun g e₁ h => ?unread)
  case unread =>
    obtain ⟨answer, rfl, hg⟩ := h
    obtain ⟨f, hf, rfl⟩ := Except.mapError_eq_error hg.symm
    exact .unread hknown (Except.map_eq_error hf)
  obtain ⟨answer, rfl, hcurrent⟩ := h
  obtain ⟨state, hread, rfl⟩ := Except.map_some_eq_ok (Except.mapError_eq_ok hcurrent.symm)
  -- the reset, `On` for a system that is off
  refine Act.Timed.keeps_bind (catch_fail_spec (pc.client.reset_sent hpath _) _)
    (catch_fail_keepsClock (pc.client.reset_keepsClock _ _) _)
    (fun u e₂ h => ?_) (fun g e₂ h => ?unreset)
  case unreset =>
    obtain ⟨r₀, hreset, hg⟩ := h
    obtain ⟨f, rfl, rfl⟩ := Except.mapError_eq_error hg.symm
    exact .unreset hknown hread hreset
  obtain ⟨r₀, hreset, hu⟩ := h
  rw [Except.mapError_eq_ok hu.symm] at hreset
  cases u
  simp only [List.singleton_append]
  -- the polls start `T` seconds before their deadline
  refine Act.Timed.now_bind fun start hstart => ?_
  obtain ⟨deadline, hdeadline, hsecs⟩ := Value.plus_seconds hstart htimeout hspan.deadline
  refine Act.Timed.ofExcept_ok_bind hdeadline ?_
  have hT : N + T - N = T := by omega
  have hfuel : pollsWithin I (N + T - N) < pollBudget pc.interval timeout := by
    rw [hT]
    exact pollsWithin_lt_pollBudget hI hinterval htimeout hspan
  refine Act.Timed.bind (pollPower_timed pc.client hpath settledState hI hinterval hsecs _ [] 0 N
      hspan.start (by rw [hT]; exact htimeout.fits) hfuel)
    (fun x e₃ d₃ h => ?_) (fun f e₃ d₃ h => ?failed)
  case failed =>
    obtain ⟨answers, h⟩ := h
    rw [hT] at h
    exact .polled hknown hread hreset h
      (Value.seconds_int (h.polled.waits_fit hI htimeout.fits)) rfl
  obtain ⟨answers, h⟩ := h
  rw [hT] at h
  have hd₃ : tb.Fits d₃ := h.polled.waits_fit hI htimeout.fits
  obtain ⟨reached, seen, polls⟩ := x
  cases reached with
  | none =>
    -- no `On` in time: the failure lists the states seen, if it can
    have hend : ∀ r, r = powerEnd (.str uri) resetType (issuedFor resetType state) timeout
        (.int d₃) none (seen, polls) → PowerCycleRun tb pc.client (.str uri) path resetType I T
          timeout r
          (.exchange { method := .get, path, payload := .null } answer :: e₂ ++ (e₃ ++ []))
          (d₃ + 0) := by
      intro r hr
      rw [List.append_nil, Int.add_zero]
      exact .polled hknown hread hreset h (Value.seconds_int hd₃) hr
    cases hjoin : joinTexts " -> " (.list seen) with
    | error g =>
      refine Act.Timed.ofExcept_error_bind rfl (hend _ ?_)
      rw [powerEnd, Option.elim, hjoin]
      rfl
    | ok observed =>
      refine Act.Timed.ofExcept_ok_bind rfl (Act.Timed.of_fail (hend _ ?_))
      rw [powerEnd, Option.elim, hjoin]
      rfl
  | some reached =>
    -- the state reached, and the seconds since the reset
    have hd : N + d₃ - N = d₃ := by omega
    refine Act.Timed.now_bind fun now hnow => ?_
    obtain ⟨elapsed, helapsed, hsecs⟩ := Value.minus_seconds hnow hstart (by rw [hd]; exact hd₃)
    rw [hd] at hsecs
    refine Act.Timed.ofExcept_ok_bind helapsed (Act.Timed.of_pure ?_)
    rw [List.append_nil, Int.add_zero]
    exact .polled hknown hread hreset h hsecs rfl

/-- A coordinator at ten seconds force-restarting the system `1` with a timeout of a minute,
read as the double `60.0`, from the clock's start. -/
theorem Coordinator.powerCycle_run_system :
    let pc : Coordinator :=
      { client := { baseUrl := "https://192.168.2.230", auth := none, verify := .bool false,
                    timeout := .int 30, headers := [] },
        interval := .int 10 }
    (0 : Int) < 10 ∧ Value.Seconds .doubles pc.interval 10 ∧
      Value.Seconds .doubles (.float 60) 60 ∧ Timebase.doubles.Spans 0 60 ∧
      ∃ path, pc.client.target (.str "/redfish/v1/Systems/1") = .ok path ∧
        (pc.powerCycle (.str "/redfish/v1/Systems/1") (.str "ForceRestart") (.float 60)).Timed
          .doubles 0
          (PowerCycleRun .doubles pc.client (.str "/redfish/v1/Systems/1") path
            (.str "ForceRestart") 10 60 (.float 60)) :=
  have hinterval : Value.Seconds .doubles (.int 10) 10 := Value.seconds_int (by decide)
  have htimeout : Value.Seconds .doubles (.float 60) 60 :=
    Value.seconds_float ⟨by decide, by decide⟩
  have hspan : Timebase.doubles.Spans 0 60 := by decide
  ⟨by decide, hinterval, htimeout, hspan, (Client.target_str _ _).elim fun path hpath =>
    ⟨path, hpath, Coordinator.powerCycle_run _ (by decide) hinterval htimeout hpath 0 hspan⟩⟩

end VolumeLifecycle.Lifecycle
