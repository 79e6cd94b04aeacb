import VolumeLifecycle.Proofs.Lifecycle.PollLoop
import VolumeLifecycle.Proofs.Redfish.Answers
import VolumeLifecycle.Proofs.Lifecycle.Actions
/-!
# VolumeLifecycle.Proofs.Lifecycle.JobPolls

**Waiting for a job, poll by poll.** On a clock of whole seconds with a positive interval `I`,
a wait of `T` seconds for a job is fully described by the controller's answers to its polls,
whether its times are whole numbers or doubles that hold them:

* it makes the events `pollEvents I T path answers` — before every poll a sleep, the `i`-th for
  `min I (T - i * I)` seconds, then one GET of the job's path — at most
  `pollsWithin I T = ⌈T / I⌉` of them, and it waits `waited I T n = min (n * I) (max T 0)`
  seconds in all;
* every read but the last is one the loop goes on from (`readable`, and it does not settle the
  job); the result reports the outcome of the last read (`outcomeOf`), `TimedOut` only after
  all `⌈T / I⌉` polls, and the fields of the last status read (`JobSight.poll`);
* when a read cannot be gone on from (a failure that is not ridden out, or a state that cannot
  be looked up), the wait fails.

`taskStatusOf` is what a task read makes of the controller's answer (`Client.taskStatus_eq`
proves the read is exactly that), and `jobRule` what the loop makes of a read. The step lemma
`pollJob_isPollLoop` follows one round of the loop through its branches; the run lemma
`pollJob_timed` is then `IsPollLoop.timed`, with a budget the deadline never lets the loop use
up (`pollsWithin_lt_pollBudget`).
-/

/-! ## Riding out a read -/

namespace VolumeLifecycle.Lifecycle

open VolumeLifecycle.Redfish VolumeLifecycle.Value

/-- A ridden-out task read: one GET of the job's path, no wait, and what the answer makes of
it. -/
theorem riding_taskStatus_timed (c : Client) {jobRef : Value} {path : String}
    (hpath : c.target jobRef = .ok path) (tb : Timebase) (N : Int) :
    (riding (c.taskStatus jobRef)).Timed tb N fun r evs d => d = 0 ∧ ∃ answer,
      evs = [.exchange { method := .get, path, payload := .null } answer] ∧
      r = ridden (TaskStatus.toValue <$> taskRead jobRef answer) :=
  riding_timed (c.taskStatus_answer hpath) (c.taskStatus_keepsClock jobRef) tb N

/-! ## How the reads end the loop -/

/-- Whether the loop goes on from a read: a status whose state can be looked up, or a failure
it rides out. -/
def readable : Except Failure TaskStatus → Bool
  | .ok t => t.state.hashable
  | .error f => f.isTransient

/-- Whether a state is a text among `states`. -/
def inStates (state : Value) (states : List String) : Bool :=
  match state with
  | .str s => states.contains s
  | _ => false

/-- A state that can be looked up is looked up among the texts of `states`. -/
theorem stateIn_of_hashable {state : Value} (h : state.hashable = true) (states : List String) :
    stateIn state states = .ok (inStates state states) := by
  unfold stateIn
  rw [h]
  cases state <;> rfl

theorem stateIn_of_not_hashable {state : Value} (h : state.hashable = false) (states : List String) :
    stateIn state states = .error (.mistyped (.unhashable state.kind)) := by
  simp [stateIn, h]

/-- The outcome a read settles the job with, if it does: its state is one of the succeeded
states or one of the failed ones. -/
def settles : Except Failure TaskStatus → Option JobOutcome
  | .ok t =>
      if inStates t.state succeededStates then some .succeeded
      else if inStates t.state failedStates then some .failed
      else none
  | .error _ => none

theorem settles_ne_timedOut (read : Except Failure TaskStatus) : settles read ≠ some .timedOut := by
  unfold settles
  split
  · split
    · simp
    · split <;> simp
  · simp

/-- The sight after a poll that read `read`: one poll more, and the fields of a status read. -/
def JobSight.poll (sight : JobSight) : Except Failure TaskStatus → JobSight
  | .ok t => { state := t.state, percent := t.percent, message := t.message, polls := sight.polls + 1 }
  | .error _ => { sight with polls := sight.polls + 1 }

/-- What the job's poll loop makes of a task read: it goes on from a readable read, stops at a
read that settles the job, and counts the poll into its sight. -/
def jobRule : PollRule TaskStatus JobSight JobOutcome := ⟨readable, settles, JobSight.poll⟩

/-- The outcome of a wait whose polls read `reads`: that of the last read when it settles the
job, and a timeout otherwise. -/
def outcomeOf (reads : List (Except Failure TaskStatus)) : JobOutcome :=
  (jobRule.settled reads).getD .timedOut

/-- A wait times out exactly when its reads settled nothing. -/
theorem outcomeOf_eq_timedOut {reads : List (Except Failure TaskStatus)}
    (h : outcomeOf reads = .timedOut) : jobRule.settled reads = none := by
  unfold outcomeOf at h
  cases hs : jobRule.settled reads with
  | none => rfl
  | some o =>
    rw [hs, Option.getD_some] at h
    subst h
    unfold PollRule.settled at hs
    cases hlast : reads.getLast? with
    | none => rw [hlast] at hs; cases hs
    | some read =>
      rw [hlast, Option.bind_some] at hs
      exact absurd hs (settles_ne_timedOut read)

/-! ## The loop -/

/-- The job's loop is a poll loop of `jobRule`: after its sleep, a round reads the task once;
it goes on from a failure it rides out and from a state that settles nothing, returns the
outcome of a state that settles the job, and fails on any other read. -/
theorem pollJob_isPollLoop (c : Client) {jobRef : Value} {path : String}
    (hpath : c.target jobRef = .ok path) (interval deadline : Value) :
    IsPollLoop jobRule (taskRead jobRef) interval deadline path
      (fun o sight => (o.getD .timedOut, sight)) (pollJob c jobRef interval deadline) := by
  intro fuel sight
  apply Exists.intro
  constructor
  · rw [pollJob]
    congr 1
    funext left
    cases left with
    | none => rfl
    | some remaining => rfl
  intro tb I D M hrest
  refine RoundRun.riding_bind (riding_taskStatus_timed c hpath tb M) (fun f => ⟨rfl, rfl⟩)
    (fun f _ => hrest (sight.poll (.error f))) (fun answer t hread => ?_)
  have hstate : (sight.poll (.ok t)).state = t.state := rfl
  -- the poll's sight takes the status's fields, then the state is looked up twice
  refine Act.Timed.ofExcept_ok_bind (rfl : _ = Except.ok (sight.poll (.ok t))) ?_
  by_cases hh : t.state.hashable = true
  · have hreadable : readable (taskRead jobRef answer) = true := by rw [hread]; exact hh
    refine Act.Timed.ofExcept_ok_bind (by rw [hstate, stateIn_of_hashable hh]) ?_
    by_cases hs : inStates t.state succeededStates = true
    · -- a succeeded state ends the loop
      have ho : settles (taskRead jobRef answer) = some .succeeded := by
        rw [hread]
        simp [settles, hs]
      rw [if_pos hs]
      exact Act.Timed.of_pure (.last fun _ => hread ▸ ReadsEnd.settled hreadable ho)
    rw [if_neg hs]
    refine Act.Timed.ofExcept_ok_bind (by rw [hstate, stateIn_of_hashable hh]) ?_
    by_cases hf : inStates t.state failedStates = true
    · -- a failed state ends the loop
      have ho : settles (taskRead jobRef answer) = some .failed := by
        rw [hread]
        simp [settles, hs, hf]
      rw [if_pos hf]
      exact Act.Timed.of_pure (.last fun _ => hread ▸ ReadsEnd.settled hreadable ho)
    · -- any other state: the rest of the loop
      have hgo : settles (taskRead jobRef answer) = none := by
        rw [hread]
        simp [settles, hs, hf]
      rw [if_neg hf]
      refine (hrest (sight.poll (.ok t))).mono fun r e' d' h => ?_
      obtain ⟨answers, h⟩ := h
      exact .next hreadable hgo (by rw [hread]; exact h)
  · -- a state that cannot be looked up fails the loop
    have hstuck : readable (taskRead jobRef answer) = false := by
      rw [hread]
      simpa [readable] using hh
    refine Act.Timed.ofExcept_error_bind
      (by rw [hstate, stateIn_of_not_hashable (by simpa using hh)]) ?_
    exact .last fun _ => ReadsEnd.stuck_single hstuck

/-- **The job's poll loop on a clock of whole seconds.** At a positive interval of `I` seconds
and a deadline of `D` seconds, from `N`, with a budget beyond the polls the deadline allows, the
loop is the run its answers describe. -/
theorem pollJob_timed (c : Client) {jobRef : Value} {path : String}
    (hpath : c.target jobRef = .ok path) {tb : Timebase} {I D : Int} (hI : 0 < I)
    {interval deadline : Value} (hinterval : Value.Seconds tb interval I)
    (hdeadline : Value.Seconds tb deadline D) (fuel : Nat) (sight : JobSight) (N : Int)
    (hN : tb.Fits N) (hleft : tb.Fits (D - N)) (hfuel : pollsWithin I (D - N) < fuel) :
    (pollJob c jobRef interval deadline fuel sight).Timed tb N fun r evs d =>
      ∃ answers, PollRun jobRule (taskRead jobRef) tb I (D - N) path sight answers
        (fun o sight => (o.getD .timedOut, sight)) r evs d :=
  (pollJob_isPollLoop c hpath interval deadline).timed hI hinterval hdeadline fuel sight N hN
    hleft hfuel

/-- A wait with no interval of its own polls at the poller's. -/
theorem Poller.wait_null (p : Poller) (jobRef timeout : Value) :
    p.wait jobRef timeout .null = p.wait jobRef timeout p.interval := by
  unfold Poller.wait
  cases p.interval <;> rfl

/-- **Waiting for a job on a clock of whole seconds.** A wait of `T` seconds for the job `j`, at a
positive interval of `I` seconds, from any time `N` the timebase spans the wait from: the answers
to its polls describe the whole run (`PollRun`), and its result names the job, its outcome, the
last sight and the seconds waited. -/
theorem Poller.wait_timed (p : Poller) {j : String} (hj : j ≠ "") {tb : Timebase} {T I : Int}
    (hI : 0 < I) {timeout interval : Value} (htimeout : Value.Seconds tb timeout T)
    (hinterval : Value.Seconds tb interval I) {path : String}
    (hpath : p.client.target (.str j) = .ok path) (N : Int) (hspan : tb.Spans N T) :
    (p.wait (.str j) timeout interval).Timed tb N fun r evs d => ∃ answers elapsed,
      Value.Seconds tb elapsed d ∧
      PollRun jobRule (taskRead (.str j)) tb I T path {} answers
        (fun o sight => { jobRef := .str j, outcome := o.getD .timedOut, sight, elapsed }) r
        evs d := by
  have htruthy : (Value.str j).truthy = true := by simpa [Value.truthy] using hj
  unfold Poller.wait
  simp only [htruthy, Bool.not_true, Bool.false_eq_true, if_false]
  -- an interval of seconds is a number, no `null`, so the wait polls at it
  split
  case h_1 =>
    obtain ⟨x, hx, -⟩ := hinterval.numeric?
    cases hx
  rw [if_neg Bool.false_ne_true]
  -- the start, and the deadline `T` seconds after it
  refine Act.Timed.now_bind fun start hstart => ?_
  obtain ⟨deadline, hdeadline, hsecs⟩ := Value.plus_seconds hstart htimeout hspan.deadline
  refine Act.Timed.ofExcept_ok_bind hdeadline ?_
  -- the loop starts `T` seconds before its deadline, with a budget beyond its polls
  have hT : N + T - N = T := by omega
  have hfuel : pollsWithin I (N + T - N) < pollBudget interval timeout := by
    rw [hT]
    exact pollsWithin_lt_pollBudget hI hinterval htimeout hspan
  refine Act.Timed.bind (pollJob_timed p.client hpath hI hinterval hsecs _ {} N hspan.start
      (by rw [hT]; exact htimeout.fits) hfuel)
    (fun x e₂ d₂ h => ?_) (fun f e₂ d₂ h => ?failed)
  case failed =>
    obtain ⟨answers, h⟩ := h
    rw [hT] at h
    have hd₂ : tb.Fits d₂ := h.polled.waits_fit hI htimeout.fits
    exact ⟨answers, .int d₂, Value.seconds_int hd₂, h.map fun x =>
      ({ jobRef := .str j, outcome := x.1, sight := x.2, elapsed := .int d₂ } : JobResult)⟩
  obtain ⟨answers, h⟩ := h
  rw [hT] at h
  have hd₂ : tb.Fits d₂ := h.polled.waits_fit hI htimeout.fits
  -- the time since the start is what the polls waited
  have hd : N + d₂ - N = d₂ := by omega
  refine Act.Timed.now_bind fun now hnow => ?_
  obtain ⟨elapsed, helapsed, hsecs⟩ := Value.minus_seconds hnow hstart (by rw [hd]; exact hd₂)
  rw [hd] at hsecs
  refine Act.Timed.ofExcept_ok_bind helapsed (Act.Timed.of_pure ⟨answers, elapsed, ?_⟩)
  rw [List.append_nil, Int.add_zero]
  exact ⟨hsecs, h.map fun x =>
    ({ jobRef := .str j, outcome := x.1, sight := x.2, elapsed } : JobResult)⟩

/-! ## What the wait reports -/

/-- The reads of a wait whose polls got `answers`. -/
def taskReads (jobRef : Value) (answers : List (Except Failure Response)) :
    List (Except Failure TaskStatus) :=
  answers.map (taskRead jobRef)

/-- The last status the reads got without failing, if any. -/
def lastStatus : List (Except Failure TaskStatus) → Option TaskStatus
  | [] => none
  | read :: reads => (lastStatus reads).or read.toOption

/-- The sight a wait reports after polls that read `reads`: their number, and the fields of the
last status read, `null` when no read gave one. -/
def seenAfter (reads : List (Except Failure TaskStatus)) : JobSight :=
  match lastStatus reads with
  | some t => { state := t.state, percent := t.percent, message := t.message, polls := reads.length }
  | none => { polls := reads.length }

/-- The polls count themselves into the sight, and the last status read fills its fields. -/
theorem JobSight.foldl_poll (sight : JobSight) (reads : List (Except Failure TaskStatus)) :
    reads.foldl JobSight.poll sight =
      match lastStatus reads with
      | some t => { state := t.state, percent := t.percent, message := t.message,
                    polls := sight.polls + reads.length }
      | none => { sight with polls := sight.polls + reads.length } := by
  induction reads generalizing sight with
  | nil => rfl
  | cons read reads ih =>
    rw [List.foldl_cons, ih, lastStatus]
    cases lastStatus reads with
    | some t =>
      have hpolls : (sight.poll read).polls = sight.polls + 1 := by cases read <;> rfl
      simp only [Option.some_or, List.length_cons, hpolls, Nat.add_assoc, Nat.add_comm 1]
    | none => cases read <;> simp [JobSight.poll, Except.toOption, Nat.add_assoc, Nat.add_comm 1]

theorem foldl_poll_start (reads : List (Except Failure TaskStatus)) :
    reads.foldl JobSight.poll {} = seenAfter reads := by
  rw [JobSight.foldl_poll, seenAfter]
  cases lastStatus reads <;> simp

/-- The error the check of a result raises: none for a success; for a failure, a failed-job
error at stage `poll` that names the job and carries the job's message; for a timeout, a
timeout error at stage `poll` that names the job. -/
def JobResult.Raises (res : JobResult) : Prop :=
  match res.outcome with
  | .succeeded => res.check = .ok ()
  | .failed => ∃ e, res.check = .error (.lifecycle e) ∧ e.cls = .jobFailed ∧
      e.stage = .str "poll" ∧ e.jobRef = res.jobRef ∧ e.detail = res.sight.message
  | .timedOut => ∃ e, res.check = .error (.lifecycle e) ∧ e.cls = .jobTimeout ∧
      e.stage = .str "poll" ∧ e.jobRef = res.jobRef

theorem JobResult.raises (res : JobResult) : res.Raises := by
  obtain ⟨jobRef, outcome, sight, elapsed⟩ := res
  cases outcome <;> simp [JobResult.Raises, JobResult.check]

/-- What a wait of `T` seconds at the interval `I` for the job `jobRef` did, given the answers to
its polls of `path`, its seconds written in the timebase `tb`: a sleep before every poll, the
`i`-th for `min I (T - i * I)` seconds, and one GET per poll; at most `⌈T / I⌉` polls and
`min (n * I) (max T 0)` seconds of waiting; every read but the last goes on; and the result
reports the outcome of the reads, the polls, the fields of the last status read and the seconds
waited, or the wait fails on a read it cannot go on from. -/
structure JobWaited (tb : Timebase) (jobRef : Value) (I T : Int) (path : String)
    (answers : List (Except Failure Response)) (r : Except Failure JobResult) (evs : List Event)
    (d : Int) : Prop where
  events : List.Forall₂ (Event.ReadsAs tb) evs (pollEvents I T path answers)
  sleeps : List.Forall₂ (Value.Seconds tb) (evs.filterMap Event.seconds?)
    ((List.range answers.length).map fun i : Nat => min I (T - i * I))
  calls : evs.filterMap Event.call? =
    List.replicate answers.length { method := .get, path, payload := .null }
  within : answers.length ≤ pollsWithin I T
  waits : d = min (answers.length * I) (max T 0)
  waits_le : d ≤ max T 0
  goes_on : ∀ read ∈ (taskReads jobRef answers).dropLast, readable read = true ∧ settles read = none
  reports : (taskReads jobRef answers).all readable = true → ∃ res, r = .ok res ∧
    res.jobRef = jobRef ∧ res.outcome = outcomeOf (taskReads jobRef answers) ∧
    res.sight = seenAfter (taskReads jobRef answers) ∧ Value.Seconds tb res.elapsed d ∧ res.Raises
  timedOut : (taskReads jobRef answers).all readable = true →
    outcomeOf (taskReads jobRef answers) = .timedOut → answers.length = pollsWithin I T
  stuck : (taskReads jobRef answers).all readable = false → ∃ f, r = .error f

theorem JobWaited.of_polled {tb : Timebase} {jobRef : Value} {I T : Int} {path : String}
    {answers : List (Except Failure Response)} {r : Except Failure JobResult} {evs : List Event}
    {d : Int} {elapsed : Value} (helapsed : Value.Seconds tb elapsed d)
    (h : PollRun jobRule (taskRead jobRef) tb I T path {} answers
      (fun o sight => { jobRef, outcome := o.getD .timedOut, sight, elapsed }) r evs d) :
    JobWaited tb jobRef I T path answers r evs d where
  events := h.polled.events
  sleeps := pollEvents_sleeps h.polled.events
  calls := pollEvents_calls h.polled.events
  within := h.polled.within
  waits := h.polled.waits
  waits_le := h.polled.waits ▸ Int.min_le_right _ _
  goes_on := h.ends.goes_on
  reports := fun hall => by
    refine ⟨_, h.ends.result hall, rfl, rfl, ?_, helapsed, JobResult.raises _⟩
    exact foldl_poll_start _
  timedOut := fun hall hout => by
    rw [← List.length_map (f := taskRead jobRef)]
    exact h.ends.timedOut hall (outcomeOf_eq_timedOut hout)
  stuck := h.ends.stuck

/-- **Waiting for a job polls it until the deadline.** For a job reference `j` that is not
empty, a timeout of `T` seconds and a positive interval of `I` seconds, given or the poller's
own, a wait from any time `N` makes the polls `JobWaited` describes, whatever the controller
answers: a sleep before every poll, the `i`-th for `min I (T - i * I)` seconds; at most
`⌈T / I⌉` polls; the outcome of the first read that settles the job, or a timeout after all
`⌈T / I⌉` polls; `min (n * I) (max T 0)` seconds waited; the fields of the last status read; and
a check that raises a failed-job or a timeout error. The times may be whole numbers, or doubles
that hold whole numbers (the timebase of doubles, with a start and a deadline of at most 53
bits and a wait shorter than `2 ^ 32` seconds). -/
theorem Poller.wait_until_deadline (p : Poller) {j : String} (hj : j ≠ "") {tb : Timebase}
    {T I : Int} (hI : 0 < I) {timeout interval : Value} (htimeout : Value.Seconds tb timeout T)
    (hinterval : Value.Seconds tb interval I ∨
      interval = .null ∧ Value.Seconds tb p.interval I) {path : String}
    (hpath : p.client.target (.str j) = .ok path) (N : Int) (hspan : tb.Spans N T) :
    (p.wait (.str j) timeout interval).Timed tb N fun r evs d => ∃ answers,
      JobWaited tb (.str j) I T path answers r evs d := by
  -- a wait with no interval of its own is the wait at the poller's
  obtain ⟨interval', hinterval', hwait⟩ : ∃ interval', Value.Seconds tb interval' I ∧
      p.wait (.str j) timeout interval = p.wait (.str j) timeout interval' := by
    rcases hinterval with h | ⟨rfl, hp⟩
    · exact ⟨interval, h, rfl⟩
    · exact ⟨p.interval, hp, Poller.wait_null p _ _⟩
  rw [hwait]
  refine (Poller.wait_timed p hj hI htimeout hinterval' hpath N hspan).mono fun r evs d h => ?_
  obtain ⟨answers, elapsed, helapsed, h⟩ := h
  exact ⟨answers, JobWaited.of_polled helapsed h⟩

/-- A poller at ten seconds waiting 25 seconds, read as the double `25.0`, for the task `J1` with
its own interval, from the clock's start at the double `0.0`. -/
theorem Poller.wait_until_deadline_task :
    let p : Poller :=
      { client := { baseUrl := "https://192.168.2.230", auth := none, verify := .bool false,
                    timeout := .int 30, headers := [] },
        interval := .int 10 }
    "/redfish/v1/TaskService/Tasks/J1" ≠ "" ∧ (0 : Int) < 10 ∧
      Value.Seconds .doubles (.float 25) 25 ∧
      (Value.Seconds .doubles .null 10 ∨ Value.null = .null ∧ Value.Seconds .doubles p.interval 10) ∧
      Timebase.doubles.Spans 0 25 ∧
      ∃ path, p.client.target (.str "/redfish/v1/TaskService/Tasks/J1") = .ok path ∧
        (p.wait (.str "/redfish/v1/TaskService/Tasks/J1") (.float 25) .null).Timed .doubles 0
          fun r evs d =>
            ∃ answers, JobWaited .doubles (.str "/redfish/v1/TaskService/Tasks/J1") 10 25 path
              answers r evs d :=
  have htimeout : Value.Seconds .doubles (.float 25) 25 :=
    Value.seconds_float ⟨by decide, by decide⟩
  have hinterval : Value.Seconds .doubles (.int 10) 10 := Value.seconds_int (by decide)
  have hspan : Timebase.doubles.Spans 0 25 := by decide
  ⟨by decide, by decide, htimeout, .inr ⟨rfl, hinterval⟩, hspan,
    (Client.target_str _ _).elim fun path hpath =>
      ⟨path, hpath, Poller.wait_until_deadline _ (by decide) (by decide) htimeout
        (.inr ⟨rfl, hinterval⟩) hpath 0 hspan⟩⟩

/-- A wait with a negative timeout reports no time waited, which is more than its timeout. -/
theorem Poller.wait_negative_timeout_elapsed :
    let p : Poller :=
      { client := { baseUrl := "https://192.168.2.230", auth := none, verify := .bool false,
                    timeout := .int 30, headers := [] },
        interval := .int 10 }
    let s : Site :=
      { controller := { resources := [], readScripts := [], changeScripts := [],
                        defaultChange := .accepted, resetReply := .noContent, power := none,
                        failReads := none },
        clock := { now := .int 0 } }
    ((p.wait (.str "/redfish/v1/TaskService/Tasks/J1") (.int (-5)) .null).runOn s).1 =
      .ok { jobRef := .str "/redfish/v1/TaskService/Tasks/J1", outcome := .timedOut, sight := {},
            elapsed := .int 0 } := rfl

end VolumeLifecycle.Lifecycle
