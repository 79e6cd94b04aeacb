import VolumeLifecycle.Proofs.Lifecycle.Deadline
import VolumeLifecycle.Proofs.Lifecycle.Actions
/-!
# VolumeLifecycle.Proofs.Lifecycle.PollLoop

**A poll loop, described by the answers to its polls.** The loops that wait for a job and for a
power state have one shape: while time is left they sleep, read one resource, and stop when a
read settles what they wait for; a read that fails in a way they ride out, or that settles
nothing, lets them go on, and any other read fails them. On a clock of whole seconds with a
positive interval, in either timebase, a run of such a loop is described by the controller's
answers to its polls, in two parts:

* the clock side (`Polled`): a sleep before every poll, the `i`-th for `min I (R - i * I)`
  seconds written in the timebase of the run, within the `⌈R / I⌉` polls the deadline allows,
  for `waited` seconds in all;
* the reads side (`ReadsEnd`), given what the loop makes of a read (`PollRule`): every read but
  the last goes on; when every read could be gone on from, the result is made of where the last
  read settled (nothing means the deadline passed, and then only after all `⌈R / I⌉` polls) and
  of what the loop kept of the reads; otherwise the loop failed.

## Proof shape

`PollRun` is the two parts together. It is built one poll at a time, as the loop runs: no poll
when no time is left (`PollRun.expired`), a poll the loop goes on from in front of the run from
one sleep later (`PollRun.cons`), and a last poll that settles or fails the loop
(`PollRun.single`). A loop states once what one round does after its sleep (`IsPollLoop`, with
`RoundRun`); `IsPollLoop.timed` follows the loop by induction on its budget and picks the step
lemma for each way a round ends, so each loop proves its round and nothing more. Both loops
begin a round by riding out one read, and `RoundRun.riding_bind` settles the failures of that
read for them, leaving each loop what it does with a read it got.
-/

namespace VolumeLifecycle.Lifecycle

open VolumeLifecycle.Redfish VolumeLifecycle.Value

/-! ## The clock side -/

/-- The events and the wait of polls of `path` answered with `answers`, the first at `R` seconds
before the deadline: a sleep before every poll, its seconds written in the timebase `tb`, within
the polls the deadline allows, and `waited` seconds in all. -/
structure Polled (tb : Timebase) (I R : Int) (path : String)
    (answers : List (Except Failure Response)) (evs : List Event) (d : Int) : Prop where
  events : List.Forall₂ (Event.ReadsAs tb) evs (pollEvents I R path answers)
  within : answers.length ≤ pollsWithin I R
  waits : d = waited I R answers.length

namespace Polled

variable {tb : Timebase} {I R : Int} {path : String} {answer : Except Failure Response}
  {answers : List (Except Failure Response)} {evs : List Event} {d : Int} {v : Value}

/-- With no time left, no poll. -/
theorem expired (tb : Timebase) (I R : Int) (path : String) : Polled tb I R path [] [] 0 where
  events := .nil
  within := Nat.zero_le _
  waits := (waited_zero I R).symm

/-- A poll at `R > 0` seconds before the deadline: a sleep of `min I R` seconds, the GET, and
the polls from `R - min I R`. -/
theorem cons (hI : 0 < I) (hR : 0 < R) (hv : Value.Seconds tb v (min I R))
    (h : Polled tb I (R - min I R) path answers evs d) :
    Polled tb I R path (answer :: answers)
      (.sleep v :: .exchange { method := .get, path, payload := .null } answer :: evs)
      (min I R + d) where
  events := .cons ⟨v, rfl, hv⟩
    (.cons rfl (pollEvents_of_pollsWithin hI path h.within ▸ h.events))
  within := by
    rw [List.length_cons, ← pollsWithin_after_sleep hI hR]
    exact Nat.succ_le_succ h.within
  waits := by rw [h.waits, List.length_cons, waited_succ hI hR h.within]

/-- A last poll at `R > 0` seconds before the deadline. -/
theorem single (hI : 0 < I) (hR : 0 < R) (hv : Value.Seconds tb v (min I R))
    (answer : Except Failure Response) :
    Polled tb I R path [answer]
      [.sleep v, .exchange { method := .get, path, payload := .null } answer] (min I R) where
  events := .cons ⟨v, rfl, hv⟩ (.cons rfl .nil)
  within := by
    rw [← pollsWithin_after_sleep hI hR]
    exact Nat.succ_le_succ (Nat.zero_le _)
  waits := by simp only [waited, List.length_singleton, Nat.cast_one, Int.one_mul]; omega

/-- The polls wait between no time and the time left, so for seconds the timebase can write. -/
theorem waits_fit (h : Polled tb I R path answers evs d) (hI : 0 < I) (hR : tb.Fits R) :
    tb.Fits d := by
  have h0 : 0 ≤ (answers.length : Int) * I :=
    Int.mul_nonneg (Int.natCast_nonneg _) (Int.le_of_lt hI)
  refine hR.of_natAbs_le ?_
  rw [h.waits, waited]
  omega

end Polled

/-! ## Riding out a read -/

/-- What riding out a read makes of its result: the result, nothing after a failure the loop
rides out, and the failure itself otherwise. -/
def ridden {α : Type} : Except Failure α → Except Failure (Option α)
  | .ok x => .ok (some x)
  | .error f => if f.isTransient then .ok none else .error f

theorem riding_keepsClock {α : Type} {act : Act α} (h : act.KeepsClock) :
    (riding act).KeepsClock :=
  (h.map some).tryCatch fun f => Act.KeepsClock.ite (Act.keepsClock_pure none) (Act.keepsClock_fail f)

/-- A read ridden out: one GET of `path`, no wait, and what riding makes of what the read got
from the answer. -/
theorem riding_timed {α : Type} {act : Act α} {path : String}
    {readOf : Except Failure Response → Except Failure α}
    (h : act.Spec fun r evs => ∃ answer,
      evs = [.exchange { method := .get, path, payload := .null } answer] ∧ r = readOf answer)
    (hk : act.KeepsClock) (tb : Timebase) (N : Int) :
    (riding act).Timed tb N fun r evs d => d = 0 ∧ ∃ answer,
      evs = [.exchange { method := .get, path, payload := .null } answer] ∧
      r = ridden (readOf answer) := by
  refine ((riding_spec h).timed (riding_keepsClock hk) tb N).mono ?_
  intro r evs d hr
  obtain ⟨hr, hd⟩ := hr
  refine ⟨hd, ?_⟩
  rcases hr with ⟨x, hr, answer, he, hx⟩ | ⟨f, ht, hr, answer, he, hf⟩ | ⟨f, ht, hr, answer, he, hf⟩
  · exact ⟨answer, he, by rw [hr, ← hx]; rfl⟩
  · exact ⟨answer, he, by rw [hr, ← hf, ridden, if_pos ht]⟩
  · exact ⟨answer, he, by rw [hr, ← hf, ridden, if_neg (by simp [ht])]⟩

/-- A ridden read that fails is a read that failed in a way the loop does not ride out. -/
theorem ridden_eq_error {α : Type} {read : Except Failure α} {f : Failure}
    (h : .error f = ridden read) : read = .error f ∧ f.isTransient = false := by
  cases read with
  | ok x => cases h
  | error g =>
    by_cases ht : g.isTransient = true
    · rw [ridden, if_pos ht] at h
      cases h
    · rw [ridden, if_neg ht] at h
      cases h
      exact ⟨rfl, by simpa using ht⟩

/-! ## The reads side -/

/-- What a poll loop makes of a read of type `ρ`: whether it can go on from it, what it settles
(of type `ω`), and how it updates what it keeps (of type `σ`). -/
structure PollRule (ρ σ ω : Type) where
  readable : Except Failure ρ → Bool
  settles : Except Failure ρ → Option ω
  poll : σ → Except Failure ρ → σ

namespace PollRule

variable {ρ σ ω : Type} (rule : PollRule ρ σ ω)

/-- Where reads settled: where the last one did, if it did. -/
def settled (reads : List (Except Failure ρ)) : Option ω := reads.getLast?.bind rule.settles

theorem settled_cons {read : Except Failure ρ} (hgo : rule.settles read = none)
    (reads : List (Except Failure ρ)) : rule.settled (read :: reads) = rule.settled reads := by
  cases reads with
  | nil => simp [settled, hgo]
  | cons read' reads => simp [settled, List.getLast?_cons_cons]

theorem settled_single {read : Except Failure ρ} : rule.settled [read] = rule.settles read := by
  simp [settled]

end PollRule

/-- How reads `reads` end a loop that follows `rule`, is allowed `K` polls and starts keeping
`start`, `finish` making its result of where the reads settled and what the loop kept: every
read but the last goes on; when every read could be gone on from, the result is that of the
reads, and a deadline that passed took all `K` polls; otherwise the loop failed. -/
structure ReadsEnd {ρ σ ω β : Type} (rule : PollRule ρ σ ω) (K : Nat) (start : σ)
    (reads : List (Except Failure ρ)) (finish : Option ω → σ → β) (r : Except Failure β) :
    Prop where
  goes_on : ∀ read ∈ reads.dropLast, rule.readable read = true ∧ rule.settles read = none
  result : reads.all rule.readable = true →
    r = .ok (finish (rule.settled reads) (reads.foldl rule.poll start))
  timedOut : reads.all rule.readable = true → rule.settled reads = none → reads.length = K
  stuck : reads.all rule.readable = false → ∃ f, r = .error f

namespace ReadsEnd

variable {ρ σ ω β : Type} {rule : PollRule ρ σ ω} {K : Nat} {start : σ}
  {read : Except Failure ρ} {reads : List (Except Failure ρ)} {finish : Option ω → σ → β}
  {r : Except Failure β}

/-- No polls: the deadline passed with what the loop started with. -/
theorem nil (rule : PollRule ρ σ ω) (start : σ) (finish : Option ω → σ → β) :
    ReadsEnd rule 0 start [] finish (.ok (finish none start)) where
  goes_on := by simp
  result := fun _ => rfl
  timedOut := fun _ _ => rfl
  stuck := by simp

/-- A read the loop goes on from, in front of the reads of the rest of the loop. -/
theorem cons (hread : rule.readable read = true) (hgo : rule.settles read = none)
    (h : ReadsEnd rule K (rule.poll start read) reads finish r) :
    ReadsEnd rule (K + 1) start (read :: reads) finish r where
  goes_on := by
    intro x hx
    cases reads with
    | nil => simp at hx
    | cons read' reads =>
      rw [List.dropLast_cons_cons, List.mem_cons] at hx
      rcases hx with rfl | hx
      · exact ⟨hread, hgo⟩
      · exact h.goes_on x hx
  result := by
    intro hall
    rw [List.all_cons, hread, Bool.true_and] at hall
    rw [h.result hall, rule.settled_cons hgo, List.foldl_cons]
  timedOut := by
    intro hall hout
    rw [List.all_cons, hread, Bool.true_and] at hall
    rw [rule.settled_cons hgo] at hout
    rw [List.length_cons, h.timedOut hall hout]
  stuck := by
    intro hall
    rw [List.all_cons, hread, Bool.true_and] at hall
    exact h.stuck hall

/-- A last read that settles what the loop waits for. -/
theorem settled {o : ω} (hread : rule.readable read = true) (ho : rule.settles read = some o) :
    ReadsEnd rule K start [read] finish (.ok (finish (some o) (rule.poll start read))) where
  goes_on := by simp
  result := fun _ => by rw [rule.settled_single, ho, List.foldl_cons, List.foldl_nil]
  timedOut := fun _ hout => by
    rw [rule.settled_single, ho] at hout
    cases hout
  stuck := by simp [hread]

/-- A last read the loop cannot go on from: the loop fails. -/
theorem stuck_single {f : Failure} (hread : rule.readable read = false) :
    ReadsEnd rule K start [read] finish (.error f) where
  goes_on := by simp
  result := by simp [hread]
  timedOut := by simp [hread]
  stuck := fun _ => ⟨f, rfl⟩

/-- The same end, with `g` applied to the result. -/
theorem map {γ : Type} (h : ReadsEnd rule K start reads finish r) (g : β → γ) :
    ReadsEnd rule K start reads (fun o s => g (finish o s)) (g <$> r) where
  goes_on := h.goes_on
  result := fun hall => by rw [h.result hall]; rfl
  timedOut := h.timedOut
  stuck := fun hall => by
    obtain ⟨f, hf⟩ := h.stuck hall
    exact ⟨f, by rw [hf]; rfl⟩

end ReadsEnd

/-! ## Both sides -/

/-- A run of a poll loop that follows `rule` from `R` seconds before the deadline, reading each
answer to its polls of `path` with `readOf`, on a clock in the timebase `tb`: the polls with the
sleeps before them, and the reads ending it. -/
structure PollRun {ρ σ ω β : Type} (rule : PollRule ρ σ ω)
    (readOf : Except Failure Response → Except Failure ρ) (tb : Timebase) (I R : Int) (path : String)
    (start : σ) (answers : List (Except Failure Response)) (finish : Option ω → σ → β)
    (r : Except Failure β) (evs : List Event) (d : Int) : Prop where
  polled : Polled tb I R path answers evs d
  ends : ReadsEnd rule (pollsWithin I R) start (answers.map readOf) finish r

namespace PollRun

variable {ρ σ ω β : Type} {rule : PollRule ρ σ ω}
  {readOf : Except Failure Response → Except Failure ρ} {tb : Timebase} {I R : Int} {path : String}
  {start : σ} {answer : Except Failure Response} {answers : List (Except Failure Response)}
  {finish : Option ω → σ → β} {r : Except Failure β} {evs : List Event} {d : Int} {v : Value}

/-- With no time left the loop polls nothing, and the deadline has passed. -/
theorem expired (hI : 0 < I) (hR : R ≤ 0) (start : σ) (finish : Option ω → σ → β) :
    PollRun rule readOf tb I R path start [] finish (.ok (finish none start)) [] 0 :=
  ⟨.expired tb I R path, pollsWithin_of_nonpos hI hR ▸ ReadsEnd.nil rule start finish⟩

/-- A poll the loop goes on from, at `R > 0` seconds before the deadline. -/
theorem cons (hI : 0 < I) (hR : 0 < R) (hv : Value.Seconds tb v (min I R))
    (hread : rule.readable (readOf answer) = true) (hgo : rule.settles (readOf answer) = none)
    (h : PollRun rule readOf tb I (R - min I R) path (rule.poll start (readOf answer)) answers
      finish r evs d) :
    PollRun rule readOf tb I R path start (answer :: answers) finish r
      (.sleep v :: .exchange { method := .get, path, payload := .null } answer :: evs)
      (min I R + d) where
  polled := h.polled.cons hI hR hv
  ends := by
    rw [← pollsWithin_after_sleep hI hR, List.map_cons]
    exact ReadsEnd.cons hread hgo h.ends

/-- A last poll at `R > 0` seconds before the deadline, whose read ends the loop. -/
theorem single (hI : 0 < I) (hR : 0 < R) (hv : Value.Seconds tb v (min I R))
    (h : ReadsEnd rule (pollsWithin I R) start [readOf answer] finish r) :
    PollRun rule readOf tb I R path start [answer] finish r
      [.sleep v, .exchange { method := .get, path, payload := .null } answer] (min I R) :=
  ⟨.single hI hR hv answer, h⟩

/-- The same run, with `g` applied to the result. -/
theorem map {γ : Type} (h : PollRun rule readOf tb I R path start answers finish r evs d)
    (g : β → γ) :
    PollRun rule readOf tb I R path start answers (fun o s => g (finish o s)) (g <$> r) evs d :=
  ⟨h.polled, h.ends.map g⟩

end PollRun

/-! ## Stopping in time -/

/-- What stopping in time means for a poll loop that reads each answer with `readOf`, from `R`
seconds before its deadline: at most `⌈R / I⌉` GETs of `path`, at most `max R 0` seconds waited,
and a result whenever the loop could go on from every read. -/
def StopsWithin {ρ β : Type} (readable : Except Failure ρ → Bool)
    (readOf : Except Failure Response → Except Failure ρ) (I R : Int) (path : String)
    (r : Except Failure β) (evs : List Event) (d : Int) : Prop :=
  ∃ answers : List (Except Failure Response), answers.length ≤ pollsWithin I R ∧
    evs.filterMap Event.call? =
      List.replicate answers.length { method := .get, path, payload := .null } ∧
    d ≤ max R 0 ∧ ((answers.map readOf).all readable = true → ∃ v, r = .ok v)

/-- A run of a poll loop stops in time. -/
theorem PollRun.stopsWithin {ρ σ ω β : Type} {rule : PollRule ρ σ ω}
    {readOf : Except Failure Response → Except Failure ρ} {tb : Timebase} {I R : Int}
    {path : String} {start : σ} {answers : List (Except Failure Response)}
    {finish : Option ω → σ → β} {r : Except Failure β} {evs : List Event} {d : Int}
    (h : PollRun rule readOf tb I R path start answers finish r evs d) :
    StopsWithin rule.readable readOf I R path r evs d := by
  refine ⟨answers, h.polled.within, pollEvents_calls h.polled.events, ?_, ?_⟩
  · rw [h.polled.waits, waited]
    exact min_le_right _ _
  · intro hall
    exact ⟨_, h.ends.result hall⟩

/-! ## One round, and the whole loop -/

/-- How a round of a poll loop goes after its sleep, `R` seconds before the deadline: it polls
`path` once, and either goes on from the read to the run of the rest of the loop (`next`), or
ends the loop with it (`last`). -/
inductive RoundRun {ρ σ ω β : Type} (rule : PollRule ρ σ ω)
    (readOf : Except Failure Response → Except Failure ρ) (tb : Timebase) (I R : Int)
    (path : String) (start : σ) (finish : Option ω → σ → β) :
    Except Failure β → List Event → Int → Prop
  | next {answer : Except Failure Response} {answers : List (Except Failure Response)}
      {r : Except Failure β} {evs : List Event} {d : Int}
      (hread : rule.readable (readOf answer) = true) (hgo : rule.settles (readOf answer) = none)
      (h : PollRun rule readOf tb I R path (rule.poll start (readOf answer)) answers finish r
        evs d) :
      RoundRun rule readOf tb I R path start finish r
        (.exchange { method := .get, path, payload := .null } answer :: evs) d
  | last {answer : Except Failure Response} {r : Except Failure β}
      (h : ∀ K, ReadsEnd rule K start [readOf answer] finish r) :
      RoundRun rule readOf tb I R path start finish r
        [.exchange { method := .get, path, payload := .null } answer] 0

/-- **A round that begins by riding out a read.** The read's failures are ones the loop goes on
from exactly when it rides them out, and settle nothing. Then a failure ridden out goes on to
the rest of the loop (`hnone`), any other failure ends the loop, and a read the answer gives
goes on as `hsome` says, so each loop only proves what it does with a read. -/
theorem RoundRun.riding_bind {α ρ σ ω β : Type} {rule : PollRule ρ σ ω}
    {readOf : Except Failure Response → Except Failure ρ} {tb : Timebase} {I R : Int}
    {path : String} {s : σ} {finish : Option ω → σ → β} {view : ρ → α} {act : Act α}
    {k : Option α → Act β} {M : Int}
    (hact : (riding act).Timed tb M fun r evs d => d = 0 ∧ ∃ answer,
      evs = [.exchange { method := .get, path, payload := .null } answer] ∧
      r = ridden (view <$> readOf answer))
    (hfail : ∀ f, rule.readable (.error f) = f.isTransient ∧ rule.settles (.error f) = none)
    (hnone : ∀ f, f.isTransient = true → (k none).Timed tb M fun r evs d =>
      ∃ answers, PollRun rule readOf tb I R path (rule.poll s (.error f)) answers finish r evs d)
    (hsome : ∀ answer x, readOf answer = .ok x → (k (some (view x))).Timed tb M fun r evs d =>
      RoundRun rule readOf tb I R path s finish r
        (.exchange { method := .get, path, payload := .null } answer :: evs) d) :
    (riding act >>= k).Timed tb M (RoundRun rule readOf tb I R path s finish) := by
  refine Act.Timed.bind hact (fun o e d h => ?_) (fun f e d h => ?_)
  · obtain ⟨rfl, answer, rfl, ho⟩ := h
    rw [Int.add_zero]
    cases hread : readOf answer with
    | error g =>
      rw [hread] at ho
      by_cases ht : g.isTransient = true
      · -- a failure ridden out: the rest of the loop, from the poll's count
        rw [show ridden (view <$> (.error g : Except Failure ρ)) = .ok none from if_pos ht] at ho
        cases ho
        refine (hnone g ht).mono fun r e' d' h' => ?_
        obtain ⟨answers, h'⟩ := h'
        have hgo : rule.readable (readOf answer) = true := by rw [hread, (hfail g).1, ht]
        rw [List.singleton_append, Int.zero_add]
        exact .next hgo (by rw [hread]; exact (hfail g).2) (by rw [hread]; exact h')
      · rw [show ridden (view <$> (.error g : Except Failure ρ)) = .error g
          from if_neg ht] at ho
        cases ho
    | ok x =>
      rw [hread] at ho
      cases ho
      exact (hsome answer x hread).mono fun r e' d' h' => by
        rwa [List.singleton_append, Int.zero_add]
  · -- a failure the loop does not ride out ends it
    obtain ⟨rfl, answer, rfl, hf⟩ := h
    obtain ⟨hmap, ht⟩ := ridden_eq_error hf
    have hread : readOf answer = .error f := by
      cases hr : readOf answer with
      | ok x => rw [hr] at hmap; cases hmap
      | error g => rw [hr] at hmap; cases hmap; rfl
    have hstuck : rule.readable (readOf answer) = false := by rw [hread, (hfail f).1, ht]
    exact .last fun _ => ReadsEnd.stuck_single hstuck

/-- `loop` is a poll loop that follows `rule` until the deadline `deadline` at the interval
`interval`: with budget left, a round asks for the time left, stops when there is none, and
otherwise sleeps and goes on with a round that runs as `RoundRun` says, as soon as the loop from
there on is known to be the run its answers describe, in any timebase. -/
def IsPollLoop {ρ σ ω β : Type} (rule : PollRule ρ σ ω)
    (readOf : Except Failure Response → Except Failure ρ) (interval deadline : Value)
    (path : String) (finish : Option ω → σ → β) (loop : Nat → σ → Act β) : Prop :=
  ∀ fuel s, ∃ round : Act β,
    loop (fuel + 1) s = (timeLeft deadline >>= fun left =>
      left.elim (pure (finish none s)) fun remaining =>
        sleepWithin interval remaining >>= fun _ => round) ∧
    ∀ tb I D M, (∀ s', (loop fuel s').Timed tb M fun r evs d =>
        ∃ answers, PollRun rule readOf tb I (D - M) path s' answers finish r evs d) →
      round.Timed tb M (RoundRun rule readOf tb I (D - M) path s finish)

/-- **A poll loop on a clock of whole seconds.** At a positive interval of `I` seconds and a
deadline of `D` seconds, from `N`, with a budget beyond the polls the deadline allows, a poll
loop is the run its answers describe, when the timebase can write the clock and the time left. -/
theorem IsPollLoop.timed {ρ σ ω β : Type} {rule : PollRule ρ σ ω}
    {readOf : Except Failure Response → Except Failure ρ} {interval deadline : Value}
    {path : String} {finish : Option ω → σ → β} {loop : Nat → σ → Act β}
    (hloop : IsPollLoop rule readOf interval deadline path finish loop) {tb : Timebase}
    {I D : Int} (hI : 0 < I) (hinterval : Value.Seconds tb interval I)
    (hdeadline : Value.Seconds tb deadline D) (fuel : Nat) (s : σ) (N : Int) (hN : tb.Fits N)
    (hleft : tb.Fits (D - N)) (hfuel : pollsWithin I (D - N) < fuel) :
    (loop fuel s).Timed tb N fun r evs d =>
      ∃ answers, PollRun rule readOf tb I (D - N) path s answers finish r evs d := by
  -- induction on the budget: each round leaves one poll fewer and one step of budget fewer
  induction fuel generalizing s N with
  | zero => exact absurd hfuel (Nat.not_lt_zero _)
  | succ fuel ih =>
    obtain ⟨round, hstep, hround⟩ := hloop fuel s
    rw [hstep]
    refine Act.Timed.bind (timeLeft_timed hdeadline N hleft) (fun left e d hl => ?_)
      (fun f e d h => ?unread)
    case unread =>
      -- reading the time left does not fail
      obtain ⟨⟨-, h⟩ | ⟨-, _, -, h⟩, -⟩ := h <;> cases h
    obtain ⟨hl, rfl, rfl⟩ := hl
    rcases hl with ⟨hR, hnone⟩ | ⟨hpos, v, hv, hsome⟩
    · -- no time left: the loop ends without a poll
      cases hnone
      refine (Act.timed_pure _ _ _).mono fun r e' d' h => ⟨[], ?_⟩
      obtain ⟨hr, he', hd'⟩ := h
      subst hr he' hd'
      exact PollRun.expired hI hR s finish
    · cases hsome
      -- the sleep ends between now and the deadline, where the timebase can write the clock
      have hM : tb.Fits (N + 0 + min I (D - N)) :=
        Timebase.Fits.between hN hdeadline.fits (by omega) (by omega)
      refine Act.Timed.bind (sleepWithin_timed hinterval hv (N + 0) hM)
        (fun u e₁ d₁ hs => ?_) (fun f e d h => by cases h.1)
      obtain ⟨-, ⟨w, hw, rfl⟩, rfl⟩ := hs
      -- the rest of the loop starts a sleep later, with one poll fewer left
      have hafter : D - (N + 0 + min I (D - N)) = D - N - min I (D - N) := by omega
      have hrest : ∀ s', (loop fuel s').Timed tb (N + 0 + min I (D - N)) fun r evs d =>
          ∃ answers, PollRun rule readOf tb I (D - (N + 0 + min I (D - N))) path s' answers
            finish r evs d := by
        intro s'
        refine ih s' _ hM (hleft.of_natAbs_le (by omega)) ?_
        rw [hafter]
        have := pollsWithin_after_sleep hI hpos
        omega
      refine (hround tb I D _ hrest).mono fun r e₂ d₂ h => ?_
      rw [hafter] at h
      simp only [List.nil_append, List.singleton_append, Int.zero_add]
      cases h with
      | next hread hgo h => exact ⟨_, PollRun.cons hI hpos hw hread hgo h⟩
      | last h =>
        rw [Int.add_zero]
        exact ⟨_, PollRun.single hI hpos hw (h _)⟩

end VolumeLifecycle.Lifecycle
