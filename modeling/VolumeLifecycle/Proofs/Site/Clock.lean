import VolumeLifecycle.Proofs.Redfish.Reads
import VolumeLifecycle.Proofs.Document.Seconds
/-!
# VolumeLifecycle.Proofs.Site.Clock

**Actions on a clock of whole seconds.** The clock of a site moves only when an action waits,
and a wait of whole seconds on a clock of whole seconds adds exactly, whether the seconds are
written as whole numbers or as doubles that hold them (`Timebase`). `Act.Timed a tb N Q` is a
Hoare triple over the clock: every run of `a` from a site whose clock reads `N` seconds in the
timebase `tb` ends after events `evs` on a clock that reads `N + d` seconds, with `Q r evs d`.
The start `N` is part of the triple, so a step can be described by the time left until a
deadline; and the postcondition sees how long the action waited, so the waits of a loop add up.

* the order of whole-number times, `Value.atMost_int`, a case of that of seconds in any
  timebase (`Value.atMost_seconds`);
* `Act.KeepsClock` — an action that leaves the clock as it was. Every read of the client and its
  reset keep the clock, because only `Act.sleep` touches it;
* the rules of `Act.Timed`: `Act.Spec.timed` (an action that keeps the clock waits no time),
  `Act.timed_now`, `Act.timed_sleep` (a wait the timebase can add), `Act.Timed.bind` and
  `Act.Timed.mono`;
* the steps that take no time, in front of the rest of an action: `Act.Timed.keeps_bind`,
  `Act.Timed.now_bind`, `Act.Timed.ofExcept_ok_bind`, `Act.Timed.ofExcept_error_bind`, and the
  last steps `Act.Timed.of_pure`, `Act.Timed.of_fail`. With them a proof follows an action step
  by step without carrying `N + 0` and `[] ++ evs` along.
-/

namespace VolumeLifecycle

open VolumeLifecycle.Redfish

variable {α β : Type}

/-! ## Whole-number times -/

/-- Whole numbers of seconds are in their order. -/
@[simp] theorem Value.atMost_int (a b : Int) :
    Value.atMost (.int a) (.int b) = .ok (decide (a ≤ b)) :=
  Value.atMost_seconds (Value.seconds_int (Timebase.fits_whole a))
    (Value.seconds_int (Timebase.fits_whole b))

/-! ## Actions that keep the clock -/

/-- Every run of `a` leaves the clock as it found it. -/
def Act.KeepsClock (a : Act α) : Prop := ∀ s, (a.runOn s).2.clock = s.clock

section KeepsClock

variable {a : Act α}

theorem Act.keepsClock_pure (x : α) : (pure x : Act α).KeepsClock := fun _ => rfl

theorem Act.keepsClock_throw (f : Failure) : (throw f : Act α).KeepsClock := fun _ => rfl

theorem Act.keepsClock_fail (f : Failure) : (Act.fail f : Act α).KeepsClock := fun _ => rfl

theorem Act.keepsClock_ofExcept (x : Except Failure α) : (Act.ofExcept x).KeepsClock := by
  intro s
  rw [Act.runOn_ofExcept]

theorem Act.keepsClock_exchange (m : Method) (path : String) (payload : Value) :
    (Act.exchange m path payload).KeepsClock := by
  intro s
  rw [Act.runOn_exchange]

theorem Act.KeepsClock.bind {f : α → Act β} (ha : a.KeepsClock) (hf : ∀ x, (f x).KeepsClock) :
    (a >>= f).KeepsClock := by
  intro s
  rw [Act.runOn_bind]
  rcases hrun : a.runOn s with ⟨r, s'⟩
  have hclock : s'.clock = s.clock := by rw [← ha s, hrun]
  cases r with
  | ok x => exact (hf x s').trans hclock
  | error f => exact hclock

theorem Act.KeepsClock.tryCatch {h : Failure → Act α} (ha : a.KeepsClock)
    (hh : ∀ f, (h f).KeepsClock) : (tryCatch a h).KeepsClock := by
  intro s
  rw [Act.runOn_tryCatch]
  rcases hrun : a.runOn s with ⟨r, s'⟩
  have hclock : s'.clock = s.clock := by rw [← ha s, hrun]
  cases r with
  | ok x => exact hclock
  | error f => exact (hh f s').trans hclock

theorem Act.KeepsClock.map (g : α → β) (ha : a.KeepsClock) : (g <$> a).KeepsClock := by
  rw [map_eq_pure_bind]
  exact ha.bind fun x => Act.keepsClock_pure (g x)

theorem Act.KeepsClock.ite {c : Prop} [Decidable c] {b : Act α} (ha : a.KeepsClock)
    (hb : b.KeepsClock) : (if c then a else b).KeepsClock := by
  split
  · exact ha
  · exact hb

end KeepsClock

/-! ### The client's requests keep the clock -/

namespace Redfish

theorem Client.send_keepsClock (c : Client) (m : Method) (uri payload : Value) :
    (c.send m uri payload).KeepsClock :=
  (Act.keepsClock_ofExcept _).bind fun _ => Act.keepsClock_exchange _ _ _

theorem requestFailure_keepsClock (message : String) (r : Response) (uri : Value) :
    (requestFailure message r uri).KeepsClock :=
  (Act.keepsClock_ofExcept _).bind fun _ => Act.keepsClock_pure _

/-- Failing with a failed read's report keeps the clock. -/
theorem requestFailure_fail_keepsClock (message : String) (r : Response) (uri : Value) :
    (do Act.fail (← requestFailure message r uri) : Act α).KeepsClock :=
  (requestFailure_keepsClock message r uri).bind fun f => Act.keepsClock_fail f

theorem Client.get_keepsClock (c : Client) (uri : Value) : (c.get uri).KeepsClock := by
  unfold Client.get
  refine (c.send_keepsClock _ _ _).bind fun r => ?_
  split
  · simp only [Act.fail_bind]
    exact requestFailure_fail_keepsClock _ _ _
  · exact Act.keepsClock_ofExcept _

theorem Client.taskStatus_keepsClock (c : Client) (jobRef : Value) :
    (c.taskStatus jobRef).KeepsClock := by
  unfold Client.taskStatus
  refine (c.send_keepsClock _ _ _).bind fun r => ?_
  split
  · simp only [Act.fail_bind]
    exact requestFailure_fail_keepsClock _ _ _
  · exact (Act.keepsClock_ofExcept _).bind fun _ => Act.keepsClock_ofExcept _

theorem Client.powerState_keepsClock (c : Client) (systemUri : Value) :
    (c.powerState systemUri).KeepsClock :=
  (c.get_keepsClock systemUri).bind fun _ => Act.keepsClock_ofExcept _

theorem Client.reset_keepsClock (c : Client) (systemUri resetType : Value) :
    (c.reset systemUri resetType).KeepsClock := by
  unfold Client.reset Client.post
  refine (c.get_keepsClock _).bind fun _ => (Act.keepsClock_ofExcept _).bind fun _ => ?_
  refine (c.send_keepsClock _ _ _).bind fun r => ?_
  split
  · exact requestFailure_fail_keepsClock _ _ _
  · exact Act.keepsClock_pure _

end Redfish

/-! ## Timed actions -/

/-- Every run of `a` from a site whose clock reads `N` seconds in the timebase `tb` ends after
some events `evs`, with a result `r`, on a clock that reads `N + d` seconds, and `Q r evs d`
holds. -/
def Act.Timed (a : Act α) (tb : Timebase) (N : Int)
    (Q : Except Failure α → List Event → Int → Prop) : Prop :=
  ∀ s, Value.Seconds tb s.clock.now N → ∃ evs d, s.After evs (a.runOn s).2 ∧
    Value.Seconds tb (a.runOn s).2.clock.now (N + d) ∧ Q (a.runOn s).1 evs d

section Timed

variable {a : Act α} {tb : Timebase} {N : Int} {Q Q' : Except Failure α → List Event → Int → Prop}

theorem Act.Timed.mono (h : a.Timed tb N Q) (hQ : ∀ r evs d, Q r evs d → Q' r evs d) :
    a.Timed tb N Q' := by
  intro s hN
  obtain ⟨evs, d, hs, hclock, hq⟩ := h s hN
  exact ⟨evs, d, hs, hclock, hQ _ _ _ hq⟩

/-- An action that keeps the clock waits no time, whatever else its spec says. -/
theorem Act.Spec.timed {P : Except Failure α → List Event → Prop} (h : a.Spec P)
    (hk : a.KeepsClock) (tb : Timebase) (N : Int) :
    a.Timed tb N fun r evs d => P r evs ∧ d = 0 := by
  intro s hN
  obtain ⟨evs, hs, hp⟩ := h s
  exact ⟨evs, 0, hs, by rw [hk s, Int.add_zero]; exact hN, hp, rfl⟩

theorem Act.timed_pure (x : α) (tb : Timebase) (N : Int) : (pure x : Act α).Timed tb N
    fun r evs d => r = .ok x ∧ evs = [] ∧ d = 0 :=
  ((Act.pure_spec x).timed (Act.keepsClock_pure x) tb N).mono
    fun _ _ _ h => ⟨h.1.1, h.1.2, h.2⟩

theorem Act.timed_ofExcept (x : Except Failure α) (tb : Timebase) (N : Int) :
    (Act.ofExcept x).Timed tb N fun r evs d => r = x ∧ evs = [] ∧ d = 0 :=
  ((Act.ofExcept_spec x).timed (Act.keepsClock_ofExcept x) tb N).mono
    fun _ _ _ h => ⟨h.1.1, h.1.2, h.2⟩

/-- Reading the clock gives a time of `N` seconds. -/
theorem Act.timed_now (tb : Timebase) (N : Int) : Act.now.Timed tb N fun r evs d =>
    (∃ v, Value.Seconds tb v N ∧ r = .ok v) ∧ evs = [] ∧ d = 0 := by
  intro s hN
  have hrun : Act.now.runOn s = (.ok s.clock.now, s) := rfl
  rw [hrun]
  exact ⟨[], 0, Site.After.refl s, by rw [Int.add_zero]; exact hN, ⟨_, hN, rfl⟩, rfl, rfl⟩

/-- A wait of `k` seconds is one event and moves the clock by exactly that much, when the
timebase can write the time it ends at. -/
theorem Act.timed_sleep {v : Value} {k : Int} (hv : Value.Seconds tb v k) (N : Int)
    (hfit : tb.Fits (N + k)) : (Act.sleep v).Timed tb N fun r evs d =>
      r = .ok () ∧ evs = [.sleep v] ∧ d = k := by
  intro s hN
  obtain ⟨now, hplus, hnow⟩ := Value.plus_seconds hN hv hfit
  obtain ⟨evs, hs, hevs, -⟩ := Act.spec_sleep v s
  refine ⟨evs, k, hs, ?_, ?_, hevs, rfl⟩
  · simpa [Act.sleep, Act.runOn_bind, Act.runOn_get, Act.runOn_set, Act.runOn_modify, hplus]
      using hnow
  · simp [Act.sleep, Act.runOn_bind, Act.runOn_get, Act.runOn_set, Act.runOn_modify, hplus]

/-- The events of `a >>= f` are those of `a` followed, when `a` succeeds, by those of `f`, which
starts where `a` left the clock; the waits add up. The continuation is only needed for the
results `a` can give. -/
theorem Act.Timed.bind {f : α → Act β} {R : Except Failure β → List Event → Int → Prop}
    (ha : a.Timed tb N Q)
    (hf : ∀ x e d, Q (.ok x) e d → (f x).Timed tb (N + d) fun r e' d' => R r (e ++ e') (d + d'))
    (herr : ∀ f e d, Q (.error f) e d → R (.error f) e d) : (a >>= f).Timed tb N R := by
  intro s hN
  obtain ⟨e₁, d₁, hs₁, hclock₁, hq₁⟩ := ha s hN
  rw [Act.runOn_bind]
  rcases hrun : a.runOn s with ⟨r, s₁⟩
  rw [hrun] at hs₁ hclock₁ hq₁
  cases r with
  | ok x =>
    obtain ⟨e₂, d₂, hs₂, hclock₂, hq₂⟩ := hf x e₁ d₁ hq₁ s₁ hclock₁
    exact ⟨e₁ ++ e₂, d₁ + d₂, hs₁.trans hs₂, by rw [← Int.add_assoc]; exact hclock₂, hq₂⟩
  | error f => exact ⟨e₁, d₁, hs₁, hclock₁, herr f e₁ d₁ hq₁⟩

/-! ### Steps that take no time -/

theorem Act.Timed.of_pure {x : α} (h : Q (.ok x) [] 0) : (pure x : Act α).Timed tb N Q :=
  (Act.timed_pure x tb N).mono fun r evs d hr => by
    obtain ⟨rfl, rfl, rfl⟩ := hr
    exact h

theorem Act.Timed.of_fail {g : Failure} (h : Q (.error g) [] 0) :
    (Act.fail g : Act α).Timed tb N Q :=
  ((Act.fail_spec g).timed (Act.keepsClock_fail g) tb N).mono fun r evs d hr => by
    obtain ⟨⟨rfl, rfl⟩, rfl⟩ := hr
    exact h

section Quiet

variable {f : α → Act β} {R : Except Failure β → List Event → Int → Prop}

/-- An action that keeps the clock, followed by `f`: `f` starts at the same time. -/
theorem Act.Timed.keeps_bind {P : Except Failure α → List Event → Prop} (ha : a.Spec P)
    (hk : a.KeepsClock) (hf : ∀ x e, P (.ok x) e → (f x).Timed tb N fun r e' d => R r (e ++ e') d)
    (herr : ∀ g e, P (.error g) e → R (.error g) e 0) : (a >>= f).Timed tb N R := by
  refine Act.Timed.bind (ha.timed hk tb N) (fun x e d h => ?_) (fun g e d h => ?_)
  · obtain ⟨hp, hd⟩ := h
    subst hd
    rw [Int.add_zero]
    exact (hf x e hp).mono fun r e' d' hr => by rwa [Int.zero_add]
  · obtain ⟨hp, hd⟩ := h
    subst hd
    exact herr g e hp

/-- Reading the clock, followed by `f`: `f` of a time of `N` seconds. -/
theorem Act.Timed.now_bind {f : Value → Act β}
    (h : ∀ v, Value.Seconds tb v N → (f v).Timed tb N R) : (Act.now >>= f).Timed tb N R := by
  refine Act.Timed.bind (Act.timed_now tb N) (fun v e d hv => ?_)
    (fun g e d hv => by obtain ⟨⟨_, -, hg⟩, -⟩ := hv; cases hg)
  obtain ⟨⟨w, hw, hv⟩, he, hd⟩ := hv
  cases hv
  subst he hd
  rw [Int.add_zero]
  exact (h v hw).mono fun r e' d' hr => by rwa [List.nil_append, Int.zero_add]

/-- A computation that gives `v`, followed by `f`: `f v`. -/
theorem Act.Timed.ofExcept_ok_bind {x : Except Failure α} {v : α} (hx : x = .ok v)
    (h : (f v).Timed tb N R) : (Act.ofExcept x >>= f).Timed tb N R := by
  refine Act.Timed.bind (Act.timed_ofExcept x tb N) (fun w e d hw => ?_) (fun g e d hw => ?_)
  · obtain ⟨hw, he, hd⟩ := hw
    rw [hx] at hw
    cases hw
    subst he hd
    rw [Int.add_zero]
    exact h.mono fun r e' d' hr => by rwa [List.nil_append, Int.zero_add]
  · rw [hx] at hw
    cases hw.1

/-- A computation that fails, followed by anything: the failure. -/
theorem Act.Timed.ofExcept_error_bind {x : Except Failure α} {g : Failure} (hx : x = .error g)
    (h : R (.error g) [] 0) : (Act.ofExcept x >>= f).Timed tb N R := by
  refine Act.Timed.bind (Act.timed_ofExcept x tb N) (fun w e d hw => ?_) (fun g' e d hw => ?_)
  · rw [hx] at hw
    cases hw.1
  · obtain ⟨hw, he, hd⟩ := hw
    rw [hx] at hw
    cases hw
    subst he hd
    exact h

end Quiet

end Timed

end VolumeLifecycle
