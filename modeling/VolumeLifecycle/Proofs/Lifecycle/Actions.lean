import VolumeLifecycle.Lifecycle.Component
import VolumeLifecycle.Proofs.Redfish.Reads
/-!
# VolumeLifecycle.Proofs.Lifecycle.Actions

**What the actions of the process and housekeep phases send.**

* `submit_spec` — a submission is one request, never repeated; it returns a job reference
  exactly when the answer accepts the change (`Accepts`: status 202 and a true `Location`),
  and fails only with faults and submission errors.
* `pollJob_spec`, `Poller.wait_spec` — waiting for a job is a run of polls (`JobWaits`), each
  one wait followed by one read of the job, possibly ended by a last wait whose read never
  went out.
* `Coordinator.powerCycle_spec` — a power cycle refuses an unknown reset type before sending
  anything; otherwise it changes at most one thing (the reset) and never fails with a
  precondition error.
* `Reconciler.reconcile_within` and its neighbours — reading a volume back only reads.

Every failure of these actions, but the refusal of a reset type, is something other than a
precondition error (`Failure.NotPrecondition`).
-/

namespace VolumeLifecycle

/-- A failure that is not a precondition error. -/
def Failure.NotPrecondition (f : Failure) : Prop := f.cls? ≠ some .precondition

theorem Failure.OfRead.notPrecondition {f : Failure} (h : f.OfRead) : f.NotPrecondition := by
  rcases h with h | h <;> simp [Failure.NotPrecondition, h]

theorem Failure.notPrecondition_of_plain {f : Failure} (h : f.cls? = none) : f.NotPrecondition := by
  simp [Failure.NotPrecondition, h]

/-- The failures of a submission: faults and submission errors. -/
def Failure.OfSubmission (f : Failure) : Prop := f.cls? = none ∨ f.cls? = some .submission

end VolumeLifecycle

namespace VolumeLifecycle.Lifecycle

open VolumeLifecycle.Redfish VolumeLifecycle.Value

variable {α : Type}

/-! ## Submitting -/

/-- An answer that accepts a change and names the job `jobRef` that carries it out. -/
def Accepts (answer : Except Failure Response) (jobRef : Value) : Prop :=
  ∃ r, answer = .ok r ∧ r.status = 202 ∧ (r.header? "Location").getD (.str "") = jobRef ∧
    jobRef.truthy = true

/-- After the request, the answer decides without sending anything: a job reference exactly
when it accepts the change. -/
theorem submit_answer_spec (kind : ChangeKind) (response : Response) :
    (do
      if (response.status != 202) = true then
        let detail ← Act.ofExcept response.message
        Act.fail (submissionFailure
          s!"The volume {kind.name} request was not accepted. Return code {response.status} was different from 202 ACCEPTED"
          detail)
      else
        if (!((response.header? "Location").getD (.str "")).truthy) = true then
          Act.fail (submissionFailure
            s!"No job reference returned for the accepted volume {kind.name} request")
        else pure ((response.header? "Location").getD (.str "")) : Act Value).Spec
      fun r evs => evs = [] ∧ (∀ f, r = .error f → f.OfSubmission) ∧
        ∀ jobRef, r = .ok jobRef ↔ Accepts (.ok response) jobRef := by
  split
  · rename_i hs
    refine Act.Spec.bind (Act.ofExcept_spec response.message) (fun _ => Act.fail_spec _) ?_ ?_
    · intro _ _ _ _ ⟨_, he₁⟩ ⟨hr, he₂⟩
      subst hr he₁ he₂
      refine ⟨rfl, fun f h => by cases h; exact .inr rfl, fun jobRef => ⟨nofun, ?_⟩⟩
      rintro ⟨_, h, h202, _⟩
      cases h
      simp [h202] at hs
    · intro f e ⟨hmsg, he⟩
      subst he
      refine ⟨rfl, fun f' h => by cases h; exact .inl (response.message_plain f hmsg.symm), fun jobRef => ⟨nofun, ?_⟩⟩
      rintro ⟨_, h, h202, _⟩
      cases h
      simp [h202] at hs
  · rename_i hs
    have h202 : response.status = 202 := by simpa using hs
    split
    · rename_i hj
      refine Act.Spec.mono (Act.fail_spec _) fun r evs ⟨hr, he⟩ => ⟨he, fun f h => ?_, fun jobRef => ?_⟩
      · rw [hr] at h
        cases h
        exact .inr rfl
      · rw [hr]
        refine ⟨nofun, ?_⟩
        rintro ⟨_, h, _, hloc, htrue⟩
        cases h
        simp [hloc, htrue] at hj
    · rename_i hj
      refine Act.Spec.mono (Act.pure_spec _) fun r evs ⟨hr, he⟩ => ⟨he, fun f h => ?_, fun jobRef => ?_⟩
      · rw [hr] at h
        cases h
      · rw [hr]
        constructor
        · rintro ⟨⟩
          exact ⟨response, rfl, h202, rfl, by simpa using hj⟩
        · rintro ⟨_, h, _, hloc, _⟩
          cases h
          rw [hloc]

/-- The request of a submission: one exchange for the URI's path, or none when the URI has no
path; a transport failure becomes a submission error. -/
theorem submit_request_spec (c : Client) (kind : ChangeKind) (m : Method) (uri payload : Value) :
    (tryCatch (c.send m uri payload) fun f =>
      if f.isTransport = true then
        Act.fail (submissionFailure
          s!"Error while sending the volume {kind.name} request to {uri.display}" (.str f.message))
      else Act.fail f).Spec fun r evs =>
      (∀ f, r = .error f → f.OfSubmission) ∧
      ((evs = [] ∧ ∀ x, r ≠ .ok x) ∨
       ∃ path answer, c.target uri = .ok path ∧
        evs = [.exchange { method := m, path, payload } answer] ∧
        ∀ response, r = .ok response ↔ answer = .ok response) := by
  refine Act.Spec.tryCatch (c.send_spec m uri payload)
    (?_ : ∀ f, Act.Spec _ fun (r : Except Failure Response) evs =>
      evs = [] ∧ (∀ x, r ≠ .ok x) ∧ ∀ f', r = .error f' → f' = f ∨ f'.cls? = some .submission)
    ?_ ?_
  · intro f
    split
    · exact Act.Spec.mono (Act.fail_spec _) fun r evs ⟨hr, he⟩ =>
        ⟨he, fun x h => (by rw [hr] at h; cases h),
          fun f' h => (by rw [hr] at h; cases h; exact .inr rfl)⟩
    · exact Act.Spec.mono (Act.fail_spec _) fun r evs ⟨hr, he⟩ =>
        ⟨he, fun x h => (by rw [hr] at h; cases h), fun f' h => (by rw [hr] at h; cases h; exact .inl rfl)⟩
  · intro x e ⟨_, hcases⟩
    refine ⟨fun f h => (nomatch h), ?_⟩
    rcases hcases with ⟨f, _, hr, _⟩ | ⟨path, ht, he⟩
    · cases hr
    · exact .inr ⟨path, .ok x, ht, he, fun _ => Iff.rfl⟩
  · intro f r e₁ e₂ ⟨hf, hcases⟩ ⟨he₂, hnok, hr⟩
    subst he₂
    refine ⟨fun f' h => (hr f' h).elim (fun he => he ▸ .inl (hf f rfl)) .inr, ?_⟩
    rcases hcases with ⟨_, _, _, he⟩ | ⟨path, ht, he⟩
    · exact .inl ⟨by simp [he], hnok⟩
    · refine .inr ⟨path, .error f, ht, by simp [he], fun response => ⟨fun h => absurd h (hnok _), nofun⟩⟩

/-- A submission is at most one request, for the URI's path; it returns a job reference
exactly when the answer accepts the change, and fails only with faults and submission
errors. -/
theorem submit_spec (c : Client) (kind : ChangeKind) (m : Method) (uri payload : Value) :
    (submit c kind m uri payload).Spec fun r evs =>
      (∀ f, r = .error f → f.OfSubmission) ∧
      ((evs = [] ∧ ∀ x, r ≠ .ok x) ∨
       ∃ path answer, c.target uri = .ok path ∧
        evs = [.exchange { method := m, path, payload } answer] ∧
        ∀ jobRef, r = .ok jobRef ↔ Accepts answer jobRef) := by
  unfold submit
  dsimp only
  simp only [Act.fail_bind]
  refine Act.Spec.bind (submit_request_spec c kind m uri payload)
    (fun response => submit_answer_spec kind response) ?_ ?_
  · intro response r e₁ e₂ ⟨_, hcases⟩ ⟨he₂, hf, hiff⟩
    subst he₂
    refine ⟨hf, ?_⟩
    rcases hcases with ⟨_, hnok⟩ | ⟨path, answer, ht, he, hans⟩
    · exact absurd rfl (hnok response)
    · have : answer = .ok response := (hans response).1 rfl
      subst this
      exact .inr ⟨path, .ok response, ht, by simp [he], hiff⟩
  · intro f e ⟨hf, hcases⟩
    refine ⟨fun f' h => by cases h; exact hf f rfl, ?_⟩
    rcases hcases with ⟨he, _⟩ | ⟨path, answer, ht, he, hans⟩
    · exact .inl ⟨he, nofun⟩
    · refine .inr ⟨path, answer, ht, he, fun jobRef => ⟨nofun, ?_⟩⟩
      rintro ⟨response, h, _⟩
      exact absurd ((hans response).2 h) nofun

/-! ## Waiting -/

/-- The events of polling the job at `target`: polls, each one wait and then one read of the
job, possibly ended by a last wait whose read never went out. -/
inductive JobWaits (target : Except Failure String) : List Event → Prop
  | nil : JobWaits target []
  | wait (seconds : Value) : JobWaits target [.sleep seconds]
  | poll {seconds : Value} {path : String} {answer : Except Failure Response} {rest : List Event} :
      target = .ok path → JobWaits target rest →
      JobWaits target
        (.sleep seconds :: .exchange { method := .get, path, payload := .null } answer :: rest)

theorem stateIn_plain (state : Value) (states : List String) : Plain (stateIn state states) := by
  intro f h
  unfold stateIn at h
  split at h <;> grind [Failure.cls?]

/-- The time left is read off the clock, sending nothing. -/
theorem timeLeft_quiet (deadline : Value) :
    (timeLeft deadline).Within (fun _ => False) fun f => f.cls? = none := by
  unfold timeLeft
  refine Act.within_now.bind fun now => ?_
  refine (Act.within_plain (deadline.minus_plain now) fun _ => id).bind fun remaining => ?_
  refine (Act.within_plain (remaining.atMost_plain _) fun _ => id).bind fun _ => ?_
  split <;> exact Act.within_pure _

/-- A bounded wait is one wait, or nothing when the bound cannot be computed. -/
theorem sleepWithin_spec (interval remaining : Value) :
    (sleepWithin interval remaining).Spec fun r evs => (∀ f, r = .error f → f.cls? = none) ∧
      ((evs = [] ∧ ∀ x, r ≠ .ok x) ∨ ∃ seconds, evs = [.sleep seconds]) := by
  unfold sleepWithin
  refine Act.Spec.bind (Act.ofExcept_spec (least interval remaining))
    (fun seconds => Act.spec_sleep seconds) ?_ ?_
  · intro seconds r e₁ e₂ ⟨_, he₁⟩ ⟨he₂, hf⟩
    subst he₁ he₂
    refine ⟨fun f h => ?_, .inr ⟨seconds, rfl⟩⟩
    obtain ⟨now, hplus⟩ := hf f h
    exact Value.plus_plain now seconds f hplus
  · intro f e ⟨hleast, he⟩
    subst he
    exact ⟨fun f' h => by cases h; exact Value.least_plain _ _ f hleast.symm, .inl ⟨rfl, nofun⟩⟩

/-- Riding out failures: the action's result, `none` after a transient failure, or the
action's failure when it is not transient. -/
theorem riding_spec {act : Act α} {Q : Except Failure α → List Event → Prop} (h : act.Spec Q) :
    (riding act).Spec fun r evs =>
      (∃ x, r = .ok (some x) ∧ Q (.ok x) evs) ∨
      (∃ f, f.isTransient = true ∧ r = .ok none ∧ Q (.error f) evs) ∨
      (∃ f, f.isTransient = false ∧ r = .error f ∧ Q (.error f) evs) := by
  unfold riding
  refine Act.Spec.tryCatch
    (Act.Spec.map h (fun x e hq => .inl ⟨x, rfl, hq⟩) (fun f e hq => .inr ⟨f, rfl, hq⟩) :
      (some <$> act).Spec fun r evs =>
        (∃ x, r = .ok (some x) ∧ Q (.ok x) evs) ∨ ∃ f, r = .error f ∧ Q (.error f) evs)
    (?_ : ∀ f, Act.Spec _ fun (r : Except Failure (Option α)) evs => evs = [] ∧
      (f.isTransient = true ∧ r = .ok none ∨ f.isTransient = false ∧ r = .error f)) ?_ ?_
  · intro f
    split
    · exact (Act.pure_spec none).mono fun r evs ⟨hr, he⟩ => ⟨he, .inl ⟨‹_›, hr⟩⟩
    · rename_i ht
      exact (Act.fail_spec f).mono fun r evs ⟨hr, he⟩ => ⟨he, .inr ⟨by simpa using ht, hr⟩⟩
  · intro x e hq
    rcases hq with hq | ⟨_, h, _⟩
    · exact .inl hq
    · cases h
  · intro f r e₁ e₂ hq ⟨he₂, hh⟩
    subst he₂
    rw [List.append_nil]
    rcases hq with ⟨_, h, _⟩ | ⟨f', h, hq⟩
    · cases h
    cases h
    rcases hh with ⟨ht, hr⟩ | ⟨ht, hr⟩
    · exact .inr (.inl ⟨f, ht, hr, hq⟩)
    · exact .inr (.inr ⟨f, ht, hr, hq⟩)

/-- A read ridden out: when it gives a result, or a transient failure was ridden out, the read
went out; a failure that is not ridden out is a read's failure. -/
theorem riding_read {act : Act α} {target : Except Failure String}
    (h : act.Spec fun r evs => OneRead target r evs ∧ ∀ f, r = .error f → f.OfRead) :
    (riding act).Spec fun r evs => (∀ f, r = .error f → f.OfRead) ∧
      ((evs = [] ∧ ∀ x, r ≠ .ok x) ∨ ∃ path answer, target = .ok path ∧
        evs = [.exchange { method := .get, path, payload := .null } answer]) := by
  refine (riding_spec h).mono fun r evs hr => ?_
  rcases hr with ⟨x, hr, hread, _⟩ | ⟨f, ht, hr, hread, _⟩ | ⟨f, _, hr, hread, hf⟩
  · subst hr
    rcases hread with ⟨_, _, h, _⟩ | hone
    · cases h
    · exact ⟨nofun, .inr hone⟩
  · subst hr
    rcases hread with ⟨_, _, h, ht'⟩ | hone
    · cases h
      simp [ht] at ht'
    · exact ⟨nofun, .inr hone⟩
  · subst hr
    refine ⟨fun f' h => by cases h; exact hf f rfl, ?_⟩
    rcases hread with ⟨he, _⟩ | hone
    · exact .inl ⟨he, nofun⟩
    · exact .inr hone

theorem JobWaits.of_fault {target : Except Failure String} {f : Failure} (hf : f.cls? = none) :
    JobWaits target [] ∧ ∀ f', (.error f : Except Failure α) = .error f' → f'.NotPrecondition :=
  ⟨.nil, fun _ h => by cases h; exact Failure.notPrecondition_of_plain hf⟩

theorem JobWaits.pure_spec (target : Except Failure String) (x : α) :
    (pure x : Act α).Spec fun r evs =>
      JobWaits target evs ∧ ∀ f, r = .error f → f.NotPrecondition :=
  (Act.pure_spec x).mono fun r evs ⟨hr, he⟩ => ⟨he ▸ .nil, fun f h => by rw [hr] at h; cases h⟩

/-- **Waiting for a job polls it.** Every run of the poll loop is a run of polls of the job
(`JobWaits`), and fails with no precondition error. -/
theorem pollJob_spec (c : Client) (jobRef interval deadline : Value) (fuel : Nat)
    (sight : JobSight) :
    (pollJob c jobRef interval deadline fuel sight).Spec fun r evs =>
      JobWaits (c.target jobRef) evs ∧ ∀ f, r = .error f → f.NotPrecondition := by
  induction fuel generalizing sight with
  | zero =>
    exact (Act.fail_spec _).mono fun r evs ⟨hr, he⟩ =>
      ⟨he ▸ .nil, fun f h => by rw [hr] at h; cases h; simp [Failure.NotPrecondition, Failure.cls?]⟩
  | succ fuel ih =>
    unfold pollJob
    refine (timeLeft_quiet deadline).quiet_bind (fun left => ?_) fun f hf => JobWaits.of_fault hf
    split
    · rename_i remaining
      -- one wait, then the events of the rest, which follow any wait
      refine Act.Spec.bind (sleepWithin_spec interval remaining)
        (?_ : ∀ u, Act.Spec _ fun r e => (∀ f, r = .error f → f.NotPrecondition) ∧
          ∀ seconds, JobWaits (c.target jobRef) (.sleep seconds :: e)) ?_ ?_
      · intro _
        refine Act.Spec.bind (riding_read (c.taskStatus_spec jobRef))
          (?_ : ∀ x, Act.Spec _ fun r e =>
            JobWaits (c.target jobRef) e ∧ ∀ f, r = .error f → f.NotPrecondition) ?_ ?_
        · intro status?
          split
          · rename_i status
            -- reading the job's state and testing it send nothing
            refine (Act.within_plain ?_ fun _ => id).quiet_bind (fun sight => ?_)
              fun f hf => JobWaits.of_fault hf
            · exact (status.getOr_plain _ _).bind fun _ => (status.getOr_plain _ _).bind fun _ =>
                (status.getOr_plain _ _).bind fun _ => plain_ok _
            refine (Act.within_plain (stateIn_plain _ _) fun _ => id).quiet_bind (fun _ => ?_)
              fun f hf => JobWaits.of_fault hf
            split
            · exact JobWaits.pure_spec _ _
            refine (Act.within_plain (stateIn_plain _ _) fun _ => id).quiet_bind (fun _ => ?_)
              fun f hf => JobWaits.of_fault hf
            split
            · exact JobWaits.pure_spec _ _
            · exact ih _
          · exact ih _
        · rintro x r e₁ e₂ ⟨_, hread⟩ ⟨hrest, hr⟩
          rcases hread with ⟨_, h⟩ | ⟨path, answer, ht, he₁⟩
          · exact absurd rfl (h x)
          · subst he₁
            exact ⟨hr, fun seconds => .poll ht hrest⟩
        · rintro f e ⟨hf, hread⟩
          refine ⟨fun f' h => by cases h; exact (hf f rfl).notPrecondition, fun seconds => ?_⟩
          rcases hread with ⟨he, _⟩ | ⟨path, answer, ht, he⟩ <;> subst he
          · exact .wait seconds
          · exact .poll ht .nil
      · rintro u r e₁ e₂ ⟨_, hwait⟩ ⟨hr, hrest⟩
        rcases hwait with ⟨_, h⟩ | ⟨seconds, he₁⟩
        · exact absurd rfl (h u)
        · subst he₁
          exact ⟨hrest seconds, hr⟩
      · rintro f e ⟨hf, hwait⟩
        refine ⟨?_, fun f' h => by cases h; exact Failure.notPrecondition_of_plain (hf f rfl)⟩
        rcases hwait with ⟨he, _⟩ | ⟨seconds, he⟩ <;> subst he
        · exact .nil
        · exact .wait seconds
    · exact JobWaits.pure_spec _ _

/-- **Waiting for a job polls it**, after checking that there is a job to wait for. -/
theorem Poller.wait_spec (p : Poller) (jobRef timeout interval : Value) :
    (p.wait jobRef timeout interval).Spec fun r evs =>
      JobWaits (p.client.target jobRef) evs ∧ ∀ f, r = .error f → f.NotPrecondition := by
  unfold Poller.wait
  dsimp only
  split
  · simp only [Act.fail_bind]
    exact (Act.fail_spec _).mono fun r evs ⟨hr, he⟩ =>
      ⟨he ▸ .nil, fun f h => by rw [hr] at h; cases h; simp [Failure.NotPrecondition]⟩
  refine Act.within_now.quiet_bind (fun start => ?_) fun f hf => JobWaits.of_fault hf
  refine (Act.within_plain (start.plus_plain timeout) fun _ => id).quiet_bind (fun deadline => ?_)
    fun f hf => JobWaits.of_fault hf
  refine Act.Spec.bind (pollJob_spec _ _ _ _ _ _)
    (?_ : ∀ x, Act.Spec _ fun r evs => evs = [] ∧ ∀ f, r = .error f → f.cls? = none)
    (fun x r e₁ e₂ ⟨hwait, _⟩ ⟨he₂, hr⟩ => ⟨by rw [he₂, List.append_nil]; exact hwait,
      fun f h => Failure.notPrecondition_of_plain (hr f h)⟩)
    fun f e ⟨hwait, hf⟩ => ⟨hwait, fun f' h => by cases h; exact hf f rfl⟩
  intro x
  refine Act.within_now.quiet_bind (fun now => ?_) fun f hf => ⟨rfl, fun _ h => by cases h; exact hf⟩
  refine (Act.within_plain (now.minus_plain start) fun _ => id).quiet_bind (fun elapsed => ?_)
    fun f hf => ⟨rfl, fun _ h => by cases h; exact hf⟩
  exact (Act.pure_spec _).mono fun r evs ⟨hr, he⟩ => ⟨he, fun f h => by rw [hr] at h; cases h⟩

/-! ## Power cycles -/

theorem riding_within {act : Act α} {p : Event → Prop} {q : Failure → Prop} (h : act.Within p q) :
    (riding act).Within p q := by
  unfold riding
  refine (h.map some).tryCatch fun f hf => ?_
  split
  · exact Act.within_pure none
  · exact Act.within_fail hf

/-- Polling the power state reads the system and waits; it changes nothing. -/
theorem pollPower_within (c : Client) (systemUri expected interval deadline : Value) (fuel : Nat)
    (seen : List Value) (polls : Nat) :
    (pollPower c systemUri expected interval deadline fuel seen polls).Within
      (fun e => ¬ e.IsChange) Failure.NotPrecondition := by
  induction fuel generalizing seen polls with
  | zero => exact Act.within_fail (Failure.notPrecondition_of_plain rfl)
  | succ fuel ih =>
    unfold pollPower
    have hquiet : ∀ f : Failure, f.cls? = none → f.NotPrecondition :=
      fun _ => Failure.notPrecondition_of_plain
    refine ((timeLeft_quiet deadline).mono (fun _ => False.elim) hquiet).bind fun left => ?_
    split
    · refine Act.Within.bind ?_ fun _ => ?_
      · refine Act.Spec.mono (sleepWithin_spec _ _) fun r evs ⟨hr, hwait⟩ => ⟨?_, fun f h => hquiet f (hr f h)⟩
        rcases hwait with ⟨he, _⟩ | ⟨seconds, he⟩ <;> subst he
        · exact nofun
        · simp
      refine (riding_within ((c.powerState_within systemUri).mono
        (fun _ h => h.not_isChange) fun _ h => h.notPrecondition)).bind fun state? => ?_
      split
      · split
        · exact Act.within_pure _
        · exact ih _ _
      · exact ih _ _
    · exact Act.within_pure _

theorem ResetChanges.prepend {resetType : Value} {e₁ e₂ : List Event} (h₁ : changes e₁ = [])
    (h : ResetChanges resetType e₂) : ResetChanges resetType (e₁ ++ e₂) := by
  simpa using ResetChanges.append h₁ h changes_nil

/-- A read or reset that is rejected fails with a power-operation error, or with its own
failure when that is not transient. -/
theorem rejected_within {β : Type} {p : Event → Prop} (message : String) (detail : Value)
    {f : Failure} (hf : f.OfRead) :
    (if f.isTransient = true then Act.fail (powerFailure message detail) else Act.fail f :
      Act β).Within p Failure.NotPrecondition := by
  split
  · exact Act.within_fail (by simp [Failure.NotPrecondition, powerFailure])
  · exact Act.within_fail hf.notPrecondition

/-- The reset of a power cycle changes at most one thing, whatever a rejection becomes. -/
theorem Client.reset_rejected_spec (c : Client) (systemUri issued : Value) {h : Failure → Act Unit}
    (hh : ∀ f, f.OfRead → (h f).Within (fun _ => False) Failure.NotPrecondition) :
    (tryCatch (c.reset systemUri issued) h).Spec fun r evs =>
      ResetChanges issued evs ∧ ∀ f, r = .error f → f.NotPrecondition := by
  refine Act.Spec.tryCatch_within ((c.reset_changes systemUri issued).and (c.reset_within systemUri issued))
    (fun f e ⟨_, _, hf⟩ => hh f (hf f rfl)) ?_ ?_
  · exact fun x e ⟨hreset, _⟩ => ⟨hreset, nofun⟩
  · intro f r e₁ e₂ ⟨hreset, _⟩ he₂ hr
    have : e₂ = [] := List.eq_nil_iff_forall_not_mem.2 fun e m => he₂ e m
    subst this
    rw [List.append_nil]
    exact ⟨hreset, hr⟩

/-- How a power cycle with reset type `resetType` ends, as its result and its events show: a
reset type it does not know is refused before any event; with a known one it changes at most
one thing, the reset of the system, and fails with no precondition error. -/
def PowerCycled (resetType : Value) (r : Except Failure α) (evs : List Event) : Prop :=
  ((resetTypeNames.any fun t => same resetType (.str t)) = false ∧
    r = .error (unsupportedReset resetType) ∧ evs = []) ∨
  ((resetTypeNames.any fun t => same resetType (.str t)) = true ∧
    (∃ issued, ResetChanges issued evs) ∧ ∀ f, r = .error f → f.NotPrecondition)

/-- What a power cycle shows is about its failures alone, so it holds of any result that
fails the same way. -/
theorem PowerCycled.of_failures {β : Type} {resetType : Value} {r : Except Failure α}
    {r' : Except Failure β} {evs : List Event} (h : PowerCycled resetType r evs)
    (hr : ∀ f, r' = .error f ↔ r = .error f) : PowerCycled resetType r' evs := by
  rcases h with ⟨hno, hf, he⟩ | ⟨hyes, hreset, hf⟩
  · exact Or.inl ⟨hno, (hr _).2 hf, he⟩
  · exact Or.inr ⟨hyes, hreset, fun f h => hf f ((hr f).1 h)⟩

/-- **A power cycle refuses an unknown reset type before sending anything**; otherwise it
changes at most one thing, the reset of the system, and fails with no precondition error. -/
theorem Coordinator.powerCycle_spec (pc : Coordinator) (systemUri resetType timeout : Value) :
    (pc.powerCycle systemUri resetType timeout).Spec (PowerCycled resetType) := by
  unfold Coordinator.powerCycle
  dsimp only
  split
  · rename_i h
    simp only [Act.fail_bind]
    exact (Act.fail_spec _).mono fun r evs ⟨hr, he⟩ => Or.inl ⟨by simpa using h, hr, he⟩
  rename_i h
  refine Act.Spec.mono ?_ fun r evs hr => Or.inr ⟨by simpa using h, hr⟩
  -- the power read before the reset changes nothing
  refine Act.Within.bind_spec (p := fun e => ¬ e.IsChange) (q := Failure.NotPrecondition)
    ?_ (fun current => ?_) ?_ ?_
  · refine (((pc.client.powerState_within systemUri).map some).mono (fun _ h => h.not_isChange)
      fun _ h => h).tryCatch fun f hf => ?_
    exact (rejected_within _ _ hf).bind fun _ => Act.within_pure none
  · -- one reset, then polls that change nothing
    refine Act.Spec.bind_within (Client.reset_rejected_spec pc.client systemUri _ fun f hf =>
      rejected_within _ _ hf) (p := fun e => ¬ e.IsChange) (q := Failure.NotPrecondition)
      (fun _ => ?_) ?_ ?_
    · have hquiet : ∀ f : Failure, f.cls? = none → f.NotPrecondition :=
        fun _ => Failure.notPrecondition_of_plain
      refine Act.within_now.bind fun start => ?_
      refine (Act.within_plain (start.plus_plain timeout) hquiet).bind fun deadline => ?_
      refine (pollPower_within _ _ _ _ _ _ _ _).bind fun ⟨reached, seen, polls⟩ => ?_
      cases reached with
      | some state =>
        refine Act.within_now.bind fun now => ?_
        exact (Act.within_plain (now.minus_plain start) hquiet).bind fun _ => Act.within_pure _
      | none =>
        refine (Act.within_plain (joinTexts_plain _ _) hquiet).bind fun _ => Act.within_fail ?_
        simp [Failure.NotPrecondition, powerFailure]
    · intro _ r e₁ e₂ ⟨hreset, _⟩ h₂ hr
      exact ⟨⟨_, by simpa using ResetChanges.append changes_nil hreset (changes_eq_nil h₂)⟩, hr⟩
    · intro f e ⟨hreset, hf⟩
      exact ⟨⟨_, hreset⟩, fun f' h => by cases h; exact hf f rfl⟩
  · intro r e₁ e₂ h₁ ⟨⟨issued, hreset⟩, hr⟩
    exact ⟨⟨issued, ResetChanges.prepend (changes_eq_nil h₁) hreset⟩, hr⟩
  · intro f e h₁ hf
    exact ⟨⟨.null, ResetChanges.of_changes_nil (changes_eq_nil h₁)⟩, fun f' h => by cases h; exact hf⟩

/-! ## Reading back -/

section ReadBack

variable (r : Reconciler)

theorem ReadBack.property_plain (volume : Value) (f : ReadBack) : Plain (f.property volume) := by
  cases f
  case diskCachePolicy =>
    exact (volume.getOr_plain _ _).bind fun oem => (oem.getOr_plain _ _).bind fun vendor =>
      (vendor.getOr_plain _ _).bind fun block => block.getOr_plain _ _
  case drives => exact plain_ok _
  all_goals exact volume.getOr_plain _ _

/-- A read of the volume that fails only as a read fails, or with the volume not found. -/
theorem Reconciler.readVolume_within (volumeUri : Value) :
    (r.readVolume volumeUri).Within Event.IsRead Failure.NotPrecondition := by
  unfold Reconciler.readVolume
  refine (r.client.get_within volumeUri).tryCatch fun f hf => ?_
  split
  · split
    · exact Act.within_fail (by simp [Failure.NotPrecondition])
    · exact Act.within_fail hf.notPrecondition
  · exact Act.within_fail hf.notPrecondition

theorem Reconciler.findVolume_within (storageUri volumeName : Value) :
    (r.findVolume storageUri volumeName).Within Event.IsRead Failure.NotPrecondition := by
  unfold Reconciler.findVolume
  refine ((r.client.volumes_within storageUri).mono (fun _ h => h) fun _ h => h.notPrecondition).bind
    fun volumes => ?_
  refine (Act.Within.findM? fun v _ => ?_).bind fun found => ?_
  · exact (Act.within_plain (v.getOr_plain _ _) fun _ => Failure.notPrecondition_of_plain).bind
      fun _ => Act.within_pure _
  split
  · exact Act.within_pure _
  · exact Act.within_fail (by simp [Failure.NotPrecondition])

theorem Reconciler.confirmAbsent_within (volumeUri : Value) :
    (r.confirmAbsent volumeUri).Within Event.IsRead Failure.NotPrecondition := by
  unfold Reconciler.confirmAbsent
  refine ((r.client.exists_within volumeUri).mono (fun _ h => h) fun _ h => h.notPrecondition).bind
    fun present => ?_
  split
  · exact Act.within_fail (by simp [Failure.NotPrecondition])
  · exact Act.within_pure _

theorem Reconciler.driveNames_within (volume : Value) :
    (r.driveNames volume).Within Event.IsRead Failure.NotPrecondition := by
  have hquiet : ∀ f : Failure, f.cls? = none → f.NotPrecondition :=
    fun _ => Failure.notPrecondition_of_plain
  unfold Reconciler.driveNames
  refine (Act.within_plain ?_ hquiet).bind fun refs => ?_
  · refine (volume.getOr_plain _ _).bind fun links => (links.getOr_plain _ _).bind fun linked => ?_
    split
    · exact plain_ok _
    · exact (volume.getOr_plain _ _).bind fun _ => plain_ok _
  refine (Act.within_plain (refs.members_plain) hquiet).bind fun refs => ?_
  refine Act.Within.foldlM (fun names ref _ => ?_) _
  refine (Act.within_plain (ref.getOr_plain _ _) hquiet).bind fun uri => ?_
  split
  · refine ((r.client.get_within uri).mono (fun _ h => h) fun _ h => h.notPrecondition).bind
      fun drive => ?_
    exact (Act.within_plain (drive.getOr_plain _ _) hquiet).bind fun _ => Act.within_pure _
  · exact Act.within_pure _

/-- **Reading a volume back only reads**, and fails with no precondition error. -/
theorem Reconciler.reconcile_within (state volume : Value) :
    (r.reconcile state volume).Within Event.IsRead Failure.NotPrecondition := by
  have hquiet : ∀ f : Failure, f.cls? = none → f.NotPrecondition :=
    fun _ => Failure.notPrecondition_of_plain
  unfold Reconciler.reconcile
  refine (Act.within_plain state.entriesOf_plain hquiet).bind fun es => ?_
  refine (Act.within_plain (volume.field_plain _) hquiet).bind fun id => ?_
  refine (Act.Within.foldlM (fun es f _ => ?_) _).bind fun _ => Act.within_pure _
  dsimp only
  split
  · exact ((r.driveNames_within volume).map _).bind fun _ => Act.within_pure _
  · exact (Act.within_plain (ReadBack.property_plain volume f) hquiet).bind fun _ => Act.within_pure _

end ReadBack

end VolumeLifecycle.Lifecycle
