import VolumeLifecycle.Proofs.Redfish.Reads
/-!
# VolumeLifecycle.Proofs.Redfish.Answers

**What a read makes of the controller's answer.** Every read of the client sends one request
and then works only on the answer it got, so its result is a function of that answer. This
module names those functions and proves each read equal to "send, then apply the function":

* `readFailure` — the failed-request error a read reports, as `requestFailure` builds it;
* `taskStatusOf`, `taskRead` — a task read (`Client.taskStatus_eq`, `Client.taskStatus_answer`),
  with the status as a `TaskStatus`;
* `documentOf`, `powerRead` — a GET and a read of the power state (`Client.get_eq`,
  `Client.powerState_answer`);
* `resetTarget`, `resetOutcome`, `ResetSent` — a reset: a GET of the system, then at most one
  POST of the reset type to the target the system advertises or the conventional one
  (`Client.reset_sent`).
-/

namespace VolumeLifecycle.Redfish

open VolumeLifecycle.Value

/-! ## One GET -/

/-- A value taken from a computation and then transformed is the computation's value, transformed
where it is used. -/
theorem Act.ofExcept_map_bind {α β γ : Type} (g : α → β) (x : Except Failure α) (k : β → Act γ) :
    (Act.ofExcept (g <$> x) >>= k) = Act.ofExcept x >>= fun t => k (g t) := by
  cases x <;> rfl

/-- The failure a failed read reports. -/
def readFailure (message : String) (r : Response) (uri : Value) : Except Failure Failure := do
  let detail ← r.message
  pure (.lifecycle { cls := .redfishRequest, message, detail, status := .int r.status, uri })

theorem requestFailure_eq (message : String) (r : Response) (uri : Value) :
    requestFailure message r uri = Act.ofExcept (readFailure message r uri) := by
  unfold requestFailure readFailure
  cases r.message <;> rfl

/-- Every text is a URI with a path. -/
theorem Client.target_str (c : Client) (u : String) : ∃ path, c.target (.str u) = .ok path := by
  unfold Client.target Client.url
  simp only [textOf, bind, Except.bind]
  split <;> exact ⟨_, rfl⟩

/-- A request whose response is read by `k`: when the URI has no path, no request and the
failure; otherwise one exchange at the URI's path, and its result is what `k` makes of the
answer. -/
theorem Client.send_answer {α : Type} (c : Client) (m : Method) (uri payload : Value)
    (k : Response → Except Failure α) :
    (c.send m uri payload >>= fun r => Act.ofExcept (k r)).Spec fun r evs =>
      (∃ f, c.target uri = .error f ∧ r = .error f ∧ evs = []) ∨
      ∃ path answer, c.target uri = .ok path ∧
        evs = [.exchange { method := m, path, payload } answer] ∧ r = answer >>= k := by
  refine Act.Spec.bind (c.send_spec m uri payload) (fun r => Act.ofExcept_spec _) ?_ ?_
  · intro response r e₁ e₂ hsent hr
    obtain ⟨hr, he₂⟩ := hr
    rcases hsent.2 with ⟨f, _, h, _⟩ | ⟨path, ht, he₁⟩
    · cases h
    · exact .inr ⟨path, .ok response, ht, by rw [he₁, he₂, List.append_nil], hr⟩
  · intro f e hsent
    rcases hsent.2 with ⟨f', ht, hf, he⟩ | ⟨path, ht, he⟩
    · cases hf
      exact .inl ⟨f, ht, rfl, he⟩
    · exact .inr ⟨path, .error f, ht, he, rfl⟩

/-- A GET of a URI with a path: one GET of that path, and its result is what `k` makes of the
answer. -/
theorem Client.send_get_answer {α : Type} (c : Client) {uri : Value} {path : String}
    (hpath : c.target uri = .ok path) (k : Response → Except Failure α) :
    (c.send .get uri >>= fun r => Act.ofExcept (k r)).Spec fun r evs => ∃ answer,
      evs = [.exchange { method := .get, path, payload := .null } answer] ∧ r = answer >>= k := by
  refine (c.send_answer .get uri .null k).mono fun r evs h => ?_
  rcases h with ⟨f, ht, -, -⟩ | ⟨path', answer, ht, he, hr⟩
  · rw [hpath] at ht
    cases ht
  · rw [hpath] at ht
    cases ht
    exact ⟨answer, he, hr⟩

/-! ## Task reads -/

/-- A task's status as a read reports it. -/
structure TaskStatus where
  state : Value
  percent : Value
  message : Value

/-- The status as the read returns it. -/
def TaskStatus.toValue (t : TaskStatus) : Value :=
  .dict [("state", t.state), ("percent_complete", t.percent), ("message", t.message)]

@[simp] theorem TaskStatus.getOr_state (t : TaskStatus) : t.toValue.getOr "state" = .ok t.state :=
  rfl

@[simp] theorem TaskStatus.getOr_percent (t : TaskStatus) :
    t.toValue.getOr "percent_complete" = .ok t.percent := rfl

@[simp] theorem TaskStatus.getOr_message (t : TaskStatus) :
    t.toValue.getOr "message" = .ok t.message := rfl

/-- The status a task document reports: its `TaskState`, or its `JobState` when that is false;
its `PercentComplete`; its `Message`, or the message of the first of its `Messages` when that is
false. -/
def taskFields (data : Value) : Except Failure TaskStatus := do
  let message ← data.getOr "Message"
  let messages ← data.getOr "Messages"
  let message ← if !message.truthy && messages.truthy then
      (← messages.item 0).getOr "Message"
    else pure message
  let taskState ← data.getOr "TaskState"
  let state ← if taskState.truthy then pure taskState else data.getOr "JobState"
  let percent ← data.getOr "PercentComplete"
  pure { state, percent, message }

/-- What a task read makes of the controller's response: a failed read on any status but 200
and 202, else the status the document reports. -/
def taskStatusOf (jobRef : Value) (r : Response) : Except Failure TaskStatus := do
  if r.status != 200 && r.status != 202 then
    throw (← readFailure s!"Failed to check job status: {r.status}" r jobRef)
  r.json >>= taskFields

/-- A task read is one GET of the job followed by `taskStatusOf`. -/
theorem Client.taskStatus_eq (c : Client) (jobRef : Value) :
    c.taskStatus jobRef = c.send .get jobRef >>= fun r =>
      Act.ofExcept (TaskStatus.toValue <$> taskStatusOf jobRef r) := by
  unfold Client.taskStatus taskStatusOf
  congr 1
  funext r
  by_cases hbad : (r.status != 200 && r.status != 202) = true
  · simp only [hbad, if_true, requestFailure_eq, Act.fail_bind]
    cases readFailure s!"Failed to check job status: {r.status}" r jobRef <;> rfl
  · simp only [hbad, Bool.false_eq_true, if_false]
    cases r.json with
    | error f => rfl
    | ok data =>
      show Act.ofExcept _ = Act.ofExcept (TaskStatus.toValue <$> taskFields data)
      congr 1
      simp only [taskFields, map_bind, map_pure, pure_bind, apply_ite, TaskStatus.toValue]

/-- What a task read got from the controller's answer. -/
def taskRead (jobRef : Value) (answer : Except Failure Response) : Except Failure TaskStatus :=
  answer >>= taskStatusOf jobRef

/-- A task read sends one GET of the job's path, and its result is what it makes of the
answer. -/
theorem Client.taskStatus_answer (c : Client) {jobRef : Value} {path : String}
    (hpath : c.target jobRef = .ok path) :
    (c.taskStatus jobRef).Spec fun r evs => ∃ answer,
      evs = [.exchange { method := .get, path, payload := .null } answer] ∧
      r = TaskStatus.toValue <$> taskRead jobRef answer := by
  rw [Client.taskStatus_eq]
  refine (c.send_get_answer hpath _).mono fun r evs h => ?_
  obtain ⟨answer, he, hr⟩ := h
  refine ⟨answer, he, ?_⟩
  rw [hr, taskRead]
  cases answer <;> rfl

/-! ## Reads of a document and of the power state -/

/-- What a read makes of the controller's response to a GET of `uri`: a failed read on any
status but 200, else the document. -/
def documentOf (uri : Value) (r : Response) : Except Failure Value := do
  if r.status != 200 then
    throw (← readFailure s!"GET request to {uri.display} failed with status {r.status}" r uri)
  r.json

/-- A read is one GET followed by `documentOf`. -/
theorem Client.get_eq (c : Client) (uri : Value) :
    c.get uri = c.send .get uri >>= fun r => Act.ofExcept (documentOf uri r) := by
  unfold Client.get documentOf
  congr 1
  funext r
  by_cases hbad : (r.status != 200) = true
  · simp only [hbad, if_true, requestFailure_eq, Act.fail_bind]
    cases readFailure s!"GET request to {uri.display} failed with status {r.status}" r uri <;> rfl
  · simp only [hbad, Bool.false_eq_true, if_false]

theorem Client.get_answer (c : Client) {uri : Value} {path : String}
    (hpath : c.target uri = .ok path) :
    (c.get uri).Spec fun r evs => ∃ answer,
      evs = [.exchange { method := .get, path, payload := .null } answer] ∧
      r = answer >>= documentOf uri := by
  rw [Client.get_eq]
  exact c.send_get_answer hpath _

/-- What a read of the power state got from the controller's answer. -/
def powerRead (uri : Value) (answer : Except Failure Response) : Except Failure Value :=
  answer >>= documentOf uri >>= fun system => system.getOr "PowerState"

/-- A read of the power state sends one GET of the system's path, and its result is what it
makes of the answer. -/
theorem Client.powerState_answer (c : Client) {uri : Value} {path : String}
    (hpath : c.target uri = .ok path) :
    (c.powerState uri).Spec fun r evs => ∃ answer,
      evs = [.exchange { method := .get, path, payload := .null } answer] ∧
      r = powerRead uri answer := by
  unfold Client.powerState
  refine Act.Spec.bind (c.get_answer hpath) (fun system => Act.ofExcept_spec _) ?_ ?_
  · intro system r e₁ e₂ h₁ h₂
    obtain ⟨answer, he₁, hsystem⟩ := h₁
    obtain ⟨hr, he₂⟩ := h₂
    refine ⟨answer, by rw [he₁, he₂, List.append_nil], ?_⟩
    rw [hr, powerRead, ← hsystem]
    rfl
  · intro f e h
    obtain ⟨answer, he, hf⟩ := h
    refine ⟨answer, he, ?_⟩
    rw [powerRead, ← hf]
    rfl

/-! ## Resets -/

/-- The URI a reset of the system at `systemUri` is posted to, as the system document gives it:
its `#ComputerSystem.Reset` action's target, or the conventional one below the system's URI when
that is missing or false. -/
def resetTarget (systemUri system : Value) : Except Failure Value :=
  (fun target => if target.truthy then target
    else .str s!"{systemUri.display}/Actions/ComputerSystem.Reset") <$> do
    let actions ← system.getOr "Actions" (.dict [])
    let action ← actions.getOr "#ComputerSystem.Reset" (.dict [])
    action.getOr "target"

/-- What a reset makes of the controller's response to its POST to `target`: done on 200, 202
and 204, a failed request on any other status. -/
def resetOutcome (target : Value) (r : Response) : Except Failure Unit := do
  if r.status != 200 && r.status != 202 && r.status != 204 then
    throw (← readFailure s!"Failed to reset system: {r.status}" r target)

/-- A reset is a read of the system, then a POST of the reset type to `resetTarget`, read by
`resetOutcome`. -/
theorem Client.reset_eq (c : Client) (systemUri resetType : Value) :
    c.reset systemUri resetType = c.get systemUri >>= fun system =>
      Act.ofExcept (resetTarget systemUri system) >>= fun target =>
        c.send .post target (.dict [("ResetType", resetType)]) >>= fun r =>
          Act.ofExcept (resetOutcome target r) := by
  unfold Client.reset Client.post
  congr 1
  funext system
  rw [resetTarget, Act.ofExcept_map_bind]
  congr 1
  funext target
  dsimp only
  congr 1
  funext r
  unfold resetOutcome
  by_cases hbad : (r.status != 200 && r.status != 202 && r.status != 204) = true
  · simp only [hbad, if_true, requestFailure_eq]
    cases readFailure s!"Failed to reset system: {r.status}" r _ <;> rfl
  · simp only [hbad, Bool.false_eq_true, if_false]
    rfl

/-- After the read, a reset posts once to the target the system gives, when a request can be
sent there, and fails before sending anything otherwise. -/
theorem Client.post_reset_spec (c : Client) (systemUri system resetType : Value) :
    (Act.ofExcept (resetTarget systemUri system) >>= fun target =>
      c.send .post target (.dict [("ResetType", resetType)]) >>= fun r =>
        Act.ofExcept (resetOutcome target r)).Spec fun r evs =>
      (∃ f, resetTarget systemUri system >>= c.target = .error f ∧ r = .error f ∧ evs = []) ∨
      ∃ target targetPath answer, resetTarget systemUri system = .ok target ∧
        c.target target = .ok targetPath ∧
        evs = [.exchange { method := .post, path := targetPath,
                           payload := .dict [("ResetType", resetType)] } answer] ∧
        r = answer >>= resetOutcome target := by
  refine Act.Spec.bind (Act.ofExcept_spec _)
    (fun target => c.send_answer .post target _ (resetOutcome target)) ?_ ?_
  · rintro target r e₁ e₂ ⟨htarget, he₁⟩ h
    subst he₁
    rcases h with ⟨f, ht, hr, he₂⟩ | ⟨targetPath, answer, ht, he₂, hr⟩
    · exact .inl ⟨f, by rw [← htarget]; exact ht, hr, he₂⟩
    · exact .inr ⟨target, targetPath, answer, htarget.symm, ht, he₂, hr⟩
  · rintro f e ⟨hf, he⟩
    exact .inl ⟨f, by rw [← hf]; rfl, rfl, he⟩

/-- How a reset of the system at `systemUri` to `resetType` went, as its events and its result
show. It reads the system at `path`; then, when the read gives a target a request can be sent
to, it posts the reset type there once. -/
inductive ResetSent (c : Client) (systemUri resetType : Value) (path : String) :
    Except Failure Unit → List Event → Prop
  /-- The read of the system failed: nothing is posted. -/
  | unread {answer : Except Failure Response} {f : Failure}
      (hread : answer >>= documentOf systemUri = .error f) :
      ResetSent c systemUri resetType path (.error f)
        [.exchange { method := .get, path, payload := .null } answer]
  /-- The system names no target a request can be sent to. -/
  | untargeted {answer : Except Failure Response} {system : Value} {f : Failure}
      (hread : answer >>= documentOf systemUri = .ok system)
      (htarget : resetTarget systemUri system >>= c.target = .error f) :
      ResetSent c systemUri resetType path (.error f)
        [.exchange { method := .get, path, payload := .null } answer]
  /-- One POST of the reset type to the target. -/
  | posted {answer answer' : Except Failure Response} {system target : Value}
      {targetPath : String} (hread : answer >>= documentOf systemUri = .ok system)
      (htarget : resetTarget systemUri system = .ok target)
      (hpath : c.target target = .ok targetPath) :
      ResetSent c systemUri resetType path (answer' >>= resetOutcome target)
        [.exchange { method := .get, path, payload := .null } answer,
         .exchange { method := .post, path := targetPath,
                     payload := .dict [("ResetType", resetType)] } answer']

/-- A reset of a system with a path goes as `ResetSent` says. -/
theorem Client.reset_sent (c : Client) {systemUri : Value} {path : String}
    (hpath : c.target systemUri = .ok path) (resetType : Value) :
    (c.reset systemUri resetType).Spec (ResetSent c systemUri resetType path) := by
  rw [Client.reset_eq]
  refine Act.Spec.bind (c.get_answer hpath)
    (fun system => c.post_reset_spec systemUri system resetType) ?_ ?_
  · rintro system r e₁ e₂ ⟨answer, he₁, hsystem⟩ h
    subst he₁
    rcases h with ⟨f, ht, hr, he₂⟩ | ⟨target, targetPath, answer', htarget, ht, he₂, hr⟩
    · subst hr he₂
      exact .untargeted hsystem.symm ht
    · subst hr he₂
      exact .posted hsystem.symm htarget ht
  · rintro f e ⟨answer, he, hf⟩
    subst he
    exact .unread hf.symm

end VolumeLifecycle.Redfish
