import VolumeLifecycle.Proofs.Redfish.Answers
import VolumeLifecycle.Proofs.Lifecycle.Actions
/-!
# VolumeLifecycle.Proofs.Redfish.Refusals

**The message of a refused response, and what refusing it raises.** A response explains a
failure in the first of a few places (`MessageIs`, one case per place): the first extended info
entry of its error object (the entry's headline, with its resolution after it), the error
object's `message`, the raw text, `HTTP <status>`. Each place needs a shape of the body: the
error object must be an object, the extended info a list whose first entry is an object, and,
without a resolution, the headline a text. Reading the message gives a text exactly in those
cases (`message_eq_str_iff`). An error object that is not an object (a text, say) makes reading
fail (`Response.message_of_error_not_object`), as does a body nested too deep, and no failure of
reading a message is one a poll loop rides out (`Response.message_lasting`).

A read that refuses a response raises its `refusal`: the failed-request error carrying the
response's status, the URI and the message, or, when the message cannot be read, the failure of
reading it. Poll loops ride a refusal out exactly when the message could be read
(`refusal_isTransient_iff`). A refused submission raises a submission error of the processing
stage with the message as its detail, or that same failure (`submit_answered`,
`submissionOutcome_refused`). `refusedAnswer_raises` puts these together.
-/

namespace VolumeLifecycle

/-- The failures of reading a body as JSON that leave the raw text to explain it: a body that
is not JSON, or one with a whole number too long to read. -/
def Failure.unreadableBody : Failure → Bool
  | .undecodable _ | .invalid _ => true
  | _ => false

/-- A computation that fails, if at all, with a failure no poll loop rides out. -/
def Lasting {α : Type} (x : Except Failure α) : Prop := ∀ f, x = .error f → f.isTransient = false

theorem lasting_ok {α : Type} (a : α) : Lasting (Except.ok a : Except Failure α) := by
  intro _ h
  cases h

theorem Lasting.bind {α β : Type} {x : Except Failure α} {g : α → Except Failure β}
    (hx : Lasting x) (hg : ∀ a, Lasting (g a)) : Lasting (x >>= g) := by
  cases x with
  | ok a => exact hg a
  | error f =>
    intro f' h
    cases h
    exact hx f rfl

theorem Value.getOr_lasting (v : Value) (key : String) (fallback : Value) :
    Lasting (v.getOr key fallback) := by
  intro f h
  unfold Value.getOr at h
  split at h <;> grind [Failure.isTransient]

theorem Value.item_lasting (v : Value) (i : Int) : Lasting (v.item i) := by
  intro f h
  unfold Value.item at h
  split at h <;> grind [Failure.isTransient]

end VolumeLifecycle

namespace VolumeLifecycle.Redfish

open VolumeLifecycle.Value VolumeLifecycle.Text

/-! ## Where a message is taken from -/

/-- The object a body explains a failure in: its `error`, or the body itself when it has none.
A body that is not an object explains nothing. -/
def errorObject (body : Value) : Value :=
  match body with
  | .dict es => (lookup es "error").getD body
  | _ => .dict []

/-- The headline of an extended info entry: its `Message`, or its `MessageId` when that is
false. -/
def infoHeadline (ies : List (String × Value)) : Value :=
  if ((lookup ies "Message").getD .null).truthy then (lookup ies "Message").getD .null
  else (lookup ies "MessageId").getD (.str "")

/-- `m` is the readable message of the response `r`, taken from the first place that has one.
Each case asks of the body the shape its place needs: an error object that is an object, and an
extended info that is a list whose first entry is an object. -/
inductive MessageIs (r : Response) : String → Prop
  /-- A body that cannot be read as JSON: its text, or `HTTP <status>` when it is empty. -/
  | raw {f : Failure} {m : String} (hjson : r.json = .error f) (hf : f.unreadableBody = true)
      (hm : r.fallbackText = .str m) : MessageIs r m
  /-- The first extended info entry has a resolution: its headline and the resolution, the
  blanks around them trimmed. -/
  | resolved {body : Value} {ees ies : List (String × Value)} {rest : List Value}
      (hjson : r.json = .ok body) (herr : errorObject body = .dict ees)
      (hext : (lookup ees "@Message.ExtendedInfo").getD .null = .list (.dict ies :: rest))
      (hres : ((lookup ies "Resolution").getD .null).truthy = true) :
      MessageIs r (trimBlank ((infoHeadline ies).display ++ " " ++
        ((lookup ies "Resolution").getD .null).display))
  /-- The first extended info entry has no resolution: its headline, which is a text. -/
  | unresolved {body : Value} {ees ies : List (String × Value)} {rest : List Value} {m : String}
      (hjson : r.json = .ok body) (herr : errorObject body = .dict ees)
      (hext : (lookup ees "@Message.ExtendedInfo").getD .null = .list (.dict ies :: rest))
      (hres : ((lookup ies "Resolution").getD .null).truthy = false)
      (hm : infoHeadline ies = .str m) : MessageIs r m
  /-- No extended info: the `message` of the error object, a text that is not empty. -/
  | message {body : Value} {ees : List (String × Value)} {m : String}
      (hjson : r.json = .ok body) (herr : errorObject body = .dict ees)
      (hext : ((lookup ees "@Message.ExtendedInfo").getD .null).truthy = false)
      (hm : (lookup ees "message").getD .null = .str m) (hne : m ≠ "") : MessageIs r m
  /-- Neither extended info nor a message: the body's text, or `HTTP <status>` when it is
  empty. -/
  | text {body : Value} {ees : List (String × Value)} {m : String}
      (hjson : r.json = .ok body) (herr : errorObject body = .dict ees)
      (hext : ((lookup ees "@Message.ExtendedInfo").getD .null).truthy = false)
      (hmsg : ((lookup ees "message").getD .null).truthy = false)
      (hm : r.fallbackText = .str m) : MessageIs r m

/-! ## Reading the message, step by step -/

/-- What the message is once the error object is found. -/
def fromErrorObject (r : Response) (error : Value) : Except Failure Value := do
  let extended ← error.getOr "@Message.ExtendedInfo"
  if extended.truthy then infoMessage (← extended.item 0)
  else
    let m ← error.getOr "message"
    pure (if m.truthy then m else r.fallbackText)

theorem Response.message_of_json_error {r : Response} {f : Failure} (h : r.json = .error f) :
    r.message = if f.unreadableBody then .ok r.fallbackText else .error f := by
  unfold Response.message
  simp only [h]
  cases f <;> rfl

theorem Response.message_of_json {r : Response} {body : Value} (h : r.json = .ok body) :
    r.message = fromErrorObject r (errorObject body) := by
  unfold Response.message fromErrorObject
  simp only [h]
  cases body <;> rfl

theorem fromErrorObject_dict (r : Response) (ees : List (String × Value)) :
    fromErrorObject r (.dict ees) =
      if ((lookup ees "@Message.ExtendedInfo").getD .null).truthy then
        ((lookup ees "@Message.ExtendedInfo").getD .null).item 0 >>= infoMessage
      else .ok (if ((lookup ees "message").getD .null).truthy then (lookup ees "message").getD .null
        else r.fallbackText) := by
  rfl

theorem fromErrorObject_not_dict (r : Response) {error : Value} (h : ∀ es, error ≠ .dict es) :
    fromErrorObject r error = .error (.noAttribute error.kind "get") := by
  cases error
  case dict es => exact absurd rfl (h es)
  all_goals rfl

/-- The message of an extended info entry that is an object: its headline, with the resolution
after it when there is one. -/
theorem infoMessage_dict (ies : List (String × Value)) :
    infoMessage (.dict ies) = .ok (if ((lookup ies "Resolution").getD .null).truthy then
      .str (trimBlank ((infoHeadline ies).display ++ " " ++
        ((lookup ies "Resolution").getD .null).display))
      else infoHeadline ies) := by
  unfold infoMessage infoHeadline
  by_cases hm : ((lookup ies "Message").getD .null).truthy <;>
    by_cases hr : ((lookup ies "Resolution").getD .null).truthy <;>
    simp [getOr, hm, hr, bind, Except.bind, pure, Except.pure]

theorem infoMessage_not_dict {info : Value} (h : ∀ es, info ≠ .dict es) :
    infoMessage info = .error (.noAttribute info.kind "get") := by
  cases info
  case dict es => exact absurd rfl (h es)
  all_goals rfl

theorem item_zero_cons (x : Value) (rest : List Value) : (Value.list (x :: rest)).item 0 = .ok x := by
  simp only [item]
  rw [if_neg (by simp)]
  simp

/-- An item of a text is a text. -/
theorem item_str_text {s : String} {i : Int} {v : Value} (h : (Value.str s).item i = .ok v) :
    ∃ t, v = .str t := by
  unfold item at h
  dsimp only at h
  -- whatever the index comes to, a character found there is a text
  generalize (if i < 0 then i + (s.toList.length : Int) else i) = j at h
  split at h
  · cases h
  · split at h
    · cases h
      exact ⟨_, rfl⟩
    · cases h

/-- An object at the front of a value is the first entry of a list: the first character of a
text is a text. -/
theorem item_zero_eq_dict {v : Value} {ies : List (String × Value)} (h : v.item 0 = .ok (.dict ies)) :
    ∃ rest, v = .list (.dict ies :: rest) := by
  cases v
  case list xs =>
    cases xs with
    | nil => simp [item] at h
    | cons x rest =>
      rw [item_zero_cons] at h
      cases h
      exact ⟨rest, rfl⟩
  case str s =>
    obtain ⟨t, ht⟩ := item_str_text h
    cases ht
  all_goals cases h

/-- **Every place the documentation lists gives its message as a text.** -/
theorem MessageIs.message_eq {r : Response} {m : String} (h : MessageIs r m) :
    r.message = .ok (.str m) := by
  cases h with
  | raw hjson hf hm => rw [r.message_of_json_error hjson, if_pos hf, hm]
  | @resolved body ees ies rest hjson herr hext hres =>
    have hlist : (Value.list (.dict ies :: rest)).truthy = true := rfl
    rw [r.message_of_json hjson, herr, fromErrorObject_dict, hext, if_pos hlist, item_zero_cons]
    exact (infoMessage_dict ies).trans (by rw [if_pos hres])
  | @unresolved body ees ies rest m hjson herr hext hres hm =>
    have hlist : (Value.list (.dict ies :: rest)).truthy = true := rfl
    rw [r.message_of_json hjson, herr, fromErrorObject_dict, hext, if_pos hlist, item_zero_cons]
    exact (infoMessage_dict ies).trans (by rw [if_neg (by simp [hres]), hm])
  | message hjson herr hext hm hne =>
    rw [r.message_of_json hjson, herr, fromErrorObject_dict, if_neg (by simp [hext]), hm]
    simp [truthy, hne]
  | text hjson herr hext hmsg hm =>
    rw [r.message_of_json hjson, herr, fromErrorObject_dict, if_neg (by simp [hext]),
      if_neg (by simp [hmsg]), hm]

/-- **A text the message comes to is taken from one of the documented places.** -/
theorem MessageIs.of_message_eq {r : Response} {m : String} (h : r.message = .ok (.str m)) :
    MessageIs r m := by
  cases hjson : r.json with
  | error f =>
    rw [r.message_of_json_error hjson] at h
    by_cases hf : f.unreadableBody = true
    · rw [if_pos hf] at h
      exact .raw hjson hf (Except.ok.inj h)
    · rw [if_neg hf] at h
      cases h
  | ok body =>
    rw [r.message_of_json hjson] at h
    by_cases hobj : ∃ ees, errorObject body = .dict ees
    · obtain ⟨ees, herr⟩ := hobj
      rw [herr, fromErrorObject_dict] at h
      by_cases hext : ((lookup ees "@Message.ExtendedInfo").getD .null).truthy = true
      · -- the first extended info entry, which must be an object
        rw [if_pos hext] at h
        obtain ⟨info, hinfo, hmsg⟩ := exists_of_bind_eq_ok h
        by_cases hdict : ∃ ies, info = .dict ies
        · obtain ⟨ies, rfl⟩ := hdict
          obtain ⟨rest, hrest⟩ := item_zero_eq_dict hinfo
          rw [infoMessage_dict] at hmsg
          by_cases hres : ((lookup ies "Resolution").getD .null).truthy = true
          · rw [if_pos hres] at hmsg
            obtain rfl := Value.str.inj (Except.ok.inj hmsg)
            exact .resolved hjson herr hrest hres
          · rw [if_neg hres] at hmsg
            exact .unresolved hjson herr hrest (by simpa using hres) (Except.ok.inj hmsg)
        · rw [infoMessage_not_dict fun ies h => hdict ⟨ies, h⟩] at hmsg
          cases hmsg
      · rw [if_neg hext] at h
        have hnone : ((lookup ees "@Message.ExtendedInfo").getD .null).truthy = false := by
          simpa using hext
        by_cases hmsg : ((lookup ees "message").getD .null).truthy = true
        · rw [if_pos hmsg] at h
          have hm := Except.ok.inj h
          refine .message hjson herr hnone hm fun hempty => ?_
          rw [hm, hempty] at hmsg
          simp [truthy] at hmsg
        · rw [if_neg hmsg] at h
          exact .text hjson herr hnone (by simpa using hmsg) (Except.ok.inj h)
    · rw [fromErrorObject_not_dict r fun ees h => hobj ⟨ees, h⟩] at h
      cases h

theorem message_eq_str_iff {r : Response} {m : String} :
    r.message = .ok (.str m) ↔ MessageIs r m :=
  ⟨MessageIs.of_message_eq, MessageIs.message_eq⟩

/-- **An error object that is not an object makes reading the message fail**: it is asked for
its extended info as an object would be. -/
theorem Response.message_of_error_not_object {r : Response} {body : Value}
    (hjson : r.json = .ok body) (hobj : ∀ es, errorObject body ≠ .dict es) :
    r.message = .error (.noAttribute (errorObject body).kind "get") := by
  rw [r.message_of_json hjson, fromErrorObject_not_dict r hobj]

example : ({ status := 500, headers := [], text := "\x7b\"error\": \"oops\"\x7d" } :
    Response).message.toOption = none := by
  with_unfolding_all rfl

/-! ## The failures of the message -/

theorem Response.json_error {r : Response} {f : Failure} (h : r.json = .error f) :
    ∃ e, f = Failure.ofRefusal e := by
  unfold Response.json at h
  split at h
  · cases h
  · cases h
    exact ⟨_, rfl⟩

theorem infoMessage_lasting (info : Value) : Lasting (infoMessage info) := by
  unfold infoMessage
  dsimp only
  refine (info.getOr_lasting _ _).bind fun message => ?_
  have withResolution : ∀ m : Value, Lasting (do
      let resolution ← info.getOr "Resolution"
      if resolution.truthy = true then
        pure (Value.str (trimBlank (m.display ++ " " ++ resolution.display)))
      else pure m) := fun m =>
    (info.getOr_lasting _ _).bind fun _ => by split <;> exact lasting_ok _
  split
  · exact (lasting_ok message).bind withResolution
  · exact (info.getOr_lasting _ _).bind withResolution

theorem fromErrorObject_lasting (r : Response) (error : Value) :
    Lasting (fromErrorObject r error) :=
  (error.getOr_lasting _ _).bind fun extended => by
    split
    · exact (extended.item_lasting 0).bind infoMessage_lasting
    · exact (error.getOr_lasting _ _).bind fun _ => lasting_ok _

/-- **No failure of reading a message is one a poll loop rides out**: a body nested too deep, an
error object that is not an object, an extended info that is not a list of objects. -/
theorem Response.message_lasting (r : Response) : Lasting r.message := by
  cases hjson : r.json with
  | error f =>
    rw [r.message_of_json_error hjson]
    by_cases hf : f.unreadableBody = true
    · rw [if_pos hf]
      exact lasting_ok _
    · -- a body nested too deep stops on the depth of recursion
      rw [if_neg hf]
      obtain ⟨e, rfl⟩ := r.json_error hjson
      intro f' h
      cases h
      cases e <;> simp_all [Failure.ofRefusal, Failure.unreadableBody, Failure.isTransient]
  | ok body =>
    rw [r.message_of_json hjson]
    exact fromErrorObject_lasting r _

/-! ## What a refused answer raises -/

/-- The failed-request error a read raises on the response `r` to a request for `uri`, with the
detail `detail`. -/
def requestError (message : String) (r : Response) (uri detail : Value) : Failure :=
  .lifecycle { cls := .redfishRequest, message, detail, status := .int r.status, uri }

/-- What a read raises on a response it refuses: the failed-request error with the response's
message as its detail, or the failure of reading that message. -/
def refusal (message : String) (r : Response) (uri : Value) : Failure :=
  match r.message with
  | .ok detail => requestError message r uri detail
  | .error f => f

/-- **A refusal is ridden out by a poll loop exactly when the response's message can be read.** -/
theorem refusal_isTransient_iff (message : String) (r : Response) (uri : Value) :
    (refusal message r uri).isTransient = true ↔ ∃ detail, r.message = .ok detail := by
  unfold refusal
  cases hm : r.message with
  | ok detail => exact ⟨fun _ => ⟨detail, rfl⟩, fun _ => rfl⟩
  | error f =>
    rw [r.message_lasting f hm]
    simp

theorem refusal_of_messageIs {message : String} {r : Response} {m : String} (uri : Value)
    (h : MessageIs r m) : refusal message r uri = requestError message r uri (.str m) := by
  unfold refusal
  rw [h.message_eq]

theorem documentOf_refused (uri : Value) {r : Response} (h : r.status ≠ 200) :
    documentOf uri r =
      .error (refusal s!"GET request to {uri.display} failed with status {r.status}" r uri) := by
  unfold documentOf refusal readFailure
  rw [if_pos (by simpa using h)]
  cases r.message <;> rfl

theorem taskStatusOf_refused (jobRef : Value) {r : Response} (h200 : r.status ≠ 200)
    (h202 : r.status ≠ 202) :
    taskStatusOf jobRef r = .error (refusal s!"Failed to check job status: {r.status}" r jobRef) := by
  unfold taskStatusOf refusal readFailure
  rw [if_pos (by simp [h200, h202])]
  cases r.message <;> rfl

theorem resetOutcome_refused (target : Value) {r : Response} (h200 : r.status ≠ 200)
    (h202 : r.status ≠ 202) (h204 : r.status ≠ 204) :
    resetOutcome target r = .error (refusal s!"Failed to reset system: {r.status}" r target) := by
  unfold resetOutcome refusal readFailure
  rw [if_pos (by simp [h200, h202, h204])]
  cases r.message <;> rfl

end VolumeLifecycle.Redfish

namespace VolumeLifecycle.Lifecycle

open VolumeLifecycle.Redfish VolumeLifecycle.Value

/-! ## What a refused submission raises -/

/-- What a submission makes of the controller's answer `r`: the job reference when the answer
accepts the change, else a submission error. -/
def submissionOutcome (kind : ChangeKind) (r : Response) : Except Failure Value := do
  if r.status != 202 then
    throw (submissionFailure
      s!"The volume {kind.name} request was not accepted. Return code {r.status} was different from 202 ACCEPTED"
      (← r.message))
  let jobRef := (r.header? "Location").getD (.str "")
  if !jobRef.truthy then
    throw (submissionFailure
      s!"No job reference returned for the accepted volume {kind.name} request")
  pure jobRef

theorem submit_answer_eq (kind : ChangeKind) (response : Response) :
    (do
      if (response.status != 202) = true then
        let detail ← Act.ofExcept response.message
        Act.fail (submissionFailure
          s!"The volume {kind.name} request was not accepted. Return code {response.status} was different from 202 ACCEPTED"
          detail)
      else
        if (!((response.header? "Location").getD (.str "")).truthy) = true then
          Act.fail (submissionFailure
            s!"No job reference returned for the accepted volume {kind.name} request")
        else pure ((response.header? "Location").getD (.str "")) : Act Value) =
      Act.ofExcept (submissionOutcome kind response) := by
  unfold submissionOutcome
  dsimp only
  by_cases h202 : (response.status != 202) = true
  · simp only [h202, if_true]
    cases response.message <;> rfl
  · by_cases hloc : (!((response.header? "Location").getD (.str "")).truthy) = true
    · simp only [h202, hloc, if_true, if_false, Bool.false_eq_true]
      rfl
    · simp only [h202, hloc, if_false, Bool.false_eq_true]
      rfl

/-- **A submission answered with a response makes of it what `submissionOutcome` says.** -/
theorem submit_answered (c : Client) (kind : ChangeKind) (m : Method) (uri payload : Value) :
    (submit c kind m uri payload).Spec fun res evs => ∀ path r,
      evs = [.exchange { method := m, path, payload } (.ok r)] → res = submissionOutcome kind r := by
  unfold submit
  dsimp only
  simp only [Act.fail_bind]
  refine Act.Spec.bind (submit_request_spec c kind m uri payload)
    (fun response => (submit_answer_eq kind response).symm ▸ Act.ofExcept_spec _) ?_ ?_
  · intro response res e₁ e₂ ⟨_, hcases⟩ ⟨hres, he₂⟩ path r hevs
    subst he₂
    rw [List.append_nil] at hevs
    rcases hcases with ⟨he₁, _⟩ | ⟨path', answer, _, he₁, hans⟩
    · rw [he₁] at hevs
      cases hevs
    · -- the one exchange was answered with `r`, which the request returned
      rw [he₁] at hevs
      cases hevs
      cases (hans response).1 rfl
      exact hres
  · intro f e ⟨_, hcases⟩ path r hevs
    rcases hcases with ⟨he, _⟩ | ⟨path', answer, _, he, hans⟩
    · rw [he] at hevs
      cases hevs
    · rw [he] at hevs
      cases hevs
      cases (hans r).2 rfl

/-- What a submission raises on an answer that does not accept it: a submission error of the
processing stage with the answer's message as its detail, or the failure of reading that
message. -/
def submissionRefusal (kind : ChangeKind) (r : Response) : Failure :=
  match r.message with
  | .ok detail => submissionFailure
      s!"The volume {kind.name} request was not accepted. Return code {r.status} was different from 202 ACCEPTED"
      detail
  | .error f => f

theorem submissionOutcome_refused (kind : ChangeKind) {r : Response} (h : r.status ≠ 202) :
    submissionOutcome kind r = .error (submissionRefusal kind r) := by
  unfold submissionOutcome submissionRefusal
  rw [if_pos (by simpa using h)]
  cases r.message <;> rfl

theorem submissionRefusal_of_messageIs (kind : ChangeKind) {r : Response} {m : String}
    (h : MessageIs r m) :
    submissionRefusal kind r = submissionFailure
      s!"The volume {kind.name} request was not accepted. Return code {r.status} was different from 202 ACCEPTED"
      (.str m) := by
  unfold submissionRefusal
  rw [h.message_eq]

/-! ## Refused answers -/

/-- **What a refused answer raises, and the message it carries.** The message of a response is a
text exactly when one of the documented places gives it, with the shape that place needs; an
error object that is not an object makes reading the message fail, and no failure of reading a
message is one a poll loop rides out. A read refusing a response (a GET on any status but 200, a
task read on any but 200 and 202, a reset on any but 200, 202 and 204) raises its `refusal`:
the failed-request error with the response's status, the URI and the message, which poll loops
ride out exactly when the message can be read. A submission answered with any status but 202
raises a submission error of the processing stage with the message as its detail, or the
failure of reading the message. -/
theorem refusedAnswer_raises (r : Response) :
    (∀ m : String, r.message = .ok (.str m) ↔ MessageIs r m) ∧
    (∀ body : Value, r.json = .ok body → (∀ es, errorObject body ≠ .dict es) →
      r.message = .error (.noAttribute (errorObject body).kind "get")) ∧
    (∀ f : Failure, r.message = .error f → f.isTransient = false) ∧
    (∀ uri : Value, r.status ≠ 200 → documentOf uri r =
      .error (refusal s!"GET request to {uri.display} failed with status {r.status}" r uri)) ∧
    (∀ jobRef : Value, r.status ≠ 200 → r.status ≠ 202 →
      taskStatusOf jobRef r = .error (refusal s!"Failed to check job status: {r.status}" r jobRef)) ∧
    (∀ target : Value, r.status ≠ 200 → r.status ≠ 202 → r.status ≠ 204 →
      resetOutcome target r = .error (refusal s!"Failed to reset system: {r.status}" r target)) ∧
    (∀ (message : String) (uri : Value),
      ((refusal message r uri).isTransient = true ↔ ∃ detail, r.message = .ok detail) ∧
      ∀ m, MessageIs r m → refusal message r uri = requestError message r uri (.str m)) ∧
    ∀ (c : Client) (kind : ChangeKind) (method : Method) (uri payload : Value),
      (submit c kind method uri payload).Spec fun res evs => ∀ path,
        evs = [.exchange { method, path, payload } (.ok r)] → r.status ≠ 202 →
        res = .error (submissionRefusal kind r) ∧
        ∀ m, MessageIs r m → submissionRefusal kind r = submissionFailure
          s!"The volume {kind.name} request was not accepted. Return code {r.status} was different from 202 ACCEPTED"
          (.str m) := by
  refine ⟨fun m => message_eq_str_iff,
    fun body hjson hobj => r.message_of_error_not_object hjson hobj,
    fun f h => r.message_lasting f h,
    fun uri h => documentOf_refused uri h,
    fun jobRef h200 h202 => taskStatusOf_refused jobRef h200 h202,
    fun target h200 h202 h204 => resetOutcome_refused target h200 h202 h204,
    fun message uri => ⟨refusal_isTransient_iff message r uri, fun m h => refusal_of_messageIs uri h⟩,
    fun c kind method uri payload => (submit_answered c kind method uri payload).mono ?_⟩
  -- the submission read its answer, which it refused
  intro res evs hanswered path hevs h202
  exact ⟨(hanswered path r hevs).trans (submissionOutcome_refused kind h202),
    fun m h => submissionRefusal_of_messageIs kind h⟩

end VolumeLifecycle.Lifecycle
