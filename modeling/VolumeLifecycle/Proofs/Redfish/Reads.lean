import VolumeLifecycle.Redfish.Client
import VolumeLifecycle.Proofs.Site.Journal
/-!
# VolumeLifecycle.Proofs.Redfish.Reads

**The client's reads only read.** Every read of the client (a resource, the members of a
collection, a system, its storage controllers and drives, the apply times of a volume
collection, the server generation, a task, the power state, whether a resource exists) sends
GET requests and nothing else, and fails only with a fault or a failed-request error
(`Failure.OfRead`). The reset of a system is the one change: a read of the system, then one
POST to its reset action.

Two reads are also given exactly, for the apply-time gate: `Client.get` is one GET of the
URI's path answered with status 200 and a JSON body, and `Client.supportedApplyTimes` is one
such read of the volume collection, whose advertised apply times (`advertisedApplyTimes`) it
returns.
-/

namespace VolumeLifecycle

/-- The failures of a read: faults, and failed requests. -/
def Failure.OfRead (f : Failure) : Prop := f.cls? = none ∨ f.cls? = some .redfishRequest

end VolumeLifecycle

namespace VolumeLifecycle.Redfish

open VolumeLifecycle.Value

variable {α : Type}

/-- The path a request for `uri` goes to. -/
def Client.target (c : Client) (uri : Value) : Except Failure String := c.pathOf <$> c.url uri

/-- The apply times a volume collection advertises. -/
def advertisedApplyTimes (volumes : Value) : Except Failure (List Value) := do
  let support ← volumes.getOr "@Redfish.OperationApplyTimeSupport" (.dict [])
  (← support.getOr "SupportedValues" (.list [])).members

theorem textOf_plain (v : Value) (op : String) : Plain (textOf v op) := by
  intro f h
  unfold textOf at h
  split at h
  · exact nomatch h
  · obtain rfl := Except.error.inj h
    rfl

/-- A URI that is not a text has no URL. -/
theorem Client.url_error {c : Client} {uri : Value} {f : Failure} (h : c.url uri = .error f) :
    f = .noAttribute uri.kind "startswith" := by
  unfold Client.url at h
  cases uri
  case str u =>
    simp only [textOf, bind, Except.bind] at h
    split at h <;> cases h
  all_goals cases h; rfl

theorem Client.url_plain (c : Client) (uri : Value) : Plain (c.url uri) :=
  (textOf_plain uri _).bind fun u => by
    dsimp only
    split <;> exact plain_ok _

/-! ## Sending -/

/-- A request sent through the client is one exchange with the URI's path, or nothing when
the URI is not a text; either way it fails only with faults. -/
theorem Client.send_spec (c : Client) (m : Method) (uri payload : Value) :
    (c.send m uri payload).Spec fun r evs => (∀ f, r = .error f → f.cls? = none) ∧
      ((∃ f, c.target uri = .error f ∧ r = .error f ∧ evs = []) ∨
       ∃ path, c.target uri = .ok path ∧ evs = [.exchange { method := m, path, payload } r]) := by
  unfold Client.send
  refine Act.Spec.bind (Act.ofExcept_spec (c.url uri))
    (fun url => Act.spec_exchange m (c.pathOf url) payload) ?_ ?_
  · intro url r e₁ e₂ ⟨hurl, he₁⟩ ⟨he₂, hf⟩
    subst he₁
    exact ⟨hf, .inr ⟨c.pathOf url, by rw [Client.target, ← hurl]; rfl, he₂⟩⟩
  · intro f e ⟨hurl, he⟩
    refine ⟨fun f' h => ?_, .inl ⟨f, by rw [Client.target, ← hurl]; rfl, rfl, he⟩⟩
    cases h
    exact c.url_plain uri f hurl.symm

theorem Client.send_within {p : Event → Prop} {q : Failure → Prop} (c : Client) (m : Method)
    (uri payload : Value) (hp : ∀ path answer, p (.exchange { method := m, path, payload } answer))
    (hq : ∀ f, f.cls? = none → q f) : (c.send m uri payload).Within p q := by
  unfold Client.send
  exact (Act.within_plain (c.url_plain uri) hq).bind fun url =>
    Act.within_exchange (hp _) hq

/-- The failure a failed read reports is a failed-request error, unless reading the
response's message fails first. -/
theorem requestFailure_spec (message : String) (r : Response) (uri : Value) :
    (requestFailure message r uri).Spec fun res evs => evs = [] ∧
      (∀ f, res = .ok f → f.cls? = some .redfishRequest) ∧ ∀ f, res = .error f → f.cls? = none := by
  unfold requestFailure
  refine Act.Spec.bind (Act.ofExcept_spec r.message) (fun detail => Act.pure_spec _) ?_ ?_
  · intro _ _ _ _ ⟨_, he₁⟩ ⟨hr, he₂⟩
    refine ⟨by rw [he₁, he₂]; rfl, fun f h => ?_, fun f h => ?_⟩
    · rw [hr] at h
      cases h
      rfl
    · rw [hr] at h
      cases h
  · intro f e ⟨hmsg, he⟩
    exact ⟨he, fun _ h => (nomatch h), fun f' h => by cases h; exact r.message_plain f hmsg.symm⟩

/-- Failing with the failure a read reports: no events, never a success, and a failure of a
read. -/
theorem requestFailure_fail_spec (message : String) (r : Response) (uri : Value) :
    (do Act.fail (← requestFailure message r uri) : Act α).Spec fun res evs =>
      evs = [] ∧ (∀ x, res ≠ .ok x) ∧ ∀ f, res = .error f → f.OfRead :=
  Act.Spec.bind (requestFailure_spec message r uri) (fun f => Act.fail_spec f)
    (fun _ _ _ _ ⟨he₁, hok, _⟩ ⟨hr, he₂⟩ =>
      ⟨by simp [he₁, he₂], fun x h => (by rw [hr] at h; cases h),
       fun f h => (by rw [hr] at h; cases h; exact .inr (hok _ rfl))⟩)
    (fun _ _ ⟨he, _, herr⟩ =>
      ⟨he, fun x h => (nomatch h), fun f h => by cases h; exact .inl (herr _ rfl)⟩)

theorem requestFailure_fail_within {p : Event → Prop} (message : String) (r : Response) (uri : Value) :
    (do Act.fail (← requestFailure message r uri) : Act α).Within p Failure.OfRead :=
  Act.Spec.mono (requestFailure_fail_spec message r uri) fun _ _ ⟨he, _, hf⟩ =>
    ⟨by simp [he], hf⟩

/-! ## Reads -/

/-- A read sends one GET request, or none when the URI is not a text. -/
theorem Client.get_within (c : Client) (uri : Value) :
    (c.get uri).Within Event.IsRead Failure.OfRead := by
  unfold Client.get
  dsimp only
  refine (c.send_within .get uri .null (fun _ _ => rfl) fun _ => .inl).bind fun r => ?_
  split
  · simp only [Act.fail_bind]
    exact requestFailure_fail_within _ _ _
  · exact Act.within_plain r.json_plain fun _ => .inl

/-- A read that returns `v` sent one GET request for the URI's path, answered with status 200
and a body that reads as `v`. -/
theorem Client.get_spec (c : Client) (uri : Value) :
    (c.get uri).Spec fun r evs => ∀ v, r = .ok v → ∃ path response,
      c.target uri = .ok path ∧
      evs = [.exchange { method := .get, path, payload := .null } (.ok response)] ∧
      response.status = 200 ∧ response.json = .ok v := by
  unfold Client.get
  dsimp only
  simp only [Act.fail_bind]
  -- after the request nothing more is sent, and a success means status 200 and a JSON body
  refine Act.Spec.bind (c.send_spec .get uri .null) (?_ : ∀ response : Response, Act.Spec _
    fun r evs => evs = [] ∧ ∀ v, r = .ok v → response.status = (200 : Int) ∧ response.json = .ok v)
    ?_ ?_
  · intro response
    split
    · exact Act.Spec.mono (requestFailure_fail_spec _ response uri) fun r evs ⟨he, hok, _⟩ =>
        ⟨he, fun v hv => absurd hv (hok v)⟩
    · rename_i hs
      exact Act.Spec.mono (Act.ofExcept_spec response.json) fun r evs ⟨hr, he⟩ =>
        ⟨he, fun v hv => ⟨by simpa using hs, hr ▸ hv⟩⟩
  · intro response r e₁ e₂ hsend ⟨he₂, hok⟩ v hv
    obtain ⟨hs, hjson⟩ := hok v hv
    rcases hsend.2 with ⟨f, _, hf, _⟩ | ⟨path, hpath, he₁⟩
    · cases hf
    · exact ⟨path, response, hpath, by simp [he₁, he₂], hs, hjson⟩
  · intro f e _ v hv
    cases hv

theorem Client.members_within (c : Client) (uri : Value) :
    (c.members uri).Within Event.IsRead Failure.OfRead := by
  unfold Client.members
  refine (c.get_within uri).bind fun collection => ?_
  refine (Act.within_plain ((collection.getOr_plain _ _).bind fun refs => refs.members_plain)
    fun _ => .inl).bind fun refs => ?_
  refine Act.Within.foldlM (fun acc ref _ => ?_) []
  refine (Act.within_plain (ref.getOr_plain _ _) fun _ => .inl).bind fun target => ?_
  split
  · exact (c.get_within target).bind fun _ => Act.within_pure _
  · exact Act.within_pure _

theorem Client.system_within (c : Client) (systemId : Value) :
    (c.system systemId).Within Event.IsRead Failure.OfRead := by
  unfold Client.system
  dsimp only
  split
  · exact c.get_within _
  · refine (c.get_within _).bind fun collection => ?_
    refine (Act.within_plain (collection.getOr_plain _ _) fun _ => .inl).bind fun members => ?_
    simp only [Act.fail_bind]
    split
    · exact Act.within_fail (.inr rfl)
    · refine (Act.within_plain (members.item_plain 0) fun _ => .inl).bind fun first => ?_
      exact (Act.within_plain (first.field_plain _) fun _ => .inl).bind c.get_within

theorem Client.storageControllers_within (c : Client) (system : Value) :
    (c.storageControllers system).Within Event.IsRead Failure.OfRead := by
  unfold Client.storageControllers
  dsimp only
  refine (Act.within_plain (system.getOr_plain _ _) fun _ => .inl).bind fun storage => ?_
  refine (Act.within_plain (storage.getOr_plain _ _) fun _ => .inl).bind fun uri => ?_
  split
  · exact (Act.within_pure _).bind c.members_within
  · exact (Act.within_plain (system.field_plain _) fun _ => .inl).bind fun _ =>
      (Act.within_pure _).bind c.members_within

theorem Client.storageController_within (c : Client) (system controllerId : Value) :
    (c.storageController system controllerId).Within Event.IsRead Failure.OfRead := by
  unfold Client.storageController
  refine (c.storageControllers_within system).bind fun controllers => ?_
  refine Act.Within.foldlM (fun found ctl _ => ?_) _
  split
  · exact (Act.within_plain (ctl.getOr_plain _ _) fun _ => .inl).bind fun _ => by
      split <;> exact Act.within_pure _
  · exact Act.within_pure _

/-- The controller found for `controllerId` is none (`null`) or one whose `Id` equals it: the
first controller that matches is kept. -/
theorem Client.storageController_spec (c : Client) (system controllerId : Value) :
    (c.storageController system controllerId).Spec fun r _ => ∀ storage, r = .ok storage →
      storage = .null ∨ ∃ i, storage.getOr "Id" = .ok i ∧ same i controllerId = true := by
  unfold Client.storageController
  refine Act.Spec.bind (Act.Spec.mono (c.storageControllers_within system) fun _ _ _ => trivial :
      (c.storageControllers system).Spec fun _ _ => True)
    (fun controllers => Act.Spec.foldlM (fun found ctl => ?_) controllers Value.null
      (I := fun v => v = .null ∨ ∃ i, v.getOr "Id" = .ok i ∧ same i controllerId = true))
    (fun _ _ _ _ _ hfold storage h => hfold (.inl rfl) storage h) fun _ _ _ _ h => nomatch h
  split
  · -- no controller yet: this one, when its `Id` matches
    refine Act.Spec.bind (Act.ofExcept_spec (ctl.getOr "Id"))
      (S := fun i r _ => ctl.getOr "Id" = .ok i → ∀ v, r = .ok v →
        v = .null ∨ ∃ i, v.getOr "Id" = .ok i ∧ same i controllerId = true)
      (fun i => ?_) (fun i r _ _ ⟨hi, _⟩ hq _ => hq hi.symm) fun _ _ _ _ _ h => nomatch h
    split
    · rename_i hsame
      exact Act.spec_pure ctl fun hi v hv => by cases hv; exact .inr ⟨i, hi, hsame⟩
    · exact Act.spec_pure _ fun _ v hv => by cases hv; exact .inl rfl
  · exact Act.spec_pure _ fun h v hv => by cases hv; exact h

theorem Client.drives_within (c : Client) (storage : Value) :
    (c.drives storage).Within Event.IsRead Failure.OfRead := by
  unfold Client.drives
  refine (Act.within_plain ((storage.getOr_plain _ _).bind fun refs => refs.members_plain)
    fun _ => .inl).bind fun refs => ?_
  refine Act.Within.foldlM (fun acc ref _ => ?_) []
  refine (Act.within_plain (ref.contains_plain _) fun _ => .inl).bind fun present => ?_
  split
  · refine (Act.within_plain (ref.field_plain _) fun _ => .inl).bind fun uri => ?_
    exact (c.get_within uri).bind fun _ => Act.within_pure _
  · exact Act.within_pure _

theorem Client.volumes_within (c : Client) (storageUri : Value) :
    (c.volumes storageUri).Within Event.IsRead Failure.OfRead :=
  c.members_within _

theorem Client.supportedApplyTimes_eq (c : Client) (storageUri : Value) :
    c.supportedApplyTimes storageUri = (do
      let volumes ← c.get (.str s!"{storageUri.display}/Volumes")
      Act.ofExcept (advertisedApplyTimes volumes)) := rfl

theorem Client.supportedApplyTimes_within (c : Client) (storageUri : Value) :
    (c.supportedApplyTimes storageUri).Within Event.IsRead Failure.OfRead := by
  rw [Client.supportedApplyTimes_eq]
  refine (c.get_within _).bind fun volumes => Act.within_plain ?_ fun _ => .inl
  exact (volumes.getOr_plain _ _).bind fun support =>
    (support.getOr_plain _ _).bind fun values => values.members_plain

/-- The apply times found for a controller are those its volume collection advertised, in a
GET of that collection answered with status 200. -/
theorem Client.supportedApplyTimes_spec (c : Client) (storageUri : Value) :
    (c.supportedApplyTimes storageUri).Spec fun r evs => ∀ supported, r = .ok supported →
      ∃ path response volumes,
        c.target (.str s!"{storageUri.display}/Volumes") = .ok path ∧
        evs = [.exchange { method := .get, path, payload := .null } (.ok response)] ∧
        response.status = 200 ∧ response.json = .ok volumes ∧
        advertisedApplyTimes volumes = .ok supported := by
  rw [Client.supportedApplyTimes_eq]
  refine Act.Spec.bind (c.get_spec _) (fun volumes => Act.ofExcept_spec (advertisedApplyTimes volumes))
    ?_ ?_
  · intro volumes r e₁ e₂ hget ⟨hr, he₂⟩ supported hs
    obtain ⟨path, response, hpath, he₁, hstatus, hjson⟩ := hget volumes rfl
    exact ⟨path, response, volumes, hpath, by simp [he₁, he₂], hstatus, hjson, hr ▸ hs⟩
  · intro f e _ supported h
    cases h

theorem generationOf_plain (model : Value) : Plain (generationOf model) := by
  intro f h
  unfold generationOf at h
  split at h
  · simp only [pure_bind] at h
    split at h
    · split at h
      · obtain rfl := Except.error.inj h
        rfl
      · exact nomatch h
    · exact nomatch h
  · obtain rfl := Except.error.inj h
    rfl

theorem Client.serverGeneration_within (c : Client) :
    c.serverGeneration.Within Event.IsRead Failure.OfRead := by
  unfold Client.serverGeneration
  refine (c.get_within _).bind fun managers => ?_
  refine (Act.within_plain (managers.getOr_plain _ _) fun _ => .inl).bind fun members => ?_
  split
  · exact Act.within_pure _
  · refine (Act.within_plain (members.item_plain 0) fun _ => .inl).bind fun first => ?_
    refine (Act.within_plain (first.field_plain _) fun _ => .inl).bind fun uri => ?_
    refine (c.get_within uri).bind fun manager => ?_
    refine (Act.within_plain (manager.getOr_plain _ _) fun _ => .inl).bind fun model => ?_
    exact Act.within_plain (generationOf_plain _) fun _ => .inl

theorem Client.seventeenOrLater_within (c : Client) :
    c.seventeenOrLater.Within Event.IsRead Failure.OfRead := by
  unfold Client.seventeenOrLater
  refine c.serverGeneration_within.bind fun generation => ?_
  split
  · exact Act.within_pure _
  · exact Act.within_plain (Value.atMost_plain _ _) fun _ => .inl

/-- One read of the target, or nothing when the URI is not a text, which no poll loop rides
out. -/
def OneRead (target : Except Failure String) (r : Except Failure α) (evs : List Event) : Prop :=
  (evs = [] ∧ ∃ f, r = .error f ∧ f.isTransient = false) ∨
  ∃ path answer, target = .ok path ∧
    evs = [.exchange { method := .get, path, payload := .null } answer]

theorem OneRead.isRead {target : Except Failure String} {r : Except Failure α} {evs : List Event}
    (h : OneRead target r evs) : ∀ e ∈ evs, e.IsRead := by
  rcases h with ⟨he, _⟩ | ⟨path, answer, _, he⟩ <;> subst he
  · exact nofun
  · intro e m
    rw [List.mem_singleton] at m
    subst m
    rfl

/-- A read that gave a result sent its GET, whatever comes of the result afterwards. -/
theorem OneRead.of_ok {target : Except Failure String} {x : α} {evs : List Event}
    (h : OneRead target (.ok x) evs) (r : Except Failure β) : OneRead target r evs := by
  rcases h with ⟨_, _, h, _⟩ | hone
  · cases h
  · exact .inr hone

/-- A failed read is the same read whatever the type of the result it failed to give. -/
theorem OneRead.of_error {target : Except Failure String} {f : Failure} {evs : List Event}
    (h : OneRead target (.error f : Except Failure α) evs) :
    OneRead target (.error f : Except Failure β) evs := by
  rcases h with ⟨he, f', h, ht⟩ | hone
  · cases h
    exact .inl ⟨he, _, rfl, ht⟩
  · exact .inr hone

/-- A GET sent through the client is one read of the URI's path, or nothing. -/
theorem Client.send_get_oneRead (c : Client) (uri : Value) :
    (c.send .get uri).Spec fun r evs => (∀ f, r = .error f → f.cls? = none) ∧
      OneRead (c.target uri) r evs := by
  refine Act.Spec.mono (c.send_spec .get uri .null) fun r evs ⟨hf, hcases⟩ => ⟨hf, ?_⟩
  rcases hcases with ⟨f, ht, hr, he⟩ | ⟨path, ht, he⟩
  · refine .inl ⟨he, f, hr, ?_⟩
    unfold Client.target at ht
    cases hurl : c.url uri with
    | ok url => rw [hurl] at ht; cases ht
    | error f' =>
      rw [hurl] at ht
      cases ht
      rw [Client.url_error hurl]
      rfl
  · exact .inr ⟨path, r, ht, he⟩

/-- A GET sent through the client is one read, and fails as a read fails. -/
theorem Client.send_get_read (c : Client) (uri : Value) :
    (c.send .get uri).Spec fun r evs => OneRead (c.target uri) r evs ∧ ∀ f, r = .error f → f.OfRead :=
  (c.send_get_oneRead uri).mono fun _ _ ⟨hf, hone⟩ => ⟨hone, fun f h => .inl (hf f h)⟩

/-- One read, then steps that send nothing and fail as a read fails: still one read. -/
theorem Act.Spec.oneRead_bind_quiet {a : Act α} {k : α → Act β} {target : Except Failure String}
    (ha : a.Spec fun r evs => OneRead target r evs ∧ ∀ f, r = .error f → f.OfRead)
    (hk : ∀ x, (k x).Within (fun _ => False) Failure.OfRead) :
    (a >>= k).Spec fun r evs => OneRead target r evs ∧ ∀ f, r = .error f → f.OfRead :=
  Act.Spec.bind_quiet ha hk (fun _ r _ ⟨hread, _⟩ hr => ⟨hread.of_ok r, hr⟩)
    fun f _ ⟨hread, hf⟩ => ⟨hread.of_error, fun f' h => by cases h; exact hf f rfl⟩

/-- Reading a task is one GET of the task's path, and fails as a read fails. -/
theorem Client.taskStatus_spec (c : Client) (jobRef : Value) :
    (c.taskStatus jobRef).Spec fun r evs =>
      OneRead (c.target jobRef) r evs ∧ ∀ f, r = .error f → f.OfRead := by
  unfold Client.taskStatus
  dsimp only
  simp only [Act.fail_bind]
  refine Act.Spec.oneRead_bind_quiet (c.send_get_read jobRef) fun r => ?_
  split
  · exact requestFailure_fail_within _ _ _
  · refine (Act.within_plain r.json_plain fun _ => .inl).bind fun data =>
      Act.within_plain ?_ fun _ => .inl
    -- the task's own fields are read with lookups that only fail with faults
    refine (data.getOr_plain _ _).bind fun message => (data.getOr_plain _ _).bind fun messages => ?_
    split
    · refine (messages.item_plain 0).bind fun first => (first.getOr_plain _ _).bind fun m => ?_
      refine (data.getOr_plain _ _).bind fun taskState => ?_
      split
      · exact (data.getOr_plain _ _).bind fun _ => plain_ok _
      · exact (data.getOr_plain _ _).bind fun _ => (data.getOr_plain _ _).bind fun _ => plain_ok _
    · refine (data.getOr_plain _ _).bind fun taskState => ?_
      split
      · exact (data.getOr_plain _ _).bind fun _ => plain_ok _
      · exact (data.getOr_plain _ _).bind fun _ => (data.getOr_plain _ _).bind fun _ => plain_ok _

theorem Client.taskStatus_within (c : Client) (jobRef : Value) :
    (c.taskStatus jobRef).Within Event.IsRead Failure.OfRead :=
  Act.Spec.mono (c.taskStatus_spec jobRef) fun _ _ ⟨hone, hf⟩ => ⟨hone.isRead, hf⟩

theorem Client.powerState_within (c : Client) (systemUri : Value) :
    (c.powerState systemUri).Within Event.IsRead Failure.OfRead := by
  unfold Client.powerState
  exact (c.get_within systemUri).bind fun system =>
    Act.within_plain (system.getOr_plain _ _) fun _ => .inl

/-- A read is one GET of the URI's path, and fails as a read fails. -/
theorem Client.get_oneRead (c : Client) (uri : Value) :
    (c.get uri).Spec fun r evs => OneRead (c.target uri) r evs ∧ ∀ f, r = .error f → f.OfRead := by
  unfold Client.get
  dsimp only
  simp only [Act.fail_bind]
  refine Act.Spec.oneRead_bind_quiet (c.send_get_read uri) fun r => ?_
  split
  · exact requestFailure_fail_within _ _ _
  · exact Act.within_plain r.json_plain fun _ => .inl

/-- Reading the power state is one GET of the system. -/
theorem Client.powerState_spec (c : Client) (systemUri : Value) :
    (c.powerState systemUri).Spec fun r evs =>
      OneRead (c.target systemUri) r evs ∧ ∀ f, r = .error f → f.OfRead := by
  unfold Client.powerState
  exact Act.Spec.oneRead_bind_quiet (c.get_oneRead systemUri) fun system =>
    Act.within_plain (system.getOr_plain _ _) fun _ => .inl

theorem Client.exists_within (c : Client) (uri : Value) :
    (c.exists uri).Within Event.IsRead Failure.OfRead := by
  unfold Client.exists
  refine ((c.get_within uri).bind fun _ => Act.within_pure true).tryCatch fun f hf => ?_
  split
  · split
    · exact Act.within_pure false
    · exact Act.within_throw hf
  · exact Act.within_throw hf

/-! ## The reset -/

/-- A change that asks for a reset of type `resetType`. -/
def Call.AsksReset (resetType : Value) (call : Call) : Prop :=
  call.method = .post ∧ call.payload = .dict [("ResetType", resetType)]

/-- At most one change, and one that asks for a reset of type `resetType`. -/
def ResetChanges (resetType : Value) (evs : List Event) : Prop :=
  (changes evs).length ≤ 1 ∧ ∀ call ∈ changes evs, call.AsksReset resetType

theorem ResetChanges.of_changes_nil {resetType : Value} {evs : List Event} (h : changes evs = []) :
    ResetChanges resetType evs := by
  simp [ResetChanges, h]

/-- Events that change nothing, on either side, keep the changes a reset's. -/
theorem ResetChanges.append {resetType : Value} {e₁ e₂ e₃ : List Event} (h₁ : changes e₁ = [])
    (h : ResetChanges resetType e₂) (h₃ : changes e₃ = []) :
    ResetChanges resetType (e₁ ++ e₂ ++ e₃) := by
  simpa [ResetChanges, h₁, h₃] using h

/-- A reset reads the system and sends one POST; it never waits, and fails only as a read
fails. -/
theorem Client.reset_within (c : Client) (systemUri resetType : Value) :
    (c.reset systemUri resetType).Within (fun e => ¬ e.IsSleep) Failure.OfRead := by
  unfold Client.reset Client.post
  dsimp only
  refine ((c.get_within systemUri).mono (fun _ h => h.not_isSleep) fun _ h => h).bind
    fun system => ?_
  refine (Act.within_plain ?_ fun _ => .inl).bind fun target => ?_
  · exact (system.getOr_plain _ _).bind fun actions => (actions.getOr_plain _ _).bind
      fun action => action.getOr_plain _ _
  refine (c.send_within .post _ _ (fun _ _ => by simp [Event.IsSleep]) fun _ => .inl).bind fun r => ?_
  split
  · exact requestFailure_fail_within _ _ _
  · exact Act.within_pure _

/-- A reset changes at most one thing: it asks for the reset type. -/
theorem Client.reset_changes (c : Client) (systemUri resetType : Value) :
    (c.reset systemUri resetType).Spec fun _ evs => ResetChanges resetType evs := by
  unfold Client.reset Client.post
  dsimp only
  refine (c.get_within systemUri).bind_spec (fun system => ?_)
    (fun _ e₁ e₂ h₁ h₂ => by simpa using ResetChanges.append (changes_eq_nil_of_isRead h₁) h₂ changes_nil)
    (fun _ e h₁ _ => ResetChanges.of_changes_nil (changes_eq_nil_of_isRead h₁))
  refine (Act.within_ofExcept (p := fun _ => False) (q := fun _ => True) fun _ _ => trivial).bind_spec
    (fun target => ?_) (fun _ e₁ e₂ h₁ h₂ => ?_) (fun _ e h₁ _ => ?_)
  · refine Act.Spec.bind (c.send_spec .post _ _)
      (?_ : ∀ r : Response, Act.Spec _ fun (_ : Except Failure Unit) evs => evs = []) ?_ ?_
    · intro r
      split
      · exact Act.Spec.mono (requestFailure_fail_spec _ _ _) fun _ _ h => h.1
      · exact Act.Spec.mono (Act.pure_spec ()) fun _ _ h => h.2
    · intro r _ e₁ e₂ hsend he₂
      subst he₂
      rcases hsend.2 with ⟨f, _, hr, _⟩ | ⟨path, _, he₁⟩
      · cases hr
      · subst he₁
        simp [ResetChanges, changes_cons_exchange, Call.AsksReset]
    · intro f e hsend
      rcases hsend.2 with ⟨_, _, _, he⟩ | ⟨path, _, he⟩ <;> subst he
      · exact ResetChanges.of_changes_nil rfl
      · simp [ResetChanges, changes_cons_exchange, Call.AsksReset]
  · have : e₁ = [] := List.eq_nil_iff_forall_not_mem.2 fun e m => h₁ e m
    simpa [this] using h₂
  · have : e = [] := List.eq_nil_iff_forall_not_mem.2 fun e m => h₁ e m
    exact ResetChanges.of_changes_nil (by simp [this])

end VolumeLifecycle.Redfish
