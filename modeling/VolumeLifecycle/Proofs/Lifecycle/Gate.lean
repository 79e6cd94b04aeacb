import VolumeLifecycle.Proofs.Lifecycle.Verbs
/-!
# VolumeLifecycle.Proofs.Lifecycle.Gate

**A change is sent only after a controller's volume collection advertised its apply time.**
Discovery reads the volume collection of a controller and checks the apply time of the
filled-in desired state against the apply times the collection advertises (`GateRead`); the
process phase then sends the change. `Component.submission_gated` says, for every verb, that
only reads come before the change, that one of them opened the gate, which controller it read
and what the change carries (`SendsChange`):

* a create POSTs to the collection it read, with that apply time as the operation's;
* an update PATCHes the settings of the prior volume with that apply time, but the collection
  it read is the one of the controller that the desired state names, which need not be the one
  that holds the prior volume;
* a delete reads the collection that its volume's URI lies under, and its DELETE carries no
  apply time at all.
-/

namespace VolumeLifecycle.Lifecycle

open VolumeLifecycle.Redfish VolumeLifecycle.Value VolumeLifecycle.Volume

/-! ## The gate -/

/-- A read that opens the gate for `applyTime`: a GET of the volume collection of the
controller at `storageUri`, answered with status 200, whose advertised apply times hold one
equal to `applyTime`. -/
def GateRead (client : Client) (storageUri applyTime : Value) (e : Event) : Prop :=
  ∃ path response volumes supported,
    client.target (.str s!"{storageUri.display}/Volumes") = .ok path ∧
    e = .exchange { method := .get, path, payload := .null } (.ok response) ∧
    response.status = 200 ∧ response.json = .ok volumes ∧
    advertisedApplyTimes volumes = .ok supported ∧ supported.any (same applyTime) = true

/-- The gate is open for `applyTime` in the progress `p` after the events `evs`: the
controller at `storageUri` is the one discovered, and one of the events read its collection
for that apply time. -/
def GateOpen (client : Client) (storageUri applyTime : Value) (p : Progress)
    (evs : List Event) : Prop :=
  lookup p.discovered "storage_uri" = some storageUri ∧
    ∃ e ∈ evs, GateRead client storageUri applyTime e

/-- What the gate reads of a progress: the desired state and the discovered controller. -/
def Progress.gateView (p : Progress) : Value × Option Value :=
  (p.desired, lookup p.discovered "storage_uri")

section GateOpen

variable {client : Client} {storageUri applyTime : Value} {p p' : Progress} {evs : List Event}

theorem GateOpen.prepend (h : GateOpen client storageUri applyTime p evs) (e₁ : List Event) :
    GateOpen client storageUri applyTime p (e₁ ++ evs) := by
  obtain ⟨hs, e, he, hread⟩ := h
  exact ⟨hs, e, List.mem_append_right e₁ he, hread⟩

theorem GateOpen.append (h : GateOpen client storageUri applyTime p evs) (e₂ : List Event) :
    GateOpen client storageUri applyTime p (evs ++ e₂) := by
  obtain ⟨hs, e, he, hread⟩ := h
  exact ⟨hs, e, List.mem_append_left e₂ he, hread⟩

/-- The gate stays open while the discovered controller stays. -/
theorem GateOpen.of_gateView (h : GateOpen client storageUri applyTime p evs)
    (hv : p'.gateView = p.gateView) : GateOpen client storageUri applyTime p' evs :=
  ⟨(congrArg Prod.snd hv).trans h.1, h.2⟩

end GateOpen

/-- An apply time passes the check only when the controller advertises it. -/
theorem checkApplyTime_ok {supported : List Value} {requested controller : Value}
    (h : checkApplyTime (.list supported) requested controller = .ok ()) :
    supported.any (same requested) = true := by
  unfold checkApplyTime at h
  obtain ⟨advertised, hadv, h⟩ := exists_of_bind_eq_ok h
  cases hadv
  split at h
  · assumption
  · obtain ⟨_, -, h⟩ := exists_of_bind_eq_ok h
    cases h

/-- The controller that `desired` names by `storage_controller_id`, found by its `Id`, is at
`storageUri`. -/
def NamedController (desired storageUri : Value) : Prop :=
  ∃ controllerId storage i : Value, desired.getOr "storage_controller_id" = .ok controllerId ∧
    storage.getOr "Id" = .ok i ∧ same i controllerId = true ∧
    storage.field "@odata.id" = .ok storageUri

/-- The volume at `desired`'s `id` lies under the controller at `storageUri`. -/
def HostController (desired storageUri : Value) : Prop :=
  ∃ volumeUri, desired.getOr "id" = .ok volumeUri ∧ parentUri volumeUri "/Volumes/" = .ok storageUri

/-! ## Discovery opens the gate -/

/-- What comes first does not matter to a spec about the result, the end station and the
later events, when that spec survives earlier events and holds of every failure. -/
theorem Op.Spec.bind_after {α β : Type} {o : Op α} {f : α → Op β}
    {Q : Station → Except Failure α → Station → List Event → Prop}
    {R : Except Failure β → Station → List Event → Prop} (ho : o.Spec Q)
    (hf : ∀ x, (f x).Spec fun _ r st' evs => R r st' evs)
    (hpre : ∀ r st' e₁ e₂, R r st' e₂ → R r st' (e₁ ++ e₂)) (herr : ∀ f st' e, R (.error f) st' e) :
    (o >>= f).Spec fun _ r st' evs => R r st' evs :=
  Op.Spec.bind ho hf (fun _ _ _ _ _ e₁ e₂ _ h => hpre _ _ e₁ e₂ h) fun _ _ _ _ _ => herr _ _ _

section Discover

variable (c : Component)

/-- After the apply times of the controller at `storageUri` were read: they are noted, and the
desired apply time must be one of them. -/
theorem applyTimeCheck_spec (controllerId storage : Value)
    (supported : List Value) :
    (do
      Op.discover "supported_apply_times" (.list supported)
      let desired := (← Op.progress).desired
      liftFailure (checkApplyTime (.list supported)
        (← liftFailure (desired.field "settings_apply_time")) controllerId)
      pure storage : Op Value).Spec fun st r st' evs =>
      evs = [] ∧ st'.progress.gateView = st.progress.gateView ∧ ∀ v, r = .ok v → v = storage ∧
        ∃ applyTime, st.progress.desired.field "settings_apply_time" = .ok applyTime ∧
          supported.any (same applyTime) = true := by
  refine Op.Spec.note_bind (Op.Spec.progress_bind fun pr => ?_)
  refine Op.Spec.lift_bind (fun applyTime happly => ?_)
    fun st f _ _ st₀ h₀ => ⟨rfl, ?_, nofun⟩
  · refine Op.Spec.lift_bind (fun _ hcheck => ?_) fun st f _ _ st₀ h₀ => ⟨rfl, ?_, nofun⟩
    · refine Op.spec_pure storage fun st hpr st₀ h₀ => ⟨rfl, ?_, fun v hv => ⟨?_, applyTime, ?_, ?_⟩⟩
      · subst h₀
        simp [Progress.gateView]
      · cases hv
        rfl
      · subst h₀ hpr
        exact happly
      · exact checkApplyTime_ok hcheck
    · subst h₀
      simp [Progress.gateView]
  · subst h₀
    simp [Progress.gateView]

/-- The gate a controller's discovery opens: the controller found has the `Id` asked for, it
is the one discovered, and its volume collection was read for the desired apply time. -/
def ControllerGate (client : Client) (controllerId : Value) (r : Except Failure Value)
    (st' : Station) (evs : List Event) : Prop :=
  ∀ storage, r = .ok storage → ∃ storageUri i applyTime, storage.getOr "Id" = .ok i ∧
    same i controllerId = true ∧ storage.field "@odata.id" = .ok storageUri ∧
    st'.progress.desired.field "settings_apply_time" = .ok applyTime ∧
    GateOpen client storageUri applyTime st'.progress evs

theorem ControllerGate.prepend {client : Client} {controllerId : Value} {r : Except Failure Value}
    {st' : Station} {evs : List Event} (h : ControllerGate client controllerId r st' evs)
    (e₁ : List Event) : ControllerGate client controllerId r st' (e₁ ++ evs) := by
  intro storage hr
  obtain ⟨storageUri, i, applyTime, hi, hsame, huri, happly, hgate⟩ := h storage hr
  exact ⟨storageUri, i, applyTime, hi, hsame, huri, happly, hgate.prepend e₁⟩

/-- **Discovering a controller opens the gate**: it reads the controller's volume collection
and finds the desired apply time among those it advertises. -/
theorem Component.discoverController_gate (systemId controllerId : Value) :
    (c.discoverController systemId controllerId).Spec fun _ r st' evs =>
      ControllerGate c.client controllerId r st' evs := by
  have herr : ∀ f st' e, ControllerGate c.client controllerId (.error f) st' e :=
    fun _ _ _ _ h => nomatch h
  unfold Component.discoverController
  split
  · exact Op.spec_throw _ fun _ => herr _ _ _
  -- the system and its notes come first; the gate is opened by what follows
  refine Op.Spec.bind_after (c.system_within systemId) (fun system => ?_)
    (fun _ _ e₁ _ h => h.prepend e₁) herr
  refine Op.Spec.lift_bind (fun _ _ => ?_) fun _ _ _ => herr _ _ _
  refine Op.Spec.note_bind (Op.Spec.mono ?_ fun _ _ _ _ h _ _ => h)
  refine Op.Spec.lift_bind (fun _ _ => ?_) fun _ _ _ => herr _ _ _
  refine Op.Spec.note_bind (Op.Spec.mono ?_ fun _ _ _ _ h _ _ => h)
  refine Op.Spec.bind (Op.act_spec (c.client.storageController_spec system controllerId))
    (fun storage => ?_)
    (S := fun storage _ r st' evs =>
      (storage = .null ∨ ∃ i, storage.getOr "Id" = .ok i ∧ same i controllerId = true) →
        ControllerGate c.client controllerId r st' evs)
    (fun storage _ _ _ _ e₁ _ ⟨hfound, _⟩ h => (h (hfound storage rfl)).prepend e₁)
    fun _ _ _ _ _ => herr _ _ _
  split
  · exact Op.spec_throw _ fun _ _ => herr _ _ _
  rename_i hnull
  refine Op.Spec.lift_bind (fun storageUri huri => ?_) fun _ _ _ _ => herr _ _ _
  refine Op.Spec.note_bind ?_
  refine Op.Spec.bind (Op.act_spec (c.client.supportedApplyTimes_spec storageUri))
    (fun supported => applyTimeCheck_spec controllerId storage supported) ?_
    fun _ _ _ _ _ _ _ _ => herr _ _ _
  -- the GET of the collection is the gate read, and the check found the apply time in it
  rintro supported st st₁ r st₂ e₁ e₂ ⟨hread, -, hp₁⟩ ⟨rfl, hview, hr⟩ st₀ rfl hfound v hv
  obtain ⟨rfl, applyTime, happly, hany⟩ := hr v hv
  obtain ⟨path, response, volumes, htarget, rfl, hstatus, hjson, hadv⟩ := hread supported rfl
  obtain ⟨i, hi, hsame⟩ := hfound.resolve_left fun h => hnull (by rw [h])
  have hdesired : st₂.progress.desired = st₁.progress.desired := congrArg Prod.fst hview
  have hlook : lookup st₂.progress.discovered "storage_uri" = some storageUri := by
    rw [show lookup st₂.progress.discovered "storage_uri" = lookup st₁.progress.discovered "storage_uri"
      from congrArg Prod.snd hview, hp₁]
    simp
  refine ⟨storageUri, i, applyTime, hi, hsame, huri, hdesired ▸ happly, hlook, _,
    List.mem_append_left _ List.mem_cons_self,
    path, response, volumes, supported, htarget, rfl, hstatus, hjson, hadv, hany⟩

/-- Discovery opened the gate: the controller that `keeper` finds from the desired state `D`
is the one discovered, and its collection was read for the apply time of `D'`, the desired
state as the check saw it. -/
def Opened (client : Client) (keeper : Value → Value → Prop) (D D' : Value)
    (r : Except Failure Unit) (st' : Station) (evs : List Event) : Prop :=
  r = .ok () → ∃ storageUri applyTime, keeper D storageUri ∧
    D'.field "settings_apply_time" = .ok applyTime ∧
    GateOpen client storageUri applyTime st'.progress evs

theorem Opened.prepend {client : Client} {keeper : Value → Value → Prop} {D D' : Value}
    {r : Except Failure Unit} {st' : Station} {evs : List Event}
    (h : Opened client keeper D D' r st' evs) (e₁ : List Event) :
    Opened client keeper D D' r st' (e₁ ++ evs) := fun hr => by
  obtain ⟨storageUri, applyTime, hkeeper, happly, hgate⟩ := h hr
  exact ⟨storageUri, applyTime, hkeeper, happly, hgate.prepend e₁⟩

/-- **A create opens the gate at the controller its desired state names.** -/
theorem Component.discoverCreate_gate :
    c.discoverCreate.Spec fun st r st' evs =>
      Opened c.client NamedController st.progress.desired st'.progress.desired r st' evs := by
  unfold Component.discoverCreate
  refine Op.Spec.progress_bind fun pr => ?_
  refine Op.Spec.mono (Q := fun _ r st' evs =>
    Opened c.client NamedController pr.desired st'.progress.desired r st' evs) ?_
    fun st r st' evs h hpr => hpr ▸ h
  have herr : ∀ f st' e,
      Opened c.client NamedController pr.desired st'.progress.desired (.error f) st' e :=
    fun _ _ _ h => nomatch h
  refine Op.Spec.lift_bind (fun drives _ => ?_) fun _ _ _ => herr _ _ _
  refine Op.Spec.lift_bind (fun names _ => ?_) fun _ _ _ => herr _ _ _
  split
  · exact Op.spec_throw _ fun _ => herr _ _ _
  refine Op.Spec.lift_bind (fun name _ => ?_) fun _ _ _ => herr _ _ _
  split
  · exact Op.spec_throw _ fun _ => herr _ _ _
  refine Op.Spec.bind_after (Op.act_spec c.client.seventeenOrLater_within) (fun inLinks => ?_)
    (fun _ _ e₁ _ h => h.prepend e₁) herr
  refine Op.Spec.note_bind (Op.Spec.mono ?_ fun _ _ _ _ h _ _ => h)
  refine Op.Spec.lift_bind (fun systemId _ => ?_) fun _ _ _ => herr _ _ _
  refine Op.Spec.lift_bind (fun controllerId hcid => ?_) fun _ _ _ => herr _ _ _
  -- the controller's discovery opens the gate; matching the drives keeps it open
  refine Op.Spec.bind (c.discoverController_gate systemId controllerId) (fun storage => ?_)
    (S := fun _ st _ st' _ => st'.progress.gateView = st.progress.gateView) ?_
    fun _ _ _ _ _ => herr _ _ _
  · exact (Op.keeps_act (c.client.drives_within storage)).bind fun _ =>
      (Op.keeps_liftFailure _).bind fun _ => (Op.keeps_liftFailure _).bind fun _ =>
        Op.keeps_note fun _ => by simp [Progress.gateView]
  · intro storage st st₁ r st₂ e₁ e₂ hgate hview _
    obtain ⟨storageUri, i, applyTime, hi, hsame, huri, happly, hopen⟩ := hgate storage rfl
    refine ⟨storageUri, applyTime, ⟨controllerId, storage, i, hcid, hi, hsame, huri⟩, ?_,
      (hopen.of_gateView hview).append e₂⟩
    rw [show st₂.progress.desired = st₁.progress.desired from congrArg Prod.fst hview]
    exact happly

/-- **A delete opens the gate at the controller its volume lies under.** -/
theorem Component.discoverDelete_gate :
    c.discoverDelete.Spec fun st r st' evs =>
      Opened c.client HostController st.progress.desired st.progress.desired r st' evs := by
  unfold Component.discoverDelete
  refine Op.Spec.progress_bind fun pr => ?_
  refine Op.Spec.mono (Q := fun _ r st' evs =>
    Opened c.client HostController pr.desired pr.desired r st' evs) ?_
    fun st r st' evs h hpr => hpr ▸ h
  have herr : ∀ f st' e, Opened c.client HostController pr.desired pr.desired (.error f) st' e :=
    fun _ _ _ h => nomatch h
  refine Op.Spec.lift_bind (fun volumeUri hid => ?_) fun _ _ _ => herr _ _ _
  split
  · exact Op.spec_throw _ fun _ => herr _ _ _
  refine Op.Spec.lift_bind (fun storageUri hparent => ?_) fun _ _ _ => herr _ _ _
  refine Op.Spec.lift_bind (fun systemUri _ => ?_) fun _ _ _ => herr _ _ _
  refine Op.Spec.lift_bind (fun systemId _ => ?_) fun _ _ _ => herr _ _ _
  dsimp only
  -- the system comes first, from the state's system id when it has one
  split
  case' isTrue =>
    refine Op.Spec.lift_bind (fun systemId _ => ?_) fun _ _ _ => herr _ _ _
    refine Op.Spec.bind_after (c.system_within _) (fun system => ?_)
      (fun _ _ e₁ _ h => h.prepend e₁) herr
    refine Op.Spec.lift_bind (fun systemUri _ => ?_) fun _ _ _ => herr _ _ _
  case' isFalse =>
    refine Op.Spec.bind_after (Op.spec_pure systemUri (Q := fun _ _ _ _ => True) fun _ => trivial)
      (fun systemUri => ?_) (fun _ _ e₁ _ h => h.prepend e₁) herr
  all_goals
  refine Op.Spec.note_bind (Op.Spec.mono ?_ fun _ _ _ _ h _ _ => h)
  refine Op.Spec.note_bind ?_
  refine Op.Spec.bind (Op.act_spec (c.client.supportedApplyTimes_spec storageUri))
    (fun supported => ?_)
    (S := fun supported st r st' evs => st' = st ∧ evs = [] ∧ ∀ u, r = .ok u →
      ∃ applyTime, pr.desired.field "settings_apply_time" = .ok applyTime ∧
        supported.any (same applyTime) = true) ?_ fun _ _ _ _ _ _ _ => herr _ _ _
  · refine Op.Spec.lift_bind (fun applyTime happly => ?_) fun _ _ _ => ⟨rfl, rfl, nofun⟩
    refine Op.spec_liftFailure _ fun _ => ⟨rfl, rfl, fun u hcheck => ?_⟩
    cases u
    exact ⟨applyTime, happly, checkApplyTime_ok hcheck⟩
  -- the GET of the collection is the gate read
  rintro supported st st₁ r st₂ e₁ e₂ ⟨hread, -, hp₁⟩ ⟨rfl, rfl, hr⟩ st₀ rfl hok
  obtain ⟨applyTime, happly, hany⟩ := hr () hok
  obtain ⟨path, response, volumes, htarget, rfl, hstatus, hjson, hadv⟩ := hread supported rfl
  refine ⟨storageUri, applyTime, ⟨volumeUri, hid, hparent⟩, happly, ?_, _,
    List.mem_append_left _ List.mem_cons_self,
    path, response, volumes, supported, htarget, rfl, hstatus, hjson, hadv, hany⟩
  rw [hp₁]
  simp

/-- The controller whose volume collection gates a change: the one that the desired state
names, or, for a delete, the one that its volume lies under. -/
def Gatekeeper (operation : Value) : Value → Value → Prop :=
  match operation with
  | .str "delete" => HostController
  | _ => NamedController

/-- The operations that change a volume. -/
def IsChange (operation : Value) : Prop :=
  operation = .str "create" ∨ operation = .str "update" ∨ operation = .str "delete"

/-- The gate that discovery opened for the request of `p`, ending in `p'` after `evs`: the
gatekeeper's collection was read for the desired apply time, and its controller is the one
discovered. -/
def DiscoverGate (client : Client) (p p' : Progress) (evs : List Event) : Prop :=
  ∃ storageUri applyTime, Gatekeeper p.operation p.desired storageUri ∧
    p.desired.field "settings_apply_time" = .ok applyTime ∧
    GateOpen client storageUri applyTime p' evs

/-- **Discovery of a change opens the gate of its gatekeeper for the desired apply time.** -/
theorem Component.discoverPhase_gate :
    c.discoverPhase.Spec fun st r st' evs => IsChange st.progress.operation → r = .ok () →
      DiscoverGate c.client st.progress st'.progress evs := by
  unfold Component.discoverPhase
  refine Op.Spec.progress_bind fun pr => ?_
  split
  · rename_i hop
    refine (c.discoverCreate_within.and c.discoverCreate_gate).mono ?_
    rintro st r st' evs ⟨⟨hreq, -⟩, hopen⟩ rfl - hr
    obtain ⟨storageUri, applyTime, hkeeper, happly, hgate⟩ := hopen hr
    refine ⟨storageUri, applyTime, by rw [hop]; exact hkeeper, ?_, hgate⟩
    rwa [Progress.desired_eq_of_request hreq] at happly
  · rename_i hop
    -- an update needs the prior volume's id, then discovers the controller the state names
    refine Op.Spec.lift_bind (fun id _ => ?_) fun _ _ _ _ _ h => nomatch h
    dsimp only
    split
    · simp only [Op.throw_bind]
      exact Op.spec_throw _ fun _ _ _ h => nomatch h
    refine Op.Spec.lift_bind (fun systemId _ => ?_) fun _ _ _ _ _ h => nomatch h
    refine Op.Spec.lift_bind (fun controllerId hcid => ?_) fun _ _ _ _ _ h => nomatch h
    refine Op.Spec.bind ((c.discoverController_within _ _).and (c.discoverController_gate _ _))
      (fun _ => Op.spec_pure () (Q := fun st _ st' evs => st' = st ∧ evs = []) fun _ => ⟨rfl, rfl⟩)
      ?_ fun _ _ _ _ _ _ _ h => nomatch h
    rintro storage st st₁ r st₂ e₁ e₂ ⟨⟨hreq, -⟩, hgate⟩ ⟨rfl, rfl⟩ rfl - hr
    obtain ⟨storageUri, i, applyTime, hi, hsame, huri, happly, hopen⟩ := hgate storage rfl
    refine ⟨storageUri, applyTime, ?_, ?_, by rw [List.append_nil]; exact hopen⟩
    · rw [hop]
      exact ⟨controllerId, storage, i, hcid, hi, hsame, huri⟩
    · rwa [Progress.desired_eq_of_request hreq] at happly
  · rename_i hop
    refine (c.discoverDelete_within.and c.discoverDelete_gate).mono ?_
    rintro st r st' evs ⟨-, hopen⟩ rfl - hr
    obtain ⟨storageUri, applyTime, hkeeper, happly, hgate⟩ := hopen hr
    exact ⟨storageUri, applyTime, by rw [hop]; exact hkeeper, happly, hgate⟩
  · rename_i hcreate hupdate hdelete
    refine Op.spec_pure () fun st hpr hchange _ => ?_
    rw [hpr] at hchange
    rcases hchange with h | h | h
    · exact absurd h hcreate
    · exact absurd h hupdate
    · exact absurd h hdelete

end Discover

theorem DiscoverGate.of_request {client : Client} {p q p' : Progress} {evs : List Event}
    (h : DiscoverGate client p p' evs) (hreq : p.request = q.request) :
    DiscoverGate client q p' evs := by
  rw [DiscoverGate, ← Progress.operation_eq_of_request hreq, ← Progress.desired_eq_of_request hreq]
  exact h

/-! ## The submission after the gate -/

/-- What each phase does, with the gate that discovery opens. -/
def GatedTrace (c : Component) (ph : Phase) (p : Progress) (r : Except Failure Unit) (p' : Progress)
    (evs : List Event) : Prop :=
  PhaseTrace c ph p r p' evs ∧
    (ph = .discover → IsChange p.operation → r = .ok () → DiscoverGate c.client p p' evs)

theorem Component.phase_gated_spec (c : Component) (ph : Phase) :
    (c.phase ph).Spec fun st r st' evs => GatedTrace c ph st.progress r st'.progress evs := by
  cases ph with
  | discover =>
    exact ((c.phase_spec .discover).and c.discoverPhase_gate).mono
      fun _ _ _ _ ⟨htrace, hgate⟩ => ⟨htrace, fun _ => hgate⟩
  | process => exact (c.phase_spec .process).mono fun _ _ _ _ htrace => ⟨htrace, nofun⟩
  | housekeep => exact (c.phase_spec .housekeep).mono fun _ _ _ _ htrace => ⟨htrace, nofun⟩

/-- **Over the three phases of a change, the first change sent is the process phase's**, for
phases that `Q` describes at least as `PhaseTrace` does: discovery succeeded with only reads,
and the process phase, run from the progress that discovery left, sent the change first. -/
theorem PhaseRun.first_change_of {c : Component}
    {Q : Phase → Progress → Except Failure Unit → Progress → List Event → Prop}
    (hQ : ∀ ph p₀ r₀ p₁ e₀, Q ph p₀ r₀ p₁ e₀ → PhaseTrace c ph p₀ r₀ p₁ e₀) {w w' : Progress}
    {r : Except Failure Unit} {evs : List Event} (h : PhaseRun Q Phase.all w r w' evs)
    (hchange : changes evs ≠ []) :
    ∃ p₀ p₁ p₂ r₂ p₃ e₂ reads call answer rest, evs = reads ++ .exchange call answer :: rest ∧
      p₀.work = w.work ∧ Q .discover p₀ (.ok ()) p₁ reads ∧ p₂.work = p₁.work ∧
      Q .process p₂ r₂ p₃ e₂ ∧ Submits c.client p₂ call := by
  obtain ⟨p₀, r₀, p₁, e₀, hw, hdisc, ⟨f₀, rfl, -, rfl, -⟩ | ⟨rfl, e₁, rfl, hrest⟩⟩ := h
  · -- a failed discovery only read
    exact absurd (changes_eq_nil_of_isRead (hQ _ _ _ _ _ hdisc).2) hchange
  obtain ⟨p₂, r₂, p₃, e₂, hwork, hproc, hend⟩ := hrest
  -- the process phase ends the run or hands on to housekeeping; either way it sent first
  obtain ⟨tail, rfl⟩ : ∃ tail, e₁ = e₂ ++ tail := by
    rcases hend with ⟨_, _, _, rfl, _⟩ | ⟨_, e₃, rfl, _⟩
    · exact ⟨[], (List.append_nil _).symm⟩
    · exact ⟨e₃, rfl⟩
  rcases (hQ _ _ _ _ _ hproc).2 with ⟨rfl, f, hr₂, -⟩ | ⟨call, answer, rest, rfl, hcall, -⟩
  · -- nothing was submitted: the process phase failed and the run stopped there
    rcases hend with ⟨_, _, _, he, _⟩ | ⟨hok, _⟩
    · rw [List.nil_append] at he
      subst he
      exact absurd (by simpa using changes_eq_nil_of_isRead (hQ _ _ _ _ _ hdisc).2) hchange
    · cases hok.symm.trans hr₂
  · exact ⟨p₀, p₁, p₂, r₂, p₃, _, e₀, call, answer, rest ++ tail, by simp, hw, hdisc, hwork, hproc,
      hcall⟩

/-- **Over the three phases of a change, the first change sent is the submission**: only
reads come before it, among them the read that opened discovery's gate, and the process phase
sent it from the progress that discovery left. -/
theorem PhaseRun.first_change {c : Component} {w w' : Progress} {r : Except Failure Unit}
    {evs : List Event} (hop : IsChange w.operation)
    (h : PhaseRun (fun ph p₀ r₀ p₁ e₀ => GatedTrace c ph p₀ r₀ p₁ e₀ ∧ p₀.request = w.request)
      Phase.all w r w' evs)
    (hchange : changes evs ≠ []) :
    ∃ p₁ p₂ reads call answer rest, evs = reads ++ .exchange call answer :: rest ∧
      (∀ e ∈ reads, e.IsRead) ∧ DiscoverGate c.client w p₁ reads ∧ p₂.work = p₁.work ∧
      p₂.request = w.request ∧ Submits c.client p₂ call := by
  obtain ⟨p₀, p₁, p₂, r₂, p₃, e₂, reads, call, answer, rest, rfl, -, ⟨⟨hdisc, hgate⟩, hreq₀⟩,
    hwork, ⟨-, hreq₂⟩, hcall⟩ := h.first_change_of (fun _ _ _ _ _ h => h.1.1) hchange
  have hopen : DiscoverGate c.client w p₁ reads :=
    (hgate rfl (Progress.operation_eq_of_request hreq₀ ▸ hop) rfl).of_request hreq₀
  exact ⟨p₁, p₂, reads, call, answer, rest, rfl, hdisc.2, hopen, hwork, hreq₂, hcall⟩

/-- The change sent for the operation `operation` on the filled-in desired state `D` and prior
state `P`, after the gate of the controller at `storageUri` opened for `applyTime`: a create
POSTs to that controller's volume collection and carries the apply time as the operation's; an
update PATCHes the settings of the prior volume and carries it as the settings'; a delete
DELETEs the desired volume and carries nothing. -/
def SendsChange (client : Client) (operation D P storageUri applyTime : Value) (call : Call) : Prop :=
  match operation with
  | .str "create" => ∃ path, client.target (.str s!"{storageUri.display}/Volumes") = .ok path ∧
      call.method = .post ∧ call.path = path ∧
      call.payload.field "@Redfish.OperationApplyTime" = .ok applyTime
  | .str "update" => ∃ volumeUri path, P.field "id" = .ok volumeUri ∧
      client.target (.str s!"{volumeUri.display}/Settings") = .ok path ∧
      call.method = .patch ∧ call.path = path ∧
      call.payload.field "@Redfish.SettingsApplyTime" = .ok (.dict [("ApplyTime", applyTime)])
  | _ => ∃ volumeUri path, D.field "id" = .ok volumeUri ∧ client.target volumeUri = .ok path ∧
      call = { method := .delete, path, payload := .null }

/-- The change the process phase submits goes where the gate was opened and carries the apply
time it was opened for: the requests fill in a desired state that is filled in already, which
changes none of the fields they send. -/
theorem Submits.sendsChange {client : Client} {p p₁ : Progress} {call : Call}
    {d storageUri applyTime : Value} {evs : List Event} (hs : Submits client p call)
    (hfilled : withDefaults d = .ok p.desired) (hdisc : p.discovered = p₁.discovered)
    (hgate : GateOpen client storageUri applyTime p₁ evs)
    (happly : p.desired.field "settings_apply_time" = .ok applyTime) :
    SendsChange client p.operation p.desired p.prior storageUri applyTime call := by
  unfold Submits at hs
  split at hs
  · rename_i hop
    obtain ⟨drives, r, storageUri', inLinks, path, -, hr, hs', -, htarget, rfl⟩ := hs
    -- the change goes to the collection the gate read
    have hsame : storageUri' = storageUri := by
      rw [hdisc, hgate.1] at hs'
      exact (Option.some.inj hs').symm
    obtain ⟨D', hD', happly'⟩ := CreateRequest.ofState_applyTime hr
    rw [withDefaults_applyTime hfilled hD', happly] at happly'
    rw [hop]
    unfold SendsChange
    refine ⟨path, hsame ▸ htarget, rfl, rfl, ?_⟩
    rw [CreateRequest.payload_applyTime]
    exact happly'.symm
  · rename_i hop
    obtain ⟨volumeUri, r, path, hid, hr, htarget, rfl⟩ := hs
    obtain ⟨huri, D', hD', happly'⟩ := UpdateRequest.ofState_applyTime hr
    rw [withDefaults_applyTime hfilled hD', happly] at happly'
    rw [hop]
    unfold SendsChange
    refine ⟨volumeUri, path, hid, huri ▸ htarget, rfl, rfl, ?_⟩
    rw [UpdateRequest.payload_applyTime, ← Except.ok.inj happly']
  · rename_i hcreate hupdate
    obtain ⟨r, path, hr, htarget, rfl⟩ := hs
    obtain ⟨D', hD', hid, -⟩ := DeleteRequest.ofState_applyTime hr
    rw [withDefaults_field_of_filled hfilled hD' (by decide)] at hid
    unfold SendsChange
    split
    · exact absurd ‹_› hcreate
    · exact absurd ‹_› hupdate
    · exact ⟨r.volumeUri, path, hid, htarget, rfl⟩

/-- **A change is sent only through the gate of its controller**, for every verb. Before the
first change only reads were sent; one of them read the volume collection of the gatekeeper
and found the apply time of the filled-in desired state advertised there; and the change goes
and carries what `SendsChange` says. A read sends no change at all. -/
theorem Component.submission_gated (c : Component) (v : Verb) :
    (c.perform v).Spec fun _ _ _ evs => changes evs ≠ [] →
      ∃ D P storageUri applyTime reads call answer rest,
        withDefaults v.desired = .ok D ∧
        withDefaults (if v.prior.truthy then v.prior else .dict []) = .ok P ∧
        evs = reads ++ .exchange call answer :: rest ∧ (∀ e ∈ reads, e.IsRead) ∧
        Gatekeeper (.str v.operation) D storageUri ∧
        D.field "settings_apply_time" = .ok applyTime ∧
        (∃ e ∈ reads, GateRead c.client storageUri applyTime e) ∧
        SendsChange c.client (.str v.operation) D P storageUri applyTime call := by
  refine (c.perform_spec c.phase_gated_spec v).mono fun _ _ _ evs h hchange => ?_
  rcases h with ⟨rfl, _⟩ | ⟨D, P, r', hD, hP, hrun, -⟩
  · exact absurd rfl hchange
  have hrun := hrun.with_request fun _ _ _ _ _ h => h.1.request_eq
  by_cases hread : ∃ state, v = .read state
  · -- a read only housekeeps, and housekeeping a read only reads
    obtain ⟨state, rfl⟩ := hread
    obtain ⟨p₀, r₀, p₁, e₀, -, ⟨⟨htrace, -⟩, hreq⟩, ⟨f₀, -, -, rfl, -⟩ | ⟨-, e₁, rfl, -, rfl, -⟩⟩ :=
      hrun
    all_goals
    refine absurd ?_ hchange
    simpa using changes_eq_nil_of_isRead (htrace.2.1 (Progress.operation_eq_of_request hreq))
  have hphases : v.phases = Phase.all := by
    cases v with
    | read state => exact absurd ⟨state, rfl⟩ hread
    | _ => rfl
  have hop : IsChange (.str v.operation) := by
    cases v with
    | read state => exact absurd ⟨state, rfl⟩ hread
    | create _ => exact .inl rfl
    | update _ _ => exact .inr (.inl rfl)
    | delete _ => exact .inr (.inr rfl)
  rw [hphases] at hrun
  obtain ⟨p₁, p₂, reads, call, answer, rest, rfl, hreads, hgate, hwork, hreq, hsub⟩ :=
    hrun.first_change hop hchange
  obtain ⟨storageUri, applyTime, hkeeper, happly, hopen⟩ := hgate
  have hdesired : p₂.desired = D := Progress.desired_eq_of_request hreq
  have hdisc : p₂.discovered = p₁.discovered := Progress.discovered_eq_of_work hwork
  have hsend := hsub.sendsChange (by rw [hdesired]; exact hD) hdisc hopen
    (by rw [hdesired]; exact happly)
  rw [Progress.operation_eq_of_request hreq, hdesired, Progress.prior_eq_of_request hreq] at hsend
  exact ⟨D, P, storageUri, applyTime, reads, call, answer, rest, hD, hP, rfl, hreads, hkeeper,
    happly, hopen.2, hsend⟩

/-- The bench's create sends its change, and sends it through the gate: the volume collection
of the controller `C` was read and advertised the apply time. -/
theorem Component.submission_gated_bench_create : ∃ st',
    (Bench.component.perform (.create Bench.request)).runOn Bench.station = (.ok (), st') ∧
    changes (Bench.station.site.since st'.site) ≠ [] ∧
    ∃ D P storageUri applyTime reads call answer rest,
      withDefaults Bench.request = .ok D ∧ withDefaults (.dict []) = .ok P ∧
      Bench.station.site.since st'.site = reads ++ .exchange call answer :: rest ∧
      (∀ e ∈ reads, e.IsRead) ∧ Gatekeeper (.str "create") D storageUri ∧
      D.field "settings_apply_time" = .ok applyTime ∧
      (∃ e ∈ reads, GateRead Bench.component.client storageUri applyTime e) ∧
      SendsChange Bench.component.client (.str "create") D P storageUri applyTime call := by
  obtain ⟨st', hrun, hchanges⟩ := Bench.perform_create_run
  exact ⟨st', hrun, hchanges,
    (Bench.component.submission_gated (.create Bench.request)).at_run hrun hchanges⟩

end VolumeLifecycle.Lifecycle
