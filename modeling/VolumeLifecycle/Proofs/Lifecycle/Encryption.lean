import VolumeLifecycle.Proofs.Lifecycle.Shape
import VolumeLifecycle.Proofs.Volume.Filling
/-!
# VolumeLifecycle.Proofs.Lifecycle.Encryption

**An update never turns encryption off.** An update checks, before anything else, the
encryption of its filled-in desired and prior states, and refuses to turn it off
(`TurnsEncryptionOff`) with a precondition error of the discovery stage. The refusal leaves the
station as it was: no lock is taken and no request is sent (`Component.updateVolume_refused`).

Past the check, the one PATCH an update sends is its submission (`ChangeShape.patch_submits`): the
settings of the update request of the filled-in desired state, whose encryption flag is that
state's (`UpdateRequest.ofState_encrypted`). A PATCH that asks for no encryption so comes from a
desired state without it, which the check lets through only when the prior state is without it
too (`Component.update_keeps_encryption`).
-/

namespace VolumeLifecycle.Volume

open VolumeLifecycle.Value

/-! ## The encryption flag of an update -/

/-- The settings PATCHed for an update carry the request's encryption flag. -/
theorem UpdateRequest.payload_encrypted (r : UpdateRequest) :
    r.payload.field "Encrypted" = .ok (.bool r.encrypted) :=
  rfl

/-- An update request asks for the encryption of its filled-in state. -/
theorem UpdateRequest.ofState_encrypted {state volumeUri : Value} {r : UpdateRequest}
    (h : UpdateRequest.ofState state volumeUri = .ok r) :
    ∃ D e, withDefaults state = .ok D ∧ D.field "encrypted" = .ok e ∧ r.encrypted = e.truthy := by
  unfold UpdateRequest.ofState at h
  obtain ⟨D, hD, h⟩ := exists_of_bind_eq_ok h
  obtain ⟨_, -, h⟩ := exists_of_bind_eq_ok h
  obtain ⟨_, -, h⟩ := exists_of_bind_eq_ok h
  obtain ⟨_, -, h⟩ := exists_of_bind_eq_ok h
  obtain ⟨_, -, h⟩ := exists_of_bind_eq_ok h
  obtain ⟨e, he, h⟩ := exists_of_bind_eq_ok h
  obtain ⟨_, -, h⟩ := exists_of_bind_eq_ok h
  cases h
  exact ⟨D, e, hD, he, rfl⟩

end VolumeLifecycle.Volume

namespace VolumeLifecycle.Lifecycle

open VolumeLifecycle.Redfish VolumeLifecycle.Value VolumeLifecycle.Volume

/-- The change an update submits is the PATCH of its update request. -/
theorem Submits.update_payload {client : Client} {p : Progress} {call : Call}
    (hs : Submits client p call) (hop : p.operation = .str "update") :
    ∃ volumeUri r, UpdateRequest.ofState p.desired volumeUri = .ok r ∧
      call.payload.field "Encrypted" = .ok (.bool r.encrypted) := by
  unfold Submits at hs
  rw [hop] at hs
  obtain ⟨volumeUri, r, path, -, hr, -, rfl⟩ := hs
  exact ⟨volumeUri, r, hr, r.payload_encrypted⟩

/-- **The one PATCH a change sends is its submission**: the only other change it may send is the
reset of the system, which is a POST. -/
theorem ChangeShape.patch_submits {c : Component} {w : Progress} {evs : List Event}
    (h : ChangeShape c w evs) {call : Call} (hcall : call ∈ changes evs)
    (hpatch : call.method = .patch) : Submits c.client w call := by
  rcases h.changes_eq with hnone | ⟨call₀, hsub, hone | ⟨t, reset, htwo, hreset⟩⟩
  · rw [hnone] at hcall
    cases hcall
  · rw [hone, List.mem_singleton] at hcall
    exact hcall ▸ hsub
  · rw [htwo, List.mem_cons, List.mem_singleton] at hcall
    rcases hcall with rfl | rfl
    · exact hsub
    · rw [hreset.1] at hpatch
      cases hpatch

/-! ## The check before an update -/

/-- The filled-in desired state is without encryption while the filled-in prior state has it. -/
def TurnsEncryptionOff (desired prior : Value) : Prop :=
  ∃ D P de pe, withDefaults desired = .ok D ∧ withDefaults prior = .ok P ∧
    D.field "encrypted" = .ok de ∧ P.field "encrypted" = .ok pe ∧
    de.truthy = false ∧ pe.truthy = true

section Update

variable (c : Component) {desired prior : Value}

/-- **An update that would turn encryption off is refused at once**, with the station as it was:
the lock is not taken and nothing is sent. -/
theorem Component.updateVolume_refused (h : TurnsEncryptionOff desired prior) (st : Station) :
    (c.updateVolume desired prior).runOn st = (.error encryptionLocked, st) := by
  obtain ⟨D, P, de, pe, hD, hP, hde, hpe, hoff, hon⟩ := h
  unfold Component.updateVolume
  simp only [Op.runOn_bind, Op.runOn_liftFailure, hD, hP, hde, hpe, hoff, hon, Bool.not_false,
    Bool.and_self, if_true, Op.runOn_throw]

/-- An update either stops before its first event, or has passed the check and runs as a change
on its filled-in states, which the progress it leaves holds. -/
theorem Component.updateVolume_shape (desired prior : Value) :
    (c.updateVolume desired prior).Spec fun _ _ st' evs => evs = [] ∨
      ∃ D P de pe P', withDefaults desired = .ok D ∧ withDefaults prior = .ok P ∧
        D.field "encrypted" = .ok de ∧ P.field "encrypted" = .ok pe ∧
        (de.truthy = true ∨ pe.truthy = false) ∧
        withDefaults (if prior.truthy then prior else .dict []) = .ok P' ∧
        st'.progress.request = (.str "update", D, P') ∧ ChangeShape c st'.progress evs := by
  unfold Component.updateVolume
  refine Op.Spec.lift_bind (fun D hD => ?_) fun _ _ _ => .inl rfl
  refine Op.Spec.lift_bind (fun P hP => ?_) fun _ _ _ => .inl rfl
  refine Op.Spec.lift_bind (fun de hde => ?_) fun _ _ _ => .inl rfl
  refine Op.Spec.lift_bind (fun pe hpe => ?_) fun _ _ _ => .inl rfl
  split
  · -- the check refuses before anything runs
    simp only [Op.throw_bind]
    exact Op.spec_throw _ fun _ => .inl rfl
  rename_i hpass
  -- the check passed: the desired state keeps encryption, or the prior state has none
  have hkeep : de.truthy = true ∨ pe.truthy = false := by
    cases hd : de.truthy <;> cases hp : pe.truthy <;> simp_all
  rw [← map_eq_pure_bind]
  refine Op.Spec.map (c.run_verb_spec (Q := fun ph p₀ r₀ p₁ e₀ => PhaseTrace c ph p₀ r₀ p₁ e₀ ∧
      (ph ≠ .discover → p₁.discovered = p₀.discovered)) c.phase_shape_spec (.update desired prior)
      .null (execute_all _)) (fun _ _ _ _ h => ?_) fun _ _ _ _ h => ?_
  all_goals
    rcases h with ⟨rfl, _⟩ | ⟨D₁, P', r', hD₁, hP', hrun, -⟩
    · exact .inl rfl
    have hD₁ : D₁ = D := Except.ok.inj (hD₁.symm.trans hD)
    subst hD₁
    exact .inr ⟨D₁, P, de, pe, P', hD, hP, hde, hpe, hkeep, hP',
      hrun.end_request fun _ _ _ _ _ hq => hq.1.request_eq,
      (hrun.with_request fun _ _ _ _ _ hq => hq.1.request_eq).change_shape (by simp [Verb.operation])⟩

end Update

/-- **An update never turns encryption off.** Every PATCH it sends that asks for no encryption
comes from a run whose filled-in prior state is without encryption too; and an update whose
filled-in desired state turns off the encryption of its filled-in prior state is refused with a
precondition error of the discovery stage, before the lock and before any request, the station
left as it was. -/
theorem Component.update_keeps_encryption (c : Component) (desired prior : Value) :
    (c.updateVolume desired prior).Spec (fun _ _ _ evs => ∀ call ∈ changes evs,
      call.method = .patch → call.payload.field "Encrypted" = .ok (.bool false) →
        ∃ P pe, withDefaults prior = .ok P ∧ P.field "encrypted" = .ok pe ∧ pe.truthy = false) ∧
    (TurnsEncryptionOff desired prior → ∀ st, ∃ message,
      (c.updateVolume desired prior).runOn st =
        (.error (.raise .precondition message (.str "discover")), st)) := by
  refine ⟨(c.updateVolume_shape desired prior).mono fun _ _ st' evs h call hcall hpatch hoff => ?_,
    fun hturn st => ⟨_, c.updateVolume_refused hturn st⟩⟩
  rcases h with rfl | ⟨D, P, de, pe, P', hD, hP, hde, hpe, hkeep, -, hreq, hshape⟩
  · cases hcall
  -- the PATCH is the submission, whose flag is the desired state's
  obtain ⟨volumeUri, r, hr, hflag⟩ :=
    (hshape.patch_submits hcall hpatch).update_payload (congrArg Prod.fst hreq)
  have hdesired : st'.progress.desired = D := congrArg (fun q => q.2.1) hreq
  rw [hdesired] at hr
  obtain ⟨D', e, hD', he, hre⟩ := UpdateRequest.ofState_encrypted hr
  rw [withDefaults_field_of_filled hD hD' (by decide), hde] at he
  cases he
  have hoff' : de.truthy = false := by
    rw [hflag] at hoff
    have := Value.bool.inj (Except.ok.inj hoff)
    rwa [hre] at this
  exact ⟨P, pe, hP, hpe, hkeep.resolve_left (by rw [hoff']; decide)⟩

/-- An update of an encrypted volume to a state that asks for no encryption, on a controller that
answers nothing, from a fresh station. -/
theorem Component.update_keeps_encryption_encrypted_prior :
    let client : Client :=
      { baseUrl := "https://192.168.2.230", auth := none, verify := .bool false,
        timeout := .int 30, headers := [] }
    let c : Component :=
      { config := [], componentId := .null, endpoint := .str "192.168.2.230", client,
        poller := { client, interval := .int 10 }, power := { client, interval := .int 10 },
        reconciler := { client, fields := [], preserved := [] } }
    let st : Station :=
      { registry := {}, progress := {},
        site :=
          { clock := { now := .int 0 },
            controller :=
              { resources := [], readScripts := [], changeScripts := [], defaultChange := {},
                resetReply := {}, power := none, failReads := none } } }
    TurnsEncryptionOff (.dict [("encrypted", .bool false)]) (.dict [("encrypted", .bool true)]) ∧
      ∃ message, (c.updateVolume (.dict [("encrypted", .bool false)])
        (.dict [("encrypted", .bool true)])).runOn st =
          (.error (.raise .precondition message (.str "discover")), st) := by
  intro client c st
  -- each state keeps the encryption it sets
  have hfilled : ∀ b : Bool, ∃ D, withDefaults (.dict [("encrypted", .bool b)]) = .ok (.dict D) ∧
      (Value.dict D).field "encrypted" = .ok (.bool b) := fun b => by
    obtain ⟨D, hD⟩ : ∃ D, withDefaults (.dict [("encrypted", .bool b)]) = .ok (.dict D) :=
      ⟨_, withDefaults_dict (raidLevel_dict rfl)⟩
    exact ⟨D, hD, field_dict_of_lookup
      (withDefaults_set_field (by simp) hD (by decide) rfl fun h => by cases h)⟩
  obtain ⟨D, hD, hde⟩ := hfilled false
  obtain ⟨P, hP, hpe⟩ := hfilled true
  have hoff : TurnsEncryptionOff (.dict [("encrypted", .bool false)])
      (.dict [("encrypted", .bool true)]) :=
    ⟨_, _, _, _, hD, hP, hde, hpe, rfl, rfl⟩
  exact ⟨hoff, (Component.update_keeps_encryption c _ _).2 hoff st⟩

end VolumeLifecycle.Lifecycle
