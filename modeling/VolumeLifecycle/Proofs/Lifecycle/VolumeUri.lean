import VolumeLifecycle.Proofs.Lifecycle.Shape
import VolumeLifecycle.Proofs.Redfish.Answers
/-!
# VolumeLifecycle.Proofs.Lifecycle.VolumeUri

**A delete follows its volume's URI.** A delete does not look its controller up: it cuts the
volume's `id` at the last `/Volumes/` to get the controller, and that at the last `/Storage/` to
get the system (`parentUri`). For a system URI `S` that is not empty and a controller segment `C`
and a volume segment `V` with no slash, the cuts land where the segments meet:

* `parentUri_append` — a marker with a slash at each end and none inside occurs nowhere past
  the text before it when no slash follows it: from there on the text holds one slash, and the
  marker two (`occurrence_le_of_slashes`);
* `Component.discoverDelete_derived` — discovery notes the controller and the system that the
  cuts give, and its one read is the apply-time read of that controller's volume collection;
* `Component.delete_postsReset` — every POST of the delete resets that system (`PostsReset`):
  the process phase power cycles the system that discovery noted, and a power cycle posts only
  the reset of the system it reads (`Coordinator.powerCycle_postsReset`);
* `Component.discoverDelete_refused` — an `id` with `/Volumes/` nowhere but at its start is
  refused before any request.

`Component.delete_follows_volume_uri` puts the three together (`FollowsVolumeUri`).
-/

namespace VolumeLifecycle.Lifecycle

open VolumeLifecycle.Redfish VolumeLifecycle.Value VolumeLifecycle.Volume

/-! ## Cutting a URI at a marker -/

theorem mem_of_getLast?_filter_range {n k : Nat} {p : Nat → Bool}
    (h : ((List.range n).filter p).getLast? = some k) : k < n ∧ p k = true := by
  obtain ⟨ys, hys⟩ := List.getLast?_eq_some_iff.1 h
  have hk : k ∈ (List.range n).filter p := by rw [hys]; simp
  exact ⟨List.mem_range.1 (List.mem_filter.1 hk).1, (List.mem_filter.1 hk).2⟩

/-- The last element of a filtered range is the largest index that passes the filter. -/
theorem getLast?_filter_range {n i : Nat} {p : Nat → Bool} (hi : i < n) (hp : p i = true)
    (hmax : ∀ j < n, p j = true → j ≤ i) : ((List.range n).filter p).getLast? = some i := by
  have hmem : i ∈ (List.range n).filter p := List.mem_filter.2 ⟨List.mem_range.2 hi, hp⟩
  obtain ⟨k, hk⟩ := Option.isSome_iff_exists.1
    (List.getLast?_isSome.2 (List.ne_nil_of_mem hmem))
  obtain ⟨hkn, hpk⟩ := mem_of_getLast?_filter_range hk
  have hki : k ≤ i := hmax k hkn hpk
  -- the filtered range increases, so every index it holds is at most its last one
  obtain ⟨ys, hys⟩ := List.getLast?_eq_some_iff.1 hk
  have hsorted : ((List.range n).filter p).Pairwise (· < ·) := List.pairwise_lt_range.filter p
  rw [hys, List.pairwise_append] at hsorted
  rw [hys, List.mem_append] at hmem
  rcases hmem with hmem | hmem
  · exact absurd (hsorted.2.2 i hmem k (by simp)) (by omega)
  · rw [hk, List.mem_singleton.1 hmem]

/-- A marker with a slash at each end and none inside occurs in `a ++ marker ++ b`, where `b`
has no slash, nowhere after `a`: past the end of `a` the text holds one slash, and the marker
two. -/
theorem occurrence_le_of_slashes {a inner b : List Char} (hinner : '/' ∉ inner) (hb : '/' ∉ b)
    {j : Nat} (hj : ((a ++ ('/' :: inner ++ ['/']) ++ b).drop j).take (inner.length + 2) =
      '/' :: inner ++ ['/']) : j ≤ a.length := by
  refine Nat.le_of_not_lt fun hlt => ?_
  -- from `j` on, the text lies within what follows the first slash of the marker at `a`
  have htail : (a ++ ('/' :: inner ++ ['/']) ++ b).drop j <:+ inner ++ '/' :: b := by
    have hdrop : (a ++ ('/' :: inner ++ ['/']) ++ b).drop (a.length + 1) = inner ++ '/' :: b := by
      simp [List.drop_append]
    rw [← hdrop, show j = (a.length + 1) + (j - (a.length + 1)) by omega, ← List.drop_drop]
    exact List.drop_suffix _ _
  have htake := List.take_prefix (inner.length + 2) ((a ++ ('/' :: inner ++ ['/']) ++ b).drop j)
  rw [hj] at htake
  have hcount := (htake.isInfix.trans htail.isInfix).count_le '/'
  simp [List.count_append, List.count_eq_zero_of_not_mem hinner, List.count_eq_zero_of_not_mem hb]
    at hcount

/-- **`parentUri` cuts at the last place the marker starts**, when that place is not the
first character. -/
theorem parentUri_of_last {s marker : String} {i : Nat}
    (hi : (s.toList.drop i).take marker.toList.length = marker.toList)
    (hlast : ∀ j, (s.toList.drop j).take marker.toList.length = marker.toList → j ≤ i)
    (hpos : 0 < i) : parentUri (.str s) marker = .ok (.str (String.ofList (s.toList.take i))) := by
  have hlen : i < s.toList.length + 1 := by
    refine Nat.lt_succ_of_le (Nat.le_of_not_lt fun hgt => ?_)
    -- past the end the marker would be empty, and an empty marker starts everywhere
    have hm : marker.toList = [] := by
      rw [← hi, List.drop_eq_nil_of_le (by omega), List.take_nil]
    have := hlast (i + 1) (by rw [hm, List.length_nil, List.take_zero])
    omega
  unfold parentUri
  simp only [textOf, bind, Except.bind]
  rw [getLast?_filter_range hlen (by simpa using hi) fun j _ hj => hlast j (by simpa using hj)]
  simp [Nat.ne_of_gt hpos, pure, Except.pure]

/-- A text split around a marker with a slash at each end and none inside, after which no
slash follows, is cut back to what precedes the marker. -/
theorem parentUri_append {a b marker : String} {inner : List Char}
    (hm : marker.toList = '/' :: inner ++ ['/']) (hinner : '/' ∉ inner) (hb : '/' ∉ b.toList)
    (ha : a ≠ "") : parentUri (.str (a ++ marker ++ b)) marker = .ok (.str a) := by
  have hcs : (a ++ marker ++ b).toList = a.toList ++ ('/' :: inner ++ ['/']) ++ b.toList := by
    simp [String.toList_append, hm]
  have hlen : marker.toList.length = inner.length + 2 := by simp [hm]
  have hpos : 0 < a.toList.length := by
    refine List.length_pos_iff.2 fun hnil => ha ?_
    rw [← String.toList_inj, hnil, String.toList_empty]
  rw [parentUri_of_last (i := a.toList.length) ?occ ?last hpos, hcs]
  case occ => simp [hcs, hm, List.take_append, List.take_of_length_le]
  case last =>
    intro j hj
    rw [hcs, hlen, hm] at hj
    exact occurrence_le_of_slashes hinner hb hj
  simp

/-- **An id with the marker at its start alone is malformed**: `parentUri` refuses a text
whose every split around the marker has nothing before it. -/
theorem parentUri_of_prefixes {s marker : String} (hm : marker ≠ "")
    (h : ∀ a b, s = a ++ marker ++ b → a = "") :
    parentUri (.str s) marker = .error (preconditionFailure s!"Malformed resource URI: {s}") := by
  unfold parentUri
  simp only [textOf, bind, Except.bind]
  split
  · rename_i k hk
    obtain ⟨-, hocc⟩ := mem_of_getLast?_filter_range hk
    have hocc : (s.toList.drop k).take marker.toList.length = marker.toList := by simpa using hocc
    -- the marker starts at `k`, so the text is split there around it
    have hsplit : s = String.ofList (s.toList.take k) ++ marker ++
        String.ofList (s.toList.drop (k + marker.toList.length)) := by
      rw [← String.toList_inj]
      simp only [String.toList_append, String.toList_ofList]
      conv => lhs; rw [← List.take_append_drop k s.toList,
        ← List.take_append_drop marker.toList.length (s.toList.drop k), hocc, List.drop_drop]
      simp
    have hnil := h _ _ hsplit
    rw [← String.toList_inj, String.toList_ofList, String.toList_empty, List.take_eq_nil_iff] at hnil
    rcases hnil with rfl | hnil
    · rfl
    · refine absurd ?_ hm
      rw [← String.toList_inj, ← hocc, hnil]
      simp
  · rfl

/-- Cutting a volume's URI at `/Volumes/` gives its controller, when the volume's own segment
has no slash. -/
theorem parentUri_volumeUri (S C : String) {V : String} (hV : '/' ∉ V.toList) :
    parentUri (.str (S ++ "/Storage/" ++ C ++ "/Volumes/" ++ V)) "/Volumes/" =
      .ok (.str (S ++ "/Storage/" ++ C)) := by
  have hm : "/Volumes/".toList = '/' :: "Volumes".toList ++ ['/'] := by simp
  exact parentUri_append hm (by simp) hV fun h => by simpa using congrArg String.toList h

/-- Cutting a controller's URI at `/Storage/` gives its system, when the system's URI is not
empty and the controller's own segment has no slash. -/
theorem parentUri_storageUri {S C : String} (hS : S ≠ "") (hC : '/' ∉ C.toList) :
    parentUri (.str (S ++ "/Storage/" ++ C)) "/Storage/" = .ok (.str S) := by
  have hm : "/Storage/".toList = '/' :: "Storage".toList ++ ['/'] := by simp
  exact parentUri_append hm (by simp) hC hS

/-- The refusal of a delete whose `id` is the text `s`, when every split of `s` around
`/Volumes/` has nothing before it: an empty id has no volume, any other is malformed. -/
def refusedId (s : String) : Failure :=
  preconditionFailure
    (if s = "" then "Cannot delete a volume without its id" else s!"Malformed resource URI: {s}")

theorem Component.discoverDelete_runOn_refused (c : Component) {s : String}
    (hs : ∀ a b, s = a ++ "/Volumes/" ++ b → a = "") {st : Station}
    (hid : st.progress.desired.getOr "id" = .ok (.str s)) :
    c.discoverDelete.runOn st = (.error (refusedId s), st) := by
  unfold Component.discoverDelete refusedId
  simp only [Op.runOn_bind, Op.runOn_progress, Op.runOn_liftFailure, hid]
  by_cases hempty : s = ""
  · subst hempty
    simp [Value.truthy]
  · have hcut := parentUri_of_prefixes (by simp) hs
    have htrue : (Value.str s).truthy = true := by simpa [Value.truthy] using hempty
    simp only [htrue, Bool.not_true, Bool.false_eq_true, if_false]
    rw [Op.runOn_bind, Op.runOn_liftFailure, hcut, if_neg hempty]

end VolumeLifecycle.Lifecycle

namespace VolumeLifecycle.Redfish

open VolumeLifecycle.Value

/-- The apply times of a controller are read by one GET of its volume collection, whatever the
controller answers. -/
theorem Client.supportedApplyTimes_answer (c : Client) {storageUri : Value} {path : String}
    (hpath : c.target (.str s!"{storageUri.display}/Volumes") = .ok path) :
    (c.supportedApplyTimes storageUri).Spec fun _ evs =>
      ∃ answer, evs = [.exchange { method := .get, path, payload := .null } answer] := by
  rw [Client.supportedApplyTimes_eq]
  refine Act.Spec.bind (c.get_answer hpath) (fun volumes => Act.ofExcept_spec _) ?_ ?_
  · rintro volumes r e₁ e₂ ⟨answer, rfl, -⟩ ⟨-, rfl⟩
    exact ⟨answer, rfl⟩
  · rintro f e ⟨answer, rfl, -⟩
    exact ⟨answer, rfl⟩

/-! ## A reset of the system -/

/-- A POST that resets the system at `systemUri`: the GET `read` of the system came right
before it and was answered with the system's document, and the POST sends a reset type to the
reset target that document names. -/
def ResetsSystem (client : Client) (systemUri : Value) (read : Event) (call : Call) : Prop :=
  ∃ path answer system target resetType, client.target systemUri = .ok path ∧
    read = .exchange { method := .get, path, payload := .null } answer ∧
    answer >>= documentOf systemUri = .ok system ∧ resetTarget systemUri system = .ok target ∧
    client.target target = .ok call.path ∧ call.payload = .dict [("ResetType", resetType)]

/-- Every POST among `evs` resets the system at `systemUri`, right after reading it. -/
def PostsReset (client : Client) (systemUri : Value) (evs : List Event) : Prop :=
  ∀ call answer, Event.exchange call answer ∈ evs → call.method = .post →
    ∃ read, [read, .exchange call answer] <:+: evs ∧ ResetsSystem client systemUri read call

section PostsReset

variable {client : Client} {systemUri : Value} {e₁ e₂ evs : List Event}

/-- Events that change nothing post nothing. -/
theorem PostsReset.of_changes_nil (h : changes evs = []) : PostsReset client systemUri evs := by
  intro call answer hmem hpost
  have hchange : call ∈ changes evs :=
    List.mem_filterMap.2 ⟨_, hmem, by simp [Event.change?, hpost]⟩
  rw [h] at hchange
  cases hchange

theorem PostsReset.append (h₁ : PostsReset client systemUri e₁) (h₂ : PostsReset client systemUri e₂) :
    PostsReset client systemUri (e₁ ++ e₂) := by
  intro call answer hmem hpost
  rcases List.mem_append.1 hmem with hmem | hmem
  · obtain ⟨read, hpair, hreset⟩ := h₁ call answer hmem hpost
    exact ⟨read, hpair.trans (List.prefix_append e₁ e₂).isInfix, hreset⟩
  · obtain ⟨read, hpair, hreset⟩ := h₂ call answer hmem hpost
    exact ⟨read, hpair.trans (List.suffix_append e₁ e₂).isInfix, hreset⟩

end PostsReset

/-- The reset of a system posts, if at all, right after reading the system, to the target the
system names. -/
theorem ResetSent.postsReset {c : Client} {systemUri resetType : Value} {path : String}
    {r : Except Failure Unit} {evs : List Event} (h : ResetSent c systemUri resetType path r evs)
    (hpath : c.target systemUri = .ok path) : PostsReset c systemUri evs := by
  cases h with
  | unread => exact PostsReset.of_changes_nil (by simp [changes_cons_exchange])
  | untargeted => exact PostsReset.of_changes_nil (by simp [changes_cons_exchange])
  | posted hread htarget hpost =>
    intro call answer hmem hmethod
    rcases List.mem_cons.1 hmem with hget | hreset
    · cases hget
      cases hmethod
    · rw [List.mem_singleton] at hreset
      cases hreset
      exact ⟨_, List.infix_refl _, path, _, _, _, resetType, hpath, rfl, hread, htarget, hpost, rfl⟩

/-- The reset of a power cycle posts, if at all, to the target of the system it read, whatever a
rejection becomes. -/
theorem Client.reset_rejected_postsReset (c : Client) {systemUri : Value} {path : String}
    (hpath : c.target systemUri = .ok path) (issued : Value) {h : Failure → Act Unit}
    (hh : ∀ f, f.OfRead → (h f).Within (fun _ => False) Failure.NotPrecondition) :
    (tryCatch (c.reset systemUri issued) h).Spec fun _ evs => PostsReset c systemUri evs := by
  refine Act.Spec.tryCatch_within ((c.reset_sent hpath issued).and (c.reset_within systemUri issued))
    (fun f e ⟨_, _, hf⟩ => hh f (hf f rfl)) (fun _ _ ⟨hsent, _⟩ => hsent.postsReset hpath) ?_
  intro f r e₁ e₂ ⟨hsent, _⟩ he₂ _
  rw [List.eq_nil_iff_forall_not_mem.2 he₂, List.append_nil]
  exact hsent.postsReset hpath

end VolumeLifecycle.Redfish

namespace VolumeLifecycle.Lifecycle

open VolumeLifecycle.Redfish VolumeLifecycle.Value VolumeLifecycle.Volume

/-- **A power cycle resets the system it was asked to**: its one POST, if any, goes right after a
GET of that system to the reset target the system names. -/
theorem Coordinator.powerCycle_postsReset (pc : Coordinator) {systemUri : Value} {path : String}
    (hpath : pc.client.target systemUri = .ok path) (resetType timeout : Value) :
    (pc.powerCycle systemUri resetType timeout).Spec fun _ evs =>
      PostsReset pc.client systemUri evs := by
  have hquiet : ∀ {e : List Event}, (∀ x ∈ e, ¬ x.IsChange) → PostsReset pc.client systemUri e :=
    fun h => PostsReset.of_changes_nil (changes_eq_nil h)
  unfold Coordinator.powerCycle
  dsimp only
  split
  · simp only [Act.fail_bind]
    exact (Act.fail_spec _).mono fun _ _ ⟨_, he⟩ => PostsReset.of_changes_nil (by rw [he]; rfl)
  -- the power read before the reset changes nothing
  refine Act.Within.bind_spec (p := fun e => ¬ e.IsChange) (q := Failure.NotPrecondition)
    ?_ (fun current => ?_) (fun _ _ _ h₁ h₂ => (hquiet h₁).append h₂) fun _ _ h₁ _ => hquiet h₁
  · refine (((pc.client.powerState_within systemUri).map some).mono (fun _ h => h.not_isChange)
      fun _ h => h).tryCatch fun f hf => ?_
    exact (rejected_within _ _ hf).bind fun _ => Act.within_pure none
  -- one reset, then polls that change nothing
  refine Act.Spec.bind_within (pc.client.reset_rejected_postsReset hpath _ fun f hf =>
      rejected_within _ _ hf) (p := fun e => ¬ e.IsChange) (q := Failure.NotPrecondition)
    (fun _ => ?_) (fun _ _ _ _ h₁ h₂ _ => h₁.append (hquiet h₂)) fun _ _ h => h
  have hplain : ∀ f : Failure, f.cls? = none → f.NotPrecondition :=
    fun _ => Failure.notPrecondition_of_plain
  refine Act.within_now.bind fun start => ?_
  refine (Act.within_plain (start.plus_plain timeout) hplain).bind fun deadline => ?_
  refine (pollPower_within _ _ _ _ _ _ _ _).bind fun ⟨reached, seen, polls⟩ => ?_
  cases reached with
  | some state =>
    refine Act.within_now.bind fun now => ?_
    exact (Act.within_plain (now.minus_plain start) hplain).bind fun _ => Act.within_pure _
  | none =>
    refine (Act.within_plain (joinTexts_plain _ _) hplain).bind fun _ => Act.within_fail ?_
    simp [Failure.NotPrecondition, powerFailure]

/-- The filled-in state `D` of a delete leads to the system at `systemUri` and the controller at
`storageUri`: its `id` is true and cuts at `/Volumes/` to the controller, which cuts at
`/Storage/` to the system, and it names no system of its own. -/
def LeadsToHost (D systemUri storageUri : Value) : Prop :=
  ∃ volumeUri, D.getOr "id" = .ok volumeUri ∧ volumeUri.truthy = true ∧
    parentUri volumeUri "/Volumes/" = .ok storageUri ∧
    parentUri storageUri "/Storage/" = .ok systemUri ∧
    ∃ v, D.getOr "system_id" = .ok v ∧ v.truthy = false

/-- What the `id` of a state that leads to a host gives: a true volume URI that cuts to the
controller, which cuts to the system. -/
theorem LeadsToHost.cuts {D systemUri storageUri u : Value}
    (h : LeadsToHost D systemUri storageUri) (hu : D.getOr "id" = .ok u) :
    u.truthy = true ∧ parentUri u "/Volumes/" = .ok storageUri ∧
      parentUri storageUri "/Storage/" = .ok systemUri := by
  obtain ⟨volumeUri, hid, htrue, hvolumes, hstorage, -⟩ := h
  rw [hu] at hid
  cases hid
  exact ⟨htrue, hvolumes, hstorage⟩

/-- What delete discovery derived: the system and the controller, noted in the progress `p`,
and the one read it sent, a GET of the controller's volume collection for its apply times. -/
def DerivedHost (client : Client) (systemUri storageUri : Value) (p : Progress)
    (evs : List Event) : Prop :=
  lookup p.discovered "system_uri" = some systemUri ∧
    lookup p.discovered "storage_uri" = some storageUri ∧
    ∃ path answer, client.target (.str s!"{storageUri.display}/Volumes") = .ok path ∧
      evs = [.exchange { method := .get, path, payload := .null } answer]

/-- **Delete discovery takes the controller and the system from the volume's URI**: from a state
that leads to them, both are noted and the one read is of that controller's volume
collection. -/
theorem Component.discoverDelete_derived (c : Component) (systemUri storageUri : Value) :
    c.discoverDelete.Spec fun st _ st' evs => LeadsToHost st.progress.desired systemUri storageUri →
      DerivedHost c.client systemUri storageUri st'.progress evs := by
  unfold Component.discoverDelete
  refine Op.Spec.progress_bind fun pr => ?_
  refine Op.Spec.mono (Q := fun _ _ st' evs => LeadsToHost pr.desired systemUri storageUri →
      DerivedHost c.client systemUri storageUri st'.progress evs) ?_
    fun st r st' evs h hpr => hpr ▸ h
  refine Op.Spec.lift_bind (fun u hu => ?_) fun _ f hf ⟨_, hid, _⟩ => by rw [hid] at hf; cases hf
  split
  · rename_i hfalse
    refine Op.spec_throw _ fun _ hlead => ?_
    simp [(hlead.cuts hu).1] at hfalse
  refine Op.Spec.lift_bind (fun s hs => ?_) fun _ f hf hlead => by
    rw [(hlead.cuts hu).2.1] at hf; cases hf
  refine Op.Spec.lift_bind (fun y hy => ?_) fun _ f hf hlead => by
    obtain ⟨-, hcut, hcut'⟩ := hlead.cuts hu
    rw [hcut] at hs; cases hs; rw [hcut'] at hf; cases hf
  refine Op.Spec.lift_bind (fun systemId hsid => ?_) fun _ f hf ⟨_, _, _, _, _, v, hv, _⟩ => by
    rw [hv] at hf; cases hf
  dsimp only
  -- the system is the one cut from the URI, unless the state names one
  split
  case' isTrue =>
    rename_i hnamed
    have hnone : ¬ LeadsToHost pr.desired systemUri storageUri :=
      fun ⟨_, _, _, _, _, v, hv, hv'⟩ => by rw [hsid] at hv; cases hv; simp [hnamed] at hv'
    refine Op.Spec.lift_bind (fun _ _ => ?_) fun _ _ _ h => absurd h hnone
    refine Op.Spec.bind (c.system_within _) (fun system => ?_) (S := fun _ _ _ _ _ => True)
      (fun _ _ _ _ _ _ _ _ _ h => absurd h hnone) fun _ _ _ _ _ h => absurd h hnone
    refine Op.Spec.lift_bind (fun x _ => ?_) fun _ _ _ => trivial
    refine Op.Spec.mono (Q := fun _ _ st' evs => DerivedHost c.client x s st'.progress evs)
      ?_ fun _ _ _ _ _ => trivial
  case' isFalse =>
    simp only [pure_bind]
    refine Op.Spec.mono (Q := fun _ _ st' evs => DerivedHost c.client y s st'.progress evs) ?_
      fun _ _ _ _ hderived hlead => by
        obtain ⟨-, hcut, hcut'⟩ := hlead.cuts hu
        rw [hcut] at hs; cases hs; rw [hcut'] at hy; cases hy
        exact hderived
  all_goals
    -- the two notes, then the one read of the controller's volume collection
    refine Op.Spec.note_bind ?_
    refine Op.Spec.note_bind ?_
    obtain ⟨path, hpath⟩ := c.client.target_str s!"{s.display}/Volumes"
    refine Op.Spec.bind (Op.act_spec (c.client.supportedApplyTimes_answer hpath))
      (fun supported => ?_) (S := fun _ st _ st' evs => st' = st ∧ evs = []) ?_ ?_
    · refine Op.Spec.lift_bind (fun _ _ => Op.spec_liftFailure _ fun _ => ⟨rfl, rfl⟩)
        fun _ _ _ => ⟨rfl, rfl⟩
    · rintro supported st st₁ r st₂ e₁ e₂ ⟨⟨answer, rfl⟩, -, hp₁⟩ ⟨rfl, rfl⟩ st₀ rfl st₀' rfl
      exact ⟨by simp [hp₁], by simp [hp₁], path, answer, hpath, rfl⟩
    · rintro f st st₁ e ⟨⟨answer, rfl⟩, -, hp₁⟩ st₀ rfl st₀' rfl
      exact ⟨by simp [hp₁], by simp [hp₁], path, answer, hpath, rfl⟩

/-- Delete discovery from a state whose `id` is a text with `/Volumes/` nowhere but at its start
refuses before any request, as a precondition failure. -/
theorem Component.discoverDelete_refused (c : Component) :
    c.discoverDelete.Spec fun st r _ evs => ∀ s, st.progress.desired.getOr "id" = .ok (.str s) →
      (∀ a b, s = a ++ "/Volumes/" ++ b → a = "") →
      evs = [] ∧ ∃ f, r = .error f ∧ f.cls? = some .precondition := by
  intro st
  by_cases h : ∃ s, st.progress.desired.getOr "id" = .ok (.str s) ∧
    ∀ a b, s = a ++ "/Volumes/" ++ b → a = ""
  · obtain ⟨s, hid, hs⟩ := h
    rw [c.discoverDelete_runOn_refused hs hid]
    refine ⟨[], Site.After.refl _, fun s' hid' _ => ⟨rfl, refusedId s, rfl, rfl⟩⟩
  · obtain ⟨evs, hs, -⟩ := c.discoverDelete_within st
    exact ⟨evs, hs, fun s hid hstart => absurd ⟨s, hid, hstart⟩ h⟩

/-! ## The reset of a delete -/

/-- The process phase submits a delete as a DELETE. -/
theorem Submits.method_of_delete {client : Client} {p : Progress} {call : Call}
    (h : Submits client p call) (hop : p.operation = .str "delete") : call.method = .delete := by
  simp only [Submits, hop] at h
  obtain ⟨_, _, _, _, rfl⟩ := h
  rfl

/-- The reset after a change power cycles the system that discovery noted. -/
theorem Component.resetForChange_postsReset (c : Component) (p : Progress) :
    (c.resetForChange p).Spec fun st _ _ evs => ∀ systemUri path,
      lookup st.progress.discovered "system_uri" = some systemUri →
      c.power.client.target systemUri = .ok path → PostsReset c.power.client systemUri evs := by
  -- a grace of at most one sleep posts nothing
  have hgrace : ∀ {evs : List Event}, (evs = [] ∨ ∃ s, evs = [.sleep s]) →
      ∀ {systemUri : Value}, PostsReset c.power.client systemUri evs := by
    rintro evs (rfl | ⟨s, rfl⟩) systemUri <;> exact PostsReset.of_changes_nil rfl
  have hpower : ∀ systemUri resetType timeout,
      (c.power.powerCycle systemUri resetType timeout).Spec fun _ evs =>
        ∀ path, c.power.client.target systemUri = .ok path →
          PostsReset c.power.client systemUri evs := by
    intro systemUri resetType timeout
    cases htarget : c.power.client.target systemUri with
    | ok path => exact (c.power.powerCycle_postsReset htarget _ _).mono fun _ _ h _ _ => h
    | error f => exact (c.power.powerCycle_spec _ _ _).mono fun _ _ _ _ h => by cases h
  unfold Component.resetForChange
  refine Op.Spec.bind (c.resetGrace_spec p) (fun _ => ?_)
    (S := fun _ st _ _ evs => ∀ systemUri path,
      lookup st.progress.discovered "system_uri" = some systemUri →
      c.power.client.target systemUri = .ok path → PostsReset c.power.client systemUri evs) ?_ ?_
  · refine Op.Spec.discovered_bind (fun u => ?_) fun _ _ _ _ _ _ _ => PostsReset.of_changes_nil rfl
    refine Op.Spec.lift_bind (fun resetType _ => ?_)
      fun _ _ _ _ _ _ _ _ => PostsReset.of_changes_nil rfl
    refine Op.Spec.lift_bind (fun timeout _ => ?_)
      fun _ _ _ _ _ _ _ _ => PostsReset.of_changes_nil rfl
    -- the power cycle of the noted system, then two notes
    refine Op.Spec.bind (Op.act_spec (hpower u resetType timeout)) (fun result => ?_)
      (S := fun _ _ _ _ evs => evs = []) ?_ ?_
    · exact Op.Spec.bind (Op.note_spec _) (fun _ => Op.note_spec _)
        (fun _ _ _ _ _ _ _ ⟨_, _, he₁⟩ ⟨_, _, he₂⟩ => by rw [he₁, he₂]; rfl)
        fun _ _ _ _ ⟨h, _⟩ => by cases h
    · rintro result st st₁ r st₂ e₁ e₂ ⟨hpc, -, -⟩ rfl hlook systemUri path hlook' hpath
      rw [hlook] at hlook'
      cases hlook'
      rw [List.append_nil]
      exact hpc path hpath
    · rintro f st st₁ e ⟨hpc, -, -⟩ hlook systemUri path hlook' hpath
      rw [hlook] at hlook'
      cases hlook'
      exact hpc path hpath
  · rintro _ st st₁ r st₂ e₁ e₂ ⟨hp₁, hr⟩ h systemUri path hlook hpath
    rcases hr with ⟨f, hf, -⟩ | ⟨-, hg⟩
    · cases hf
    · exact (hgrace hg.eq_nil_or_sleep).append (h systemUri path (hp₁ ▸ hlook) hpath)
  · rintro f st st₁ e ⟨-, hr⟩ systemUri path - -
    rcases hr with ⟨f', hf, -, he⟩ | ⟨hf, -⟩
    · exact hgrace he
    · cases hf

/-- **The process phase of a delete posts only the reset of the system discovery noted**: its
change is a DELETE, and the reset after a change applied on reset goes to that system. -/
theorem Component.processPhase_postsReset (c : Component) :
    c.processPhase.Spec fun st _ _ evs => st.progress.operation = .str "delete" →
      ∀ systemUri path, lookup st.progress.discovered "system_uri" = some systemUri →
        c.power.client.target systemUri = .ok path → PostsReset c.power.client systemUri evs := by
  -- the submission of a delete posts nothing
  have hsent : ∀ {p : Progress} {st st' : Station} {r : Except Failure Value} {evs : List Event},
      Submitted c.client p st r st' evs → p.operation = .str "delete" →
      ∀ {systemUri : Value}, PostsReset c.power.client systemUri evs := by
    rintro p st st' r evs ⟨-, -, ⟨rfl, -⟩ | ⟨call, answer, rfl, hcall, -⟩⟩ hop systemUri
    · exact PostsReset.of_changes_nil rfl
    · intro call' answer' hmem hpost
      rw [List.mem_singleton] at hmem
      cases hmem
      rw [hcall.method_of_delete hop] at hpost
      cases hpost
  unfold Component.processPhase
  refine Op.Spec.progress_bind fun p => ?_
  refine Op.Spec.lift_bind (fun applyTime _ => ?_)
    fun _ _ _ _ _ _ _ _ _ => PostsReset.of_changes_nil rfl
  refine Op.Spec.bind (c.submitChange_spec p) (fun jobRef => ?_)
    (S := fun _ st _ _ evs => ∀ systemUri path,
      lookup st.progress.discovered "system_uri" = some systemUri →
      c.power.client.target systemUri = .ok path → PostsReset c.power.client systemUri evs) ?_ ?_
  · -- the job is noted, then a change applied on reset is followed by the reset
    refine Op.Spec.note_bind (Op.Spec.note_bind ?_)
    split
    · exact (c.resetForChange_postsReset p).mono fun st _ _ _ h st₁ hst₁ st₀ hst₀ systemUri path
        hlook hpath => h systemUri path (by rw [hst₁, hst₀]; exact hlook) hpath
    · exact Op.spec_pure () fun _ _ _ _ _ _ _ _ _ => PostsReset.of_changes_nil rfl
  · rintro jobRef st st₁ r st₂ e₁ e₂ hsub h rfl hop systemUri path hlook hpath
    have hsub := hsub rfl
    exact (hsent hsub hop).append (h systemUri path (by rw [hsub.1]; exact hlook) hpath)
  · rintro f st st₁ e hsub rfl hop systemUri path - -
    exact hsent (hsub rfl) hop

/-! ## The phases of a delete -/

/-- Discovery of a delete is delete discovery. -/
theorem Component.discoverPhase_runOn_delete (c : Component) {st : Station}
    (hop : st.progress.operation = .str "delete") :
    c.discoverPhase.runOn st = c.discoverDelete.runOn st := by
  unfold Component.discoverPhase
  rw [Op.runOn_bind, Op.runOn_progress]
  simp only [hop]

/-- What each phase of a delete does with the system at `systemUri` and the controller at
`storageUri`: discovery from a state that leads to them derives both (`DerivedHost`), and the
process phase posts only resets of the system that discovery noted. -/
def HostTrace (c : Component) (systemUri storageUri : Value) (ph : Phase) (p : Progress)
    (r : Except Failure Unit) (p' : Progress) (evs : List Event) : Prop :=
  PhaseTrace c ph p r p' evs ∧ (p.operation = .str "delete" →
    (ph = .discover → LeadsToHost p.desired systemUri storageUri →
      DerivedHost c.client systemUri storageUri p' evs) ∧
    (ph = .process → ∀ path, lookup p.discovered "system_uri" = some systemUri →
      c.power.client.target systemUri = .ok path → PostsReset c.power.client systemUri evs))

theorem Component.phase_host_spec (c : Component) (systemUri storageUri : Value) (ph : Phase) :
    (c.phase ph).Spec fun st r st' evs =>
      HostTrace c systemUri storageUri ph st.progress r st'.progress evs := by
  cases ph with
  | discover =>
    have hderived := Op.Spec.when c.discoverPhase_within
      (fun _ hop => c.discoverPhase_runOn_delete hop) (c.discoverDelete_derived systemUri storageUri)
    exact ((c.phase_spec .discover).and hderived).mono fun _ _ _ _ ⟨htrace, h⟩ =>
      ⟨htrace, fun hop => ⟨fun _ => h hop, nofun⟩⟩
  | process =>
    exact ((c.phase_spec .process).and c.processPhase_postsReset).mono fun _ _ _ _ ⟨htrace, h⟩ =>
      ⟨htrace, fun hop => ⟨nofun, fun _ path => h hop systemUri path⟩⟩
  | housekeep =>
    exact (c.phase_spec .housekeep).mono fun _ _ _ _ htrace => ⟨htrace, fun _ => ⟨nofun, nofun⟩⟩

/-- Housekeeping after a change posts nothing: it waits for the job and reads. -/
theorem HousekeepTrace.postsReset {c : Component} {p p' : Progress} {r : Except Failure Unit}
    {evs : List Event} (h : HousekeepTrace c p r p' evs) (hop : p.operation ≠ .str "read")
    {client : Client} {systemUri : Value} : PostsReset client systemUri evs := by
  obtain ⟨-, waits, rest, rfl, hwaits, hrest⟩ := h.2.2 hop
  exact PostsReset.of_changes_nil (by rw [changes_append, hwaits.changes_nil, changes_eq_nil hrest]; rfl)

/-- **Over the three phases of a delete that leads to the system at `systemUri`, every POST
resets that system**: discovery notes it and only reads, the process phase posts only its
resets, and housekeeping posts nothing. -/
theorem PhaseRun.delete_postsReset {c : Component} {systemUri storageUri : Value} {path : String}
    {w w' : Progress} {r : Except Failure Unit} {evs : List Event}
    (hop : w.operation = .str "delete") (hlead : LeadsToHost w.desired systemUri storageUri)
    (hpath : c.power.client.target systemUri = .ok path)
    (h : PhaseRun (fun ph p₀ r₀ p₁ e₀ => HostTrace c systemUri storageUri ph p₀ r₀ p₁ e₀ ∧
      p₀.request = w.request) Phase.all w r w' evs) :
    PostsReset c.power.client systemUri evs := by
  have hop_of : ∀ {p : Progress}, p.request = w.request → p.operation = .str "delete" :=
    fun hreq => (Progress.operation_eq_of_request hreq).trans hop
  obtain ⟨p₀, r₀, p₁, e₀, -, ⟨⟨hdisc, hhost₀⟩, hreq₀⟩, ⟨f₀, -, -, rfl, -⟩ | ⟨rfl, e₁, rfl, hrest⟩⟩ :=
    h
  · exact PostsReset.of_changes_nil (changes_eq_nil_of_isRead hdisc.2)
  have hreads : PostsReset c.power.client systemUri e₀ :=
    PostsReset.of_changes_nil (changes_eq_nil_of_isRead hdisc.2)
  -- discovery noted the system, and the process phase starts from what discovery left
  have hnoted := ((hhost₀ (hop_of hreq₀)).1 rfl
    (by rw [Progress.desired_eq_of_request hreq₀]; exact hlead)).1
  obtain ⟨p₂, r₂, p₃, e₂, hwork₂, ⟨⟨-, hhost₂⟩, hreq₂⟩, hend⟩ := hrest
  have hdiscovered : p₂.discovered = p₁.discovered := Progress.discovered_eq_of_work hwork₂
  have hposts := (hhost₂ (hop_of hreq₂)).2 rfl path (by rw [hdiscovered]; exact hnoted) hpath
  rcases hend with ⟨f₂, -, -, rfl, -⟩ | ⟨rfl, e₃, rfl, hrest⟩
  · exact hreads.append hposts
  obtain ⟨p₄, r₄, p₅, e₄, -, ⟨⟨hhouse, -⟩, hreq₄⟩, hend⟩ := hrest
  have hkept : PostsReset c.power.client systemUri e₄ :=
    hhouse.postsReset (by rw [hop_of hreq₄]; simp)
  rcases hend with ⟨f₄, -, -, rfl, -⟩ | ⟨rfl, e₅, rfl, hnil⟩
  · exact hreads.append (hposts.append hkept)
  · rw [hnil.2.1, List.append_nil]
    exact hreads.append (hposts.append hkept)

/-- **Every POST of a delete resets the system its volume's URI leads to.** -/
theorem Component.delete_postsReset (c : Component) {systemUri storageUri : Value} {path : String}
    (hpath : c.power.client.target systemUri = .ok path) (state : Value) :
    (c.perform (.delete state)).Spec fun _ _ _ evs => ∀ D, withDefaults state = .ok D →
      LeadsToHost D systemUri storageUri → PostsReset c.power.client systemUri evs := by
  refine (c.perform_spec (c.phase_host_spec systemUri storageUri) (.delete state)).mono
    fun _ _ _ evs h D hD hlead => ?_
  rcases h with ⟨rfl, -⟩ | ⟨D', P, r', hD', -, hrun, -⟩
  · exact PostsReset.of_changes_nil rfl
  rw [show (Verb.delete state).desired = state from rfl, hD] at hD'
  cases hD'
  exact (hrun.with_request fun _ _ _ _ _ h => h.1.request_eq).delete_postsReset rfl hlead hpath

/-! ## A volume under its controller and system -/

/-- The filled-in state `D` names, by its `id`, the volume `V` of the controller `C` of the
system at `S`, and names no system of its own. -/
def NamesVolume (D : Value) (S C V : String) : Prop :=
  D.getOr "id" = .ok (.str (S ++ "/Storage/" ++ C ++ "/Volumes/" ++ V)) ∧
    ∃ v, D.getOr "system_id" = .ok v ∧ v.truthy = false

/-- A state that names the volume `V` of the controller `C` of the system at `S` leads to that
controller and that system, when the system's URI is not empty and neither segment has a
slash. -/
theorem NamesVolume.leadsToHost {D : Value} {S C V : String} (h : NamesVolume D S C V)
    (hS : S ≠ "") (hC : '/' ∉ C.toList) (hV : '/' ∉ V.toList) :
    LeadsToHost D (.str S) (.str (S ++ "/Storage/" ++ C)) :=
  ⟨_, h.1, by simp [Value.truthy], parentUri_volumeUri S C hV, parentUri_storageUri hS hC, h.2⟩

/-- What a delete makes of its volume's URI, for the system at `S`, the controller segment `C`
and the volume segment `V`. -/
structure FollowsVolumeUri (c : Component) (S C V : String) : Prop where
  /-- Discovery from a state that names the volume at `S/Storage/C/Volumes/V` and no system notes
  the controller `S/Storage/C` and the system `S`, and its one read is the apply-time read of
  `S/Storage/C/Volumes`. -/
  derives : c.discoverDelete.Spec fun st _ st' evs => NamesVolume st.progress.desired S C V →
    lookup st'.progress.discovered "storage_uri" = some (.str (S ++ "/Storage/" ++ C)) ∧
    lookup st'.progress.discovered "system_uri" = some (.str S) ∧
    ∃ path answer, c.client.target (.str (S ++ "/Storage/" ++ C ++ "/Volumes")) = .ok path ∧
      evs = [.exchange { method := .get, path, payload := .null } answer]
  /-- Every POST of a delete of such a state resets the system at `S`. -/
  resets : ∀ state, (c.perform (.delete state)).Spec fun _ _ _ evs =>
    ∀ D, withDefaults state = .ok D → NamesVolume D S C V → PostsReset c.power.client (.str S) evs
  /-- An `id` with `/Volumes/` nowhere but at its start is refused as a failed precondition
  before any request. -/
  refuses : c.discoverDelete.Spec fun st r _ evs => ∀ s,
    st.progress.desired.getOr "id" = .ok (.str s) → (∀ a b, s = a ++ "/Volumes/" ++ b → a = "") →
    evs = [] ∧ ∃ f, r = .error f ∧ f.cls? = some .precondition

/-- **A delete follows its volume's URI**: for a system URI `S` that is not empty and controller
and volume segments `C` and `V` without a slash, a delete of the volume at
`S/Storage/C/Volumes/V` checks its apply time at `S/Storage/C/Volumes` and resets `S`, and an
`id` that holds `/Volumes/` nowhere but at its start is refused before any request. -/
theorem Component.delete_follows_volume_uri (c : Component) (S C V : String) (hS : S ≠ "")
    (hC : '/' ∉ C.toList) (hV : '/' ∉ V.toList) : FollowsVolumeUri c S C V where
  derives := (c.discoverDelete_derived _ _).mono fun _ _ _ _ h hnames =>
    let ⟨hsystem, hstorage, hread⟩ := h (hnames.leadsToHost hS hC hV)
    ⟨hstorage, hsystem, hread⟩
  resets state := by
    obtain ⟨path, hpath⟩ := c.power.client.target_str S
    exact (c.delete_postsReset hpath state).mono fun _ _ _ _ h D hD hnames =>
      h D hD (hnames.leadsToHost hS hC hV)
  refuses := c.discoverDelete_refused

/-- The volume `Disk.Virtual.0:RAID.Integrated.1-1` of the controller `RAID.Integrated.1-1` of
the system `System.Embedded.1`, deleted by a component of one controller. -/
theorem Component.delete_follows_volume_uri_embedded :
    let client : Client :=
      { baseUrl := "https://192.168.2.230", auth := none, verify := .bool false,
        timeout := .int 30, headers := [] }
    let c : Component :=
      { config := [], componentId := .null, endpoint := .str "192.168.2.230", client,
        poller := { client, interval := .int 10 }, power := { client, interval := .int 10 },
        reconciler := { client, fields := [], preserved := [] } }
    "/redfish/v1/Systems/System.Embedded.1" ≠ "" ∧ '/' ∉ "RAID.Integrated.1-1".toList ∧
      '/' ∉ "Disk.Virtual.0:RAID.Integrated.1-1".toList ∧
      FollowsVolumeUri c "/redfish/v1/Systems/System.Embedded.1" "RAID.Integrated.1-1"
        "Disk.Virtual.0:RAID.Integrated.1-1" := by
  intro client c
  have hS : "/redfish/v1/Systems/System.Embedded.1" ≠ "" := by simp
  have hC : '/' ∉ "RAID.Integrated.1-1".toList := by simp
  have hV : '/' ∉ "Disk.Virtual.0:RAID.Integrated.1-1".toList := by simp
  exact ⟨hS, hC, hV, Component.delete_follows_volume_uri c _ _ _ hS hC hV⟩

end VolumeLifecycle.Lifecycle
