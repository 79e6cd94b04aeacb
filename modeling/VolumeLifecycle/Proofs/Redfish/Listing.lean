import VolumeLifecycle.Proofs.Redfish.Reads
/-!
# VolumeLifecycle.Proofs.Redfish.Listing

**Reads and their answers.** `Client.Answered` says that an event is a GET of a URI answered
with status 200 and a given body; a read that returns a body made exactly such an event
(`Client.get_answered`). Listing a collection (`Client.members`) is one such read of the
collection and then one per member it references with a true `@odata.id`, in order
(`Client.Listed`, `Client.members_listed`).

The other way round, a read is determined by its answer. A controller is described by the
answer `A` it gives to each call; when every answer a run receives is `A`'s (`AnsweredBy`) and
`A` answers the GET of a URI with status 200 and a body (`Client.AnswersGet`), the read of that
URI returns the body (`Client.get_by`).
-/

namespace VolumeLifecycle.Redfish

open VolumeLifecycle.Value

/-! ## Listing a collection -/

/-- The event `e` is a GET of `uri` answered with status 200 and the body `v`. -/
def Client.Answered (c : Client) (uri v : Value) (e : Event) : Prop :=
  ∃ path response, c.target uri = .ok path ∧
    e = .exchange { method := .get, path, payload := .null } (.ok response) ∧
    response.status = 200 ∧ response.json = .ok v

/-- The references a collection lists under `Members`. -/
def memberRefs (collection : Value) : Except Failure (List Value) := do
  (← collection.getOr "Members" (.list [])).members

/-- The reads of the members a list of references names: a reference whose `@odata.id` is
true is read, and answered with the member; one whose `@odata.id` is not is skipped. -/
inductive MemberReads (c : Client) : List Value → List Value → List Event → Prop
  | nil : MemberReads c [] [] []
  | skip {ref target : Value} {refs vs : List Value} {evs : List Event} :
      ref.getOr "@odata.id" = .ok target → target.truthy = false →
      MemberReads c refs vs evs → MemberReads c (ref :: refs) vs evs
  | read {ref target v : Value} {refs vs : List Value} {e : Event} {evs : List Event} :
      ref.getOr "@odata.id" = .ok target → target.truthy = true → c.Answered target v e →
      MemberReads c refs vs evs → MemberReads c (ref :: refs) (v :: vs) (e :: evs)

/-- The members `vs` of the collection at `uri` were read with the events `evs`: the
collection first, then its members in the order it lists them. -/
def Client.Listed (c : Client) (uri : Value) (vs : List Value) (evs : List Event) : Prop :=
  ∃ collection e refs reads, evs = e :: reads ∧ c.Answered uri collection e ∧
    memberRefs collection = .ok refs ∧ MemberReads c refs vs reads

/-- Every answer received with the events `evs` is the answer `A` gives to the same call. -/
def AnsweredBy (A : Call → Except Failure Response) (evs : List Event) : Prop :=
  ∀ call answer, Event.exchange call answer ∈ evs → answer = A call

/-- `A` answers the GET of `uri` with status 200 and the body `v`. -/
def Client.AnswersGet (c : Client) (A : Call → Except Failure Response) (uri v : Value) : Prop :=
  ∃ path response, c.target uri = .ok path ∧
    A { method := .get, path, payload := .null } = .ok response ∧
    response.status = 200 ∧ response.json = .ok v

theorem AnsweredBy.left {A : Call → Except Failure Response} {e₁ e₂ : List Event}
    (h : AnsweredBy A (e₁ ++ e₂)) : AnsweredBy A e₁ :=
  fun call answer m => h call answer (List.mem_append_left e₂ m)

theorem AnsweredBy.right {A : Call → Except Failure Response} {e₁ e₂ : List Event}
    (h : AnsweredBy A (e₁ ++ e₂)) : AnsweredBy A e₂ :=
  fun call answer m => h call answer (List.mem_append_right e₁ m)

section Listing

variable (c : Client)

theorem Client.get_answered (uri : Value) :
    (c.get uri).Spec fun r evs => ∀ v, r = .ok v → ∃ e, evs = [e] ∧ c.Answered uri v e :=
  (c.get_spec uri).mono fun _ _ h v hv => by
    obtain ⟨path, response, ht, he, hs, hj⟩ := h v hv
    exact ⟨_, he, path, response, ht, rfl, hs, hj⟩

/-- **A read is determined by its answer**: answered with status 200 and a body, it returns the
body. -/
theorem Client.get_by {A : Call → Except Failure Response} {uri v : Value}
    (hA : c.AnswersGet A uri v) :
    (c.get uri).Spec fun r evs => AnsweredBy A evs → r = .ok v := by
  obtain ⟨path, response, hpath, hanswer, hstatus, hjson⟩ := hA
  unfold Client.get
  dsimp only
  simp only [Act.fail_bind]
  refine Act.Spec.bind (c.send_spec .get uri .null)
    (S := fun response' res _ => response' = response → res = .ok v) (fun response' => ?_) ?_ ?_
  · split
    · rename_i hbad
      exact (requestFailure_fail_spec _ response' uri).mono fun _ _ _ h => by
        subst h
        simp [hstatus] at hbad
    · exact Act.spec_ofExcept _ fun h => by rw [h, hjson]
  · -- the answer received is the send's own result
    intro response' res e₁ e₂ ⟨_, hsend⟩ hrest hby
    rcases hsend with ⟨f, hf, -, -⟩ | ⟨path', hpath', rfl⟩
    · rw [hpath] at hf
      cases hf
    · rw [hpath] at hpath'
      cases hpath'
      have h := hby _ _ (List.mem_append_left e₂ (List.mem_singleton_self _))
      rw [hanswer] at h
      cases h
      exact hrest rfl
  · intro f e ⟨_, hsend⟩ hby
    rcases hsend with ⟨f', hf, -, -⟩ | ⟨path', hpath', rfl⟩
    · rw [hpath] at hf
      cases hf
    · rw [hpath] at hpath'
      cases hpath'
      have h := hby _ _ (List.mem_singleton_self _)
      rw [hanswer] at h
      cases h

/-- One reference of a collection: skipped, or its member read and added. -/
theorem Client.memberStep_spec (acc : List Value) (ref : Value) :
    (do
      let target ← Act.ofExcept (ref.getOr "@odata.id")
      if target.truthy then pure (acc ++ [← c.get target]) else pure acc : Act (List Value)).Spec
      fun r evs => ∀ acc', r = .ok acc' → ∃ target, ref.getOr "@odata.id" = .ok target ∧
        ((target.truthy = false ∧ acc' = acc ∧ evs = []) ∨
         (target.truthy = true ∧ ∃ v e, acc' = acc ++ [v] ∧ evs = [e] ∧ c.Answered target v e)) := by
  refine Act.Spec.bind (Act.ofExcept_spec _) (S := fun target r evs => ∀ acc', r = .ok acc' →
      (target.truthy = false ∧ acc' = acc ∧ evs = []) ∨
      (target.truthy = true ∧ ∃ v e, acc' = acc ++ [v] ∧ evs = [e] ∧ c.Answered target v e))
    (fun target => ?_) ?_ fun _ _ _ _ h => nomatch h
  · cases htruthy : target.truthy
    · exact Act.spec_pure _ fun acc' h => .inl ⟨rfl, by cases h; rfl, rfl⟩
    · refine Act.Spec.bind (c.get_answered target) (fun v => Act.pure_spec (acc ++ [v])) ?_
        fun _ _ _ _ h => nomatch h
      intro v r e₁ e₂ hget ⟨hr, he₂⟩ acc' hacc
      obtain ⟨e, he₁, hans⟩ := hget v rfl
      subst hr he₂ he₁
      cases hacc
      exact .inr ⟨rfl, v, e, rfl, rfl, hans⟩
  · intro target r e₁ e₂ ⟨ht, he₁⟩ hstep acc' hacc
    subst he₁
    exact ⟨target, ht.symm, hstep acc' hacc⟩

/-- **The fold over the references reads the members they name**, one after the other. -/
theorem Client.memberFold_spec (refs acc : List Value) :
    (refs.foldlM (fun (acc : List Value) (ref : Value) => do
      let target ← Act.ofExcept (ref.getOr "@odata.id")
      if target.truthy then pure (acc ++ [← c.get target]) else pure acc) acc :
        Act (List Value)).Spec
      fun r evs => ∀ vs, r = .ok vs → ∃ read, vs = acc ++ read ∧ MemberReads c refs read evs := by
  induction refs generalizing acc with
  | nil => exact Act.spec_pure acc fun vs h => ⟨[], by cases h; simp, .nil⟩
  | cons ref refs ih =>
    rw [List.foldlM_cons]
    refine Act.Spec.bind (c.memberStep_spec acc ref) (fun acc' => ih acc') ?_
      fun _ _ _ _ h => nomatch h
    intro acc' r e₁ e₂ hstep hrest vs hvs
    obtain ⟨read, rfl, hreads⟩ := hrest vs hvs
    obtain ⟨target, ht, ⟨hskip, rfl, rfl⟩ | ⟨hread, v, e, rfl, rfl, hans⟩⟩ := hstep acc' rfl
    · exact ⟨read, rfl, .skip ht hskip hreads⟩
    · exact ⟨v :: read, by simp, .read ht hread hans hreads⟩

/-- **Reading the members of a collection lists them**: one GET of the collection, then one
GET per reference with a true `@odata.id`, in order. -/
theorem Client.members_listed (uri : Value) :
    (c.members uri).Spec fun r evs => ∀ vs, r = .ok vs → c.Listed uri vs evs := by
  unfold Client.members
  refine Act.Spec.bind (c.get_answered uri) (S := fun collection r evs => ∀ vs, r = .ok vs →
      ∃ refs, memberRefs collection = .ok refs ∧ MemberReads c refs vs evs)
    (fun collection => ?_) ?_ fun _ _ _ _ h => nomatch h
  · refine Act.Spec.bind (Act.ofExcept_spec (memberRefs collection))
      (fun refs => c.memberFold_spec refs []) ?_ fun _ _ _ _ h => nomatch h
    intro refs r e₁ e₂ ⟨hrefs, he₁⟩ hfold vs hvs
    obtain ⟨read, hread, hreads⟩ := hfold vs hvs
    subst he₁
    rw [List.nil_append] at hread
    subst hread
    exact ⟨refs, hrefs.symm, hreads⟩
  · intro collection r e₁ e₂ hget hrest vs hvs
    obtain ⟨e, rfl, hans⟩ := hget collection rfl
    obtain ⟨refs, hrefs, hreads⟩ := hrest vs hvs
    exact ⟨collection, e, refs, e₂, rfl, hans, hrefs, hreads⟩

/-- Every member read while listing was a GET answered with it. -/
theorem MemberReads.answered {c : Client} {refs vs : List Value} {evs : List Event}
    (h : MemberReads c refs vs evs) {v : Value} (hv : v ∈ vs) :
    ∃ uri e, e ∈ evs ∧ c.Answered uri v e := by
  induction h with
  | nil => cases hv
  | skip _ _ _ ih => exact ih hv
  | read _ _ hans _ ih =>
    rcases List.mem_cons.mp hv with rfl | hv
    · exact ⟨_, _, List.mem_cons_self, hans⟩
    · obtain ⟨uri, e, he, h⟩ := ih hv
      exact ⟨uri, e, List.mem_cons_of_mem _ he, h⟩

/-- Every member of a listing was answered by one of its GETs. -/
theorem Client.Listed.answered {c : Client} {uri : Value} {vs : List Value} {evs : List Event}
    (h : c.Listed uri vs evs) {v : Value} (hv : v ∈ vs) :
    ∃ uri' e, e ∈ evs ∧ c.Answered uri' v e := by
  obtain ⟨_, _, _, reads, rfl, -, -, hreads⟩ := h
  obtain ⟨uri', e, he, hans⟩ := hreads.answered hv
  exact ⟨uri', e, List.mem_cons_of_mem _ he, hans⟩

end Listing

end VolumeLifecycle.Redfish
