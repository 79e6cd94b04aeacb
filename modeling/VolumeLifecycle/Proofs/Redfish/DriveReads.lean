import VolumeLifecycle.Proofs.Redfish.Listing
import VolumeLifecycle.Proofs.Site.Clock
/-!
# VolumeLifecycle.Proofs.Redfish.DriveReads

**The reads behind the drives of a new volume.** Besides the desired state, a create sends what
the reads of the client found: the storage controller, its drives, and whether the server takes
the drives of a volume under `Links`.

* `Client.storageController_answered` — the controller found for an `Id` is one that a GET was
  answered with, a member of the system's storage collection.
* `Client.drives_listed` — the drives are read one GET each, in the order the controller lists
  them under `Drives`; a reference without an `@odata.id` is skipped (`DriveReads`).
* `Client.seventeenOrLater_read` — the generation is read off the model of the first manager
  (`GenerationRead`), and the answer is whether it is a number of at least 17
  (`fromSeventeen`).
-/

namespace VolumeLifecycle.Redfish

open VolumeLifecycle.Value

variable {α β : Type}

/-- A lookup, then an action that may assume what the lookup gave: the lookup adds no event. -/
theorem Act.Spec.ofExcept_bind {x : Except Failure α} {f : α → Act β}
    {R : Except Failure β → List Event → Prop} (hf : ∀ a, x = .ok a → (f a).Spec R)
    (herr : ∀ g, x = .error g → R (.error g) []) : (Act.ofExcept x >>= f).Spec R := by
  cases x with
  | ok a => exact hf a rfl
  | error g => exact Act.spec_throw g (herr g rfl)

/-! ## The drives of a controller -/

/-- The references a storage controller lists under `Drives`. -/
def driveRefs (storage : Value) : Except Failure (List Value) := do
  (← storage.getOr "Drives" (.list [])).members

/-- The reads of the drives a list of references names: a reference with an `@odata.id` is
read, and answered with the drive; one without is skipped. -/
inductive DriveReads (c : Client) : List Value → List Value → List Event → Prop
  | nil : DriveReads c [] [] []
  | skip {ref : Value} {refs drives : List Value} {evs : List Event} :
      ref.contains (.str "@odata.id") = .ok false →
      DriveReads c refs drives evs → DriveReads c (ref :: refs) drives evs
  | read {ref uri drive : Value} {refs drives : List Value} {e : Event} {evs : List Event} :
      ref.contains (.str "@odata.id") = .ok true → ref.field "@odata.id" = .ok uri →
      c.Answered uri drive e →
      DriveReads c refs drives evs → DriveReads c (ref :: refs) (drive :: drives) (e :: evs)

/-- The drives `drives` of the controller `storage` were read with the events `evs`, in the
order it lists them. -/
def Client.DrivesListed (c : Client) (storage : Value) (drives : List Value)
    (evs : List Event) : Prop :=
  ∃ refs, driveRefs storage = .ok refs ∧ DriveReads c refs drives evs

section Drives

variable (c : Client)

/-- One reference of a controller: skipped, or its drive read and added. -/
theorem Client.driveStep_spec (acc : List Value) (ref : Value) :
    (do
      if ← Act.ofExcept (ref.contains (.str "@odata.id")) then
        pure (acc ++ [← c.get (← Act.ofExcept (ref.field "@odata.id"))])
      else pure acc : Act (List Value)).Spec
      fun r evs => ∀ acc', r = .ok acc' →
        (ref.contains (.str "@odata.id") = .ok false ∧ acc' = acc ∧ evs = []) ∨
        (ref.contains (.str "@odata.id") = .ok true ∧ ∃ uri drive e,
          ref.field "@odata.id" = .ok uri ∧ acc' = acc ++ [drive] ∧ evs = [e] ∧
          c.Answered uri drive e) := by
  refine Act.Spec.bind (Act.ofExcept_spec _) (S := fun present r evs => ∀ acc', r = .ok acc' →
      (present = false ∧ acc' = acc ∧ evs = []) ∨
      (present = true ∧ ∃ uri drive e, ref.field "@odata.id" = .ok uri ∧ acc' = acc ++ [drive] ∧
        evs = [e] ∧ c.Answered uri drive e))
    (fun present => ?_) ?_ fun _ _ _ _ h => by cases h
  · cases present
    · exact Act.spec_pure _ fun acc' h => .inl ⟨rfl, by cases h; rfl, rfl⟩
    -- the drive is read at its `@odata.id`
    refine Act.Spec.bind (Act.ofExcept_spec (ref.field "@odata.id"))
      (S := fun uri r evs => ∀ acc', r = .ok acc' →
        ∃ drive e, acc' = acc ++ [drive] ∧ evs = [e] ∧ c.Answered uri drive e)
      (fun uri => ?_) ?_ fun _ _ _ _ h => by cases h
    · refine Act.Spec.bind (c.get_answered uri) (fun drive => Act.pure_spec (acc ++ [drive])) ?_
        fun _ _ _ _ h => by cases h
      intro drive r e₁ e₂ hget ⟨hr, he₂⟩ acc' hacc
      obtain ⟨e, he₁, hans⟩ := hget drive rfl
      subst hr he₂ he₁
      cases hacc
      exact ⟨drive, e, rfl, rfl, hans⟩
    · intro uri r e₁ e₂ ⟨huri, he₁⟩ hread acc' hacc
      obtain ⟨drive, e, rfl, rfl, hans⟩ := hread acc' hacc
      subst he₁
      exact .inr ⟨rfl, uri, drive, e, huri.symm, rfl, rfl, hans⟩
  · intro present r e₁ e₂ ⟨hpresent, he₁⟩ hstep acc' hacc
    subst he₁
    rw [← hpresent, List.nil_append]
    rcases hstep acc' hacc with ⟨rfl, hskip⟩ | ⟨rfl, hread⟩
    · exact .inl ⟨rfl, hskip⟩
    · exact .inr ⟨rfl, hread⟩

/-- **The fold over the references reads the drives they name**, one after the other. -/
theorem Client.driveFold_spec (refs acc : List Value) :
    (refs.foldlM (fun (acc : List Value) (ref : Value) => do
      if ← Act.ofExcept (ref.contains (.str "@odata.id")) then
        pure (acc ++ [← c.get (← Act.ofExcept (ref.field "@odata.id"))])
      else pure acc) acc : Act (List Value)).Spec
      fun r evs => ∀ drives, r = .ok drives →
        ∃ read, drives = acc ++ read ∧ DriveReads c refs read evs := by
  induction refs generalizing acc with
  | nil => exact Act.spec_pure acc fun drives h => ⟨[], by cases h; simp, .nil⟩
  | cons ref refs ih =>
    rw [List.foldlM_cons]
    refine Act.Spec.bind (c.driveStep_spec acc ref) (fun acc' => ih acc') ?_
      fun _ _ _ _ h => by cases h
    intro acc' r e₁ e₂ hstep hrest drives hdrives
    obtain ⟨read, rfl, hreads⟩ := hrest drives hdrives
    rcases hstep acc' rfl with ⟨hskip, rfl, rfl⟩ | ⟨hpresent, uri, drive, e, huri, rfl, rfl, hans⟩
    · exact ⟨read, rfl, .skip hskip hreads⟩
    · exact ⟨drive :: read, by simp, .read hpresent huri hans hreads⟩

/-- **The drives of a controller are read in the order it lists them**: one GET per reference
under `Drives` that has an `@odata.id`. -/
theorem Client.drives_listed (storage : Value) :
    (c.drives storage).Spec fun r evs => ∀ drives, r = .ok drives →
      c.DrivesListed storage drives evs := by
  unfold Client.drives
  refine Act.Spec.bind (Act.ofExcept_spec (driveRefs storage)) (fun refs => c.driveFold_spec refs [])
    ?_ fun _ _ _ _ h => by cases h
  intro refs r e₁ e₂ ⟨hrefs, he₁⟩ hfold drives hdrives
  obtain ⟨read, hread, hreads⟩ := hfold drives hdrives
  subst he₁
  rw [List.nil_append] at hread
  subst hread
  exact ⟨refs, hrefs.symm, hreads⟩

end Drives

/-! ## The controller of the drives -/

section Controller

variable (c : Client)

/-- The storage controllers of a system are the members of its storage collection, read in
the order it lists them. -/
theorem Client.storageControllers_listed (system : Value) :
    (c.storageControllers system).Spec fun r evs => ∀ controllers, r = .ok controllers →
      ∃ uri, c.Listed uri controllers evs := by
  unfold Client.storageControllers
  refine Act.Spec.ofExcept_bind (fun storage _ => ?_) fun _ _ _ h => by cases h
  refine Act.Spec.ofExcept_bind (fun uri _ => ?_) fun _ _ _ h => by cases h
  have hlisted : ∀ uri, (c.members uri).Spec fun r evs => ∀ controllers, r = .ok controllers →
      ∃ uri, c.Listed uri controllers evs :=
    fun uri => (c.members_listed uri).mono fun _ _ h controllers hc => ⟨uri, h controllers hc⟩
  split
  · rw [pure_bind]
    exact hlisted uri
  · dsimp only
    refine Act.Spec.ofExcept_bind (fun own _ => ?_) fun _ _ _ h => by cases h
    rw [pure_bind]
    exact hlisted _

/-- One controller of the search: kept when none was found yet and its `Id` is the one asked
for. -/
theorem controllerStep_spec (controllerId found ctl : Value) :
    (do
      if found matches .null then
        if same (← Act.ofExcept (ctl.getOr "Id")) controllerId then pure ctl else pure .null
      else pure found : Act Value).Spec fun r _ => ∀ v, r = .ok v →
        v = found ∨ v = .null ∨ v = ctl := by
  split
  · refine Act.Spec.ofExcept_bind (fun i _ => ?_) fun _ _ _ h => by cases h
    split
    · exact Act.spec_pure _ fun v h => by cases h; exact .inr (.inr rfl)
    · exact Act.spec_pure _ fun v h => by cases h; exact .inr (.inl rfl)
  · exact Act.spec_pure _ fun v h => by cases h; exact .inl rfl

/-- The search through the controllers returns what it started from, `null`, or one of the
controllers. -/
theorem controllerFold_spec (controllerId : Value) (controllers : List Value)
    (found : Value) :
    (controllers.foldlM (fun found ctl => do
      if found matches .null then
        if same (← Act.ofExcept (ctl.getOr "Id")) controllerId then pure ctl else pure .null
      else pure found) found : Act Value).Spec fun r _ => ∀ v, r = .ok v →
        v = found ∨ v = .null ∨ v ∈ controllers := by
  induction controllers generalizing found with
  | nil => exact Act.spec_pure found fun v h => by cases h; exact .inl rfl
  | cons ctl rest ih =>
    rw [List.foldlM_cons]
    refine Act.Spec.bind (controllerStep_spec controllerId found ctl) (fun found' => ih found')
      ?_ fun _ _ _ _ h => by cases h
    intro found' r e₁ e₂ hstep hrest v hv
    -- what the step kept, then what the rest of the search kept
    rcases hrest v hv with rfl | rfl | hmem
    · rcases hstep v rfl with rfl | rfl | rfl
      · exact .inl rfl
      · exact .inr (.inl rfl)
      · exact .inr (.inr List.mem_cons_self)
    · exact .inr (.inl rfl)
    · exact .inr (.inr (List.mem_cons_of_mem _ hmem))

/-- **The controller found was answered by the controller**: it is `null`, or one of the
members of the system's storage collection, read with one of the events. -/
theorem Client.storageController_answered (system controllerId : Value) :
    (c.storageController system controllerId).Spec fun r evs => ∀ storage,
      r = .ok storage → storage = .null ∨ ∃ uri e, e ∈ evs ∧ c.Answered uri storage e := by
  unfold Client.storageController
  refine Act.Spec.bind (c.storageControllers_listed system)
    (fun controllers => controllerFold_spec controllerId controllers .null) ?_
    fun _ _ _ _ h => by cases h
  intro controllers r e₁ e₂ hlisted hfold storage hstorage
  obtain ⟨uri, hlisted⟩ := hlisted controllers rfl
  rcases hfold storage hstorage with rfl | rfl | hmem
  · exact .inl rfl
  · exact .inl rfl
  · obtain ⟨uri', e, he, hans⟩ := hlisted.answered hmem
    exact .inr ⟨uri', e, List.mem_append_left _ he, hans⟩

end Controller

/-! ## The generation of the server -/

/-- The generation read off the managers `members` that a collection lists, with the events
`evs`: `null` with no manager, else the one that the model of the first manager names. -/
inductive ModelRead (c : Client) (members : Value) : Value → List Event → Prop
  | unmanaged : members.truthy = false → ModelRead c members .null []
  | managed {first uri manager model generation : Value} {e : Event} :
      members.truthy = true → members.item 0 = .ok first → first.field "@odata.id" = .ok uri →
      c.Answered uri manager e → manager.getOr "Model" (.str "") = .ok model →
      generationOf (if model.truthy then model else .str "") = .ok generation →
      ModelRead c members generation [e]

/-- The server's generation `generation` was read with the events `evs`: the collection of
managers, then the first manager it lists. -/
def Client.GenerationRead (c : Client) (generation : Value) (evs : List Event) : Prop :=
  ∃ managers members e rest, evs = e :: rest ∧
    c.Answered (.str s!"{serviceRoot}/Managers") managers e ∧
    managers.getOr "Members" (.list []) = .ok members ∧ ModelRead c members generation rest

/-- Whether a generation is 17 or later: only a number is. -/
def fromSeventeen : Value → Bool
  | .int n => decide (17 ≤ n)
  | _ => false

/-- A model names a generation by a number, or names none. -/
theorem generationOf_shape {model generation : Value} (h : generationOf model = .ok generation) :
    generation = .null ∨ ∃ n, generation = .int n := by
  unfold generationOf at h
  split at h
  · simp only [pure_bind] at h
    split at h
    · split at h
      · cases h
      · cases h
        exact .inr ⟨_, rfl⟩
    · cases h
      exact .inl rfl
  · cases h

theorem Client.GenerationRead.shape {c : Client} {generation : Value} {evs : List Event}
    (h : c.GenerationRead generation evs) : generation = .null ∨ ∃ n, generation = .int n := by
  obtain ⟨_, _, _, _, -, -, -, hmodel⟩ := h
  cases hmodel with
  | unmanaged => exact .inl rfl
  | managed _ _ _ _ _ hgen => exact generationOf_shape hgen

section Generation

variable (c : Client)

/-- **The generation is read off the model of the first manager**, with one GET of the
managers and, when there is one, one GET of the first. -/
theorem Client.serverGeneration_read :
    c.serverGeneration.Spec fun r evs => ∀ generation, r = .ok generation →
      c.GenerationRead generation evs := by
  unfold Client.serverGeneration
  refine Act.Spec.bind (c.get_answered _) (S := fun managers r evs => ∀ generation,
      r = .ok generation → ∃ members, managers.getOr "Members" (.list []) = .ok members ∧
        ModelRead c members generation evs)
    (fun managers => ?_) ?_ fun _ _ _ _ h => by cases h
  · refine Act.Spec.ofExcept_bind (fun members hmembers => ?_) fun _ _ _ h => by cases h
    refine Act.Spec.mono (Q := fun r evs => ∀ generation, r = .ok generation →
      ModelRead c members generation evs) ?_ fun r evs h generation hg =>
        ⟨members, hmembers, h generation hg⟩
    split
    · rename_i hnone
      exact Act.spec_pure _ fun generation h => by
        cases h
        exact .unmanaged (by simpa using hnone)
    rename_i hsome
    -- the first manager, and the generation its model names
    refine Act.Spec.ofExcept_bind (fun first hfirst => ?_) fun _ _ _ h => by cases h
    refine Act.Spec.ofExcept_bind (fun uri huri => ?_) fun _ _ _ h => by cases h
    refine Act.Spec.bind (c.get_answered uri) (S := fun manager r evs => ∀ generation,
        r = .ok generation → ∃ model, manager.getOr "Model" (.str "") = .ok model ∧
          generationOf (if model.truthy then model else .str "") = .ok generation ∧ evs = [])
      (fun manager => ?_) ?_ fun _ _ _ _ h => by cases h
    · refine Act.Spec.ofExcept_bind (fun model hmodel => ?_) fun _ _ _ h => by cases h
      exact Act.spec_ofExcept _ fun generation hg => ⟨model, hmodel, hg, rfl⟩
    · intro manager r e₁ e₂ hget hrest generation hg
      obtain ⟨e, rfl, hans⟩ := hget manager rfl
      obtain ⟨model, hmodel, hgen, rfl⟩ := hrest generation hg
      exact .managed (by simpa using hsome) hfirst huri hans hmodel hgen
  · intro managers r e₁ e₂ hget hrest generation hg
    obtain ⟨e, rfl, hans⟩ := hget managers rfl
    obtain ⟨members, hmembers, hmodel⟩ := hrest generation hg
    exact ⟨managers, members, e, e₂, rfl, hans, hmembers, hmodel⟩

/-- **The drives of a new volume go under `Links` exactly from generation 17 on**: the answer
is whether the generation read is a number of at least 17. -/
theorem Client.seventeenOrLater_read :
    c.seventeenOrLater.Spec fun r evs => ∀ inLinks, r = .ok inLinks →
      ∃ generation, c.GenerationRead generation evs ∧ inLinks = fromSeventeen generation := by
  unfold Client.seventeenOrLater
  refine Act.Spec.bind c.serverGeneration_read (S := fun generation r evs => evs = [] ∧
      ((generation = .null ∨ ∃ n, generation = .int n) →
        ∀ inLinks, r = .ok inLinks → inLinks = fromSeventeen generation))
    (fun generation => ?_) ?_ fun _ _ _ _ h => by cases h
  · split
    · exact Act.spec_pure _ ⟨rfl, fun _ inLinks h => by cases h; rfl⟩
    · rename_i generation hnull
      refine Act.spec_ofExcept _ ⟨rfl, fun hshape inLinks h => ?_⟩
      obtain ⟨n, rfl⟩ := hshape.resolve_left hnull
      rw [atMost_int] at h
      cases h
      rfl
  · intro generation r e₁ e₂ hread ⟨he₂, hr⟩ inLinks h
    subst he₂
    have hgen := hread generation rfl
    exact ⟨generation, by rw [List.append_nil]; exact hgen, hr hgen.shape inLinks h⟩

end Generation

end VolumeLifecycle.Redfish
