import VolumeLifecycle.Proofs.Redfish.Listing
import VolumeLifecycle.Proofs.Lifecycle.Actions
import VolumeLifecycle.Proofs.Document.Entries
/-!
# VolumeLifecycle.Proofs.Lifecycle.ReadBack

**Reading a volume back into a state.** After a job, the state is read back from the volume the
controller reports: found by name in a listing (`Reconciler.findVolume_first`, the first volume
of that name), then reconciled. Reconciling is described by a relation on entries,
`ReadBackEntries`: the `id` becomes the volume's `@odata.id`, each field written back takes the
value the volume reports (`ReadBack.readFrom`; the drives by the names of the drives the volume
references), and every other entry is kept.

Both ways round:

* what reconciling returns is read back in that sense, and the drives it named were read with
  the run's events (`Reconciler.reconcile_readBack`);
* reconciling is determined by the controller's answers: when the drives are answered as
  `DriveAnswers` says and every field can be read, reconciling returns the state read back
  (`Reconciler.reconcile_by`), an instance of `Reconciler.reconcile_inv`, which carries every
  invariant that writing one field read back preserves.
-/

namespace VolumeLifecycle.Lifecycle

open VolumeLifecycle.Redfish VolumeLifecycle.Value

/-! ## The first volume of a name -/

/-- `v` is the first of the volumes `vs` whose `Name` is `name`: every volume before it has a
`Name`, and a different one. -/
def FirstNamed (name : Value) (vs : List Value) (v : Value) : Prop :=
  ∃ before after, vs = before ++ v :: after ∧
    (∃ n, v.getOr "Name" = .ok n ∧ same n name = true) ∧
    ∀ u ∈ before, ∃ n, u.getOr "Name" = .ok n ∧ same n name = false

theorem FirstNamed.head {name v n : Value} (vs : List Value) (hv : v.getOr "Name" = .ok n)
    (hn : same n name = true) : FirstNamed name (v :: vs) v :=
  ⟨[], vs, rfl, ⟨n, hv, hn⟩, nofun⟩

theorem FirstNamed.cons {name u n v : Value} {vs : List Value} (hu : u.getOr "Name" = .ok n)
    (hn : same n name = false) (h : FirstNamed name vs v) : FirstNamed name (u :: vs) v := by
  obtain ⟨before, after, rfl, hv, hbefore⟩ := h
  refine ⟨u :: before, after, rfl, hv, fun w hw => ?_⟩
  rcases List.mem_cons.mp hw with rfl | hw
  · exact ⟨n, hu, hn⟩
  · exact hbefore w hw

/-- The search for a volume by name finds the first volume of that name, and sends nothing. -/
theorem findM?_named_spec (name : Value) (vs : List Value) :
    (vs.findM? (fun (v : Value) => do pure (same (← Act.ofExcept (v.getOr "Name")) name)) :
        Act (Option Value)).Spec
      fun r evs => evs = [] ∧ ∀ v, r = .ok (some v) → FirstNamed name vs v := by
  induction vs with
  | nil => exact Act.spec_pure none ⟨rfl, fun _ h => by cases h⟩
  | cons u rest ih =>
    rw [List.findM?]
    -- the test of `u` reads its name and sends nothing
    have htest : (do pure (same (← Act.ofExcept (u.getOr "Name")) name) : Act Bool).Spec
        fun r evs => evs = [] ∧ ∀ b, r = .ok b → ∃ n, u.getOr "Name" = .ok n ∧ same n name = b :=
      Act.Spec.bind (Act.ofExcept_spec _) (fun n => Act.pure_spec (same n name))
        (fun n _ _ _ hn hr => ⟨by rw [hn.2, hr.2]; rfl,
          fun b hb => ⟨n, hn.1.symm, by rw [hr.1] at hb; cases hb; rfl⟩⟩)
        fun _ _ h => ⟨h.2, fun _ h => by cases h⟩
    refine Act.Spec.bind htest (S := fun found r evs => evs = [] ∧ ∀ v, r = .ok (some v) →
        (found = true ∧ v = u) ∨ (found = false ∧ FirstNamed name rest v))
      (fun found => ?_) ?_ fun _ _ h => ⟨h.1, fun _ h => by cases h⟩
    · cases found
      · exact ih.mono fun _ _ h => ⟨h.1, fun v hv => .inr ⟨rfl, h.2 v hv⟩⟩
      · exact Act.spec_pure _ ⟨rfl, fun v h => by cases h; exact .inl ⟨rfl, rfl⟩⟩
    · intro found r e₁ e₂ htest hrest
      obtain ⟨he₁, hname⟩ := htest
      obtain ⟨he₂, hfound⟩ := hrest
      subst he₁ he₂
      obtain ⟨n, hn, hsame⟩ := hname found rfl
      refine ⟨rfl, fun v hv => ?_⟩
      rcases hfound v hv with ⟨rfl, rfl⟩ | ⟨rfl, hfirst⟩
      · exact FirstNamed.head rest hn hsame
      · exact hfirst.cons hn hsame

/-- **Finding a volume by name lists the controller's volume collection and takes the first
member of that name.** -/
theorem Reconciler.findVolume_first (r : Reconciler) (storageUri name : Value) :
    (r.findVolume storageUri name).Spec fun res evs => ∀ v, res = .ok v → ∃ vs,
      r.client.Listed (.str s!"{storageUri.display}/Volumes") vs evs ∧ FirstNamed name vs v := by
  unfold Reconciler.findVolume Client.volumes
  refine Act.Spec.bind (r.client.members_listed _) (S := fun vs res evs => ∀ v, res = .ok v →
      evs = [] ∧ FirstNamed name vs v) (fun vs => ?_) ?_ fun _ _ _ _ h => nomatch h
  · refine Act.Spec.bind (findM?_named_spec name vs) (S := fun found res evs => evs = [] ∧
        ∀ v, res = .ok v → found = some v) (fun found => ?_) ?_ fun _ _ _ _ h => nomatch h
    · cases found with
      | some v => exact Act.spec_pure v ⟨rfl, fun _ h => by cases h; rfl⟩
      | none => exact Act.spec_fail _ ⟨rfl, fun _ h => nomatch h⟩
    · intro found res e₁ e₂ ⟨he₁, hfirst⟩ ⟨he₂, hfound⟩ v hv
      subst he₁ he₂
      exact ⟨rfl, hfirst v (by rw [hfound v hv])⟩
  · intro vs res e₁ e₂ hlisted hfound v hv
    obtain ⟨rfl, hfirst⟩ := hfound v hv
    exact ⟨vs, by simpa using hlisted vs rfl, hfirst⟩

/-! ## Fields read back -/

/-- The value the field `f` takes when it is read back from `volume`, whose drives are named
`names`. -/
def ReadBack.readFrom (f : ReadBack) (volume : Value) (names : List Value) : Except Failure Value :=
  if f = .drives then .ok (.list names) else f.property volume

/-- A field other than the drives reads the same whatever the drives are named. -/
theorem ReadBack.readFrom_of_ne {f : ReadBack} (hf : f ≠ .drives) (volume : Value)
    (names names' : List Value) : f.readFrom volume names = f.readFrom volume names' := by
  simp [ReadBack.readFrom, hf]

/-- No field that is read back is the `id`. -/
theorem ReadBack.key_ne_id (f : ReadBack) : f.key ≠ "id" := by
  cases f <;> simp [ReadBack.key]

theorem ReadBack.key_inj {f g : ReadBack} (h : f.key = g.key) : f = g := by
  cases f <;> cases g <;> simp_all [ReadBack.key]

/-- The entries `es` are the entries `ses` read back from `volume`, for the fields `done`: the
`id` is the volume's `@odata.id`, each field of `done` has the value read back (the drives named
`names`), and every other key keeps its entry. Distinct keys stay distinct. -/
structure ReadBackEntries (done : List ReadBack) (ses : List (String × Value)) (volume : Value)
    (names : List Value) (es : List (String × Value)) : Prop where
  id : ∃ u, volume.field "@odata.id" = .ok u ∧ lookup es "id" = some u
  read : ∀ f ∈ done, ∃ x, f.readFrom volume names = .ok x ∧ lookup es f.key = some x
  kept : ∀ k, k ≠ "id" → (∀ f ∈ done, f.key ≠ k) → lookup es k = lookup ses k
  nodup : (ses.map Prod.fst).Nodup → (es.map Prod.fst).Nodup

namespace ReadBackEntries

variable {done : List ReadBack} {ses es : List (String × Value)} {volume : Value}
  {names : List Value}

/-- Before any field is read back, only the `id` is set. -/
theorem start {u : Value} (hu : volume.field "@odata.id" = .ok u) :
    ReadBackEntries [] ses volume names (insert ses "id" u) where
  id := ⟨u, hu, by simp⟩
  read := nofun
  kept k hk _ := by rw [lookup_insert, if_neg hk]
  nodup h := insert_nodup h _ _

/-- **Reading one more field back.** The drives may be read under new names; any other field
keeps the names the drives had. -/
theorem insert (h : ReadBackEntries done ses volume names es) {f : ReadBack} {names' : List Value}
    {x : Value} (hx : f.readFrom volume names' = .ok x) (hnames : f ≠ .drives → names' = names) :
    ReadBackEntries (done ++ [f]) ses volume names' (insert es f.key x) where
  id := by
    obtain ⟨u, hu, hid⟩ := h.id
    exact ⟨u, hu, by rw [lookup_insert, if_neg (f.key_ne_id ∘ Eq.symm), hid]⟩
  read g hg := by
    by_cases hkey : g.key = f.key
    · cases ReadBack.key_inj hkey
      exact ⟨x, hx, by simp⟩
    rcases List.mem_append.mp hg with hg | hg
    · obtain ⟨y, hy, hlook⟩ := h.read g hg
      refine ⟨y, ?_, by rw [lookup_insert, if_neg hkey, hlook]⟩
      by_cases hgd : g = .drives
      · -- the drives were read before, so this field is another and keeps their names
        subst hgd
        rw [hnames fun hfd => hkey (by rw [hfd])]
        exact hy
      · rw [ReadBack.readFrom_of_ne hgd volume names' names]
        exact hy
    · rw [List.mem_singleton] at hg
      exact absurd (by rw [hg]) hkey
  kept k hk hnot := by
    rw [lookup_insert, if_neg fun hkf => hnot f (by simp) hkf.symm,
      h.kept k hk fun g hg => hnot g (List.mem_append_left _ hg)]
  nodup hs := insert_nodup (h.nodup hs) _ _

end ReadBackEntries

/-- What lists the drives of a volume: `Links.Drives` when that is true, else `Drives`. -/
def driveList (volume : Value) : Except Failure Value := do
  let links ← volume.getOr "Links" (.dict [])
  let linked ← links.getOr "Drives"
  if linked.truthy then pure linked else
  let direct ← volume.getOr "Drives"
  pure (if direct.truthy then direct else .list [])

/-- The references to the drives of a volume. -/
def driveRefs (volume : Value) : Except Failure (List Value) :=
  driveList volume >>= Value.members

/-- The drives `refs` references are named `names`, as the answers `ans` relates calls to: each
reference with a true `@odata.id` is answered, to a GET of its path, with status 200 and a drive
of that `Name`; the others are skipped. -/
inductive DriveAnswers (c : Client) (ans : Call → Except Failure Response → Prop) :
    List Value → List Value → Prop
  | nil : DriveAnswers c ans [] []
  | skip {ref target : Value} {refs names : List Value} :
      ref.getOr "@odata.id" = .ok target → target.truthy = false →
      DriveAnswers c ans refs names → DriveAnswers c ans (ref :: refs) names
  | read {ref target drive name : Value} {refs names : List Value} {path : String}
      {response : Response} :
      ref.getOr "@odata.id" = .ok target → target.truthy = true → c.target target = .ok path →
      ans { method := .get, path, payload := .null } (.ok response) → response.status = 200 →
      response.json = .ok drive → drive.getOr "Name" = .ok name →
      DriveAnswers c ans refs names → DriveAnswers c ans (ref :: refs) (name :: names)

theorem DriveAnswers.mono {c : Client} {ans ans' : Call → Except Failure Response → Prop}
    (hans : ∀ call answer, ans call answer → ans' call answer) {refs names : List Value}
    (h : DriveAnswers c ans refs names) : DriveAnswers c ans' refs names := by
  induction h with
  | nil => exact .nil
  | skip ht hf _ ih => exact .skip ht hf ih
  | read ht hf hp ha hs hj hn _ ih => exact .read ht hf hp (hans _ _ ha) hs hj hn ih

/-- The drives of `volume` are named `names`, as the events `evs` answered them. -/
def DrivesAnsweredIn (c : Client) (volume : Value) (names : List Value) (evs : List Event) : Prop :=
  ∃ refs, driveRefs volume = .ok refs ∧
    DriveAnswers c (fun call answer => Event.exchange call answer ∈ evs) refs names

/-- The drives of `volume` are named `names`, as `A` answers them. -/
def DrivesAnsweredBy (c : Client) (A : Call → Except Failure Response) (volume : Value)
    (names : List Value) : Prop :=
  ∃ refs, driveRefs volume = .ok refs ∧ DriveAnswers c (fun call answer => A call = answer) refs names

theorem DrivesAnsweredIn.mono {c : Client} {volume : Value} {names : List Value}
    {evs evs' : List Event} (h : DrivesAnsweredIn c volume names evs) (hsub : ∀ e ∈ evs, e ∈ evs') :
    DrivesAnsweredIn c volume names evs' := by
  obtain ⟨refs, hrefs, hans⟩ := h
  exact ⟨refs, hrefs, hans.mono fun _ _ m => hsub _ m⟩

theorem Act.ofExcept_ok {α : Type} (a : α) : Act.ofExcept (.ok a : Except Failure α) = pure a := rfl

/-! ## The names of the drives -/

section Drives

variable (r : Reconciler)

/-- One reference to a drive: skipped, or the drive read and its name added. -/
theorem Reconciler.driveStep_read (acc : List Value) (ref : Value) :
    (do
      let uri ← Act.ofExcept (ref.getOr "@odata.id")
      if uri.truthy then
        let drive ← r.client.get uri
        pure (acc ++ [← Act.ofExcept (drive.getOr "Name")])
      else pure acc : Act (List Value)).Spec
      fun res evs => ∀ acc', res = .ok acc' → ∃ target, ref.getOr "@odata.id" = .ok target ∧
        ((target.truthy = false ∧ acc' = acc ∧ evs = []) ∨
         (target.truthy = true ∧ ∃ path response drive name,
           r.client.target target = .ok path ∧
           evs = [.exchange { method := .get, path, payload := .null } (.ok response)] ∧
           response.status = 200 ∧ response.json = .ok drive ∧ drive.getOr "Name" = .ok name ∧
           acc' = acc ++ [name])) := by
  refine Act.Spec.bind (Act.ofExcept_spec _) (S := fun target res evs => ∀ acc', res = .ok acc' →
      (target.truthy = false ∧ acc' = acc ∧ evs = []) ∨
      (target.truthy = true ∧ ∃ path response drive name,
        r.client.target target = .ok path ∧
        evs = [.exchange { method := .get, path, payload := .null } (.ok response)] ∧
        response.status = 200 ∧ response.json = .ok drive ∧ drive.getOr "Name" = .ok name ∧
        acc' = acc ++ [name]))
    (fun target => ?_) ?_ fun _ _ _ _ h => nomatch h
  · cases htruthy : target.truthy
    · exact Act.spec_pure _ fun acc' h => .inl ⟨rfl, by cases h; rfl, rfl⟩
    · refine Act.Spec.bind (r.client.get_spec target)
        (fun drive => Act.Spec.bind (Act.ofExcept_spec (drive.getOr "Name"))
          (fun name => Act.pure_spec (acc ++ [name])) (R := fun res evs => ∀ acc', res = .ok acc' →
            evs = [] ∧ ∃ name, drive.getOr "Name" = .ok name ∧ acc' = acc ++ [name])
          (fun name _ _ _ ⟨hn, he₁⟩ ⟨hr, he₂⟩ acc' hacc => by
            subst he₁ he₂ hr
            cases hacc
            exact ⟨rfl, name, hn.symm, rfl⟩)
          fun _ _ _ _ h => nomatch h) ?_ fun _ _ _ _ h => nomatch h
      intro drive res e₁ e₂ hget hname acc' hacc
      obtain ⟨path, response, hpath, rfl, hs, hj⟩ := hget drive rfl
      obtain ⟨rfl, name, hn, rfl⟩ := hname acc' hacc
      exact .inr ⟨rfl, path, response, drive, name, hpath, rfl, hs, hj, hn, rfl⟩
  · intro target res e₁ e₂ ⟨ht, he₁⟩ hstep acc' hacc
    subst he₁
    exact ⟨target, ht.symm, hstep acc' hacc⟩

/-- **The names of the drives are read one reference after the other**, each drive named as it
was answered. -/
theorem Reconciler.driveFold_read (refs acc : List Value) :
    (refs.foldlM (fun (names : List Value) (ref : Value) => do
      let uri ← Act.ofExcept (ref.getOr "@odata.id")
      if uri.truthy then
        let drive ← r.client.get uri
        pure (names ++ [← Act.ofExcept (drive.getOr "Name")])
      else pure names) acc : Act (List Value)).Spec
      fun res evs => ∀ names, res = .ok names → ∃ read, names = acc ++ read ∧
        DriveAnswers r.client (fun call answer => Event.exchange call answer ∈ evs) refs read := by
  induction refs generalizing acc with
  | nil => exact Act.spec_pure acc fun names h => ⟨[], by cases h; simp, .nil⟩
  | cons ref refs ih =>
    rw [List.foldlM_cons]
    refine Act.Spec.bind (r.driveStep_read acc ref) (fun acc' => ih acc') ?_
      fun _ _ _ _ h => nomatch h
    intro acc' res e₁ e₂ hstep hrest names hnames
    obtain ⟨read, rfl, hreads⟩ := hrest names hnames
    -- the answers of the later references are among all the answers
    have hlater := hreads.mono fun _ _ m => List.mem_append_right e₁ m
    obtain ⟨target, ht, ⟨hskip, rfl, rfl⟩ | ⟨htrue, path, response, drive, name, hpath, rfl, hs,
      hj, hn, rfl⟩⟩ := hstep acc' rfl
    · exact ⟨read, rfl, .skip ht hskip hlater⟩
    · exact ⟨name :: read, by simp,
        .read ht htrue hpath (List.mem_append_left _ (List.mem_singleton_self _)) hs hj hn hlater⟩

/-- Reading the names of the drives of `volume`: what it returns names the drives as they were
answered. -/
theorem Reconciler.driveNames_read (volume : Value) :
    (r.driveNames volume).Spec fun res evs => ∀ names, res = .ok names →
      DrivesAnsweredIn r.client volume names evs := by
  unfold Reconciler.driveNames
  refine Act.Spec.bind (Act.ofExcept_spec _) (fun listed => ?_)
    (S := fun listed res evs => ∀ names, res = .ok names → ∃ refs, listed.members = .ok refs ∧
      DriveAnswers r.client (fun call answer => Event.exchange call answer ∈ evs) refs names)
    ?_ fun _ _ _ _ h => nomatch h
  · refine Act.Spec.bind (Act.ofExcept_spec _) (fun refs => r.driveFold_read refs []) ?_
      fun _ _ _ _ h => nomatch h
    intro refs res e₁ e₂ ⟨hrefs, he₁⟩ hfold names hnames
    subst he₁
    obtain ⟨read, hread, hans⟩ := hfold names hnames
    rw [List.nil_append] at hread
    subst hread
    exact ⟨refs, hrefs.symm, hans⟩
  · intro listed res e₁ e₂ ⟨hlisted, he₁⟩ hrest names hnames
    subst he₁
    obtain ⟨refs, hrefs, hans⟩ := hrest names hnames
    have hdl : driveList volume = .ok listed := hlisted.symm
    exact ⟨refs, by rw [driveRefs, hdl]; exact hrefs, hans⟩

/-- A reference skipped, the drive of one with a false `@odata.id` is not read. -/
theorem Reconciler.driveStep_skip {acc : List Value} {ref target : Value}
    (ht : ref.getOr "@odata.id" = .ok target) (hfalse : target.truthy = false) :
    (do
      let uri ← Act.ofExcept (ref.getOr "@odata.id")
      if uri.truthy then
        let drive ← r.client.get uri
        pure (acc ++ [← Act.ofExcept (drive.getOr "Name")])
      else pure acc : Act (List Value)).Spec fun res evs => res = .ok acc ∧ evs = [] := by
  rw [ht, Act.ofExcept_ok, pure_bind, if_neg (by simp [hfalse])]
  exact Act.pure_spec acc

/-- A drive answered with a name is read under that name. -/
theorem Reconciler.driveStep_by {A : Call → Except Failure Response} {acc : List Value}
    {ref target drive name : Value} (ht : ref.getOr "@odata.id" = .ok target)
    (htrue : target.truthy = true) (hget : r.client.AnswersGet A target drive)
    (hname : drive.getOr "Name" = .ok name) :
    (do
      let uri ← Act.ofExcept (ref.getOr "@odata.id")
      if uri.truthy then
        let drive ← r.client.get uri
        pure (acc ++ [← Act.ofExcept (drive.getOr "Name")])
      else pure acc : Act (List Value)).Spec fun res evs =>
        AnsweredBy A evs → res = .ok (acc ++ [name]) := by
  rw [ht, Act.ofExcept_ok, pure_bind, if_pos htrue]
  refine Act.Spec.bind (r.client.get_by hget)
    (S := fun d res _ => d = drive → res = .ok (acc ++ [name])) (fun d => ?_) ?_ ?_
  · refine Act.Spec.bind (Act.ofExcept_spec _) (fun n => Act.pure_spec (acc ++ [n])) ?_ ?_
    · intro n res _ _ ⟨hn, _⟩ ⟨hres, _⟩ hd
      subst hd
      rw [hname] at hn
      cases hn
      exact hres
    · intro f _ ⟨hf, _⟩ hd
      subst hd
      rw [hname] at hf
      cases hf
  · intro d res e₁ e₂ hd hrest hby
    cases hd hby.left
    exact hrest rfl
  · intro f e hf hby
    cases hf hby

/-- **The names of the drives are determined by the answers.** -/
theorem Reconciler.driveFold_by {A : Call → Except Failure Response} {refs names : List Value}
    (h : DriveAnswers r.client (fun call answer => A call = answer) refs names) (acc : List Value) :
    (refs.foldlM (fun (names : List Value) (ref : Value) => do
      let uri ← Act.ofExcept (ref.getOr "@odata.id")
      if uri.truthy then
        let drive ← r.client.get uri
        pure (names ++ [← Act.ofExcept (drive.getOr "Name")])
      else pure names) acc : Act (List Value)).Spec
      fun res evs => AnsweredBy A evs → res = .ok (acc ++ names) := by
  induction h generalizing acc with
  | nil => exact Act.spec_pure acc fun _ => by simp
  | skip ht hfalse _ ih =>
    rw [List.foldlM_cons]
    refine Act.Spec.bind (r.driveStep_skip ht hfalse) (fun acc' => ih acc') ?_
      fun _ _ ⟨h, _⟩ => nomatch h
    intro acc' res e₁ e₂ ⟨hacc, he₁⟩ hrest hby
    cases hacc
    subst he₁
    exact hrest hby
  | read ht htrue hpath hans hs hj hn _ ih =>
    rw [List.foldlM_cons]
    refine Act.Spec.bind (r.driveStep_by ht htrue ⟨_, _, hpath, hans, hs, hj⟩ hn)
      (fun acc' => ih acc') ?_ fun _ _ h hby => nomatch h hby
    intro acc' res e₁ e₂ hstep hrest hby
    cases hstep hby.left
    simpa using hrest hby.right

/-- Reading the names of the drives of `volume`, answered as `A` answers, gives the names `A`
gives them. -/
theorem Reconciler.driveNames_by {A : Call → Except Failure Response} {volume : Value}
    {names : List Value} (h : DrivesAnsweredBy r.client A volume names) :
    (r.driveNames volume).Spec fun res evs => AnsweredBy A evs → res = .ok names := by
  obtain ⟨refs, hrefs, hans⟩ := h
  obtain ⟨listed, hlisted, hmembers⟩ := exists_of_bind_eq_ok hrefs
  unfold Reconciler.driveNames
  show (Act.ofExcept (driveList volume) >>= _).Spec _
  rw [hlisted, Act.ofExcept_ok, pure_bind, hmembers, Act.ofExcept_ok, pure_bind]
  exact (r.driveFold_by hans []).mono fun _ _ h hby => by simpa using h hby

end Drives

/-! ## Reconciling -/

/-- What reconciling `state` with `volume` returns: the entries of `state` read back from the
volume, whose drives are named `names`. -/
def Reconciler.ReadBackOf (r : Reconciler) (state volume : Value) (names : List Value)
    (R : Value) : Prop :=
  ∃ ses es, state.entriesOf = .ok ses ∧ R = .dict es ∧ ReadBackEntries r.writable ses volume names es

/-- When the drives are written back, their names `names` were answered in the events `evs`. -/
def Reconciler.DrivesRead (r : Reconciler) (volume : Value) (names : List Value)
    (evs : List Event) : Prop :=
  .drives ∈ r.writable → DrivesAnsweredIn r.client volume names evs

/-- The `id` read back is the volume's `@odata.id`. -/
theorem ReadBackEntries.field_id {done : List ReadBack} {ses es : List (String × Value)}
    {volume : Value} {names : List Value} (h : ReadBackEntries done ses volume names es) :
    (Value.dict es).field "id" = volume.field "@odata.id" := by
  obtain ⟨u, hu, hid⟩ := h.id
  rw [hu]
  simp [Value.field, hid]

theorem Reconciler.ReadBackOf.field_id {r : Reconciler} {state volume R : Value}
    {names : List Value} (h : r.ReadBackOf state volume names R) :
    R.field "id" = volume.field "@odata.id" := by
  obtain ⟨_, es, _, rfl, hE⟩ := h
  exact hE.field_id

section Reconcile

variable (r : Reconciler)

/-- One field read back: the drives by their names, any other field by its property. -/
theorem Reconciler.readBackStep_read (volume : Value) (es : List (String × Value)) (f : ReadBack) :
    (do
      let v ← if f == .drives then (.list ·) <$> r.driveNames volume
        else Act.ofExcept (f.property volume)
      pure (insert es f.key v) : Act (List (String × Value))).Spec
      fun res evs => ∀ es', res = .ok es' → ∃ names x, f.readFrom volume names = .ok x ∧
        es' = insert es f.key x ∧ (f = .drives → DrivesAnsweredIn r.client volume names evs) := by
  dsimp only
  split
  · rename_i hd
    have hf : f = .drives := by simpa using hd
    subst hf
    refine Act.Spec.bind (Act.Spec.map (r.driveNames_read volume) (R := fun res evs => ∀ v,
        res = .ok v → ∃ names, v = .list names ∧ DrivesAnsweredIn r.client volume names evs)
      (fun names _ h v hv => ⟨names, by cases hv; rfl, h names rfl⟩) fun _ _ _ _ h => nomatch h)
      (fun v => Act.pure_spec (insert es ReadBack.drives.key v)) ?_ fun _ _ _ _ h => nomatch h
    intro v res e₁ e₂ hv ⟨hres, he₂⟩ es' hes'
    subst hres he₂
    cases hes'
    obtain ⟨names, rfl, hdr⟩ := hv _ rfl
    exact ⟨names, .list names, by simp [ReadBack.readFrom], rfl, fun _ => by simpa using hdr⟩
  · rename_i hd
    have hf : f ≠ .drives := by simpa using hd
    refine Act.Spec.bind (Act.ofExcept_spec _) (fun v => Act.pure_spec (insert es f.key v)) ?_
      fun _ _ _ _ h => nomatch h
    intro v res e₁ e₂ ⟨hv, _⟩ ⟨hres, _⟩ es' hes'
    subst hres
    cases hes'
    exact ⟨[], v, by rw [ReadBack.readFrom, if_neg hf, ← hv], rfl, fun h => absurd h hf⟩

/-- **Reading fields back, one after the other.** The drives are named as they were last read;
a run that reads no drives keeps the names it started with. -/
theorem Reconciler.readBackFold_read (volume : Value) (ses : List (String × Value))
    (fs : List ReadBack) : ∀ (done : List ReadBack) (es₀ : List (String × Value)),
    (fs.foldlM (fun (es : List (String × Value)) (f : ReadBack) => do
      let v ← if f == .drives then (.list ·) <$> r.driveNames volume
        else Act.ofExcept (f.property volume)
      pure (insert es f.key v)) es₀ : Act (List (String × Value))).Spec
      fun res evs => ∀ names, ReadBackEntries done ses volume names es₀ → ∀ es, res = .ok es →
        ∃ names', ReadBackEntries (done ++ fs) ses volume names' es ∧
          (.drives ∈ fs → DrivesAnsweredIn r.client volume names' evs) ∧
          (.drives ∉ fs → names' = names) := by
  induction fs with
  | nil =>
    intro done es₀
    exact Act.spec_pure es₀ fun names hE es h => by
      cases h
      exact ⟨names, by simpa using hE, nofun, fun _ => rfl⟩
  | cons f fs ih =>
    intro done es₀
    rw [List.foldlM_cons]
    refine Act.Spec.bind (r.readBackStep_read volume es₀ f) (fun es₁ => ih (done ++ [f]) es₁) ?_
      fun _ _ _ _ _ _ h => nomatch h
    intro es₁ res e₁ e₂ hstep hrest names hE es hes
    obtain ⟨names₁, x, hx, rfl, hdr⟩ := hstep _ rfl
    rw [List.append_cons]
    by_cases hf : f = .drives
    · -- the drives are named anew
      subst hf
      obtain ⟨names', hE', hin, hout⟩ := hrest names₁ (hE.insert hx nofun) es hes
      refine ⟨names', hE', fun _ => ?_, fun h => absurd List.mem_cons_self h⟩
      by_cases hd : ReadBack.drives ∈ fs
      · exact (hin hd).mono fun _ m => List.mem_append_right e₁ m
      · rw [hout hd]
        exact (hdr rfl).mono fun _ m => List.mem_append_left e₂ m
    · -- another field leaves the names of the drives as they were
      rw [ReadBack.readFrom_of_ne hf volume names₁ names] at hx
      obtain ⟨names', hE', hin, hout⟩ := hrest names (hE.insert hx fun _ => rfl) es hes
      refine ⟨names', hE', fun hd => ?_, fun hd => hout fun h => hd (List.mem_cons_of_mem _ h)⟩
      have hd : ReadBack.drives ∈ fs := (List.mem_cons.mp hd).resolve_left (Ne.symm hf)
      exact (hin hd).mono fun _ m => List.mem_append_right e₁ m

/-- **What reconciling returns is the state read back from the volume**, its drives named as
the run's events answered them. -/
theorem Reconciler.reconcile_readBack (state volume : Value) :
    (r.reconcile state volume).Spec fun res evs => ∀ R, res = .ok R →
      ∃ names, r.ReadBackOf state volume names R ∧ r.DrivesRead volume names evs := by
  unfold Reconciler.reconcile
  refine Act.Spec.bind (Act.ofExcept_spec _) (fun ses => ?_) (S := fun ses res evs => ∀ R,
      res = .ok R → ∃ names es, R = .dict es ∧ ReadBackEntries r.writable ses volume names es ∧
        r.DrivesRead volume names evs) ?_ fun _ _ _ _ h => nomatch h
  · refine Act.Spec.bind (Act.ofExcept_spec _) (fun u => ?_) (S := fun u res evs =>
        volume.field "@odata.id" = .ok u → ∀ R, res = .ok R → ∃ names es, R = .dict es ∧
          ReadBackEntries r.writable ses volume names es ∧ r.DrivesRead volume names evs)
      ?_ fun _ _ _ _ h => nomatch h
    · refine Act.Spec.bind (r.readBackFold_read volume ses r.writable [] (insert ses "id" u))
        (fun es => Act.pure_spec (Value.dict es)) ?_ fun _ _ _ _ _ h => nomatch h
      intro es res e₁ e₂ hfold ⟨hres, he₂⟩ hu R hR
      subst hres he₂
      cases hR
      obtain ⟨names, hE, hin, -⟩ := hfold [] (ReadBackEntries.start hu) es rfl
      exact ⟨names, es, rfl, by simpa using hE, fun h => by simpa using hin h⟩
    · intro u res e₁ e₂ ⟨hu, he₁⟩ hrest R hR
      subst he₁
      simpa using hrest hu.symm R hR
  · intro ses res e₁ e₂ ⟨hses, he₁⟩ hrest R hR
    subst he₁
    obtain ⟨names, es, rfl, hE, hdr⟩ := hrest R hR
    exact ⟨names, ⟨ses, es, hses.symm, rfl, hE⟩, by simpa using hdr⟩

/-- A field read back as the answers give it. -/
theorem Reconciler.readBackStep_by {A : Call → Except Failure Response} {volume : Value}
    {names : List Value} (es : List (String × Value)) {f : ReadBack} {x : Value}
    (hx : f.readFrom volume names = .ok x)
    (hd : f = .drives → DrivesAnsweredBy r.client A volume names) :
    (do
      let v ← if f == .drives then (.list ·) <$> r.driveNames volume
        else Act.ofExcept (f.property volume)
      pure (insert es f.key v) : Act (List (String × Value))).Spec
      fun res evs => AnsweredBy A evs → res = .ok (insert es f.key x) := by
  dsimp only
  split
  · rename_i hdr
    have hf : f = .drives := by simpa using hdr
    subst hf
    have hx' : x = .list names := by
      simp only [ReadBack.readFrom, if_true] at hx
      cases hx
      rfl
    subst hx'
    refine Act.Spec.bind (Act.Spec.map (r.driveNames_by (hd rfl))
        (R := fun res evs => AnsweredBy A evs → res = .ok (Value.list names))
        (fun _ _ h hby => by cases h hby; rfl) fun _ _ h hby => nomatch h hby)
      (fun v => Act.pure_spec (insert es ReadBack.drives.key v)) ?_ fun _ _ h hby => nomatch h hby
    intro v res e₁ e₂ hv ⟨hres, he₂⟩ hby
    subst hres he₂
    cases hv hby.left
    rfl
  · rename_i hdr
    have hf : f ≠ .drives := by simpa using hdr
    rw [ReadBack.readFrom, if_neg hf] at hx
    rw [hx, Act.ofExcept_ok, pure_bind]
    exact Act.spec_pure _ fun _ => rfl

/-- **Reading fields back carries every invariant that writing one field read back preserves**,
the drives answered with the names `names`. -/
theorem Reconciler.readBackFold_inv {A : Call → Except Failure Response} {volume : Value}
    {names : List Value} (P : List ReadBack → List (String × Value) → Prop) (fs : List ReadBack)
    (hdrives : .drives ∈ fs → DrivesAnsweredBy r.client A volume names)
    (hfields : ∀ f ∈ fs, ∃ x, f.readFrom volume names = .ok x)
    (hstep : ∀ done es f x, f ∈ fs → f.readFrom volume names = .ok x → P done es →
      P (done ++ [f]) (insert es f.key x)) :
    ∀ (done : List ReadBack) (es₀ : List (String × Value)),
    (fs.foldlM (fun (es : List (String × Value)) (f : ReadBack) => do
      let v ← if f == .drives then (.list ·) <$> r.driveNames volume
        else Act.ofExcept (f.property volume)
      pure (insert es f.key v)) es₀ : Act (List (String × Value))).Spec
      fun res evs => P done es₀ → AnsweredBy A evs → ∃ es, res = .ok es ∧ P (done ++ fs) es := by
  -- each step moves one field from those left to those done, and writes it into the entries
  induction fs with
  | nil =>
    intro done es₀
    exact Act.spec_pure es₀ fun hP _ => ⟨es₀, rfl, by simpa using hP⟩
  | cons f fs ih =>
    intro done es₀
    obtain ⟨x, hx⟩ := hfields f List.mem_cons_self
    rw [List.foldlM_cons]
    refine Act.Spec.bind (r.readBackStep_by es₀ hx fun h => hdrives (h ▸ List.mem_cons_self))
      (fun es₁ => ih (fun h => hdrives (List.mem_cons_of_mem _ h))
        (fun g hg => hfields g (List.mem_cons_of_mem _ hg))
        (fun done es g y hg => hstep done es g y (List.mem_cons_of_mem _ hg)) (done ++ [f]) es₁) ?_
      fun _ _ h _ hby => nomatch h hby
    intro es₁ res e₁ e₂ hone hrest hP hby
    cases hone hby.left
    rw [List.append_cons]
    exact hrest (hstep done es₀ f x List.mem_cons_self hx hP) hby.right

/-- **Reconciling carries every invariant** that holds once the `id` is written and that
writing one writable field read back preserves. -/
theorem Reconciler.reconcile_inv {A : Call → Except Failure Response} {state volume u : Value}
    {ses : List (String × Value)} {names : List Value}
    (P : List ReadBack → List (String × Value) → Prop)
    (hses : state.entriesOf = .ok ses) (hu : volume.field "@odata.id" = .ok u)
    (hdrives : .drives ∈ r.writable → DrivesAnsweredBy r.client A volume names)
    (hfields : ∀ f ∈ r.writable, ∃ x, f.readFrom volume names = .ok x)
    (hstart : P [] (insert ses "id" u))
    (hstep : ∀ done es f x, f ∈ r.writable → f.readFrom volume names = .ok x → P done es →
      P (done ++ [f]) (insert es f.key x)) :
    (r.reconcile state volume).Spec fun res evs => AnsweredBy A evs →
      ∃ es, res = .ok (.dict es) ∧ P r.writable es := by
  unfold Reconciler.reconcile
  rw [hses, Act.ofExcept_ok, pure_bind, hu, Act.ofExcept_ok, pure_bind]
  dsimp only
  refine Act.Spec.bind
    (r.readBackFold_inv P r.writable hdrives hfields hstep [] (insert ses "id" u))
    (fun es => Act.pure_spec (Value.dict es)) ?_ fun _ _ h hby => ?_
  · intro es res e₁ e₂ hfold ⟨hres, he₂⟩ hby
    subst hres he₂
    obtain ⟨es', hes', hP⟩ := hfold hstart (by simpa using hby)
    cases hes'
    exact ⟨es, rfl, by simpa using hP⟩
  · obtain ⟨_, h', _⟩ := h hstart hby
    cases h'

/-- **Reconciling is determined by the answers**: when the drives are answered with the names
`names` and every field can be read, reconciling returns the state read back. -/
theorem Reconciler.reconcile_by {A : Call → Except Failure Response} {state volume u : Value}
    {ses : List (String × Value)} {names : List Value} (hses : state.entriesOf = .ok ses)
    (hu : volume.field "@odata.id" = .ok u)
    (hdrives : .drives ∈ r.writable → DrivesAnsweredBy r.client A volume names)
    (hfields : ∀ f ∈ r.writable, ∃ x, f.readFrom volume names = .ok x) :
    (r.reconcile state volume).Spec fun res evs => AnsweredBy A evs →
      ∃ es, res = .ok (.dict es) ∧ ReadBackEntries r.writable ses volume names es :=
  r.reconcile_inv (fun done es => ReadBackEntries done ses volume names es) hses hu hdrives hfields
    (ReadBackEntries.start hu) fun _ _ _ _ _ hx hE => hE.insert hx fun _ => rfl

end Reconcile

end VolumeLifecycle.Lifecycle
