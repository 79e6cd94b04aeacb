import Mathlib.Data.List.Sort
import VolumeLifecycle.Document.Value
/-!
# VolumeLifecycle.Proofs.Document.Entries

Reading back what `insert` and `collapse` store in a list of entries. `lookup` finds the
first entry of a key; `insert` rewrites every entry of the key in place, or appends one when
there is none, so a lookup after an insert sees the new value under that key and the old
entries under every other key.

`collapseBy` makes the entries whose keys have one canonical text one entry. Its main
property, `lookup_collapseBy`, is that it keeps **the last value of each text**: a lookup in
the collapsed entries is a lookup in the given ones read from the end, and the collapsed
entries have distinct texts (`collapseBy_nodup`). So writing entries over others with
`update` is what storing them one by one would give.
-/

namespace VolumeLifecycle.Value

variable {α : Type}

theorem lookup_cons (e : String × α) (es : List (String × α)) (k : String) :
    lookup (e :: es) k = if e.1 = k then some e.2 else lookup es k := by
  by_cases h : e.1 = k <;> simp [lookup, h]

/-- Rewriting the entries of `k` leaves the lookups of every other key alone. -/
theorem lookup_map_replace (es : List (String × α)) (k k' : String) (v : α) (h : k' ≠ k) :
    lookup (es.map fun e => if e.1 = k then (k, v) else e) k' = lookup es k' := by
  induction es with
  | nil => rfl
  | cons e es ih =>
    by_cases he : e.1 = k
    · simp only [List.map_cons, he, if_true, lookup_cons, Ne.symm h, if_false, ih]
    · simp only [List.map_cons, he, if_false, lookup_cons, ih]

theorem insert_cons (e : String × α) (es : List (String × α)) (k : String) (v : α) :
    insert (e :: es) k v =
      if e.1 = k then (k, v) :: es.map (fun e => if e.1 = k then (k, v) else e)
      else e :: insert es k v := by
  by_cases he : e.1 = k
  · simp [Value.insert, he]
  · by_cases hes : es.any (·.1 == k) <;> simp [Value.insert, he, hes]

@[simp] theorem lookup_insert (es : List (String × α)) (k k' : String) (v : α) :
    lookup (insert es k v) k' = if k' = k then some v else lookup es k' := by
  induction es with
  | nil =>
    by_cases h : k' = k
    · subst h; simp [lookup, Value.insert]
    · simp [lookup, Value.insert, h, Ne.symm h]
  | cons e es ih =>
    rw [insert_cons]
    by_cases he : e.1 = k
    · by_cases hk : k' = k
      · simp [lookup_cons, he, hk]
      · simp [lookup_cons, he, hk, lookup_map_replace _ _ _ _ hk, Ne.symm hk]
    · simp only [he, if_false, lookup_cons, ih]
      by_cases hk : k' = k
      · subst hk; simp [he]
      · simp [hk]


theorem lookup_nil (k : String) : lookup ([] : List (String × α)) k = none := rfl

theorem lookup_append (xs ys : List (String × α)) (k : String) :
    lookup (xs ++ ys) k = (lookup xs k).or (lookup ys k) := by
  induction xs with
  | nil => rfl
  | cons e es ih =>
    rw [List.cons_append, lookup_cons, lookup_cons, ih]
    split <;> rfl

/-- Only the entries of `k` matter to its lookup. -/
theorem lookup_filter_key (es : List (String × α)) (k : String) :
    lookup (es.filter fun e => e.1 == k) k = lookup es k := by
  induction es with
  | nil => rfl
  | cons e es ih =>
    by_cases h : e.1 = k
    · simp [h, lookup_cons]
    · simp [h, lookup_cons, ih]

/-- With distinct keys, a lookup finds exactly the entries there are. -/
theorem lookup_eq_some_iff {es : List (String × α)} (h : (es.map Prod.fst).Nodup) {k : String}
    {v : α} : lookup es k = some v ↔ (k, v) ∈ es := by
  induction es with
  | nil => simp [lookup]
  | cons e es ih =>
    rw [List.map_cons, List.nodup_cons] at h
    rw [lookup_cons, List.mem_cons]
    by_cases he : e.1 = k
    · -- the head holds the key, which no later entry has
      have hnot : (k, v) ∉ es := fun m => h.1 (he ▸ List.mem_map_of_mem m)
      obtain ⟨k', v'⟩ := e
      simp only at he
      subst he
      simp [hnot, eq_comm]
    · have hne : (k, v) ≠ e := fun h' => he (h' ▸ rfl)
      simp [he, hne, ih h.2]

/-- With distinct keys, a lookup among the entries a filter keeps is the lookup among all of
them, when its entry is kept. -/
theorem lookup_filter {es : List (String × α)} (h : (es.map Prod.fst).Nodup)
    (p : String × α → Bool) (k : String) :
    lookup (es.filter p) k = (lookup es k).filter fun v => p (k, v) := by
  have hf : ((es.filter p).map Prod.fst).Nodup := (List.filter_sublist.map Prod.fst).nodup h
  -- a value found among the kept entries is the one found among all of them
  have hkept : ∀ w, lookup (es.filter p) k = some w → lookup es k = some w ∧ p (k, w) = true := by
    intro w hw
    have hm := List.mem_filter.1 ((lookup_eq_some_iff hf).1 hw)
    exact ⟨(lookup_eq_some_iff h).2 hm.1, hm.2⟩
  cases hl : lookup es k with
  | none =>
    cases hw : lookup (es.filter p) k with
    | none => rfl
    | some w => simpa [hl] using (hkept w hw).1
  | some v =>
    by_cases hp : p (k, v) = true
    · rw [Option.filter_some, if_pos hp]
      exact (lookup_eq_some_iff hf).2 (List.mem_filter.2 ⟨(lookup_eq_some_iff h).1 hl, hp⟩)
    · rw [Option.filter_some, if_neg hp]
      cases hw : lookup (es.filter p) k with
      | none => rfl
      | some w =>
        obtain ⟨hv, hpw⟩ := hkept w hw
        rw [hl] at hv
        cases hv
        exact absurd hpw hp

/-- Reordering entries with distinct keys changes no lookup. -/
theorem lookup_perm {es es' : List (String × α)} (hp : es.Perm es') (h : (es.map Prod.fst).Nodup)
    (k : String) : lookup es k = lookup es' k := by
  have h' : (es'.map Prod.fst).Nodup := (hp.map Prod.fst).nodup_iff.1 h
  cases hl : lookup es' k with
  | none =>
    cases hl₀ : lookup es k with
    | none => rfl
    | some v =>
      have := (lookup_eq_some_iff h').2 (hp.mem_iff.1 ((lookup_eq_some_iff h).1 hl₀))
      rw [hl] at this
      cases this
  | some v => exact (lookup_eq_some_iff h).2 (hp.mem_iff.2 ((lookup_eq_some_iff h').1 hl))

theorem lookup_reverse {es : List (String × α)} (h : (es.map Prod.fst).Nodup) (k : String) :
    lookup es.reverse k = lookup es k :=
  (lookup_perm (List.reverse_perm es).symm h k).symm

/-- **Entries with distinct keys and the same lookups are one mapping**, up to order. -/
theorem perm_of_lookup_eq {es es' : List (String × α)} (h : (es.map Prod.fst).Nodup)
    (h' : (es'.map Prod.fst).Nodup) (hl : ∀ k, lookup es k = lookup es' k) : es.Perm es' := by
  -- distinct keys make distinct entries
  have hent : ∀ {l : List (String × α)}, (l.map Prod.fst).Nodup → l.Nodup := fun hl =>
    List.Pairwise.of_map Prod.fst (fun _ _ hne heq => hne (congrArg Prod.fst heq)) hl
  refine (List.perm_ext_iff_of_nodup (hent h) (hent h')).2 fun e => ?_
  rw [← lookup_eq_some_iff h, ← lookup_eq_some_iff h', hl]

/-- A key has a value exactly when some entry has the key. -/
theorem isSome_lookup_iff (es : List (String × α)) (k : String) :
    (lookup es k).isSome ↔ k ∈ es.map Prod.fst := by
  simp [lookup, List.find?_isSome]

/-- Mapping the values maps what a lookup finds. -/
theorem lookup_map_value {β : Type} (es : List (String × α)) (f : α → β) (k : String) :
    lookup (es.map fun e => (e.1, f e.2)) k = (lookup es k).map f := by
  induction es with
  | nil => rfl
  | cons e es ih => by_cases h : e.1 = k <;> simp [lookup_cons, h, ih]

/-- Some entry has the key exactly when a lookup finds it. -/
theorem any_key_eq_isSome (es : List (String × α)) (k : String) :
    es.any (·.1 == k) = (lookup es k).isSome := by
  induction es with
  | nil => rfl
  | cons e es ih => by_cases h : e.1 = k <;> simp [lookup_cons, h, ih]

/-- An insert keeps the keys there are, and adds its own key at the end when it is new. -/
theorem insert_keys (es : List (String × α)) (k : String) (v : α) :
    (insert es k v).map Prod.fst =
      if es.any (·.1 == k) then es.map Prod.fst else es.map Prod.fst ++ [k] := by
  unfold insert
  split
  · rw [List.map_map]
    refine List.map_congr_left fun e _ => ?_
    by_cases he : e.1 = k <;> simp [he]
  · simp

theorem insert_nodup {es : List (String × α)} (h : (es.map Prod.fst).Nodup) (k : String) (v : α) :
    ((insert es k v).map Prod.fst).Nodup := by
  rw [insert_keys]
  split
  · exact h
  · rename_i hk
    refine List.nodup_append.2 ⟨h, by simp, ?_⟩
    intro a ha b hb
    rw [List.mem_singleton] at hb
    subst hb
    obtain ⟨e, he, rfl⟩ := List.mem_map.1 ha
    intro hek
    exact hk (List.any_eq_true.2 ⟨e, he, by simp [hek]⟩)

theorem mem_insert {es : List (String × α)} {k : String} {v : α} {e : String × α}
    (h : e ∈ insert es k v) : e ∈ es ∨ e = (k, v) := by
  unfold insert at h
  split at h
  · obtain ⟨e', he', rfl⟩ := List.mem_map.1 h
    by_cases hk : e'.1 = k
    · exact .inr (by simp [hk])
    · exact .inl (by simpa [hk] using he')
  · simpa using h

/-! ## Collapsing entries

`collapseBy` tags each entry with its canonical text and its place, sorts by text (stably, so
each text keeps its entries in order), folds each run of one text into its first entry with
its last value, and sorts the runs back by place. The fold is where the work is: the runs it
builds have strictly falling texts, so the runs have distinct texts, which makes the last
sort invisible to lookups. -/

/-! ## Sorting

`sortBy` is an insertion sort; stated as Mathlib's `List.insertionSort`, it is a permutation,
sorted for a total transitive order, and stable. -/

section Sorting

variable {γ : Type}

theorem insertBy_decide (r : γ → γ → Prop) [DecidableRel r] (a : γ) (l : List γ) :
    insertBy (fun a b => decide (r a b)) a l = l.orderedInsert r a := by
  induction l with
  | nil => rfl
  | cons b l ih => by_cases h : r a b <;> simp [insertBy, h, ih]

theorem sortBy_decide (r : γ → γ → Prop) [DecidableRel r] (l : List γ) :
    sortBy (fun a b => decide (r a b)) l = l.insertionSort r := by
  induction l with
  | nil => rw [sortBy]; rfl
  | cons a l ih => rw [sortBy, List.foldr_cons, ← sortBy, ih, insertBy_decide, List.insertionSort_cons]

theorem perm_sortBy (le : γ → γ → Bool) (l : List γ) : (sortBy le l).Perm l := by
  have h := sortBy_decide (fun a b => le a b = true) l
  simp only [Bool.decide_eq_true] at h
  exact h ▸ List.perm_insertionSort _ l

end Sorting

section Collapse

variable {β : Type}

/-- The text of a run and its value. -/
def runEntry (t : String × Nat × β × α) : String × α := (t.1, t.2.2.2)

/-- A run built from the entries `src`: the text, place and key of one and the value of
another. -/
def MadeOf (src : List (String × Nat × β × α)) (t : String × Nat × β × α) : Prop :=
  ∃ a ∈ src, ∃ b ∈ src, t = (a.1, a.2.1, a.2.2.1, b.2.2.2)

theorem madeOf_of_mem {src : List (String × Nat × β × α)} {t : String × Nat × β × α}
    (h : t ∈ src) : MadeOf src t :=
  ⟨t, h, t, h, rfl⟩

theorem lookup_collapseStep (acc : List (String × Nat × β × α)) (x : String × Nat × β × α)
    (k : String) :
    lookup ((collapseStep acc x).map runEntry) k =
      if x.1 = k then some x.2.2.2 else lookup (acc.map runEntry) k := by
  unfold collapseStep
  split
  · rename_i c' i' k' v' rest
    split
    · -- the entry joins the last run, which has its text
      rename_i hc
      have hc : c' = x.1 := by simpa using hc
      subst hc
      by_cases hk : x.1 = k <;> simp [lookup_cons, runEntry, hk]
    · simp [lookup_cons, runEntry]
  · simp [lookup_cons, runEntry, lookup_nil]

/-- A step keeps the runs' texts strictly falling and no higher than the entry it took. -/
theorem collapseStep_falling {acc : List (String × Nat × β × α)} {x : String × Nat × β × α}
    (hacc : acc.Pairwise fun a b => b.1 < a.1) (hle : ∀ a ∈ acc, a.1 ≤ x.1) :
    (collapseStep acc x).Pairwise (fun a b => b.1 < a.1) ∧ ∀ a ∈ collapseStep acc x, a.1 ≤ x.1 := by
  unfold collapseStep
  split
  · rename_i c' i' k' v' rest
    have hhead : c' ≤ x.1 := hle _ List.mem_cons_self
    rw [List.pairwise_cons] at hacc
    split
    · rename_i hc
      have hc : c' = x.1 := by simpa using hc
      refine ⟨List.pairwise_cons.2 hacc, fun a m => ?_⟩
      rcases List.mem_cons.1 m with rfl | m
      · exact hc ▸ String.le_refl _
      · have := hacc.1 a m
        grind
    · -- a new run: its text is above every text so far
      rename_i hc
      have hc : c' ≠ x.1 := by simpa using hc
      refine ⟨List.pairwise_cons.2 ⟨fun a m => ?_, List.pairwise_cons.2 hacc⟩, fun a m => ?_⟩
      · rcases List.mem_cons.1 m with rfl | m
        · grind
        · have := hacc.1 a m
          grind
      · rcases List.mem_cons.1 m with rfl | m
        · exact String.le_refl _
        · exact hle a m
  · refine ⟨List.pairwise_singleton _ _, fun a m => ?_⟩
    obtain rfl := List.mem_singleton.1 m
    exact String.le_refl _

/-- Folding entries sorted by text into runs: the runs have strictly falling texts, and the
value of a text is the last one the entries give it, or the one it had before. -/
theorem foldl_collapseStep (L acc : List (String × Nat × β × α))
    (hL : L.Pairwise fun a b => a.1 ≤ b.1) (hacc : acc.Pairwise fun a b => b.1 < a.1)
    (hle : ∀ a ∈ acc, ∀ t ∈ L, a.1 ≤ t.1) :
    (L.foldl collapseStep acc).Pairwise (fun a b => b.1 < a.1) ∧
    ∀ k, lookup ((L.foldl collapseStep acc).map runEntry) k =
      (lookup (L.map runEntry).reverse k).or (lookup (acc.map runEntry) k) := by
  induction L generalizing acc with
  | nil => exact ⟨hacc, fun k => rfl⟩
  | cons x L ih =>
    rw [List.pairwise_cons] at hL
    obtain ⟨hstep, hstep_le⟩ := collapseStep_falling hacc fun a m => hle a m x List.mem_cons_self
    obtain ⟨hfall, hlook⟩ := ih (collapseStep acc x) hL.2 hstep fun a m t mt =>
      String.le_trans (hstep_le a m) (hL.1 t mt)
    refine ⟨hfall, fun k => ?_⟩
    rw [List.foldl_cons, hlook, lookup_collapseStep, List.map_cons, List.reverse_cons,
      lookup_append, Option.or_assoc]
    by_cases hx : x.1 = k <;> simp [lookup_cons, runEntry, hx, lookup_nil]

/-- The fold makes each run of the entries it was given. -/
theorem madeOf_foldl_collapseStep {src : List (String × Nat × β × α)} (L acc : List (String × Nat × β × α))
    (hacc : ∀ t ∈ acc, MadeOf src t) (hL : ∀ t ∈ L, t ∈ src) :
    ∀ t ∈ L.foldl collapseStep acc, MadeOf src t := by
  induction L generalizing acc with
  | nil => exact hacc
  | cons x L ih =>
    refine ih _ (fun t m => ?_) fun t m => hL t (List.mem_cons_of_mem x m)
    have hx : x ∈ src := hL x List.mem_cons_self
    unfold collapseStep at m
    split at m
    · rename_i c' i' k' v' rest
      split at m
      · -- the last run takes the entry's value
        rcases List.mem_cons.1 m with rfl | m
        · obtain ⟨a, ha, b, -, he⟩ := hacc _ List.mem_cons_self
          cases he
          exact ⟨a, ha, x, hx, rfl⟩
        · exact hacc t (List.mem_cons_of_mem _ m)
      · rcases List.mem_cons.1 m with rfl | m
        · exact madeOf_of_mem hx
        · exact hacc t m
    · rw [List.mem_singleton.1 m]
      exact madeOf_of_mem hx

/-- Sorting by text stably keeps the entries of each text in their order. -/
theorem filter_sortBy_text (xs : List (String × Nat × β × α)) (k : String) :
    (sortBy (fun a b => decide (a.1 ≤ b.1)) xs).filter (·.1 == k) = xs.filter (·.1 == k) := by
  rw [sortBy_decide (fun a b : String × Nat × β × α => a.1 ≤ b.1)]
  have hsorted : (xs.filter (·.1 == k)).Pairwise fun a b => a.1 ≤ b.1 := by
    refine List.pairwise_filter.2 (List.pairwise_of_forall_mem_list fun a _ b _ ha hb => ?_)
    have ha : a.1 = k := by simpa using ha
    have hb : b.1 = k := by simpa using hb
    have hab : a.1 = b.1 := ha.trans hb.symm
    exact hab ▸ String.le_refl a.1
  have hsub := (List.sublist_insertionSort hsorted List.filter_sublist).filter (·.1 == k)
  rw [List.filter_filter] at hsub
  simp only [Bool.and_self] at hsub
  refine (hsub.eq_of_length ?_).symm
  exact (((List.perm_insertionSort _ xs).filter _).length_eq).symm

/-- Sorting by text leaves the texts in order. -/
theorem pairwise_sortBy_text (xs : List (String × Nat × β × α)) :
    (sortBy (fun a b => decide (a.1 ≤ b.1)) xs).Pairwise fun a b => a.1 ≤ b.1 := by
  have : Std.Total fun a b : String × Nat × β × α => a.1 ≤ b.1 :=
    ⟨fun a b => String.le_total a.1 b.1⟩
  have : IsTrans (String × Nat × β × α) fun a b => a.1 ≤ b.1 :=
    ⟨fun _ _ _ => String.le_trans⟩
  rw [sortBy_decide (fun a b : String × Nat × β × α => a.1 ≤ b.1)]
  exact List.pairwise_insertionSort _ xs

/-- The last value of a text is read off the entries of that text. -/
theorem lookup_reverse_runEntry (xs : List (String × Nat × β × α)) (k : String) :
    lookup (xs.map runEntry).reverse k = lookup ((xs.filter (·.1 == k)).map runEntry).reverse k := by
  rw [← lookup_filter_key _ k, List.filter_reverse, List.filter_map]
  rfl

/-- The stable sort keeps the last value of each text. -/
theorem lookup_reverse_sortBy_text (xs : List (String × Nat × β × α)) (k : String) :
    lookup ((sortBy (fun a b => decide (a.1 ≤ b.1)) xs).map runEntry).reverse k =
      lookup (xs.map runEntry).reverse k := by
  rw [lookup_reverse_runEntry, filter_sortBy_text, ← lookup_reverse_runEntry]

end Collapse

variable {β : Type}

/-- The entries with their keys' canonical texts. -/
def canonEntries (canon : β → String) (es : List (β × α)) : List (String × α) :=
  es.map fun e => (canon e.1, e.2)

/-- The tagged entries `collapseBy` sorts: each with its text, place, key and value. -/
theorem collapseBy_eq (canon : β → String) (es : List (β × α)) :
    collapseBy canon es =
      let indexed := es.zipIdx.map fun ((k, v), i) => (canon k, i, k, v)
      let runs := (sortBy (fun a b => decide (a.1 ≤ b.1)) indexed).foldl collapseStep []
      (sortBy (fun a b => decide (a.2.1 ≤ b.2.1)) runs).map fun (_, _, k, v) => (k, v) := rfl

section CollapseBy

variable (canon : β → String) (es : List (β × α))

/-- **Collapsing is the fold's runs, up to order**: runs with distinct texts that hold the last
value of each text. -/
theorem collapseBy_perm_runs : ∃ runs : List (String × Nat × β × α),
    (canonEntries canon (collapseBy canon es)).Perm (runs.map runEntry) ∧
    ((runs.map runEntry).map Prod.fst).Nodup ∧
    ∀ k, lookup (runs.map runEntry) k = lookup (canonEntries canon es).reverse k := by
  rw [collapseBy_eq]
  dsimp only
  let indexed := es.zipIdx.map fun ((k, v), i) => (canon k, i, k, v)
  let sorted := sortBy (fun a b => decide (a.1 ≤ b.1)) indexed
  have hperm : sorted.Perm indexed := perm_sortBy _ _
  have hsorted : sorted.Pairwise fun a b => a.1 ≤ b.1 := pairwise_sortBy_text indexed
  obtain ⟨hfall, hlook⟩ := foldl_collapseStep sorted [] hsorted List.Pairwise.nil nofun
  have hmade : ∀ t ∈ sorted.foldl collapseStep [], MadeOf indexed t :=
    madeOf_foldl_collapseStep sorted [] nofun fun t m => hperm.mem_iff.1 m
  refine ⟨sorted.foldl collapseStep [], ?_, ?_, fun k => ?_⟩
  · -- each run's text is the canonical text of its key, as in every tagged entry
    rw [canonEntries, List.map_map]
    refine ((List.map_congr_left fun t m => ?_).trans rfl).symm ▸
      (perm_sortBy _ _).map runEntry
    obtain ⟨a, ha, b, -, rfl⟩ := hmade t ((perm_sortBy _ _).mem_iff.1 m)
    obtain ⟨⟨⟨k, v⟩, i⟩, -, rfl⟩ := List.mem_map.1 ha
    rfl
  · rw [List.map_map]
    refine List.pairwise_map.2 (hfall.imp fun {a b} h he => ?_)
    have he : a.1 = b.1 := he
    rw [he] at h
    exact String.lt_irrefl _ h
  · rw [hlook, List.map_nil, lookup_nil, Option.or_none, lookup_reverse_sortBy_text]
    congr 2
    rw [List.map_map, canonEntries]
    conv => rhs; rw [← List.zipIdx_map_fst 0 es, List.map_map]
    rfl

/-- **A collapsed entry keeps the last value of its text.** -/
theorem lookup_collapseBy (k : String) :
    lookup (canonEntries canon (collapseBy canon es)) k = lookup (canonEntries canon es).reverse k := by
  obtain ⟨runs, hperm, hnodup, hlook⟩ := collapseBy_perm_runs canon es
  rw [← hlook k]
  exact lookup_perm hperm ((hperm.map Prod.fst).nodup_iff.2 hnodup) k

/-- The collapsed entries have distinct texts. -/
theorem collapseBy_nodup : ((canonEntries canon (collapseBy canon es)).map Prod.fst).Nodup := by
  obtain ⟨runs, hperm, hnodup, -⟩ := collapseBy_perm_runs canon es
  exact (hperm.map Prod.fst).nodup_iff.2 hnodup

/-- Every collapsed entry has the key of one given entry and the value of another. -/
theorem mem_collapseBy {e : β × α} (h : e ∈ collapseBy canon es) :
    ∃ a ∈ es, ∃ b ∈ es, e = (a.1, b.2) := by
  rw [collapseBy_eq] at h
  dsimp only at h
  obtain ⟨t, ht, rfl⟩ := List.mem_map.1 h
  obtain ⟨a, ha, b, hb, rfl⟩ := madeOf_foldl_collapseStep _ [] nofun
    (fun t m => (perm_sortBy _ _).mem_iff.1 m) t ((perm_sortBy _ _).mem_iff.1 ht)
  obtain ⟨⟨a', ia⟩, ha', rfl⟩ := List.mem_map.1 ha
  obtain ⟨⟨b', ib⟩, hb', rfl⟩ := List.mem_map.1 hb
  exact ⟨a', List.fst_mem_of_mem_zipIdx ha', b', List.fst_mem_of_mem_zipIdx hb', rfl⟩

end CollapseBy

@[simp] theorem canonEntries_id (es : List (String × α)) : canonEntries id es = es := by
  simp [canonEntries]

/-- **Collapsing keeps the last value of each key.** -/
theorem lookup_collapse (es : List (String × α)) (k : String) :
    lookup (collapse es) k = lookup es.reverse k := by
  show lookup (collapseBy id es) k = _
  simpa using lookup_collapseBy id es k

theorem collapse_nodup (es : List (String × α)) : ((collapse es).map Prod.fst).Nodup := by
  show ((collapseBy id es).map Prod.fst).Nodup
  simpa using collapseBy_nodup id es

/-- Writing entries over others: the last value written for a key, or the one it had. -/
theorem lookup_update (es more : List (String × α)) (k : String) :
    lookup (update es more) k = (lookup more.reverse k).or (lookup es.reverse k) := by
  rw [update, lookup_collapse, List.reverse_append, lookup_append]

end VolumeLifecycle.Value
