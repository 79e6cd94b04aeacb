import VolumeLifecycle.Lock.Contention
import VolumeLifecycle.Proofs.Lock.Slot
/-!
# VolumeLifecycle.Proofs.Lock.Contention

**The ticket lock under every interleaving.** Threads share one registry, and each
acquisition is one lease of the run (`Contention`). A step (`Contention.Step`) is one move of
one thread:

* an acquisition takes the next ticket of its endpoint's slot, and holds the endpoint at once
  when that ticket is the one served;
* a waiting thread whose ticket is served wakes up holding the endpoint, at any later moment;
* a release serves the next live ticket, and releasing a released lease changes nothing;
* an interrupted waiter gives its ticket up, through either branch of `Slot.giveUp`: the slot
  moves on when its ticket was already served, else the ticket is marked as given up.

Every state reached from the empty registry by any order of these steps satisfies
`Contention.Inv`: every slot is sound, the tickets of a key's leases are exactly the tickets
its slot handed out, in order, and each lease's state fits where its ticket stands against
the slot (`Lease.Fits`). The properties of the lock (`Contention.Safe`) follow from it.

The proof has the shape of a protocol proof: one inversion lemma per operation, one
preservation lemma per step, one induction over reachable states. The subtle steps are the
release and the interrupted waiter whose ticket is served: the slot then skips every
given-up ticket, and `Lease.Fits.advance` checks that it never skips a waiting one.
-/

namespace VolumeLifecycle.Lock

open VolumeLifecycle.Value

/-! ### Steps and reachable states -/

/-- A lease that was served: it holds its endpoint, or held it and released it. -/
def Lease.granted (l : Lease) : Prop := l.state = .held ∨ l.state = .released

/-- One move of one thread on a shared registry. -/
inductive Contention.Step : Contention → Contention → Prop
  /-- Acquire an endpoint, holding it at once when the new ticket is the one served. -/
  | acquire (c : Contention) (endpoint : Value) : Step c (c.acquire endpoint).2.2
  /-- A waiting thread whose ticket is served wakes up holding its endpoint. -/
  | wake {c : Contention} {id : Nat} {l : Lease} (hl : c.leases[id]? = some l)
      (hw : l.state = .waiting) (hs : (c.registry.slot l.key).serving = l.ticket) :
      Step c (c.setLease id { l with state := .held })
  /-- Release a lease. -/
  | release {c c' : Contention} (id : Nat) (h : c.release id = .ok c') : Step c c'
  /-- Interrupt a waiting thread, which gives its ticket up. -/
  | cancel {c c' : Contention} (id : Nat) (h : c.cancel id = .ok c') : Step c c'

/-- The states of the runs that start from an empty registry. -/
inductive Contention.Reachable : Contention → Prop
  | init : Reachable {}
  | step {c c' : Contention} : Reachable c → Step c c' → Reachable c'

/-! ### What each operation does -/

theorem Contention.acquire_cases (c : Contention) (endpoint : Value) :
    (∃ f, endpointKey endpoint = .error f ∧
       (c.acquire endpoint).2.2 = { c with leases := c.leases.push { state := .failed } }) ∨
    (∃ k, endpointKey endpoint = .ok k ∧
       (c.acquire endpoint).2.2 =
         { registry := c.registry.setSlot k (c.registry.slot k).take.2
           leases := c.leases.push
             { key := k
               ticket := (c.registry.slot k).nextTicket
               state := if (c.registry.slot k).serving = (c.registry.slot k).nextTicket then .held
                 else .waiting } }) := by
  unfold Contention.acquire
  rw [Registry.take_eq]
  cases endpointKey endpoint with
  | error f => exact .inl ⟨f, rfl, rfl⟩
  | ok k =>
    refine .inr ⟨k, rfl, ?_⟩
    simp [Except.map]

/-- A release either releases a held lease, serving the next ticket of its slot, or finds the
lease released already and changes nothing. -/
theorem Contention.release_eq_ok {c c' : Contention} {id : Nat} (h : c.release id = .ok c') :
    ∃ l, c.leases[id]? = some l ∧
      ((l.state = .held ∧
          c' = { registry := c.registry.release l.key
                 leases := c.leases.setIfInBounds id { l with state := .released } }) ∨
        (l.state = .released ∧ c' = c)) := by
  cases hl : c.leases[id]? with
  | none => simp [Contention.release, Contention.lease?, hl, bind, Except.bind] at h
  | some l =>
    refine ⟨l, rfl, ?_⟩
    simp only [Contention.release, Contention.lease?, hl, bind, Except.bind] at h
    cases hs : l.state <;> simp [hs, pure, Except.pure, throw, throwThe, MonadExceptOf.throw] at h
    · exact .inl ⟨rfl, h.symm⟩
    · exact .inr ⟨rfl, h.symm⟩

theorem Contention.release_of_released {c : Contention} {id : Nat} {l : Lease}
    (hl : c.leases[id]? = some l) (hs : l.state = .released) : c.release id = .ok c := by
  simp [Contention.release, Contention.lease?, hl, bind, Except.bind, hs, pure, Except.pure]

/-- A cancellation only succeeds on a waiting lease, whose ticket it gives up. -/
theorem Contention.cancel_eq_ok {c c' : Contention} {id : Nat} (h : c.cancel id = .ok c') :
    ∃ l, c.leases[id]? = some l ∧ l.state = .waiting ∧
      c' = { registry := c.registry.giveUp l.key l.ticket
             leases := c.leases.setIfInBounds id { l with state := .cancelled } } := by
  cases hl : c.leases[id]? with
  | none => simp [Contention.cancel, Contention.lease?, hl, bind, Except.bind] at h
  | some l =>
    refine ⟨l, rfl, ?_⟩
    simp only [Contention.cancel, Contention.lease?, hl, bind, Except.bind] at h
    cases hs : l.state <;> simp [hs, pure, Except.pure, throw, throwThe, MonadExceptOf.throw] at h
    exact ⟨rfl, h.symm⟩

/-- Taking a ticket keeps every lease handed out before. -/
theorem Contention.acquire_keeps {c : Contention} (endpoint : Value) {id : Nat}
    (h : id < c.leases.size) : (c.acquire endpoint).2.2.leases[id]? = c.leases[id]? := by
  rcases c.acquire_cases endpoint with ⟨f, -, hc⟩ | ⟨k, -, hc⟩ <;>
    rw [hc] <;> simp [Array.getElem?_push, Nat.ne_of_lt h]

/-- A ticket taken on a key is the next lease, on that key, waiting or served at once. -/
theorem Contention.acquire_new (c : Contention) {endpoint : Value} {key : String}
    (h : endpointKey endpoint = .ok key) :
    ∃ l, (c.acquire endpoint).2.2.leases[c.leases.size]? = some l ∧ l.key = key ∧
      (l.state = .waiting ∨ l.state = .held) := by
  rcases c.acquire_cases endpoint with ⟨f, hf, -⟩ | ⟨k, hk, hc⟩
  · rw [h] at hf
    cases hf
  · obtain rfl := Except.ok.inj (h.symm.trans hk)
    rw [hc, Array.getElem?_push_size]
    refine ⟨_, rfl, rfl, ?_⟩
    split
    · exact .inr rfl
    · exact .inl rfl

/-- Releasing one lease keeps every other. -/
theorem Contention.release_keeps {c c' : Contention} {id id' : Nat} (h : c.release id = .ok c')
    (hne : id ≠ id') : c'.leases[id']? = c.leases[id']? := by
  obtain ⟨l, -, ⟨-, rfl⟩ | ⟨-, rfl⟩⟩ := Contention.release_eq_ok h
  · exact Array.getElem?_setIfInBounds_ne hne
  · rfl

/-- Interrupting one waiting lease keeps every other. -/
theorem Contention.cancel_keeps {c c' : Contention} {id id' : Nat} (h : c.cancel id = .ok c')
    (hne : id ≠ id') : c'.leases[id']? = c.leases[id']? := by
  obtain ⟨l, -, -, rfl⟩ := Contention.cancel_eq_ok h
  exact Array.getElem?_setIfInBounds_ne hne

/-- A held lease can always be released. -/
theorem Contention.release_of_held {c : Contention} {id : Nat} {l : Lease}
    (hl : c.leases[id]? = some l) (hs : l.state = .held) : ∃ c', c.release id = .ok c' :=
  ⟨{ (c.setLease id { l with state := .released }) with registry := c.registry.release l.key },
    by simp [Contention.release, Contention.lease?, hl, bind, Except.bind, hs, pure, Except.pure]⟩

@[simp] theorem Contention.setLease_registry (c : Contention) (id : Nat) (l : Lease) :
    (c.setLease id l).registry = c.registry := rfl

@[simp] theorem Contention.setLease_leases (c : Contention) (id : Nat) (l : Lease) :
    (c.setLease id l).leases = c.leases.setIfInBounds id l := rfl

/-! ### Lease lists -/

/-- The tickets of the leases of key `k`, in the order they were acquired. -/
def ticketsOn (leases : Array Lease) (k : String) : List Nat :=
  (leases.toList.filter fun l => l.key == k && l.state != .failed).map (·.ticket)

theorem ticketsOn_push (leases : Array Lease) (l : Lease) (k : String) :
    ticketsOn (leases.push l) k =
      ticketsOn leases k ++ if l.key = k ∧ l.state ≠ .failed then [l.ticket] else [] := by
  unfold ticketsOn
  rw [Array.toList_push, List.filter_append, List.map_append]
  by_cases h : l.key = k ∧ l.state ≠ .failed <;> simp_all

/-- Setting one entry to a value that agrees with it on the filter and the map changes
neither. -/
theorem map_filter_set {α β : Type} {p : α → Bool} {f : α → β} :
    ∀ {xs : List α} {i : Nat} {a v : α}, xs[i]? = some a → p v = p a → f v = f a →
      ((xs.set i v).filter p).map f = (xs.filter p).map f
  | [], _, _, _, h, _, _ => by simp at h
  | x :: xs, 0, a, v, h, hp, hf => by
    simp only [List.getElem?_cons_zero, Option.some.injEq] at h
    subst h
    by_cases hx : p x <;> simp [hp, hx, hf]
  | x :: xs, i + 1, a, v, h, hp, hf => by
    simp only [List.getElem?_cons_succ] at h
    by_cases hx : p x <;> simp [hx, map_filter_set h hp hf]

theorem ticketsOn_setIfInBounds {leases : Array Lease} {i : Nat} {a v : Lease}
    (hi : leases[i]? = some a) (hk : v.key = a.key) (ht : v.ticket = a.ticket)
    (hf : (v.state != .failed) = (a.state != .failed)) (k : String) :
    ticketsOn (leases.setIfInBounds i v) k = ticketsOn leases k := by
  unfold ticketsOn
  rw [Array.toList_setIfInBounds]
  exact map_filter_set (by rw [Array.getElem?_toList]; exact hi) (by rw [hk, hf]) ht

theorem mem_ticketsOn {leases : Array Lease} {i : Nat} {l : Lease} (hi : leases[i]? = some l)
    (hf : l.state ≠ .failed) : l.ticket ∈ ticketsOn leases l.key := by
  unfold ticketsOn
  refine List.mem_map.2 ⟨l, List.mem_filter.2 ⟨?_, by simp [hf]⟩, rfl⟩
  exact List.mem_of_getElem? (by rw [Array.getElem?_toList]; exact hi)

/-- Two entries that pass a filter whose image has no repeats, and agree in the image, are
one entry. -/
theorem eq_of_nodup_map_filter {α β : Type} {p : α → Bool} {f : α → β} :
    ∀ {xs : List α} {i j : Nat} {a b : α}, ((xs.filter p).map f).Nodup →
      xs[i]? = some a → xs[j]? = some b → p a → p b → f a = f b → i = j
  | [], _, _, _, _, _, ha, _, _, _, _ => by simp at ha
  | _ :: _, 0, 0, _, _, _, _, _, _, _, _ => rfl
  | x :: xs, 0, j + 1, a, b, hn, ha, hb, hpa, hpb, hab => by
    simp only [List.getElem?_cons_zero, Option.some.injEq] at ha
    subst ha
    simp only [List.filter_cons, hpa, if_true, List.map_cons, List.nodup_cons] at hn
    simp only [List.getElem?_cons_succ] at hb
    exact absurd (List.mem_map.2 ⟨b, List.mem_filter.2 ⟨List.mem_of_getElem? hb, hpb⟩,
      hab.symm⟩) hn.1
  | x :: xs, i + 1, 0, a, b, hn, ha, hb, hpa, hpb, hab => by
    simp only [List.getElem?_cons_zero, Option.some.injEq] at hb
    subst hb
    simp only [List.filter_cons, hpb, if_true, List.map_cons, List.nodup_cons] at hn
    simp only [List.getElem?_cons_succ] at ha
    exact absurd (List.mem_map.2 ⟨a, List.mem_filter.2 ⟨List.mem_of_getElem? ha, hpa⟩,
      hab⟩) hn.1
  | x :: xs, i + 1, j + 1, a, b, hn, ha, hb, hpa, hpb, hab => by
    have hn' : ((xs.filter p).map f).Nodup := by
      by_cases hx : p x
      · simp only [List.filter_cons, hx, if_true, List.map_cons, List.nodup_cons] at hn
        exact hn.2
      · simpa [List.filter_cons, hx] using hn
    simp only [List.getElem?_cons_succ] at ha hb
    exact congrArg (· + 1) (eq_of_nodup_map_filter hn' ha hb hpa hpb hab)

/-- A property of every lease survives setting one of them to a lease that has it, when every
other lease keeps it. -/
theorem forall_setIfInBounds {leases : Array Lease} {i : Nat} {a v : Lease} {P : Lease → Prop}
    (hi : leases[i]? = some a) (hv : P v) (hothers : ∀ (j : Nat) l, j ≠ i → leases[j]? = some l → P l) :
    ∀ (j : Nat) l, (leases.setIfInBounds i v)[j]? = some l → P l := by
  intro j l hj
  have hsize : i < leases.size := (Array.getElem?_eq_some_iff.1 hi).1
  rw [Array.getElem?_setIfInBounds] at hj
  by_cases hij : i = j
  · subst hij
    simp only [if_true, hsize, Option.some.injEq] at hj
    exact hj ▸ hv
  · rw [if_neg hij] at hj
    exact hothers j l (Ne.symm hij) hj

theorem forall_push {leases : Array Lease} {v : Lease} {P : Lease → Prop} (hv : P v)
    (hold : ∀ (j : Nat) l, leases[j]? = some l → P l) :
    ∀ (j : Nat) l, (leases.push v)[j]? = some l → P l := by
  intro j l hj
  rw [Array.getElem?_push] at hj
  split at hj
  · simp only [Option.some.injEq] at hj
    exact hj ▸ hv
  · exact hold j l hj

/-! ### The invariant -/

/-- How the state of a lease fits where its ticket stands against the slot of its key. -/
def Lease.Fits (s : Slot) (l : Lease) : Prop :=
  match l.state with
  | .failed => True
  | .waiting => s.serving ≤ l.ticket ∧ l.ticket ∉ s.abandoned
  | .held => l.ticket = s.serving
  | .released => l.ticket < s.serving
  | .cancelled => l.ticket < s.serving ∨ l.ticket ∈ s.abandoned

/-- The invariant of a run. -/
structure Contention.Inv (c : Contention) : Prop where
  sound : ∀ k, (c.registry.slot k).Sound
  /-- The leases of a key hold the tickets its slot handed out, each once, in order. -/
  tickets : ∀ k, ticketsOn c.leases k = List.range (c.registry.slot k).nextTicket
  fits : ∀ (i : Nat) l, c.leases[i]? = some l → l.Fits (c.registry.slot l.key)

/-- Serving the next live ticket keeps every other lease fitting, as long as none of them
holds the endpoint or waits on the ticket that was served. -/
theorem Lease.Fits.advance {s : Slot} {l : Lease} (hf : l.Fits s) (hheld : l.state ≠ .held)
    (hwait : l.state = .waiting → l.ticket ≠ s.serving) : l.Fits s.advance := by
  have hpassed := mem_of_lt_skipAbandoned (s.serving + 1) s.abandoned
  have hsub := skipAbandoned_sublist (s.serving + 1) s.abandoned
  have herased := lt_skipAbandoned_of_erased (s.serving + 1) s.abandoned
  have hle := le_skipAbandoned (s.serving + 1) s.abandoned
  rw [Slot.advance_eq]
  generalize skipAbandoned (s.serving + 1) s.abandoned = p at *
  obtain ⟨t', A'⟩ := p
  dsimp only at *
  cases hs : l.state with
  | failed => simp [Lease.Fits, hs]
  | held => exact absurd hs hheld
  | waiting =>
    simp only [Lease.Fits, hs] at hf ⊢
    have hne := hwait hs
    -- a waiting ticket was never given up, so the skip stops at it at the latest
    refine ⟨Nat.le_of_not_lt fun hlt => hf.2 (hpassed _ (by omega) hlt), ?_⟩
    exact fun hmem => hf.2 (hsub.subset hmem)
  | released =>
    simp only [Lease.Fits, hs] at hf ⊢
    omega
  | cancelled =>
    simp only [Lease.Fits, hs] at hf ⊢
    rcases hf with hlt | hmem
    · left; omega
    · by_cases hkept : l.ticket ∈ A'
      · exact .inr hkept
      · exact .inl (herased _ hmem hkept)

/-- Marking a ticket as given up keeps every other lease fitting. -/
theorem Lease.Fits.abandon {s : Slot} {l : Lease} {t : Nat} (hf : l.Fits s)
    (hwait : l.state = .waiting → l.ticket ≠ t) :
    l.Fits { s with abandoned := s.abandoned ++ [t] } := by
  cases hs : l.state with
  | waiting =>
    simp only [Lease.Fits, hs] at hf ⊢
    have hne := hwait hs
    exact ⟨hf.1, by simp [hf.2, hne]⟩
  | cancelled =>
    simp only [Lease.Fits, hs] at hf ⊢
    rcases hf with hlt | hmem
    · exact .inl hlt
    · exact .inr (List.mem_append_left _ hmem)
  | failed => simp [Lease.Fits, hs]
  | held | released => simpa only [Lease.Fits, hs] using hf

theorem Contention.Inv.ticket_lt {c : Contention} (hc : c.Inv) {i : Nat} {l : Lease}
    (hl : c.leases[i]? = some l) (hf : l.state ≠ .failed) :
    l.ticket < (c.registry.slot l.key).nextTicket := by
  have hmem := mem_ticketsOn hl hf
  rw [hc.tickets] at hmem
  exact List.mem_range.1 hmem

/-- Two leases of one key with one ticket are one lease. -/
theorem Contention.Inv.index_eq {c : Contention} (hc : c.Inv) {i j : Nat} {l l' : Lease}
    (hl : c.leases[i]? = some l) (hl' : c.leases[j]? = some l') (hk : l.key = l'.key)
    (hf : l.state ≠ .failed) (hf' : l'.state ≠ .failed) (ht : l.ticket = l'.ticket) : i = j := by
  have hn : (ticketsOn c.leases l.key).Nodup := by
    rw [hc.tickets]
    exact List.nodup_range
  exact eq_of_nodup_map_filter hn (by rw [Array.getElem?_toList]; exact hl)
    (by rw [Array.getElem?_toList]; exact hl') (by simp [hf]) (by simp [hk, hf']) ht

/-- The leases of a key below the ticket served were released or given up. -/
theorem Contention.Inv.below_serving {c : Contention} (hc : c.Inv) {i : Nat} {l : Lease}
    (hl : c.leases[i]? = some l) (hf : l.state ≠ .failed)
    (hlt : l.ticket < (c.registry.slot l.key).serving) :
    l.state = .released ∨ l.state = .cancelled := by
  have hfit := hc.fits i l hl
  cases hs : l.state with
  | failed => exact absurd hs hf
  | waiting => simp only [Lease.Fits, hs] at hfit; omega
  | held => simp only [Lease.Fits, hs] at hfit; omega
  | released => exact .inl rfl
  | cancelled => exact .inr rfl

/-! ### Every step keeps the invariant -/

theorem Contention.Inv.init : ({} : Contention).Inv where
  sound _ := Slot.sound_empty
  tickets _ := rfl
  fits _ _ h := by simp at h

theorem Contention.Inv.acquire {c : Contention} (hc : c.Inv) (endpoint : Value) :
    (c.acquire endpoint).2.2.Inv := by
  rcases c.acquire_cases endpoint with ⟨f, -, h⟩ | ⟨k, -, h⟩
  · -- a failed acquisition only adds a failed lease
    rw [h]
    refine ⟨hc.sound, fun k => ?_, forall_push (by simp [Lease.Fits]) hc.fits⟩
    simp [ticketsOn_push, hc.tickets k]
  · rw [h]
    refine ⟨fun k' => ?_, fun k' => ?_, forall_push ?_ fun j l hl => ?_⟩
    · by_cases hk : k' = k
      · subst hk; simpa using (hc.sound k').take
      · simpa [hk] using hc.sound k'
    · by_cases hk : k' = k
      · subst hk
        have hne : (if (c.registry.slot k').serving = (c.registry.slot k').nextTicket then
            LeaseState.held else .waiting) ≠ .failed := by split <;> simp
        simp [ticketsOn_push, hc.tickets k', hne, List.range_succ]
      · simp [ticketsOn_push, hc.tickets k', hk, Ne.symm hk]
    · -- the new lease holds the endpoint when its ticket is served at once, else it waits
      have hsound := hc.sound k
      simp only [Registry.slot_setSlot, if_true, Slot.take_snd]
      split
      · simp_all [Lease.Fits]
      · simp only [Lease.Fits]
        refine ⟨hsound.serving_le, fun hmem => ?_⟩
        have := (hsound.abandoned_between _ hmem).2
        omega
    · have hfit := hc.fits j l hl
      by_cases hk : l.key = k
      · simp only [Registry.slot_setSlot, hk, if_true, Slot.take_snd]
        rw [hk] at hfit
        exact hfit
      · simpa [hk] using hfit

theorem Contention.Inv.wake {c : Contention} (hc : c.Inv) {id : Nat} {l : Lease}
    (hl : c.leases[id]? = some l) (hw : l.state = .waiting)
    (hs : (c.registry.slot l.key).serving = l.ticket) :
    (c.setLease id { l with state := .held }).Inv := by
  refine ⟨hc.sound, fun k => ?_, ?_⟩
  · simp only [Contention.setLease_leases, Contention.setLease_registry]
    rw [ticketsOn_setIfInBounds (v := { l with state := .held }) hl rfl rfl
      (by rw [hw]; rfl),
      hc.tickets k]
  · simp only [Contention.setLease_leases, Contention.setLease_registry]
    exact forall_setIfInBounds hl hs.symm fun j l' _ hl' => hc.fits j l' hl'

theorem Contention.Inv.release {c c' : Contention} (hc : c.Inv) {id : Nat}
    (h : c.release id = .ok c') : c'.Inv := by
  obtain ⟨l, hl, ⟨hheld, rfl⟩ | ⟨-, rfl⟩⟩ := Contention.release_eq_ok h
  · have hserved : l.ticket = (c.registry.slot l.key).serving := by
      simpa [Lease.Fits, hheld] using hc.fits id l hl
    have hlt := hc.ticket_lt hl (by simp [hheld])
    -- no other lease of the key holds the endpoint or waits on the served ticket
    have hother : ∀ j l', j ≠ id → c.leases[j]? = some l' → l'.key = l.key →
        l'.state = .held ∨ l'.state = .waiting → l'.ticket ≠ (c.registry.slot l.key).serving :=
      fun j l' hj hl' hk hs ht =>
        hj (hc.index_eq hl' hl hk (by rcases hs with hs | hs <;> simp [hs])
          (by simp [hheld]) (ht.trans hserved.symm))
    refine ⟨fun k => ?_, fun k => ?_, ?_⟩
    · by_cases hk : k = l.key
      · simpa [hk] using (hc.sound l.key).advance (by omega)
      · simpa [hk] using hc.sound k
    · dsimp only
      rw [ticketsOn_setIfInBounds (v := { l with state := .released }) hl rfl rfl
        (by rw [hheld]; rfl), hc.tickets k]
      by_cases hk : k = l.key
      · simp [hk]
      · simp [hk]
    · refine forall_setIfInBounds hl ?_ fun j l' hj hl' => ?_
      · simpa [Lease.Fits, hserved] using Slot.lt_advance_serving (c.registry.slot l.key)
      · have hfit := hc.fits j l' hl'
        by_cases hk : l'.key = l.key
        · simp only [Registry.slot_release, hk, if_true]
          rw [hk] at hfit
          exact hfit.advance (fun hs => hother j l' hj hl' hk (.inl hs) (by
              simpa [Lease.Fits, hs, hk] using hc.fits j l' hl'))
            (fun hs => hother j l' hj hl' hk (.inr hs))
        · simpa [hk] using hfit
  · exact hc

theorem Contention.Inv.cancel {c c' : Contention} (hc : c.Inv) {id : Nat}
    (h : c.cancel id = .ok c') : c'.Inv := by
  obtain ⟨l, hl, hw, rfl⟩ := Contention.cancel_eq_ok h
  have hwaiting : (c.registry.slot l.key).serving ≤ l.ticket ∧
      l.ticket ∉ (c.registry.slot l.key).abandoned := by
    simpa [Lease.Fits, hw] using hc.fits id l hl
  have hlt := hc.ticket_lt hl (by simp [hw])
  -- every other lease of the key has another ticket
  have hother : ∀ j l', j ≠ id → c.leases[j]? = some l' → l'.key = l.key → l'.state ≠ .failed →
      l'.ticket ≠ l.ticket :=
    fun j l' hj hl' hk hf ht => hj (hc.index_eq hl' hl hk hf (by simp [hw]) ht)
  refine ⟨fun k => ?_, fun k => ?_, ?_⟩
  · by_cases hk : k = l.key
    · simpa [hk] using (hc.sound l.key).giveUp hwaiting.1 hlt hwaiting.2
    · simpa [hk] using hc.sound k
  · dsimp only
    rw [ticketsOn_setIfInBounds (v := { l with state := .cancelled }) hl rfl rfl
      (by rw [hw]; rfl), hc.tickets k]
    by_cases hk : k = l.key
    · simp [hk]
    · simp [hk]
  · by_cases hs : (c.registry.slot l.key).serving = l.ticket
    · -- the waiter was being served: the slot moves on past it
      refine forall_setIfInBounds hl ?_ fun j l' hj hl' => ?_
      · simp only [Registry.slot_giveUp, if_true, Slot.giveUp_of_served hs]
        exact .inl (hs ▸ Slot.lt_advance_serving _)
      · have hfit := hc.fits j l' hl'
        by_cases hk : l'.key = l.key
        · simp only [Registry.slot_giveUp, hk, if_true, Slot.giveUp_of_served hs]
          rw [hk] at hfit
          refine hfit.advance (fun hh => ?_) (fun hw' => ?_)
          · refine hother j l' hj hl' hk (by simp [hh]) ?_
            simpa [Lease.Fits, hh, hk, hs] using hc.fits j l' hl'
          · exact fun ht => hother j l' hj hl' hk (by simp [hw']) (ht.trans hs)
        · simpa [hk] using hfit
    · -- the waiter was queued: its ticket is marked as given up
      refine forall_setIfInBounds hl ?_ fun j l' hj hl' => ?_
      · simp only [Registry.slot_giveUp, if_true, Slot.giveUp_of_queued hs hwaiting.2]
        exact .inr (List.mem_append_right _ (List.mem_singleton_self _))
      · have hfit := hc.fits j l' hl'
        by_cases hk : l'.key = l.key
        · simp only [Registry.slot_giveUp, hk, if_true, Slot.giveUp_of_queued hs hwaiting.2]
          rw [hk] at hfit
          exact hfit.abandon fun hw' => hother j l' hj hl' hk (by simp [hw'])
        · simpa [hk] using hfit

theorem Contention.Inv.step {c c' : Contention} (hc : c.Inv) (h : c.Step c') : c'.Inv := by
  cases h with
  | acquire endpoint => exact hc.acquire endpoint
  | wake hl hw hs => exact hc.wake hl hw hs
  | release _ h => exact hc.release h
  | cancel _ h => exact hc.cancel h

theorem Contention.Reachable.inv {c : Contention} (h : c.Reachable) : c.Inv := by
  induction h with
  | init => exact Contention.Inv.init
  | step _ hstep ih => exact ih.step hstep

/-! ### The properties of the lock -/

/-- The leases that hold the endpoint of key `k`. -/
def Contention.heldOn (c : Contention) (k : String) : List Lease :=
  c.leases.toList.filter fun l => l.key == k && l.state == .held

/-- Whether some operation holds or waits for the endpoint of key `k`. -/
def Contention.busy (c : Contention) (k : String) : Bool :=
  c.leases.any fun l => l.key == k && (l.state == .held || l.state == .waiting)

/-- A step serves leases in ticket order: a lease it grants comes after every lease of its key
granted before it, and every lease of its key with a smaller ticket was released or given up
before it. -/
def Contention.GrantsInOrder (c c' : Contention) : Prop :=
  ∀ (i : Nat) l', c'.leases[i]? = some l' → l'.granted →
    (∀ l, c.leases[i]? = some l → ¬ l.granted) →
    ∀ (j : Nat) l, c.leases[j]? = some l → l.key = l'.key → l.state ≠ .failed →
      (l.granted → l.ticket < l'.ticket) ∧
      (l.ticket < l'.ticket → l.state = .released ∨ l.state = .cancelled)

/-- What the ticket lock guarantees in a state of a run. -/
structure Contention.Safe (c : Contention) : Prop where
  serving_le : ∀ k, (c.registry.slot k).serving ≤ (c.registry.slot k).nextTicket
  abandoned_between : ∀ k, ∀ t ∈ (c.registry.slot k).abandoned,
    (c.registry.slot k).serving < t ∧ t < (c.registry.slot k).nextTicket
  /-- At most one lease holds an endpoint, -/
  held_unique : ∀ k, (c.heldOn k).length ≤ 1
  /-- and it holds the ticket being served. -/
  held_serving : ∀ k, ∀ l ∈ c.heldOn k, l.ticket = (c.registry.slot k).serving
  grants_in_order : ∀ c', c.Step c' → c.GrantsInOrder c'
  /-- Releasing a second time changes nothing. -/
  release_twice : ∀ (id : Nat) c', c.release id = .ok c' → c'.release id = .ok c'
  /-- An endpoint is locked exactly when some operation holds it or waits for it. -/
  locked_iff_busy : ∀ endpoint, c.registry.isLocked endpoint = (endpointKey endpoint).map c.busy

theorem Contention.Inv.heldOn_serving {c : Contention} (hc : c.Inv) (k : String) :
    ∀ l ∈ c.heldOn k, l.ticket = (c.registry.slot k).serving := by
  intro l hl
  obtain ⟨hmem, hp⟩ := List.mem_filter.1 hl
  simp only [Bool.and_eq_true, beq_iff_eq] at hp
  obtain ⟨i, hi⟩ := List.mem_iff_getElem?.1 hmem
  rw [Array.getElem?_toList] at hi
  simpa [Lease.Fits, hp.1, hp.2] using hc.fits i l hi

theorem Contention.Inv.heldOn_length {c : Contention} (hc : c.Inv) (k : String) :
    (c.heldOn k).length ≤ 1 := by
  -- the tickets of the holders are among the tickets of the key, which never repeat
  have hsub : ((c.heldOn k).map (·.ticket)).Sublist (ticketsOn c.leases k) := by
    unfold Contention.heldOn ticketsOn
    apply List.Sublist.map
    have hfilter : (c.leases.toList.filter fun l => l.key == k && l.state == .held) =
        (c.leases.toList.filter fun l => l.key == k && l.state != .failed).filter
          fun l => l.key == k && l.state == .held := by
      rw [List.filter_filter]
      congr 1
      funext l
      cases l.state <;> simp
    rw [hfilter]
    exact List.filter_sublist
  have hnodup : ((c.heldOn k).map (·.ticket)).Nodup := by
    rw [hc.tickets] at hsub
    exact List.nodup_range.sublist hsub
  have hall : ∀ t ∈ (c.heldOn k).map (·.ticket), t = (c.registry.slot k).serving := by
    intro t ht
    obtain ⟨l, hl, rfl⟩ := List.mem_map.1 ht
    exact hc.heldOn_serving k l hl
  rw [List.eq_replicate_iff.2 ⟨rfl, hall⟩, List.nodup_replicate] at hnodup
  simpa using hnodup

theorem Contention.Inv.held_eq_busy {c : Contention} (hc : c.Inv) (k : String) :
    (c.registry.slot k).held = c.busy k := by
  have hsound := hc.sound k
  apply Bool.eq_iff_iff.2
  unfold Contention.busy Slot.held
  rw [Array.any_eq_true']
  constructor
  · -- the ticket served was handed out, to a lease that can only hold or wait
    intro h
    have hlt : (c.registry.slot k).serving < (c.registry.slot k).nextTicket := by
      have := hsound.serving_le
      simp only [bne_iff_ne, ne_eq] at h
      omega
    have hmem : (c.registry.slot k).serving ∈ ticketsOn c.leases k := by
      rw [hc.tickets]
      exact List.mem_range.2 hlt
    obtain ⟨l, hl, hticket⟩ := List.mem_map.1 hmem
    obtain ⟨hlmem, hp⟩ := List.mem_filter.1 hl
    simp only [Bool.and_eq_true, beq_iff_eq, bne_iff_ne, ne_eq] at hp
    obtain ⟨i, hi⟩ := List.mem_iff_getElem?.1 hlmem
    rw [Array.getElem?_toList] at hi
    have hfit := hc.fits i l hi
    rw [hp.1] at hfit
    refine ⟨l, Array.mem_of_getElem? hi, ?_⟩
    cases hs : l.state with
    | failed => exact absurd hs hp.2
    | waiting => simp [hp.1]
    | held => simp [hp.1]
    | released => simp only [Lease.Fits, hs] at hfit; omega
    | cancelled =>
      simp only [Lease.Fits, hs] at hfit
      rcases hfit with hlt' | hab
      · omega
      · have := (hsound.abandoned_between _ hab).1
        omega
  · -- a holder holds the ticket served, a waiter one not yet served
    rintro ⟨l, hl, hp⟩
    simp only [Bool.and_eq_true, beq_iff_eq, Bool.or_eq_true] at hp
    obtain ⟨i, hi⟩ := Array.mem_iff_getElem?.1 hl
    have hfit := hc.fits i l hi
    rw [hp.1] at hfit
    rcases hp.2 with hs | hs
    · have := hc.ticket_lt hi (by simp [hs])
      simp only [Lease.Fits, hs, hp.1] at hfit this
      simp only [bne_iff_ne, ne_eq]
      omega
    · have := hc.ticket_lt hi (by simp [hs])
      simp only [Lease.Fits, hs, hp.1] at hfit this
      simp only [bne_iff_ne, ne_eq]
      omega

theorem Contention.Inv.isLocked_eq {c : Contention} (hc : c.Inv) (endpoint : Value) :
    c.registry.isLocked endpoint = (endpointKey endpoint).map c.busy := by
  rw [Registry.isLocked_eq]
  cases endpointKey endpoint with
  | error f => rfl
  | ok k => exact congrArg Except.ok (hc.held_eq_busy k)

/-- A lease granted at the ticket its slot serves, while no lease of its key holds the
endpoint, comes after every lease of its key granted before it. -/
theorem Contention.Inv.served_after {c : Contention} (hc : c.Inv) {k : String} {t : Nat}
    (ht : t = (c.registry.slot k).serving)
    (hfree : ∀ (j : Nat) l, c.leases[j]? = some l → l.key = k → l.state ≠ .held) :
    ∀ (j : Nat) l, c.leases[j]? = some l → l.key = k → l.state ≠ .failed →
      (l.granted → l.ticket < t) ∧
      (l.ticket < t → l.state = .released ∨ l.state = .cancelled) := by
  intro j l hl hk hf
  refine ⟨fun hg => ?_, fun hlt => hc.below_serving hl hf (by rw [hk, ← ht]; exact hlt)⟩
  rcases hg with hh | hr
  · exact absurd hh (hfree j l hl hk)
  · have hfit := hc.fits j l hl
    simp only [Lease.Fits, hr, hk] at hfit
    omega

theorem getElem?_setIfInBounds_cases {leases : Array Lease} {id i : Nat} {v l : Lease}
    (h : (leases.setIfInBounds id v)[i]? = some l) : (i = id ∧ l = v) ∨ leases[i]? = some l := by
  rw [Array.getElem?_setIfInBounds] at h
  by_cases hi : id = i
  · subst hi
    rw [if_pos rfl] at h
    by_cases hs : id < leases.size
    · rw [if_pos hs] at h
      exact .inl ⟨rfl, (Option.some.inj h).symm⟩
    · rw [if_neg hs] at h
      cases h
  · exact .inr (by rwa [if_neg hi] at h)

/-- Only an acquisition served at once and a wake-up grant a lease, each at the ticket being
served while no lease of the key holds it; releases and interruptions grant nothing. -/
theorem Contention.Inv.grantsInOrder {c c' : Contention} (hc : c.Inv) (h : c.Step c') :
    c.GrantsInOrder c' := by
  intro i l' hl' hg hnew
  cases h with
  | acquire endpoint =>
    rcases c.acquire_cases endpoint with ⟨f, -, h⟩ | ⟨k, -, h⟩
    · rw [h, Array.getElem?_push] at hl'
      split at hl'
      · cases hl'
        simp [Lease.granted] at hg
      · exact absurd hg (hnew l' hl')
    · rw [h, Array.getElem?_push] at hl'
      split at hl'
      · cases hl'
        split at hg
        · -- served at once: every earlier ticket of the key lies below the one served
          rename_i hserved
          refine hc.served_after hserved.symm fun j l hl hk hh => ?_
          have hlt := hc.ticket_lt hl (by simp [hh])
          have hfit := hc.fits j l hl
          simp only [Lease.Fits, hh, hk] at hfit hlt
          omega
        · simp [Lease.granted] at hg
      · exact absurd hg (hnew l' hl')
  | wake hl hw hs =>
    rcases getElem?_setIfInBounds_cases hl' with ⟨rfl, rfl⟩ | hold
    · refine hc.served_after hs.symm fun j l0 hl0 hk hh => ?_
      have hfit := hc.fits j l0 hl0
      simp only [Lease.Fits, hh, hk] at hfit
      have := hc.index_eq hl0 hl hk (by simp [hh]) (by simp [hw]) (hfit.trans hs)
      subst this
      rw [hl] at hl0
      cases hl0
      rw [hw] at hh
      cases hh
    · exact absurd hg (hnew l' hold)
  | release id h =>
    obtain ⟨l, hl, ⟨hheld, rfl⟩ | ⟨-, rfl⟩⟩ := Contention.release_eq_ok h
    · rcases getElem?_setIfInBounds_cases hl' with ⟨rfl, -⟩ | hold
      · exact absurd (.inl hheld) (hnew l hl)
      · exact absurd hg (hnew l' hold)
    · exact absurd hg (hnew l' hl')
  | cancel id h =>
    obtain ⟨l, hl, -, rfl⟩ := Contention.cancel_eq_ok h
    rcases getElem?_setIfInBounds_cases hl' with ⟨-, rfl⟩ | hold
    · simp [Lease.granted] at hg
    · exact absurd hg (hnew l' hold)

theorem Contention.release_release {c c' : Contention} {id : Nat} (h : c.release id = .ok c') :
    c'.release id = .ok c' := by
  obtain ⟨l, hl, ⟨-, rfl⟩ | ⟨hrel, rfl⟩⟩ := Contention.release_eq_ok h
  · have hsize : id < c.leases.size := (Array.getElem?_eq_some_iff.1 hl).1
    exact Contention.release_of_released (l := { l with state := .released })
      (by simp [Array.getElem?_setIfInBounds_self_of_lt hsize]) rfl
  · exact Contention.release_of_released hl hrel

/-- **The ticket lock is safe.** In every state that threads reach from an empty registry, by
any interleaving of acquisitions, wake-ups, releases and interruptions: the served ticket
never passes the next one, given-up tickets lie strictly between them, at most one lease holds
an endpoint and it holds the served ticket, every step grants in ticket order, a second
release changes nothing, and an endpoint is locked exactly when some lease holds or waits for
it. -/
theorem ticket_lock_safe {c : Contention} (hc : c.Reachable) : c.Safe := by
  have hinv := hc.inv
  exact { serving_le := fun k => (hinv.sound k).serving_le
          abandoned_between := fun k => (hinv.sound k).abandoned_between
          held_unique := hinv.heldOn_length
          held_serving := hinv.heldOn_serving
          grants_in_order := fun _ h => hinv.grantsInOrder h
          release_twice := fun _ _ h => Contention.release_release h
          locked_iff_busy := hinv.isLocked_eq }

/-- Two spellings of one controller share one lock: after acquiring both, the state is safe. -/
theorem ticket_lock_safe_two_spellings :
    let c := ((({} : Contention).acquire (.str "10.0.0.5")).2.2.acquire
      (.str "HTTPS://10.0.0.5/")).2.2
    c.Reachable ∧ c.Safe :=
  have hc : Contention.Reachable _ := .step (.step .init (.acquire _ _)) (.acquire _ _)
  ⟨hc, ticket_lock_safe hc⟩

end VolumeLifecycle.Lock
