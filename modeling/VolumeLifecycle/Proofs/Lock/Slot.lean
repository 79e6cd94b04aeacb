import VolumeLifecycle.Lock.Registry
import VolumeLifecycle.Proofs.Document.Entries
/-!
# VolumeLifecycle.Proofs.Lock.Slot

**The ticket slot of one endpoint.** A slot is sound (`Slot.Sound`) when the ticket served
never passes the next ticket to hand out, and every given-up ticket lies strictly between the
two, once. Taking a ticket keeps a sound slot sound; so does serving the next live ticket
while some ticket is being served, and so does giving up a ticket that waits in the queue.

The one loop of the slot is `skipAbandoned`, which walks past given-up tickets, erasing each.
Everything later proofs need of it is read off five facts, each by functional induction:
it never goes back, every ticket it passes was given up, it stops on a ticket that was not,
what it keeps is a sublist of what it got, and what it erases lies below where it stops.

The registry part restates lookups through `setSlot`, `isLocked` and `take` in terms of
`Registry.slot`, so the contention proofs never unfold the list of slots.
-/

namespace VolumeLifecycle.Lock

open VolumeLifecycle.Value

/-! ### Skipping given-up tickets -/

theorem le_skipAbandoned (t : Nat) (A : List Nat) : t ≤ (skipAbandoned t A).1 := by
  fun_induction skipAbandoned t A with
  | case1 t A h ih => omega
  | case2 t A h => simp

/-- Every ticket the loop walks past was given up. -/
theorem mem_of_lt_skipAbandoned (t : Nat) (A : List Nat) :
    ∀ u, t ≤ u → u < (skipAbandoned t A).1 → u ∈ A := by
  fun_induction skipAbandoned t A with
  | case1 t A h ih =>
    intro u hu hlt
    by_cases hut : u = t
    · subst hut; exact h
    · exact List.mem_of_mem_erase (ih u (by omega) hlt)
  | case2 t A h =>
    intro u hu hlt
    simp at hlt
    omega

theorem skipAbandoned_not_mem (t : Nat) (A : List Nat) :
    (skipAbandoned t A).1 ∉ (skipAbandoned t A).2 := by
  fun_induction skipAbandoned t A with
  | case1 t A h ih => exact ih
  | case2 t A h => exact h

theorem skipAbandoned_sublist (t : Nat) (A : List Nat) : (skipAbandoned t A).2.Sublist A := by
  fun_induction skipAbandoned t A with
  | case1 t A h ih => exact ih.trans List.erase_sublist
  | case2 t A h => exact List.Sublist.refl A

/-- A given-up ticket the loop erased lies below where it stops. -/
theorem lt_skipAbandoned_of_erased (t : Nat) (A : List Nat) :
    ∀ u ∈ A, u ∉ (skipAbandoned t A).2 → u < (skipAbandoned t A).1 := by
  fun_induction skipAbandoned t A with
  | case1 t A h ih =>
    intro u hu hout
    by_cases hut : u = t
    · have := le_skipAbandoned (t + 1) (A.erase t)
      omega
    · exact ih u ((List.mem_erase_of_ne hut).2 hu) hout
  | case2 t A h =>
    intro u hu hout
    exact absurd hu hout

/-- Without repeated tickets, what the loop keeps lies outside the range it walked. -/
theorem skipAbandoned_kept (t : Nat) (A : List Nat) (hA : A.Nodup) :
    ∀ u ∈ (skipAbandoned t A).2, u < t ∨ (skipAbandoned t A).1 ≤ u := by
  fun_induction skipAbandoned t A with
  | case1 t A h ih =>
    intro u hu
    rcases ih (hA.erase t) u hu with hlt | hle
    · by_cases hut : u = t
      · subst hut
        exact absurd ((skipAbandoned_sublist _ _).subset hu) hA.not_mem_erase
      · left; omega
    · right; exact hle
  | case2 t A h =>
    intro u _
    omega

/-! ### Sound slots -/

/-- The invariant of one slot. -/
structure Slot.Sound (s : Slot) : Prop where
  serving_le : s.serving ≤ s.nextTicket
  abandoned_between : ∀ t ∈ s.abandoned, s.serving < t ∧ t < s.nextTicket
  abandoned_nodup : s.abandoned.Nodup

theorem Slot.sound_empty : ({} : Slot).Sound :=
  ⟨Nat.le_refl 0, fun _ h => by simp at h, List.nodup_nil⟩

theorem Slot.advance_eq (s : Slot) :
    s.advance = { s with serving := (skipAbandoned (s.serving + 1) s.abandoned).1,
                         abandoned := (skipAbandoned (s.serving + 1) s.abandoned).2 } := rfl

@[simp] theorem Slot.advance_nextTicket (s : Slot) : s.advance.nextTicket = s.nextTicket := rfl

theorem Slot.lt_advance_serving (s : Slot) : s.serving < s.advance.serving :=
  Nat.lt_of_lt_of_le (Nat.lt_succ_self _) (le_skipAbandoned _ _)

/-- Serving the next live ticket, while some ticket is served, keeps the slot sound. -/
theorem Slot.Sound.advance {s : Slot} (h : s.Sound) (hlt : s.serving < s.nextTicket) :
    s.advance.Sound := by
  rw [Slot.advance_eq]
  have hpassed := mem_of_lt_skipAbandoned (s.serving + 1) s.abandoned
  have hstop := skipAbandoned_not_mem (s.serving + 1) s.abandoned
  have hsub := skipAbandoned_sublist (s.serving + 1) s.abandoned
  have hkept := skipAbandoned_kept (s.serving + 1) s.abandoned h.abandoned_nodup
  generalize skipAbandoned (s.serving + 1) s.abandoned = p at *
  obtain ⟨t', A'⟩ := p
  dsimp only at *
  -- the loop stops at the latest on `nextTicket`, which was never given up
  have hle : t' ≤ s.nextTicket := by
    apply Nat.le_of_not_lt
    intro hgt
    have := (h.abandoned_between _ (hpassed s.nextTicket (by omega) (by omega))).2
    omega
  refine ⟨hle, fun u hu => ?_, h.abandoned_nodup.sublist hsub⟩
  have hold := h.abandoned_between u (hsub.subset hu)
  have hne : u ≠ t' := fun he => hstop (he ▸ hu)
  rcases hkept u hu with hlt' | hge
  · omega
  · exact ⟨Nat.lt_of_le_of_ne hge (Ne.symm hne), hold.2⟩

@[simp] theorem Slot.take_fst (s : Slot) : s.take.1 = s.nextTicket := rfl

@[simp] theorem Slot.take_snd (s : Slot) :
    s.take.2 = { s with nextTicket := s.nextTicket + 1 } := rfl

theorem Slot.Sound.take {s : Slot} (h : s.Sound) : s.take.2.Sound := by
  refine ⟨Nat.le_succ_of_le h.serving_le, fun t ht => ?_, h.abandoned_nodup⟩
  have := h.abandoned_between t ht
  simp only [Slot.take_snd]
  omega

theorem Slot.giveUp_of_served {s : Slot} {t : Nat} (h : s.serving = t) :
    s.giveUp t = s.advance := by
  simp [Slot.giveUp, h]

theorem Slot.giveUp_of_queued {s : Slot} {t : Nat} (h : s.serving ≠ t) (ht : t ∉ s.abandoned) :
    s.giveUp t = { s with abandoned := s.abandoned ++ [t] } := by
  simp [Slot.giveUp, h, ht]

@[simp] theorem Slot.giveUp_nextTicket (s : Slot) (t : Nat) :
    (s.giveUp t).nextTicket = s.nextTicket := by
  unfold Slot.giveUp
  split
  · rfl
  · split <;> rfl

/-- A ticket handed out and not yet served can be given up soundly. -/
theorem Slot.Sound.giveUp {s : Slot} {t : Nat} (h : s.Sound) (hle : s.serving ≤ t)
    (hlt : t < s.nextTicket) (ht : t ∉ s.abandoned) : (s.giveUp t).Sound := by
  by_cases hs : s.serving = t
  · rw [Slot.giveUp_of_served hs]
    exact h.advance (by omega)
  · rw [Slot.giveUp_of_queued hs ht]
    refine ⟨h.serving_le, fun u hu => ?_, ?_⟩
    · rcases List.mem_append.1 hu with hu | hu
      · exact h.abandoned_between u hu
      · simp only [List.mem_singleton] at hu
        subst hu
        exact ⟨Nat.lt_of_le_of_ne hle hs, hlt⟩
    · refine List.nodup_append.2 ⟨h.abandoned_nodup, by simp, fun a ha b hb hab => ?_⟩
      simp only [List.mem_singleton] at hb
      subst hb hab
      exact ht ha

/-! ### The registry through `Registry.slot` -/

@[simp] theorem Registry.slot_empty (k : String) : ({} : Registry).slot k = {} := rfl

@[simp] theorem Registry.slot_setSlot (r : Registry) (k k' : String) (s : Slot) :
    (r.setSlot k s).slot k' = if k' = k then s else r.slot k' := by
  unfold Registry.slot Registry.setSlot
  rw [lookup_insert]
  split <;> rfl

theorem Registry.isLocked_eq (r : Registry) (endpoint : Value) :
    r.isLocked endpoint = (endpointKey endpoint).map fun k => (r.slot k).held := by
  unfold Registry.isLocked Registry.slot
  cases endpointKey endpoint with
  | error f => rfl
  | ok k =>
    show Except.ok ((Option.map Slot.held (lookup r.slots k)).getD false) =
      Except.ok ((lookup r.slots k).getD {}).held
    cases lookup r.slots k <;> rfl

theorem Registry.take_eq (r : Registry) (endpoint : Value) :
    r.take endpoint = (endpointKey endpoint).map fun k =>
      (k, (r.slot k).nextTicket, (r.slot k).serving == (r.slot k).nextTicket,
        r.setSlot k (r.slot k).take.2) := by
  unfold Registry.take
  cases endpointKey endpoint <;> rfl

@[simp] theorem Registry.slot_release (r : Registry) (k k' : String) :
    (r.release k).slot k' = if k' = k then (r.slot k).advance else r.slot k' :=
  Registry.slot_setSlot _ _ _ _

@[simp] theorem Registry.slot_giveUp (r : Registry) (k k' : String) (t : Nat) :
    (r.giveUp k t).slot k' = if k' = k then (r.slot k).giveUp t else r.slot k' :=
  Registry.slot_setSlot _ _ _ _

end VolumeLifecycle.Lock
