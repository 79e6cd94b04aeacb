import VolumeLifecycle.Document.Value
/-!
# Ticket slots

The lock of one endpoint is a **ticket lock**: each acquirer takes the next ticket, and the
slot serves tickets one at a time in the order they were taken. A slot holds the next
ticket to hand out, the ticket being served, and the tickets whose holders gave up while
waiting.

* `Slot.take` hands out the next ticket;
* `Slot.advance` serves the next ticket that was not given up, discarding the given-up
  tickets it passes;
* `Slot.giveUp` withdraws a waiting ticket: when it is the one being served the slot moves
  on, otherwise the ticket is remembered as given up;
* the slot is **held** exactly when some ticket handed out has not been served past, that
  is when `nextTicket ≠ serving`.

`advance` ends because each ticket it skips is removed from the finite set of given-up
tickets.
-/

namespace VolumeLifecycle.Lock

/-- The ticket lock of one endpoint. -/
structure Slot where
  nextTicket : Nat := 0
  serving : Nat := 0
  abandoned : List Nat := []
  deriving DecidableEq

/-- Whether some operation holds or waits for the slot. -/
def Slot.held (s : Slot) : Bool := s.nextTicket != s.serving

/-- The first ticket from `ticket` on that was not given up, with the given-up tickets
passed on the way removed. -/
def skipAbandoned (ticket : Nat) (abandoned : List Nat) : Nat × List Nat :=
  if h : ticket ∈ abandoned then
    skipAbandoned (ticket + 1) (abandoned.erase ticket)
  else (ticket, abandoned)
termination_by abandoned.length
decreasing_by
  have := List.length_erase_of_mem h
  have := List.length_pos_of_mem h
  omega

/-- Serve the next live ticket. -/
def Slot.advance (s : Slot) : Slot :=
  let (serving, abandoned) := skipAbandoned (s.serving + 1) s.abandoned
  { s with serving, abandoned }

/-- Hand out the next ticket. -/
def Slot.take (s : Slot) : Nat × Slot :=
  (s.nextTicket, { s with nextTicket := s.nextTicket + 1 })

/-- Withdraw the waiting ticket `ticket`. -/
def Slot.giveUp (s : Slot) (ticket : Nat) : Slot :=
  if s.serving == ticket then s.advance
  else if s.abandoned.contains ticket then s
  else { s with abandoned := s.abandoned ++ [ticket] }

end VolumeLifecycle.Lock
