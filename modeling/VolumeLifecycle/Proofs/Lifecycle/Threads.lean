import Mathlib.Logic.Function.Basic
import VolumeLifecycle.Proofs.Lifecycle.Verbs
import VolumeLifecycle.Proofs.Lock.Contention
import VolumeLifecycle.Proofs.Lock.Key
/-!
# VolumeLifecycle.Proofs.Lifecycle.Threads

**Verbs of several threads run as if each ran alone.** Threads call verbs on components that
share one lock registry; several threads may call on one component, and several components may
share an endpoint. What they share is the world (`Threads`): the ticket lock (`Contention`), the
site of each endpoint key (the controller there, with its clock and journal), and the fields of
each component, which a run of a verb reads and writes.

A thread's call (`Component.call`) is its check, then its run under the lock of its endpoint, as
the verbs are (`Component.verbs_eq_call`). Its steps (`Threads.Step`) are atomic: the check,
taking a ticket, entering the critical section once the lease holds, each request or wait inside
it, and leaving it, which writes the component's fields and releases the lease; the lock wakes
waiting leases, and a waiting thread may be interrupted. Inside its critical section a thread
makes the events of its run alone from the station it found on entering, one per step, against
the site as it stands then: the controller answers a request from its present state
(`Site.perform`). A thread that would get another answer, or find its component's fields changed,
goes astray, and its further steps are not modelled.

In every world that any interleaving reaches, `verbs_run_alone` gives what `Threads.Serial`
says: two threads in their critical sections are on different keys; the site of a thread's key is
the site it found after exactly its own events so far; no thread goes astray; a thread that
returned returned what its call returns alone from the station it found; and a thread inside can
always go on. The proof is one invariant (`Threads.Inv`): the lock's own, one lease per thread,
and what each thread's stage needs of the world (`Threads.Fits`). Mutual exclusion comes from the
lock (`Threads.Inv.exclusive`), and every step keeps the invariant because it changes only its
own thread's lease, key site and component fields (`Threads.Inv.update`).
-/

namespace VolumeLifecycle.Lifecycle

open VolumeLifecycle.Lock VolumeLifecycle.Value VolumeLifecycle.Volume

/-! ## A verb as one call -/

namespace Verb

/-- The check a verb makes before it takes the lock: an update refuses to turn encryption off;
the other verbs check nothing. -/
def precheck : Verb → Except Failure Unit
  | .update desired prior => do
    let d ← withDefaults desired
    let p ← withDefaults prior
    let de ← d.field "encrypted"
    let pe ← p.field "encrypted"
    if !de.truthy && pe.truthy then throw encryptionLocked
  | _ => pure ()

/-- The phases a verb selects: a read only housekeeps. -/
def selection : Verb → Value
  | .read _ => .list [.str "housekeep"]
  | _ => .null

theorem execute_selection (action : Phase → Op Unit) (v : Verb) :
    execute Op.touch action v.selection = framedPhases action v.phases := by
  cases v with
  | read state => exact execute_housekeep action
  | _ => exact execute_all action

end Verb

/-- A verb as one call of the component: its check, then its run under the lock. -/
def Component.call (c : Component) (v : Verb) : Op (Value × Bool) := do
  liftFailure v.precheck
  c.run v.operation v.desired v.prior v.selection

theorem Op.ext {α : Type} {o o' : Op α} (h : ∀ st, o.runOn st = o'.runOn st) : o = o' :=
  ExceptT.ext (StateT.ext h)

/-- **The verbs are the call**, each returning its part of the call's result. -/
theorem Component.verbs_eq_call (c : Component) (desired prior state : Value) :
    c.createVolume desired = Prod.fst <$> c.call (.create desired) ∧
    c.readVolume state = c.call (.read state) ∧
    c.updateVolume desired prior = Prod.fst <$> c.call (.update desired prior) ∧
    c.deleteVolume state = (fun _ => ()) <$> c.call (.delete state) := by
  refine ⟨rfl, rfl, Op.ext fun st => ?_, rfl⟩
  -- an update checks the same states in the same order as its call's check
  rw [map_eq_pure_bind]
  simp only [Component.updateVolume, Component.call, Verb.precheck, Op.runOn_bind,
    Op.runOn_liftFailure]
  cases withDefaults desired with
  | error f => rfl
  | ok d =>
  cases withDefaults prior with
  | error f => rfl
  | ok p =>
  dsimp only [bind, Except.bind]
  cases d.field "encrypted" with
  | error f => rfl
  | ok de =>
  dsimp only
  cases p.field "encrypted" with
  | error f => rfl
  | ok pe =>
  dsimp only
  cases !de.truthy && pe.truthy
  · simp only [Bool.false_eq_true, if_false]
    show Op.runOn (c.run "update" desired prior .null >>= fun x => pure x.fst) st = _
    rw [Op.runOn_bind]
    rfl
  · rfl

/-- A call whose check refuses returns the refusal and touches nothing. -/
theorem Component.call_refused (c : Component) {v : Verb} {f : Failure}
    (h : v.precheck = .error f) (st : Station) : (c.call v).runOn st = (.error f, st) := by
  simp only [Component.call, Op.runOn_bind, Op.runOn_liftFailure, h]

/-- A call on an endpoint with no key fails as the key does. -/
theorem Component.call_keyless (c : Component) {v : Verb} {f : Failure}
    (hcheck : v.precheck = .ok ()) (hkey : endpointKey c.endpoint = .error f) (st : Station) :
    ((c.call v).runOn st).1 = .error f := by
  simp only [Component.call, Op.runOn_bind, Op.runOn_liftFailure, hcheck,
    Component.run_eq_withLock, withLock, Op.runOn_get, Registry.take_eq, hkey]
  rfl

/-- A call run alone ends on the site it starts from after the events its site gained. -/
theorem Component.call_after (c : Component) (v : Verb) (st : Station) :
    st.site.After (st.site.since ((c.call v).runOn st).2.site) ((c.call v).runOn st).2.site := by
  have hspec : (c.call v).Spec fun _ _ _ _ => True := by
    unfold Component.call
    refine Op.Spec.lift_bind (fun _ _ => ?_) fun _ _ _ => trivial
    exact (c.run_verb_spec c.phase_spec v v.selection (v.execute_selection c.phase)).mono
      fun _ _ _ _ _ => trivial
  obtain ⟨evs, hafter, -⟩ := hspec st
  rw [hafter.since_eq]
  exact hafter

/-! ## Threads on one registry -/

/-- What each thread calls: thread `i` calls the verb `verb i` on the component `object i`, one of
`objects`. -/
structure Workload where
  objects : Nat → Component
  object : Nat → Nat
  verb : Nat → Verb

/-- The lock key of a component's endpoint; a component whose endpoint has none never takes the
lock, and stands under the empty key. -/
def Component.key (c : Component) : String :=
  match endpointKey c.endpoint with
  | .ok key => key
  | .error _ => ""

theorem Component.key_eq {c : Component} {key : String} (h : endpointKey c.endpoint = .ok key) :
    c.key = key := by
  simp only [Component.key, h]

namespace Workload

variable (L : Workload)

/-- The component thread `i` calls on. -/
def component (i : Nat) : Component := L.objects (L.object i)

/-- The key thread `i` locks. -/
def key (i : Nat) : String := (L.component i).key

/-- Thread `i`'s call run alone from the station `st`: its result and the station it leaves. -/
def alone (i : Nat) (st : Station) : Except Failure (Value × Bool) × Station :=
  ((L.component i).call (L.verb i)).runOn st

/-- The events thread `i`'s call makes when it runs alone from `st`. -/
def plan (i : Nat) (st : Station) : List Event := st.site.since (L.alone i st).2.site

/-- Threads on one component lock one key. -/
theorem key_eq_of_object {L : Workload} {i j : Nat} (h : L.object i = L.object j) :
    L.key i = L.key j := by
  simp only [key, component, h]

theorem plan_replays (i : Nat) (st : Station) : st.site.Replays (L.plan i st) (L.alone i st).2.site :=
  ((L.component i).call_after (L.verb i) st).replays

end Workload

/-- Where a thread stands. -/
inductive ThreadStage where
  /-- It has not started. -/
  | ready
  /-- It waits for its lease `lease`. -/
  | waiting (lease : Nat)
  /-- It holds its lease `lease` and runs: `start` is the station it found on entering (its key's
  site and its component's fields then), and `done` how many events of its run it has made. -/
  | running (lease : Nat) (start : Station) (done : Nat)
  /-- It got an answer its run alone did not get, or found its component's fields changed; what it
  does next is not modelled. -/
  | astray
  /-- It was interrupted while waiting and gave its ticket up. -/
  | interrupted
  /-- It returned `result`; `start` is the station its run alone starts from. -/
  | returned (result : Except Failure (Value × Bool)) (start : Station)

/-- The lease a thread waits on or holds. -/
def ThreadStage.lease? : ThreadStage → Option Nat
  | .waiting id | .running id _ _ => some id
  | _ => none

/-- What threads share, and where each thread stands. -/
structure Threads where
  lock : Contention := {}
  sites : String → Site
  fields : Nat → Progress
  stages : Nat → ThreadStage := fun _ => .ready

/-- The station thread `i` finds: its key's site and its component's fields, with a lock that no
one else holds. -/
def Threads.station (W : Threads) (L : Workload) (i : Nat) : Station :=
  { site := W.sites (L.key i), registry := {}, progress := W.fields (L.object i) }

/-- One atomic step of one thread, or the lock waking a waiting lease. -/
inductive Threads.Step (L : Workload) : Threads → Threads → Prop
  /-- The check refuses the call: the thread returns the refusal, having taken no lock. -/
  | refuse {W : Threads} {i : Nat} {f : Failure} (hready : W.stages i = .ready)
      (hcheck : (L.verb i).precheck = .error f) :
      Step L W { W with stages := Function.update W.stages i (.returned (.error f) (W.station L i)) }
  /-- The endpoint has no key: the thread fails to take a ticket and returns the failure. -/
  | keyless {W : Threads} {i : Nat} {f : Failure} (hready : W.stages i = .ready)
      (hcheck : (L.verb i).precheck = .ok ())
      (hkey : endpointKey (L.component i).endpoint = .error f) :
      Step L W { W with lock := (W.lock.acquire (L.component i).endpoint).2.2
                        stages := Function.update W.stages i (.returned (.error f) (W.station L i)) }
  /-- The thread takes the next ticket of its key, under the next lease. -/
  | acquire {W : Threads} {i : Nat} {key : String} (hready : W.stages i = .ready)
      (hcheck : (L.verb i).precheck = .ok ())
      (hkey : endpointKey (L.component i).endpoint = .ok key) :
      Step L W { W with lock := (W.lock.acquire (L.component i).endpoint).2.2
                        stages := Function.update W.stages i (.waiting W.lock.leases.size) }
  /-- The lock wakes a waiting lease whose ticket is served. -/
  | wake {W : Threads} {id : Nat} {l : Lease} (hl : W.lock.leases[id]? = some l)
      (hw : l.state = .waiting) (hs : (W.lock.registry.slot l.key).serving = l.ticket) :
      Step L W { W with lock := W.lock.setLease id { l with state := .held } }
  /-- A thread whose lease holds its endpoint enters its critical section, finding its key's site
  and its component's fields as they are. -/
  | enter {W : Threads} {i id : Nat} {l : Lease} (hwait : W.stages i = .waiting id)
      (hl : W.lock.leases[id]? = some l) (hheld : l.state = .held) :
      Step L W { W with stages := Function.update W.stages i (.running id (W.station L i) 0) }
  /-- A waiting thread is interrupted and gives its ticket up. -/
  | interrupt {W : Threads} {i id : Nat} {lock : Contention} (hwait : W.stages i = .waiting id)
      (hcancel : W.lock.cancel id = .ok lock) :
      Step L W { W with lock, stages := Function.update W.stages i .interrupted }
  /-- A running thread makes the next event of its run alone on its key's site as it stands, and the
  controller gives the answer its run alone got; its component's fields are as it found them. -/
  | perform {W : Threads} {i id k : Nat} {start : Station} {e : Event}
      (hrun : W.stages i = .running id start k) (he : (L.plan i start)[k]? = some e)
      (hfields : W.fields (L.object i) = start.progress)
      (hanswer : ((W.sites (L.key i)).perform e).1 = e) :
      Step L W { W with sites := Function.update W.sites (L.key i) ((W.sites (L.key i)).perform e).2
                        stages := Function.update W.stages i (.running id start (k + 1)) }
  /-- A running thread finds its component's fields changed, or gets an answer its run alone did
  not get. -/
  | stray {W : Threads} {i id k : Nat} {start : Station} (hrun : W.stages i = .running id start k)
      (hoff : W.fields (L.object i) ≠ start.progress ∨
        ∃ e, (L.plan i start)[k]? = some e ∧ ((W.sites (L.key i)).perform e).1 ≠ e) :
      Step L W { W with stages := Function.update W.stages i .astray }
  /-- A running thread that made all its events leaves its critical section: it writes its
  component's fields, takes its result from them and releases its lease. -/
  | finish {W : Threads} {i id : Nat} {start : Station} {lock : Contention}
      (hrun : W.stages i = .running id start (L.plan i start).length)
      (hfields : W.fields (L.object i) = start.progress) (hrelease : W.lock.release id = .ok lock) :
      Step L W { W with lock
                        fields := Function.update W.fields (L.object i) (L.alone i start).2.progress
                        stages := Function.update W.stages i (.returned (L.alone i start).1 start) }

/-- The worlds that any interleaving of steps reaches from a free lock with every thread ready,
whatever the sites and the fields. -/
inductive Threads.Reachable (L : Workload) : Threads → Prop
  | init (sites : String → Site) (fields : Nat → Progress) : Reachable L { sites, fields }
  | step {W W' : Threads} : Reachable L W → W.Step L W' → Reachable L W'

/-- What threads on one registry are guaranteed in a world. -/
structure Threads.Serial (L : Workload) (W : Threads) : Prop where
  /-- Two threads in their critical sections are on different keys, -/
  exclusive : ∀ i j id id' start start' k k', W.stages i = .running id start k →
    W.stages j = .running id' start' k' → L.key i = L.key j → i = j
  /-- and a thread in its critical section has made the first events of its run alone from the
  station it found, against that station's site: its key's site is that site after them, -/
  on_plan : ∀ i id start k, W.stages i = .running id start k →
    start.site.Replays ((L.plan i start).take k) (W.sites (L.key i))
  /-- so its key's journal since it entered holds its own events and nothing else. -/
  own_events : ∀ i id start k, W.stages i = .running id start k →
    (W.sites (L.key i)).journal.toList = start.site.journal.toList ++ (L.plan i start).take k
  /-- No thread gets an answer its run alone did not get, or finds its component's fields
  changed. -/
  never_astray : ∀ i, W.stages i ≠ .astray
  /-- A thread that returned returned what its call returns alone from the station it found. -/
  returns_alone : ∀ i r start, W.stages i = .returned r start → r = (L.alone i start).1
  /-- A thread in its critical section can always make its next event, or leave with that
  result. -/
  moves : ∀ i id start k, W.stages i = .running id start k → ∃ W', W.Step L W' ∧
    (W'.stages i = .running id start (k + 1) ∨ W'.stages i = .returned (L.alone i start).1 start)

/-! ## The invariant -/

section Invariant

variable {L : Workload}

/-- What a thread's stage needs of the world: a waiting thread's lease is on its key, waiting or
woken; a running thread's holds it, and its key's site and its component's fields are what its
run alone made of them so far; no thread is astray; a thread that returned returned what its call
returns alone. -/
def Threads.Fits (W : Threads) (L : Workload) (i : Nat) : ThreadStage → Prop
  | .ready | .interrupted => True
  | .waiting id => ∃ l, W.lock.leases[id]? = some l ∧ l.key = L.key i ∧
      (l.state = .waiting ∨ l.state = .held)
  | .running id start k =>
      (∃ l, W.lock.leases[id]? = some l ∧ l.key = L.key i ∧ l.state = .held) ∧
      k ≤ (L.plan i start).length ∧
      start.site.Replays ((L.plan i start).take k) (W.sites (L.key i)) ∧
      W.fields (L.object i) = start.progress
  | .astray => False
  | .returned r start => r = (L.alone i start).1

/-- The invariant of the threads: the lock's runs are the lock's, no two threads share a lease,
and every thread fits its stage. -/
structure Threads.Inv (L : Workload) (W : Threads) : Prop where
  lock : W.lock.Reachable
  distinct : ∀ i j id, (W.stages i).lease? = some id → (W.stages j).lease? = some id → i = j
  fits : ∀ i, W.Fits L i (W.stages i)

theorem Threads.Inv.init (sites : String → Site) (fields : Nat → Progress) :
    ({ sites, fields } : Threads).Inv L where
  lock := .init
  distinct _ _ _ h := by cases h
  fits _ := trivial

theorem Threads.Inv.fits_of {W : Threads} (hW : W.Inv L) {i : Nat} {s : ThreadStage}
    (h : W.stages i = s) : W.Fits L i s :=
  h ▸ hW.fits i

/-- A thread's lease was handed out, on the thread's key. -/
theorem Threads.Inv.lease {W : Threads} (hW : W.Inv L) {i id : Nat}
    (h : (W.stages i).lease? = some id) :
    ∃ l, W.lock.leases[id]? = some l ∧ l.key = L.key i := by
  cases hs : W.stages i with
  | waiting id' =>
    rw [hs] at h
    cases h
    obtain ⟨l, hl, hk, -⟩ := hW.fits_of hs
    exact ⟨l, hl, hk⟩
  | running id' start k =>
    rw [hs] at h
    cases h
    obtain ⟨⟨l, hl, hk, -⟩, -⟩ := hW.fits_of hs
    exact ⟨l, hl, hk⟩
  | _ =>
    rw [hs] at h
    cases h

theorem Threads.Inv.lease_lt {W : Threads} (hW : W.Inv L) {i id : Nat}
    (h : (W.stages i).lease? = some id) : id < W.lock.leases.size := by
  obtain ⟨l, hl, -⟩ := hW.lease h
  exact (Array.getElem?_eq_some_iff.1 hl).1

/-- Two threads' leases differ. -/
theorem Threads.Inv.lease_ne {W : Threads} (hW : W.Inv L) {i j id id' : Nat}
    (hi : (W.stages i).lease? = some id) (hj : (W.stages j).lease? = some id') (hne : j ≠ i) :
    id ≠ id' :=
  fun he => hne (hW.distinct j i id' hj (he ▸ hi))

/-- A thread in its critical section finds its component's fields as it found them on entering,
and the controller answers its next event as its run alone got it answered. -/
theorem Threads.Inv.next_fits {W : Threads} (hW : W.Inv L) {i id k : Nat} {start : Station}
    (hrun : W.stages i = .running id start k) :
    W.fields (L.object i) = start.progress ∧
      ∀ e, (L.plan i start)[k]? = some e → ((W.sites (L.key i)).perform e).1 = e := by
  obtain ⟨-, -, hreplay, hfields⟩ := hW.fits_of hrun
  exact ⟨hfields, fun e he => (L.plan_replays i start).next hreplay he⟩

/-- **Mutual exclusion**: two threads in their critical sections on one key are one thread. Their
leases both hold the key, so both hold the ticket its slot serves, and the lock hands each ticket
out once. -/
theorem Threads.Inv.exclusive {W : Threads} (hW : W.Inv L) {i j id id' k k' : Nat}
    {start start' : Station} (hi : W.stages i = .running id start k)
    (hj : W.stages j = .running id' start' k') (hkey : L.key i = L.key j) : i = j := by
  obtain ⟨⟨l, hl, hk, hheld⟩, -⟩ := hW.fits_of hi
  obtain ⟨⟨l', hl', hk', hheld'⟩, -⟩ := hW.fits_of hj
  have hinv := hW.lock.inv
  -- a held lease holds the ticket its slot serves
  have hserve : ∀ {n : Nat} {m : Lease}, W.lock.leases[n]? = some m → m.state = .held →
      m.ticket = (W.lock.registry.slot m.key).serving := by
    intro n m hm hs
    simpa [Lease.Fits, hs] using hinv.fits n m hm
  have hsame : l.key = l'.key := by rw [hk, hk', hkey]
  have hid : id = id' := hinv.index_eq hl hl' hsame (by rw [hheld]; decide) (by rw [hheld']; decide)
    (by rw [hserve hl hheld, hserve hl' hheld', hsame])
  subst hid
  exact hW.distinct i j id (by rw [hi]; rfl) (by rw [hj]; rfl)

/-- A thread keeps fitting its stage while its lease, its key's site and its component's fields
stay as they are. -/
theorem Threads.Fits.frame {W W' : Threads} {i : Nat} {s : ThreadStage} (h : W.Fits L i s)
    (hlease : ∀ id, s.lease? = some id → W'.lock.leases[id]? = W.lock.leases[id]?)
    (hkept : ∀ id start k, s = .running id start k →
      W'.sites (L.key i) = W.sites (L.key i) ∧ W'.fields (L.object i) = W.fields (L.object i)) :
    W'.Fits L i s := by
  cases s with
  | ready | interrupted | astray | returned => exact h
  | waiting id =>
    obtain ⟨l, hl, hk, hs⟩ := h
    exact ⟨l, (hlease id rfl).trans hl, hk, hs⟩
  | running id start k =>
    obtain ⟨⟨l, hl, hk, hs⟩, hlen, hreplay, hfields⟩ := h
    obtain ⟨hsite, hfield⟩ := hkept id start k rfl
    exact ⟨⟨l, (hlease id rfl).trans hl, hk, hs⟩, hlen, hsite ▸ hreplay, hfield.trans hfields⟩

/-- **A step of one thread keeps the invariant** when it moves the thread to a stage that fits,
whose lease is its own or a new one, keeps the lock's runs the lock's, and leaves every other
thread's lease, key site and component fields as they were. -/
theorem Threads.Inv.update {W W' : Threads} (hW : W.Inv L) {i : Nat} {s : ThreadStage}
    (hlock : W'.lock.Reachable) (hstages : W'.stages = Function.update W.stages i s)
    (hfresh : ∀ id, s.lease? = some id → (W.stages i).lease? = some id ∨ W.lock.leases.size ≤ id)
    (hfit : W'.Fits L i s)
    (hlease : ∀ j, j ≠ i → ∀ id, (W.stages j).lease? = some id →
      W'.lock.leases[id]? = W.lock.leases[id]?)
    (hkept : ∀ j, j ≠ i → ∀ id start k, W.stages j = .running id start k →
      W'.sites (L.key j) = W.sites (L.key j) ∧ W'.fields (L.object j) = W.fields (L.object j)) :
    W'.Inv L := by
  -- a lease of another thread was handed out before the step, so it is not a new one
  have hold : ∀ j id, j ≠ i → (W.stages j).lease? = some id → s.lease? = some id →
      (W.stages i).lease? = some id := by
    intro j id hj hjl hsl
    rcases hfresh id hsl with hown | hnew
    · exact hown
    · obtain ⟨l, hl, -⟩ := hW.lease hjl
      exact absurd (Array.getElem?_eq_some_iff.1 hl).1 (by omega)
  refine ⟨hlock, fun j j' id hj hj' => ?_, fun j => ?_⟩
  · rw [hstages] at hj hj'
    by_cases hji : j = i <;> by_cases hj'i : j' = i
    · rw [hji, hj'i]
    · subst hji
      rw [Function.update_self] at hj
      rw [Function.update_of_ne hj'i] at hj'
      exact hW.distinct j j' id (hold j' id hj'i hj' hj) hj'
    · subst hj'i
      rw [Function.update_self] at hj'
      rw [Function.update_of_ne hji] at hj
      exact hW.distinct j j' id hj (hold j id hji hj hj')
    · rw [Function.update_of_ne hji] at hj
      rw [Function.update_of_ne hj'i] at hj'
      exact hW.distinct j j' id hj hj'
  · rw [hstages]
    by_cases hji : j = i
    · subst hji
      rw [Function.update_self]
      exact hfit
    · rw [Function.update_of_ne hji]
      exact (hW.fits j).frame (hlease j hji) (hkept j hji)

/-! ## Every step keeps the invariant -/

section Steps

variable {W : Threads} (hW : W.Inv L) {i id : Nat}
include hW

theorem Threads.Inv.refuse {f : Failure} (hcheck : (L.verb i).precheck = .error f) :
    ({ W with stages := Function.update W.stages i (.returned (.error f) (W.station L i)) } :
      Threads).Inv L := by
  refine hW.update hW.lock rfl (fun _ h => by cases h) ?_ (fun _ _ _ _ => rfl)
    fun _ _ _ _ _ _ => ⟨rfl, rfl⟩
  show _ = (((L.component i).call (L.verb i)).runOn _).1
  rw [Component.call_refused _ hcheck]

theorem Threads.Inv.keyless {f : Failure} (hcheck : (L.verb i).precheck = .ok ())
    (hkey : endpointKey (L.component i).endpoint = .error f) :
    ({ W with lock := (W.lock.acquire (L.component i).endpoint).2.2
              stages := Function.update W.stages i (.returned (.error f) (W.station L i)) } :
      Threads).Inv L :=
  hW.update (hW.lock.step (.acquire _ _)) rfl (fun _ h => by cases h)
    (Component.call_keyless _ hcheck hkey _).symm
    (fun _ _ _ hj => Contention.acquire_keeps _ (hW.lease_lt hj)) fun _ _ _ _ _ _ => ⟨rfl, rfl⟩

theorem Threads.Inv.acquire {key : String} (hkey : endpointKey (L.component i).endpoint = .ok key) :
    ({ W with lock := (W.lock.acquire (L.component i).endpoint).2.2
              stages := Function.update W.stages i (.waiting W.lock.leases.size) } :
      Threads).Inv L := by
  -- the new lease is on the thread's key, and no thread had it
  obtain ⟨l, hl, hk, hs⟩ := W.lock.acquire_new hkey
  have hkey' : l.key = L.key i := hk.trans (Component.key_eq hkey).symm
  exact hW.update (hW.lock.step (.acquire _ _)) rfl
    (fun _ h => .inr (Nat.le_of_eq (Option.some.inj h))) ⟨l, hl, hkey', hs⟩
    (fun _ _ _ hj => Contention.acquire_keeps _ (hW.lease_lt hj)) fun _ _ _ _ _ _ => ⟨rfl, rfl⟩

/-- Waking a lease keeps the invariant: the lease is a waiting thread's, which now holds its
key, or no thread's. -/
theorem Threads.Inv.wake {l : Lease} (hl : W.lock.leases[id]? = some l) (hw : l.state = .waiting)
    (hs : (W.lock.registry.slot l.key).serving = l.ticket) :
    ({ W with lock := W.lock.setLease id { l with state := .held } } : Threads).Inv L := by
  refine ⟨hW.lock.step (.wake hl hw hs), hW.distinct, fun j => ?_⟩
  by_cases hj : (W.stages j).lease? = some id
  · cases hstage : W.stages j with
    | waiting id' =>
      rw [hstage] at hj
      cases hj
      obtain ⟨l', hl', hk, -⟩ := hW.fits_of hstage
      rw [hl] at hl'
      cases hl'
      refine ⟨{ l with state := .held }, ?_, hk, .inr rfl⟩
      simp [(Array.getElem?_eq_some_iff.1 hl).1]
    | running id' start k =>
      -- a running thread's lease holds its key, so it is not the waiting lease woken
      rw [hstage] at hj
      cases hj
      obtain ⟨⟨l', hl', -, hheld⟩, -⟩ := hW.fits_of hstage
      rw [hl] at hl'
      cases hl'
      rw [hw] at hheld
      cases hheld
    | _ =>
      rw [hstage] at hj
      cases hj
  · exact (hW.fits j).frame
      (fun id' hj' => Array.getElem?_setIfInBounds_ne fun (he : id = id') => hj (he ▸ hj'))
      fun _ _ _ _ => ⟨rfl, rfl⟩

theorem Threads.Inv.enter {l : Lease} (hwait : W.stages i = .waiting id)
    (hl : W.lock.leases[id]? = some l) (hheld : l.state = .held) :
    ({ W with stages := Function.update W.stages i (.running id (W.station L i) 0) } :
      Threads).Inv L := by
  obtain ⟨l', hl', hk, -⟩ := hW.fits_of hwait
  rw [hl] at hl'
  cases hl'
  exact hW.update hW.lock rfl (fun _ h => .inl (by rw [hwait]; exact h))
    ⟨⟨l, hl, hk, hheld⟩, Nat.zero_le _, rfl, rfl⟩ (fun _ _ _ _ => rfl) fun _ _ _ _ _ _ => ⟨rfl, rfl⟩

theorem Threads.Inv.interrupt {lock : Contention} (hwait : W.stages i = .waiting id)
    (hcancel : W.lock.cancel id = .ok lock) :
    ({ W with lock, stages := Function.update W.stages i .interrupted } : Threads).Inv L :=
  hW.update (hW.lock.step (.cancel id hcancel)) rfl (fun _ h => by cases h) trivial
    (fun _ hj _ hj' => Contention.cancel_keeps hcancel (hW.lease_ne (by rw [hwait]; rfl) hj' hj))
    fun _ _ _ _ _ _ => ⟨rfl, rfl⟩

/-- Making an event keeps the invariant: the thread's replay grows by the event, and no other
thread in its critical section is on its key. -/
theorem Threads.Inv.perform {k : Nat} {start : Station} {e : Event}
    (hrun : W.stages i = .running id start k) (he : (L.plan i start)[k]? = some e)
    (hfields : W.fields (L.object i) = start.progress)
    (hanswer : ((W.sites (L.key i)).perform e).1 = e) :
    ({ W with sites := Function.update W.sites (L.key i) ((W.sites (L.key i)).perform e).2
              stages := Function.update W.stages i (.running id start (k + 1)) } :
      Threads).Inv L := by
  obtain ⟨hheld, -, hreplay, -⟩ := hW.fits_of hrun
  refine hW.update hW.lock rfl (fun _ h => .inl (by rw [hrun]; exact h))
    ⟨hheld, (List.getElem?_eq_some_iff.1 he).1, ?_, hfields⟩ (fun _ _ _ _ => rfl)
    fun j hj _ _ _ hj' => ⟨?_, rfl⟩
  · show start.site.Replays _ (Function.update W.sites (L.key i) _ (L.key i))
    rw [Function.update_self, List.take_add_one, he, Option.toList_some]
    exact hreplay.append ⟨hanswer, rfl⟩
  · exact Function.update_of_ne (fun hk => hj (hW.exclusive hj' hrun hk)) _ _

/-- Leaving the critical section keeps the invariant: the thread's lease is its own, and no other
thread in its critical section is on its component. -/
theorem Threads.Inv.finish {start : Station} {lock : Contention}
    (hrun : W.stages i = .running id start (L.plan i start).length)
    (hrelease : W.lock.release id = .ok lock) :
    ({ W with lock
              fields := Function.update W.fields (L.object i) (L.alone i start).2.progress
              stages := Function.update W.stages i (.returned (L.alone i start).1 start) } :
      Threads).Inv L :=
  hW.update (hW.lock.step (.release id hrelease)) rfl (fun _ h => by cases h) rfl
    (fun _ hj _ hj' => Contention.release_keeps hrelease (hW.lease_ne (by rw [hrun]; rfl) hj' hj))
    fun _ hj _ _ _ hj' => ⟨rfl, Function.update_of_ne
      (fun ho => hj (hW.exclusive hj' hrun (Workload.key_eq_of_object ho))) _ _⟩

end Steps

theorem Threads.Inv.step {W W' : Threads} (hW : W.Inv L) (h : W.Step L W') : W'.Inv L := by
  cases h with
  | refuse _ hcheck => exact hW.refuse hcheck
  | keyless _ hcheck hkey => exact hW.keyless hcheck hkey
  | acquire _ _ hkey => exact hW.acquire hkey
  | wake hl hw hs => exact hW.wake hl hw hs
  | enter hwait hl hheld => exact hW.enter hwait hl hheld
  | interrupt hwait hcancel => exact hW.interrupt hwait hcancel
  | perform hrun he hfields hanswer => exact hW.perform hrun he hfields hanswer
  | stray hrun hoff =>
    -- a thread in its critical section never strays
    obtain ⟨hfields, hnext⟩ := hW.next_fits hrun
    rcases hoff with hoff | ⟨e, he, hne⟩
    · exact absurd hfields hoff
    · exact absurd (hnext e he) hne
  | finish hrun _ hrelease => exact hW.finish hrun hrelease

theorem Threads.Reachable.inv {W : Threads} (h : W.Reachable L) : W.Inv L := by
  induction h with
  | init sites fields => exact .init sites fields
  | step _ hstep ih => exact ih.step hstep

/-- A thread in its critical section can always go on: it makes its next event, or, having made
them all, it holds its lease and can release it. -/
theorem Threads.Inv.moves {W : Threads} (hW : W.Inv L) {i id k : Nat} {start : Station}
    (hrun : W.stages i = .running id start k) :
    ∃ W', W.Step L W' ∧ (W'.stages i = .running id start (k + 1) ∨
      W'.stages i = .returned (L.alone i start).1 start) := by
  obtain ⟨hfields, hnext⟩ := hW.next_fits hrun
  cases he : (L.plan i start)[k]? with
  | some e => exact ⟨_, .perform hrun he hfields (hnext e he), .inl (Function.update_self _ _ _)⟩
  | none =>
    obtain ⟨⟨l, hl, -, hheld⟩, hle, -⟩ := hW.fits_of hrun
    have hk : k = (L.plan i start).length := Nat.le_antisymm hle (List.getElem?_eq_none_iff.1 he)
    obtain ⟨lock, hrelease⟩ := Contention.release_of_held hl hheld
    rw [hk] at hrun
    exact ⟨_, .finish hrun hfields hrelease, .inr (Function.update_self _ _ _)⟩

end Invariant

/-- **Verbs of several threads run as if each ran alone.** In every world that any interleaving
of the threads' steps reaches, two threads in their critical sections are on different keys; the
site of a thread's key is the site it found on entering after exactly its own events so far, so
no call or wait of another thread comes between them; no thread gets an answer its run alone did
not get; a thread that returned returned what its call returns alone from the station it found
on entering, its key's site and its component's fields then; and a thread inside its critical
section can always go on. -/
theorem verbs_run_alone {L : Workload} {W : Threads} (h : W.Reachable L) : W.Serial L := by
  have hW := h.inv
  refine ⟨fun _ _ _ _ _ _ _ _ hi hj hkey => hW.exclusive hi hj hkey,
    fun _ _ _ _ hrun => (hW.fits_of hrun).2.2.1, fun _ _ _ _ hrun => ?_,
    fun _ hi => hW.fits_of hi, fun _ _ _ hret => hW.fits_of hret,
    fun _ _ _ _ hrun => hW.moves hrun⟩
  exact (hW.fits_of hrun).2.2.1.journal

/-- Two threads read through one component on a free endpoint: the first takes the lock at once
and enters, the second takes the next ticket and waits. -/
theorem verbs_run_alone_one_waits :
    let client : Redfish.Client :=
      { baseUrl := "https://10.0.0.5", auth := none, verify := .bool false,
        timeout := .int 30, headers := [] }
    let c : Component :=
      { config := [], componentId := .null, endpoint := .str "10.0.0.5", client,
        poller := { client, interval := .int 10 }, power := { client, interval := .int 10 },
        reconciler := { client, fields := [], preserved := [] } }
    let L : Workload :=
      { objects := fun _ => c, object := fun _ => 0, verb := fun _ => .read (.dict []) }
    ∃ W : Threads, W.Reachable L ∧ (∃ start, W.stages 0 = .running 0 start 0) ∧
      W.stages 1 = .waiting 1 ∧ W.Serial L := by
  intro client c L
  have hkey := endpointKey_str (e := "10.0.0.5") (by decide +kernel)
  let W₀ : Threads :=
    { sites := fun _ =>
        { clock := { now := .int 0 },
          controller :=
            { resources := [], readScripts := [], changeScripts := [], defaultChange := {},
              resetReply := {}, power := none, failReads := none } },
      fields := fun _ => {} }
  have h₁ := Threads.Reachable.step (.init W₀.sites W₀.fields)
    (.acquire (L := L) (i := 0) rfl rfl hkey)
  -- the first ticket of a free key is served at once
  have hheld : ((({} : Contention).acquire (.str "10.0.0.5")).2.2.leases[0]?).map (·.state) =
      some .held := by
    decide +kernel
  obtain ⟨l, hl, hs⟩ := Option.map_eq_some_iff.1 hheld
  have h₂ := h₁.step (.enter (i := 0) rfl hl hs)
  have h₃ := h₂.step (.acquire (i := 1) rfl rfl hkey)
  exact ⟨_, h₃, ⟨_, rfl⟩, rfl, verbs_run_alone h₃⟩

end VolumeLifecycle.Lifecycle
