import IdMint.Proofs.Fingerprints
import Mathlib.Data.List.Basic
import Mathlib.Logic.Relation

/-!
# A rush for one fingerprint

Any number of threads want the fingerprint of one state.  Each of them looks without the
lock first, and if there is nothing it takes the lock, looks again, computes, keeps what has
come of it and reads what is kept; then it releases the lock, also if the computation has
failed.  A `Rush` holds the threads together with the lock and the world that they share, and
`Rush.Step` has one case for every single thing that one of them does.  A thread that nobody
interrupts does what `World.fingerprint` does (`Rush.fingerprint_alone`).

Between any two of these the world may change in every way that leaves alone what is kept.
So the platform may answer differently from one computation to the next, and it may make one
fail.  A computation is a single step: of what happens while it is in progress, it is all the
same to the others which comes before its answer and which after.

What happens under the lock is listed as a sequence of visits.  The invariant
(`Rush.Inv`) says how a thread stands to what is kept and to the visits so far.  It comes to
this: the visits fail until one succeeds, and from then on they find what that one has kept
(`Rush.exactlyOnce_of_reachable`).
-/

namespace IdMint

namespace World

/-- The computation of a fingerprint, which is timed, over the platform of a state. -/
def computation (s : Nat) : Act World Bytes := do
  let w ← Act.state
  Stopwatch.timed readStopwatch "fingerprint_compute" Stopwatch.defaultPatience
    (onPlatform (w.state s).platform Fingerprint.compute)

/-- Setting a fingerprint up is computing and keeping it. -/
theorem setUpFingerprint_eq (s : Nat) :
    setUpFingerprint s = computation s >>= (fun computed => (do
      Act.note .debug "fingerprint_ready" [("size", .int computed.length)]
      Act.change fun w => w.setState s { w.state s with fingerprint := some computed }
      pure computed)) := by
  rw [computation, bind_assoc]
  rfl

/-- Computing changes no state: nothing is kept yet. -/
theorem states_computation (s : Nat) (w : World) : (computation s w).state.states = w.states := by
  have hread : readStopwatch.Keeps World.states := Act.Keeps.within _ fun _ _ => rfl
  have hkeeps : (computation s).Keeps World.states :=
    Act.Keeps.state.bind fun v => .timed _ _ hread (keeps_onPlatform _ fun _ _ => rfl)
  exact hkeeps w

theorem kept_computation (s : Nat) (w : World) :
    ((computation s w).state.state s).fingerprint = (w.state s).fingerprint := by
  rw [state, states_computation, state]

/-- What it comes to is up to the platform. -/
theorem answer_computation (s : Nat) (w : World) :
    (computation s w).answer =
      (Fingerprint.compute (w.platform (w.state s).platform)).answer := by
  have hact : (onPlatform (w.state s).platform Fingerprint.compute w.watched).answer =
      (Fingerprint.compute (w.platform (w.state s).platform)).answer := rfl
  rw [← hact, computation]
  rcases hrun : onPlatform (w.state s).platform Fingerprint.compute w.watched
    with ⟨fault | f, v, entries⟩
  · obtain ⟨journal, htimed⟩ := Stopwatch.timed_of_error "fingerprint_compute"
      Stopwatch.defaultPatience (readStopwatch_apply w) hrun (readStopwatch_apply v)
    rw [Act.bind_apply, Act.state_apply, Act.andThen_ok, htimed]
  · obtain ⟨journal, htimed⟩ := Stopwatch.timed_of_ok "fingerprint_compute"
      Stopwatch.defaultPatience (readStopwatch_apply w) hrun (readStopwatch_apply v)
    rw [Act.bind_apply, Act.state_apply, Act.andThen_ok, htimed]

end World

/-- How far a thread has come. -/
inductive Errand
  /-- It has called, and has not looked yet. -/
  | called
  /-- It has found nothing, and is waiting for the lock. -/
  | waiting
  /-- It has the lock, and has not looked again yet. -/
  | inside
  /-- It has the lock, and its computation is in progress. -/
  | computing
  /-- Its computation has succeeded, but what has come of it is not kept yet. -/
  | computed (f : Bytes)
  /-- It has the lock, and is about to read what is kept. -/
  | reading
  /-- It has its answer, and still has the lock. -/
  | leaving (answer : Except Fault (Option Bytes))
  /-- It has returned what it has read, or raised a fault. -/
  | ended (answer : Except Fault (Option Bytes))

/-- The thread has the lock. -/
def Errand.hasLock : Errand → Bool
  | inside | computing | computed _ | reading | leaving _ => true
  | called | waiting | ended _ => false

/-- The fault that the thread raises, or has raised. -/
def Errand.fault? : Errand → Option Fault
  | leaving (.error fault) | ended (.error fault) => some fault
  | _ => none

/-- A turn under the lock: whose it is, and what its computation has come to, if there has
been one. -/
structure Visit where
  thread : Nat
  computation : Option (Except Fault Bytes)

/-- What a visit has computed with success. -/
def Visit.success? (v : Visit) : Option Bytes := v.computation.bind Except.toOption

/-- Threads that want a fingerprint, with who has the lock, the world they share, and the
turns that have been decided under the lock. -/
structure Rush where
  world : World
  holder : Option Nat := none
  errands : List Errand := []
  visits : List Visit := []

namespace Rush

/-- The fingerprint that is kept. -/
def cached (s : Nat) (c : Rush) : Option Bytes := (c.world.state s).fingerprint

/-- A thread goes on. -/
def move (c : Rush) (i : Nat) (e : Errand) : Rush := { c with errands := c.errands.set i e }

theorem getElem?_set_of_some {errands : List Errand} {i : Nat} {e : Errand}
    (hi : errands[i]? = some e) (e' : Errand) : (errands.set i e')[i]? = some e' :=
  List.getElem?_set_self (List.getElem?_eq_some_iff.mp hi).1

/-- One step of threads that want the fingerprint of state `s`. -/
inductive Step (s : Nat) : Rush → Rush → Prop
  /-- One more thread calls. -/
  | call (c : Rush) : Step s c { c with errands := c.errands ++ [.called] }
  /-- A thread finds a fingerprint without the lock. -/
  | find (c : Rush) (i : Nat) (f : Bytes) (hi : c.errands[i]? = some .called)
      (hcached : c.cached s = some f) : Step s c (c.move i (.ended (.ok (some f))))
  | miss (c : Rush) (i : Nat) (hi : c.errands[i]? = some .called) (hcached : c.cached s = none) :
      Step s c (c.move i .waiting)
  /-- A thread takes the lock, which nobody has. -/
  | acquire (c : Rush) (i : Nat) (hi : c.errands[i]? = some .waiting) (hfree : c.holder = none) :
      Step s c { c.move i .inside with holder := some i }
  /-- Looking again, it finds that another one has been faster. -/
  | discover (c : Rush) (i : Nat) (f : Bytes) (hi : c.errands[i]? = some .inside)
      (hcached : c.cached s = some f) :
      Step s c { c.move i .reading with visits := c.visits ++ [⟨i, none⟩] }
  | begin (c : Rush) (i : Nat) (hi : c.errands[i]? = some .inside) (hcached : c.cached s = none) :
      Step s c (c.move i .computing)
  | succeed (c : Rush) (i : Nat) (f : Bytes) (hi : c.errands[i]? = some .computing)
      (hrun : (World.computation s c.world).answer = .ok f) :
      Step s c
        { c.move i (.computed f) with
          world := (World.computation s c.world).state
          visits := c.visits ++ [⟨i, some (.ok f)⟩] }
  | fail (c : Rush) (i : Nat) (fault : Fault) (hi : c.errands[i]? = some .computing)
      (hrun : (World.computation s c.world).answer = .error fault) :
      Step s c
        { c.move i (.leaving (.error fault)) with
          world := (World.computation s c.world).state
          visits := c.visits ++ [⟨i, some (.error fault)⟩] }
  | store (c : Rush) (i : Nat) (f : Bytes) (hi : c.errands[i]? = some (.computed f)) :
      Step s c
        { c.move i .reading with
          world := c.world.setState s { c.world.state s with fingerprint := some f } }
  | read (c : Rush) (i : Nat) (hi : c.errands[i]? = some .reading) :
      Step s c (c.move i (.leaving (.ok (c.cached s))))
  | release (c : Rush) (i : Nat) (answer : Except Fault (Option Bytes))
      (hi : c.errands[i]? = some (.leaving answer)) :
      Step s c { c.move i (.ended answer) with holder := none }
  /-- Something else happens. -/
  | disturb (c : Rush) (w : World) (hcached : (w.state s).fingerprint = c.cached s)
      (hlt : s < c.world.states.length → s < w.states.length) : Step s c { c with world := w }

theorem Step.read_of_cached {s : Nat} (c : Rush) (i : Nat) {f : Bytes}
    (hi : c.errands[i]? = some .reading) (hcached : c.cached s = some f) :
    Step s c (c.move i (.leaving (.ok (some f)))) := by
  rw [← hcached]
  exact .read c i hi

/-- The rushes that threads can lead to from a world in which there are none. -/
def Reachable (s : Nat) (w : World) (c : Rush) : Prop :=
  Relation.ReflTransGen (Step s) { world := w } c

/-! ## A call alone -/

section Alone

variable {s : Nat} {w : World} {errands : List Errand} {visits : List Visit}

/-- The rush in which the last one to call has come to `e`. -/
def last (errands : List Errand) (w : World) (holder : Option Nat) (e : Errand)
    (visits : List Visit) : Rush :=
  ⟨w, holder, errands ++ [e], visits⟩

theorem getElem?_last (holder : Option Nat) (e : Errand) :
    (last errands w holder e visits).errands[errands.length]? = some e :=
  List.getElem?_concat_length

theorem move_last (holder : Option Nat) (e e' : Errand) :
    (last errands w holder e visits).move errands.length e' =
      last errands w holder e' visits := by
  simp [move, last]

/-- It gets as far as computing if it finds nothing, and the lock free. -/
theorem last_computes (hnone : (w.state s).fingerprint = none) :
    Relation.ReflTransGen (Step s) (last errands w none .called visits)
      (last errands w (some errands.length) .computing visits) := by
  have hmiss := Step.miss (s := s) (last errands w none .called visits) errands.length
    (getElem?_last _ _) hnone
  have hacquire := Step.acquire (s := s) (last errands w none .waiting visits) errands.length
    (getElem?_last _ _) rfl
  have hbegin := Step.begin (s := s) (last errands w (some errands.length) .inside visits)
    errands.length (getElem?_last _ _) hnone
  rw [move_last] at hmiss hacquire hbegin
  exact ((Relation.ReflTransGen.single hmiss).tail hacquire).tail hbegin

theorem last_fails {fault : Fault} (hrun : (World.computation s w).answer = .error fault) :
    Relation.ReflTransGen (Step s)
      (last errands w (some errands.length) .computing visits)
      (last errands (World.computation s w).state none (.ended (.error fault))
        (visits ++ [⟨errands.length, some (.error fault)⟩])) := by
  have hfail := Step.fail (last errands w (some errands.length) .computing visits)
    errands.length fault (getElem?_last _ _) hrun
  have hrelease := Step.release (s := s)
    (last errands (World.computation s w).state (some errands.length)
      (.leaving (.error fault)) (visits ++ [⟨errands.length, some (.error fault)⟩]))
    errands.length _ (getElem?_last _ _)
  rw [move_last] at hfail hrelease
  exact (Relation.ReflTransGen.single hfail).tail hrelease

theorem last_succeeds {f : Bytes} (hs : s < w.states.length)
    (hrun : (World.computation s w).answer = .ok f) :
    let v := (World.computation s w).state
    Relation.ReflTransGen (Step s)
      (last errands w (some errands.length) .computing visits)
      (last errands (v.setState s { v.state s with fingerprint := some f }) none
        (.ended (.ok (some f))) (visits ++ [⟨errands.length, some (.ok f)⟩])) := by
  intro v
  let kept := v.setState s { v.state s with fingerprint := some f }
  let after := visits ++ [⟨errands.length, some (.ok f)⟩]
  have hlt : s < v.states.length := World.states_computation s w ▸ hs
  have hfound : (last errands kept (some errands.length) .reading after).cached s = some f :=
    congrArg GeneratorState.fingerprint (World.state_setState_self _ hlt)
  have hsucceed := Step.succeed (last errands w (some errands.length) .computing visits)
    errands.length f (getElem?_last _ _) hrun
  have hstore := Step.store (s := s) (last errands v (some errands.length) (.computed f) after)
    errands.length f (getElem?_last _ _)
  have hread := Step.read_of_cached (last errands kept (some errands.length) .reading after)
    errands.length (getElem?_last _ _) hfound
  have hrelease := Step.release (s := s)
    (last errands kept (some errands.length) (.leaving (.ok (some f))) after)
    errands.length _ (getElem?_last _ _)
  rw [move_last] at hsucceed hstore hread hrelease
  exact (((Relation.ReflTransGen.single hsucceed).tail hstore).tail hread).tail hrelease

/-- A call that nobody interrupts, and that finds the lock free, does what
`World.fingerprint` does. -/
theorem fingerprint_alone {c : Rush} (hs : s < c.world.states.length) (hfree : c.holder = none) :
    ∃ after, Relation.ReflTransGen (Step s) c
      (last c.errands (World.fingerprint s c.world).state none
        (.ended ((World.fingerprint s c.world).answer.map some)) after) := by
  obtain ⟨w, holder, errands, visits⟩ := c
  obtain rfl : holder = none := hfree
  have hcall : Step s ⟨w, none, errands, visits⟩ (last errands w none .called visits) :=
    .call _
  cases hcached : (w.state s).fingerprint with
  | some f =>
      have hfind := Step.find (last errands w none .called visits) errands.length f
        (getElem?_last _ _) hcached
      rw [move_last] at hfind
      rw [World.fingerprint_of_some hcached]
      exact ⟨visits, (Relation.ReflTransGen.single hcall).tail hfind⟩
  | none =>
      have hcomputing := (Relation.ReflTransGen.single hcall).trans
        (last_computes hcached)
      rw [World.fingerprint_of_none hcached, World.setUpFingerprint_eq, Act.bind_apply,
        Act.andThen]
      cases hrun : (World.computation s w).answer with
      | error fault => exact ⟨_, hcomputing.trans (last_fails hrun)⟩
      | ok f => exact ⟨_, hcomputing.trans (last_succeeds hs hrun)⟩

end Alone

/-! ## The visits -/

/-- All visits have computed, in vain. -/
def AllFailed (visits : List Visit) : Prop :=
  ∀ v ∈ visits, ∃ fault, v.computation = some (.error fault)

/-- The visits have failed until one of them has computed `f`, and since then none has
computed anything. -/
def ComputedOnce (f : Bytes) (visits : List Visit) : Prop :=
  ∃ fails i finds, visits = fails ++ ⟨i, some (.ok f)⟩ :: finds ∧ AllFailed fails ∧
    ∀ v ∈ finds, v.computation = none

section Visits

variable {visits : List Visit} {f : Bytes}

theorem AllFailed.concat (h : AllFailed visits) (i : Nat) (fault : Fault) :
    AllFailed (visits ++ [⟨i, some (.error fault)⟩]) := by
  intro v hv
  rcases List.mem_append.mp hv with hv | hv
  · exact h v hv
  · rw [List.mem_singleton.mp hv]
    exact ⟨fault, rfl⟩

theorem AllFailed.computedOnce (h : AllFailed visits) (i : Nat) (f : Bytes) :
    ComputedOnce f (visits ++ [⟨i, some (.ok f)⟩]) :=
  ⟨visits, i, [], rfl, h, fun _ hv => absurd hv List.not_mem_nil⟩

theorem ComputedOnce.concat (h : ComputedOnce f visits) (i : Nat) :
    ComputedOnce f (visits ++ [⟨i, none⟩]) := by
  obtain ⟨fails, k, finds, rfl, hfails, hfinds⟩ := h
  refine ⟨fails, k, finds ++ [⟨i, none⟩], by simp, hfails, fun v hv => ?_⟩
  rcases List.mem_append.mp hv with hv | hv
  · exact hfinds v hv
  · rw [List.mem_singleton.mp hv]

theorem AllFailed.successes (h : AllFailed visits) : visits.filterMap Visit.success? = [] := by
  rw [List.filterMap_eq_nil_iff]
  intro v hv
  obtain ⟨fault, hfault⟩ := h v hv
  rw [Visit.success?, hfault]
  rfl

theorem ComputedOnce.successes (h : ComputedOnce f visits) :
    visits.filterMap Visit.success? = [f] := by
  obtain ⟨fails, k, finds, rfl, hfails, hfinds⟩ := h
  have hnone : finds.filterMap Visit.success? = [] := by
    rw [List.filterMap_eq_nil_iff]
    intro v hv
    rw [Visit.success?, hfinds v hv]
    rfl
  rw [List.filterMap_append, hfails.successes, List.nil_append, List.filterMap_cons, hnone]
  rfl

/-- Where one has computed `f`, a failed visit is not the last one, and the next one computes. -/
theorem ComputedOnce.computes_after (h : ComputedOnce f visits) {k : Nat} {fault : Fault}
    {before after : List Visit}
    (hvisits : visits = before ++ ⟨k, some (.error fault)⟩ :: after) :
    ∃ v rest, after = v :: rest ∧ v.computation.isSome = true := by
  obtain ⟨fails, i, finds, rfl, hfails, hfinds⟩ := h
  rcases List.append_eq_append_iff.mp hvisits with ⟨rest, -, hrest⟩ | ⟨rest, rfl, hrest⟩
  · -- the failed visit would be the one that succeeds, or one after it
    cases rest with
    | nil => cases hrest
    | cons x rest =>
        obtain ⟨-, rfl⟩ := List.cons.inj hrest
        cases hfinds ⟨k, some (.error fault)⟩ (by simp)
  · cases rest with
    | nil => cases hrest
    | cons x rest =>
        obtain ⟨-, rfl⟩ := List.cons.inj hrest
        cases rest with
        | nil => exact ⟨_, _, rfl, rfl⟩
        | cons v rest =>
            obtain ⟨fault', hv⟩ := hfails v (by simp)
            exact ⟨v, _, rfl, by rw [hv]; rfl⟩

end Visits

/-! ## The lock -/

/-- The lock is with the one thread that has it. -/
def LockedBy (holder : Option Nat) (errands : List Errand) : Prop :=
  ∀ i, holder = some i ↔ ∃ e, errands[i]? = some e ∧ e.hasLock = true

namespace LockedBy

variable {holder : Option Nat} {errands : List Errand} {i j : Nat} {e e' : Errand}

theorem holder_eq (h : LockedBy holder errands) (hi : errands[i]? = some e)
    (he : e.hasLock = true) : holder = some i :=
  (h i).mpr ⟨e, hi, he⟩

theorem unique (h : LockedBy holder errands) (hi : errands[i]? = some e)
    (he : e.hasLock = true) (hj : errands[j]? = some e') (he' : e'.hasLock = true) : i = j :=
  Option.some.inj ((h.holder_eq hi he).symm.trans (h.holder_eq hj he'))

/-- A thread goes on and leaves the lock alone. -/
theorem keep (h : LockedBy holder errands) (hi : errands[i]? = some e)
    (he : e'.hasLock = e.hasLock) : LockedBy holder (errands.set i e') := by
  intro j
  rcases eq_or_ne i j with rfl | hij
  · rw [h i, getElem?_set_of_some hi, hi]
    simp [he]
  · rw [h j, List.getElem?_set_ne hij]

theorem take (h : LockedBy none errands) (hi : errands[i]? = some e)
    (he' : e'.hasLock = true) : LockedBy (some i) (errands.set i e') := by
  intro j
  rcases eq_or_ne i j with rfl | hij
  · rw [getElem?_set_of_some hi]
    simp [he']
  · rw [List.getElem?_set_ne hij, ← h j]
    simp [hij]

theorem leave (h : LockedBy holder errands) (hi : errands[i]? = some e)
    (he : e.hasLock = true) (he' : e'.hasLock = false) :
    LockedBy none (errands.set i e') := by
  intro j
  rcases eq_or_ne i j with rfl | hij
  · rw [getElem?_set_of_some hi]
    simp [he']
  · rw [List.getElem?_set_ne hij, ← h j, h.holder_eq hi he]
    simp [hij]

/-- A thread that comes later does not have it. -/
theorem concat (h : LockedBy holder errands) (he : e.hasLock = false) :
    LockedBy holder (errands ++ [e]) := by
  intro j
  rw [h j]
  rcases lt_trichotomy j errands.length with hlt | rfl | hgt
  · rw [List.getElem?_append_left hlt]
  · simp [he]
  · have hge : (errands ++ [e]).length ≤ j := by simpa using Nat.succ_le_of_lt hgt
    rw [List.getElem?_eq_none hgt.le, List.getElem?_eq_none hge]

end LockedBy

/-! ## The invariant -/

/-- How the visits stand to what is kept, as long as nobody is about to keep anything. -/
def Tidy : Option Bytes → List Visit → Prop
  | none, visits => AllFailed visits
  | some f, visits => ComputedOnce f visits

/-- How a thread stands to what is kept and to the visits.  With the lock it can also say
how these stand to each other. -/
def Suits (found : Option Bytes) (visits : List Visit) (i : Nat) : Errand → Prop
  | .called | .waiting => True
  | .inside => Tidy found visits
  | .computing => found = none ∧ Tidy found visits
  | .computed f => found = none ∧ ComputedOnce f visits
  | .reading => found.isSome = true ∧ Tidy found visits
  | .leaving (.ok v) => (v.isSome = true ∧ found = v) ∧ Tidy found visits
  | .leaving (.error fault) =>
    (found = none ∧ ⟨i, some (.error fault)⟩ ∈ visits) ∧ Tidy found visits
  | .ended (.ok v) => v.isSome = true ∧ found = v
  | .ended (.error fault) => ⟨i, some (.error fault)⟩ ∈ visits

/-- The lock guards what is kept and the visits: when it is free these are tidy, and when a
thread has it they are as that thread knows. -/
structure Inv (s : Nat) (c : Rush) : Prop where
  state_lt : s < c.world.states.length
  locked : LockedBy c.holder c.errands
  free : c.holder = none → Tidy (c.cached s) c.visits
  suits : ∀ i e, c.errands[i]? = some e → Suits (c.cached s) c.visits i e
  raised : ∀ i fault, ⟨i, some (.error fault)⟩ ∈ c.visits →
    ∃ e, c.errands[i]? = some e ∧ e.fault? = some fault

section Steps

variable {s i : Nat} {c c' : Rush} {e e' : Errand} {found found' : Option Bytes}
  {visits visits' : List Visit}

/-- A thread without the lock does not mind if there are more visits, nor if something is
kept where nothing was. -/
theorem Suits.of_outside (h : Suits found visits i e) (he : e.hasLock = false)
    (hkept : ∀ f, found = some f → found' = some f) (hvisits : visits ⊆ visits') :
    Suits found' visits' i e := by
  cases e with
  | called => trivial
  | waiting => trivial
  | ended answer =>
      cases answer with
      | ok v =>
          obtain ⟨f, rfl⟩ := Option.isSome_iff_exists.mp h.1
          exact ⟨rfl, hkept f h.2⟩
      | error fault => exact hvisits h
  | inside => cases he
  | computing => cases he
  | computed f => cases he
  | reading => cases he
  | leaving answer => cases he

theorem Tidy.failed (h : Tidy found visits) (hfound : found = none) : AllFailed visits := by
  rw [hfound] at h
  exact h

theorem Suits.tidy_of_leaving {answer : Except Fault (Option Bytes)}
    (h : Suits found visits i (.leaving answer)) : Tidy found visits := by
  cases answer with
  | ok v => exact h.2
  | error fault => exact h.2

/-- On its way out a thread keeps what it has got. -/
theorem Suits.ended {answer : Except Fault (Option Bytes)}
    (h : Suits found visits i (.leaving answer)) : Suits found visits i (.ended answer) := by
  cases answer with
  | ok v => exact h.1
  | error fault => exact h.1.2

/-- A thread raises what its own computation has raised. -/
theorem Suits.of_fault {fault : Fault} (h : Suits found visits i e) (he : e.fault? = some fault) :
    ⟨i, some (.error fault)⟩ ∈ visits := by
  cases e with
  | leaving answer =>
      cases answer with
      | ok v => cases he
      | error raised =>
          obtain rfl := Option.some.inj he
          exact h.1.2
  | ended answer =>
      cases answer with
      | ok v => cases he
      | error raised =>
          obtain rfl := Option.some.inj he
          exact h
  | called => cases he
  | waiting => cases he
  | inside => cases he
  | computing => cases he
  | computed f => cases he
  | reading => cases he

/-- What one thread does is invariant if it suits that thread itself, and all others. -/
theorem Inv.goOn {world : World} {holder : Option Nat} (h : Inv s c)
    (hi : c.errands[i]? = some e) (hlt : s < world.states.length)
    (hlocked : LockedBy holder (c.errands.set i e'))
    (hfree : holder = none → Tidy (world.state s).fingerprint visits)
    (hself : Suits (world.state s).fingerprint visits i e')
    (hothers : ∀ j d, i ≠ j → c.errands[j]? = some d →
      Suits (world.state s).fingerprint visits j d)
    (hfault : ∀ fault, e.fault? = some fault → e'.fault? = some fault)
    (hvisits : ∀ j fault, ⟨j, some (.error fault)⟩ ∈ visits →
      ⟨j, some (.error fault)⟩ ∈ c.visits ∨ j = i ∧ e'.fault? = some fault) :
    Inv s ⟨world, holder, c.errands.set i e', visits⟩ := by
  have hmoved : (c.errands.set i e')[i]? = some e' := getElem?_set_of_some hi e'
  refine ⟨hlt, hlocked, hfree, fun j d hj => ?_, fun j fault hj => ?_⟩
  · dsimp only at hj
    rcases eq_or_ne i j with rfl | hij
    · rw [hmoved] at hj
      exact Option.some.inj hj ▸ hself
    · rw [List.getElem?_set_ne hij] at hj
      exact hothers j d hij hj
  · rcases hvisits j fault hj with hold | ⟨rfl, hnew⟩
    · obtain ⟨d, hd, hraised⟩ := h.raised j fault hold
      rcases eq_or_ne i j with rfl | hij
      · obtain rfl : e = d := Option.some.inj (hi.symm.trans hd)
        exact ⟨e', hmoved, hfault fault hraised⟩
      · exact ⟨d, (List.getElem?_set_ne hij).trans hd, hraised⟩
    · exact ⟨e', hmoved, hnew⟩

/-- A thread goes on without keeping anything and without deciding its visit. -/
theorem Inv.pass {holder : Option Nat} (h : Inv s c) (hi : c.errands[i]? = some e)
    (hlocked : LockedBy holder (c.errands.set i e'))
    (hfree : holder = none → Tidy (c.cached s) c.visits)
    (hself : Suits (c.cached s) c.visits i e') (hfault : e'.fault? = e.fault?) :
    Inv s ⟨c.world, holder, c.errands.set i e', c.visits⟩ :=
  h.goOn hi h.state_lt hlocked hfree hself (fun j d _ hj => h.suits j d hj)
    (fun _ hraised => hfault.trans hraised) fun _ _ hj => Or.inl hj

/-- The thread that has the lock goes on, and may decide its visit or keep something. -/
theorem Inv.turn {world : World} (h : Inv s c) (hi : c.errands[i]? = some e)
    (he : e.hasLock = true) (he' : e'.hasLock = true) (hnoFault : e.fault? = none)
    (hlt : s < world.states.length)
    (hkept : ∀ f, c.cached s = some f → (world.state s).fingerprint = some f)
    (hsub : c.visits ⊆ visits)
    (hvisits : ∀ j fault, ⟨j, some (.error fault)⟩ ∈ visits →
      ⟨j, some (.error fault)⟩ ∈ c.visits ∨ j = i ∧ e'.fault? = some fault)
    (hself : Suits (world.state s).fingerprint visits i e') :
    Inv s ⟨world, c.holder, c.errands.set i e', visits⟩ := by
  have hholder : c.holder = some i := h.locked.holder_eq hi he
  refine h.goOn hi hlt (h.locked.keep hi (he'.trans he.symm)) ?_ hself ?_ ?_ hvisits
  · intro hfree
    rw [hholder] at hfree
    cases hfree
  · intro j d hij hj
    refine (h.suits j d hj).of_outside ?_ hkept hsub
    -- nobody else has the lock
    cases hd : d.hasLock with
    | false => rfl
    | true => exact absurd (h.locked.unique hi he hj hd) hij
  · intro fault hfault
    rw [hnoFault] at hfault
    cases hfault

/-- The thread that has the lock goes on and decides its visit, but keeps nothing yet. -/
theorem Inv.visit {world : World} {computation : Option (Except Fault Bytes)} (h : Inv s c)
    (hi : c.errands[i]? = some e) (he : e.hasLock = true) (he' : e'.hasLock = true)
    (hnoFault : e.fault? = none) (hstates : world.states = c.world.states)
    (hfault : ∀ fault, computation = some (.error fault) → e'.fault? = some fault)
    (hself : Suits (c.cached s) (c.visits ++ [⟨i, computation⟩]) i e') :
    Inv s ⟨world, c.holder, c.errands.set i e', c.visits ++ [⟨i, computation⟩]⟩ := by
  have hcached : (world.state s).fingerprint = c.cached s := by
    rw [World.state, hstates]
    rfl
  refine h.turn hi he he' hnoFault (hstates ▸ h.state_lt) (fun f hf => hcached.trans hf)
    (List.subset_append_left _ _) (fun j fault hj => ?_) (hcached ▸ hself)
  rcases List.mem_append.mp hj with hj | hj
  · exact Or.inl hj
  · obtain ⟨rfl, hcomputation⟩ := Visit.mk.inj (List.mem_singleton.mp hj)
    exact Or.inr ⟨rfl, hfault fault hcomputation.symm⟩

theorem Inv.call (h : Inv s c) : Inv s { c with errands := c.errands ++ [.called] } := by
  refine ⟨h.state_lt, h.locked.concat rfl, h.free, fun j d hj => ?_, fun j fault hj => ?_⟩
  · dsimp only at hj
    rw [List.getElem?_append] at hj
    split at hj
    · exact h.suits j d hj
    · obtain rfl := List.mem_singleton.mp (List.mem_of_getElem? hj)
      trivial
  · obtain ⟨d, hd, hraised⟩ := h.raised j fault hj
    have hlt := (List.getElem?_eq_some_iff.mp hd).1
    exact ⟨d, (List.getElem?_append_left hlt).trans hd, hraised⟩

theorem Inv.disturb {w : World} (h : Inv s c) (hlt : s < w.states.length)
    (hcached : (w.state s).fingerprint = c.cached s) : Inv s { c with world := w } := by
  refine ⟨hlt, h.locked, fun hfree => ?_, fun j d hj => ?_, h.raised⟩
  · show Tidy (w.state s).fingerprint _
    rw [hcached]
    exact h.free hfree
  · show Suits (w.state s).fingerprint _ _ _
    rw [hcached]
    exact h.suits j d hj

theorem Inv.store {f : Bytes} (h : Inv s c) (hi : c.errands[i]? = some (.computed f)) :
    Inv s ⟨c.world.setState s { c.world.state s with fingerprint := some f }, c.holder,
      c.errands.set i .reading, c.visits⟩ := by
  obtain ⟨hnone, honce⟩ := h.suits i _ hi
  have hcached := congrArg GeneratorState.fingerprint
    (World.state_setState_self { c.world.state s with fingerprint := some f } h.state_lt)
  refine h.turn hi rfl rfl rfl ?_ (fun g hg => ?_) (List.Subset.refl _)
    (fun _ _ hj => Or.inl hj) ?_
  · rw [World.setState, List.length_set]
    exact h.state_lt
  · rw [hnone] at hg
    cases hg
  · rw [hcached]
    exact ⟨rfl, honce⟩

theorem Inv.step (h : Inv s c) (hstep : Step s c c') : Inv s c' := by
  cases hstep with
  | call => exact h.call
  | find i f hi hcached =>
      exact h.pass hi (h.locked.keep hi rfl) h.free ⟨rfl, hcached⟩ rfl
  | miss i hi hcached => exact h.pass hi (h.locked.keep hi rfl) h.free trivial rfl
  | acquire i hi hfree =>
      have hlocked : LockedBy none c.errands := hfree ▸ h.locked
      exact h.pass hi (hlocked.take hi rfl) nofun (h.free hfree) rfl
  | discover i f hi hcached =>
      have htidy : Tidy (c.cached s) c.visits := h.suits i _ hi
      rw [hcached] at htidy
      refine h.visit hi rfl rfl rfl rfl nofun ?_
      rw [hcached]
      exact ⟨rfl, htidy.concat i⟩
  | begin i hi hcached =>
      exact h.pass hi (h.locked.keep hi rfl) h.free ⟨hcached, h.suits i _ hi⟩ rfl
  | succeed i f hi hrun =>
      obtain ⟨hnone, htidy⟩ := h.suits i _ hi
      refine h.visit hi rfl rfl rfl (World.states_computation s c.world) nofun ?_
      exact ⟨hnone, (htidy.failed hnone).computedOnce i f⟩
  | fail i fault hi hrun =>
      obtain ⟨hnone, htidy⟩ := h.suits i _ hi
      refine h.visit hi rfl rfl rfl (World.states_computation s c.world) ?_ ?_
      · rintro _ ⟨⟩
        rfl
      · rw [hnone]
        exact ⟨⟨rfl, by simp⟩, (htidy.failed hnone).concat i fault⟩
  | store i f hi => exact h.store hi
  | read i hi =>
      obtain ⟨hsome, htidy⟩ := h.suits i _ hi
      exact h.pass hi (h.locked.keep hi rfl) h.free ⟨⟨hsome, rfl⟩, htidy⟩ rfl
  | release i answer hi =>
      have hleaving := h.suits i _ hi
      refine h.pass hi (h.locked.leave hi rfl rfl) (fun _ => hleaving.tidy_of_leaving)
        hleaving.ended ?_
      cases answer <;> rfl
  | disturb w hcached hlt => exact h.disturb (hlt h.state_lt) hcached

/-- In a world that keeps no fingerprint yet, the invariant holds before anybody has called. -/
theorem inv_start {w : World} (hs : s < w.states.length) (hnew : (w.state s).fingerprint = none) :
    Inv s { world := w } := by
  refine ⟨hs, fun i => by simp, fun _ => ?_, fun i e hi => by simp at hi,
    fun i fault hi => absurd hi List.not_mem_nil⟩
  show Tidy (w.state s).fingerprint []
  rw [hnew]
  exact fun v hv => absurd hv List.not_mem_nil

theorem Inv.run (h : Inv s c) (hrun : Relation.ReflTransGen (Step s) c c') : Inv s c' := by
  induction hrun with
  | refl => exact h
  | tail _ hstep ih => exact ih.step hstep

/-! ## What follows from it -/

/-- As long as nobody is about to keep a fingerprint, all is tidy. -/
theorem Inv.tidy_or (h : Inv s c) :
    Tidy (c.cached s) c.visits ∨ c.cached s = none ∧ ∃ f, ComputedOnce f c.visits := by
  cases hholder : c.holder with
  | none => exact Or.inl (h.free hholder)
  | some i =>
      obtain ⟨e, hi, he⟩ := (h.locked i).mp hholder
      have hsuits := h.suits i e hi
      cases e with
      | inside => exact Or.inl hsuits
      | computing => exact Or.inl hsuits.2
      | computed f => exact Or.inr ⟨hsuits.1, f, hsuits.2⟩
      | reading => exact Or.inl hsuits.2
      | leaving answer => exact Or.inl hsuits.tidy_of_leaving
      | called => cases he
      | waiting => cases he
      | ended answer => cases he

theorem Inv.computedOnce (h : Inv s c) {f : Bytes} (hcached : c.cached s = some f) :
    ComputedOnce f c.visits := by
  rcases h.tidy_or with htidy | ⟨hnone, -⟩
  · rw [hcached] at htidy
    exact htidy
  · rw [hnone] at hcached
    cases hcached

/-- Either nobody has computed a fingerprint, or one has, and nobody after that. -/
theorem Inv.course (h : Inv s c) : AllFailed c.visits ∨ ∃ f, ComputedOnce f c.visits := by
  rcases h.tidy_or with htidy | ⟨-, honce⟩
  · cases hcached : c.cached s with
    | none => exact Or.inl (htidy.failed hcached)
    | some f => exact Or.inr ⟨f, h.computedOnce hcached⟩
  · exact Or.inr honce

/-- What is kept is not replaced. -/
theorem Step.cached_of_some (hstep : Step s c c') (h : Inv s c) {f : Bytes}
    (hcached : c.cached s = some f) : c'.cached s = some f := by
  cases hstep with
  | store i g hi =>
      have hnone := (h.suits i _ hi).1
      rw [hcached] at hnone
      cases hnone
  | succeed i g hi hrun =>
      exact (World.kept_computation s c.world).trans hcached
  | fail i fault hi hrun =>
      exact (World.kept_computation s c.world).trans hcached
  | disturb w hkept hlt => exact hkept.trans hcached
  | call => exact hcached
  | find i f hi hfound => exact hcached
  | miss i hi hmissed => exact hcached
  | acquire i hi hfree => exact hcached
  | discover i f hi hfound => exact hcached
  | begin i hi hmissed => exact hcached
  | read i hi => exact hcached
  | release i answer hi => exact hcached

theorem Inv.cached_of_run (h : Inv s c) (hrun : Relation.ReflTransGen (Step s) c c') {f : Bytes}
    (hcached : c.cached s = some f) : c'.cached s = some f := by
  induction hrun with
  | refl => exact hcached
  | tail hbefore hstep ih => exact hstep.cached_of_some (h.run hbefore) ih

/-- The fingerprint is computed exactly once, unless all computations fail. -/
structure ExactlyOnce (s : Nat) (c : Rush) : Prop where
  /-- No two computations are in progress at once. -/
  exclusive : ∀ i j : Nat, c.errands[i]? = some Errand.computing →
    c.errands[j]? = some Errand.computing → i = j
  /-- Computations fail until one succeeds, and from then on nobody computes. -/
  course : AllFailed c.visits ∨ ∃ f, ComputedOnce f c.visits
  /-- At most one computation succeeds. -/
  once : (c.visits.filterMap Visit.success?).length ≤ 1
  /-- What is kept is kept for good. -/
  lasting : ∀ c' f, Relation.ReflTransGen (Step s) c c' → c.cached s = some f →
    c'.cached s = some f
  /-- Whoever returns has what the one successful computation has come to. -/
  returned : ∀ (i : Nat) v, c.errands[i]? = some (Errand.ended (.ok v)) →
    ∃ f, v = some f ∧ c.cached s = some f ∧ c.visits.filterMap Visit.success? = [f]
  /-- A computation that fails raises its fault in its own thread, and no thread raises
  anything else. -/
  raised : ∀ (i : Nat) fault, ⟨i, some (.error fault)⟩ ∈ c.visits ↔
    ∃ e, c.errands[i]? = some e ∧ e.fault? = some fault
  /-- It leaves nothing behind. -/
  unset : ∀ before i fault, c.visits = before ++ [⟨i, some (.error fault)⟩] →
    c.cached s = none
  /-- Whoever is done does not have the lock, whether it has returned or raised a fault. -/
  freed : ∀ (i : Nat) answer, c.errands[i]? = some (Errand.ended answer) → c.holder ≠ some i
  /-- After a failed computation, the next turn under the lock computes again. -/
  again : ∀ before i fault v after,
    c.visits = before ++ ⟨i, some (.error fault)⟩ :: v :: after → v.computation.isSome = true
  /-- Nothing keeps a thread that is waiting from being that next one. -/
  following : ∀ (i j : Nat) fault, c.errands[i]? = some (Errand.leaving (.error fault)) →
    c.errands[j]? = some Errand.waiting →
    ∃ c', Relation.ReflTransGen (Step s) c c' ∧ c'.visits = c.visits ∧
      c'.errands = (c.errands.set i (.ended (.error fault))).set j .computing
  /-- Whoever calls while the lock is free, and is not interrupted, does what
  `World.fingerprint` does. -/
  alone : c.holder = none → ∃ after, Relation.ReflTransGen (Step s) c
    (last c.errands (World.fingerprint s c.world).state none
      (.ended ((World.fingerprint s c.world).answer.map some)) after)

/-- The thread that has failed lets go of the lock, and another one computes. -/
theorem Inv.following {j : Nat} {fault : Fault} (h : Inv s c)
    (hi : c.errands[i]? = some (.leaving (.error fault))) (hj : c.errands[j]? = some .waiting) :
    ∃ c', Relation.ReflTransGen (Step s) c c' ∧ c'.visits = c.visits ∧
      c'.errands = (c.errands.set i (.ended (.error fault))).set j .computing := by
  have hnone : c.cached s = none := (h.suits i _ hi).1.1
  have hij : i ≠ j := by
    rintro rfl
    rw [hi] at hj
    cases hj
  let released : Rush := { c.move i (.ended (.error fault)) with holder := none }
  have hwaiting : released.errands[j]? = some .waiting :=
    (List.getElem?_set_ne hij).trans hj
  let acquired : Rush := { released.move j .inside with holder := some j }
  have hinside : acquired.errands[j]? = some .inside := getElem?_set_of_some hwaiting _
  have hrelease : Step s c released := .release c i _ hi
  have hacquire : Step s released acquired := .acquire released j hwaiting rfl
  have hbegin : Step s acquired (acquired.move j .computing) := .begin acquired j hinside hnone
  exact ⟨_, ((Relation.ReflTransGen.single hrelease).tail hacquire).tail hbegin, rfl,
    List.set_set ..⟩

theorem Inv.exactlyOnce (h : Inv s c) : ExactlyOnce s c where
  exclusive i j hi hj := h.locked.unique hi rfl hj rfl
  course := h.course
  once := by
    rcases h.course with hfailed | ⟨f, honce⟩
    · rw [hfailed.successes]
      exact Nat.zero_le 1
    · rw [honce.successes]
      exact le_rfl
  lasting c' f hrun hcached := h.cached_of_run hrun hcached
  returned i v hi := by
    obtain ⟨hsome, hcached⟩ := h.suits i _ hi
    obtain ⟨f, rfl⟩ := Option.isSome_iff_exists.mp hsome
    exact ⟨f, rfl, hcached, (h.computedOnce hcached).successes⟩
  raised i fault := by
    refine ⟨h.raised i fault, ?_⟩
    rintro ⟨e, hi, he⟩
    exact (h.suits i e hi).of_fault he
  unset before i fault hvisits := by
    cases hcached : c.cached s with
    | none => rfl
    | some f =>
        obtain ⟨v, rest, hrest, -⟩ := (h.computedOnce hcached).computes_after hvisits
        cases hrest
  freed i answer hi hholder := by
    obtain ⟨e, hi', he⟩ := (h.locked i).mp hholder
    rw [hi] at hi'
    obtain rfl := Option.some.inj hi'
    cases he
  again before i fault v after hvisits := by
    rcases h.course with hfailed | ⟨f, honce⟩
    · obtain ⟨fault', hv⟩ := hfailed v (by simp [hvisits])
      rw [hv]
      rfl
    · obtain ⟨v', rest, hrest, hv⟩ := honce.computes_after hvisits
      obtain ⟨rfl, -⟩ := List.cons.inj hrest
      exact hv
  following i j fault hi hj := h.following hi hj
  alone := fingerprint_alone h.state_lt

end Steps

/-- However threads that want one fingerprint interleave, and whatever the platform answers to
each of them, it is computed exactly once, unless all computations fail. -/
theorem exactlyOnce_of_reachable {s : Nat} {w : World} {c : Rush} (hs : s < w.states.length)
    (hnew : (w.state s).fingerprint = none) (hreach : Reachable s w c) : ExactlyOnce s c :=
  ((inv_start hs hnew).run hreach).exactlyOnce

/-- A world of one state, over a host whose name is looked up like this. -/
def overHost (name : Except Fault Text) : World :=
  World.single { (default : Platform) with hostName := name } default fun _ => .ok []

/-- Two threads find nothing.  The first to compute runs out of memory; by the time the second
one computes there is enough of it, and a third thread finds what that one has kept. -/
theorem exactlyOnce_of_reachable_retry :
    ∃ c : Rush, Reachable 0 (overHost (.error (.outside .memory []))) c ∧
      c.errands = [.ended (.error (.outside .memory [])), .ended (.ok (some [0x62, 0, 0, 0, 0])),
        .ended (.ok (some [0x62, 0, 0, 0, 0]))] ∧
      c.visits.filterMap Visit.success? = [[0x62, 0, 0, 0, 0]] ∧
      c.cached 0 = some [0x62, 0, 0, 0, 0] ∧ ExactlyOnce 0 c := by
  let fault : Fault := .outside .memory []
  let f : Bytes := [0x62, 0, 0, 0, 0]
  let w := overHost (.error fault)
  let v := overHost (.ok "b")
  let kept := (World.computation 0 v).state.setState 0
    { (World.computation 0 v).state.state 0 with fingerprint := some f }
  have hfail : (World.computation 0 w).answer = .error fault :=
    (World.answer_computation 0 w).trans rfl
  have hrun : (World.computation 0 v).answer = .ok f :=
    (World.answer_computation 0 v).trans (congrArg Run.answer
      (Fingerprint.compute_of_name (p := v.platform 0) rfl (List.cons_ne_nil _ _) rfl
        Environment.serialize_nil))
  have hcached : (kept.state 0).fingerprint = some f :=
    congrArg GeneratorState.fingerprint
      (World.state_setState_self _ (World.states_computation 0 v ▸ Nat.one_pos))
  have hwaiting : Reachable 0 w ⟨w, none, [.waiting, .waiting], []⟩ :=
    (((Relation.ReflTransGen.single (.call _)).tail (.call _)).tail (.miss _ 0 rfl rfl)).tail
      (.miss _ 1 rfl rfl)
  have hfailed : Reachable 0 w ⟨(World.computation 0 w).state, some 0,
      [.leaving (.error fault), .waiting], [⟨0, some (.error fault)⟩]⟩ :=
    ((hwaiting.tail (.acquire _ 0 rfl rfl)).tail (.begin _ 0 rfl rfl)).tail
      (.fail _ 0 fault rfl hfail)
  have hfreed : Reachable 0 w ⟨v, none, [.ended (.error fault), .waiting],
      [⟨0, some (.error fault)⟩]⟩ :=
    (hfailed.tail (.disturb _ v rfl fun _ => Nat.one_pos)).tail (.release _ 0 _ rfl)
  have hcomputed : Reachable 0 w ⟨(World.computation 0 v).state, some 1,
      [.ended (.error fault), .computed f],
      [⟨0, some (.error fault)⟩, ⟨1, some (.ok f)⟩]⟩ :=
    ((hfreed.tail (.acquire _ 1 rfl rfl)).tail (.begin _ 1 rfl rfl)).tail
      (.succeed _ 1 f rfl hrun)
  have hkept : Reachable 0 w ⟨kept, some 1, [.ended (.error fault), .leaving (.ok (some f))],
      [⟨0, some (.error fault)⟩, ⟨1, some (.ok f)⟩]⟩ :=
    (hcomputed.tail (.store _ 1 f rfl)).tail (.read_of_cached _ 1 rfl hcached)
  have hfound : Reachable 0 w ⟨kept, none, [.ended (.error fault), .ended (.ok (some f)),
      .ended (.ok (some f))], [⟨0, some (.error fault)⟩, ⟨1, some (.ok f)⟩]⟩ :=
    ((hkept.tail (.release _ 1 _ rfl)).tail (.call _)).tail (.find _ 2 f rfl hcached)
  have hmain := exactlyOnce_of_reachable Nat.one_pos rfl hfound
  obtain ⟨g, hg, -, hsuccesses⟩ := hmain.returned 2 _ rfl
  obtain rfl : f = g := Option.some.inj hg
  exact ⟨_, hfound, rfl, hsuccesses, hcached, hmain⟩

end Rush

end IdMint
