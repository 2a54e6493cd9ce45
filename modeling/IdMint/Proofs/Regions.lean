import IdMint.Proofs.Journals

/-!
# Regions of a world

A region is a part of a world: some platforms, some states, some generators, and the
clock on the wall or not.  It is closed in a world if the generators and states in it
refer to nothing outside.

An action is confined to a region (`Region.Confined`) if it leaves everything outside
as it was, and if all that it does depends on the region alone: in two worlds that are
the same there, it gives the same and leaves worlds that are still the same there.
Actions that are put together from confined ones are confined, and so a step of a
session is confined to every closed region that has its generator in it
(`Region.confined_perform`).

The hash primitive belongs to no region: it is common to all of them.  The stopwatch is
common to all as well, but no region depends on it: all that it decides is how long the
journal says that something took, and how serious that is.
-/

namespace IdMint

namespace World

/-- Only a generator that had no clock of its own still has none. -/
theorem clock_eq_none_of_setClock {w : World} {g j : Nat} {c : Clock}
    (h : ((setClock g c w).generator j).clock = none) : (w.generator j).clock = none := by
  by_cases hown : (w.generator g).clock.isSome = true
  · rw [setClock_of_own c hown] at h
    by_cases hj : g = j
    · subst hj
      rw [generator_setGenerator_self _ (lt_of_clock_isSome hown)] at h
      cases h
    · rwa [generator_setGenerator_ne _ hj] at h
  · rwa [setClock_of_wall c hown] at h

/-- A state that is put back with its platform leaves the platforms of all states as they
were. -/
theorem origin_setState {w : World} {s : Nat} {x : GeneratorState}
    (hx : x.platform = (w.state s).platform) (t : Nat) :
    ((w.setState s x).state t).platform = (w.state t).platform := by
  by_cases hst : s = t
  · subst hst
    by_cases hs : s < w.states.length
    · rw [state_setState_self _ hs, hx]
    · rw [setState, List.set_eq_of_length_le (Nat.not_lt.mp hs)]
  · rw [state_setState_ne _ hst]

end World

/-- The step replaces the hash primitive. -/
def Step.SetsPrimitive : Step → Prop
  | setPrimitive _ _ => True
  | _ => False

/-- What is noted down of an operation says if it failed, and else is the same event. -/
theorem Stopwatch.event_entry {α : Type} (operation : Text) (patience before after : Float)
    (answer : Except Fault α) :
    (entry operation patience before after answer).event =
      operation ++ (if answer.isOk then " completed" else " failed" : Text) := by
  cases answer <;> rfl

/-- A part of a world. -/
structure Region where
  platform : Nat → Prop
  state : Nat → Prop
  generator : Nat → Prop
  /-- The clock on the wall belongs to it. -/
  wall : Prop

namespace Region

/-- All that does not belong to a region. -/
def outside (r : Region) : Region where
  platform i := ¬r.platform i
  state s := ¬r.state s
  generator g := ¬r.generator g
  wall := ¬r.wall

/-- Two worlds are the same within a region, and hash in the same way. -/
structure Same (r : Region) (w w' : World) : Prop where
  platform : ∀ i, r.platform i → w.platforms[i]? = w'.platforms[i]?
  state : ∀ s, r.state s → w.states[s]? = w'.states[s]?
  generator : ∀ g, r.generator g → w.generators[g]? = w'.generators[g]?
  wallClock : r.wall → w.wallClock = w'.wallClock
  primitive : w.primitive = w'.primitive

/-- In a world, nothing in a region refers to anything outside. -/
structure Closed (r : Region) (w : World) : Prop where
  state : ∀ g, r.generator g → r.state (w.generator g).state
  platform : ∀ g, r.generator g → r.platform (w.generator g).platform
  clock : ∀ g, r.generator g → (w.generator g).clock = none → r.wall
  origin : ∀ s, r.state s → r.platform (w.state s).platform

/-- Two runs give the same, note down the same events, and leave worlds that are the same
within a region. -/
structure Agrees {α : Type} (r : Region) (run run' : Run World α) : Prop where
  answer : run.answer = run'.answer
  events : run.entries.map Entry.event = run'.entries.map Entry.event
  state : r.Same run.state run'.state

/-- The action neither changes anything outside a region nor depends on it. -/
structure Confined {α : Type} (r : Region) (act : Act World α) : Prop where
  frame : ∀ w, r.Closed w → r.outside.Same w (act w).state
  closed : ∀ w, r.Closed w → r.Closed (act w).state
  agrees : ∀ w w', r.Closed w → r.Same w w' → r.Agrees (act w) (act w')

variable {r : Region} {w w' v : World}

/-! ## The same within a region -/

namespace Same

protected theorem refl (r : Region) (w : World) : r.Same w w :=
  ⟨fun _ _ => rfl, fun _ _ => rfl, fun _ _ => rfl, fun _ => rfl, rfl⟩

protected theorem symm (h : r.Same w w') : r.Same w' w :=
  ⟨fun i hi => (h.platform i hi).symm, fun s hs => (h.state s hs).symm,
    fun g hg => (h.generator g hg).symm, fun hwall => (h.wallClock hwall).symm, h.primitive.symm⟩

protected theorem trans (h : r.Same w w') (h' : r.Same w' v) : r.Same w v :=
  ⟨fun i hi => (h.platform i hi).trans (h'.platform i hi),
    fun s hs => (h.state s hs).trans (h'.state s hs),
    fun g hg => (h.generator g hg).trans (h'.generator g hg),
    fun hwall => (h.wallClock hwall).trans (h'.wallClock hwall), h.primitive.trans h'.primitive⟩

theorem platformAt (h : r.Same w w') {i : Nat} (hi : r.platform i) :
    w.platform i = w'.platform i := by
  rw [World.platform, World.platform, List.getD_eq_getElem?_getD, List.getD_eq_getElem?_getD,
    h.platform i hi]

theorem stateAt (h : r.Same w w') {s : Nat} (hs : r.state s) : w.state s = w'.state s := by
  rw [World.state, World.state, List.getD_eq_getElem?_getD, List.getD_eq_getElem?_getD,
    h.state s hs]

theorem generatorAt (h : r.Same w w') {g : Nat} (hg : r.generator g) :
    w.generator g = w'.generator g := by
  rw [World.generator, World.generator, List.getD_eq_getElem?_getD, List.getD_eq_getElem?_getD,
    h.generator g hg]

/-- What is put into both worlds is the same in both. -/
theorem setPlatform (h : r.Same w w') (i : Nat) (p : Platform) :
    r.Same (w.setPlatform i p) (w'.setPlatform i p) where
  platform j hj := by
    show (w.platforms.set i p)[j]? = (w'.platforms.set i p)[j]?
    rw [List.getElem?_set', List.getElem?_set', h.platform j hj]
  state := h.state
  generator := h.generator
  wallClock := h.wallClock
  primitive := h.primitive

theorem setState (h : r.Same w w') (s : Nat) (x : GeneratorState) :
    r.Same (w.setState s x) (w'.setState s x) where
  platform := h.platform
  state t ht := by
    show (w.states.set s x)[t]? = (w'.states.set s x)[t]?
    rw [List.getElem?_set', List.getElem?_set', h.state t ht]
  generator := h.generator
  wallClock := h.wallClock
  primitive := h.primitive

theorem setClock (h : r.Same w w') {g : Nat} (hg : r.generator g) (c : Clock) :
    r.Same (World.setClock g c w) (World.setClock g c w') := by
  have hgenerator := h.generatorAt hg
  by_cases hown : (w.generator g).clock.isSome = true
  · have hown' : (w'.generator g).clock.isSome = true := by rwa [← hgenerator]
    rw [World.setClock_of_own c hown, World.setClock_of_own c hown', hgenerator]
    refine { h with generator := fun j hj => ?_ }
    show (w.generators.set g _)[j]? = (w'.generators.set g _)[j]?
    rw [List.getElem?_set', List.getElem?_set', h.generator j hj]
  · have hown' : ¬(w'.generator g).clock.isSome = true := by rwa [← hgenerator]
    rw [World.setClock_of_wall c hown, World.setClock_of_wall c hown']
    exact { h with wallClock := fun _ => rfl }

end Same

/-! ## What is left alone -/

theorem same_setPlatform {i : Nat} (hi : ¬r.platform i) (p : Platform) :
    r.Same w (w.setPlatform i p) := by
  refine { Same.refl r w with platform := fun j hj => ?_ }
  have hne : i ≠ j := fun heq => hi (heq ▸ hj)
  exact (List.getElem?_set_ne hne).symm

theorem same_setState {s : Nat} (hs : ¬r.state s) (x : GeneratorState) :
    r.Same w (w.setState s x) := by
  refine { Same.refl r w with state := fun t ht => ?_ }
  have hne : s ≠ t := fun heq => hs (heq ▸ ht)
  exact (List.getElem?_set_ne hne).symm

theorem same_setClock {g : Nat} (hg : ¬r.generator g)
    (hwall : (w.generator g).clock = none → ¬r.wall) (c : Clock) :
    r.Same w (World.setClock g c w) := by
  by_cases hown : (w.generator g).clock.isSome = true
  · rw [World.setClock_of_own c hown]
    refine { Same.refl r w with generator := fun j hj => ?_ }
    have hne : g ≠ j := fun heq => hg (heq ▸ hj)
    exact (List.getElem?_set_ne hne).symm
  · rw [World.setClock_of_wall c hown]
    have hnone := Option.not_isSome_iff_eq_none.mp hown
    exact { Same.refl r w with wallClock := fun h => absurd h (hwall hnone) }

/-- No region depends on the stopwatch. -/
theorem same_watched : r.Same w w.watched := { Same.refl r w with }

/-! ## Closed regions -/

namespace Closed

/-- A region is closed in a world that is the same there as one in which it is. -/
theorem of_same (h : r.Closed w) (hsame : r.Same w w') : r.Closed w' where
  state g hg := by
    rw [← hsame.generatorAt hg]
    exact h.state g hg
  platform g hg := by
    rw [← hsame.generatorAt hg]
    exact h.platform g hg
  clock g hg := by
    rw [← hsame.generatorAt hg]
    exact h.clock g hg
  origin s hs := by
    rw [← hsame.stateAt hs]
    exact h.origin s hs

theorem setPlatform (h : r.Closed w) (i : Nat) (p : Platform) : r.Closed (w.setPlatform i p) :=
  ⟨h.state, h.platform, h.clock, h.origin⟩

/-- A state that keeps its platform may change in every other respect. -/
theorem setState (h : r.Closed w) {s : Nat} {x : GeneratorState}
    (hx : x.platform = (w.state s).platform) : r.Closed (w.setState s x) := by
  refine ⟨h.state, h.platform, h.clock, fun t ht => ?_⟩
  rw [World.origin_setState hx]
  exact h.origin t ht

theorem setClock (h : r.Closed w) (g : Nat) (c : Clock) : r.Closed (World.setClock g c w) where
  state j hj := by
    rw [(World.places_setClock w g j c).2]
    exact h.state j hj
  platform j hj := by
    rw [(World.places_setClock w g j c).1]
    exact h.platform j hj
  clock j hj hnone := h.clock j hj (World.clock_eq_none_of_setClock hnone)
  origin s hs := by
    have hstate : (World.setClock g c w).state s = w.state s :=
      congrArg (·.getD s default) (World.states_setClock w g c)
    rw [hstate]
    exact h.origin s hs

end Closed

/-! ## Confined actions -/

namespace Confined

variable {α β : Type}

theorem pure (a : α) : r.Confined (Pure.pure a : Act World α) :=
  ⟨fun w _ => .refl _ w, fun _ h => h, fun _ _ _ h => ⟨rfl, rfl, h⟩⟩

theorem fail (fault : Fault) : r.Confined (Act.fail fault : Act World α) :=
  ⟨fun w _ => .refl _ w, fun _ h => h, fun _ _ _ h => ⟨rfl, rfl, h⟩⟩

theorem ofExcept (answer : Except Fault α) : r.Confined (Act.ofExcept answer) :=
  ⟨fun w _ => .refl _ w, fun _ h => h, fun _ _ _ h => ⟨rfl, rfl, h⟩⟩

theorem note (severity : Severity) (event : Text) (fields : List (Text × Value)) :
    r.Confined (Act.note severity event fields) :=
  ⟨fun w _ => .refl _ w, fun _ h => h, fun _ _ _ h => ⟨rfl, rfl, h⟩⟩

theorem change {f : World → World} (hframe : ∀ w, r.Closed w → r.outside.Same w (f w))
    (hclosed : ∀ w, r.Closed w → r.Closed (f w))
    (hsame : ∀ w w', r.Closed w → r.Same w w' → r.Same (f w) (f w')) :
    r.Confined (Act.change f) :=
  ⟨hframe, hclosed, fun w w' h hw => ⟨rfl, rfl, hsame w w' h hw⟩⟩

theorem attempt {act : Act World α} (h : r.Confined act) : r.Confined act.attempt := by
  refine ⟨h.frame, h.closed, fun w w' hw hsame => ?_⟩
  have hrun := h.agrees w w' hw hsame
  exact ⟨congrArg Except.ok hrun.answer, hrun.events, hrun.state⟩

theorem map {act : Act World α} (f : α → β) (h : r.Confined act) : r.Confined (f <$> act) where
  frame w hw := by
    rw [Act.map_apply]
    exact h.frame w hw
  closed w hw := by
    rw [Act.map_apply]
    exact h.closed w hw
  agrees w w' hw hsame := by
    have hrun := h.agrees w w' hw hsame
    rw [Act.map_apply, Act.map_apply]
    exact ⟨congrArg (Except.map f) hrun.answer, hrun.events, hrun.state⟩

theorem bind {act : Act World α} {next : α → Act World β} (h : r.Confined act)
    (hnext : ∀ a, r.Confined (next a)) : r.Confined (act >>= next) where
  frame w hw := by
    have hfirst := h.frame w hw
    have hclosed := h.closed w hw
    rw [Act.bind_apply]
    rcases hrun : act w with ⟨fault | a, v, entries⟩ <;> rw [hrun] at hfirst hclosed
    · exact hfirst
    · exact hfirst.trans ((hnext a).frame v hclosed)
  closed w hw := by
    have hclosed := h.closed w hw
    rw [Act.bind_apply]
    rcases hrun : act w with ⟨fault | a, v, entries⟩ <;> rw [hrun] at hclosed
    · exact hclosed
    · exact (hnext a).closed v hclosed
  agrees w w' hw hsame := by
    have hfirst := h.agrees w w' hw hsame
    have hclosed := h.closed w hw
    rw [Act.bind_apply, Act.bind_apply]
    rcases hrun : act w with ⟨answer, v, entries⟩
    rcases hrun' : act w' with ⟨answer', v', entries'⟩
    rw [hrun, hrun'] at hfirst
    rw [hrun] at hclosed
    obtain ⟨hanswer, hevents, hstate⟩ := hfirst
    dsimp only at hanswer hevents hstate hclosed
    subst hanswer
    cases answer with
    | error fault => exact ⟨rfl, hevents, hstate⟩
    | ok a =>
        have hthen := (hnext a).agrees v v' hclosed hstate
        refine ⟨hthen.answer, ?_, hthen.state⟩
        show (entries ++ _).map Entry.event = (entries' ++ _).map Entry.event
        rw [List.map_append, List.map_append, hevents, hthen.events]

/-- What is done next may depend on the world, but only on what is in the region. -/
theorem state_bind {next : World → Act World α}
    (heq : ∀ w w', r.Closed w → r.Same w w' → next w = next w')
    (hnext : ∀ w, r.Closed w → r.Confined (next w)) : r.Confined (Act.state >>= next) where
  frame w hw := by
    rw [Act.bind_apply]
    exact (hnext w hw).frame w hw
  closed w hw := by
    rw [Act.bind_apply]
    exact (hnext w hw).closed w hw
  agrees w w' hw hsame := by
    rw [Act.bind_apply, Act.bind_apply]
    have hrun := (hnext w hw).agrees w w' hw hsame
    rw [Act.state_apply, Act.andThen_ok, Act.state_apply, Act.andThen_ok, ← heq w w' hw hsame]
    exact hrun

/-- An action on a part of the world that belongs to the region is confined. -/
theorem within {ρ : Type} {get : World → ρ} {put : ρ → World → World} (act : Act ρ α)
    (hget : ∀ w w', r.Closed w → r.Same w w' → get w = get w')
    (hframe : ∀ w x, r.Closed w → r.outside.Same w (put x w))
    (hclosed : ∀ w x, r.Closed w → r.Closed (put x w))
    (hsame : ∀ w w' x, r.Closed w → r.Same w w' → r.Same (put x w) (put x w')) :
    r.Confined (act.within get put) := by
  refine ⟨fun w hw => hframe w _ hw, fun w hw => hclosed w _ hw, fun w w' hw h => ?_⟩
  rw [Act.within_apply, Act.within_apply, hget w w' hw h]
  exact ⟨rfl, rfl, hsame w w' _ hw h⟩

theorem times {act : Act World α} (h : r.Confined act) (n : Nat) :
    r.Confined (Act.times n act) := by
  induction n with
  | zero => exact pure []
  | succ n ih => exact h.bind fun a => ih.bind fun rest => pure (a :: rest)

theorem inThreads {act : Act World α} (h : r.Confined act) (calls threads : Nat) :
    r.Confined (World.inThreads calls act threads) := by
  induction threads with
  | zero => exact pure []
  | succ threads ih =>
      refine (h.times calls).attempt.bind fun first => ih.attempt.bind fun others => ?_
      cases first with
      | error fault => exact fail fault
      | ok results =>
          cases others with
          | error fault => exact fail fault
          | ok more => exact pure (results ++ more)

/-- The watch that an operation is timed with is not part of the region, and all that it
decides is what the journal says of the duration. -/
theorem timed {act : Act World α} (operation : Text) (patience : Float) (h : r.Confined act) :
    r.Confined (Stopwatch.timed World.readStopwatch operation patience act) := by
  have hclosed : ∀ {w}, r.Closed w → r.Closed w.watched := fun hw => hw.of_same same_watched
  have hrun := fun w => Stopwatch.timed_apply operation patience
    (World.readStopwatch_apply w) (World.readStopwatch_apply (act w.watched).state)
  constructor
  · intro w hw
    rw [hrun w]
    exact (same_watched.trans (h.frame _ (hclosed hw))).trans same_watched
  · intro w hw
    rw [hrun w]
    exact hclosed (h.closed _ (hclosed hw))
  · intro w w' hw hsame
    have hact := h.agrees _ _ (hclosed hw) (same_watched.symm.trans (hsame.trans same_watched))
    rw [hrun w, hrun w']
    refine ⟨hact.answer, ?_, same_watched.symm.trans (hact.state.trans same_watched)⟩
    dsimp only
    rw [List.map_append, List.map_append, hact.events, List.map_singleton, List.map_singleton,
      Stopwatch.event_entry, Stopwatch.event_entry, hact.answer]

end Confined

/-! ## The actions of generators -/

section Actions

variable {α : Type} {g s i : Nat}

theorem confined_onPlatform (hi : r.platform i) (act : Act Platform α) :
    r.Confined (World.onPlatform i act) :=
  .within act (fun _ _ _ h => h.platformAt hi)
    (fun _ p _ => same_setPlatform (not_not_intro hi) p)
    (fun _ p hw => hw.setPlatform i p) fun _ _ p _ h => h.setPlatform i p

/-- Whatever a generator in the region does to its clock, it does nothing outside. -/
theorem same_outside_setClock (hw : r.Closed w) (hg : r.generator g) (c : Clock) :
    r.outside.Same w (World.setClock g c w) :=
  same_setClock (not_not_intro hg) (fun hnone => not_not_intro (hw.clock g hg hnone)) c

/-- Within a region, a generator has one clock, be it its own or that on the wall. -/
theorem Closed.clockAt (hw : r.Closed w) (h : r.Same w w') (hg : r.generator g) :
    w.clock g = w'.clock g := by
  have hgenerator := h.generatorAt hg
  cases hclock : (w.generator g).clock with
  | some c =>
      have hclock' : (w'.generator g).clock = some c := by rw [← hgenerator, hclock]
      rw [World.clock, World.clock, hclock, hclock']
      rfl
  | none => rw [World.clock, World.clock, ← hgenerator, h.wallClock (hw.clock g hg hclock)]

theorem confined_readClock (hg : r.generator g) : r.Confined (World.readClock g) :=
  .within Clock.read (fun _ _ hw h => hw.clockAt h hg)
    (fun _ c hw => same_outside_setClock hw hg c) (fun _ c hw => hw.setClock g c)
    fun _ _ c _ h => h.setClock hg c

/-- Changing a state in the region in some other respect than its platform. -/
theorem confined_setState (hs : r.state s) (next : GeneratorState → GeneratorState)
    (hnext : ∀ x, (next x).platform = x.platform) :
    r.Confined (Act.change fun w => w.setState s (next (w.state s))) := by
  refine .change (fun w _ => same_setState (not_not_intro hs) _)
    (fun w hw => hw.setState (hnext _)) fun w w' _ h => ?_
  rw [h.stateAt hs]
  exact h.setState s _

theorem confined_nextCount (hs : r.state s) : r.Confined (World.nextCount s) := by
  refine .state_bind (fun w w' _ h => by rw [h.stateAt hs]) fun w hw => ?_
  refine (confined_onPlatform (hw.origin s hs) _).bind fun current => ?_
  have hkeep := confined_setState hs
    (fun x => { x with counter := ⟨some (counterAfter current)⟩ }) fun _ => rfl
  exact hkeep.bind fun _ => .pure current

theorem confined_fingerprint (hs : r.state s) : r.Confined (World.fingerprint s) := by
  refine .state_bind (fun w w' _ h => by rw [h.stateAt hs]) fun w hw => ?_
  cases (w.state s).fingerprint with
  | some bytes => exact .pure bytes
  | none =>
      refine .state_bind (fun v v' _ h => by rw [h.stateAt hs]) fun v hv => ?_
      refine (Confined.timed _ _ (confined_onPlatform (hv.origin s hs) _)).bind
        fun computed => (Confined.note _ _ _).bind fun _ => ?_
      have hkeep := confined_setState hs (fun x => { x with fingerprint := some computed })
        fun _ => rfl
      exact hkeep.bind fun _ => .pure computed

theorem confined_conclude (made : Except Fault Text) : r.Confined (World.conclude made) := by
  rcases made with fault | identifier
  · cases fault
    case cryptoFailure => exact (Confined.note _ _ _).bind fun _ => .pure _
    all_goals exact .fail _
  · exact .pure _

theorem confined_gather (hg : r.generator g) (n : Length) : r.Confined (World.gather g n) := by
  refine (confined_readClock hg).bind fun timestamp => ?_
  refine .state_bind (fun w w' _ h => by rw [h.generatorAt hg]) fun w hw => ?_
  refine (confined_nextCount (hw.state g hg)).bind fun counter => ?_
  refine (confined_fingerprint (hw.state g hg)).bind fun fingerprint => ?_
  refine (confined_onPlatform (hw.platform g hg) _).bind fun random => ?_
  exact (confined_onPlatform (hw.platform g hg) _).bind fun first => .pure _

theorem confined_generateAccepted (hg : r.generator g) (n : Length) :
    r.Confined (World.generateAccepted g n) := by
  refine (confined_gather hg n).bind fun draft => ?_
  exact .state_bind (fun v v' _ h => by rw [h.primitive]) fun v _ => confined_conclude _

theorem confined_tryGenerate (hg : r.generator g) (length : Value) :
    r.Confined (World.tryGenerate g length) := by
  cases hlength : Length.ofValue length with
  | error rejection =>
      rw [World.tryGenerate_of_error g hlength]
      refine (Confined.ofExcept _).bind fun message => (Confined.ofExcept _).bind fun shown => ?_
      exact (Confined.note _ _ _).bind fun _ => .pure _
  | ok n =>
      rw [World.tryGenerate_of_ok g hlength]
      exact confined_generateAccepted hg n

theorem confined_generate (hg : r.generator g) (length : Value) :
    r.Confined (World.generate g length) :=
  (confined_tryGenerate hg length).bind fun _ => .ofExcept _

end Actions

/-! ## Steps -/

/-- A step of a session, unless it replaces the primitive, is confined to every region that
has its generator in it. -/
theorem confined_perform {step : Step} (hg : r.generator step.subject)
    (hprimitive : ¬step.SetsPrimitive) : r.Confined (World.perform step) := by
  cases step with
  | tryGenerate g length => exact (confined_tryGenerate hg _).map _
  | generate g length => exact (confined_generate hg _).map _
  | nextCounts g times =>
      have hg : r.generator g := hg
      refine .state_bind (fun w w' _ h => by rw [h.generatorAt hg]) fun w hw => ?_
      exact ((confined_nextCount (hw.state g hg)).times times).map _
  | setCounter g value =>
      have hg : r.generator g := hg
      refine Confined.bind (.change ?_ ?_ ?_) fun _ => .pure _
      · exact fun w hw => same_setState (not_not_intro (hw.state g hg)) _
      · exact fun w hw => hw.setState rfl
      · intro w w' hw h
        dsimp only
        rw [← h.generatorAt hg, h.stateAt (hw.state g hg)]
        exact h.setState _ _
  | fingerprint g =>
      have hg : r.generator g := hg
      refine .state_bind (fun w w' _ h => by rw [h.generatorAt hg]) fun w hw => ?_
      exact (confined_fingerprint (hw.state g hg)).map _
  | changePlatform g change =>
      have hg : r.generator g := hg
      refine Confined.bind (.change ?_ ?_ ?_) fun _ => .pure _
      · exact fun w hw => same_setPlatform (not_not_intro (hw.platform g hg)) _
      · exact fun w hw => hw.setPlatform _ _
      · intro w w' hw h
        dsimp only
        rw [← h.generatorAt hg, h.platformAt (hw.platform g hg)]
        exact h.setPlatform _ _
  | setClock g reading =>
      have hg : r.generator g := hg
      refine Confined.bind (.change ?_ ?_ ?_) fun _ => .pure _
      · exact fun w hw => same_outside_setClock hw hg _
      · exact fun w hw => hw.setClock g _
      · intro w w' hw h
        rw [hw.clockAt h hg]
        exact h.setClock hg _
  | setPrimitive => exact absurd trivial hprimitive
  | nextCountsInThreads g threads calls =>
      have hg : r.generator g := hg
      refine .state_bind (fun w w' _ h => by rw [h.generatorAt hg]) fun w hw => ?_
      exact ((confined_nextCount (hw.state g hg)).inThreads calls threads).bind fun counts =>
        .pure _
  | generateInThreads g threads calls length =>
      exact ((confined_generate hg _).inThreads calls threads).bind fun identifiers => .pure _

end Region

end IdMint
