import IdMint.Proofs.Regions

/-!
# Independent generators

Generators have something in common if they ask the same platform, count with the same
state, or go by the same clock: a clock shows one reading after another, and each look
takes the next one.  Most generators have a clock to themselves.  A generator asks two
platforms: its own for random bytes, and that of its state for a seed and for a
fingerprint.

Two groups that have nothing in common do not notice each other.  What the generators
of a group can reach is a closed region (`World.closed_reach`), and the regions of
independent groups are apart; so the steps of one group leave the other one's region as
it was, and those of the other do there what they would have done anyway.  Nothing is
said of the generators within a group: they may share what they like.
-/

namespace IdMint

/-- What is seen after two steps is the same, save for how long things took. -/
structure Observation.SameButTimes (seen seen' : Observation) : Prop where
  result : seen.result = seen'.result
  events : seen.entries.map Entry.event = seen'.entries.map Entry.event
  draws : seen.draws = seen'.draws
  clockCalls : seen.clockCalls = seen'.clockCalls
  counter : seen.counter = seen'.counter
  counterSeeded : seen.counterSeeded = seen'.counterSeeded
  fingerprintSet : seen.fingerprintSet = seen'.fingerprintSet

namespace World

/-- The generator asks the platform at a place: it is its own, or that of its state. -/
def Asks (w : World) (g i : Nat) : Prop :=
  i = (w.generator g).platform ∨ i = (w.state (w.generator g).state).platform

/-- Two groups of generators have nothing in common. -/
structure Independent (A B : Nat → Prop) (w : World) : Prop where
  state : ∀ a b, A a → B b → (w.generator a).state ≠ (w.generator b).state
  platform : ∀ a b i, A a → B b → w.Asks a i → ¬w.Asks b i
  /-- At most one of the groups goes by the clock on the wall.  Each look at it takes the
  next reading, so two groups that went by it could tell from what it shows how often the
  other one has looked.  A generator that is given the readings it gets as a clock of its
  own shares none. -/
  clock : ∀ a b, A a → B b → (w.generator a).clock.isSome ∨ (w.generator b).clock.isSome

/-- What the generators of a group can get at. -/
def reach (A : Nat → Prop) (w : World) : Region where
  platform i := ∃ a, A a ∧ w.Asks a i
  state s := ∃ a, A a ∧ s = (w.generator a).state
  generator := A
  wall := ∃ a, A a ∧ (w.generator a).clock = none

variable {A B : Nat → Prop} {w : World}

theorem closed_reach (A : Nat → Prop) (w : World) : (w.reach A).Closed w where
  state a ha := ⟨a, ha, rfl⟩
  platform a ha := ⟨a, ha, Or.inl rfl⟩
  clock a ha hnone := ⟨a, ha, hnone⟩
  origin s := by
    rintro ⟨a, ha, rfl⟩
    exact ⟨a, ha, Or.inr rfl⟩

namespace Independent

protected theorem symm (h : Independent A B w) : Independent B A w where
  state b a hb ha := (h.state a b ha hb).symm
  platform b a i hb ha hi hi' := h.platform a b i ha hb hi' hi
  clock b a hb ha := (h.clock a b ha hb).symm

/-- What is the same outside the reach of one group is the same within that of the
other. -/
theorem same_reach (h : Independent A B w) {v v' : World} (hsame : (w.reach B).outside.Same v v') :
    (w.reach A).Same v v' where
  platform i := by
    rintro ⟨a, ha, hi⟩
    exact hsame.platform i fun ⟨b, hb, hi'⟩ => h.platform a b i ha hb hi hi'
  state s := by
    rintro ⟨a, ha, rfl⟩
    exact hsame.state _ fun ⟨b, hb, hs⟩ => h.state a b ha hb hs
  generator a ha := hsame.generator a fun hb => h.state a a ha hb rfl
  wallClock := by
    rintro ⟨a, ha, hnone⟩
    refine hsame.wallClock fun ⟨b, hb, hnone'⟩ => ?_
    have hown := h.clock a b ha hb
    rw [hnone, hnone'] at hown
    simp at hown
  primitive := hsame.primitive

end Independent

end World

namespace Region

variable {r : Region} {w w' : World}

/-- After a step, the same is seen in two worlds that are the same within a closed region
that has its generator in it. -/
theorem observe_agrees {step : Step} (hg : r.generator step.subject)
    (hprimitive : ¬step.SetsPrimitive) (hw : r.Closed w) (h : r.Same w w') :
    Observation.SameButTimes (w.observe step).1 (w'.observe step).1 := by
  have hstep := confined_perform hg hprimitive
  have hrun := hstep.agrees w w' hw h
  have hafter := hstep.closed w hw
  have hgenerator := hrun.state.generatorAt hg
  have hstate := hrun.state.stateAt (hafter.state _ hg)
  have hplatform := hrun.state.platformAt (hafter.platform _ hg)
  have hclock := hafter.clockAt hrun.state hg
  constructor
  case result => exact hrun.answer
  case events => exact hrun.events
  all_goals
    simp only [World.observe, ← hgenerator, hstate, hplatform, hclock]

/-- Two regions are apart: what is left alone by one is the same within the other. -/
structure Apart (r r' : Region) : Prop where
  left : ∀ {v v' : World}, r'.outside.Same v v' → r.Same v v'
  right : ∀ {v v' : World}, r.outside.Same v v' → r'.Same v v'

/-- Of two closed regions that are apart, the steps in one can be left out of a session. -/
theorem session_of_apart {r' : Region} (hapart : r.Apart r') (keep : Step → Bool)
    {steps : List Step} (hkeep : ∀ step ∈ steps, keep step = true → r.generator step.subject)
    (hdrop : ∀ step ∈ steps, keep step = false → r'.generator step.subject)
    (hprimitive : ∀ step ∈ steps, ¬step.SetsPrimitive) (hw : r.Closed w) (hw' : r'.Closed w)
    (hsame : r.Same w w') :
    List.Forall₂ Observation.SameButTimes
      (((steps.zip (w.session steps).1).filter fun seen => keep seen.1).map Prod.snd)
      (w'.session (steps.filter keep)).1 := by
  -- the two sessions are in step with each other up to what lies outside of the region
  induction steps generalizing w w' with
  | nil => exact .nil
  | cons step rest ih =>
      have hrest : ∀ {v v' : World}, r.Closed v → r'.Closed v → r.Same v v' → _ :=
        fun hv hv' hvs => ih (fun later hlater => hkeep later (List.mem_cons_of_mem _ hlater))
          (fun later hlater => hdrop later (List.mem_cons_of_mem _ hlater))
          (fun later hlater => hprimitive later (List.mem_cons_of_mem _ hlater)) hv hv' hvs
      have hfixed := hprimitive step List.mem_cons_self
      cases hkept : keep step with
      | true =>
          have hg := hkeep step List.mem_cons_self hkept
          have hstep := confined_perform hg hfixed
          have hother := hapart.right (hstep.frame w hw)
          simp only [World.session, List.zip_cons_cons, List.filter_cons, hkept, if_true,
            List.map_cons]
          exact .cons (observe_agrees hg hfixed hw hsame)
            (hrest (hstep.closed w hw) (hw'.of_same hother) (hstep.agrees w w' hw hsame).state)
      | false =>
          have hg := hdrop step List.mem_cons_self hkept
          have hstep := confined_perform hg hfixed
          have hown := hapart.left (hstep.frame w hw')
          simp only [World.session, List.zip_cons_cons, List.filter_cons, hkept,
            Bool.false_eq_true, if_false]
          exact hrest (hw.of_same hown) (hstep.closed w hw') (hown.symm.trans hsame)

end Region

namespace World

variable {A B : Nat → Prop} {w : World}

/-- **Independent generators do not interfere.**  If the generators of a session fall into
two groups that have nothing in common, then the steps of one group come to the same,
however those of the other are woven in, and also if there are none: the results, and
the counters, draws, clocks and what has been set up, are as if the other steps had
been deleted. -/
theorem session_of_group [DecidablePred A] (h : w.Independent A B) {steps : List Step}
    (hgroups : ∀ step ∈ steps, A step.subject ∨ B step.subject)
    (hprimitive : ∀ step ∈ steps, ¬step.SetsPrimitive) :
    List.Forall₂ Observation.SameButTimes
      (((steps.zip (w.session steps).1).filter fun seen => A seen.1.subject).map Prod.snd)
      (w.session (steps.filter fun step => A step.subject)).1 := by
  have hapart : (w.reach A).Apart (w.reach B) := ⟨h.same_reach, h.symm.same_reach⟩
  refine Region.session_of_apart hapart (fun step => A step.subject) ?_ ?_ hprimitive
    (closed_reach A w) (closed_reach B w) (.refl _ w)
  · intro step _ hkept
    have hA : A step.subject := of_decide_eq_true hkept
    exact hA
  · intro step hstep hdropped
    exact (hgroups step hstep).resolve_left (of_decide_eq_false hdropped)

/-- Two generators that share a state over the platform of one of them, and a third one
that has nothing to do with either. -/
def estranged : World where
  platforms := [{ (default : Platform) with hostName := .ok "a" }, default,
    { (default : Platform) with integerSource := .stream }]
  states := [{ platform := 1 }, { platform := 2 }]
  generators := [⟨0, 0, some default⟩, ⟨1, 0, some default⟩, ⟨2, 1, none⟩]
  wallClock := default
  primitive := fun _ => .ok (List.replicate 64 255)
  stopwatch := { reading := fun _ => 0.0 }

/-- The third generator has its counter moved between the requests to the other two. -/
theorem session_of_group_estranged :
    let steps : List Step := [.tryGenerate 0 none, .setCounter 2 5, .nextCounts 1 2,
      .tryGenerate 2 none, .generate 1 none]
    estranged.Independent (· < 2) (· = 2) ∧
      List.Forall₂ Observation.SameButTimes
        (((steps.zip (estranged.session steps).1).filter fun seen =>
          seen.1.subject < 2).map Prod.snd)
        (estranged.session [.tryGenerate 0 none, .nextCounts 1 2, .generate 1 none]).1 := by
  intro steps
  have hindependent : estranged.Independent (· < 2) (· = 2) := by
    constructor
    · rintro a b ha rfl
      interval_cases a <;> decide
    · rintro a b i ha rfl
      interval_cases a <;> simp [Asks, estranged, generator, state] <;> omega
    · rintro a b ha rfl
      interval_cases a <;> decide
  have hgroups : ∀ step ∈ steps, step.subject < 2 ∨ step.subject = 2 := by
    simp [steps, Step.subject]
  have hprimitive : ∀ step ∈ steps, ¬step.SetsPrimitive := by
    simp [steps, Step.SetsPrimitive]
  exact ⟨hindependent, session_of_group hindependent hgroups hprimitive⟩

end World

end IdMint
