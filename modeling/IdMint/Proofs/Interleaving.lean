import IdMint.Proofs.Queries
import Mathlib.Logic.Relation

/-!
# Requests at the same time

Several requests may be on their way at once.  Here a request is taken apart
into the actions that it consists of, one stage after another, and a `Scene`
holds the requests that are on their way together with the world they share.

Only taking a counter value is one undivided action.  Everything else may be
mixed with the doings of others: between any two actions the world may change in
every way that leaves the counter of the shared state alone (`World.CountKept`),
so that clocks, platforms and fingerprints show whatever they like.

`Request.finish_alone` says that a request which nobody interrupts does what
`World.perform` does.
-/

namespace IdMint

/-- How far a request has come. -/
inductive Stage
  | asked (length : Value)
  | accepted (length : Length)
  | timed (length : Length) (timestamp : Int)
  | counted (length : Length) (timestamp counter : Int)
  | marked (length : Length) (timestamp counter : Int) (fingerprint : Bytes)
  | filled (length : Length) (timestamp counter : Int) (fingerprint random : Bytes)
  | drafted (length : Length) (draft : Draft)
  /-- It is over.  What was hashed, if anything, is kept with the length that
  was asked for. -/
  | ended (hashed : Option (Length × Draft)) (answer : Except Fault Outcome)

namespace Stage

/-- The stage after an action: a fault ends the request. -/
def follow {α : Type} (run : Run World α) (next : α → Stage) : Stage × World :=
  match run.answer with
  | .ok a => (next a, run.state)
  | .error fault => (.ended none (.error fault), run.state)

/-- The next action of a request to generator `g`. -/
def advance (g : Nat) : Stage → World → Stage × World
  | .asked length, w =>
    match Length.ofValue length with
    | .ok n => (.accepted n, w)
    | .error rejection =>
      let run := World.reject length rejection w
      (.ended none run.answer, run.state)
  | .accepted n, w => follow (World.readClock g w) (.timed n)
  | .timed n t, w => follow (World.nextCount (w.generator g).state w) (.counted n t)
  | .counted n t c, w =>
    follow (World.fingerprint (w.generator g).state w) (.marked n t c)
  | .marked n t c f, w =>
    follow (World.onPlatform (w.generator g).platform (Platform.randomBytes n.val) w)
      (.filled n t c f)
  | .filled n t c f r, w =>
    follow (World.onPlatform (w.generator g).platform (Platform.randomBytes 1) w)
      fun first => .drafted n ⟨t, c, f, r, first.toNatBig⟩
  | .drafted n d, w =>
    let run := World.conclude (d.make w.primitive n) w
    (.ended (some (n, d)) run.answer, run.state)
  | .ended hashed answer, w => (.ended hashed answer, w)

/-- Several actions without interruption. -/
def advances (g : Nat) : Nat → Stage → World → Stage × World
  | 0, stage, w => (stage, w)
  | n + 1, stage, w => advances g n (stage.advance g w).1 (stage.advance g w).2

/-- The counter value that an action has taken, if it is the action that takes
one. -/
def taken : Stage → Stage → Option Int
  | .timed _ _, .counted _ _ c => some c
  | _, _ => none

end Stage

/-- How a caller wants to be told of failures that it has been promised. -/
inductive Manner
  | outcome
  | fault
deriving DecidableEq

/-- What a caller gets. -/
def Manner.report : Manner → Except Fault Outcome → Except Fault StepResult
  | .outcome, answer => answer.map .outcome
  | .fault, answer => (answer.bind Outcome.unwrap).map .identifier

/-- The step of a session that consists of one request. -/
def Manner.step (g : Nat) (length : Value) : Manner → Step
  | .outcome => .tryGenerate g (some length)
  | .fault => .generate g (some length)

/-- A request on its way. -/
structure Request where
  generator : Nat
  manner : Manner
  stage : Stage

namespace Request

/-- The bytes that have been handed to the hash primitive, with the length that
was asked for. -/
def hashed? (r : Request) : Option (Length × Bytes) :=
  match r.stage with
  | .ended (some (length, draft)) _ => some (length, draft.input)
  | _ => none

/-- What the caller has got. -/
def result? (r : Request) : Option (Except Fault StepResult) :=
  match r.stage with
  | .ended _ answer => some (r.manner.report answer)
  | _ => none

/-- The identifier that the caller has got. -/
def identifier? (r : Request) : Option Text :=
  match r.result? with
  | some (.ok result) => result.identifier?
  | _ => none

end Request

/-! ## Scenes -/

/-- A counter is left alone, and so is what leads to it: the state exists, the
generators that share it go on sharing it, and the hash primitive stays.
Anything else may be different. -/
structure World.CountKept (s : Nat) (w w' : World) : Prop where
  counter : (w'.state s).counter = (w.state s).counter
  state_lt : s < w.states.length → s < w'.states.length
  shared : ∀ g, (w.generator g).state = s → (w'.generator g).state = s
  primitive : w'.primitive = w.primitive

/-- Requests that are on their way, and the world they share.  The counter
values that have been issued are listed in their order, each with the place of
the request that took it. -/
structure Scene where
  world : World
  requests : List Request := []
  issued : List (Nat × Int) := []

namespace Scene

/-- The request at a place does its next action. -/
def proceed (c : Scene) (i : Nat) : Scene :=
  match c.requests[i]? with
  | none => c
  | some r =>
    let (stage, world) := r.stage.advance r.generator c.world
    { world
      requests := c.requests.set i { r with stage }
      issued := c.issued ++ ((r.stage.taken stage).map (i, ·)).toList }

/-- One step of requests to generators that share state `s`. -/
inductive Step (s : Nat) : Scene → Scene → Prop
  /-- A request is made. -/
  | ask (c : Scene) (g : Nat) (manner : Manner) (length : Value)
      (hshared : (c.world.generator g).state = s) :
      Step s c { c with requests := c.requests ++ [⟨g, manner, .asked length⟩] }
  /-- A request goes on. -/
  | proceed (c : Scene) (i : Nat) : Step s c (c.proceed i)
  /-- Something else happens. -/
  | disturb (c : Scene) (w : World) (hkept : c.world.CountKept s w) :
      Step s c { c with world := w }

/-- The scenes that requests to generators sharing state `s` can lead to from a
world. -/
def Reachable (s : Nat) (w : World) (c : Scene) : Prop :=
  Relation.ReflTransGen (Step s) { world := w } c

/-- Requests go on in any order. -/
theorem Reachable.foldl_proceed {s : Nat} {w : World} {c : Scene} (h : Reachable s w c)
    (places : List Nat) : Reachable s w (places.foldl proceed c) := by
  induction places generalizing c with
  | nil => exact h
  | cons i rest ih => exact ih (h.tail (Step.proceed c i))

/-- The bytes that the request at a place has handed to the hash primitive, with
its length. -/
def hashed? (c : Scene) (i : Nat) : Option (Length × Bytes) :=
  c.requests[i]?.bind Request.hashed?

/-- The identifier that the caller of the request at a place has got. -/
def identifier? (c : Scene) (i : Nat) : Option Text :=
  c.requests[i]?.bind Request.identifier?

end Scene

/-! ## A request alone -/

namespace Stage

variable {α : Type} {g : Nat}

theorem follow_ok (a : α) (w : World) (entries : List Entry) (next : α → Stage) :
    follow ⟨.ok a, w, entries⟩ next = (next a, w) := rfl

theorem follow_error (fault : Fault) (w : World) (entries : List Entry)
    (next : α → Stage) :
    follow ⟨.error fault, w, entries⟩ next = (.ended none (.error fault), w) := rfl

theorem advances_ended (n : Nat) (hashed : Option (Length × Draft))
    (answer : Except Fault Outcome) (w : World) :
    advances g n (.ended hashed answer) w = (.ended hashed answer, w) := by
  induction n with
  | zero => rfl
  | succ n ih => exact ih

/-- From the acceptance of its length on, a request does what
`World.generateAccepted` does, and what it hashes is what `World.gather`
gathers. -/
theorem advances_accepted (n : Length) (w : World) :
    advances g 6 (.accepted n) w =
      (.ended ((World.gather g n w).answer.toOption.map (n, ·))
          (World.generateAccepted g n w).answer,
        (World.generateAccepted g n w).state) := by
  obtain ⟨hplatform, hstate⟩ := World.places_clockRead w g g
  rw [World.generateAccepted_eq, Act.bind_apply]
  rcases hprint : World.fingerprint (w.generator g).state (w.counted g) with
    ⟨fault | f, v, entries⟩
  · rw [World.gather_of_error n hprint]
    simp only [advances, advance, World.readClock_apply, follow_ok, hstate,
      World.nextCount_clockRead, World.generator_counted, hprint, follow_error]
    rfl
  · have hgenerator : v.generator g = (w.clockRead g).generator g := by
      have hkept := World.generator_fingerprint (w.generator g).state g (w.counted g)
      rw [hprint, World.generator_counted] at hkept
      exact hkept
    rw [World.gather_of_ok n hprint]
    simp only [advances, advance, World.readClock_apply, follow_ok, hstate,
      World.nextCount_clockRead, World.generator_counted, hprint, hgenerator, hplatform,
      World.randomBytes_apply, World.generator_served]
    rfl

theorem advances_asked (length : Value) (w : World) :
    advances g 7 (.asked length) w =
      (.ended
          (match Length.ofValue length with
          | .ok n => (World.gather g n w).answer.toOption.map (n, ·)
          | .error _ => none)
          (World.tryGenerate g length w).answer,
        (World.tryGenerate g length w).state) := by
  rw [advances]
  cases hlength : Length.ofValue length with
  | error rejection =>
      simp only [advance, hlength, World.tryGenerate_of_error g hlength]
      exact advances_ended _ _ _ _
  | ok n =>
      simp only [advance, hlength, World.tryGenerate_of_ok g hlength]
      exact advances_accepted n w

end Stage

/-- A request that nobody interrupts gives the result of its step in a session,
and leaves the world that the step leaves. -/
theorem Request.finish_alone (g : Nat) (manner : Manner) (length : Value) (w : World) :
    (⟨g, manner, (Stage.advances g 7 (.asked length) w).1⟩ : Request).result? =
        some (World.perform (manner.step g length) w).answer ∧
      (Stage.advances g 7 (.asked length) w).2 =
        (World.perform (manner.step g length) w).state := by
  rw [Stage.advances_asked]
  cases manner with
  | outcome =>
      simp only [Request.result?, Manner.report, Manner.step, World.perform,
        requestedLength, Option.getD_some, Act.map_apply, and_self]
  | fault =>
      simp only [Request.result?, Manner.report, Manner.step, World.perform,
        requestedLength, Option.getD_some, Act.map_apply, World.generate, Act.bind_apply]
      rcases World.tryGenerate g length w with ⟨fault | outcome, v, entries⟩
      · exact ⟨rfl, rfl⟩
      · exact ⟨rfl, rfl⟩

end IdMint
