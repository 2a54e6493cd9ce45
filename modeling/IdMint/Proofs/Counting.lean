import IdMint.Session
import IdMint.Proofs.Frames
import IdMint.Proofs.Words
import Mathlib.Data.List.Nodup

/-!
# Counting

What a counter hands out, to whomever asks.  Only the order in which the callers
get their turns matters, so a run is a list of callers, and `World.serve` gives
each of them the next value.

One turn is described by `World.nextCount_apply`.  It is seen from there that a
counter which is about to hand out `wrap64 v` hands out
`wrap64 v, wrap64 (v + 1), …` (`World.serve_apply`), that nothing but the
counter changes, and that the platform is asked for a random integer by the
first turn of a counter that has not been seeded and by no other.
-/

namespace IdMint

namespace Platform

/-- The random integer that a platform will answer with. -/
def upcomingInteger (p : Platform) : Int :=
  match p.integerSource with
  | .given n => n
  | .stream => Bytes.toIntLittle (p.upcoming 8)

/-- A platform once it has been asked for a random integer. -/
def afterInteger (p : Platform) : Platform := (randomInteger p).state

theorem randomInteger_apply (p : Platform) :
    randomInteger p = ⟨.ok p.upcomingInteger, p.afterInteger, []⟩ := by
  unfold afterInteger upcomingInteger randomInteger
  cases p.integerSource <;> rfl

/-- Two platforms say the same of their host: its name, the process that runs on
it, and the environment of that. -/
structure SameHost (p q : Platform) : Prop where
  hostName : p.hostName = q.hostName
  processId : p.processId = q.processId
  environment : p.environment = q.environment

theorem SameHost.refl (p : Platform) : p.SameHost p := ⟨rfl, rfl, rfl⟩

/-- Asking for a random integer leaves what is said of the host as it is. -/
theorem sameHost_afterInteger (p : Platform) : p.afterInteger.SameHost p := by
  unfold afterInteger randomInteger
  cases p.integerSource <;> exact ⟨rfl, rfl, rfl⟩

/-- It is counted where the random integers are given, and else as a request for
random bytes. -/
theorem integers_afterInteger (p : Platform) :
    p.afterInteger.draws.integers =
      p.draws.integers + if p.integerSource ≠ .stream then 1 else 0 := by
  unfold afterInteger randomInteger
  cases p.integerSource <;> simp [randomBytes]

theorem integerSource_afterInteger (p : Platform) :
    p.afterInteger.integerSource = p.integerSource := by
  unfold afterInteger randomInteger
  cases hsource : p.integerSource <;> simp [randomBytes, hsource]

/-- How often a platform has been asked for its host name, and for its
environment. -/
def hostDraws (p : Platform) : Nat × Nat := (p.draws.hostNames, p.draws.environments)

/-- Asking for a random integer is no question about the host. -/
theorem hostDraws_afterInteger (p : Platform) : p.afterInteger.hostDraws = p.hostDraws := by
  unfold afterInteger randomInteger
  cases p.integerSource <;> rfl

/-- A platform whose random integers are given serves no random bytes for them,
and counts the request. -/
theorem afterInteger_of_given {p : Platform} {n : Int} (h : p.integerSource = .given n) :
    p.afterInteger =
      { p with draws := { p.draws with integers := p.draws.integers + 1 } } := by
  unfold afterInteger randomInteger
  rw [h]

end Platform

namespace World

/-- A generator state that exists, over a platform that exists. -/
structure HasState (w : World) (s : Nat) : Prop where
  state_lt : s < w.states.length
  platform_lt : (w.state s).platform < w.platforms.length

/-- The value that the counter of a state will hand out. -/
def upcomingCount (w : World) (s : Nat) : Int :=
  match (w.state s).counter.stored with
  | some n => n
  | none => seedValue (w.platform (w.state s).platform).upcomingInteger

/-- The world once its platform has been asked for a seed, if the counter of a
state needs one. -/
def seeded (w : World) (s : Nat) : World :=
  match (w.state s).counter.stored with
  | some _ => w
  | none =>
    w.setPlatform (w.state s).platform (w.platform (w.state s).platform).afterInteger

/-- What is noted down when the counter of a state is used. -/
def seedEntries (w : World) (s : Nat) : List Entry :=
  match (w.state s).counter.stored with
  | some _ => []
  | none => [⟨.debug, "counter_seeded", []⟩]

/-- Leaves a counter value behind in a state. -/
def leaveCount (w : World) (s : Nat) (v : Int) : World :=
  w.setState s { w.state s with counter := ⟨some v⟩ }

/-- One turn: the value handed out is the upcoming one, and its successor is
stored. -/
theorem nextCount_apply (s : Nat) (w : World) :
    nextCount s w =
      ⟨.ok (w.upcomingCount s),
        (w.seeded s).leaveCount s (counterAfter (w.upcomingCount s)),
        w.seedEntries s⟩ := by
  cases hstored : (w.state s).counter.stored with
  | some n =>
      simp [nextCount, Act.bind_apply, onPlatform, Counter.current, upcomingCount, seeded,
        seedEntries, leaveCount, Except.map, hstored]
  | none =>
      simp [nextCount, Act.bind_apply, onPlatform, Counter.current, Counter.seed,
        upcomingCount, seeded, seedEntries, leaveCount, Except.map, hstored,
        Platform.randomInteger_apply]

@[simp] theorem state_seeded (w : World) (s t : Nat) :
    (w.seeded s).state t = w.state t := by
  unfold seeded
  split <;> rfl

@[simp] theorem states_seeded (w : World) (s : Nat) : (w.seeded s).states = w.states := by
  unfold seeded
  split <;> rfl

/-- Counting leaves the generators as they are. -/
@[simp] theorem generator_counting (w : World) (s g : Nat) (v : Int) :
    ((w.seeded s).leaveCount s v).generator g = w.generator g := by
  unfold leaveCount seeded
  split <;> rfl

@[simp] theorem primitive_counting (w : World) (s : Nat) (v : Int) :
    ((w.seeded s).leaveCount s v).primitive = w.primitive := by
  unfold leaveCount seeded
  split <;> rfl

@[simp] theorem platforms_leaveCount (w : World) (s : Nat) (v : Int) :
    (w.leaveCount s v).platforms = w.platforms := rfl

theorem state_leaveCount {w : World} {s : Nat} (v : Int) (h : s < w.states.length) :
    (w.leaveCount s v).state s = { w.state s with counter := ⟨some v⟩ } :=
  state_setState_self _ h

/-- Counting leaves the rest of every state as it is. -/
theorem rest_leaveCount (w : World) (s t : Nat) (v : Int) :
    ((w.leaveCount s v).state t).platform = (w.state t).platform ∧
      ((w.leaveCount s v).state t).fingerprint = (w.state t).fingerprint := by
  by_cases hst : s = t
  · subst hst
    by_cases hs : s < w.states.length
    · rw [state_leaveCount v hs]
      exact ⟨rfl, rfl⟩
    · rw [leaveCount, setState, List.set_eq_of_length_le (Nat.not_lt.mp hs)]
      exact ⟨rfl, rfl⟩
  · rw [leaveCount, state_setState_ne _ hst]
    exact ⟨rfl, rfl⟩

/-- Seeding leaves each platform as it is, or asks it for a random integer. -/
theorem platform_seeded (w : World) (s i : Nat) :
    (w.seeded s).platform i = w.platform i ∨
      (w.seeded s).platform i = (w.platform i).afterInteger := by
  unfold seeded
  split
  · exact Or.inl rfl
  · rcases w.platform_setPlatform_or (w.state s).platform i
      (w.platform (w.state s).platform).afterInteger with h | ⟨rfl, h⟩
    · exact Or.inl h
    · exact Or.inr h

/-- Seeding leaves what the platforms say of their hosts as it is. -/
theorem sameHost_seeded (w : World) (s i : Nat) :
    ((w.seeded s).platform i).SameHost (w.platform i) := by
  rcases w.platform_seeded s i with h | h
  · rw [h]
    exact .refl _
  · rw [h]
    exact (w.platform i).sameHost_afterInteger

theorem stored_leaveCount {w : World} {s : Nat} (v : Int) (h : s < w.states.length) :
    ((w.leaveCount s v).state s).counter.stored = some v := by
  rw [state_leaveCount v h]

theorem leaveCount_leaveCount {w : World} {s : Nat} (u v : Int)
    (h : s < w.states.length) :
    (w.leaveCount s u).leaveCount s v = w.leaveCount s v := by
  rw [leaveCount, state_leaveCount u h]
  simp [leaveCount, setState]

/-- Leaving behind what is there changes nothing. -/
theorem leaveCount_of_stored {w : World} {s : Nat} {n : Int}
    (h : (w.state s).counter.stored = some n) : w.leaveCount s n = w := by
  have hcounter : (⟨some n⟩ : Counter) = (w.state s).counter := by rw [← h]
  rw [leaveCount, hcounter]
  exact setState_state w s

theorem seeded_of_not_stored {w : World} {s : Nat}
    (h : (w.state s).counter.stored = none) :
    w.seeded s =
      w.setPlatform (w.state s).platform
        (w.platform (w.state s).platform).afterInteger := by
  simp [seeded, h]

theorem upcomingCount_of_not_stored {w : World} {s : Nat}
    (h : (w.state s).counter.stored = none) :
    w.upcomingCount s = seedValue (w.platform (w.state s).platform).upcomingInteger := by
  simp [upcomingCount, h]

theorem upcomingCount_of_stored {w : World} {s : Nat} {n : Int}
    (h : (w.state s).counter.stored = some n) : w.upcomingCount s = n := by
  simp [upcomingCount, h]

theorem seeded_of_stored {w : World} {s : Nat} {n : Int}
    (h : (w.state s).counter.stored = some n) : w.seeded s = w := by
  simp [seeded, h]

theorem seedEntries_of_stored {w : World} {s : Nat} {n : Int}
    (h : (w.state s).counter.stored = some n) : w.seedEntries s = [] := by
  simp [seedEntries, h]

/-- A seed lies in the signed 64-bit range whatever the random integer was. -/
theorem isInt64_upcomingCount {w : World} {s : Nat}
    (hstored : ∀ v, (w.state s).counter.stored = some v → IsInt64 v) :
    IsInt64 (w.upcomingCount s) := by
  unfold upcomingCount
  cases hcase : (w.state s).counter.stored with
  | some v => exact hstored v hcase
  | none => exact isInt64_wrap64 _

end World

/-! ## Turns -/

/-- A turn of a caller: the value that it got, and what the counter held
afterwards. -/
structure Turn (κ : Type) where
  caller : κ
  value : Int
  left : Counter

section Serving

variable {κ : Type}

/-- The next values of a counter, for one caller after another. -/
def World.serve (s : Nat) : List κ → Act World (List (Turn κ))
  | [] => pure []
  | caller :: rest => do
    let value ← World.nextCount s
    let w ← Act.state
    let turns ← serve s rest
    pure (⟨caller, value, (w.state s).counter⟩ :: turns)

/-- Apart from its bookkeeping, a run of turns is a counter asked as often as
there are turns. -/
theorem World.values_serve (s : Nat) (callers : List κ) :
    List.map Turn.value <$> World.serve s callers =
      Act.times callers.length (World.nextCount s) := by
  induction callers with
  | nil => simp [World.serve, Act.times]
  | cons caller rest ih =>
      funext w
      have hrest := fun w => congrFun ih w
      simp only [Act.map_apply] at hrest
      simp only [World.serve, Act.times, List.length_cons, Act.map_apply, Act.bind_apply,
        World.nextCount_apply, Act.andThen_ok, Act.state_apply, ← hrest]
      rcases World.serve s rest _ with ⟨_ | turns, _, _⟩ <;> rfl

/-- The turns of callers who get `wrap64 start` and its successors. -/
def turnsFrom (start : Int) : List κ → List (Turn κ)
  | [] => []
  | caller :: rest =>
    ⟨caller, wrap64 start, ⟨some (wrap64 (start + 1))⟩⟩ :: turnsFrom (start + 1) rest

@[simp] theorem length_turnsFrom (start : Int) (callers : List κ) :
    (turnsFrom start callers).length = callers.length := by
  induction callers generalizing start with
  | nil => rfl
  | cons caller rest ih => simp [turnsFrom, ih]

theorem getElem_turnsFrom (start : Int) (callers : List κ) (i : Nat)
    (hi : i < (turnsFrom start callers).length) :
    (turnsFrom start callers)[i] =
      ⟨callers.get ⟨i, by simpa using hi⟩, wrap64 (start + i),
        ⟨some (wrap64 (start + i + 1))⟩⟩ := by
  induction callers generalizing start i with
  | nil => simp [turnsFrom] at hi
  | cons caller rest ih =>
      cases i with
      | zero => simp [turnsFrom]
      | succ i =>
          have hrest : i < (turnsFrom (start + 1) rest).length := by
            simpa [turnsFrom] using hi
          simp only [turnsFrom, List.getElem_cons_succ, ih (start + 1) i hrest]
          rw [show start + 1 + (i : Int) = start + ((i + 1 : Nat) : Int) by
            push_cast; ring]
          rfl

theorem values_turnsFrom (start : Int) (callers : List κ) :
    (turnsFrom start callers).map Turn.value =
      (List.range callers.length).map fun i : Nat => wrap64 (start + i) := by
  apply List.ext_getElem
  · simp
  · intro i hi _
    simp only [List.getElem_map, List.getElem_range]
    rw [getElem_turnsFrom]

theorem callers_turnsFrom (start : Int) (callers : List κ) :
    (turnsFrom start callers).map Turn.caller = callers := by
  induction callers generalizing start with
  | nil => rfl
  | cons caller rest ih => simp [turnsFrom, ih]

/-- A counter that has been seeded serves from the value that it holds, and asks
nobody. -/
theorem World.serve_of_stored (s : Nat) (w : World) (callers : List κ) (v : Int)
    (hs : s < w.states.length) (hv : (w.state s).counter.stored = some (wrap64 v)) :
    World.serve s callers w =
      ⟨.ok (turnsFrom v callers), w.leaveCount s (wrap64 (v + callers.length)), []⟩ := by
  induction callers generalizing w v with
  | nil => simp [World.serve, turnsFrom, World.leaveCount_of_stored hv]
  | cons caller rest ih =>
      have hturn := World.nextCount_apply s w
      rw [World.upcomingCount_of_stored hv, World.seeded_of_stored hv,
        World.seedEntries_of_stored hv, counterAfter_wrap64] at hturn
      have hrest := ih (w.leaveCount s (wrap64 (v + 1))) (v + 1)
        (by simpa [World.leaveCount, World.setState] using hs)
        (World.stored_leaveCount _ hs)
      rw [World.leaveCount_leaveCount _ _ hs] at hrest
      simp only [World.serve, Act.bind_apply, hturn, Act.andThen_ok, Act.state_apply,
        hrest, Act.pure_apply, World.state_leaveCount _ hs, turnsFrom, List.length_cons]
      rw [show v + 1 + (rest.length : Int) = v + ((rest.length + 1 : Nat) : Int) by
        push_cast; ring]
      rfl

/-- What a run of turns does: it hands out the upcoming value and its
successors, seeds the counter if need be, leaves the next value behind, and
changes nothing else. -/
theorem World.serve_apply (s : Nat) (w : World) (callers : List κ)
    (hs : s < w.states.length)
    (hstored : ∀ v, (w.state s).counter.stored = some v → IsInt64 v)
    (hcallers : callers ≠ []) :
    World.serve s callers w =
      ⟨.ok (turnsFrom (w.upcomingCount s) callers),
        (w.seeded s).leaveCount s (wrap64 (w.upcomingCount s + callers.length)),
        w.seedEntries s⟩ := by
  cases callers with
  | nil => exact absurd rfl hcallers
  | cons caller rest =>
      have hs' : s < (w.seeded s).states.length := by simpa using hs
      have hwrap := wrap64_of_isInt64 (World.isInt64_upcomingCount hstored)
      have hturn := World.nextCount_apply s w
      rw [← hwrap, counterAfter_wrap64] at hturn
      have hrest := World.serve_of_stored s
        ((w.seeded s).leaveCount s (wrap64 (w.upcomingCount s + 1))) rest
        (w.upcomingCount s + 1)
        (by simpa [World.leaveCount, World.setState] using hs)
        (World.stored_leaveCount _ hs')
      rw [World.leaveCount_leaveCount _ _ hs'] at hrest
      simp only [World.serve, Act.bind_apply, hturn, Act.andThen_ok, Act.state_apply,
        hrest, Act.pure_apply, World.state_leaveCount _ hs', turnsFrom, List.length_cons]
      rw [show w.upcomingCount s + 1 + (rest.length : Int) =
        w.upcomingCount s + ((rest.length + 1 : Nat) : Int) by push_cast; ring]
      simp

theorem World.serve_answer (s : Nat) (w : World) (callers : List κ)
    (hs : s < w.states.length)
    (hstored : ∀ v, (w.state s).counter.stored = some v → IsInt64 v) :
    (World.serve s callers w).answer = .ok (turnsFrom (w.upcomingCount s) callers) := by
  by_cases hcallers : callers = []
  · subst hcallers
    rfl
  · rw [World.serve_apply s w callers hs hstored hcallers]

theorem World.serve_state (s : Nat) (w : World) (callers : List κ)
    (hs : s < w.states.length)
    (hstored : ∀ v, (w.state s).counter.stored = some v → IsInt64 v) :
    (World.serve s callers w).state =
      if callers = [] then w
      else (w.seeded s).leaveCount s (wrap64 (w.upcomingCount s + callers.length)) := by
  by_cases hcallers : callers = []
  · subst hcallers
    rfl
  · rw [World.serve_apply s w callers hs hstored hcallers, if_neg hcallers]

/-!
 ## A full turn of the counter

As long as no more than `2 ^ 64` values are handed out, the place of a value in
the run is its offset from the first one, so that the values are told apart and
ordered by their offsets.
-/

theorem isInt64_of_mem_turnsFrom {start : Int} {callers : List κ} {turn : Turn κ}
    (hturn : turn ∈ turnsFrom start callers) :
    IsInt64 turn.value ∧ ∃ v, turn.left.stored = some v ∧ IsInt64 v := by
  obtain ⟨i, hi, rfl⟩ := List.mem_iff_getElem.mp hturn
  rw [getElem_turnsFrom]
  exact ⟨isInt64_wrap64 _, _, rfl, isInt64_wrap64 _⟩

theorem nodup_values_turnsFrom (start : Int) (callers : List κ)
    (hlen : callers.length ≤ 2 ^ 64) :
    ((turnsFrom start callers).map Turn.value).Nodup := by
  rw [values_turnsFrom]
  refine List.Nodup.map_on ?_ List.nodup_range
  intro i hi j hj heq
  rw [List.mem_range] at hi hj
  exact wrap64_add_inj (by omega) (by omega) heq

/-- The values handed out are the cyclic interval that begins with the first of
them. -/
theorem mem_values_turnsFrom (start : Int) (callers : List κ)
    (hlen : callers.length ≤ 2 ^ 64) (v : Int) :
    v ∈ (turnsFrom start callers).map Turn.value ↔
      IsInt64 v ∧ cyclicOffset start v < callers.length := by
  rw [values_turnsFrom, List.mem_map]
  constructor
  · rintro ⟨i, hi, rfl⟩
    rw [List.mem_range] at hi
    refine ⟨isInt64_wrap64 _, ?_⟩
    rw [cyclicOffset_wrap64_add (by omega)]
    exact_mod_cast hi
  · rintro ⟨hv, hoffset⟩
    have hnonneg : 0 ≤ cyclicOffset start v := Int.emod_nonneg _ (by decide)
    refine ⟨(cyclicOffset start v).toNat, ?_, ?_⟩
    · rw [List.mem_range]
      omega
    · rw [Int.toNat_of_nonneg hnonneg, wrap64_add_cyclicOffset start hv]

theorem pairwise_turnsFrom (start : Int) (callers : List κ)
    (hlen : callers.length ≤ 2 ^ 64) :
    (turnsFrom start callers).Pairwise fun earlier later =>
      cyclicOffset start earlier.value < cyclicOffset start later.value := by
  rw [List.pairwise_iff_getElem]
  intro i j hi hj hij
  rw [length_turnsFrom] at hi hj
  rw [getElem_turnsFrom, getElem_turnsFrom, cyclicOffset_wrap64_add (by omega),
    cyclicOffset_wrap64_add (by omega)]
  exact_mod_cast hij

/-- **What the callers of one counter get**, in whatever order they get their
turns.  With `start` for the value that the counter holds, or for the seed that
it draws, turn `i` hands out `wrap64 (start + i)` and leaves its successor
behind, and nothing ever leaves the signed 64-bit range.

Up to `2 ^ 64` turns hand out pairwise different values, which make up the
cyclic interval from `start` on, and every caller gets its values in cyclic
order.  The platform is asked for a random integer exactly once if the counter
had not been seeded and never otherwise, and nothing else changes. -/
theorem serve_sequence [DecidableEq κ] (s : Nat) (w : World) (callers : List κ)
    (hw : w.HasState s) (hstored : ∀ v, (w.state s).counter.stored = some v → IsInt64 v) :
    ∃ turns : List (Turn κ), ∃ start : Int,
      (World.serve s callers w).answer = .ok turns ∧
      (∀ v, (w.state s).counter.stored = some v → start = v) ∧
      ((w.state s).counter.stored = none →
        ∃ random,
          (Platform.randomInteger (w.platform (w.state s).platform)).answer = .ok random ∧
          start = seedValue random) ∧
      turns.map Turn.caller = callers ∧
      (∀ i (hi : i < turns.length),
        turns[i].value = wrap64 (start + i) ∧
          turns[i].left = ⟨some (wrap64 (start + i + 1))⟩) ∧
      (∀ turn ∈ turns, IsInt64 turn.value ∧ ∃ v, turn.left.stored = some v ∧ IsInt64 v) ∧
      (callers.length ≤ 2 ^ 64 →
        (turns.map Turn.value).Nodup ∧
        (∀ v, v ∈ turns.map Turn.value ↔
          IsInt64 v ∧ cyclicOffset start v < callers.length) ∧
        ∀ caller, (turns.filter (·.caller = caller)).Pairwise fun earlier later =>
          cyclicOffset start earlier.value < cyclicOffset start later.value) ∧
      (World.serve s callers w).state =
        (if callers = [] then w
        else (if (w.state s).counter.stored = none then
            w.setPlatform (w.state s).platform
              (Platform.randomInteger (w.platform (w.state s).platform)).state
          else w).leaveCount s (wrap64 (start + callers.length))) ∧
      (∀ random, (w.platform (w.state s).platform).integerSource = .given random →
        ((World.serve s callers w).state.platform (w.state s).platform).draws.integers =
          (w.platform (w.state s).platform).draws.integers +
            if callers ≠ [] ∧ (w.state s).counter.stored = none then 1 else 0) := by
  refine ⟨turnsFrom (w.upcomingCount s) callers, w.upcomingCount s,
    World.serve_answer s w callers hw.state_lt hstored, ?_, ?_, callers_turnsFrom _ _,
    ?_, ?_, ?_, ?_, ?_⟩
  · intro v hv
    exact World.upcomingCount_of_stored hv
  · intro hnone
    exact ⟨_, by rw [Platform.randomInteger_apply],
      World.upcomingCount_of_not_stored hnone⟩
  · intro i hi
    rw [getElem_turnsFrom]
    exact ⟨rfl, rfl⟩
  · intro turn hturn
    exact isInt64_of_mem_turnsFrom hturn
  · intro hlen
    refine ⟨nodup_values_turnsFrom _ _ hlen, mem_values_turnsFrom _ _ hlen, ?_⟩
    intro caller
    exact (pairwise_turnsFrom _ _ hlen).filter _
  · rw [World.serve_state s w callers hw.state_lt hstored]
    by_cases hnone : (w.state s).counter.stored = none
    · rw [if_pos hnone, World.seeded_of_not_stored hnone]
      rfl
    · obtain ⟨v, hv⟩ := Option.ne_none_iff_exists'.mp hnone
      rw [if_neg hnone, World.seeded_of_stored hv]
  · intro random hrandom
    rw [World.serve_state s w callers hw.state_lt hstored]
    by_cases hcallers : callers = []
    · simp [hcallers]
    · rw [if_neg hcallers]
      show ((w.seeded s).platform (w.state s).platform).draws.integers = _
      by_cases hnone : (w.state s).counter.stored = none
      · rw [World.seeded_of_not_stored hnone,
          World.platform_setPlatform_self _ hw.platform_lt,
          Platform.afterInteger_of_given hrandom]
        simp [hcallers, hnone]
      · obtain ⟨v, hv⟩ := Option.ne_none_iff_exists'.mp hnone
        rw [World.seeded_of_stored hv]
        simp [hnone]

end Serving

/-- The world of one generator, whose platform and state nobody else uses. -/
def World.single (p : Platform) (clock : Clock) (primitive : HashPrimitive) : World where
  platforms := [p]
  states := [{ platform := 0 }]
  generators := [{ platform := 0, state := 0, clock := some clock }]
  wallClock := clock
  primitive := primitive
  stopwatch := { reading := fun _ => 0 }

theorem World.hasState_single (p : Platform) (clock : Clock) (primitive : HashPrimitive) :
    (World.single p clock primitive).HasState 0 :=
  ⟨by simp [World.single], by simp [World.single, World.state]⟩

/-- Two callers across the seam.  The random integer has more than sixty-four
bits, and the seed that it makes is the greatest signed 64-bit integer. -/
theorem serve_sequence_seam :
    let w := World.single
      { (default : Platform) with integerSource := .given 57579142706858844961 }
      default fun _ => .ok []
    w.HasState 0 ∧ (w.state 0).counter.stored = none ∧
      ∃ turns : List (Turn Bool),
        (World.serve 0 [true, false, true] w).answer = .ok turns ∧
        turns.map Turn.value =
          [9223372036854775807, -9223372036854775808, -9223372036854775807] ∧
        (turns.map Turn.value).Nodup := by
  intro w
  have hw : w.HasState 0 := World.hasState_single _ _ _
  have hnone : (w.state 0).counter.stored = none := rfl
  obtain ⟨turns, start, hanswer, -, hseed, hcallers, hvalues, -, hturn, -⟩ :=
    serve_sequence 0 w [true, false, true] hw (by simp [hnone])
  obtain ⟨random, hrandom, rfl⟩ := hseed hnone
  obtain rfl : 57579142706858844961 = random := Except.ok.inj hrandom
  refine ⟨hw, hnone, turns, hanswer, ?_, (hturn (by decide)).1⟩
  have hlen : turns.length = 3 := by simpa using congrArg List.length hcallers
  apply List.ext_getElem
  · simpa using hlen
  · intro i hi hi'
    rw [List.getElem_map, (hvalues i (by simpa using hi)).1]
    have hcase : i = 0 ∨ i = 1 ∨ i = 2 := by
      simp only [List.length_cons, List.length_nil] at hi'
      omega
    rcases hcase with rfl | rfl | rfl <;> rfl

end IdMint
