import IdMint.Proofs.Promises
import IdMint.Proofs.Runs

/-!
# Setting up a generator state

A generator state is set up in two parts, each when it is first needed: its
counter is seeded, and its fingerprint is computed.  The first part never fails,
the second may, and one request may do the first and fail at the second.

`World.Progress` says what an operation on a state comes to, whatever its answer
is.  The counter is an account: whether it is seeded afterwards is whether it was
before, plus the number of seedings that have been noted down, and the platform of
the state has been asked for as many random integers.  A fingerprint that is there
stays, and no platform is asked about its host then.
-/

namespace IdMint

/-- How often it has been noted down that a counter was seeded.  That is done
whenever a random integer has been asked for, and at no other time. -/
def seedings (entries : List Entry) : Nat :=
  entries.countP fun entry => decide (entry.event = ("counter_seeded" : Text))

theorem seedings_append (entries more : List Entry) :
    seedings (entries ++ more) = seedings entries + seedings more :=
  List.countP_append

theorem seedings_note {severity : Severity} {event : Text} (fields : List (Text × Value))
    (h : event ≠ ("counter_seeded" : Text)) : seedings [⟨severity, event, fields⟩] = 0 := by
  simp [seedings, h]

/-! ## Who seeds nothing -/

/-- No seeding of a counter is noted down by an action. -/
def Act.SeedsNothing {σ α : Type} (act : Act σ α) : Prop :=
  act.Obeys (fun _ => True) fun _ _ entries => seedings entries = 0

namespace Act.SeedsNothing

variable {σ α β : Type}

theorem cumulative : Cumulative (fun _ : σ => True) fun _ _ entries => seedings entries = 0 where
  refl _ _ := rfl
  trans h h' := by rw [seedings_append, h, h']
  stays _ _ := trivial

theorem bind {act : Act σ α} {next : α → Act σ β} (hact : act.SeedsNothing)
    (hnext : ∀ a, (next a).SeedsNothing) : (act >>= next).SeedsNothing :=
  Obeys.bind cumulative hact hnext

theorem pure (a : α) : (Pure.pure a : Act σ α).SeedsNothing := Obeys.pure cumulative a

theorem fail (fault : Fault) : (Act.fail fault : Act σ α).SeedsNothing :=
  Obeys.fail cumulative fault

theorem note {severity : Severity} {event : Text} (fields : List (Text × Value))
    (h : event ≠ ("counter_seeded" : Text)) :
    (Act.note severity event fields : Act σ Unit).SeedsNothing :=
  fun _ _ => seedings_note fields h

end Act.SeedsNothing

namespace Fingerprint

theorem seedsNothing_resolveHostName : resolveHostName.SeedsNothing := by
  have hsubstitute : ∀ reason, (substituteHostName reason).SeedsNothing := by
    intro reason
    have hbytes : (Platform.randomBytes substituteBytes).SeedsNothing := fun _ _ => rfl
    refine (Act.SeedsNothing.note _ (by decide)).bind fun _ => ?_
    exact hbytes.bind fun bytes => .pure _
  have hname : Platform.lookUpHostName.attempt.SeedsNothing := fun _ _ => rfl
  refine hname.bind fun answer => ?_
  cases answer with
  | error fault =>
      dsimp only
      split
      · exact hsubstitute _
      · exact .fail fault
  | ok name =>
      dsimp only
      split
      · exact hsubstitute _
      · exact .pure name

theorem seedsNothing_compute : compute.SeedsNothing := by
  have henvironment : Platform.readEnvironment.SeedsNothing := fun _ _ => rfl
  refine seedsNothing_resolveHostName.bind fun name => ?_
  refine Act.SeedsNothing.bind (fun _ _ => rfl) fun host => ?_
  refine Act.SeedsNothing.bind (fun _ _ => rfl) fun platform => ?_
  refine henvironment.bind fun environment => ?_
  exact Act.SeedsNothing.bind (fun _ _ => rfl) fun settings => .pure _

end Fingerprint

theorem World.seedsNothing_fingerprint (s : Nat) : (fingerprint s).SeedsNothing := by
  have hread : readStopwatch.SeedsNothing := fun _ _ => rfl
  have hcompute : ∀ i, (onPlatform i Fingerprint.compute).SeedsNothing :=
    fun i w _ => Fingerprint.seedsNothing_compute (w.platform i) trivial
  refine Act.SeedsNothing.bind (fun _ _ => rfl) fun w => ?_
  cases (w.state s).fingerprint with
  | some f => exact .pure f
  | none =>
      refine Act.SeedsNothing.bind (fun _ _ => rfl) fun v => ?_
      refine Act.SeedsNothing.bind ?_ fun computed => ?_
      · refine hread.bind fun start => ?_
        refine Act.SeedsNothing.bind (hcompute _) fun answer => hread.bind fun stop => ?_
        cases answer with
        | error fault => exact (Act.SeedsNothing.note _ (by decide)).bind fun _ => .fail fault
        | ok f => exact (Act.SeedsNothing.note _ (by decide)).bind fun _ => .pure f
      · refine (Act.SeedsNothing.note _ (by decide)).bind fun _ => ?_
        exact Act.SeedsNothing.bind (fun _ _ => rfl) fun _ => .pure computed

/-! ## Progress -/

/-- Two platforms have the same source of random integers, and have been asked for
as many. -/
structure Platform.SameIntegers (p q : Platform) : Prop where
  source : p.integerSource = q.integerSource
  integers : p.draws.integers = q.draws.integers

theorem Platform.SameIntegers.refl (p : Platform) : p.SameIntegers p := ⟨rfl, rfl⟩

namespace World

/-- One if the counter of a state has been seeded, and else zero. -/
def seeds (w : World) (s : Nat) : Nat := if (w.state s).counter.isSeeded then 1 else 0

/-- What comes to pass between two worlds by an operation on the state at a place,
in the course of which some entries are noted down. -/
structure Progress (s : Nat) (w w' : World) (entries : List Entry) : Prop where
  places : ∀ g, (w'.generator g).platform = (w.generator g).platform ∧
    (w'.generator g).state = (w.generator g).state
  states_length : w'.states.length = w.states.length
  platforms_length : w'.platforms.length = w.platforms.length
  others : ∀ t, t ≠ s → w'.state t = w.state t
  platform : (w'.state s).platform = (w.state s).platform
  integerSource : ∀ i, (w'.platform i).integerSource = (w.platform i).integerSource
  seeds : w.HasState s → w'.seeds s = w.seeds s + seedings entries
  integers : w.HasState s → ∀ i,
    (w'.platform i).draws.integers = (w.platform i).draws.integers +
      if i = (w.state s).platform ∧ (w.platform i).integerSource ≠ .stream then seedings entries
      else 0
  fingerprint : ∀ f, (w.state s).fingerprint = some f → (w'.state s).fingerprint = some f
  quiet : ∀ f, (w.state s).fingerprint = some f → ∀ i,
    (w'.platform i).hostDraws = (w.platform i).hostDraws

namespace Progress

variable {s : Nat} {w w' w'' : World} {entries more : List Entry}

theorem hasState (h : Progress s w w' entries) (hw : w.HasState s) : w'.HasState s := by
  refine ⟨?_, ?_⟩
  · rw [h.states_length]
    exact hw.state_lt
  · rw [h.platform, h.platforms_length]
    exact hw.platform_lt

theorem trans (h : Progress s w w' entries) (h' : Progress s w' w'' more) :
    Progress s w w'' (entries ++ more) := by
  refine
    { places := fun g => ⟨(h'.places g).1.trans (h.places g).1, (h'.places g).2.trans (h.places g).2⟩
      states_length := h'.states_length.trans h.states_length
      platforms_length := h'.platforms_length.trans h.platforms_length
      others := fun t ht => (h'.others t ht).trans (h.others t ht)
      platform := h'.platform.trans h.platform
      integerSource := fun i => (h'.integerSource i).trans (h.integerSource i)
      seeds := ?_
      integers := ?_
      fingerprint := fun f hf => h'.fingerprint f (h.fingerprint f hf)
      quiet := fun f hf i => (h'.quiet f (h.fingerprint f hf) i).trans (h.quiet f hf i) }
  · intro hw
    rw [h'.seeds (h.hasState hw), h.seeds hw, seedings_append, Nat.add_assoc]
  · intro hw i
    rw [h'.integers (h.hasState hw), h.integers hw, h.platform, h.integerSource, seedings_append]
    split
    · rw [Nat.add_assoc]
    · rfl

/-- Where all states stay as they are, no seeding is noted down and no platform is
asked for a random integer. -/
theorem of_states_eq (hstates : w'.states = w.states)
    (hplaces : ∀ g, (w'.generator g).platform = (w.generator g).platform ∧
      (w'.generator g).state = (w.generator g).state)
    (hlength : w'.platforms.length = w.platforms.length)
    (hintegers : ∀ i, (w'.platform i).SameIntegers (w.platform i))
    (hquiet : ∀ f, (w.state s).fingerprint = some f → ∀ i,
      (w'.platform i).hostDraws = (w.platform i).hostDraws)
    (hentries : seedings entries = 0) : Progress s w w' entries := by
  have hstate : ∀ t, w'.state t = w.state t := by
    intro t
    rw [World.state, World.state, hstates]
  refine
    { places := hplaces
      states_length := congrArg List.length hstates
      platforms_length := hlength
      others := fun t _ => hstate t
      platform := by rw [hstate]
      integerSource := fun i => (hintegers i).source
      seeds := ?_
      integers := ?_
      fingerprint := fun f hf => by rw [hstate]; exact hf
      quiet := hquiet }
  · intro _
    rw [World.seeds, World.seeds, hstate, hentries, Nat.add_zero]
  · intro _ i
    rw [(hintegers i).integers, hentries, ite_self, Nat.add_zero]

theorem refl (w : World) : Progress s w w [] :=
  of_states_eq rfl (fun _ => ⟨rfl, rfl⟩) rfl (fun i => .refl (w.platform i)) (fun _ _ _ => rfl) rfl

end Progress

/-- What the operations on a state come to, one after the other. -/
theorem cumulative_progress (s g : Nat) :
    Act.Cumulative (fun w => (w.generator g).state = s) (Progress s) where
  refl w _ := .refl w
  trans h h' := h.trans h'
  stays hg h := (h.places _).2.trans hg

/-! ## Single operations -/

theorem progress_readClock (s g : Nat) (w : World) :
    Progress s w (readClock g w).state (readClock g w).entries := by
  rw [readClock_apply]
  have hplatform : ∀ i, (w.clockRead g).platform i = w.platform i := w.platform_clockRead g
  refine .of_states_eq (states_setClock w g _) (places_clockRead w g) ?_ (fun i => ?_)
    (fun _ _ i => ?_) rfl
  · rw [clockRead, platforms_setClock]
  · rw [hplatform]
    exact .refl _
  · rw [hplatform]

theorem progress_randomBytes (s i n : Nat) (w : World) :
    Progress s w (onPlatform i (Platform.randomBytes n) w).state
      (onPlatform i (Platform.randomBytes n) w).entries := by
  have hbytes : (Platform.randomBytes n).Keeps fun p => (p.integerSource, p.draws.integers) :=
    fun _ => rfl
  have hdraws : (Platform.randomBytes n).Keeps Platform.hostDraws := fun _ => rfl
  have hsource := keeps_platform (fun p => (p.integerSource, p.draws.integers)) hbytes i
  have hhost := keeps_platform Platform.hostDraws hdraws i
  refine .of_states_eq rfl (fun _ => ⟨rfl, rfl⟩) (by simp [randomBytes_apply, served, setPlatform])
    (fun j => ?_) (fun _ _ j => hhost j w) rfl
  obtain ⟨hj, hj'⟩ := Prod.mk.inj (hsource j w)
  exact ⟨hj, hj'⟩

/-- The counter of a state is seeded once it has handed out a value. -/
theorem seeds_leaveCount {w : World} {s : Nat} (v : Int) (h : s < w.states.length) :
    (w.leaveCount s v).seeds s = 1 := by
  rw [seeds, Counter.isSeeded, stored_leaveCount v h]
  rfl

theorem progress_nextCount (s : Nat) (w : World) :
    Progress s w (nextCount s w).state (nextCount s w).entries := by
  rw [nextCount_apply]
  have hrest := fun t => rest_leaveCount (w.seeded s) s t (counterAfter (w.upcomingCount s))
  refine
    { places := fun g => ?_
      states_length := ?_
      platforms_length := ?_
      others := fun t ht => ?_
      platform := ?_
      integerSource := fun i => ?_
      seeds := fun hw => ?_
      integers := fun hw i => ?_
      fingerprint := fun f hf => ?_
      quiet := fun f hf i => ?_ }
  · simp
  · simp [leaveCount, setState]
  · unfold leaveCount seeded
    split <;> simp [setState, setPlatform]
  · dsimp only
    rw [leaveCount, state_setState_ne _ ht.symm, state_seeded]
  · rw [(hrest s).1, state_seeded]
  · dsimp only
    rw [leaveCount, platform_setState]
    rcases w.platform_seeded s i with h | h
    · rw [h]
    · rw [h, Platform.integerSource_afterInteger]
  · dsimp only
    rw [seeds_leaveCount _ (by simpa using hw.state_lt), seeds, Counter.isSeeded, seedEntries]
    cases (w.state s).counter.stored <;> rfl
  · dsimp only
    rw [leaveCount, platform_setState, seedEntries]
    cases hstored : (w.state s).counter.stored with
    | some n => simp [seeded_of_stored hstored, seedings]
    | none =>
        rw [seeded_of_not_stored hstored]
        by_cases hi : (w.state s).platform = i
        · subst hi
          rw [platform_setPlatform_self _ hw.platform_lt, Platform.integers_afterInteger]
          simp [seedings]
        · rw [platform_setPlatform_ne _ hi, if_neg fun h => hi h.1.symm, Nat.add_zero]
  · rw [(hrest s).2, state_seeded]
    exact hf
  · dsimp only
    rw [leaveCount, platform_setState]
    rcases w.platform_seeded s i with h | h
    · rw [h]
    · rw [h, Platform.hostDraws_afterInteger]

/-- Computing a fingerprint leaves the counters alone, also where it fails. -/
theorem progress_asked {s i : Nat} {w : World} {entries : List Entry}
    (hprint : (w.state s).fingerprint = none) (hentries : seedings entries = 0) :
    Progress s w (w.asked i) entries := by
  refine .of_states_eq rfl (fun _ => ⟨rfl, rfl⟩) (by simp [asked, setPlatform, watched])
    (fun j => ?_) (fun f hf => ?_) hentries
  · have hkeeps : Fingerprint.compute.Keeps fun p => (p.integerSource, p.draws.integers) :=
      Fingerprint.keeps_compute (fun _ => rfl) (fun _ _ => rfl) fun _ => rfl
    obtain ⟨hj, hj'⟩ := Prod.mk.inj (keeps_platform _ hkeeps i j w.watched)
    exact ⟨hj, hj'⟩
  · rw [hprint] at hf
    cases hf

/-- Keeping a fingerprint for the first time. -/
theorem progress_setFingerprint {s : Nat} {w : World} (f : Bytes)
    (hprint : (w.state s).fingerprint = none) :
    Progress s w (w.setState s { w.state s with fingerprint := some f }) [] := by
  have hrest :
      ((w.setState s { w.state s with fingerprint := some f }).state s).platform =
        (w.state s).platform ∧
      ((w.setState s { w.state s with fingerprint := some f }).state s).counter =
        (w.state s).counter := by
    by_cases hs : s < w.states.length
    · rw [state_setState_self _ hs]
      exact ⟨rfl, rfl⟩
    · rw [setState, List.set_eq_of_length_le (Nat.not_lt.mp hs)]
      exact ⟨rfl, rfl⟩
  refine
    { places := fun _ => ⟨rfl, rfl⟩
      states_length := by simp [setState]
      platforms_length := rfl
      others := fun t ht => state_setState_ne _ ht.symm
      platform := hrest.1
      integerSource := fun _ => rfl
      seeds := fun _ => ?_
      integers := fun _ i => ?_
      fingerprint := fun f' hf => ?_
      quiet := fun _ _ _ => rfl }
  · rw [seeds, seeds, hrest.2]
    rfl
  · rw [seedings, List.countP_nil, ite_self]
    rfl
  · rw [hprint] at hf
    cases hf

/-- Getting at a fingerprint leaves everything but the platforms and the
fingerprint as it is. -/
theorem progress_fingerprint (s : Nat) (w : World) :
    Progress s w (fingerprint s w).state (fingerprint s w).entries := by
  cases hprint : (w.state s).fingerprint with
  | some f =>
      rw [fingerprint_of_some hprint]
      exact .refl w
  | none =>
      have hsilent := seedsNothing_fingerprint s w trivial
      cases hanswer : (Fingerprint.compute (w.platform (w.state s).platform)).answer with
      | error fault =>
          obtain ⟨journal, hrun⟩ := fingerprint_of_fault hprint hanswer
          rw [hrun] at hsilent ⊢
          exact progress_asked hprint hsilent
      | ok f =>
          obtain ⟨journal, hrun⟩ := fingerprint_of_answer hprint hanswer
          rw [hrun] at hsilent ⊢
          have hset := progress_setFingerprint (w := w.asked (w.state s).platform) f hprint
          rw [← List.append_nil journal]
          exact (progress_asked hprint hsilent).trans hset

/-- What leaves the world alone and seeds nothing is no progress. -/
theorem progress_of_keeps {α : Type} {act : Act World α} (s : Nat) (w : World)
    (hstate : (act w).state = w) (hact : act.SeedsNothing) :
    Progress s w (act w).state (act w).entries := by
  rw [hstate]
  exact .of_states_eq rfl (fun _ => ⟨rfl, rfl⟩) rfl (fun i => .refl _) (fun _ _ _ => rfl)
    (hact w trivial)

theorem seedsNothing_reject (length : Value) (rejection : Length.Rejection) :
    (reject length rejection).SeedsNothing := by
  refine Act.SeedsNothing.bind (fun _ _ => rfl) fun message => ?_
  refine Act.SeedsNothing.bind (fun _ _ => rfl) fun shown => ?_
  exact (Act.SeedsNothing.note _ (by decide)).bind fun _ => .pure _

theorem progress_reject (s : Nat) (length : Value) (rejection : Length.Rejection) (w : World) :
    Progress s w (reject length rejection w).state (reject length rejection w).entries :=
  progress_of_keeps s w (state_reject length rejection w) (seedsNothing_reject length rejection)

theorem progress_conclude (s : Nat) (made : Except Fault Text) (w : World) :
    Progress s w (conclude made w).state (conclude made w).entries := by
  refine progress_of_keeps s w (state_conclude made w) ?_
  rcases made with fault | identifier
  · cases fault with
    | cryptoFailure message => exact (Act.SeedsNothing.note _ (by decide)).bind fun _ => .pure _
    | _ => exact .fail _
  · exact .pure _

/-! ## Requests and other operations -/

section Operations

variable (s g : Nat)

/-- A request for an acceptable length makes progress on the state of its
generator. -/
theorem obeys_gather (length : Length) :
    (gather g length).Obeys (fun w => (w.generator g).state = s) (Progress s) := by
  have hR := cumulative_progress s g
  refine Act.Obeys.bind hR (fun w _ => progress_readClock s g w) fun timestamp => ?_
  refine Act.Obeys.state_bind fun w hw => ?_
  dsimp only
  rw [hw]
  refine Act.Obeys.bind hR (fun w _ => progress_nextCount s w) fun counter => ?_
  refine Act.Obeys.bind hR (fun w _ => progress_fingerprint s w) fun f => ?_
  refine Act.Obeys.bind hR (fun w _ => progress_randomBytes s _ _ w) fun random => ?_
  refine Act.Obeys.bind hR (fun w _ => progress_randomBytes s _ _ w) fun first => ?_
  exact .pure hR _

theorem obeys_generateAccepted (length : Length) :
    (generateAccepted g length).Obeys (fun w => (w.generator g).state = s) (Progress s) := by
  refine Act.Obeys.bind (cumulative_progress s g) (obeys_gather s g length) fun draft => ?_
  exact Act.Obeys.state_bind fun v _ w _ => progress_conclude s _ w

theorem obeys_tryGenerate (length : Value) :
    (tryGenerate g length).Obeys (fun w => (w.generator g).state = s) (Progress s) := by
  cases hlength : Length.ofValue length with
  | error rejection =>
      rw [tryGenerate_of_error g hlength]
      exact fun w _ => progress_reject s length rejection w
  | ok n =>
      rw [tryGenerate_of_ok g hlength]
      exact obeys_generateAccepted s g n

theorem obeys_generate (length : Value) :
    (generate g length).Obeys (fun w => (w.generator g).state = s) (Progress s) :=
  (obeys_tryGenerate s g length).bind (cumulative_progress s g) fun _ =>
    .ofExcept (cumulative_progress s g) _

/-- The generator at a place works on the state at a place, which exists. -/
structure Serves (w : World) : Prop where
  hasState : w.HasState s
  state_eq : (w.generator g).state = s

/-- The counter of the state that a generator works on has been seeded. -/
structure ServesSeeded (w : World) : Prop extends Serves s g w where
  seeds_eq : w.seeds s = 1

variable {s g} {α : Type} {act : Act World α}

theorem leaves_serves (hact : act.Obeys (fun w => (w.generator g).state = s) (Progress s)) :
    act.Leaves (Serves s g) (Serves s g) := by
  intro w hw
  have h := hact w hw.state_eq
  exact ⟨h.hasState hw.hasState, (h.places g).2.trans hw.state_eq⟩

theorem leaves_seeded (hact : act.Obeys (fun w => (w.generator g).state = s) (Progress s)) :
    act.Leaves (ServesSeeded s g) (ServesSeeded s g) := by
  intro w hw
  refine ⟨leaves_serves hact w hw.toServes, ?_⟩
  have h := (hact w hw.state_eq).seeds hw.hasState
  have hle : (act w).state.seeds s ≤ 1 := by
    unfold seeds
    split <;> decide
  have hone := hw.seeds_eq
  omega

/-- Whoever takes a value of a counter leaves it seeded. -/
theorem leaves_nextCount : (nextCount s).Leaves (Serves s g) (ServesSeeded s g) := by
  intro w hw
  refine ⟨leaves_serves (fun v _ => progress_nextCount s v) w hw, ?_⟩
  rw [nextCount_apply]
  exact seeds_leaveCount _ (by simpa using hw.hasState.state_lt)

theorem leaves_gather (length : Length) :
    (gather g length).Leaves (Serves s g) (ServesSeeded s g) := by
  intro w hw
  have hread : Serves s g (w.clockRead g) :=
    leaves_serves (fun v _ => progress_readClock s g v) w hw
  rw [gather, Act.bind_apply, readClock_apply, Act.andThen_ok]
  dsimp only
  refine Act.Leaves.state_bind (P := Serves s g) (fun v hv => ?_) _ hread
  rw [hv.state_eq]
  refine leaves_nextCount.bind fun counter => ?_
  refine (leaves_seeded fun v _ => progress_fingerprint s v).bind fun f => ?_
  refine (leaves_seeded fun v _ => progress_randomBytes s _ _ v).bind fun random => ?_
  refine (leaves_seeded fun v _ => progress_randomBytes s _ _ v).bind fun first => ?_
  exact .pure _

theorem leaves_generateAccepted (length : Length) :
    (generateAccepted g length).Leaves (Serves s g) (ServesSeeded s g) := by
  refine (leaves_gather length).bind fun draft => ?_
  exact Act.Leaves.state_bind fun v _ => leaves_seeded fun u _ => progress_conclude s _ u

/-- Whoever asks for an identifier of an acceptable length leaves the counter
seeded, whatever becomes of the identifier. -/
theorem leaves_tryGenerate {length : Value} (hfits : length.FitsLength) :
    (tryGenerate g length).Leaves (Serves s g) (ServesSeeded s g) := by
  obtain ⟨n, hn⟩ := Length.exists_ofValue_iff.mpr hfits
  rw [tryGenerate_of_ok g hn]
  exact leaves_generateAccepted n

theorem leaves_generate {length : Value} (hfits : length.FitsLength) :
    (generate g length).Leaves (Serves s g) (ServesSeeded s g) :=
  (leaves_tryGenerate hfits).bind fun _ _ hw => hw

end Operations

end World

end IdMint
