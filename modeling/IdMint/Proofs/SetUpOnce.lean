import IdMint.Proofs.Queries
import IdMint.Proofs.SettingUp
import IdMint.Proofs.Sessions

/-!
# A state is set up once

What a session does to a generator state that is not set up yet, or only in part.
Steps are looked at one by one first: those that need the counter seed it unless
that has been done, those that need the fingerprint compute it unless it is there,
and nothing that is there is ever lost.  What holds for whole sessions
(`World.setsUpOnce`) follows by going through their steps.

Which fingerprint a step uses is told from what it hands out, or from the bytes that
its hash primitive is asked about (`World.UsesFingerprint`).
-/

namespace IdMint

/-! ## Steps -/

namespace Step

/-- The step is something that generators do, and no change of what surrounds
them. -/
def IsOperation : Step → Prop
  | tryGenerate _ _ | generate _ _ | nextCounts _ _ | fingerprint _ | nextCountsInThreads _ _ _
  | generateInThreads _ _ _ _ => True
  | setCounter _ _ | changePlatform _ _ | setClock _ _ | setPrimitive _ _ => False

/-- The step needs the counter: it asks for a value of it, or for an identifier of
an acceptable length. -/
def TakesCount : Step → Prop
  | tryGenerate _ length | generate _ length => (requestedLength length).FitsLength
  | nextCounts _ times => times ≠ 0
  | nextCountsInThreads _ threads calls => threads ≠ 0 ∧ calls ≠ 0
  | generateInThreads _ threads calls length =>
    threads ≠ 0 ∧ calls ≠ 0 ∧ (requestedLength length).FitsLength
  | setCounter _ _ | fingerprint _ | changePlatform _ _ | setClock _ _ | setPrimitive _ _ => False

/-- The step needs the fingerprint: it asks for it, or for an identifier of an acceptable
length. -/
def NeedsFingerprint : Step → Prop
  | tryGenerate _ length | generate _ length => (requestedLength length).FitsLength
  | fingerprint _ => True
  | nextCounts _ _ | setCounter _ _ | changePlatform _ _ | setClock _ _ | setPrimitive _ _
  | nextCountsInThreads _ _ _ | generateInThreads _ _ _ _ => False

/-- The step overwrites the counter. -/
def SetsCounter : Step → Prop
  | setCounter _ _ => True
  | _ => False

end Step

namespace World

/-- What an operation comes to for the state of its generator. -/
theorem obeys_perform {step : Step} (h : step.IsOperation) (s : Nat) :
    (perform step).Obeys (fun w => (w.generator step.subject).state = s) (Progress s) := by
  have hR := cumulative_progress s step.subject
  have hturn : ∀ w : World, (w.generator step.subject).state = s →
      (nextCount (w.generator step.subject).state).Obeys
        (fun w => (w.generator step.subject).state = s) (Progress s) := by
    intro w hw
    rw [hw]
    exact fun v _ => progress_nextCount s v
  cases step with
  | tryGenerate g length => exact (obeys_tryGenerate s g _).map _
  | generate g length => exact (obeys_generate s g _).map _
  | nextCounts g times => exact obeys_nextCounts hR hturn times
  | fingerprint g =>
      refine Act.Obeys.state_bind fun w hw => Act.Obeys.map _ ?_
      rw [show (w.generator g).state = s from hw]
      exact fun v _ => progress_fingerprint s v
  | nextCountsInThreads g threads calls => exact obeys_nextCountsInThreads hR hturn threads calls
  | generateInThreads g threads calls length =>
      refine Act.Obeys.bind hR (obeys_inThreads hR ?_ threads) fun identifiers => .pure hR _
      exact Act.Obeys.times hR (obeys_generate s g _) calls
  | setCounter | changePlatform | setClock | setPrimitive => exact absurd h id

/-- A step that needs the counter leaves it seeded. -/
theorem leaves_perform {step : Step} (h : step.TakesCount) (s : Nat) :
    (perform step).Leaves (Serves s step.subject) (ServesSeeded s step.subject) := by
  cases step with
  | tryGenerate g length => exact (leaves_tryGenerate h).map _
  | generate g length => exact (leaves_generate h).map _
  | nextCounts g times =>
      refine Act.Leaves.state_bind fun w hw => Act.Leaves.map _ ?_
      rw [show (w.generator g).state = s from hw.state_eq]
      exact leaves_nextCount.times (leaves_seeded fun v _ => progress_nextCount s v) h
  | nextCountsInThreads g threads calls =>
      refine Act.Leaves.state_bind fun w hw => ?_
      rw [show (w.generator g).state = s from hw.state_eq]
      refine Act.Leaves.bind ?_ fun counts => .pure _
      exact leaves_inThreads leaves_nextCount (leaves_seeded fun v _ => progress_nextCount s v)
        h.2 h.1
  | generateInThreads g threads calls length =>
      refine Act.Leaves.bind ?_ fun identifiers => .pure _
      exact leaves_inThreads (leaves_generate h.2.2) (leaves_seeded (obeys_generate s g _))
        h.2.1 h.1
  | setCounter | fingerprint | changePlatform | setClock | setPrimitive => exact absurd h id

/-- A request for a length that is not acceptable seeds nothing. -/
theorem seedsNothing_tryGenerate {g : Nat} {length : Value} (h : ¬length.FitsLength) :
    (tryGenerate g length).SeedsNothing := by
  cases hlength : Length.ofValue length with
  | ok n => exact absurd (Length.exists_ofValue_iff.mp ⟨n, hlength⟩) h
  | error rejection =>
      rw [tryGenerate_of_error g hlength]
      exact seedsNothing_reject length rejection

theorem seedsNothing_generate {g : Nat} {length : Value} (h : ¬length.FitsLength) :
    (generate g length).SeedsNothing :=
  (seedsNothing_tryGenerate h).bind fun _ _ _ => rfl

/-- Threads seed nothing if there are none, if they have nothing to do, or if what
they do seeds nothing. -/
theorem seedsNothing_inThreads {α : Type} {act : Act World α} {calls threads : Nat}
    (h : threads = 0 ∨ calls = 0 ∨ act.SeedsNothing) :
    (inThreads calls act threads).SeedsNothing := by
  have hR := Act.SeedsNothing.cumulative (σ := World)
  rcases h with rfl | rfl | hact
  · exact .pure []
  · have hnone : (Act.times 0 act).SeedsNothing := .pure []
    exact obeys_inThreads hR hnone threads
  · exact obeys_inThreads hR (Act.Obeys.times hR hact calls) threads

/-- A step that does not need the counter seeds none. -/
theorem seedsNothing_perform {step : Step} (h : ¬step.TakesCount) :
    (perform step).SeedsNothing := by
  cases step with
  | tryGenerate g length => exact (seedsNothing_tryGenerate h).map _
  | generate g length => exact (seedsNothing_generate h).map _
  | nextCounts g times =>
      obtain rfl : times = 0 := Classical.not_not.mp h
      exact fun _ _ => rfl
  | fingerprint g =>
      exact Act.SeedsNothing.bind (fun _ _ => rfl) fun w => (seedsNothing_fingerprint _).map _
  | nextCountsInThreads g threads calls =>
      refine Act.SeedsNothing.bind (fun _ _ => rfl) fun w => ?_
      refine (seedsNothing_inThreads ?_).bind fun counts => .pure _
      simp only [Step.TakesCount] at h
      tauto
  | generateInThreads g threads calls length =>
      refine (seedsNothing_inThreads ?_).bind fun identifiers => .pure _
      simp only [Step.TakesCount] at h
      have hgenerate : ¬(requestedLength length).FitsLength →
          (generate g (requestedLength length)).SeedsNothing := seedsNothing_generate
      tauto
  | setCounter g value => exact fun _ _ => rfl
  | changePlatform g change => exact fun _ _ => rfl
  | setClock g reading => exact fun _ _ => rfl
  | setPrimitive g primitive => exact fun _ _ => rfl

end World

theorem Step.isOperation_of_takesCount {step : Step} (h : step.TakesCount) :
    step.IsOperation := by
  cases step <;> first | exact trivial | exact absurd h id

namespace World

/-- What a change of the surroundings leaves as it is. -/
structure Rearranged (w w' : World) : Prop where
  places : ∀ g, (w'.generator g).platform = (w.generator g).platform ∧
    (w'.generator g).state = (w.generator g).state
  states_length : w'.states.length = w.states.length
  platforms_length : w'.platforms.length = w.platforms.length
  rest : ∀ t, (w'.state t).platform = (w.state t).platform ∧
    (w'.state t).fingerprint = (w.state t).fingerprint
  draws : ∀ i, (w'.platform i).draws = (w.platform i).draws

theorem rearranged_perform {step : Step} (h : ¬step.IsOperation) (w : World) :
    Rearranged w (perform step w).state := by
  cases step with
  | setCounter g value =>
      refine
        { places := fun _ => ⟨rfl, rfl⟩
          states_length := by simp [perform, Act.bind_apply, setState]
          platforms_length := rfl
          rest := fun t => rest_leaveCount w (w.generator g).state t value
          draws := fun _ => rfl }
  | changePlatform g change =>
      refine
        { places := fun _ => ⟨rfl, rfl⟩
          states_length := rfl
          platforms_length := by simp [perform, Act.bind_apply, setPlatform]
          rest := fun _ => ⟨rfl, rfl⟩
          draws := fun i => ?_ }
      rcases w.platform_setPlatform_or (w.generator g).platform i
        ((w.platform (w.generator g).platform).changed change) with h | ⟨rfl, h⟩
      · exact congrArg Platform.draws h
      · exact (congrArg Platform.draws h).trans rfl
  | setClock g reading =>
      refine
        { places := fun j => places_setClock w g j _
          states_length := congrArg List.length (states_setClock w g _)
          platforms_length := congrArg List.length (platforms_setClock w g _)
          rest := fun t => ?_
          draws := fun i => ?_ }
      · have hstate : (perform (.setClock g reading) w).state.state t = w.state t :=
          congrArg (·.getD t default) (states_setClock w g _)
        rw [hstate]
        exact ⟨rfl, rfl⟩
      · have hplatform : (perform (.setClock g reading) w).state.platform i = w.platform i :=
          congrArg (·.getD i default) (platforms_setClock w g _)
        rw [hplatform]
  | setPrimitive g primitive => exact ⟨fun _ => ⟨rfl, rfl⟩, rfl, rfl, fun _ => ⟨rfl, rfl⟩, fun _ => rfl⟩
  | tryGenerate | generate | nextCounts | fingerprint | nextCountsInThreads
    | generateInThreads => exact absurd trivial h

/-- A change of the surroundings leaves all counters alone, unless it sets one. -/
theorem state_perform_of_change {step : Step} (h : ¬step.IsOperation) (hset : ¬step.SetsCounter)
    (w : World) (t : Nat) : (perform step w).state.state t = w.state t := by
  cases step with
  | setCounter => exact absurd trivial hset
  | changePlatform => rfl
  | setClock g reading => exact congrArg (·.getD t default) (states_setClock w g _)
  | setPrimitive => rfl
  | tryGenerate | generate | nextCounts | fingerprint | nextCountsInThreads
    | generateInThreads => exact absurd trivial h

/-! ## What every step leaves as it is -/

theorem places_perform (step : Step) (w : World) (g : Nat) :
    (((perform step w).state.generator g).platform = (w.generator g).platform) ∧
      ((perform step w).state.generator g).state = (w.generator g).state := by
  by_cases h : step.IsOperation
  · exact (obeys_perform h _ w rfl).places g
  · exact (rearranged_perform h w).places g

/-- A step leaves the states of other generators alone. -/
theorem state_perform_of_ne {step : Step} {w : World} {s : Nat}
    (hs : (w.generator step.subject).state ≠ s) :
    (perform step w).state.state s = w.state s := by
  by_cases h : step.IsOperation
  · exact (obeys_perform h _ w rfl).others s hs.symm
  · by_cases hset : step.SetsCounter
    · cases step with
      | setCounter g value => exact state_setState_ne _ hs
      | _ => exact absurd hset id
    · exact state_perform_of_change h hset w s

theorem platform_perform (step : Step) (w : World) (s : Nat) :
    ((perform step w).state.state s).platform = (w.state s).platform := by
  by_cases hs : (w.generator step.subject).state = s
  · by_cases h : step.IsOperation
    · exact (obeys_perform h s w hs).platform
    · exact ((rearranged_perform h w).rest s).1
  · rw [state_perform_of_ne hs]

/-- A fingerprint that is there stays, whatever is done and to whom. -/
theorem fingerprint_perform (step : Step) {w : World} {s : Nat} {f : Bytes}
    (hf : (w.state s).fingerprint = some f) :
    ((perform step w).state.state s).fingerprint = some f := by
  by_cases hs : (w.generator step.subject).state = s
  · by_cases h : step.IsOperation
    · exact (obeys_perform h s w hs).fingerprint f hf
    · rw [((rearranged_perform h w).rest s).2, hf]
  · rw [state_perform_of_ne hs, hf]

/-- No step adds a state or a platform. -/
theorem lengths_perform (step : Step) (w : World) :
    (perform step w).state.states.length = w.states.length ∧
      (perform step w).state.platforms.length = w.platforms.length := by
  by_cases h : step.IsOperation
  · have hprogress := obeys_perform h _ w rfl
    exact ⟨hprogress.states_length, hprogress.platforms_length⟩
  · exact ⟨(rearranged_perform h w).states_length, (rearranged_perform h w).platforms_length⟩

theorem hasState_perform (step : Step) {w : World} {s : Nat} (hw : w.HasState s) :
    (perform step w).state.HasState s := by
  obtain ⟨hstates, hplatforms⟩ := lengths_perform step w
  refine ⟨?_, ?_⟩
  · rw [hstates]
    exact hw.state_lt
  · rw [platform_perform, hplatforms]
    exact hw.platform_lt

/-! ## What a step does to the state of its generator -/

section Own

variable {step : Step} {w : World} {s : Nat}

/-- A step that needs the counter seeds it, unless that has been done. -/
theorem seedings_perform (hw : w.HasState s) (hs : (w.generator step.subject).state = s)
    (h : step.TakesCount) : w.seeds s + seedings (perform step w).entries = 1 := by
  have hprogress := obeys_perform (Step.isOperation_of_takesCount h) s w hs
  rw [← hprogress.seeds hw]
  exact (leaves_perform h s w ⟨hw, hs⟩).seeds_eq

theorem seeds_perform (hw : w.HasState s) (hs : (w.generator step.subject).state = s)
    (h : step.TakesCount ∨ step.SetsCounter) : (perform step w).state.seeds s = 1 := by
  rcases h with h | h
  · exact (leaves_perform h s w ⟨hw, hs⟩).seeds_eq
  · cases step with
    | setCounter g value =>
        obtain rfl : (w.generator g).state = s := hs
        exact seeds_leaveCount value hw.state_lt
    | _ => exact absurd h id

/-- Any other step leaves the counter seeded, or not, as it was. -/
theorem seeds_perform_of_not (hw : w.HasState s)
    (h : (w.generator step.subject).state = s → ¬step.TakesCount ∧ ¬step.SetsCounter) :
    (perform step w).state.seeds s = w.seeds s := by
  by_cases hs : (w.generator step.subject).state = s
  · by_cases hop : step.IsOperation
    · rw [(obeys_perform hop s w hs).seeds hw, seedsNothing_perform (h hs).1 w trivial]
      rfl
    · rw [seeds, seeds, state_perform_of_change hop (h hs).2]
  · rw [seeds, seeds, state_perform_of_ne hs]

/-- The platform of the state is asked for a random integer as often as the counter
is seeded, and no other platform is asked for any. -/
theorem integers_perform (hw : w.HasState s) (hs : (w.generator step.subject).state = s)
    (i : Nat) :
    ((perform step w).state.platform i).draws.integers = (w.platform i).draws.integers +
      if i = (w.state s).platform ∧ (w.platform i).integerSource ≠ .stream then
        seedings (perform step w).entries
      else 0 := by
  by_cases h : step.IsOperation
  · exact (obeys_perform h s w hs).integers hw i
  · have htakes : ¬step.TakesCount := fun htakes => h (Step.isOperation_of_takesCount htakes)
    rw [(rearranged_perform h w).draws i, seedsNothing_perform htakes w trivial, ite_self]
    rfl

/-- Once there is a fingerprint, no platform is asked about its host. -/
theorem hostDraws_perform (hs : (w.generator step.subject).state = s) {f : Bytes}
    (hf : (w.state s).fingerprint = some f) (i : Nat) :
    ((perform step w).state.platform i).hostDraws = (w.platform i).hostDraws := by
  by_cases h : step.IsOperation
  · exact (obeys_perform h s w hs).quiet f hf i
  · rw [Platform.hostDraws, Platform.hostDraws, (rearranged_perform h w).draws i]

end Own

/-! ## The fingerprint that a step uses -/

/-- A step uses a fingerprint: it hands it out, or it hashes it, behind the sixteen bytes
of the time and the counter value and before as many random bytes as the length says. -/
inductive UsesFingerprint (w : World) (f : Bytes) : Step → Prop
  | handedOut (g : Nat) (h : (perform (.fingerprint g) w).answer = .ok (.bytes f)) :
      UsesFingerprint w f (.fingerprint g)
  | hashed (step : Step) (g : Nat) (v : Value) (n : Length) (front random : Bytes)
      (hasks : step.Asks g v) (hn : Length.ofValue v = .ok n) (hfront : front.length = 16)
      (hrandom : random.length = n.val) (h : w.Hashes step (front ++ f ++ random)) :
      UsesFingerprint w f step

/-- No step uses two fingerprints. -/
theorem UsesFingerprint.unique {w : World} {step : Step} {f f' : Bytes}
    (h : w.UsesFingerprint f step) (h' : w.UsesFingerprint f' step) : f = f' := by
  cases h with
  | handedOut g h =>
      cases h' with
      | handedOut _ h' =>
          rw [h] at h'
          exact StepResult.bytes.inj (Except.ok.inj h')
      | hashed _ _ _ _ _ _ hasks => cases hasks
  | hashed step g v n front random hasks hn hfront hrandom h =>
      cases h' with
      | handedOut => cases hasks
      | hashed _ g' v' n' front' random' hasks' hn' hfront' hrandom' h' =>
          obtain ⟨-, rfl⟩ := hasks.unique hasks'
          obtain rfl := Except.ok.inj (hn.symm.trans hn')
          -- What stands in front and behind has the same length on both sides.
          have hsame := h.unique h'
          have hbehind := List.append_inj_right' hsame (hrandom.trans hrandom'.symm)
          subst hbehind
          exact List.append_inj_right (List.append_cancel_right hsame) (hfront.trans hfront'.symm)

/-- The fingerprint of the draft that a step gathers, or the one that it hands out, or why
there is none.  Other steps have no use for one. -/
def usedFingerprint (w : World) : Step → Option (Except Fault Bytes)
  | .tryGenerate g length | .generate g length =>
    match Length.ofValue (requestedLength length) with
    | .ok n => some ((gather g n w).answer.map Draft.fingerprint)
    | .error _ => none
  | .fingerprint g => some (fingerprint (w.generator g).state w).answer
  | _ => none

theorem exists_usedFingerprint {step : Step} (h : step.NeedsFingerprint) (w : World) :
    ∃ used, w.usedFingerprint step = some used := by
  cases step with
  | tryGenerate g length | generate g length =>
      obtain ⟨n, hn⟩ := Length.exists_ofValue_iff.mpr h
      exact ⟨_, by rw [usedFingerprint, hn]⟩
  | fingerprint g => exact ⟨_, rfl⟩
  | _ => exact absurd h id

/-- A request hashes the fingerprint of its draft. -/
theorem usesFingerprint_of_gather {step : Step} {g : Nat} {v : Value} {n : Length} {w : World}
    {f : Bytes} (hasks : step.Asks g v) (hn : Length.ofValue v = .ok n)
    (hused : (gather g n w).answer.map Draft.fingerprint = .ok f) : w.UsesFingerprint f step := by
  obtain ⟨d, hd, rfl⟩ := Except.map_eq_ok_iff.mp hused
  obtain ⟨hrandom, -⟩ := exists_pick_of_gather hd
  have hfront : (Bytes.pack64 d.timestamp ++ Bytes.pack64 d.counter).length = 16 := by simp
  exact .hashed step g v n _ d.random hasks hn hfront hrandom (hashes_of_gather hasks hn hd)

theorem usesFingerprint_of_used {step : Step} {w : World} {f : Bytes}
    (hused : w.usedFingerprint step = some (.ok f)) : w.UsesFingerprint f step := by
  cases step with
  | tryGenerate g length =>
      rw [usedFingerprint] at hused
      split at hused
      · next n hn =>
        exact usesFingerprint_of_gather (.tryGenerate g length) hn (Option.some.inj hused)
      · cases hused
  | generate g length =>
      rw [usedFingerprint] at hused
      split at hused
      · next n hn =>
        exact usesFingerprint_of_gather (.generate g length) hn (Option.some.inj hused)
      · cases hused
  | fingerprint g =>
      refine .handedOut g ?_
      rw [perform, Act.bind_apply, Act.state_apply, Act.andThen_ok, Act.map_apply]
      dsimp only
      rw [Option.some.inj hused]
      rfl
  | _ => cases hused

theorem state_generate (g : Nat) (v : Value) (w : World) :
    (generate g v w).state = (tryGenerate g v w).state := by
  rw [generate, Act.bind_apply]
  rcases tryGenerate g v w with ⟨fault | outcome, u, entries⟩ <;> rfl

/-- What a request does to the state of its generator after it has taken its
counter value. -/
theorem request_of_counted {g : Nat} {w : World} (length : Length) :
    (gather g length w).answer.map Draft.fingerprint =
        (fingerprint (w.generator g).state (w.counted g)).answer ∧
      (∀ s, (generateAccepted g length w).state.state s =
        (fingerprint (w.generator g).state (w.counted g)).state.state s) ∧
      ∀ fault, (fingerprint (w.generator g).state (w.counted g)).answer = .error fault →
        (generateAccepted g length w).answer = .error fault := by
  rcases hprint : fingerprint (w.generator g).state (w.counted g) with ⟨fault | f, v, entries⟩
  · have hgather := gather_of_error length hprint
    rw [generateAccepted_eq, Act.bind_apply, hgather]
    refine ⟨rfl, fun _ => rfl, ?_⟩
    intro reason hreason
    rw [Except.error.inj hreason]
    rfl
  · have hgather := gather_of_ok length hprint
    have hstate := (generateAccepted_of_gather hgather).2
    rw [hgather, hstate]
    refine ⟨rfl, fun _ => rfl, ?_⟩
    intro fault hfault
    cases hfault

/-- A request gets the fingerprint that goes into its draft from the state of its
generator, once it has taken its counter value. -/
theorem request_of_draft {g : Nat} {w : World} {length : Value} {n : Length}
    {used : Except Fault Bytes} (hg : (w.generator g).state < w.states.length)
    (hn : Length.ofValue length = .ok n)
    (hused : (gather g n w).answer.map Draft.fingerprint = used) :
    used = (fingerprint (w.generator g).state (w.counted g)).answer ∧
      ((tryGenerate g length w).state.state (w.generator g).state).fingerprint = used.toOption ∧
      ∀ fault, used = .error fault → (tryGenerate g length w).answer = .error fault := by
  obtain ⟨hdraft, hstate, hfault⟩ := request_of_counted (g := g) (w := w) n
  have hlength : (w.generator g).state < (w.counted g).states.length := by
    simpa [counted, leaveCount, setState, clockRead] using hg
  rw [hdraft] at hused
  rw [tryGenerate_of_ok g hn, hstate, ← hused]
  exact ⟨rfl, kept_fingerprint hlength, hfault⟩

/-- A step gets the fingerprint that it uses from the state of its generator as it
finds it, on hosts as it finds them, and the state keeps it; a fault is the answer
of the step. -/
theorem exists_of_usedFingerprint {step : Step} {w : World} {s : Nat}
    {used : Except Fault Bytes} (hw : w.HasState s)
    (hs : (w.generator step.subject).state = s) (hused : w.usedFingerprint step = some used) :
    ∃ v : World, ((v.state s).platform = (w.state s).platform ∧
        (v.state s).fingerprint = (w.state s).fingerprint) ∧
      (∀ i, (v.platform i).SameHost (w.platform i)) ∧
      used = (fingerprint s v).answer ∧
      ((perform step w).state.state s).fingerprint = used.toOption ∧
      ∀ fault, used = .error fault → (perform step w).answer = .error fault := by
  cases step with
  | tryGenerate g length =>
      obtain rfl : (w.generator g).state = s := hs
      rw [usedFingerprint] at hused
      split at hused
      · next n hn =>
        obtain ⟨hcounted, hkept, hfault⟩ :=
          request_of_draft hw.state_lt hn (Option.some.inj hused)
        have hrun := Act.map_apply StepResult.outcome (tryGenerate g (requestedLength length)) w
        refine ⟨w.counted g, rest_counted w g _, sameHost_counted w g, hcounted, ?_, ?_⟩
        · rw [perform, hrun]
          exact hkept
        · intro fault h
          rw [perform, hrun, hfault fault h]
          rfl
      · cases hused
  | generate g length =>
      obtain rfl : (w.generator g).state = s := hs
      rw [usedFingerprint] at hused
      split at hused
      · next n hn =>
        obtain ⟨hcounted, hkept, hfault⟩ :=
          request_of_draft hw.state_lt hn (Option.some.inj hused)
        have hrun := Act.map_apply StepResult.identifier (generate g (requestedLength length)) w
        refine ⟨w.counted g, rest_counted w g _, sameHost_counted w g, hcounted, ?_, ?_⟩
        · rw [perform, hrun, state_generate]
          exact hkept
        · intro fault h
          rw [perform, hrun, answer_generate, hfault fault h]
          rfl
      · cases hused
  | fingerprint g =>
      obtain rfl : (w.generator g).state = s := hs
      obtain rfl := Option.some.inj hused
      have hrun : perform (.fingerprint g) w =
          ⟨(fingerprint (w.generator g).state w).answer.map .bytes,
            (fingerprint (w.generator g).state w).state,
            (fingerprint (w.generator g).state w).entries⟩ := by
        rw [perform, Act.bind_apply, Act.state_apply, Act.andThen_ok, Act.map_apply]
        rfl
      rw [hrun]
      refine ⟨w, ⟨rfl, rfl⟩, fun i => .refl _, rfl, kept_fingerprint hw.state_lt, ?_⟩
      intro fault h
      rw [h]
      rfl
  | _ => cases hused

/-- A step that finds a fingerprint uses it. -/
theorem used_of_some {step : Step} {w : World} {s : Nat} {f : Bytes} {used : Except Fault Bytes}
    (hw : w.HasState s) (hs : (w.generator step.subject).state = s)
    (hf : (w.state s).fingerprint = some f) (hused : w.usedFingerprint step = some used) :
    used = .ok f := by
  obtain ⟨v, ⟨-, hprint⟩, -, hv, -, -⟩ := exists_of_usedFingerprint hw hs hused
  rw [hv, fingerprint_of_some (hprint.trans hf)]

/-- A step that finds no fingerprint has it computed, and only what has been computed
is kept. -/
theorem used_of_none {step : Step} {w : World} {s : Nat} {used : Except Fault Bytes}
    (hw : w.HasState s) (hs : (w.generator step.subject).state = s)
    (hnone : (w.state s).fingerprint = none) (hused : w.usedFingerprint step = some used) :
    (∃ p : Platform, p.SameHost (w.platform (w.state s).platform) ∧
      used = (Fingerprint.compute p).answer) ∧
      ((perform step w).state.state s).fingerprint = used.toOption ∧
      ∀ fault, used = .error fault → (perform step w).answer = .error fault := by
  obtain ⟨v, ⟨hplatform, hprint⟩, hhosts, hv, hkept⟩ := exists_of_usedFingerprint hw hs hused
  rw [answer_fingerprint_of_none (hprint.trans hnone), hplatform] at hv
  exact ⟨⟨_, hhosts _, hv⟩, hkept⟩

/-! ## Whole sessions -/

/-- The world before the step at a place of a session. -/
def before (w : World) (steps : List Step) (k : Nat) : World := (w.session (steps.take k)).2

/-- How often the counter of a state is seeded in the course of a session, by whoever
works on that state. -/
def seedingsFor (s : Nat) : List Step → World → Nat
  | [], _ => 0
  | step :: rest, w =>
    (if (w.generator step.subject).state = s then seedings (perform step w).entries else 0) +
      seedingsFor s rest (perform step w).state

/-- The step at a place of a session needs the counter of a state, which has not been
seeded at first, and no earlier step has needed or overwritten it. -/
structure IsFirstUse (w : World) (s : Nat) (steps : List Step) (k : Nat) : Prop where
  unseeded : (w.state s).counter.isSeeded = false
  takes : ∃ step, steps[k]? = some step ∧ (w.generator step.subject).state = s ∧ step.TakesCount
  first : ∀ j < k, ∀ step, steps[j]? = some step → (w.generator step.subject).state = s →
    ¬step.TakesCount ∧ ¬step.SetsCounter

section Session

variable {w : World} {steps : List Step} {s k : Nat}

theorem before_succ {step : Step} (h : steps[k]? = some step) :
    w.before steps (k + 1) = (perform step (w.before steps k)).state := by
  rw [before, List.take_add_one, h]
  exact session_concat_snd _ _ _

theorem before_succ_of_none (h : steps[k]? = none) :
    w.before steps (k + 1) = w.before steps k := by
  rw [before, List.take_add_one, h]
  exact congrArg (fun more => (w.session more).2) (List.append_nil _)

/-- What every step preserves holds from some step on if it holds there. -/
theorem before_of_perform {Q : World → Prop} {j : Nat} (hj : Q (w.before steps j))
    (hstep : ∀ v step, Q v → Q (perform step v).state) (hk : j ≤ k) : Q (w.before steps k) := by
  induction k, hk using Nat.le_induction with
  | base => exact hj
  | succ k _ ih =>
      cases hget : steps[k]? with
      | none =>
          rw [before_succ_of_none hget]
          exact ih
      | some step =>
          rw [before_succ hget]
          exact hstep _ _ ih

theorem hasState_before (hw : w.HasState s) (steps : List Step) (k : Nat) :
    (w.before steps k).HasState s :=
  before_of_perform (j := 0) (Q := fun v => v.HasState s) hw
    (fun _ step hv => hasState_perform step hv) (Nat.zero_le k)

theorem generator_before (w : World) (steps : List Step) (k g : Nat) :
    ((w.before steps k).generator g).state = (w.generator g).state :=
  before_of_perform (j := 0) (Q := fun v => (v.generator g).state = (w.generator g).state) rfl
    (fun v step hv => (places_perform step v g).2.trans hv) (Nat.zero_le k)

theorem platform_before : ((w.before steps k).state s).platform = (w.state s).platform :=
  before_of_perform (j := 0) (Q := fun v => (v.state s).platform = (w.state s).platform) rfl
    (fun v step hv => (platform_perform step v s).trans hv) (Nat.zero_le k)

/-- What a step notes down about seeding is covered by what it does to the counter. -/
theorem seeds_add_seedings_le (step : Step) (hw : w.HasState s) :
    w.seeds s +
        (if (w.generator step.subject).state = s then seedings (perform step w).entries else 0) ≤
      (perform step w).state.seeds s := by
  by_cases hs : (w.generator step.subject).state = s
  · rw [if_pos hs]
    by_cases htakes : step.TakesCount
    · rw [seedings_perform hw hs htakes, seeds_perform hw hs (Or.inl htakes)]
    · rw [show seedings (perform step w).entries = 0 from seedsNothing_perform htakes w trivial]
      by_cases hset : step.SetsCounter
      · rw [seeds_perform hw hs (Or.inr hset)]
        unfold seeds
        split <;> decide
      · exact (seeds_perform_of_not hw fun _ => ⟨htakes, hset⟩).ge
  · rw [if_neg hs]
    exact (seeds_perform_of_not hw fun h => absurd h hs).ge

/-- A counter is seeded at most once, and not at all if it was at first. -/
theorem seeds_add_seedingsFor_le (hw : w.HasState s) :
    w.seeds s + w.seedingsFor s steps ≤ 1 := by
  induction steps generalizing w with
  | nil =>
      rw [seedingsFor, seeds]
      split <;> decide
  | cons step rest ih =>
      have hstep := seeds_add_seedings_le step hw
      have hrest := ih (hasState_perform step hw)
      rw [seedingsFor]
      omega

/-- When the counter has not been seeded yet. -/
theorem seeds_before_eq_zero_iff (hw : w.HasState s) :
    (w.before steps k).seeds s = 0 ↔
      (w.state s).counter.isSeeded = false ∧
        ∀ j < k, ∀ step, steps[j]? = some step → (w.generator step.subject).state = s →
          ¬step.TakesCount ∧ ¬step.SetsCounter := by
  induction k with
  | zero =>
      show w.seeds s = 0 ↔ _
      unfold seeds
      simp
  | succ k ih =>
      rw [Nat.forall_lt_succ_right, ← and_assoc, ← ih]
      have hk := hasState_before hw steps k
      cases hget : steps[k]? with
      | none => simp [before_succ_of_none hget]
      | some step =>
          rw [before_succ hget]
          have hgenerator := w.generator_before steps k step.subject
          by_cases hneeds : (w.generator step.subject).state = s →
              ¬step.TakesCount ∧ ¬step.SetsCounter
          · rw [seeds_perform_of_not hk fun hs => hneeds (hgenerator.symm.trans hs)]
            refine ⟨fun h => ⟨h, fun _ hstep => ?_⟩, fun h => h.1⟩
            rwa [← Option.some.inj hstep]
          · obtain ⟨hs, hnot⟩ := Classical.not_imp.mp hneeds
            have huse : step.TakesCount ∨ step.SetsCounter := by tauto
            rw [seeds_perform hk (hgenerator.trans hs) huse]
            refine iff_of_false (by decide) ?_
            rintro ⟨-, h⟩
            exact hneeds (h step rfl)

/-- The counter is seeded by the first step that needs it. -/
theorem seedings_of_isFirstUse {step : Step} (hw : w.HasState s) (hget : steps[k]? = some step)
    (h : w.IsFirstUse s steps k) : seedings (perform step (w.before steps k)).entries = 1 := by
  obtain ⟨own, hown, hs, htakes⟩ := h.takes
  rw [hget] at hown
  obtain rfl := Option.some.inj hown
  have hunseeded := (seeds_before_eq_zero_iff hw).mpr ⟨h.unseeded, h.first⟩
  have hstep := seedings_perform (hasState_before hw steps k)
    ((w.generator_before steps k _).trans hs) htakes
  omega

/-- No other step seeds it. -/
theorem seedings_of_not_isFirstUse {step : Step} (hw : w.HasState s)
    (hget : steps[k]? = some step) (hs : (w.generator step.subject).state = s)
    (h : ¬w.IsFirstUse s steps k) : seedings (perform step (w.before steps k)).entries = 0 := by
  by_cases htakes : step.TakesCount
  · have hstep := seedings_perform (hasState_before hw steps k)
      ((w.generator_before steps k _).trans hs) htakes
    have hseeded : (w.before steps k).seeds s ≠ 0 := by
      intro hzero
      obtain ⟨hunseeded, hfirst⟩ := (seeds_before_eq_zero_iff hw).mp hzero
      exact h ⟨hunseeded, ⟨step, hget, hs, htakes⟩, hfirst⟩
    omega
  · exact seedsNothing_perform htakes _ trivial

end Session

/-- How a session goes about setting up the state at a place.  Steps on other
states do not matter, save that all of them may change what the platforms are. -/
structure SetsUpOnce (w : World) (s : Nat) (steps : List Step) : Prop where
  /-- The counter is seeded at most once. -/
  seedings_le : w.seedingsFor s steps ≤ 1
  /-- It is seeded by the first step that needs it, whatever becomes of that step. -/
  seedings_of_first : ∀ k step, steps[k]? = some step → w.IsFirstUse s steps k →
    seedings (perform step (w.before steps k)).entries = 1
  seedings_of_not_first : ∀ k step, steps[k]? = some step →
    (w.generator step.subject).state = s → ¬w.IsFirstUse s steps k →
    seedings (perform step (w.before steps k)).entries = 0
  /-- The platform of the state is asked for a random integer whenever the counter is
  seeded, and no platform at any other time. -/
  integers : ∀ k step, steps[k]? = some step → (w.generator step.subject).state = s → ∀ i,
    ((perform step (w.before steps k)).state.platform i).draws.integers =
      ((w.before steps k).platform i).draws.integers +
        if i = (w.state s).platform ∧
            ((w.before steps k).platform i).integerSource ≠ .stream then
          seedings (perform step (w.before steps k)).entries
        else 0
  /-- A step that needs a fingerprint where there is none computes it, on a host as
  the platform then describes it.  What comes of that is kept and used if it is a
  fingerprint; if it is a fault, nothing is kept, and the fault is the answer of the
  step. -/
  attempt : ∀ k step, steps[k]? = some step → (w.generator step.subject).state = s →
    ((w.before steps k).state s).fingerprint = none → step.NeedsFingerprint →
    ∃ p : Platform, p.SameHost ((w.before steps k).platform (w.state s).platform) ∧
      (∀ f, (Fingerprint.compute p).answer = .ok f →
        ((w.before steps (k + 1)).state s).fingerprint = some f ∧
          (w.before steps k).UsesFingerprint f step) ∧
      ∀ fault, (Fingerprint.compute p).answer = .error fault →
        ((w.before steps (k + 1)).state s).fingerprint = none ∧
          (perform step (w.before steps k)).answer = .error fault
  /-- A fingerprint that is there stays. -/
  keeps : ∀ j k f, j ≤ k → ((w.before steps j).state s).fingerprint = some f →
    ((w.before steps k).state s).fingerprint = some f
  /-- No platform is asked about its host any more. -/
  quiet : ∀ k step f, steps[k]? = some step → (w.generator step.subject).state = s →
    ((w.before steps k).state s).fingerprint = some f → ∀ i,
    ((perform step (w.before steps k)).state.platform i).hostDraws =
      ((w.before steps k).platform i).hostDraws
  /-- Every step that needs a fingerprint uses the one that is there. -/
  uses : ∀ k step f, steps[k]? = some step → (w.generator step.subject).state = s →
    ((w.before steps k).state s).fingerprint = some f → step.NeedsFingerprint →
    (w.before steps k).UsesFingerprint f step

/-- **How a generator state is set up**, by any session: requests and looks at the
counter and at the fingerprint through any generators that share the state, requests
to others, and changes of the platforms in between.

A random integer is asked for at most once, by the first step that needs the counter,
even if that step then fails for want of a fingerprint.  A fingerprint that cannot be
computed is not kept, and the next step that needs one computes it on the host as it
is by then.  Once there is one, it stays, everyone uses it, and no platform is asked
about its host on behalf of the state again. -/
theorem setsUpOnce {w : World} {s : Nat} (hw : w.HasState s) (steps : List Step) :
    w.SetsUpOnce s steps where
  seedings_le := (Nat.le_add_left _ _).trans (seeds_add_seedingsFor_le hw)
  seedings_of_first _ _ hget h := seedings_of_isFirstUse hw hget h
  seedings_of_not_first _ _ hget hs h := seedings_of_not_isFirstUse hw hget hs h
  integers k step _ hs i := by
    have h := integers_perform (hasState_before hw steps k)
      ((w.generator_before steps k _).trans hs) i
    rw [platform_before] at h
    exact h
  attempt k step hget hs hnone hneeds := by
    obtain ⟨used, hused⟩ := exists_usedFingerprint hneeds (w.before steps k)
    obtain ⟨⟨p, hp, hcomputed⟩, hkept, hfault⟩ := used_of_none (hasState_before hw steps k)
      ((w.generator_before steps k _).trans hs) hnone hused
    rw [platform_before] at hp
    rw [← before_succ hget] at hkept
    refine ⟨p, hp, fun f hf => ?_, fun fault hf => ?_⟩
    · rw [hcomputed, hf] at hused hkept
      exact ⟨hkept, usesFingerprint_of_used hused⟩
    · rw [hcomputed, hf] at hkept
      exact ⟨hkept, hfault fault (hcomputed.trans hf)⟩
  keeps j k f hjk hf :=
    before_of_perform (Q := fun v => (v.state s).fingerprint = some f) hf
      (fun _ step hv => fingerprint_perform step hv) hjk
  quiet k step f _ hs hf i := hostDraws_perform ((w.generator_before steps k _).trans hs) hf i
  uses k step f _ hs hf hneeds := by
    obtain ⟨used, hused⟩ := exists_usedFingerprint hneeds (w.before steps k)
    have hown := used_of_some (hasState_before hw steps k)
      ((w.generator_before steps k _).trans hs) hf hused
    exact usesFingerprint_of_used (hused.trans (congrArg some hown))

end World

/-- One generator on a host whose name has no encoding. -/
def World.unnamed : World :=
  World.single { (default : Platform) with hostName := .ok [0xD800] } default fun _ => .ok []

/-- The host is given a name after a request, and another one after a look at the
fingerprint. -/
def Step.renaming : List Step := [
  .tryGenerate 0 (some (.int 24)),
  .changePlatform 0 { hostName := some (.ok "b") },
  .fingerprint 0,
  .changePlatform 0 { hostName := some (.ok "c") },
  .generate 0 none]

/-- The request seeds the counter and fails, the look at the fingerprint computes it,
and the last request uses it although the host has another name by then. -/
theorem setsUpOnce_renaming :
    World.unnamed.HasState 0 ∧
      (∃ defect, (World.perform (.tryGenerate 0 (some (.int 24))) World.unnamed).answer =
        .error (.unencodable defect)) ∧
      seedings (World.perform (.tryGenerate 0 (some (.int 24))) World.unnamed).entries = 1 ∧
      World.unnamed.seedingsFor 0 Step.renaming = 1 ∧
      ((World.unnamed.before Step.renaming 3).state 0).fingerprint = some [0x62, 0, 0, 0, 0] ∧
      (World.unnamed.before Step.renaming 4).UsesFingerprint [0x62, 0, 0, 0, 0]
        (.generate 0 none) := by
  have hw : World.unnamed.HasState 0 := World.hasState_single _ _ _
  have h := World.setsUpOnce hw Step.renaming
  have hfirst : World.unnamed.IsFirstUse 0 Step.renaming 0 := by
    refine ⟨rfl, ⟨_, rfl, rfl, 24, Or.inl rfl, by decide, by decide⟩, ?_⟩
    intro j hj
    exact absurd hj (Nat.not_lt_zero j)
  have hseeded := h.seedings_of_first 0 _ rfl hfirst
  obtain ⟨p, hp, hcomputed, -⟩ := h.attempt 2 _ rfl rfl rfl trivial
  have hcompute : (Fingerprint.compute p).answer = .ok [0x62, 0, 0, 0, 0] := by
    have hname : p.hostName = .ok "b" := hp.hostName.trans (by decide +kernel)
    have henvironment : p.environment = [] := hp.environment.trans (by decide +kernel)
    have hprocess : p.processId = 0 := hp.processId.trans (by decide +kernel)
    have hsettings : Environment.serialize p.environment = .ok [] := by
      rw [henvironment]
      exact Environment.serialize_nil
    rw [Fingerprint.compute_of_name hname (by decide) rfl hsettings, hprocess]
    rfl
  obtain ⟨hkept, -⟩ := hcomputed _ hcompute
  have hlater := h.keeps 3 4 _ (by decide) hkept
  have hfits : (requestedLength none).FitsLength := ⟨24, Or.inl rfl, by decide, by decide⟩
  refine ⟨hw, ⟨_, rfl⟩, hseeded, ?_, hkept, ?_⟩
  · have hle := h.seedings_le
    have hown : (World.unnamed.generator (Step.tryGenerate 0 (some (.int 24))).subject).state = 0 :=
      rfl
    rw [Step.renaming, World.seedingsFor, if_pos hown] at hle ⊢
    change seedings (World.perform _ World.unnamed).entries = 1 at hseeded
    omega
  · exact h.uses 4 _ _ rfl rfl hlater hfits

end IdMint
