import IdMint.Proofs.Omission
import IdMint.Proofs.Queries

/-!
# What the hash primitive has no say in

A request asks its hash primitive after everything else has been done: the clock has
been read, the counter value is taken, the fingerprint is there and the random bytes
are drawn.  So whatever the primitive does, be it a digest of any size or a fault of
any kind, the request leaves the same world behind.

Two worlds that are alike but for their primitives stay alike under all actions of a
generator but the last (`World.matches_gather`), and that one changes nothing
(`World.state_generateAccepted`).  From there it goes step by step through two
sessions in which the primitive may behave differently at each call
(`World.session_of_primitives`).
-/

namespace IdMint

/-- Making an identifier never fails as a rejected length does. -/
theorem Identifier.conclusion_make_ne_error {primitive : HashPrimitive} {letter : Text}
    {bytes : Bytes} {length : Length} {message : Text} {minimum maximum : Int} :
    conclusion (make primitive letter bytes length) ≠
      .error (.invalidArgument message minimum maximum) := by
  intro h
  have hmade : make primitive letter bytes length =
      .error (.invalidArgument message minimum maximum) := by
    rcases hmake : make primitive letter bytes length with fault | identifier
    · rw [hmake] at h
      cases fault <;> simp_all [conclusion]
    · rw [hmake] at h
      cases h
  cases hprimitive : primitive bytes with
  | error fault =>
      rw [make_of_fault letter length hprimitive] at hmade
      have hfault := Except.error.inj hmade
      by_cases hrejected : fault.isRejectedValue = true
      · rw [if_pos hrejected] at hfault
        cases hfault
      · rw [if_neg hrejected] at hfault
        subst hfault
        exact hrejected rfl
  | ok d =>
      obtain ⟨hok, hfailed⟩ := make_of_digest letter length hprimitive
      by_cases hsuffices : Suffices d length
      · rw [hok hsuffices] at hmade
        cases hmade
      · obtain ⟨reason, hreason⟩ := hfailed hsuffices
        rw [hreason] at hmade
        cases hmade

/-! ## Steps -/

/-- The step is a request, of either kind, for an acceptable length. -/
def Step.IsAccepted : Step → Prop
  | tryGenerate _ length | generate _ length => (requestedLength length).FitsLength
  | nextCounts _ _ | setCounter _ _ | fingerprint _ | changePlatform _ _ | setClock _ _
  | setPrimitive _ _ | nextCountsInThreads _ _ _ | generateInThreads _ _ _ _ => False

/-- The step is about requests that several threads make, each of them up to its first
failure: there it depends on the primitive how many are made. -/
def Step.IsRequestOfThreads : Step → Prop
  | generateInThreads _ _ _ _ => True
  | _ => False

/-- Two steps are the same, or both replace the primitive, each with one of its own. -/
inductive Step.SameButPrimitive : Step → Step → Prop
  | same (step : Step) : SameButPrimitive step step
  | primitives (g : Nat) (primitive primitive' : HashPrimitive) :
      SameButPrimitive (.setPrimitive g primitive) (.setPrimitive g primitive')

/-- The result says that a length has been rejected, as an outcome or as a fault. -/
def Rejects (result : Except Fault StepResult) : Prop :=
  (∃ outcome, result = .ok (.outcome outcome) ∧ outcome.error = some .invalidArgument) ∨
    ∃ message minimum maximum, result = .error (.invalidArgument message minimum maximum)

/-- What is seen after a step is the same, save for what an accepted request gives; and
neither time that is a rejection, or both times. -/
structure Observation.Agrees (step : Step) (seen seen' : Observation) : Prop where
  draws : seen.draws = seen'.draws
  clockCalls : seen.clockCalls = seen'.clockCalls
  counter : seen.counter = seen'.counter
  counterSeeded : seen.counterSeeded = seen'.counterSeeded
  fingerprintSet : seen.fingerprintSet = seen'.fingerprintSet
  rejects : Rejects seen.result ↔ Rejects seen'.result
  rest : ¬step.IsAccepted → seen.result = seen'.result ∧ seen.entries = seen'.entries

namespace World

variable {w w' : World}

/-- A text, or the lack of one, is a rejection only as a fault. -/
theorem rejects_identifier_iff {answer : Except Fault Text} :
    Rejects (answer.map .identifier) ↔
      ∃ message minimum maximum, answer = .error (.invalidArgument message minimum maximum) := by
  cases answer with
  | error fault => simp [Rejects, Except.map]
  | ok identifier => simp [Rejects, Except.map]

/-- An outcome that the primitive has had a say in is no rejection. -/
theorem rejects_outcome_iff {answer : Except Fault Outcome}
    (h : ∀ outcome, answer = .ok outcome → outcome.IsConclusion) :
    Rejects (answer.map .outcome) ↔
      ∃ message minimum maximum, answer = .error (.invalidArgument message minimum maximum) := by
  cases answer with
  | error fault => simp [Rejects, Except.map]
  | ok outcome =>
      rcases h outcome rfl with ⟨t, rfl⟩ | ⟨message, rfl⟩
      · simp [Rejects, Except.map, Outcome.success]
      · simp [Rejects, Except.map, Outcome.failure]

/-- Taking such an outcome as an answer makes no rejection of it. -/
theorem unwrap_eq_invalidArgument_iff {answer : Except Fault Outcome} {message : Text}
    {minimum maximum : Int}
    (h : ∀ outcome, answer = .ok outcome → outcome.IsConclusion) :
    answer >>= Outcome.unwrap = .error (.invalidArgument message minimum maximum) ↔
      answer = .error (.invalidArgument message minimum maximum) := by
  cases answer with
  | error fault => exact ⟨congrArg _ ∘ Except.error.inj, congrArg _ ∘ Except.error.inj⟩
  | ok outcome =>
      refine iff_of_false ?_ (by simp)
      rcases h outcome rfl with ⟨t, rfl⟩ | ⟨reason, rfl⟩
      · intro hunwrap
        cases hunwrap
      · intro hunwrap
        cases hunwrap

theorem isConclusion_of_generateAccepted {g : Nat} {n : Length} {outcome : Outcome}
    (h : (generateAccepted g n w).answer = .ok outcome) : outcome.IsConclusion := by
  rw [answer_generateAccepted] at h
  obtain ⟨d, -, hmade⟩ := Except.bind_eq_ok_iff.mp h
  exact Identifier.isConclusion_of_conclusion hmade

/-- No fault of the primitive passes for a rejected length. -/
theorem generateAccepted_eq_invalidArgument_iff {g : Nat} {n : Length} {message : Text}
    {minimum maximum : Int} :
    (generateAccepted g n w).answer = .error (.invalidArgument message minimum maximum) ↔
      (gather g n w).answer = .error (.invalidArgument message minimum maximum) := by
  rw [answer_generateAccepted, Except.bind_eq_error_iff]
  constructor
  · rintro (hgather | ⟨d, -, hmade⟩)
    · exact hgather
    · exact absurd hmade Identifier.conclusion_make_ne_error
  · exact Or.inl

/-- An accepted request is turned down only where its gathering fails as if it were. -/
theorem rejects_tryGenerate_iff {g : Nat} {length : Value} {n : Length}
    (h : Length.ofValue length = .ok n) (w : World) :
    Rejects ((tryGenerate g length w).answer.map .outcome) ↔
      ∃ message minimum maximum,
        (gather g n w).answer = .error (.invalidArgument message minimum maximum) := by
  rw [tryGenerate_of_ok g h, rejects_outcome_iff fun _ => isConclusion_of_generateAccepted]
  simp only [generateAccepted_eq_invalidArgument_iff]

theorem rejects_generate_iff {g : Nat} {length : Value} {n : Length}
    (h : Length.ofValue length = .ok n) (w : World) :
    Rejects ((generate g length w).answer.map .identifier) ↔
      ∃ message minimum maximum,
        (gather g n w).answer = .error (.invalidArgument message minimum maximum) := by
  rw [rejects_identifier_iff, answer_generate, tryGenerate_of_ok g h]
  simp only [unwrap_eq_invalidArgument_iff fun _ => isConclusion_of_generateAccepted,
    generateAccepted_eq_invalidArgument_iff]

/-- Any other step that is done in both worlds gives the same and leaves like worlds
behind. -/
theorem matches_perform {step : Step} (haccepted : ¬step.IsAccepted)
    (hthreads : ¬step.IsRequestOfThreads) : Act.Matches Alike (perform step) (perform step) := by
  cases step with
  | tryGenerate g length =>
      obtain ⟨rejection, hreject⟩ := tryGenerate_of_not_fits g haccepted
      rw [perform, hreject]
      exact (matches_reject _ rejection).map _
  | generate g length =>
      obtain ⟨rejection, hreject⟩ := tryGenerate_of_not_fits g haccepted
      rw [perform, generate, hreject]
      exact ((matches_reject _ rejection).bind fun outcome => Act.Matches.ofExcept _).map _
  | nextCounts g times =>
      refine Act.Matches.state_bind fun v v' h => ?_
      rw [h.generator g]
      exact ((matches_nextCount _).times times).map _
  | setCounter g value =>
      refine (Act.Matches.change fun v v' h => ?_).bind fun _ => Act.Matches.pure _
      dsimp only
      rw [h.generator g, h.state]
      exact h.setState _ _
  | fingerprint g =>
      refine Act.Matches.state_bind fun v v' h => ?_
      rw [h.generator g]
      exact (matches_fingerprint _).map _
  | changePlatform g change =>
      refine (Act.Matches.change fun v v' h => ?_).bind fun _ => Act.Matches.pure _
      dsimp only
      rw [h.generator g, h.platform]
      exact h.setPlatform _ _
  | setClock g reading =>
      refine (Act.Matches.change fun v v' h => ?_).bind fun _ => Act.Matches.pure _
      rw [h.clock g]
      exact h.setClock g _
  | setPrimitive g primitive =>
      refine (Act.Matches.change fun v v' h => ?_).bind fun _ => Act.Matches.pure _
      exact { h with }
  | nextCountsInThreads g threads calls =>
      refine Act.Matches.state_bind fun v v' h => ?_
      rw [h.generator g]
      exact (matches_inThreads (matches_nextCount _) calls threads).bind fun counts =>
        Act.Matches.pure _
  | generateInThreads => exact absurd trivial hthreads

/-- Two steps that are the same but for primitives leave like worlds behind and give the
same, unless they are accepted requests; and neither of them is turned down, or both. -/
theorem alike_perform {step step' : Step} (hstep : step.SameButPrimitive step')
    (hthreads : ¬step.IsRequestOfThreads) (h : Alike w w') :
    Alike (perform step w).state (perform step' w').state ∧
      (Rejects (perform step w).answer ↔ Rejects (perform step' w').answer) ∧
      (¬step.IsAccepted → (perform step w).answer = (perform step' w').answer ∧
        (perform step w).entries = (perform step' w').entries) := by
  cases hstep with
  | primitives g primitive primitive' => exact ⟨{ h with }, Iff.rfl, fun _ => ⟨rfl, rfl⟩⟩
  | same =>
      by_cases haccepted : step.IsAccepted
      · cases step with
        | tryGenerate g length =>
            obtain ⟨n, hn⟩ := Length.exists_ofValue_iff.mpr haccepted
            have hgather := matches_gather g n w w' h
            rw [perform, Act.map_apply, Act.map_apply]
            refine ⟨?_, ?_, fun hnot => absurd haccepted hnot⟩
            · dsimp only
              rw [tryGenerate_of_ok g hn, state_generateAccepted, state_generateAccepted]
              exact hgather.state
            · rw [rejects_tryGenerate_iff hn, rejects_tryGenerate_iff hn, hgather.answer]
        | generate g length =>
            obtain ⟨n, hn⟩ := Length.exists_ofValue_iff.mpr haccepted
            have hgather := matches_gather g n w w' h
            rw [perform, Act.map_apply, Act.map_apply]
            refine ⟨?_, ?_, fun hnot => absurd haccepted hnot⟩
            · dsimp only
              rw [state_generate, state_generate, tryGenerate_of_ok g hn, state_generateAccepted,
                state_generateAccepted]
              exact hgather.state
            · rw [rejects_generate_iff hn, rejects_generate_iff hn, hgather.answer]
        | nextCounts | setCounter | fingerprint | changePlatform | setClock | setPrimitive
          | nextCountsInThreads | generateInThreads => exact absurd haccepted id
      · have hrun := matches_perform haccepted hthreads w w' h
        exact ⟨hrun.state, by rw [hrun.answer], fun _ => ⟨hrun.answer, hrun.entries⟩⟩

theorem subject_eq_of_sameButPrimitive {step step' : Step}
    (h : step.SameButPrimitive step') : step.subject = step'.subject := by
  cases h <;> rfl

/-- Like worlds in which such steps are done and observed show the same and stay alike. -/
theorem agrees_observe {step step' : Step} (hstep : step.SameButPrimitive step')
    (hthreads : ¬step.IsRequestOfThreads) (h : Alike w w') :
    Observation.Agrees step (w.observe step).1 (w'.observe step').1 ∧
      Alike (w.observe step).2 (w'.observe step').2 := by
  obtain ⟨hafter, hrejects, hrest⟩ := alike_perform hstep hthreads h
  have hsubject := subject_eq_of_sameButPrimitive hstep
  refine ⟨?_, hafter⟩
  constructor
  case rejects => exact hrejects
  case rest => exact hrest
  all_goals
    simp only [observe, ← hsubject, hafter.generator, hafter.state, hafter.platform, hafter.clock]

/-- **What comes of a request is all that the primitive decides.**  Two sessions whose
steps are the same, save that each replaces its primitives by ones of its own wherever
it likes, go from like worlds through like worlds: after any number of steps, the counters,
fingerprints, platforms with what has been drawn from them, and clocks are the same.
What is seen after a step is the same but for what an accepted request gives and notes
down; and the same requests are turned down. -/
theorem session_of_primitives {steps steps' : List Step}
    (hsteps : List.Forall₂ Step.SameButPrimitive steps steps')
    (hthreads : ∀ step ∈ steps, ¬step.IsRequestOfThreads) (h : Alike w w') :
    (∀ k, Alike (w.session (steps.take k)).2 (w'.session (steps'.take k)).2) ∧
      List.Forall₂ (fun seen seen' => Observation.Agrees seen.1 seen.2 seen'.2)
        (steps.zip (w.session steps).1) (steps'.zip (w'.session steps').1) := by
  induction hsteps generalizing w w' with
  | nil => exact ⟨fun k => by simpa [session] using h, by simp [session]⟩
  | @cons step step' rest rest' hstep hrest ih =>
      have hfirst := agrees_observe hstep (hthreads step (by simp)) h
      have hthen := ih (fun later hlater => hthreads later (by simp [hlater])) hfirst.2
      constructor
      · intro k
        cases k with
        | zero => exact h
        | succ k => exact hthen.1 k
      · exact List.Forall₂.cons hfirst.1 hthen.2

/-- One primitive always gives a digest; the other is for ever out of memory, and what
replaces it rejects everything.  The counter does not show which of them it was. -/
theorem session_of_primitives_failing :
    let good : HashPrimitive := fun _ => .ok (List.replicate 64 255)
    let started (primitive : HashPrimitive) : World :=
      (single default default primitive).setState 0 { platform := 0, fingerprint := some [1] }
    let steps : List Step := [.tryGenerate 0 none, .setPrimitive 0 good, .tryGenerate 0 none,
      .nextCounts 0 2]
    let w := started fun _ => .error (.outside .memory [])
    let steps' : List Step := [.tryGenerate 0 none,
      .setPrimitive 0 fun _ => .error (.outside .value []), .tryGenerate 0 none,
      .nextCounts 0 2]
    (perform (.tryGenerate 0 none) w).answer = .error (.outside .memory []) ∧
      (((started good).session steps).2.state 0).counter =
        ((w.session steps').2.state 0).counter := by
  intro good started steps w steps'
  have halike : Alike (started good) w := by constructor <;> rfl
  have hsteps : List.Forall₂ Step.SameButPrimitive steps steps' :=
    .cons (.same _) (.cons (.primitives 0 _ _) (.cons (.same _) (.cons (.same _) .nil)))
  have hthreads : ∀ step ∈ steps, ¬step.IsRequestOfThreads := by
    simp [steps, Step.IsRequestOfThreads]
  have h := (session_of_primitives hsteps hthreads halike).1 4
  exact ⟨rfl, congrArg GeneratorState.counter (h.state 0)⟩

end World

end IdMint
