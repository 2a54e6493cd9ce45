import IdMint.Proofs.Drafting
import IdMint.Proofs.Encodings

/-!
# How a state comes by its fingerprint

`Fingerprint.answer_compute` says what a platform answers when it is asked for
its fingerprint.  Whether it can answer at all depends on its host name and its
environment alone, and not on the random bytes, since a name that is made up of
them always has an encoding (`Fingerprint.Computable.of_sameHost`).

A state that has a fingerprint keeps to it, and one that has none takes what its
platform answers (`World.fingerprint_of_some`, `World.fingerprint_of_none`).
What is timed and noted down on the way does not matter for the answer.
-/

namespace IdMint

namespace Fingerprint

/-- The host name that goes into a fingerprint: that of the platform, or random
digits where it refuses to tell or its name is empty. -/
def hostText (p : Platform) : Except Fault Text :=
  match p.hostName with
  | .error fault =>
    if fault.isSystemRefusal then .ok (p.upcoming substituteBytes).hex else .error fault
  | .ok name => if name.isEmpty then .ok (p.upcoming substituteBytes).hex else .ok name

/-- The bytes of a fingerprint, from the parts that have encodings. -/
def assemble (p : Platform) (name : Text) : Except Fault Bytes := do
  let host ← Environment.encode name
  let settings ← Environment.serialize p.environment
  return host ++ Bytes.pack32 p.processId ++ settings

/-- A platform that can answer. -/
def Computable (p : Platform) : Prop := ∃ bytes, (compute p).answer = .ok bytes

theorem answer_resolveHostName (p : Platform) :
    (resolveHostName p).answer = hostText p := by
  unfold resolveHostName hostText
  rw [Act.bind_apply, Act.attempt_apply, Platform.lookUpHostName, Act.andThen_ok]
  cases p.hostName with
  | error fault =>
      dsimp only
      split <;> rfl
  | ok name =>
      dsimp only
      split <;> rfl

/-- Resolving the host name asks for it and may ask for random bytes. -/
theorem keeps_resolveHostName {β : Type} (view : Platform → β)
    (hname : Platform.lookUpHostName.Keeps view)
    (hbytes : ∀ n, (Platform.randomBytes n).Keeps view) : resolveHostName.Keeps view := by
  have hsubstitute : ∀ reason, (substituteHostName reason).Keeps view := by
    intro reason
    refine (Act.Keeps.note _ _ _).bind fun _ => ?_
    exact (hbytes substituteBytes).bind fun bytes => Act.Keeps.pure _
  refine hname.attempt.bind fun answer => ?_
  cases answer with
  | error fault =>
      dsimp only
      split
      · exact hsubstitute _
      · exact Act.Keeps.fail fault
  | ok name =>
      dsimp only
      split
      · exact hsubstitute _
      · exact Act.Keeps.pure name

/-- What a platform answers when it is asked for its fingerprint. -/
theorem answer_compute (p : Platform) :
    (compute p).answer = (hostText p).bind (assemble p) := by
  have hkeeps := keeps_resolveHostName (fun p => (p.processId, p.environment))
    (fun _ => rfl) (fun _ _ => rfl) p
  have hanswer := answer_resolveHostName p
  rw [compute, Act.bind_apply, ← hanswer]
  rcases hrun : resolveHostName p with ⟨fault | name, q, entries⟩
  · rfl
  · rw [hrun] at hkeeps
    have hfields : (q.processId, q.environment) = (p.processId, p.environment) := hkeeps
    obtain ⟨hprocess, henvironment⟩ := Prod.mk.inj hfields
    show _ = assemble p name
    rw [Act.andThen_ok, Act.bind_apply, Act.ofExcept_apply, assemble]
    cases Environment.encode name with
    | error fault => rfl
    | ok host =>
        simp only [Act.andThen_ok, Act.bind_apply, Act.state_apply,
          Platform.readEnvironment, Act.ofExcept_apply, hprocess, henvironment]
        cases Environment.serialize p.environment with
        | error fault => rfl
        | ok settings => rfl

/-- Computing a fingerprint asks for the host name and for the environment, and may
ask for random bytes. -/
theorem keeps_compute {β : Type} {view : Platform → β}
    (hname : Platform.lookUpHostName.Keeps view)
    (hbytes : ∀ n, (Platform.randomBytes n).Keeps view)
    (henvironment : Platform.readEnvironment.Keeps view) : compute.Keeps view := by
  refine (keeps_resolveHostName _ hname hbytes).bind fun name => ?_
  refine (Act.Keeps.ofExcept _).bind fun host => Act.Keeps.state.bind fun p => ?_
  refine henvironment.bind fun environment => (Act.Keeps.ofExcept _).bind fun settings => ?_
  exact Act.Keeps.pure _

/-- A platform with a host name answers with it, and is asked for its name and
its environment once. -/
theorem compute_of_name {p : Platform} {name : Text} {host settings : Bytes}
    (hname : p.hostName = .ok name) (hne : name ≠ [])
    (hhost : Environment.encode name = .ok host)
    (hsettings : Environment.serialize p.environment = .ok settings) :
    compute p =
      ⟨.ok (host ++ Bytes.pack32 p.processId ++ settings),
        { p with draws := { p.draws with
            hostNames := p.draws.hostNames + 1
            environments := p.draws.environments + 1 } }, []⟩ := by
  have hempty : name.isEmpty = false := by simpa using hne
  simp only [compute, resolveHostName, Act.bind_apply, Act.attempt_apply,
    Platform.lookUpHostName, Act.andThen_ok, hname, hempty, Act.pure_apply,
    Act.ofExcept_apply, hhost, Act.state_apply, Platform.readEnvironment, hsettings,
    List.append_nil, if_false, Bool.false_eq_true]

/-- A platform can answer if its host name and its environment have encodings. -/
theorem computable_iff (p : Platform) :
    Computable p ↔
      (∃ name host, hostText p = .ok name ∧ Environment.encode name = .ok host) ∧
        ∃ settings, Environment.serialize p.environment = .ok settings := by
  unfold Computable
  rw [answer_compute]
  constructor
  · rintro ⟨bytes, hbytes⟩
    obtain ⟨name, hname, hassemble⟩ := Except.bind_eq_ok_iff.mp hbytes
    rw [assemble] at hassemble
    obtain ⟨host, hhost, hrest⟩ := Except.bind_eq_ok_iff.mp hassemble
    obtain ⟨settings, hsettings, -⟩ := Except.bind_eq_ok_iff.mp hrest
    exact ⟨⟨name, host, hname, hhost⟩, settings, hsettings⟩
  · rintro ⟨⟨name, host, hname, hhost⟩, settings, hsettings⟩
    refine ⟨host ++ Bytes.pack32 p.processId ++ settings, ?_⟩
    rw [hname]
    show assemble p name = _
    rw [assemble, hhost, hsettings]
    rfl

/-- The random digits that stand in for a name have an encoding, whichever they
are. -/
theorem exists_host_iff (p : Platform) :
    (∃ name host, hostText p = .ok name ∧ Environment.encode name = .ok host) ↔
      match p.hostName with
      | .error fault => fault.isSystemRefusal = true
      | .ok name => name = [] ∨ ∃ host, Environment.encode name = .ok host := by
  have hrandom :=
    Environment.encode_of_encodable (Bytes.encodable_hex (p.upcoming substituteBytes))
  unfold hostText
  cases p.hostName with
  | error fault =>
      dsimp only
      by_cases hrefusal : fault.isSystemRefusal = true
      · rw [if_pos hrefusal]
        exact iff_of_true ⟨_, _, rfl, hrandom⟩ hrefusal
      · rw [if_neg hrefusal]
        refine iff_of_false ?_ hrefusal
        rintro ⟨name, host, hname, -⟩
        cases hname
  | ok name =>
      dsimp only
      cases name with
      | nil => exact iff_of_true ⟨_, _, rfl, hrandom⟩ (Or.inl rfl)
      | cons c rest =>
          constructor
          · rintro ⟨name, host, hname, hhost⟩
            obtain rfl := Except.ok.inj hname
            exact Or.inr ⟨host, hhost⟩
          · rintro (hnil | ⟨host, hhost⟩)
            · cases hnil
            · exact ⟨c :: rest, host, rfl, hhost⟩

/-- Whether a platform can answer depends on what it says of its host alone. -/
theorem Computable.of_sameHost {p q : Platform} (hpq : q.SameHost p) :
    Computable q ↔ Computable p := by
  rw [computable_iff, computable_iff, exists_host_iff, exists_host_iff, hpq.hostName,
    hpq.environment]

end Fingerprint

/-! ## Timing -/

namespace Stopwatch

variable {σ α : Type} {read : Act σ Float} {act : Act σ α} {s t u v : σ}
  {before after : Float} {entries : List Entry}

/-- Timing adds two readings of the watch to an operation, and an entry to its
journal. -/
theorem timed_of_ok {a : α} (operation : Text) (patience : Float)
    (hbefore : read s = ⟨.ok before, t, []⟩) (hact : act t = ⟨.ok a, u, entries⟩)
    (hafter : read u = ⟨.ok after, v, []⟩) :
    ∃ journal, timed read operation patience act s = ⟨.ok a, v, journal⟩ := by
  simp only [timed, Act.bind_apply, hbefore, Act.andThen_ok, Act.attempt_apply, hact,
    hafter, Act.note_apply, Act.pure_apply]
  exact ⟨_, rfl⟩

theorem timed_of_error {fault : Fault} (operation : Text) (patience : Float)
    (hbefore : read s = ⟨.ok before, t, []⟩) (hact : act t = ⟨.error fault, u, entries⟩)
    (hafter : read u = ⟨.ok after, v, []⟩) :
    ∃ journal, timed read operation patience act s = ⟨.error fault, v, journal⟩ := by
  simp only [timed, Act.bind_apply, hbefore, Act.andThen_ok, Act.attempt_apply, hact,
    hafter, Act.note_apply, Act.fail_apply]
  exact ⟨_, rfl⟩

end Stopwatch

namespace World

/-- The world once its stopwatch has been read. -/
def watched (w : World) : World :=
  { w with stopwatch := { w.stopwatch with position := w.stopwatch.position + 1 } }

theorem readStopwatch_apply (w : World) :
    readStopwatch w = ⟨.ok (w.stopwatch.reading w.stopwatch.position), w.watched, []⟩ :=
  rfl

/-- The world once the platform at a place has been asked for a fingerprint. -/
def asked (w : World) (i : Nat) : World :=
  (w.watched.setPlatform i (Fingerprint.compute (w.platform i)).state).watched

theorem fingerprint_of_some {w : World} {s : Nat} {f : Bytes}
    (h : (w.state s).fingerprint = some f) : fingerprint s w = ⟨.ok f, w, []⟩ := by
  simp only [fingerprint, Act.bind_apply, Act.state_apply, Act.andThen_ok, h,
    Act.pure_apply, List.append_nil]

theorem fingerprint_of_none {w : World} {s : Nat} (h : (w.state s).fingerprint = none) :
    fingerprint s w = setUpFingerprint s w := by
  simp only [fingerprint, Act.bind_apply, Act.state_apply, Act.andThen_ok, h,
    List.nil_append]

/-- A state without a fingerprint takes what its platform answers, and keeps it. -/
theorem fingerprint_of_answer {w : World} {s : Nat} {f : Bytes}
    (h : (w.state s).fingerprint = none)
    (hanswer : (Fingerprint.compute (w.platform (w.state s).platform)).answer = .ok f) :
    ∃ journal, fingerprint s w =
      ⟨.ok f, (w.asked (w.state s).platform).setState s
        { w.state s with fingerprint := some f }, journal⟩ := by
  have hact : onPlatform (w.state s).platform Fingerprint.compute w.watched =
      ⟨.ok f, w.watched.setPlatform (w.state s).platform
        (Fingerprint.compute (w.platform (w.state s).platform)).state,
        (Fingerprint.compute (w.platform (w.state s).platform)).entries⟩ := by
    rw [← hanswer]
    rfl
  obtain ⟨journal, htimed⟩ :=
    Stopwatch.timed_of_ok "fingerprint_compute" Stopwatch.defaultPatience
      (readStopwatch_apply w) hact (readStopwatch_apply _)
  rw [fingerprint_of_none h]
  simp only [setUpFingerprint, Act.bind_apply, Act.state_apply, Act.andThen_ok, htimed,
    Act.note_apply, Act.change_apply, Act.pure_apply]
  exact ⟨_, rfl⟩

/-- A fingerprint that cannot be computed is a fault, and nothing is kept. -/
theorem fingerprint_of_fault {w : World} {s : Nat} {fault : Fault}
    (h : (w.state s).fingerprint = none)
    (hanswer :
      (Fingerprint.compute (w.platform (w.state s).platform)).answer = .error fault) :
    ∃ journal,
      fingerprint s w = ⟨.error fault, w.asked (w.state s).platform, journal⟩ := by
  have hact : onPlatform (w.state s).platform Fingerprint.compute w.watched =
      ⟨.error fault, w.watched.setPlatform (w.state s).platform
        (Fingerprint.compute (w.platform (w.state s).platform)).state,
        (Fingerprint.compute (w.platform (w.state s).platform)).entries⟩ := by
    rw [← hanswer]
    rfl
  obtain ⟨journal, htimed⟩ := Stopwatch.timed_of_error "fingerprint_compute"
    Stopwatch.defaultPatience (readStopwatch_apply w) hact (readStopwatch_apply _)
  rw [fingerprint_of_none h]
  simp only [setUpFingerprint, Act.bind_apply, Act.state_apply, Act.andThen_ok, htimed,
    Act.andThen_error, List.nil_append]
  exact ⟨_, rfl⟩

/-- A state without a fingerprint gives what its platform answers. -/
theorem answer_fingerprint_of_none {w : World} {s : Nat} (h : (w.state s).fingerprint = none) :
    (fingerprint s w).answer =
      (Fingerprint.compute (w.platform (w.state s).platform)).answer := by
  cases hanswer : (Fingerprint.compute (w.platform (w.state s).platform)).answer with
  | ok f =>
      obtain ⟨journal, hrun⟩ := fingerprint_of_answer h hanswer
      rw [hrun]
  | error fault =>
      obtain ⟨journal, hrun⟩ := fingerprint_of_fault h hanswer
      rw [hrun]

/-- Whether it gives a fingerprint or a fault, its platform has been asked for one. -/
theorem platforms_fingerprint_of_none {w : World} {s : Nat}
    (h : (w.state s).fingerprint = none) :
    (fingerprint s w).state.platforms = (w.asked (w.state s).platform).platforms := by
  cases hanswer : (Fingerprint.compute (w.platform (w.state s).platform)).answer with
  | ok f =>
      obtain ⟨journal, hrun⟩ := fingerprint_of_answer h hanswer
      rw [hrun]
      rfl
  | error fault =>
      obtain ⟨journal, hrun⟩ := fingerprint_of_fault h hanswer
      rw [hrun]

/-- What a state gives is what it keeps; where it gives a fault, it keeps nothing. -/
theorem kept_fingerprint {w : World} {s : Nat} (hs : s < w.states.length) :
    ((fingerprint s w).state.state s).fingerprint = (fingerprint s w).answer.toOption := by
  cases hprint : (w.state s).fingerprint with
  | some f =>
      rw [fingerprint_of_some hprint]
      exact hprint
  | none =>
      cases hanswer : (Fingerprint.compute (w.platform (w.state s).platform)).answer with
      | ok f =>
          obtain ⟨journal, hrun⟩ := fingerprint_of_answer hprint hanswer
          rw [hrun]
          exact congrArg GeneratorState.fingerprint (state_setState_self _ hs)
      | error fault =>
          obtain ⟨journal, hrun⟩ := fingerprint_of_fault hprint hanswer
          rw [hrun]
          exact hprint

/-- A state has a fingerprint, or its platform can answer with one. -/
def HasFingerprint (w : World) (s : Nat) : Prop :=
  (∃ f, (w.state s).fingerprint = some f) ∨
    Fingerprint.Computable (w.platform (w.state s).platform)

theorem HasFingerprint.answer {w : World} {s : Nat} (h : w.HasFingerprint s) :
    ∃ f v journal, fingerprint s w = ⟨.ok f, v, journal⟩ := by
  cases hcached : (w.state s).fingerprint with
  | some f => exact ⟨f, w, [], fingerprint_of_some hcached⟩
  | none =>
      rcases h with ⟨f, hf⟩ | ⟨f, hf⟩
      · rw [hcached] at hf
        cases hf
      · obtain ⟨journal, hrun⟩ := fingerprint_of_answer hcached hf
        exact ⟨f, _, journal, hrun⟩

/-- Reading the clock and counting leave a state its platform and its
fingerprint. -/
theorem rest_counted (w : World) (g s : Nat) :
    ((w.counted g).state s).platform = (w.state s).platform ∧
      ((w.counted g).state s).fingerprint = (w.state s).fingerprint := by
  obtain ⟨hplatform, hprint⟩ :=
    rest_leaveCount ((w.clockRead g).seeded (w.generator g).state)
      (w.generator g).state s
      (counterAfter ((w.clockRead g).upcomingCount (w.generator g).state))
  rw [state_seeded, state_clockRead] at hplatform hprint
  exact ⟨hplatform, hprint⟩

theorem sameHost_counted (w : World) (g i : Nat) :
    ((w.counted g).platform i).SameHost (w.platform i) := by
  have hseeded := sameHost_seeded (w.clockRead g) (w.generator g).state i
  rw [platform_clockRead] at hseeded
  exact hseeded

/-- Reading the clock and counting leave the fingerprint within reach, or out of
it. -/
theorem hasFingerprint_counted {w : World} {g s : Nat} :
    (w.counted g).HasFingerprint s ↔ w.HasFingerprint s := by
  obtain ⟨hplatform, hprint⟩ := rest_counted w g s
  rw [HasFingerprint, HasFingerprint, hplatform, hprint,
    Fingerprint.Computable.of_sameHost (sameHost_counted w g _)]

/-- Where the fingerprint is within reach, nothing keeps a draft from being
gathered. -/
theorem HasFingerprint.gather {w : World} {g : Nat}
    (h : w.HasFingerprint (w.generator g).state)
    (length : Length) : ∃ d v entries, World.gather g length w = ⟨.ok d, v, entries⟩ := by
  obtain ⟨f, v, entries, hprint⟩ := (hasFingerprint_counted.mpr h).answer
  exact ⟨_, _, _, gather_of_ok length hprint⟩

end World

end IdMint
