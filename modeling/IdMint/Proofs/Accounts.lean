import IdMint.Proofs.Indifference
import IdMint.Proofs.Tallies

/-!
# The journal as an account of what has been done

Whoever reads the journal of a call learns what the call has done, and whoever knows what it
has done knows the journal, but for the times in it.  `World.Accounts` says so event by
event: a seeding stands for a random integer, a host name that was looked up in vain for
eight random bytes, the two entries about a fingerprint for a state that has got one, the one
about a failed computation for a fault that has been passed on, and the last two kinds for
the two kinds of failure that callers are promised.

A journal has four parts, one after the other, and no event belongs to two of them
(`World.Records`).  What has been drawn is not read off the journal but counted by the
platforms, and the two are compared (`World.tallies_perform`).
-/

namespace IdMint

/-- The entries of a journal about one of some events. -/
def noted (events : List Text) (entries : List Entry) : List Entry :=
  entries.filter fun entry => decide (entry.event ∈ events)

section Noted

variable {events own : List Text} {entries more : List Entry}

theorem noted_append (events : List Text) (entries more : List Entry) :
    noted events (entries ++ more) = noted events entries ++ noted events more :=
  List.filter_append _ _

theorem noted_of_forall (h : ∀ entry ∈ entries, entry.event ∈ events) :
    noted events entries = entries := by
  rw [noted, List.filter_eq_self]
  simpa using h

theorem noted_of_apart (h : ∀ entry ∈ entries, entry.event ∈ own)
    (hapart : ∀ event ∈ own, event ∉ events) : noted events entries = [] := by
  rw [noted, List.filter_eq_nil_iff]
  intro entry hentry
  simpa using hapart _ (h entry hentry)

theorem seedings_eq_length (entries : List Entry) :
    seedings entries = (noted ["counter_seeded"] entries).length := by
  simp [seedings, noted, List.countP_eq_length_filter]

end Noted

/-- The events of the computation of a fingerprint. -/
def computationEvents : List Text :=
  ["fingerprint_compute completed", "fingerprint_ready", "fingerprint_compute failed"]

/-- The event of a kind of failure that callers are promised. -/
def FailureKind.event : FailureKind → Text
  | invalidArgument => "length_rejected"
  | cryptoFailure => "crypto_failure"

/-- The events of failures that callers are promised. -/
def failureEvents : List Text := ["length_rejected", "crypto_failure"]

/-! ## What a call has done -/

/-- The length that a step asks for, if it is a request. -/
def Step.length? : Step → Option Value
  | tryGenerate _ length | generate _ length => some (requestedLength length)
  | _ => none

theorem Platform.lackEntries_of_sameHost {p q : Platform} (h : p.SameHost q) :
    p.lackEntries = q.lackEntries := by
  unfold lackEntries lack?
  rw [h.hostName]

namespace World

/-- The platform of the state that a step is about. -/
def host (w : World) (step : Step) : Platform :=
  w.platform (w.state (w.generator step.subject).state).platform

/-- What came of the computation of a fingerprint, if a step has started one: it has if it
needs a fingerprint and there is none yet. -/
def computed? (w : World) (step : Step) : Option (Except Fault Bytes) :=
  match (w.state (w.generator step.subject).state).fingerprint with
  | some _ => none
  | none => w.usedFingerprint step

theorem computed?_eq_some_iff {w : World} {step : Step} {used : Except Fault Bytes} :
    w.computed? step = some used ↔
      (w.state (w.generator step.subject).state).fingerprint = none ∧
        w.usedFingerprint step = some used := by
  rw [computed?]
  cases (w.state (w.generator step.subject).state).fingerprint <;> simp

theorem computed?_of_unused {w : World} {step : Step} (h : w.usedFingerprint step = none) :
    w.computed? step = none := by
  rw [computed?, h]
  split <;> rfl

/-- The outcome of a request, of either kind. -/
def outcome? (w : World) : Step → Option Outcome
  | .tryGenerate g length | .generate g length =>
    (tryGenerate g (requestedLength length) w).answer.toOption
  | _ => none

/-- What is noted down about the host name, by a step that computes a fingerprint. -/
def hostEntries (w : World) (step : Step) : List Entry :=
  match w.computed? step with
  | some _ => (w.host step).lackEntries
  | none => []

/-- What is noted down about the computation of a fingerprint, between two readings of the
watch. -/
def computationEntries (before after : Float) : Option (Except Fault Bytes) → List Entry
  | some used =>
    Stopwatch.entry "fingerprint_compute" Stopwatch.defaultPatience before after used ::
      readyEntries used
  | none => []

/-- What is noted down about an outcome, and about the length that was asked for if the
outcome says that it is not acceptable. -/
def outcomeEntries (shown : Text) : Option Outcome → List Entry
  | some outcome =>
    match outcome.error with
    | some .invalidArgument => [⟨.debug, "length_rejected", [("length", .text shown)]⟩]
    | some .cryptoFailure =>
      [⟨.error, "crypto_failure", [("error", .text (outcome.message.getD []))]⟩]
    | none => []
  | none => []

section Events

variable {entry : Entry}

theorem event_of_mem_hostEntries {w : World} {step : Step} (h : entry ∈ w.hostEntries step) :
    entry.event ∈ (["hostname_lookup_failed"] : List Text) := by
  unfold hostEntries Platform.lackEntries at h
  split at h
  · split at h
    · rw [List.mem_singleton.mp h]
      exact List.mem_singleton_self _
    · cases h
  · cases h

theorem event_of_mem_computationEntries {before after : Float}
    {computed : Option (Except Fault Bytes)}
    (h : entry ∈ computationEntries before after computed) :
    entry.event ∈ computationEvents := by
  rcases computed with _ | fault | f
  · cases h
  · rw [List.mem_singleton.mp h]
    show ("fingerprint_compute" : Text) ++ (" failed" : Text) ∈ computationEvents
    decide
  · rcases List.mem_pair.mp h with rfl | rfl
    · show ("fingerprint_compute" : Text) ++ (" completed" : Text) ∈ computationEvents
      decide
    · show ("fingerprint_ready" : Text) ∈ computationEvents
      decide

theorem event_of_mem_outcomeEntries {shown : Text} {outcome : Option Outcome}
    (h : entry ∈ outcomeEntries shown outcome) : entry.event ∈ failureEvents := by
  unfold outcomeEntries at h
  split at h
  · split at h
    · rw [List.mem_singleton.mp h]
      exact List.mem_cons_self
    · rw [List.mem_singleton.mp h]
      exact List.mem_cons_of_mem _ List.mem_cons_self
    · cases h
  · cases h

/-- An outcome is noted down as what it is. -/
theorem noted_outcomeEntries_of_ne {shown : Text} {found : Option Outcome} (kind : FailureKind)
    (h : ∀ outcome, found = some outcome → outcome.error ≠ some kind) :
    noted [kind.event] (outcomeEntries shown found) = [] := by
  rcases found with _ | outcome
  · rfl
  · rw [outcomeEntries]
    cases herror : outcome.error with
    | none => rfl
    | some own => cases kind <;> cases own <;> first | rfl | exact absurd herror (h outcome rfl)

theorem eq_of_mem_seedEntries {w : World} {s : Nat} (h : entry ∈ w.seedEntries s) :
    entry = ⟨.debug, "counter_seeded", []⟩ := by
  unfold seedEntries at h
  split at h
  · cases h
  · exact List.mem_singleton.mp h

end Events

/-! ## The parts of a journal -/

/-- A state without a fingerprint notes down why there is no host name, if there is none, and
what came of the computation. -/
theorem fingerprintEntries_of_none {w : World} {s : Nat}
    (h : (w.state s).fingerprint = none) :
    ∃ before after, w.fingerprintEntries s =
      (w.platform (w.state s).platform).lackEntries ++
        computationEntries before after (some (fingerprint s w).answer) := by
  refine ⟨w.stopwatch.reading w.stopwatch.position,
    w.stopwatch.reading (w.stopwatch.position + 1), ?_⟩
  rw [answer_fingerprint_of_none h, fingerprintEntries, h]
  exact List.append_assoc _ _ _

/-- What a step notes down about the fingerprint, if it gets at it in a world that differs in
the counters only. -/
theorem fingerprintEntries_eq {w v : World} {step : Step} {s : Nat}
    (hs : (w.generator step.subject).state = s)
    (hrest : (v.state s).platform = (w.state s).platform ∧
      (v.state s).fingerprint = (w.state s).fingerprint)
    (hhosts : ∀ i, (v.platform i).SameHost (w.platform i))
    (hused : w.usedFingerprint step = some (fingerprint s v).answer) :
    ∃ before after, v.fingerprintEntries s =
      w.hostEntries step ++ computationEntries before after (w.computed? step) := by
  subst hs
  obtain ⟨hplatform, hprint⟩ := hrest
  cases hcached : (w.state (w.generator step.subject).state).fingerprint with
  | some f =>
      have hnone : w.computed? step = none := by
        rw [computed?, hcached]
      refine ⟨0, 0, ?_⟩
      rw [fingerprintEntries, hprint, hcached, hostEntries, hnone]
      rfl
  | none =>
      have hcomputed : w.computed? step =
          some (fingerprint (w.generator step.subject).state v).answer := by
        rw [computed?, hcached, hused]
      obtain ⟨before, after, hentries⟩ := fingerprintEntries_of_none (hprint.trans hcached)
      refine ⟨before, after, ?_⟩
      rw [hentries, hplatform, Platform.lackEntries_of_sameHost (hhosts _), hostEntries, hcomputed]
      rfl

theorem conclusionEntries_eq (shown : Text) (made : Except Fault Text) :
    conclusionEntries made = outcomeEntries shown (Identifier.conclusion made).toOption := by
  rcases made with fault | identifier
  · cases fault <;> rfl
  · rfl

/-- The journal of a step: what is noted down about the counter, about the host name, about
the fingerprint, and about the outcome. -/
structure Records (w : World) (step : Step) (counter : List Entry) (before after : Float)
    (shown : Text) (entries : List Entry) : Prop where
  eq : entries = counter ++ w.hostEntries step ++
    computationEntries before after (w.computed? step) ++ outcomeEntries shown (w.outcome? step)
  seeded : ∀ entry ∈ counter, entry = ⟨.debug, "counter_seeded", []⟩
  /-- Nothing else is noted down where a length is turned down. -/
  rejected : ∀ outcome, w.outcome? step = some outcome → outcome.error = some .invalidArgument →
    counter = [] ∧ w.computed? step = none ∧
      ∃ length, step.length? = some length ∧ length.literal = .ok shown

namespace Records

variable {w : World} {step : Step} {counter entries : List Entry} {before after : Float}
  {shown : Text}

theorem event_of_mem_counter (h : w.Records step counter before after shown entries)
    {entry : Entry} (hentry : entry ∈ counter) :
    entry.event ∈ (["counter_seeded"] : List Text) := by
  rw [h.seeded entry hentry]
  exact List.mem_singleton_self _

theorem noted_eq (h : w.Records step counter before after shown entries) (events : List Text) :
    noted events entries = noted events counter ++ noted events (w.hostEntries step) ++
      noted events (computationEntries before after (w.computed? step)) ++
      noted events (outcomeEntries shown (w.outcome? step)) := by
  rw [h.eq, noted_append, noted_append, noted_append]

theorem noted_counter (h : w.Records step counter before after shown entries) :
    noted ["counter_seeded"] entries = counter := by
  rw [h.noted_eq, noted_of_forall fun _ => h.event_of_mem_counter,
    noted_of_apart (fun _ => event_of_mem_hostEntries) (by decide),
    noted_of_apart (fun _ => event_of_mem_computationEntries) (by decide),
    noted_of_apart (fun _ => event_of_mem_outcomeEntries) (by decide)]
  simp

theorem noted_host (h : w.Records step counter before after shown entries) :
    noted ["hostname_lookup_failed"] entries = w.hostEntries step := by
  rw [h.noted_eq, noted_of_apart (fun _ => h.event_of_mem_counter) (by decide),
    noted_of_forall fun _ => event_of_mem_hostEntries,
    noted_of_apart (fun _ => event_of_mem_computationEntries) (by decide),
    noted_of_apart (fun _ => event_of_mem_outcomeEntries) (by decide)]
  simp

theorem noted_computation (h : w.Records step counter before after shown entries) :
    noted computationEvents entries = computationEntries before after (w.computed? step) := by
  rw [h.noted_eq, noted_of_apart (fun _ => h.event_of_mem_counter) (by decide),
    noted_of_apart (fun _ => event_of_mem_hostEntries) (by decide),
    noted_of_forall fun _ => event_of_mem_computationEntries,
    noted_of_apart (fun _ => event_of_mem_outcomeEntries) (by decide)]
  simp

/-- Failures are noted down at the end, each of the two kinds on its own. -/
theorem noted_outcome (h : w.Records step counter before after shown entries)
    (events : List Text) (hevents : ∀ event ∈ events, event ∈ failureEvents) :
    noted events entries = noted events (outcomeEntries shown (w.outcome? step)) := by
  have hapart : ∀ own : List Text, (∀ event ∈ own, event ∉ failureEvents) →
      ∀ event ∈ own, event ∉ events := fun own howned event hown hevent =>
    howned event hown (hevents event hevent)
  rw [h.noted_eq, noted_of_apart (fun _ => h.event_of_mem_counter) (hapart _ (by decide)),
    noted_of_apart (fun _ => event_of_mem_hostEntries) (hapart _ (by decide)),
    noted_of_apart (fun _ => event_of_mem_computationEntries) (hapart _ (by decide))]
  simp

end Records

/-- A request that is turned down has noted down the length and nothing else, or nothing at all
if the length cannot be written. -/
theorem exists_records_of_rejection (w : World) (g : Nat) {length : Option Value}
    {rejection : Length.Rejection}
    (hlength : Length.ofValue (requestedLength length) = .error rejection) :
    ∃ shown, w.Records (.tryGenerate g length) [] 0 0 shown
      (w.requestEntries g (requestedLength length)) := by
  have hnone : w.computed? (.tryGenerate g length) = none := by
    apply computed?_of_unused
    simp only [usedFingerprint, hlength]
  have houtcome : w.outcome? (.tryGenerate g length) =
      (rejection.message.bind fun message => (requestedLength length).literal.map fun _ =>
        Outcome.failure .invalidArgument message).toOption := by
    rw [outcome?, tryGenerate_of_error g hlength, answer_reject]
  have hjournal : w.requestEntries g (requestedLength length) =
      rejectionEntries (requestedLength length) rejection := by
    rw [requestEntries, hlength]
  cases hshown : (requestedLength length).literal with
  | error fault =>
      have hfails : w.outcome? (.tryGenerate g length) = none := by
        rw [houtcome, hshown]
        cases rejection.message <;> rfl
      refine ⟨[], ?_, by simp, by simp [hfails]⟩
      rw [hjournal, hfails, hnone, hostEntries, hnone, rejectionEntries, hshown]
      cases rejection.message <;> rfl
  | ok shown =>
      refine ⟨shown, ?_, by simp, fun outcome _ _ => ⟨rfl, hnone, _, rfl, hshown⟩⟩
      rw [hjournal, houtcome, hshown, hnone, hostEntries, hnone, rejectionEntries, hshown]
      cases rejection.message <;> rfl

/-- An accepted one has noted down what the counter, the fingerprint and the hashing come to. -/
theorem exists_records_of_acceptance (w : World) (g : Nat) {length : Option Value} {n : Length}
    (hlength : Length.ofValue (requestedLength length) = .ok n) :
    ∃ before after, w.Records (.tryGenerate g length)
      ((w.clockRead g).seedEntries (w.generator g).state) before after []
      (w.requestEntries g (requestedLength length)) := by
  have hused : w.usedFingerprint (.tryGenerate g length) =
      some (fingerprint (w.generator g).state (w.counted g)).answer := by
    simp only [usedFingerprint, hlength, (request_of_counted n).1]
  have hsubject : (w.generator (Step.tryGenerate g length).subject).state =
      (w.generator g).state := rfl
  obtain ⟨before, after, hprint⟩ :=
    fingerprintEntries_eq hsubject (rest_counted w g _) (sameHost_counted w g) hused
  have houtcome : w.outcome? (.tryGenerate g length) =
      (generateAccepted g n w).answer.toOption := by
    rw [outcome?, tryGenerate_of_ok g hlength]
  refine ⟨before, after, ?_, fun _ => eq_of_mem_seedEntries, fun outcome hsome herror => ?_⟩
  · rw [requestEntries, hlength, houtcome, answer_generateAccepted, gatherEntries, hprint]
    dsimp only
    rw [← List.append_assoc]
    cases (gather g n w).answer with
    | error fault => rfl
    | ok d => exact congrArg _ (conclusionEntries_eq [] _)
  · rw [houtcome] at hsome
    rcases isConclusion_of_generateAccepted (Except.toOption_eq_some_iff.mp hsome) with
      ⟨t, rfl⟩ | ⟨message, rfl⟩ <;> cases herror

theorem exists_records_request (w : World) (g : Nat) (length : Option Value) :
    ∃ counter before after shown, w.Records (.tryGenerate g length) counter before after shown
      (w.requestEntries g (requestedLength length)) := by
  cases hlength : Length.ofValue (requestedLength length) with
  | error rejection =>
      obtain ⟨shown, hrecords⟩ := exists_records_of_rejection w g hlength
      exact ⟨_, _, _, shown, hrecords⟩
  | ok n =>
      obtain ⟨before, after, hrecords⟩ := exists_records_of_acceptance w g hlength
      exact ⟨_, before, after, _, hrecords⟩

/-- Nothing but seedings of a counter is noted down, and the fingerprint of a state stays as it
is. -/
structure CountsOnly (s : Nat) (w w' : World) (entries : List Entry) : Prop where
  fingerprint : (w'.state s).fingerprint = (w.state s).fingerprint
  seeded : ∀ entry ∈ entries, entry = ⟨.debug, "counter_seeded", []⟩

theorem cumulative_countsOnly (s : Nat) :
    Act.Cumulative (fun _ => True) (CountsOnly s) where
  refl _ _ := ⟨rfl, by simp⟩
  trans h h' := ⟨h'.fingerprint.trans h.fingerprint, fun entry hentry =>
    (List.mem_append.mp hentry).elim (h.seeded entry) (h'.seeded entry)⟩
  stays _ _ := trivial

theorem countsOnly_nextCount (s t : Nat) (w : World) :
    CountsOnly s w (nextCount t w).state (nextCount t w).entries := by
  rw [nextCount_apply]
  refine ⟨?_, fun _ => eq_of_mem_seedEntries⟩
  rw [(rest_leaveCount _ _ _ _).2, state_seeded]

/-- A call that needs no fingerprint and is no request takes values of a counter. -/
theorem countsOnly_perform {step : Step} (h : step.IsCall) {w : World}
    (hlength : step.length? = none) (hunused : w.usedFingerprint step = none) (s : Nat) :
    CountsOnly s w (perform step w).state (perform step w).entries := by
  have hR := cumulative_countsOnly s
  have hturn : ∀ v : World, True → (nextCount (v.generator step.subject).state).Obeys
      (fun _ => True) (CountsOnly s) := fun v _ u _ => countsOnly_nextCount s _ u
  cases step with
  | nextCounts g times => exact obeys_nextCounts hR hturn times w trivial
  | nextCountsInThreads g threads calls =>
      exact obeys_nextCountsInThreads hR hturn threads calls w trivial
  | tryGenerate | generate => cases hlength
  | fingerprint => cases hunused
  | setCounter | changePlatform | setClock | setPrimitive | generateInThreads => exact absurd h id

theorem records_of_counts {step : Step} (h : step.IsCall) {w : World}
    (hlength : step.length? = none) (hunused : w.usedFingerprint step = none)
    (houtcome : w.outcome? step = none) :
    w.Records step (perform step w).entries 0 0 [] (perform step w).entries := by
  have hnone := computed?_of_unused hunused
  refine ⟨?_, (countsOnly_perform h hlength hunused 0).seeded, by simp [houtcome]⟩
  rw [hostEntries, hnone, houtcome]
  simp [computationEntries, outcomeEntries]

/-- Every call has noted down what a journal of its kind consists of. -/
theorem exists_records {step : Step} (h : step.IsCall) (w : World) :
    ∃ counter before after shown,
      w.Records step counter before after shown (perform step w).entries := by
  cases step with
  | tryGenerate g length =>
      rw [perform, Act.map_apply]
      dsimp only
      rw [entries_tryGenerate]
      exact exists_records_request w g length
  | generate g length =>
      rw [perform, Act.map_apply]
      dsimp only
      rw [entries_generate]
      obtain ⟨counter, before, after, shown, hrecords⟩ := exists_records_request w g length
      exact ⟨counter, before, after, shown, hrecords.eq, hrecords.seeded, hrecords.rejected⟩
  | nextCounts | nextCountsInThreads => exact ⟨_, _, _, _, records_of_counts h rfl rfl rfl⟩
  | fingerprint g =>
      have hsubject : (w.generator (Step.fingerprint g).subject).state = (w.generator g).state :=
        rfl
      obtain ⟨before, after, hprint⟩ :=
        fingerprintEntries_eq hsubject ⟨rfl, rfl⟩ (fun i => .refl _) rfl
      refine ⟨[], before, after, [], ?_, by simp, by simp [outcome?]⟩
      rw [perform, Act.bind_apply, Act.state_apply, Act.andThen_ok, Act.map_apply]
      dsimp only
      rw [entries_fingerprint, hprint]
      exact (List.append_nil _).symm
  | setCounter | changePlatform | setClock | setPrimitive | generateInThreads => exact absurd h id

/-! ## Fingerprints and outcomes of a call -/

section Calls

variable {w : World} {step : Step}

/-- A call that needs no fingerprint sets none. -/
theorem fingerprint_perform_of_unused (h : step.IsCall) (hunused : w.usedFingerprint step = none)
    (s : Nat) : ((perform step w).state.state s).fingerprint = (w.state s).fingerprint := by
  have hrejected : ∀ g length, w.usedFingerprint (.tryGenerate g length) = none →
      (tryGenerate g (requestedLength length) w).state = w := by
    intro g length hnone
    rw [usedFingerprint] at hnone
    split at hnone
    · cases hnone
    · next hlength => rw [tryGenerate_of_error g hlength, state_reject]
  cases step with
  | tryGenerate g length =>
      rw [perform, Act.map_apply]
      dsimp only
      rw [hrejected g length hunused]
  | generate g length =>
      rw [perform, Act.map_apply]
      dsimp only
      rw [state_generate, hrejected g length hunused]
  | _ => exact (countsOnly_perform h rfl hunused s).fingerprint

/-- The state of a generator gets a fingerprint where one is computed, and nowhere else. -/
theorem setUp_iff (h : step.IsCall) {s : Nat} (hw : w.HasState s)
    (hs : (w.generator step.subject).state = s) (f : Bytes) :
    (w.state s).fingerprint = none ∧ ((perform step w).state.state s).fingerprint = some f ↔
      w.computed? step = some (.ok f) := by
  rw [computed?, hs]
  cases hprint : (w.state s).fingerprint with
  | some own => simp
  | none =>
      cases hused : w.usedFingerprint step with
      | none => simp [fingerprint_perform_of_unused h hused, hprint]
      | some used =>
          rw [(used_of_none hw hs hprint hused).2.1, Except.toOption_eq_some_iff]
          simp

theorem exists_message_of_outcome? {outcome : Outcome} (h : w.outcome? step = some outcome)
    (hcrypto : outcome.error = some .cryptoFailure) :
    ∃ message, outcome.message = some message := by
  have hrequest : ∀ g v, (tryGenerate g v w).answer = .ok outcome →
      ∃ message, outcome.message = some message := by
    intro g v hanswer
    cases hlength : Length.ofValue v with
    | error rejection =>
        rw [tryGenerate_of_error g hlength] at hanswer
        obtain ⟨message, rfl⟩ := eq_failure_of_reject hanswer
        exact ⟨message, rfl⟩
    | ok n =>
        rw [tryGenerate_of_ok g hlength] at hanswer
        rcases isConclusion_of_generateAccepted hanswer with ⟨t, rfl⟩ | ⟨message, rfl⟩
        · cases hcrypto
        · exact ⟨message, rfl⟩
  cases step with
  | tryGenerate g length | generate g length =>
      exact hrequest g _ (Except.toOption_eq_some_iff.mp h)
  | _ => cases h

/-- A request answers with its outcome, or unwrapped; it fails if it has none. -/
theorem answer_perform_request {length : Value} (h : step.length? = some length) :
    (∃ outcome, w.outcome? step = some outcome ∧
        (perform step w).answer = step.report outcome) ∨
      w.outcome? step = none ∧ ∃ fault, (perform step w).answer = .error fault := by
  cases step with
  | tryGenerate g asked =>
      rw [perform, Act.map_apply, outcome?]
      cases (tryGenerate g (requestedLength asked) w).answer with
      | error fault => exact Or.inr ⟨rfl, fault, rfl⟩
      | ok outcome => exact Or.inl ⟨outcome, rfl, rfl⟩
  | generate g asked =>
      rw [perform, Act.map_apply, outcome?, answer_generate]
      cases (tryGenerate g (requestedLength asked) w).answer with
      | error fault => exact Or.inr ⟨rfl, fault, rfl⟩
      | ok outcome => exact Or.inl ⟨outcome, rfl, rfl⟩
  | _ => cases h

theorem seedings_perform_le (hw : w.HasState (w.generator step.subject).state) :
    seedings (perform step w).entries ≤ 1 := by
  by_cases htakes : step.TakesCount
  · have hseedings := seedings_perform hw rfl htakes
    omega
  · rw [show seedings (perform step w).entries = 0 from seedsNothing_perform htakes w trivial]
    exact Nat.zero_le 1

end Calls

/-! ## The journal of a call -/

/-- A generator whose state and whose platform exist. -/
structure HasGenerator (w : World) (g : Nat) : Prop where
  hasState : w.HasState (w.generator g).state
  platform_lt : (w.generator g).platform < w.platforms.length

/-- What the run of a step says and has done agree, for the state and the platforms of the
generator that it is about. -/
structure Accounts (w : World) (step : Step) (r : Run World StepResult) : Prop where
  /-- Nothing else is noted down, and it is noted down in this order. -/
  order : r.entries = noted ["counter_seeded"] r.entries ++
    noted ["hostname_lookup_failed"] r.entries ++ noted computationEvents r.entries ++
    noted failureEvents r.entries
  /-- A seeding is noted down whenever the platform of the state has been asked for a random
  integer, which counts as a request for random bytes if it is made of them. -/
  seeded : seedings r.entries ≤ 1 ∧ noted ["counter_seeded"] r.entries =
    List.replicate (seedings r.entries) ⟨.debug, "counter_seeded", []⟩
  integers : ∀ i, (r.state.platform i).draws.integers = (w.platform i).draws.integers +
    if i = (w.state (w.generator step.subject).state).platform ∧
        (w.platform i).integerSource ≠ .stream then
      seedings r.entries
    else 0
  /-- Random bytes are asked for as often as that, once for every host name that was looked
  up in vain, and twice for a draft. -/
  byteStrings : ∀ i, (r.state.platform i).draws.byteStrings = (w.platform i).draws.byteStrings +
    w.servings (w.generator step.subject).state i r.entries +
    piecesAt (w.generator step.subject).platform (w.draftsIn step) i
  /-- The host name is asked for as often as a fingerprint is computed. -/
  hostNames : ∀ i, (r.state.platform i).draws.hostNames = (w.platform i).draws.hostNames +
    if i = (w.state (w.generator step.subject).state).platform then timings r.entries else 0
  /-- A computation that has no host name to start from says why, once. -/
  unnamed : ∀ used reason, w.computed? step = some used → (w.host step).LacksName reason →
    noted ["hostname_lookup_failed"] r.entries =
      [⟨.warning, "hostname_lookup_failed", [("error", .text reason)]⟩]
  named : (∀ used reason, w.computed? step = some used → ¬(w.host step).LacksName reason) →
    noted ["hostname_lookup_failed"] r.entries = []
  /-- What is computed is the fingerprint of the host of the state. -/
  computes : ∀ used, w.computed? step = some used →
    ∃ p : Platform, p.SameHost (w.host step) ∧ used = (Fingerprint.compute p).answer
  /-- The state gets a fingerprint if one is computed, and at no other time. -/
  setUp : ∀ f, (w.state (w.generator step.subject).state).fingerprint = none ∧
      (r.state.state (w.generator step.subject).state).fingerprint = some f ↔
    w.computed? step = some (.ok f)
  completed : ∀ f, w.computed? step = some (.ok f) → ∃ duration,
    noted computationEvents r.entries =
      [⟨if duration > Stopwatch.defaultPatience then .warning else .debug,
          "fingerprint_compute completed",
          [("operation", .text "fingerprint_compute"), ("duration_ms", .float duration)]⟩,
        ⟨.debug, "fingerprint_ready", [("size", .int f.length)]⟩]
  /-- A fault of the computation is noted down and passed on. -/
  failed : ∀ fault, w.computed? step = some (.error fault) → r.answer = .error fault ∧
    ∃ duration, noted computationEvents r.entries =
      [⟨.error, "fingerprint_compute failed",
        [("operation", .text "fingerprint_compute"), ("duration_ms", .float duration),
          ("error", .text fault.message)]⟩]
  uncomputed : w.computed? step = none → noted computationEvents r.entries = []
  /-- A length that is turned down is noted down, and nothing else. -/
  rejected : ∀ outcome, w.outcome? step = some outcome → outcome.error = some .invalidArgument →
    ∃ length shown, step.length? = some length ∧ length.literal = .ok shown ∧
      r.entries = [⟨.debug, "length_rejected", [("length", .text shown)]⟩]
  unrejected : (∀ outcome, w.outcome? step = some outcome →
    outcome.error ≠ some .invalidArgument) → noted ["length_rejected"] r.entries = []
  /-- A crypto failure is noted down with the message of the outcome. -/
  crypto : ∀ outcome, w.outcome? step = some outcome → outcome.error = some .cryptoFailure →
    ∃ message, outcome.message = some message ∧
      noted ["crypto_failure"] r.entries = [⟨.error, "crypto_failure", [("error", .text message)]⟩]
  uncrypto : (∀ outcome, w.outcome? step = some outcome →
    outcome.error ≠ some .cryptoFailure) → noted ["crypto_failure"] r.entries = []
  /-- The outcome is that of the request. -/
  reported : ∀ length, step.length? = some length →
    (∃ outcome, w.outcome? step = some outcome ∧ r.answer = step.report outcome) ∨
      w.outcome? step = none ∧ ∃ fault, r.answer = .error fault

/-- The account of a single call. -/
theorem accounts_perform {w : World} {step : Step} (h : step.IsCall)
    (hw : w.HasGenerator step.subject) : w.Accounts step (perform step w) := by
  obtain ⟨counter, before, after, shown, hrecords⟩ := exists_records h w
  have hcounter := hrecords.noted_counter
  have hhost := hrecords.noted_host
  have hcomputation := hrecords.noted_computation
  have hfailures := hrecords.noted_outcome failureEvents fun _ => id
  have htallies := tallies_perform h hw.platform_lt
  constructor
  case order =>
    rw [hcounter, hhost, hcomputation, hfailures,
      noted_of_forall fun _ => event_of_mem_outcomeEntries]
    exact hrecords.eq
  case seeded =>
    refine ⟨seedings_perform_le hw.hasState, ?_⟩
    rw [seedings_eq_length, hcounter]
    exact List.eq_replicate_of_mem hrecords.seeded
  case integers => exact htallies.integers hw.hasState
  case byteStrings => exact htallies.byteStrings hw.hasState
  case hostNames => exact htallies.hostNames hw.hasState
  case unnamed =>
    intro used reason hused hlacks
    rw [hhost, hostEntries, hused]
    dsimp only
    rw [Platform.lackEntries, Platform.lack?_eq_some_iff.mpr hlacks]
  case named =>
    intro hnamed
    rw [hhost, hostEntries]
    cases hused : w.computed? step with
    | none => rfl
    | some used =>
        have hnone : (w.host step).lack? = none := by
          rw [Option.eq_none_iff_forall_ne_some]
          exact fun reason hreason =>
            hnamed used reason hused (Platform.lack?_eq_some_iff.mp hreason)
        dsimp only
        rw [Platform.lackEntries, hnone]
  case computes =>
    intro used hused
    obtain ⟨hnone, hused⟩ := computed?_eq_some_iff.mp hused
    exact (used_of_none hw.hasState rfl hnone hused).1
  case setUp => exact setUp_iff h hw.hasState rfl
  case completed =>
    intro f hused
    rw [hcomputation, hused]
    exact ⟨_, rfl⟩
  case failed =>
    intro fault hfault
    obtain ⟨hnone, hused⟩ := computed?_eq_some_iff.mp hfault
    refine ⟨(used_of_none hw.hasState rfl hnone hused).2.2 fault rfl, ?_⟩
    rw [hcomputation, hfault]
    exact ⟨_, rfl⟩
  case uncomputed =>
    intro hnone
    rw [hcomputation, hnone]
    rfl
  case rejected =>
    intro outcome houtcome herror
    obtain ⟨rfl, hnone, length, hlength, hshown⟩ := hrecords.rejected outcome houtcome herror
    refine ⟨length, shown, hlength, hshown, ?_⟩
    rw [hrecords.eq, hostEntries, hnone, houtcome, outcomeEntries, herror]
    rfl
  case unrejected =>
    intro hunrejected
    rw [hrecords.noted_outcome _ (by decide)]
    exact noted_outcomeEntries_of_ne .invalidArgument hunrejected
  case crypto =>
    intro outcome houtcome herror
    obtain ⟨message, hmessage⟩ := exists_message_of_outcome? houtcome herror
    refine ⟨message, hmessage, ?_⟩
    rw [hrecords.noted_outcome _ (by decide), houtcome, outcomeEntries, herror, hmessage]
    rfl
  case uncrypto =>
    intro hunfailed
    rw [hrecords.noted_outcome _ (by decide)]
    exact noted_outcomeEntries_of_ne .cryptoFailure hunfailed
  case reported => exact fun length hlength => answer_perform_request hlength

/-! ## Whole sessions -/

theorem hasGenerator_perform {w : World} {g : Nat} (step : Step) (hw : w.HasGenerator g) :
    (perform step w).state.HasGenerator g := by
  obtain ⟨hplatform, hstate⟩ := places_perform step w g
  refine ⟨?_, ?_⟩
  · rw [hstate]
    exact hasState_perform step hw.hasState
  · rw [hplatform, (lengths_perform step w).2]
    exact hw.platform_lt

theorem hasGenerator_before {w : World} {g : Nat} (hw : w.HasGenerator g) (steps : List Step)
    (k : Nat) : (w.before steps k).HasGenerator g :=
  before_of_perform (j := 0) (Q := fun v => v.HasGenerator g) hw
    (fun _ step hv => hasGenerator_perform step hv) (Nat.zero_le k)

/-- A change of the surroundings is not noted down. -/
theorem entries_perform_of_change {step : Step} (h : ¬step.IsOperation) (w : World) :
    (perform step w).entries = [] := by
  cases step with
  | setCounter | changePlatform | setClock | setPrimitive => rfl
  | tryGenerate | generate | nextCounts | fingerprint | nextCountsInThreads
    | generateInThreads => exact absurd trivial h

/-- **The journal of a session says what has been done, call by call.**

Generators may share states and platforms, and what surrounds them may change between the
calls.  A call notes down that it has seeded a counter exactly if it has asked for a random
integer; why there was no host name, exactly if it has had one made up for a fingerprint; how
long the fingerprint took and what its size is, exactly if the state has got it by this call,
and its fault instead, if it could not be computed; the length, and nothing else, exactly if
the outcome is that it is not acceptable; and the message of the outcome exactly if that is a
crypto failure.  Nothing else is noted down, and a change of the surroundings is not at
all. -/
theorem accounts_session {w : World} {steps : List Step}
    (hw : ∀ step ∈ steps, w.HasGenerator step.subject) {k : Nat} {step : Step}
    (hget : steps[k]? = some step) :
    (step.IsCall → (w.before steps k).Accounts step (perform step (w.before steps k))) ∧
      (¬step.IsOperation → (perform step (w.before steps k)).entries = []) ∧
      ∃ seen, (w.session steps).1[k]? = some seen ∧
        seen.result = (perform step (w.before steps k)).answer ∧
        seen.entries = (perform step (w.before steps k)).entries := by
  have hgenerator := hw step (List.mem_of_getElem? hget)
  refine ⟨fun hcall => accounts_perform hcall (hasGenerator_before hgenerator steps k),
    fun hchange => entries_perform_of_change hchange _, ?_⟩
  obtain ⟨hk, hstep⟩ := List.getElem?_eq_some_iff.mp hget
  have hlength : k < (w.session steps).1.length := by simpa using hk
  refine ⟨_, List.getElem?_eq_getElem hlength, ?_⟩
  rw [getElem_session steps w k hlength, List.get_eq_getElem, hstep]
  exact ⟨rfl, rfl⟩

/-- One generator on a host that does not tell its name and whose environment has no encoding,
with a primitive that fails. -/
def nameless : World :=
  single
    { (default : Platform) with
      hostName := .error (.outside .timeout "timed out"), environment := [([0xD800], [])] }
    default fun _ => .error (.outside .value "gone")

end World

/-- The environment is put right after a first request. -/
def Step.retrying : List Step := [
  .tryGenerate 0 none,
  .changePlatform 0 { environment := some [] },
  .generate 0 none,
  .tryGenerate 0 (some (.int 3))]

/-- The first request asks for a name in vain and fails for want of a fingerprint.  The second
one makes up another name, gets the fingerprint and fails at the hashing, and the last one is
turned down. -/
theorem accounts_session_retrying :
    (∀ step ∈ Step.retrying, World.nameless.HasGenerator step.subject) ∧
      (∃ fault duration,
        ((World.nameless.session Step.retrying).1[0]?.map Observation.result) =
          some (.error fault) ∧
        ((World.nameless.session Step.retrying).1[0]?.map fun seen =>
          noted computationEvents seen.entries) =
          some [⟨.error, "fingerprint_compute failed",
            [("operation", .text "fingerprint_compute"), ("duration_ms", .float duration),
              ("error", .text fault.message)]⟩]) ∧
      ((World.nameless.session Step.retrying).1[2]?.map fun seen =>
        noted ["hostname_lookup_failed"] seen.entries) =
        some [⟨.warning, "hostname_lookup_failed", [("error", .text "timed out")]⟩] ∧
      ((World.nameless.session Step.retrying).1[2]?.map fun seen =>
        noted ["crypto_failure"] seen.entries) =
        some [⟨.error, "crypto_failure", [("error", .text "SHA3-512 hashing failed: gone")]⟩] ∧
      ((World.nameless.session Step.retrying).1[3]?.map Observation.entries) =
        some [⟨.debug, "length_rejected", [("length", .text "3")]⟩] := by
  have hw : ∀ step ∈ Step.retrying, World.nameless.HasGenerator step.subject := by
    have hgenerator : World.nameless.HasGenerator 0 := ⟨World.hasState_single _ _ _, by decide⟩
    simpa [Step.retrying, Step.subject] using hgenerator
  refine ⟨hw, ?_, ?_, ?_, ?_⟩
  · obtain ⟨haccounts, -, seen, hseen, hresult, hentries⟩ :=
      World.accounts_session hw (k := 0) rfl
    have hfails : ((World.nameless.computed? (.tryGenerate 0 none)).map Except.isOk) =
        some false := by decide +kernel
    obtain ⟨used, hused, hnot⟩ := Option.map_eq_some_iff.mp hfails
    cases used with
    | ok f => cases hnot
    | error fault =>
        obtain ⟨hanswer, duration, hjournal⟩ := (haccounts trivial).failed fault hused
        refine ⟨fault, duration, ?_, ?_⟩
        · rw [hseen, Option.map_some, hresult, hanswer]
        · rw [hseen, Option.map_some, hentries, hjournal]
  · obtain ⟨haccounts, -, seen, hseen, -, hentries⟩ := World.accounts_session hw (k := 2) rfl
    have hcomputes : ((World.nameless.before Step.retrying 2).computed?
        (.generate 0 none)).isSome = true := by decide +kernel
    obtain ⟨used, hused⟩ := Option.isSome_iff_exists.mp hcomputes
    have hlacks : ((World.nameless.before Step.retrying 2).host (.generate 0 none)).LacksName
        "timed out" := Or.inl ⟨_, rfl, rfl, rfl⟩
    rw [hseen, Option.map_some, hentries, (haccounts trivial).unnamed used _ hused hlacks]
  · obtain ⟨haccounts, -, seen, hseen, -, hentries⟩ := World.accounts_session hw (k := 2) rfl
    have houtcome : (World.nameless.before Step.retrying 2).outcome? (.generate 0 none) =
        some (Outcome.failure .cryptoFailure "SHA3-512 hashing failed: gone") := by
      decide +kernel
    obtain ⟨message, hmessage, hjournal⟩ := (haccounts trivial).crypto _ houtcome rfl
    rw [hseen, Option.map_some, hentries, hjournal, ← Option.some.inj hmessage]
  · obtain ⟨haccounts, -, seen, hseen, -, hentries⟩ := World.accounts_session hw (k := 3) rfl
    have houtcome : ((World.nameless.before Step.retrying 3).outcome?
        (.tryGenerate 0 (some (.int 3)))).bind Outcome.error = some .invalidArgument := by
      decide +kernel
    obtain ⟨outcome, hsome, herror⟩ := Option.bind_eq_some_iff.mp houtcome
    obtain ⟨length, shown, hlength, hshown, hjournal⟩ :=
      (haccounts trivial).rejected outcome hsome herror
    obtain rfl := Option.some.inj hlength
    obtain rfl : ("3" : Text) = shown := by
      have hthree : Value.literal (.int 3) = .ok "3" := by decide +kernel
      exact Except.ok.inj (hthree.symm.trans hshown)
    rw [hseen, Option.map_some, hentries, hjournal]

end IdMint
