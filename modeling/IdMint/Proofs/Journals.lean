import IdMint.Proofs.Promises

/-!
# What a request notes down

Four things are noted down on the way to an identifier: that the counter has been
seeded, that a host name has been made up, how long the computation of a fingerprint
took together with the size of what came of it, and that the hashing has failed.  Here
each of the journals is given, entry by entry, as it depends on the world in which
the operation starts (`World.entries_tryGenerate`).
-/

namespace IdMint

/-! ## Host names -/

namespace Platform

/-- Why a host name has to be made up, if one has to be. -/
def lack? (p : Platform) : Option Text :=
  match p.hostName with
  | .error fault => if fault.isSystemRefusal then some fault.message else none
  | .ok name => if name.isEmpty then some "empty hostname" else none

/-- What is noted down when the platform is asked for a fingerprint. -/
def lackEntries (p : Platform) : List Entry :=
  match p.lack? with
  | some reason => [⟨.warning, "hostname_lookup_failed", [("error", .text reason)]⟩]
  | none => []

/-- A platform once it has been asked for its host name. -/
def lookedUp (p : Platform) : Platform := (lookUpHostName p).state

end Platform

namespace Fingerprint

/-- Where a name has to be made up, it is made of the bytes that come next. -/
theorem resolveHostName_of_lack {p : Platform} {reason : Text} (h : p.lack? = some reason) :
    resolveHostName p = ⟨.ok (p.upcoming 8).hex, p.lookedUp.served 8, p.lackEntries⟩ := by
  rw [Platform.lackEntries, h]
  unfold resolveHostName
  rw [Act.bind_apply, Act.attempt_apply, Platform.lookedUp, Platform.lookUpHostName,
    Act.andThen_ok]
  unfold Platform.lack? at h
  cases hname : p.hostName with
  | error fault =>
      rw [hname] at h
      dsimp only at h ⊢
      split at h
      · next hrefusal =>
        obtain rfl := Option.some.inj h
        rw [if_pos hrefusal]
        rfl
      · cases h
  | ok name =>
      rw [hname] at h
      dsimp only at h ⊢
      split at h
      · next hempty =>
        obtain rfl := Option.some.inj h
        rw [if_pos hempty]
        rfl
      · cases h

/-- Any other platform answers, or fails, as it has been told to, and nothing is noted
down. -/
theorem resolveHostName_of_no_lack {p : Platform} (h : p.lack? = none) :
    resolveHostName p = ⟨p.hostName, p.lookedUp, []⟩ := by
  unfold resolveHostName
  rw [Act.bind_apply, Act.attempt_apply, Platform.lookedUp, Platform.lookUpHostName,
    Act.andThen_ok]
  unfold Platform.lack? at h
  cases hname : p.hostName with
  | error fault =>
      rw [hname] at h
      dsimp only at h ⊢
      split at h
      · cases h
      · next hrefusal =>
        rw [if_neg hrefusal]
        rfl
  | ok name =>
      rw [hname] at h
      dsimp only at h ⊢
      split at h
      · cases h
      · next hempty =>
        rw [if_neg hempty]
        rfl

theorem entries_resolveHostName (p : Platform) : (resolveHostName p).entries = p.lackEntries := by
  cases hlack : p.lack? with
  | some reason => rw [resolveHostName_of_lack hlack]
  | none =>
      rw [resolveHostName_of_no_lack hlack, Platform.lackEntries, hlack]

/-- What follows the host name asks for the environment at most, and notes nothing down. -/
theorem compute_after_name (p : Platform) :
    (compute p).entries = (resolveHostName p).entries ∧
      ((compute p).state = (resolveHostName p).state ∨
        (compute p).state = (Platform.readEnvironment (resolveHostName p).state).state) := by
  rw [compute, Act.bind_apply]
  rcases resolveHostName p with ⟨fault | name, q, entries⟩
  · exact ⟨rfl, Or.inl rfl⟩
  · rw [Act.andThen_ok, Act.bind_apply, Act.ofExcept_apply]
    cases Environment.encode name with
    | error fault => exact ⟨List.append_nil _, Or.inl rfl⟩
    | ok host =>
        rw [Act.andThen_ok, Act.bind_apply, Act.state_apply, Act.andThen_ok, Act.bind_apply,
          Platform.readEnvironment, Act.andThen_ok, Act.bind_apply, Act.ofExcept_apply]
        cases Environment.serialize q.environment with
        | error fault => exact ⟨List.append_nil _, Or.inr rfl⟩
        | ok settings => exact ⟨List.append_nil _, Or.inr rfl⟩

theorem entries_compute (p : Platform) : (compute p).entries = p.lackEntries :=
  (compute_after_name p).1.trans (entries_resolveHostName p)

end Fingerprint

/-! ## Timing -/

namespace Stopwatch

variable {σ α : Type}

/-- What is noted down of an operation between two readings of the watch. -/
def entry (operation : Text) (patience before after : Float) (answer : Except Fault α) : Entry :=
  let milliseconds := (after - before) * 1000.0
  let fields : List (Text × Value) :=
    [("operation", .text operation), ("duration_ms", .float milliseconds)]
  match answer with
  | .error fault =>
    ⟨.error, operation ++ (" failed" : Text),
      fields ++ [(("error" : Text), Value.text fault.message)]⟩
  | .ok _ =>
    ⟨if milliseconds > patience then .warning else .debug, operation ++ (" completed" : Text),
      fields⟩

/-- Timing adds two readings of the watch to an operation, and one entry. -/
theorem timed_apply {read : Act σ Float} {act : Act σ α} {s t v : σ} {before after : Float}
    (operation : Text) (patience : Float) (hbefore : read s = ⟨.ok before, t, []⟩)
    (hafter : read (act t).state = ⟨.ok after, v, []⟩) :
    timed read operation patience act s =
      ⟨(act t).answer, v,
        (act t).entries ++ [entry operation patience before after (act t).answer]⟩ := by
  simp only [timed, Act.bind_apply, hbefore, Act.andThen_ok, Act.attempt_apply, hafter]
  cases (act t).answer with
  | error fault =>
      simp only [Act.bind_apply, Act.note_apply, Act.andThen_ok, Act.fail_apply, entry,
        List.nil_append, List.append_nil]
  | ok a =>
      simp only [Act.bind_apply, Act.note_apply, Act.andThen_ok, Act.pure_apply, entry,
        List.nil_append, List.append_nil]

end Stopwatch

/-! ## Fingerprints -/

namespace World

/-- What is noted down of a fingerprint that is kept from now on. -/
def readyEntries : Except Fault Bytes → List Entry
  | .ok f => [⟨.debug, "fingerprint_ready", [("size", .int f.length)]⟩]
  | .error _ => []

/-- What is noted down when the platform at a place is asked for a fingerprint, to be kept. -/
def setUpEntries (w : World) (i : Nat) : List Entry :=
  let answer := (Fingerprint.compute (w.platform i)).answer
  (w.platform i).lackEntries ++
    [Stopwatch.entry "fingerprint_compute" Stopwatch.defaultPatience
      (w.stopwatch.reading w.stopwatch.position) (w.stopwatch.reading (w.stopwatch.position + 1))
      answer] ++
    readyEntries answer

/-- What is noted down when the fingerprint of a state is needed. -/
def fingerprintEntries (w : World) (s : Nat) : List Entry :=
  match (w.state s).fingerprint with
  | some _ => []
  | none => w.setUpEntries (w.state s).platform

theorem entries_fingerprint (s : Nat) (w : World) :
    (fingerprint s w).entries = w.fingerprintEntries s := by
  rw [fingerprintEntries]
  cases hprint : (w.state s).fingerprint with
  | some f => rw [fingerprint_of_some hprint]
  | none =>
      rw [fingerprint_of_none hprint, setUpFingerprint, Act.bind_apply, Act.state_apply,
        Act.andThen_ok, Act.bind_apply,
        Stopwatch.timed_apply _ _ (readStopwatch_apply w) (readStopwatch_apply _), setUpEntries]
      have hentries : (onPlatform (w.state s).platform Fingerprint.compute w.watched).entries =
          (w.platform (w.state s).platform).lackEntries :=
        Fingerprint.entries_compute _
      have hanswer : (onPlatform (w.state s).platform Fingerprint.compute w.watched).answer =
          (Fingerprint.compute (w.platform (w.state s).platform)).answer := rfl
      rw [hentries, hanswer]
      cases (Fingerprint.compute (w.platform (w.state s).platform)).answer with
      | error fault => exact (List.append_nil _).symm
      | ok f => rfl

/-! ## Requests -/

/-- What is noted down up to the random bytes. -/
def gatherEntries (w : World) (g : Nat) : List Entry :=
  (w.clockRead g).seedEntries (w.generator g).state ++
    (w.counted g).fingerprintEntries (w.generator g).state

theorem entries_gather (g : Nat) (n : Length) (w : World) :
    (gather g n w).entries = w.gatherEntries g := by
  have hentries := entries_fingerprint (w.generator g).state (w.counted g)
  rcases hprint : fingerprint (w.generator g).state (w.counted g) with ⟨fault | f, v, entries⟩
  · rw [gather_of_error n hprint, gatherEntries, ← hentries, hprint]
  · rw [gather_of_ok n hprint, gatherEntries, ← hentries, hprint]

/-- What is noted down when an attempt at making an identifier has come to an end. -/
def conclusionEntries : Except Fault Text → List Entry
  | .error (.cryptoFailure message) => [⟨.error, "crypto_failure", [("error", .text message)]⟩]
  | _ => []

theorem entries_conclude (made : Except Fault Text) (w : World) :
    (conclude made w).entries = conclusionEntries made := by
  rcases made with fault | identifier
  · cases fault <;> rfl
  · rfl

/-- What is noted down when a length is turned down: the length, if that can be written. -/
def rejectionEntries (length : Value) (rejection : Length.Rejection) : List Entry :=
  match rejection.message, length.literal with
  | .ok _, .ok shown => [⟨.debug, "length_rejected", [("length", .text shown)]⟩]
  | _, _ => []

theorem entries_reject (length : Value) (rejection : Length.Rejection) (w : World) :
    (reject length rejection w).entries = rejectionEntries length rejection := by
  rw [reject, rejectionEntries, Act.bind_apply, Act.ofExcept_apply]
  cases rejection.message with
  | error fault => rfl
  | ok message =>
      rw [Act.andThen_ok, Act.bind_apply, Act.ofExcept_apply]
      cases length.literal with
      | error fault => rfl
      | ok shown => rfl

/-- What is noted down in the course of a request. -/
def requestEntries (w : World) (g : Nat) (length : Value) : List Entry :=
  match Length.ofValue length with
  | .error rejection => rejectionEntries length rejection
  | .ok n =>
    w.gatherEntries g ++
      match (gather g n w).answer with
      | .error _ => []
      | .ok d => conclusionEntries (d.make w.primitive n)

/-- The journal of a request: what is noted down while its draft is gathered, and then
what the hashing comes to, if it fails in a way that callers are promised. -/
theorem entries_tryGenerate (g : Nat) (length : Value) (w : World) :
    (tryGenerate g length w).entries = w.requestEntries g length := by
  rw [requestEntries]
  cases hlength : Length.ofValue length with
  | error rejection => rw [tryGenerate_of_error g hlength, entries_reject]
  | ok n =>
      have hentries := entries_gather g n w
      have hprimitive := primitive_gather g n w
      rw [tryGenerate_of_ok g hlength, generateAccepted_eq, Act.bind_apply]
      dsimp only
      rw [← hentries]
      rcases hrun : gather g n w with ⟨fault | d, v, entries⟩
      · exact (List.append_nil _).symm
      · rw [hrun] at hprimitive
        rw [Act.andThen_ok, Act.bind_apply, Act.state_apply, Act.andThen_ok]
        dsimp only at hprimitive ⊢
        rw [hprimitive, entries_conclude, List.nil_append]

theorem entries_generate (g : Nat) (length : Value) (w : World) :
    (generate g length w).entries = w.requestEntries g length := by
  rw [← entries_tryGenerate, generate, Act.bind_apply]
  rcases tryGenerate g length w with ⟨fault | outcome, v, entries⟩
  · rfl
  · exact List.append_nil _

end World

end IdMint
