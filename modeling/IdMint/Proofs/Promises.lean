import IdMint.Proofs.Hashing
import IdMint.Proofs.Rejections

/-!
# What callers are promised

Callers of a generator are promised two kinds of failure and no other: a length
that is not acceptable, and a hash primitive without a usable digest.  Here it is
settled how far that goes, for a platform that refuses in no way but as an
operating system does and a primitive that fails in no way but by rejecting
values.

A request whose length is rejected has an outcome exactly if the length can be
reported, and one whose length is accepted exactly if its fingerprint is within
reach, which comes down to the encodings of the host name and the environment
(`World.hasFingerprint_iff`).  Outside of that, one of two faults escapes, and it
escapes both ways of asking (`World.answer_of_contract`).
-/

namespace IdMint

/-- An integer, or something that can stand for one, that is neither less than the
least nor greater than the greatest acceptable length. -/
def Value.FitsLength (v : Value) : Prop :=
  ∃ n : Int, (v = .int n ∨ ∃ kind shown, v = .object kind (some n) shown) ∧ 4 ≤ n ∧ n ≤ 32

/-- The host name and the environment have encodings: every surrogate in them
stands for a byte. -/
def Platform.Encodable (p : Platform) : Prop :=
  (∀ name, p.hostName = .ok name → name.Encodable) ∧
    ∀ s ∈ Environment.unique p.environment, s.1.Encodable ∧ s.2.Encodable

/-- Where the platform does not tell its host name, it refuses as an operating
system does. -/
def Platform.RefusesOnlyAsSystem (p : Platform) : Prop :=
  ∀ fault, p.hostName = .error fault → fault.isSystemRefusal = true

/-- Where the primitive fails, it rejects a value. -/
def HashPrimitive.FailsOnlyByRejecting (primitive : HashPrimitive) : Prop :=
  ∀ bytes fault, primitive bytes = .error fault → fault.isRejectedValue = true

/-- The primitive of the program does not fail at all. -/
theorem HashPrimitive.failsOnlyByRejecting_sha3 : HashPrimitive.sha3.FailsOnlyByRejecting := by
  intro bytes fault h
  cases h

/-! ## Lengths -/

namespace Length

theorem exists_ofInt_iff {n : Int} : (∃ length, ofInt n = .ok length) ↔ 4 ≤ n ∧ n ≤ 32 := by
  unfold ofInt
  by_cases h : (minLength : Int) ≤ n ∧ n ≤ maxLength
  · rw [dif_pos h]
    exact iff_of_true ⟨_, rfl⟩ h
  · rw [dif_neg h]
    refine iff_of_false ?_ h
    rintro ⟨length, hlength⟩
    cases hlength

theorem exists_ofValue_iff {v : Value} : (∃ length, ofValue v = .ok length) ↔ v.FitsLength := by
  unfold Value.FitsLength
  cases v with
  | int n => simpa [ofValue, Value.index?] using exists_ofInt_iff
  | object kind index shown =>
      cases index with
      | none => simp [ofValue, Value.index?]
      | some n => simpa [ofValue, Value.index?] using exists_ofInt_iff
  | _ => simp [ofValue, Value.index?]

end Length

/-! ## Fingerprints -/

namespace Fingerprint

theorem computable_iff_encodable {p : Platform} (hp : p.RefusesOnlyAsSystem) :
    Computable p ↔ p.Encodable := by
  rw [computable_iff, exists_host_iff, Environment.exists_serialize_iff, Platform.Encodable]
  apply and_congr_left'
  cases hname : p.hostName with
  | error fault => exact iff_of_true (hp fault hname) (by simp)
  | ok name =>
      dsimp only
      rw [Environment.exists_encode_iff]
      constructor
      · rintro (rfl | hencodable) n hn
        · obtain rfl := Except.ok.inj hn
          intro c hc
          cases hc
        · obtain rfl := Except.ok.inj hn
          exact hencodable
      · intro h
        exact Or.inr (h name rfl)

/-- A platform that refuses only as an operating system does can fail to answer
for the sake of an encoding only. -/
theorem unencodable_of_compute {p : Platform} {fault : Fault} (hp : p.RefusesOnlyAsSystem)
    (h : (compute p).answer = .error fault) : ∃ defect, fault = .unencodable defect := by
  rw [answer_compute] at h
  rcases Except.bind_eq_error_iff.mp h with hhost | ⟨name, -, h⟩
  · rw [hostText] at hhost
    cases hname : p.hostName with
    | error refusal =>
        rw [hname] at hhost
        simp only [hp refusal hname, if_true] at hhost
        cases hhost
    | ok name =>
        rw [hname] at hhost
        dsimp only at hhost
        split at hhost <;> cases hhost
  · rcases Except.bind_eq_error_iff.mp h with hencode | ⟨host, -, h⟩
    · exact Environment.unencodable_of_encode hencode
    · rcases Except.bind_eq_error_iff.mp h with hserialize | ⟨settings, -, hdone⟩
      · exact Environment.unencodable_of_serialize hserialize
      · cases hdone

end Fingerprint

namespace World

/-- The fingerprint of a state is within reach if it is there already, or if the
host name and the environment have encodings. -/
theorem hasFingerprint_iff {w : World} {s : Nat}
    (hp : (w.platform (w.state s).platform).RefusesOnlyAsSystem) :
    w.HasFingerprint s ↔
      (w.state s).fingerprint.isSome = true ∨ (w.platform (w.state s).platform).Encodable := by
  rw [HasFingerprint, Fingerprint.computable_iff_encodable hp, Option.isSome_iff_exists]

/-- Getting at a fingerprint fails only if it has to be computed and the platform
cannot answer. -/
theorem answer_fingerprint_eq_error_iff {w : World} {s : Nat} {fault : Fault} :
    (fingerprint s w).answer = .error fault ↔
      (w.state s).fingerprint = none ∧
        (Fingerprint.compute (w.platform (w.state s).platform)).answer = .error fault := by
  cases hcached : (w.state s).fingerprint with
  | some f =>
      rw [fingerprint_of_some hcached]
      simp
  | none =>
      rw [answer_fingerprint_of_none hcached]
      simp

/-- A fingerprint is got at exactly if it is within reach. -/
theorem exists_answer_fingerprint_iff {w : World} {s : Nat} :
    (∃ f, (fingerprint s w).answer = .ok f) ↔ w.HasFingerprint s := by
  constructor
  · rintro ⟨f, hf⟩
    cases hcached : (w.state s).fingerprint with
    | some f => exact Or.inl ⟨f, hcached⟩
    | none =>
        rw [answer_fingerprint_of_none hcached] at hf
        exact Or.inr ⟨f, hf⟩
  · intro h
    obtain ⟨f, v, journal, hrun⟩ := h.answer
    exact ⟨f, by rw [hrun]⟩

theorem answer_gather_eq_error_iff {g : Nat} {length : Length} {w : World} {fault : Fault} :
    (gather g length w).answer = .error fault ↔
      (fingerprint (w.generator g).state (w.counted g)).answer = .error fault := by
  rcases hprint : fingerprint (w.generator g).state (w.counted g) with ⟨reason | f, v, entries⟩
  · rw [gather_of_error length hprint]
    simp
  · rw [gather_of_ok length hprint]
    simp

/-- A rejected request has no outcome but one that says so. -/
theorem eq_failure_of_reject {v : Value} {rejection : Length.Rejection} {w : World}
    {outcome : Outcome} (h : (reject v rejection w).answer = .ok outcome) :
    ∃ message, outcome = Outcome.failure .invalidArgument message := by
  rw [answer_reject] at h
  obtain ⟨message, -, h⟩ := Except.bind_eq_ok_iff.mp h
  obtain ⟨shown, -, h⟩ := Except.map_eq_ok_iff.mp h
  exact ⟨message, h.symm⟩

end World

namespace Outcome

/-- The outcome of a request for an acceptable length: an identifier, or a crypto
failure. -/
def IsConclusion (outcome : Outcome) : Prop :=
  (∃ t, outcome = success t) ∨ ∃ message, outcome = failure .cryptoFailure message

/-- The faults that callers are promised. -/
def Promised (fault : Fault) : Prop :=
  (∃ message, fault = .invalidArgument message 4 32) ∨ ∃ message, fault = .cryptoFailure message

theorem IsConclusion.promised_of_unwrap {outcome : Outcome} {fault : Fault}
    (h : outcome.IsConclusion) (hfault : outcome.unwrap = .error fault) : Promised fault := by
  rcases h with ⟨t, rfl⟩ | ⟨message, rfl⟩
  · cases hfault
  · exact Or.inr ⟨_, (Except.error.inj hfault).symm⟩

theorem promised_of_unwrap_rejection {message : Text} {fault : Fault}
    (hfault : (failure .invalidArgument message).unwrap = .error fault) : Promised fault :=
  Or.inl ⟨_, (Except.error.inj hfault).symm⟩

end Outcome

namespace Identifier

theorem isConclusion_of_conclusion {made : Except Fault Text} {outcome : Outcome}
    (h : conclusion made = .ok outcome) : outcome.IsConclusion := by
  rcases made with fault | identifier
  · cases fault <;> simp only [conclusion, reduceCtorEq, Except.ok.injEq] at h
    exact Or.inr ⟨_, h.symm⟩
  · exact Or.inl ⟨_, (Except.ok.inj h).symm⟩

/-- A primitive that fails only by rejecting values lets every draft come to a
conclusion. -/
theorem exists_conclusion {primitive : HashPrimitive} (letter : Text) (bytes : Bytes)
    (length : Length) (hprimitive : primitive.FailsOnlyByRejecting) :
    ∃ outcome, conclusion (make primitive letter bytes length) = .ok outcome := by
  rcases conclusion_make letter length (hprimitive bytes) with ⟨d, -, -, h⟩ | ⟨-, message, h⟩
  · exact ⟨_, h⟩
  · exact ⟨_, h⟩

end Identifier

namespace World

/-- A request for an acceptable length has an outcome exactly if its fingerprint
is within reach. -/
theorem exists_answer_generateAccepted_iff {w : World} {g : Nat} {length : Length}
    (hprimitive : w.primitive.FailsOnlyByRejecting) :
    (∃ outcome, (generateAccepted g length w).answer = .ok outcome) ↔
      w.HasFingerprint (w.generator g).state := by
  rw [answer_generateAccepted]
  constructor
  · rintro ⟨outcome, h⟩
    obtain ⟨d, hd, -⟩ := Except.bind_eq_ok_iff.mp h
    apply (hasFingerprint_counted (g := g)).mp
    apply exists_answer_fingerprint_iff.mp
    cases hanswer : (fingerprint (w.generator g).state (w.counted g)).answer with
    | error fault =>
        rw [answer_gather_eq_error_iff.mpr hanswer] at hd
        cases hd
    | ok f => exact ⟨f, rfl⟩
  · intro h
    obtain ⟨d, v, entries, hgather⟩ := h.gather length
    obtain ⟨outcome, houtcome⟩ :=
      Identifier.exists_conclusion d.letter d.input length hprimitive
    refine ⟨outcome, ?_⟩
    rw [hgather]
    exact houtcome

/-- Whatever keeps a request for an acceptable length from having an outcome is a
surrogate in the host name or the environment. -/
theorem unencodable_of_generateAccepted {w : World} {g : Nat} {length : Length}
    {fault : Fault}
    (hplatform :
      (w.platform (w.state (w.generator g).state).platform).RefusesOnlyAsSystem)
    (hprimitive : w.primitive.FailsOnlyByRejecting)
    (h : (generateAccepted g length w).answer = .error fault) :
    ∃ defect, fault = .unencodable defect := by
  rw [answer_generateAccepted] at h
  rcases Except.bind_eq_error_iff.mp h with hgather | ⟨d, -, h⟩
  · obtain ⟨-, hcompute⟩ :=
      answer_fingerprint_eq_error_iff.mp (answer_gather_eq_error_iff.mp hgather)
    apply Fingerprint.unencodable_of_compute _ hcompute
    intro refusal hrefusal
    rw [(sameHost_counted w g _).hostName, (rest_counted w g _).1] at hrefusal
    exact hplatform refusal hrefusal
  · obtain ⟨outcome, houtcome⟩ :=
      Identifier.exists_conclusion d.letter d.input length hprimitive
    rw [Draft.make, houtcome] at h
    cases h

/-- **Which failures reach the callers of a generator**, if the platform refuses
in no way but as an operating system does and the primitive fails in no way but by
rejecting values.

A request has an outcome exactly if its length, where that is rejected, can be
reported, and if its fingerprint, where the length is accepted, is there already or
can be encoded.  The outcome is that of an invalid argument exactly if the length
is rejected, and whoever asks for faults instead of outcomes gets one of the two
that are promised.  Where there is no outcome, a single fault escapes both ways of
asking: the length of an integer, or a surrogate in the host name or the
environment. -/
theorem answer_of_contract {w : World} {g : Nat} {v : Value}
    (hplatform :
      (w.platform (w.state (w.generator g).state).platform).RefusesOnlyAsSystem)
    (hprimitive : w.primitive.FailsOnlyByRejecting) :
    ((∃ outcome, (tryGenerate g v w).answer = .ok outcome) ↔
      (¬v.FitsLength → v.Reportable) ∧
        (v.FitsLength →
          (w.state (w.generator g).state).fingerprint.isSome = true ∨
            (w.platform (w.state (w.generator g).state).platform).Encodable)) ∧
      (∀ outcome, (tryGenerate g v w).answer = .ok outcome →
        (outcome.error = some .invalidArgument ↔ ¬v.FitsLength) ∧
          ∀ fault, (generate g v w).answer = .error fault → Outcome.Promised fault) ∧
      ∀ fault, (tryGenerate g v w).answer = .error fault →
        (generate g v w).answer = .error fault ∧
          (¬v.FitsLength → fault = .unwritable) ∧
            (v.FitsLength → ∃ defect, fault = .unencodable defect) := by
  rw [answer_generate]
  cases hlength : Length.ofValue v with
  | error rejection =>
      have hfits : ¬v.FitsLength := by
        rw [← Length.exists_ofValue_iff]
        rintro ⟨length, hok⟩
        rw [hlength] at hok
        cases hok
      have hwritten := writtenIf_reject w hlength
      rw [tryGenerate_of_error g hlength]
      refine ⟨?_, ?_, ?_⟩
      · rw [hwritten.exists_iff]
        exact ⟨fun hv => ⟨fun _ => hv, fun h => absurd h hfits⟩, fun h => h.1 hfits⟩
      · intro outcome houtcome
        obtain ⟨message, rfl⟩ := eq_failure_of_reject houtcome
        refine ⟨iff_of_true rfl hfits, ?_⟩
        intro fault hfault
        rw [houtcome] at hfault
        exact Outcome.promised_of_unwrap_rejection hfault
      · intro fault hfault
        rw [hfault]
        refine ⟨rfl, fun _ => ?_, fun h => absurd h hfits⟩
        have hv : ¬v.Reportable := by
          intro hv
          obtain ⟨outcome, houtcome⟩ := hwritten.exists_iff.mpr hv
          rw [houtcome] at hfault
          cases hfault
        rw [hwritten.eq_error hv] at hfault
        exact (Except.error.inj hfault).symm
  | ok length =>
      have hfits : v.FitsLength := Length.exists_ofValue_iff.mp ⟨length, hlength⟩
      rw [tryGenerate_of_ok g hlength]
      refine ⟨?_, ?_, ?_⟩
      · rw [exists_answer_generateAccepted_iff hprimitive, hasFingerprint_iff hplatform]
        exact ⟨fun h => ⟨fun hv => absurd hfits hv, fun _ => h⟩, fun h => h.2 hfits⟩
      · intro outcome houtcome
        have hconclusion : outcome.IsConclusion := by
          rw [answer_generateAccepted] at houtcome
          obtain ⟨d, -, houtcome⟩ := Except.bind_eq_ok_iff.mp houtcome
          exact Identifier.isConclusion_of_conclusion houtcome
        refine ⟨iff_of_false ?_ (not_not_intro hfits), ?_⟩
        · rcases hconclusion with ⟨t, rfl⟩ | ⟨message, rfl⟩ <;> simp [Outcome.success, Outcome.failure]
        · intro fault hfault
          rw [houtcome] at hfault
          exact hconclusion.promised_of_unwrap hfault
      · intro fault hfault
        rw [hfault]
        exact ⟨rfl, fun hv => absurd hfits hv, fun _ =>
          unencodable_of_generateAccepted hplatform hprimitive hfault⟩

end World

/-- A request for a length of more digits than are written is rejected, and yet it has
no outcome that says so. -/
theorem answer_of_contract_long :
    let w := World.single default default HashPrimitive.sha3
    (w.platform 0).RefusesOnlyAsSystem ∧ w.primitive.FailsOnlyByRejecting ∧
      (World.generate 0 (.int (10 ^ Decimal.digitLimit : Nat)) w).answer =
        .error .unwritable := by
  intro w
  have hplatform : (w.platform 0).RefusesOnlyAsSystem := by
    intro fault hfault
    cases hfault
  have hprimitive : w.primitive.FailsOnlyByRejecting := HashPrimitive.failsOnlyByRejecting_sha3
  have hlong : ¬(Value.int (10 ^ Decimal.digitLimit : Nat)).Reportable := by
    intro h
    exact Decimal.not_isWritable_of_le (Nat.le_refl _) (h.index _ rfl)
  have hfits : ¬(Value.int (10 ^ Decimal.digitLimit : Nat)).FitsLength := by
    rintro ⟨n, hn | ⟨kind, shown, hn⟩, -, hle⟩
    · obtain rfl := Value.int.inj hn
      have hgreat : 10 ^ 2 ≤ 10 ^ Decimal.digitLimit :=
        Nat.pow_le_pow_right (by decide) (by decide)
      omega
    · cases hn
  obtain ⟨houtcome, -, hescape⟩ := World.answer_of_contract (g := 0)
    (v := .int (10 ^ Decimal.digitLimit : Nat)) hplatform hprimitive
  refine ⟨hplatform, hprimitive, ?_⟩
  cases hanswer : (World.tryGenerate 0 (.int (10 ^ Decimal.digitLimit : Nat)) w).answer with
  | ok outcome => exact absurd ((houtcome.mp ⟨outcome, hanswer⟩).1 hfits) hlong
  | error fault =>
      obtain ⟨hgenerate, hunwritable, -⟩ := hescape fault hanswer
      rw [hgenerate, hunwritable hfits]

/-- A generator on a host whose name holds a lone surrogate.  The platform and the
primitive do as they should, and yet a request for an acceptable length ends in a
fault that nobody is promised. -/
theorem tryGenerate_of_surrogate :
    let w := World.single { (default : Platform) with hostName := .ok [0xD800] } default
      HashPrimitive.sha3
    (w.platform 0).RefusesOnlyAsSystem ∧ w.primitive.FailsOnlyByRejecting ∧
      (Value.int 24).FitsLength ∧
      (World.tryGenerate 0 (.int 24) w).answer = .error (.unencodable ⟨0, 0xD800, 0⟩) ∧
      ¬Outcome.Promised (.unencodable ⟨0, 0xD800, 0⟩) := by
  intro w
  refine ⟨?_, HashPrimitive.failsOnlyByRejecting_sha3, ⟨24, Or.inl rfl, by decide, by decide⟩, ?_,
    ?_⟩
  · intro fault hfault
    cases hfault
  · have hescaped : (World.tryGenerate 0 (.int 24)
        (World.single { (default : Platform) with hostName := .ok [0xD800] } default
          HashPrimitive.sha3)).answer.error? =
        some (.unencodable ⟨0, 0xD800, 0⟩) := by
      decide +kernel
    exact Except.error?_eq_some_iff.mp hescaped
  · rintro (⟨message, h⟩ | ⟨message, h⟩) <;> cases h

end IdMint
