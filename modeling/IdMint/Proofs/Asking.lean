import IdMint.Proofs.Journals
import IdMint.Proofs.SetUpOnce

/-!
# Two ways of asking

Whoever asks for an identifier either takes what comes of it as an outcome, or wants the
identifier itself and a fault in its place if there is none.  The second way is the first
one, with the outcome unwrapped afterwards.

Unwrapping loses nothing as long as outcomes are well tagged: an identifier and no message,
or a failure with a message that says something (`Outcome.WellTagged.unwrap_eq`).  Both
wordings that stand in for an empty message are then out of reach, and so is the fault of an
outcome that holds nothing.  That every outcome of a request is well tagged is seen by going
through the wordings of what can go wrong with it (`World.wellTagged_of_tryGenerate`).
-/

namespace IdMint

/-- The primitive gives a wording with every crypto failure of its own.  Hash functions do not
know of that kind of failure, so that there is none to be worded. -/
def HashPrimitive.SaysWhy (primitive : HashPrimitive) : Prop :=
  ∀ bytes, primitive bytes ≠ .error (.cryptoFailure [])

/-- The primitive of the program has no failures to word. -/
theorem HashPrimitive.saysWhy_sha3 : HashPrimitive.sha3.SaysWhy := by
  intro bytes h
  cases h

/-! ## Outcomes -/

namespace Outcome

/-- An identifier and nothing else, or a failure and what is to be said about it. -/
structure WellTagged (outcome : Outcome) : Prop where
  value_iff : outcome.value.isSome = true ↔ outcome.error = none
  message_iff : outcome.message.isSome = true ↔ outcome.error.isSome = true
  message_ne : ∀ message, outcome.message = some message → message ≠ []

theorem wellTagged_success (t : Text) : (success t).WellTagged :=
  ⟨by simp [success], by simp [success], by simp [success]⟩

theorem wellTagged_failure (kind : FailureKind) {message : Text} (h : message ≠ []) :
    (failure kind message).WellTagged :=
  ⟨by simp [failure], by simp [failure], by simpa [failure] using h⟩

namespace WellTagged

variable {outcome : Outcome}

theorem eq_success (h : outcome.WellTagged) (hok : outcome.error = none) :
    ∃ t, outcome = success t := by
  obtain ⟨t, ht⟩ := Option.isSome_iff_exists.mp (h.value_iff.mpr hok)
  have hmessage : outcome.message = none := by
    rw [← Option.not_isSome_iff_eq_none, h.message_iff, hok]
    exact Bool.false_ne_true
  exact ⟨t, by rw [success, ← ht, ← hok, ← hmessage]⟩

theorem eq_failure {kind : FailureKind} (h : outcome.WellTagged)
    (hkind : outcome.error = some kind) :
    ∃ message, message ≠ [] ∧ outcome = failure kind message := by
  obtain ⟨message, hmessage⟩ :=
    Option.isSome_iff_exists.mp (h.message_iff.mpr (by rw [hkind]; rfl))
  have hvalue : outcome.value = none := by
    rw [← Option.not_isSome_iff_eq_none, h.value_iff, hkind]
    exact Option.some_ne_none kind
  exact ⟨message, h.message_ne message hmessage, by rw [failure, ← hkind, ← hmessage, ← hvalue]⟩

end WellTagged

theorem unwrap_invalidArgument {message : Text} (h : message ≠ []) :
    (failure .invalidArgument message).unwrap = .error (.invalidArgument message 4 32) := by
  have hstated : message.isEmpty = false := by simpa using h
  simp [unwrap, fault?, failure, Fault.ofInvalidArgument, hstated, minLength, maxLength]

theorem unwrap_cryptoFailure {message : Text} (h : message ≠ []) :
    (failure .cryptoFailure message).unwrap = .error (.cryptoFailure message) := by
  have hstated : message.isEmpty = false := by simpa using h
  simp [unwrap, fault?, failure, hstated]

end Outcome

/-! ## Wordings -/

theorem Text.concat_ne_nil {t : Text} (h : t ≠ []) (ts : List Text) : concat (t :: ts) ≠ [] := by
  rw [concat_cons]
  exact List.append_ne_nil_of_left_ne_nil h _

theorem Length.Rejection.message_ne_nil {rejection : Rejection} {message : Text}
    (h : rejection.message = .ok message) : message ≠ [] := by
  cases rejection with
  | notAnInteger =>
      rw [Rejection.message] at h
      obtain rfl := Except.ok.inj h
      exact Text.concat_ne_nil (by decide) _
  | outOfRange n =>
      rw [Rejection.message] at h
      obtain ⟨numeral, -, rfl⟩ := Except.map_eq_ok_iff.mp h
      exact Text.concat_ne_nil (by decide) _

namespace Identifier

variable {primitive : HashPrimitive} {letter encoded message : Text} {bytes : Bytes}

theorem message_of_digest (hprimitive : primitive.SaysWhy)
    (h : digest primitive bytes = .error (.cryptoFailure message)) : message ≠ [] := by
  unfold digest at h
  cases hanswer : primitive bytes with
  | error fault =>
      rw [hanswer] at h
      dsimp only at h
      split at h
      · obtain rfl := Fault.cryptoFailure.inj (Except.error.inj h)
        exact Text.concat_ne_nil (by decide) _
      · -- The fault is passed on as it is: a crypto failure of the primitive itself.
        rintro rfl
        rw [Except.error.inj h] at hanswer
        exact hprimitive bytes hanswer
  | ok d =>
      rw [hanswer] at h
      dsimp only at h
      split at h
      · cases h
      · obtain rfl := Fault.cryptoFailure.inj (Except.error.inj h)
        exact Text.concat_ne_nil (by decide) _

theorem message_of_format {length : Int}
    (h : format letter encoded length = .error (.cryptoFailure message)) : message ≠ [] := by
  unfold format at h
  dsimp only at h
  split at h
  · obtain rfl := Fault.cryptoFailure.inj (Except.error.inj h)
    exact Text.concat_ne_nil (by decide) _
  · cases h

/-- A crypto failure comes with a message, whatever it is that has failed. -/
theorem message_of_make {length : Length} (hprimitive : primitive.SaysWhy)
    (h : make primitive letter bytes length = .error (.cryptoFailure message)) :
    message ≠ [] := by
  rcases Except.bind_eq_error_iff.mp h with hdigest | ⟨hashed, -, hformat⟩
  · exact message_of_digest hprimitive hdigest
  · exact message_of_format hformat

theorem wellTagged_of_conclusion {made : Except Fault Text} {outcome : Outcome}
    (hmessage : ∀ message, made = .error (.cryptoFailure message) → message ≠ [])
    (h : conclusion made = .ok outcome) : outcome.WellTagged := by
  rcases made with fault | identifier
  · cases fault <;> simp only [conclusion, reduceCtorEq, Except.ok.injEq] at h
    rw [← h]
    exact Outcome.wellTagged_failure _ (hmessage _ rfl)
  · rw [← Except.ok.inj h]
    exact Outcome.wellTagged_success identifier

end Identifier

/-! ## Requests -/

namespace World

variable {w : World} {g : Nat} {v : Value}

/-- Every outcome of a request is well tagged. -/
theorem wellTagged_of_tryGenerate {outcome : Outcome} (hprimitive : w.primitive.SaysWhy)
    (h : (tryGenerate g v w).answer = .ok outcome) : outcome.WellTagged := by
  cases hlength : Length.ofValue v with
  | error rejection =>
      rw [tryGenerate_of_error g hlength, answer_reject] at h
      obtain ⟨message, hmessage, hshown⟩ := Except.bind_eq_ok_iff.mp h
      obtain ⟨shown, -, rfl⟩ := Except.map_eq_ok_iff.mp hshown
      exact Outcome.wellTagged_failure _ (Length.Rejection.message_ne_nil hmessage)
  | ok n =>
      rw [tryGenerate_of_ok g hlength, answer_generateAccepted] at h
      obtain ⟨d, -, hconclusion⟩ := Except.bind_eq_ok_iff.mp h
      exact Identifier.wellTagged_of_conclusion
        (fun _ hmade => Identifier.message_of_make hprimitive hmade) hconclusion

/-- **Both ways of asking agree**, in every world and for every value that is given for a
length.

They leave the same world behind, with everything that has been drawn, read and counted, and
note down the same.  An outcome is an identifier without a message, or a failure with a
message that is not empty and without an identifier.  Whoever wants faults gets exactly that
identifier, or a fault of the same kind and with exactly that message: an invalid argument
with the bounds of lengths, or a crypto failure, which does not count as a value that is not
acceptable.  A fault that leaves no outcome is the same fault both ways. -/
theorem generate_of_tryGenerate (hprimitive : w.primitive.SaysWhy) (g : Nat) (v : Value) :
    (generate g v w).state = (tryGenerate g v w).state ∧
      (generate g v w).entries = (tryGenerate g v w).entries ∧
      (∀ outcome, (tryGenerate g v w).answer = .ok outcome →
        outcome.WellTagged ∧
          (outcome.ok = true →
            ∃ t, outcome.value = some t ∧ (generate g v w).answer = .ok t) ∧
          (outcome.error = some .invalidArgument →
            ∃ message, outcome.message = some message ∧
              (generate g v w).answer = .error (.invalidArgument message 4 32)) ∧
          (outcome.error = some .cryptoFailure →
            ∃ message, outcome.message = some message ∧
              (generate g v w).answer = .error (.cryptoFailure message) ∧
              (Fault.cryptoFailure message).isRejectedValue = false)) ∧
      ∀ fault, (tryGenerate g v w).answer = .error fault →
        (generate g v w).answer = .error fault := by
  refine ⟨state_generate g v w, ?_, ?_, ?_⟩
  · rw [entries_generate, entries_tryGenerate]
  · intro outcome houtcome
    have htagged := wellTagged_of_tryGenerate hprimitive houtcome
    rw [answer_generate, houtcome]
    refine ⟨htagged, ?_, ?_, ?_⟩
    · intro hok
      obtain ⟨t, rfl⟩ := htagged.eq_success (Option.isNone_iff_eq_none.mp hok)
      exact ⟨t, rfl, rfl⟩
    · intro hkind
      obtain ⟨message, hne, rfl⟩ := htagged.eq_failure hkind
      exact ⟨message, rfl, Outcome.unwrap_invalidArgument hne⟩
    · intro hkind
      obtain ⟨message, hne, rfl⟩ := htagged.eq_failure hkind
      exact ⟨message, rfl, Outcome.unwrap_cryptoFailure hne, rfl⟩
  · intro fault hfault
    rw [answer_generate, hfault]
    rfl

/-- A primitive that rejects its input without a word. -/
theorem generate_of_tryGenerate_speechless :
    let w := single default default fun _ => .error (.outside .value [])
    w.primitive.SaysWhy ∧
      (tryGenerate 0 (.object "Index" (some 4) (some "4")) w).answer =
        .ok (Outcome.failure .cryptoFailure "SHA3-512 hashing failed: ") ∧
      (generate 0 (.object "Index" (some 4) (some "4")) w).answer =
        .error (.cryptoFailure "SHA3-512 hashing failed: ") := by
  intro w
  have hprimitive : w.primitive.SaysWhy := by
    intro bytes h
    cases h
  have hasked : (tryGenerate 0 (.object "Index" (some 4) (some "4")) w).answer =
      .ok (Outcome.failure .cryptoFailure "SHA3-512 hashing failed: ") := by decide +kernel
  obtain ⟨-, -, houtcome, -⟩ :=
    generate_of_tryGenerate hprimitive 0 (.object "Index" (some 4) (some "4"))
  obtain ⟨-, -, -, hcrypto⟩ := houtcome _ hasked
  obtain ⟨message, hmessage, htold, -⟩ := hcrypto rfl
  rw [← Option.some.inj hmessage] at htold
  exact ⟨hprimitive, hasked, htold⟩

end World

end IdMint
