import IdMint.Proofs.Drafting
import IdMint.Proofs.Writing

/-!
# Rejected lengths

A rejected length is reported with its literal form, and with the integer that it stands
for.  Some integers are too long to be written.  If there is none of those in a report
(`Value.Reportable`), the rejection is an outcome like any other: it says why, and it
changes nothing (`World.tryGenerate_of_rejection`).  If not, the length of an integer is
all that the caller gets to hear (`World.writtenIf_reject`).
-/

namespace IdMint

/-- The value can be written, and so can the integer that it stands for, if it does. -/
structure Value.Reportable (v : Value) : Prop where
  writable : v.Writable
  index : ∀ n, v.index? = some n → Decimal.isWritable n = true

theorem Value.reportable_iff {v : Value} :
    v.Reportable ↔ v.Writable ∧ v.index?.all Decimal.isWritable = true := by
  constructor
  · intro h
    refine ⟨h.writable, ?_⟩
    cases hindex : v.index? with
    | none => rfl
    | some n =>
        rw [Option.all_some]
        exact h.index n hindex
  · rintro ⟨hv, hall⟩
    refine ⟨hv, fun n hn => ?_⟩
    rw [hn, Option.all_some] at hall
    exact hall

instance (v : Value) : Decidable v.Reportable := decidable_of_iff _ Value.reportable_iff.symm

namespace Length

theorem eq_outOfRange_of_ofInt {n : Int} {rejection : Rejection}
    (h : ofInt n = .error rejection) : rejection = .outOfRange n := by
  unfold ofInt at h
  split at h
  · cases h
  · exact (Except.error.inj h).symm

theorem Rejection.writtenIf_message (rejection : Rejection) :
    WrittenIf (∀ n, rejection = .outOfRange n → Decimal.isWritable n = true)
      rejection.message := by
  cases rejection with
  | notAnInteger =>
      rw [message]
      exact (WrittenIf.of_ok _).congr (by simp)
  | outOfRange n =>
      rw [message]
      exact ((Value.writtenIf_integer n).map _).congr (by simp)

/-- The wording of a rejection has the integer that was asked for, if there was one. -/
theorem outOfRange_iff {v : Value} {rejection : Rejection} (h : ofValue v = .error rejection)
    (n : Int) : rejection = .outOfRange n ↔ v.index? = some n := by
  unfold ofValue at h
  cases hindex : v.index? with
  | none =>
      rw [hindex] at h
      obtain rfl := Except.error.inj h
      simp
  | some m =>
      rw [hindex] at h
      obtain rfl := eq_outOfRange_of_ofInt h
      simp

/-- A rejection can be reported exactly if the value can be. -/
theorem reportable_iff {v : Value} {rejection : Rejection} (h : ofValue v = .error rejection) :
    ((∀ n, rejection = .outOfRange n → Decimal.isWritable n = true) ∧ v.Writable) ↔
      v.Reportable := by
  simp only [outOfRange_iff h]
  exact ⟨fun hv => ⟨hv.2, hv.1⟩, fun hv => ⟨hv.index, hv.writable⟩⟩

theorem exists_message {v : Value} {rejection : Rejection}
    (hlength : ofValue v = .error rejection) (hv : v.Reportable) :
    ∃ message, rejection.message = .ok message :=
  rejection.writtenIf_message.exists_iff.mpr ((reportable_iff hlength).mpr hv).1

end Length

namespace World

/-- A rejection is an outcome exactly if the length can be reported. -/
theorem writtenIf_reject {v : Value} {rejection : Length.Rejection} (w : World)
    (hlength : Length.ofValue v = .error rejection) :
    WrittenIf v.Reportable (reject v rejection w).answer := by
  rw [answer_reject]
  exact (rejection.writtenIf_message.bind fun message =>
    (Value.writtenIf_literal v).map _).congr (Length.reportable_iff hlength)

/-- A rejected request says why, and changes nothing. -/
theorem tryGenerate_of_rejection {v : Value} {rejection : Length.Rejection}
    (g : Nat) (w : World) (hlength : Length.ofValue v = .error rejection)
    (hv : v.Reportable) :
    ∃ message, rejection.message = .ok message ∧
      (tryGenerate g v w).answer = .ok (Outcome.failure .invalidArgument message) ∧
      (tryGenerate g v w).state = w := by
  obtain ⟨message, hmessage⟩ := Length.exists_message hlength hv
  obtain ⟨shown, hshown⟩ := (Value.writtenIf_literal v).exists_iff.mpr hv.writable
  refine ⟨message, hmessage, ?_, ?_⟩
  · rw [tryGenerate_of_error g hlength, answer_reject, hmessage, hshown]
    rfl
  · rw [tryGenerate_of_error g hlength]
    exact state_reject v rejection w

end World

end IdMint
