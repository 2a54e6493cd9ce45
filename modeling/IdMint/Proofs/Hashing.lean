import IdMint.Proofs.Fingerprints
import IdMint.Proofs.Queries

/-!
# When hashing fails

A hash function is created, fed and read out, and it may fail at each of these
stages (`Hasher`).  Where it does so by rejecting a value, where its digest has
the wrong size and where its digest is too small, callers of the generator see
one and the same failure, a crypto failure.

`Identifier.conclusion_make` draws the line between that failure and an
identifier once the hash function has answered.  For a whole request the line is
the same, provided that its fingerprint is within reach: a request whose
fingerprint cannot be computed has no outcome at all.
-/

namespace IdMint

/-- A hash function as libraries offer them, with states of its own: it is
created, fed with bytes and read out, and any of the three may fail. -/
structure Hasher (η : Type) where
  create : Except Fault η
  update : η → Bytes → Except Fault η
  read : η → Except Fault Bytes

namespace Hasher

variable {η : Type} {hasher : Hasher η} {bytes : Bytes} {fault : Fault}

/-- The stages one after another. -/
def primitive (hasher : Hasher η) : HashPrimitive := fun bytes => do
  let fresh ← hasher.create
  let fed ← hasher.update fresh bytes
  hasher.read fed

/-- The hash function fails at one of its stages. -/
inductive Raises (hasher : Hasher η) (bytes : Bytes) (fault : Fault) : Prop
  | create (h : hasher.create = .error fault)
  | update (fresh : η) (hfresh : hasher.create = .ok fresh)
      (h : hasher.update fresh bytes = .error fault)
  | read (fresh fed : η) (hfresh : hasher.create = .ok fresh)
      (hfed : hasher.update fresh bytes = .ok fed) (h : hasher.read fed = .error fault)

theorem primitive_eq_error_iff :
    hasher.primitive bytes = .error fault ↔ hasher.Raises bytes fault := by
  constructor
  · intro h
    unfold primitive at h
    cases hfresh : hasher.create with
    | error raised =>
        rw [hfresh] at h
        obtain rfl := Except.error.inj h
        exact .create hfresh
    | ok fresh =>
        rw [hfresh] at h
        change (hasher.update fresh bytes >>= hasher.read) = _ at h
        cases hfed : hasher.update fresh bytes with
        | error raised =>
            rw [hfed] at h
            obtain rfl := Except.error.inj h
            exact .update fresh hfresh hfed
        | ok fed =>
            rw [hfed] at h
            exact .read fresh fed hfresh hfed h
  · intro h
    unfold primitive
    cases h with
    | create h => rw [h]; rfl
    | update fresh hfresh h =>
        rw [hfresh]
        show (hasher.update fresh bytes >>= hasher.read) = _
        rw [h]
        rfl
    | read fresh fed hfresh hfed h =>
        rw [hfresh]
        show (hasher.update fresh bytes >>= hasher.read) = _
        rw [hfed]
        exact h

end Hasher

/-- A hash function that fails in no way but by rejecting values gives an
identifier if its digest is sufficient, and a crypto failure if not. -/
theorem Identifier.conclusion_make {primitive : HashPrimitive} {bytes : Bytes}
    (letter : Text) (length : Length)
    (hrejected : ∀ fault, primitive bytes = .error fault → fault.isRejectedValue = true) :
    (∃ d, primitive bytes = .ok d ∧ Suffices d length ∧
        conclusion (make primitive letter bytes length) =
          .ok (Outcome.success (fromDigest letter d length))) ∨
      ((∀ d, primitive bytes = .ok d → ¬Suffices d length) ∧
        ∃ message, conclusion (make primitive letter bytes length) =
          .ok (Outcome.failure .cryptoFailure message)) := by
  cases hprimitive : primitive bytes with
  | error fault =>
      right
      constructor
      · intro d hd
        cases hd
      · rw [make_of_fault letter length hprimitive, if_pos (hrejected fault hprimitive)]
        exact ⟨_, rfl⟩
  | ok d =>
      obtain ⟨hmade, hfailed⟩ := make_of_digest letter length hprimitive
      by_cases hsuffices : Suffices d length
      · left
        refine ⟨d, rfl, hsuffices, ?_⟩
        rw [hmade hsuffices]
        rfl
      · right
        obtain ⟨message, hmessage⟩ := hfailed hsuffices
        refine ⟨?_, message, ?_⟩
        · intro e he
          rw [← Except.ok.inj he]
          exact hsuffices
        · rw [hmessage]
          rfl

/-- **When a request for an acceptable length fails**, if its fingerprint is
within reach and the hash function fails in no way but by rejecting values.

It hashes the input of the draft that it gathers.  It has an outcome, which is either
a well-formed identifier or a crypto failure without one.  It is a failure exactly if
the hash function fails on that input, or gives a digest that does not have
sixty-four bytes, or one whose number is below `36 ^ (length - 2)`. -/
theorem World.outcome_of_acceptable {η : Type} (hasher : Hasher η) {w : World} {g : Nat}
    {v : Value} {length : Length} (hlength : Length.ofValue v = .ok length)
    (hprint : w.HasFingerprint (w.generator g).state)
    (hprimitive : w.primitive = hasher.primitive)
    (hrejected :
      ∀ bytes fault, hasher.Raises bytes fault → fault.isRejectedValue = true) :
    ∃ draft outcome,
      (gather g length w).answer = .ok draft ∧
      w.Hashes (.tryGenerate g (some v)) draft.input ∧
      (tryGenerate g v w).answer = .ok outcome ∧
      ((∃ t, outcome = Outcome.success t ∧ Identifier.WellFormed length t) ∨
        ∃ message, outcome = Outcome.failure .cryptoFailure message) ∧
      (outcome.error = some .cryptoFailure ↔
        (∃ fault, hasher.Raises draft.input fault) ∨
          ∃ d, hasher.primitive draft.input = .ok d ∧
            (d.length ≠ 64 ∨ d.toNatBig < 36 ^ (length.val - 2))) := by
  obtain ⟨draft, w', entries, hgather⟩ := hprint.gather length
  have hanswer := (generateAccepted_of_gather hgather).1
  rw [hprimitive] at hanswer
  have hfaults : ∀ fault, hasher.primitive draft.input = .error fault →
      fault.isRejectedValue = true := by
    intro fault hfault
    exact hrejected draft.input fault (Hasher.primitive_eq_error_iff.mp hfault)
  have hinsufficient : ∀ d : Bytes, (d.length ≠ 64 ∨ d.toNatBig < 36 ^ (length.val - 2)) ↔
      ¬Identifier.Suffices d length := by
    intro d
    unfold Identifier.Suffices
    rw [Classical.not_and_iff_not_or_not, Nat.not_le]
    rfl
  have hhashes : w.Hashes (.tryGenerate g (some v)) draft.input :=
    hashes_of_gather (.tryGenerate g (some v)) hlength (by rw [hgather])
  rw [tryGenerate_of_ok g hlength, hgather]
  rcases Identifier.conclusion_make draft.letter length hfaults with
    ⟨d, hd, hsuffices, hmade⟩ | ⟨hnone, message, hmade⟩
  · refine ⟨draft, _, rfl, hhashes, hanswer.trans hmade, Or.inl ⟨_, rfl, ?_⟩, ?_⟩
    · exact Identifier.wellFormed_fromDigest draft.pick hsuffices
    · refine iff_of_false (by simp [Outcome.success]) ?_
      rintro (⟨fault, hraises⟩ | ⟨e, he, hbad⟩)
      · rw [← Hasher.primitive_eq_error_iff, hd] at hraises
        cases hraises
      · rw [hd] at he
        obtain rfl := Except.ok.inj he
        exact (hinsufficient d).1 hbad hsuffices
  · refine ⟨draft, _, rfl, hhashes, hanswer.trans hmade, Or.inr ⟨message, rfl⟩, ?_⟩
    refine iff_of_true rfl ?_
    cases hread : hasher.primitive draft.input with
    | error fault => exact Or.inl ⟨fault, Hasher.primitive_eq_error_iff.mp hread⟩
    | ok d => exact Or.inr ⟨d, rfl, (hinsufficient d).2 (hnone d hread)⟩

/-- A hash function that gives the same digest whatever it has been fed with. -/
def Hasher.constant (d : Bytes) : Hasher Bytes where
  create := .ok []
  update fed bytes := .ok (fed ++ bytes)
  read _ := .ok d

/-- Identifiers of four characters, from digests on both sides of the limit. -/
theorem outcome_of_acceptable_limit :
    let w (last : UInt8) := World.single default default
      (Hasher.constant (List.replicate 62 0 ++ [5, last])).primitive
    (∃ message, (World.tryGenerate 0 (.int 4) (w 15)).answer =
        .ok (Outcome.failure .cryptoFailure message)) ∧
      ∃ t,
        (World.tryGenerate 0 (.object "Index" (some 4) (some "4")) (w 16)).answer =
          .ok (Outcome.success t) ∧
        t.length = 4 := by
  intro w
  have hprint : ∀ last, (w last).HasFingerprint ((w last).generator 0).state := by
    intro last
    right
    rw [Fingerprint.computable_iff, Fingerprint.exists_host_iff]
    exact ⟨Or.inl rfl, [], Environment.serialize_nil⟩
  have hrejected : ∀ (d bytes : Bytes) (fault : Fault),
      (Hasher.constant d).Raises bytes fault → fault.isRejectedValue = true := by
    intro d bytes fault hraises
    rw [← Hasher.primitive_eq_error_iff] at hraises
    cases hraises
  constructor
  · obtain ⟨draft, outcome, -, -, hanswer, hshape, hfailure⟩ := World.outcome_of_acceptable
      (Hasher.constant (List.replicate 62 0 ++ [5, 15])) (v := .int 4) rfl (hprint 15) rfl
      (hrejected _)
    have herror := hfailure.2 (Or.inr ⟨_, rfl, Or.inr (by decide)⟩)
    rcases hshape with ⟨t, rfl, -⟩ | ⟨message, rfl⟩
    · cases herror
    · exact ⟨message, hanswer⟩
  · obtain ⟨draft, outcome, -, -, hanswer, hshape, hfailure⟩ := World.outcome_of_acceptable
      (Hasher.constant (List.replicate 62 0 ++ [5, 16])) (v := .object "Index" (some 4) (some "4"))
      rfl (hprint 16) rfl (hrejected _)
    rcases hshape with ⟨t, rfl, ht⟩ | ⟨message, rfl⟩
    · exact ⟨t, hanswer, ht.length_eq⟩
    · rcases hfailure.1 rfl with ⟨fault, hraises⟩ | ⟨d, hd, hbad⟩
      · rw [← Hasher.primitive_eq_error_iff] at hraises
        cases hraises
      · obtain rfl := Except.ok.inj hd
        exact absurd hbad (by decide)

end IdMint
