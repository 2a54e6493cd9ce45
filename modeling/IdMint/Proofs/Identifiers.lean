import IdMint.Outcome
import IdMint.Proofs.Numerals
import IdMint.Proofs.Words

/-!
# The shape of identifiers

`Identifier.make` succeeds exactly when the hash primitive gives a digest of the
right size whose numeral is long enough.  The identifier is then a letter and
the first digits of that numeral (`Identifier.make_eq_ok_iff`), which fixes its
length and its characters.  In every other case the reason is a crypto failure,
unless the primitive failed in a way of its own.
-/

namespace IdMint.Identifier

/-- The counter value stands at a fixed place in the bytes that are hashed,
whatever the timestamp in front of it and the bytes behind it are. -/
theorem counter_of_hashInput_eq {t t' c c' : Int} {f f' r r' : Bytes}
    (h : hashInput t c f r = hashInput t' c' f' r') :
    Bytes.pack64 c = Bytes.pack64 c' := by
  unfold hashInput at h
  simp only [List.append_assoc] at h
  obtain ⟨-, hbehind⟩ := List.append_inj h (by simp)
  exact (List.append_inj hbehind (by simp)).1

/-- An identifier as callers expect it: of the length that was asked for, with a
letter in front and base-36 digits behind. -/
structure WellFormed (length : Length) (t : Text) : Prop where
  length_eq : t.length = length.val
  head : ∃ first rest, t = first :: rest ∧ first.IsLetter ∧ ∀ c ∈ rest, c.IsBase36

theorem isLetter_letter (random : Int) :
    ∃ c : CodePoint, letter random = [c] ∧ c.IsLetter := by
  refine ⟨_, rfl, ?_⟩
  have hlt : random % 26 < 26 := Int.emod_lt_of_pos random (by decide)
  simp only [CodePoint.IsLetter, Fin.ofNat]
  omega

@[simp] theorem length_letter (random : Int) : (letter random).length = 1 := rfl

theorem cut_natCast (count : Nat) (t : Text) : cut count t = t.take count := by
  simp [cut]

/-- A digest is long enough for an identifier exactly when its number is not
below `36 ^ (length - 2)`: it has to provide `length - 1` digits. -/
theorem length_encode_lt_iff (length : Length) (d : Bytes) :
    (Base36.encode d).length < length.val - 1 ↔ d.toNatBig < 36 ^ (length.val - 2) := by
  have hmin : 4 ≤ length.val := length.le_val
  rw [Base36.encode, ← Base36.length_numeral_le_iff (by omega)]
  omega

/-- What cutting to length comes to. -/
theorem format_apply (letter encoded : Text) (length : Length) :
    format letter encoded length.val =
      if encoded.length < length.val - 1 then
        .error (.cryptoFailure (Text.concat ["encoded digest has ",
          Text.ofNat encoded.length, " characters, need ",
          Text.ofInt (length.val - 1 : Nat)]))
      else .ok (letter ++ encoded.take (length.val - 1)) := by
  have hmin : 4 ≤ length.val := length.le_val
  have hneeded :
      (length.val : Int) - (letterCount : Nat) = ((length.val - 1 : Nat) : Int) := by
    unfold letterCount
    omega
  unfold format
  simp only [hneeded, Nat.cast_lt, cut_natCast]

/-- A digest that gives an identifier of a length: it has the right size, and
its number is great enough. -/
def Suffices (d : Bytes) (length : Length) : Prop :=
  d.length = digestSize ∧ 36 ^ (length.val - 2) ≤ d.toNatBig

/-- The identifier that a sufficient digest gives. -/
def fromDigest (letter : Text) (d : Bytes) (length : Length) : Text :=
  letter ++ (Base36.encode d).take (length.val - 1)

/-- What making an identifier comes to, once the hash primitive has answered. -/
theorem make_of_digest {primitive : HashPrimitive} {bytes d : Bytes} (letter : Text)
    (length : Length) (hd : primitive bytes = .ok d) :
    (Suffices d length →
      make primitive letter bytes length = .ok (fromDigest letter d length)) ∧
      (¬Suffices d length →
        ∃ message,
          make primitive letter bytes length = .error (.cryptoFailure message)) := by
  have hmake : make primitive letter bytes length =
      (digest primitive bytes).bind fun hashed =>
        format letter (Base36.encode hashed) length.val := rfl
  by_cases hsize : d.length = digestSize
  · have hdigest : digest primitive bytes = .ok d := by
      simp only [digest, hd, if_pos hsize]
    rw [hmake, hdigest, Except.bind, format_apply]
    by_cases hshort : (Base36.encode d).length < length.val - 1
    · have hsmall := (length_encode_lt_iff length d).1 hshort
      rw [if_pos hshort]
      refine ⟨?_, fun _ => ⟨_, rfl⟩⟩
      intro hsuffices
      exact absurd hsuffices.2 (Nat.not_le.mpr hsmall)
    · have hgreat :=
        Nat.not_lt.mp fun hlt => hshort ((length_encode_lt_iff length d).2 hlt)
      rw [if_neg hshort]
      refine ⟨fun _ => rfl, ?_⟩
      intro hfails
      exact absurd ⟨hsize, hgreat⟩ hfails
  · obtain ⟨message, hdigest⟩ :
        ∃ message, digest primitive bytes = .error (.cryptoFailure message) := by
      simp only [digest, hd, if_neg hsize]
      exact ⟨_, rfl⟩
    rw [hmake, hdigest]
    refine ⟨?_, fun _ => ⟨message, rfl⟩⟩
    intro hsuffices
    exact absurd hsuffices.1 hsize

/-- What making an identifier comes to, if the hash primitive fails. -/
theorem make_of_fault {primitive : HashPrimitive} {bytes : Bytes} {fault : Fault}
    (letter : Text) (length : Length) (hfault : primitive bytes = .error fault) :
    make primitive letter bytes length =
      .error (if fault.isRejectedValue then
          .cryptoFailure (Text.concat ["SHA3-512 hashing failed: ", fault.message])
        else fault) := by
  have hmake : make primitive letter bytes length =
      (digest primitive bytes).bind fun hashed =>
        format letter (Base36.encode hashed) length.val := rfl
  rw [hmake, digest, hfault]
  dsimp only
  split <;> rfl

/-- Identifiers come of sufficient digests and of nothing else. -/
theorem make_eq_ok_iff {primitive : HashPrimitive} {bytes : Bytes} {letter t : Text}
    {length : Length} :
    make primitive letter bytes length = .ok t ↔
      ∃ d, primitive bytes = .ok d ∧ Suffices d length ∧
        t = fromDigest letter d length := by
  cases hprimitive : primitive bytes with
  | error fault =>
      rw [make_of_fault letter length hprimitive]
      constructor
      · intro h
        cases h
      · rintro ⟨d, hd, -⟩
        cases hd
  | ok d =>
      obtain ⟨hmade, hfailed⟩ := make_of_digest letter length hprimitive
      by_cases hsuffices : Suffices d length
      · rw [hmade hsuffices]
        constructor
        · intro h
          exact ⟨d, rfl, hsuffices, (Except.ok.inj h).symm⟩
        · rintro ⟨e, he, -, rfl⟩
          rw [Except.ok.inj he]
      · obtain ⟨message, hmessage⟩ := hfailed hsuffices
        rw [hmessage]
        constructor
        · intro h
          cases h
        · rintro ⟨e, he, he', -⟩
          rw [Except.ok.inj he] at hsuffices
          exact absurd he' hsuffices

/-- A sufficient digest has as many digits as are taken. -/
theorem length_encode_of_suffices {d : Bytes} {length : Length} (h : Suffices d length) :
    length.val - 1 ≤ (Base36.encode d).length := by
  apply Nat.not_lt.mp
  intro hshort
  exact absurd h.2 (Nat.not_le.mpr ((length_encode_lt_iff length d).1 hshort))

theorem length_fromDigest {d : Bytes} {length : Length} (random : Int)
    (h : Suffices d length) :
    (fromDigest (letter random) d length).length = length.val := by
  have henough := length_encode_of_suffices h
  have hmin : 4 ≤ length.val := length.le_val
  rw [fromDigest, List.length_append, length_letter, List.length_take]
  omega

theorem wellFormed_fromDigest {d : Bytes} {length : Length} (random : Int)
    (h : Suffices d length) :
    WellFormed length (fromDigest (letter random) d length) := by
  obtain ⟨first, hfirst, hletter⟩ := isLetter_letter random
  refine ⟨length_fromDigest random h, first, (Base36.encode d).take (length.val - 1),
    ?_, hletter, ?_⟩
  · rw [fromDigest, hfirst]
    rfl
  · intro c hc
    exact Base36.isBase36_of_mem_numeral (List.mem_of_mem_take hc)

end IdMint.Identifier
