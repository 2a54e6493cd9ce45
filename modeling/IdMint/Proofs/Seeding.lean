import IdMint.Proofs.Packing
import Mathlib.Data.Set.Function
import Mathlib.RingTheory.Int.Basic

/-!
# Seeding

A seed is a random integer times a factor, wrapped.  All that matters about the factor is that
it is odd: it is prime to `2 ^ 64` then, and Euclid's algorithm finds an inverse of it.  Wrapping
leaves an integer as it is modulo `2 ^ 64`, so that multiplying a seed by that inverse leads
back to the random integer, or to the word that is congruent to it (`seedOrigin_seedValue`).

Seeding is therefore a permutation of the signed 64-bit integers (`bijOn_seedValue`), and the
first value of a counter tells all of the random bytes that it has been made of
(`Counter.answer_seed_eq_iff_of_stream`).
-/

namespace IdMint

/-! ## The inverse of the factor -/

/-- Nothing else is used of the factor. -/
theorem odd_seedFactor : Odd seedFactor := by decide

/-- The inverse of the factor modulo `2 ^ 64`. -/
def seedFactorInverse : Int := Int.gcdA seedFactor (2 ^ 64)

theorem seedFactor_mul_inverse : seedFactor * seedFactorInverse % 2 ^ 64 = 1 := by
  have hcoprime : IsCoprime seedFactor (2 ^ 64) :=
    (Int.isCoprime_two_right.mpr odd_seedFactor).pow_right
  have hbezout := Int.gcd_eq_gcd_ab seedFactor (2 ^ 64)
  rw [Int.isCoprime_iff_gcd_eq_one.mp hcoprime] at hbezout
  -- What the other coefficient contributes is a multiple of `2 ^ 64`.
  unfold seedFactorInverse
  omega

/-- Multiplying by the factor and by its inverse leaves a word as it is. -/
theorem wrap64_mul_seedFactor_mul_inverse (v : Int) :
    wrap64 (v * (seedFactor * seedFactorInverse)) = wrap64 v := by
  rw [wrap64_eq_iff, Int.mul_emod, seedFactor_mul_inverse, Int.mul_one, Int.emod_emod]

/-- Whether a factor is wrapped does not matter for the wrapped product. -/
theorem wrap64_wrap64_mul (v factor : Int) : wrap64 (wrap64 v * factor) = wrap64 (v * factor) := by
  rw [wrap64_eq_iff, Int.mul_emod, wrap64_emod, ← Int.mul_emod]

/-! ## Seeds and what they are made of -/

/-- Only the last sixty-four bits of a random integer matter for the seed. -/
theorem seedValue_wrap64 (a : Int) : seedValue (wrap64 a) = seedValue a :=
  wrap64_wrap64_mul a seedFactor

/-- The signed 64-bit integer that a seed is made of. -/
def seedOrigin (seed : Int) : Int := wrap64 (seed * seedFactorInverse)

theorem seedOrigin_seedValue (a : Int) : seedOrigin (seedValue a) = wrap64 a := by
  calc
    seedOrigin (seedValue a) = wrap64 (a * seedFactor * seedFactorInverse) :=
      wrap64_wrap64_mul _ _
    _ = wrap64 (a * (seedFactor * seedFactorInverse)) := by rw [Int.mul_assoc]
    _ = wrap64 a := wrap64_mul_seedFactor_mul_inverse a

theorem seedValue_seedOrigin (v : Int) : seedValue (seedOrigin v) = wrap64 v := by
  calc
    seedValue (seedOrigin v) = wrap64 (v * seedFactorInverse * seedFactor) :=
      wrap64_wrap64_mul _ _
    _ = wrap64 (v * (seedFactor * seedFactorInverse)) := by
      rw [Int.mul_assoc, Int.mul_comm seedFactorInverse]
    _ = wrap64 v := wrap64_mul_seedFactor_mul_inverse v

theorem seedValue_eq_iff (a b : Int) : seedValue a = seedValue b ↔ a % 2 ^ 64 = b % 2 ^ 64 := by
  rw [← wrap64_eq_iff]
  constructor
  · intro heq
    rw [← seedOrigin_seedValue, heq, seedOrigin_seedValue]
  · intro heq
    rw [← seedValue_wrap64, heq, seedValue_wrap64]

/-- On signed 64-bit integers, seeds and what they are made of determine each other. -/
theorem invOn_seedOrigin : Set.InvOn seedOrigin seedValue {a | IsInt64 a} {v | IsInt64 v} := by
  constructor
  · intro a ha
    rw [seedOrigin_seedValue, wrap64_of_isInt64 ha]
  · intro v hv
    rw [seedValue_seedOrigin, wrap64_of_isInt64 hv]

theorem bijOn_seedValue : Set.BijOn seedValue {a | IsInt64 a} {v | IsInt64 v} := by
  apply invOn_seedOrigin.bijOn
  · intro a _
    exact isInt64_wrap64 _
  · intro v _
    exact isInt64_wrap64 _

/-! ## Drawing a seed -/

/-- Eight bytes are told apart by what their signed reading is modulo `2 ^ 64`. -/
theorem Bytes.toIntLittle_emod_eq_iff {bytes others : Bytes} (hlength : bytes.length = 8)
    (hlength' : others.length = 8) :
    toIntLittle bytes % 2 ^ 64 = toIntLittle others % 2 ^ 64 ↔ bytes = others := by
  constructor
  · intro hcongr
    rw [← pack64_toIntLittle hlength, ← pack64_toIntLittle hlength']
    exact packLittle_congr hcongr
  · rintro rfl
    rfl

theorem Platform.upcomingInteger_of_stream {p : Platform} (h : p.integerSource = .stream) :
    p.upcomingInteger = Bytes.toIntLittle (p.upcoming 8) := by
  rw [upcomingInteger, h]

namespace Counter

theorem answer_seed (p : Platform) : (seed p).answer = .ok (seedValue p.upcomingInteger) := by
  simp [seed, Act.bind_apply, Platform.randomInteger_apply, Except.map]

theorem answer_seed_eq_iff (p q : Platform) :
    (seed p).answer = (seed q).answer ↔
      p.upcomingInteger % 2 ^ 64 = q.upcomingInteger % 2 ^ 64 := by
  rw [answer_seed, answer_seed, Except.ok.injEq, seedValue_eq_iff]

/-- A seed that is drawn from random bytes tells all the eight of them. -/
theorem answer_seed_eq_iff_of_stream {p q : Platform} (hp : p.integerSource = .stream)
    (hq : q.integerSource = .stream) :
    (seed p).answer = (seed q).answer ↔ p.upcoming 8 = q.upcoming 8 := by
  rw [answer_seed_eq_iff, Platform.upcomingInteger_of_stream hp,
    Platform.upcomingInteger_of_stream hq]
  exact Bytes.toIntLittle_emod_eq_iff (p.length_upcoming 8) (q.length_upcoming 8)

end Counter

/-- **Seeding loses no entropy.**

Random integers, whatever their size, make the same seed exactly if they are congruent modulo
`2 ^ 64`.  Every signed 64-bit integer is the seed of one signed 64-bit integer and of no other,
so that seeding permutes them.  Hence two counters draw the same seed exactly if their platforms
answer with congruent random integers, and, where these are made of random bytes, exactly if the
next eight bytes are the same. -/
theorem seedValue_lossless :
    (∀ a b : Int, seedValue a = seedValue b ↔ a % 2 ^ 64 = b % 2 ^ 64) ∧
    (∀ v : Int, -2 ^ 63 ≤ v ∧ v ≤ 2 ^ 63 - 1 →
      ∃! a : Int, (-2 ^ 63 ≤ a ∧ a ≤ 2 ^ 63 - 1) ∧ seedValue a = v) ∧
    Set.BijOn seedValue {a | -2 ^ 63 ≤ a ∧ a ≤ 2 ^ 63 - 1} {v | -2 ^ 63 ≤ v ∧ v ≤ 2 ^ 63 - 1} ∧
    (∀ p q : Platform, (Counter.seed p).answer = (Counter.seed q).answer ↔
      p.upcomingInteger % 2 ^ 64 = q.upcomingInteger % 2 ^ 64) ∧
    ∀ p q : Platform, p.integerSource = .stream → q.integerSource = .stream →
      ((Counter.seed p).answer = (Counter.seed q).answer ↔ p.upcoming 8 = q.upcoming 8) := by
  refine ⟨seedValue_eq_iff, ?_, bijOn_seedValue, Counter.answer_seed_eq_iff, ?_⟩
  · intro v hv
    obtain ⟨a, ha, hseed⟩ := bijOn_seedValue.surjOn hv
    refine ⟨a, ⟨ha, hseed⟩, ?_⟩
    rintro b ⟨hb, hseed'⟩
    exact bijOn_seedValue.injOn hb ha (hseed'.trans hseed.symm)
  · intro p q hp hq
    exact Counter.answer_seed_eq_iff_of_stream hp hq

/-- The one word whose seed is the greatest, an integer beyond the words with the same seed, and
two platforms whose random bytes differ in the sign bit only. -/
theorem seedValue_lossless_greatest :
    (∀ a, IsInt64 a → seedValue a = int64Max → a = 2238910485730190113) ∧
    seedValue 57579142706858844961 = seedValue 2238910485730190113 ∧
    let p : Platform := { (default : Platform) with integerSource := .stream }
    let q : Platform := { p with stream := fun i => if i = 7 then 0x80 else 0 }
    (Counter.seed p).answer ≠ (Counter.seed q).answer := by
  obtain ⟨hsame, hone, -, -, hbytes⟩ := seedValue_lossless
  refine ⟨?_, (hsame _ _).mpr (by decide), ?_⟩
  · intro a ha heq
    have hgreatest : seedValue 2238910485730190113 = int64Max := by decide
    exact (hone int64Max (by decide)).unique ⟨ha, heq⟩ ⟨by decide, hgreatest⟩
  · intro p q heq
    have hsameBytes := (hbytes p q rfl rfl).mp heq
    exact absurd hsameBytes (by decide)

/-- An even factor would lose the sign. -/
example : wrap64 (2 ^ 63 * 2) = wrap64 (0 * 2) := by decide

end IdMint
