import IdMint.Proofs.Counting
import IdMint.Proofs.Identifiers

/-!
# Words as bytes and back

An integer becomes a word in three ways that know nothing of each other.  `wrap64` shifts
it and takes a remainder, `Bytes.packLittle` writes its last digits down, and
`Bytes.toIntLittle` reads bytes with a sign, as a platform does that makes its random
integers of random bytes.  All of them come down to the balanced remainder: the bytes of
`v`, read with a sign, are `Int.bmod v (256 ^ width)`, and so is `wrap64 v` for eight bytes
(`Bytes.toIntLittle_packLittle`, `wrap64_eq_bmod`).

What is hashed for an identifier begins with two packed words.  They take eight bytes each,
whatever the integers are, so that the parts can be told from the whole once it is known how
long the fingerprint is (`Identifier.hashInput_unambiguous`).
-/

namespace IdMint

/-! ## Remainders -/

theorem wrap64_eq_bmod (v : Int) : wrap64 v = Int.bmod v (2 ^ 64) := by
  rw [Int.bmod_def]
  unfold wrap64 int64Min
  split <;> omega

/-- The wrapped integer is the only word that is congruent to it. -/
theorem eq_wrap64_iff {v w : Int} : w = wrap64 v ↔ IsInt64 w ∧ w % 2 ^ 64 = v % 2 ^ 64 := by
  constructor
  · rintro rfl
    exact ⟨isInt64_wrap64 v, wrap64_emod v⟩
  · rintro ⟨hw, heq⟩
    rw [← wrap64_of_isInt64 hw, wrap64_eq_iff]
    exact heq

namespace Bytes

theorem toNatLittle_lt (bytes : Bytes) : toNatLittle bytes < 256 ^ bytes.length := by
  induction bytes with
  | nil => decide
  | cons b rest ih =>
      have hb := b.toNat_lt
      rw [toNatLittle_cons, List.length_cons, Nat.pow_succ]
      omega

/-- Congruent integers have the same last digits. -/
theorem packLittle_congr {width : Nat} {v w : Int} (h : v % 256 ^ width = w % 256 ^ width) :
    packLittle width v = packLittle width w := by
  induction width generalizing v w with
  | zero => rfl
  | succ width ih =>
      rw [emod_pow_succ, emod_pow_succ] at h
      have hlast : v % 256 = w % 256 := by omega
      have hrest : v / 256 % 256 ^ width = w / 256 % 256 ^ width := by omega
      rw [packLittle, packLittle, hlast, ih hrest]

theorem packLittle_eq_iff (width : Nat) (v w : Int) :
    packLittle width v = packLittle width w ↔ v % 256 ^ width = w % 256 ^ width := by
  constructor
  · intro heq
    rw [← toNatLittle_packLittle, ← toNatLittle_packLittle, heq]
  · exact packLittle_congr

/-- Bytes are the digits of the number that they denote. -/
theorem packLittle_toNatLittle (bytes : Bytes) :
    packLittle bytes.length (toNatLittle bytes) = bytes := by
  induction bytes with
  | nil => rfl
  | cons b rest ih =>
      have hb := b.toNat_lt
      have hlast : ((toNatLittle (b :: rest) : Int) % 256).toNat = b.toNat := by
        rw [toNatLittle_cons]
        omega
      have hrest : (toNatLittle (b :: rest) : Int) / 256 = toNatLittle rest := by
        rw [toNatLittle_cons]
        omega
      rw [List.length_cons, packLittle, hlast, hrest, ih, UInt8.ofNat_toNat]

/-! ## Signed readings -/

theorem toIntLittle_eq_bmod (bytes : Bytes) :
    toIntLittle bytes = Int.bmod (toNatLittle bytes) (256 ^ bytes.length) := by
  have hlt := toNatLittle_lt bytes
  have hmod : (toNatLittle bytes : Int) % ((256 ^ bytes.length : Nat) : Int) =
      toNatLittle bytes := Int.emod_eq_of_lt (by omega) (by omega)
  rw [Int.bmod_def, hmod, toIntLittle, Nat.pow_eq]
  split <;> split <;> omega

/-- Bytes that are read with a sign and packed again are the same bytes. -/
theorem packLittle_toIntLittle (bytes : Bytes) :
    packLittle bytes.length (toIntLittle bytes) = bytes := by
  have hcongr : toIntLittle bytes % 256 ^ bytes.length =
      (toNatLittle bytes : Int) % 256 ^ bytes.length := by
    have h := Int.bmod_emod (x := (toNatLittle bytes : Int)) (m := 256 ^ bytes.length)
    rw [← toIntLittle_eq_bmod] at h
    exact_mod_cast h
  rw [packLittle_congr hcongr, packLittle_toNatLittle]

/-- An integer that is packed and read with a sign is its balanced remainder. -/
theorem toIntLittle_packLittle (width : Nat) (v : Int) :
    toIntLittle (packLittle width v) = Int.bmod v (256 ^ width) := by
  have hcast : (256 : Int) ^ width = ((256 ^ width : Nat) : Int) := by push_cast; rfl
  rw [toIntLittle_eq_bmod, toNatLittle_packLittle, length_packLittle, hcast, Int.emod_bmod]

/-! ## Words of eight bytes -/

/-- The two signed readings of an integer agree: as a word, and in its bytes. -/
theorem toIntLittle_pack64 (v : Int) : toIntLittle (pack64 v) = wrap64 v := by
  rw [wrap64_eq_bmod]
  exact toIntLittle_packLittle 8 v

theorem pack64_toIntLittle {bytes : Bytes} (h : bytes.length = 8) :
    pack64 (toIntLittle bytes) = bytes := by
  have hpacked := packLittle_toIntLittle bytes
  rw [h] at hpacked
  exact hpacked

/-- Eight bytes that are read with a sign are a signed 64-bit integer. -/
theorem isInt64_toIntLittle {bytes : Bytes} (h : bytes.length = 8) :
    IsInt64 (toIntLittle bytes) := by
  rw [← pack64_toIntLittle h, toIntLittle_pack64]
  exact isInt64_wrap64 _

/-- **Packing a word and reading it with a sign undo each other.**

Eight bytes that are read with a sign are a signed 64-bit integer, and packing that integer
gives the bytes again; so do the random integers of a platform that makes them of its random
bytes.  Every integer, whatever its size, is packed into eight bytes, which denote it modulo
`2 ^ 64`, and which are `wrap64` of it if they are read with a sign.  Integers are packed
alike exactly if they are congruent, and `wrap64` picks the one signed 64-bit integer among
those that are.  A word of four bytes denotes the integer modulo `2 ^ 32`. -/
theorem pack64_roundtrip :
    (∀ bytes : Bytes, bytes.length = 8 →
      IsInt64 (toIntLittle bytes) ∧ pack64 (toIntLittle bytes) = bytes) ∧
    (∀ p : Platform, p.integerSource = .stream →
      ∃ v, (Platform.randomInteger p).answer = .ok v ∧ IsInt64 v ∧ pack64 v = p.upcoming 8) ∧
    (∀ v : Int, (pack64 v).length = 8 ∧ (toNatLittle (pack64 v) : Int) = v % 2 ^ 64 ∧
      toIntLittle (pack64 v) = wrap64 v) ∧
    (∀ v w : Int, pack64 v = pack64 w ↔ v % 2 ^ 64 = w % 2 ^ 64) ∧
    (∀ v w : Int, w = wrap64 v ↔ (-2 ^ 63 ≤ w ∧ w ≤ 2 ^ 63 - 1) ∧ w % 2 ^ 64 = v % 2 ^ 64) ∧
    ∀ v : Int, (pack32 v).length = 4 ∧ (toNatLittle (pack32 v) : Int) = v % 2 ^ 32 := by
  refine ⟨?_, ?_, ?_, packLittle_eq_iff 8, fun v w => eq_wrap64_iff, ?_⟩
  · intro bytes hlength
    exact ⟨isInt64_toIntLittle hlength, pack64_toIntLittle hlength⟩
  · intro p hstream
    have hlength := p.length_upcoming 8
    refine ⟨toIntLittle (p.upcoming 8), ?_, isInt64_toIntLittle hlength,
      pack64_toIntLittle hlength⟩
    rw [Platform.randomInteger_apply, Platform.upcomingInteger, hstream]
  · intro v
    exact ⟨length_pack64 v, toNatLittle_packLittle 8 v, toIntLittle_pack64 v⟩
  · intro v
    exact ⟨length_pack32 v, toNatLittle_packLittle 4 v⟩

/-- The least word, in bytes and as the remainder of an integer that is no word. -/
theorem pack64_roundtrip_least :
    toIntLittle [0, 0, 0, 0, 0, 0, 0, 0x80] = int64Min ∧
      pack64 int64Min = [0, 0, 0, 0, 0, 0, 0, 0x80] ∧ wrap64 (3 * 2 ^ 63) = int64Min := by
  obtain ⟨hread, -, -, -, hwrap, -⟩ := pack64_roundtrip
  have hleast : toIntLittle [0, 0, 0, 0, 0, 0, 0, 0x80] = int64Min := by decide
  obtain ⟨-, hpacked⟩ := hread [0, 0, 0, 0, 0, 0, 0, 0x80] rfl
  rw [hleast] at hpacked
  exact ⟨hleast, hpacked, ((hwrap (3 * 2 ^ 63) int64Min).mpr (by decide)).symm⟩

end Bytes

/-! ## What is hashed -/

namespace Identifier

@[simp] theorem length_hashInput (t c : Int) (f r : Bytes) :
    (hashInput t c f r).length = 16 + f.length + r.length := by
  simp only [hashInput, List.length_append, Bytes.length_pack64]

/-- **The parts of what is hashed can be told from the whole**, although nothing in it says
where one ends and the next one begins.

Two words of eight bytes stand in front, whatever the integers are.  If the fingerprints have
the same length, the same bytes come of timestamps and counter values that are congruent
modulo `2 ^ 64`, of the same fingerprint and of the same random bytes, and of nothing
else. -/
theorem hashInput_unambiguous (t t' c c' : Int) (f f' r r' : Bytes) :
    (hashInput t c f r).length = 16 + f.length + r.length ∧
      (f.length = f'.length →
        (hashInput t c f r = hashInput t' c' f' r' ↔
          t % 2 ^ 64 = t' % 2 ^ 64 ∧ c % 2 ^ 64 = c' % 2 ^ 64 ∧ f = f' ∧ r = r')) := by
  refine ⟨length_hashInput t c f r, fun hlength => ?_⟩
  have hword := Bytes.packLittle_eq_iff 8
  constructor
  · intro heq
    obtain ⟨hfront, hrandom⟩ := List.append_inj heq (by simp [hlength])
    obtain ⟨hwords, hfingerprint⟩ := List.append_inj hfront (by simp)
    obtain ⟨htime, hcount⟩ := List.append_inj hwords (by simp)
    exact ⟨(hword t t').mp htime, (hword c c').mp hcount, hfingerprint, hrandom⟩
  · rintro ⟨htime, hcount, rfl, rfl⟩
    have ht : Bytes.pack64 t = Bytes.pack64 t' := (hword t t').mpr htime
    have hc : Bytes.pack64 c = Bytes.pack64 c' := (hword c c').mpr hcount
    rw [hashInput, hashInput, ht, hc]

/-- A clock before its epoch and one far beyond it, and a counter at the seam; as many random
bytes, and one more. -/
theorem hashInput_unambiguous_seam :
    hashInput (-1) int64Min [7] [1] = hashInput (2 ^ 64 - 1) (int64Max + 1) [7] [1] ∧
      hashInput (-1) int64Min [7] [1] ≠ hashInput (-1) int64Min [7] [1, 0] := by
  constructor
  · exact ((hashInput_unambiguous _ _ _ _ _ _ _ _).2 rfl).mpr (by decide)
  · intro heq
    have h := ((hashInput_unambiguous _ _ _ _ _ _ _ _).2 rfl).mp heq
    exact absurd h.2.2.2 (by decide)

/-- Fingerprints of different lengths can be confused. -/
example : hashInput 0 0 [1] [2] = hashInput 0 0 [] [1, 2] := by decide

end Identifier

end IdMint
