import IdMint.Proofs.Numerals
import Mathlib.Data.List.TakeWhile
import Mathlib.Order.Bounds.Basic

/-!
# Numerals and what they stand for

A byte string stands for a number to the base 256, and its numeral is written to the base
36, the highest digit first in both.  Reading digits in this order is Horner's rule
(`horner`), and a list of digits without a leading zero can be told from its number
(`eq_of_horner_eq`).

For texts this says that every number has one numeral and no other
(`Base36.isNumeral_numeral`, `Base36.IsNumeral.eq_numeral`), for byte strings that they stand
for one number exactly if they are the same after the zeros in front
(`Bytes.toNatBig_eq_iff`).  Together they say what `Base36.encode` makes of byte strings
(`Base36.encode_canonical`).
-/

namespace IdMint

/-! ## Lists of digits -/

/-- The number with given digits, the highest first. -/
def horner (base : Nat) (digits : List Nat) : Nat := digits.foldl (fun n d => base * n + d) 0

theorem horner_eq_ofDigits (base : Nat) (digits : List Nat) :
    horner base digits = Nat.ofDigits base digits.reverse := by
  rw [horner, List.foldl_eq_foldr_reverse, Nat.ofDigits_eq_foldr]
  simp [Nat.add_comm]

/-- No zero stands in front of other digits, and none by itself. -/
def NoLeadingZero (digits : List Nat) : Prop := digits.head? ≠ some 0

/-- Without a leading zero, the digits are those of the number in positional notation. -/
theorem digits_horner {base : Nat} (hbase : 1 < base) {digits : List Nat}
    (hlt : ∀ d ∈ digits, d < base) (hlead : NoLeadingZero digits) :
    Nat.digits base (horner base digits) = digits.reverse := by
  rw [horner_eq_ofDigits]
  refine Nat.digits_ofDigits base hbase _ (fun d hd => hlt d (List.mem_reverse.mp hd)) ?_
  intro hne hlast
  rw [List.getLast_reverse] at hlast
  exact hlead (by rw [← hlast, List.head?_eq_some_head])

/-- Digits without a leading zero can be told from their number. -/
theorem eq_of_horner_eq {base : Nat} (hbase : 1 < base) {digits others : List Nat}
    (hlt : ∀ d ∈ digits, d < base) (hlead : NoLeadingZero digits)
    (hlt' : ∀ d ∈ others, d < base) (hlead' : NoLeadingZero others)
    (h : horner base digits = horner base others) : digits = others := by
  rw [← List.reverse_inj, ← digits_horner hbase hlt hlead, ← digits_horner hbase hlt' hlead', h]

/-! ## Byte strings -/

namespace Bytes

theorem toNatBig_eq_horner (bytes : Bytes) :
    bytes.toNatBig = horner 256 (bytes.map UInt8.toNat) := by
  rw [toNatBig, horner, List.foldl_map]

/-- A byte string without the zeros in front. -/
def trimmed (bytes : Bytes) : Bytes := bytes.dropWhile (· = 0)

theorem toNatBig_trimmed (bytes : Bytes) : bytes.trimmed.toNatBig = bytes.toNatBig := by
  induction bytes with
  | nil => rfl
  | cons b rest ih =>
      by_cases hb : b = 0
      · rw [trimmed, List.dropWhile_cons_of_pos (by simpa using hb), hb]
        exact ih
      · rw [trimmed, List.dropWhile_cons_of_neg (by simpa using hb)]

theorem noLeadingZero_trimmed (bytes : Bytes) :
    NoLeadingZero (bytes.trimmed.map UInt8.toNat) := by
  intro hzero
  rw [List.head?_map, trimmed, ← List.find?_not_eq_head?_dropWhile] at hzero
  obtain ⟨b, hfound, hb⟩ := Option.map_eq_some_iff.mp hzero
  have hne : b ≠ 0 := by simpa using List.find?_some hfound
  exact hne (UInt8.toNat_inj.mp hb)

/-- Two byte strings stand for one number exactly if they are the same after the zeros in
front. -/
theorem toNatBig_eq_iff {bytes others : Bytes} :
    bytes.toNatBig = others.toNatBig ↔ bytes.trimmed = others.trimmed := by
  constructor
  · intro h
    rw [← toNatBig_trimmed bytes, ← toNatBig_trimmed others, toNatBig_eq_horner,
      toNatBig_eq_horner] at h
    have hlt : ∀ l : Bytes, ∀ d ∈ l.map UInt8.toNat, d < 256 := by
      intro l d hd
      obtain ⟨b, -, rfl⟩ := List.mem_map.mp hd
      exact b.toNat_lt
    have hmap := eq_of_horner_eq (by decide) (hlt _) (noLeadingZero_trimmed bytes) (hlt _)
      (noLeadingZero_trimmed others) h
    exact List.map_injective_iff.mpr (fun _ _ => UInt8.toNat_inj.mp) hmap
  · intro h
    rw [← toNatBig_trimmed bytes, ← toNatBig_trimmed others, h]

end Bytes

/-! ## Numerals -/

namespace Base36

/-- The value of a digit. -/
def digitValue (c : CodePoint) : Nat :=
  if c.val < 0x61 then c.val - 0x30 else c.val - 0x61 + 10

/-- The number that a text of digits stands for. -/
def value (t : Text) : Nat := horner 36 (t.map digitValue)

/-- A text is the numeral of a number: it has digits and nothing else, at least one of them;
it stands for the number; and it starts with `0` only if that is all of it. -/
structure IsNumeral (n : Nat) (t : Text) : Prop where
  ne_nil : t ≠ []
  isBase36 : ∀ c ∈ t, c.IsBase36
  value_eq : value t = n
  zero : ∀ rest, t = CodePoint.ofChar '0' :: rest → rest = []

theorem digitValue_digit {d : Nat} (hd : d < 36) : digitValue (digit d) = d := by
  have hall : ∀ d < 36, digitValue (digit d) = d := by decide
  exact hall d hd

theorem digitValue_lt {c : CodePoint} (hc : c.IsBase36) : digitValue c < 36 := by
  unfold CodePoint.IsBase36 CodePoint.IsLetter at hc
  unfold digitValue
  split <;> omega

theorem digit_digitValue {c : CodePoint} (hc : c.IsBase36) : digit (digitValue c) = c := by
  unfold CodePoint.IsBase36 CodePoint.IsLetter at hc
  apply Fin.ext
  unfold digit digitValue
  rcases hc with hdigit | hletter
  · rw [if_pos (by omega : c.val < 0x61), if_pos (by omega)]
    simp only [Fin.ofNat]
    omega
  · rw [if_neg (by omega : ¬ c.val < 0x61), if_neg (by omega)]
    simp only [Fin.ofNat]
    omega

theorem map_digitValue_digit {digits : List Nat} (hlt : ∀ d ∈ digits, d < 36) :
    (digits.map digit).map digitValue = digits := by
  rw [List.map_map]
  exact (List.map_congr_left fun d hd => digitValue_digit (hlt d hd)).trans digits.map_id

theorem map_digit_digitValue {t : Text} (ht : ∀ c ∈ t, c.IsBase36) :
    (t.map digitValue).map digit = t := by
  rw [List.map_map]
  exact (List.map_congr_left fun c hc => digit_digitValue (ht c hc)).trans t.map_id

theorem numeral_of_ne_zero {n : Nat} (hn : n ≠ 0) :
    numeral n = (Nat.digits 36 n).reverse.map digit := by
  rw [numeral, if_neg hn, digitValues_eq_digits]

/-- The values of the digits of a numeral are those of the positional notation. -/
theorem map_digitValue_numeral {n : Nat} (hn : n ≠ 0) :
    (numeral n).map digitValue = (Nat.digits 36 n).reverse := by
  rw [numeral_of_ne_zero hn]
  exact map_digitValue_digit fun d hd =>
    Nat.digits_lt_base (by decide) (List.mem_reverse.mp hd)

theorem isNumeral_numeral (n : Nat) : IsNumeral n (numeral n) := by
  by_cases hn : n = 0
  · subst hn
    exact ⟨by decide, fun c hc => isBase36_of_mem_numeral hc, by decide,
      fun rest h => (List.cons.inj h).2.symm⟩
  · have hvalues := map_digitValue_numeral hn
    have hdigits : Nat.digits 36 n ≠ [] := Nat.digits_ne_nil_iff_ne_zero.mpr hn
    refine ⟨?_, fun c hc => isBase36_of_mem_numeral hc, ?_, ?_⟩
    · intro hnil
      rw [hnil] at hvalues
      exact hdigits (List.reverse_eq_nil_iff.mp hvalues.symm)
    · rw [value, hvalues, horner_eq_ofDigits, List.reverse_reverse, Nat.ofDigits_digits]
    · -- the highest digit is the last one split off, and that one is not zero
      intro rest hrest
      rw [hrest, List.map_cons] at hvalues
      have hlast : (Nat.digits 36 n).getLast hdigits = 0 := by
        have hhead := congrArg List.head? hvalues
        rw [List.head?_reverse, List.getLast?_eq_some_getLast hdigits] at hhead
        exact (Option.some.inj hhead).symm
      exact absurd hlast (Nat.getLast_digit_ne_zero 36 hn)

/-- A number has no other numeral. -/
theorem IsNumeral.eq_numeral {n : Nat} {t : Text} (ht : IsNumeral n t) : t = numeral n := by
  have hvalue := ht.value_eq
  by_cases hlead : NoLeadingZero (t.map digitValue)
  · have hlt : ∀ d ∈ t.map digitValue, d < 36 := by
      intro d hd
      obtain ⟨c, hc, rfl⟩ := List.mem_map.mp hd
      exact digitValue_lt (ht.isBase36 c hc)
    have hdigits := digits_horner (by decide) hlt hlead
    have hn : n ≠ 0 := by
      rintro rfl
      rw [show horner 36 (t.map digitValue) = 0 from hvalue, Nat.digits_zero] at hdigits
      exact ht.ne_nil (List.map_eq_nil_iff.mp (List.reverse_eq_nil_iff.mp hdigits.symm))
    calc t = (t.map digitValue).map digit := (map_digit_digitValue ht.isBase36).symm
      _ = (Nat.digits 36 n).reverse.map digit := by
          rw [← hvalue, value, hdigits, List.reverse_reverse]
      _ = numeral n := (numeral_of_ne_zero hn).symm
  · -- the text starts with `0`, and so it is `0`
    rw [NoLeadingZero, not_not, List.head?_map] at hlead
    obtain ⟨c, hhead, hc⟩ := Option.map_eq_some_iff.mp hlead
    obtain ⟨rest, hrest⟩ := List.head?_eq_some_iff.mp hhead
    have hzero : c = CodePoint.ofChar '0' := by
      rw [← digit_digitValue (ht.isBase36 c (List.mem_of_mem_head? hhead)), hc]
      rfl
    have hall : t = [CodePoint.ofChar '0'] := by
      rw [hrest, hzero, ht.zero rest (by rw [hrest, hzero])]
    rw [← hvalue, hall]
    rfl

/-- The length of a numeral is the least number of digits with room for the number. -/
theorem isLeast_length_numeral (n : Nat) :
    IsLeast {d | 1 ≤ d ∧ n < 36 ^ d} (numeral n).length := by
  have hpos : 0 < (numeral n).length :=
    List.length_pos_iff.mpr (isNumeral_numeral n).ne_nil
  constructor
  · exact ⟨hpos, (length_numeral_le_iff hpos).mp (Nat.le_refl _)⟩
  · rintro d ⟨hd, hlt⟩
    exact (length_numeral_le_iff hd).mpr hlt

theorem numeral_inj {m n : Nat} : numeral m = numeral n ↔ m = n := by
  constructor
  · intro h
    rw [← (isNumeral_numeral m).value_eq, h, (isNumeral_numeral n).value_eq]
  · exact congrArg numeral

/-- The text made of a byte string is the one numeral of the number that the bytes stand
for, in as few digits as this number fits in; so two byte strings get one text exactly if
they are the same after the zeros in front. -/
theorem encode_canonical (bytes : Bytes) :
    IsNumeral bytes.toNatBig (encode bytes) ∧
      (∀ t, IsNumeral bytes.toNatBig t → t = encode bytes) ∧
      IsLeast {d | 1 ≤ d ∧ bytes.toNatBig < 36 ^ d} (encode bytes).length ∧
      ∀ others : Bytes, encode bytes = encode others ↔ bytes.trimmed = others.trimmed := by
  refine ⟨isNumeral_numeral _, fun t ht => ht.eq_numeral, isLeast_length_numeral _, ?_⟩
  intro others
  rw [encode, encode, numeral_inj, Bytes.toNatBig_eq_iff]

end Base36

end IdMint
