import IdMint.Value.Literal
import Mathlib.Algebra.Group.Nat.Defs

/-!
# Values that can be written

Some integers are too long to have a numeral.  A value has a literal form exactly if
all integers in it can be written (`Value.writtenIf_literal`), and if it has none,
the length of one of its integers is the only reason.
-/

namespace IdMint

/-- Integers of up to `digitLimit` digits can be written. -/
theorem Decimal.isWritable_of_natAbs_lt {n : Int} {digits : Nat}
    (hn : n.natAbs < 10 ^ digits) (hdigits : digits ≤ digitLimit) :
    isWritable n = true := by
  have hpow : 10 ^ digits ≤ 10 ^ digitLimit := Nat.pow_le_pow_right (by decide) hdigits
  rw [isWritable, decide_eq_true_iff, Nat.pow_eq]
  omega

/-- Integers of more digits cannot. -/
theorem Decimal.not_isWritable_of_le {n : Nat} (hn : 10 ^ digitLimit ≤ n) :
    ¬isWritable n = true := by
  rw [isWritable, decide_eq_true_iff, Nat.pow_eq]
  omega

/-- A text or a part of it is written exactly under a condition, and fails to be
written for no reason but the length of an integer. -/
def WrittenIf {α : Type} (condition : Prop) (written : Except Fault α) : Prop :=
  (condition ∧ ∃ a, written = .ok a) ∨ (¬condition ∧ written = .error .unwritable)

namespace WrittenIf

variable {α β : Type} {p q : Prop} {written : Except Fault α}

theorem of_ok (a : α) : WrittenIf True (.ok a) := Or.inl ⟨trivial, a, rfl⟩

theorem congr (h : WrittenIf p written) (hpq : p ↔ q) : WrittenIf q written := by
  rw [← propext hpq]
  exact h

theorem exists_iff (h : WrittenIf p written) : (∃ a, written = .ok a) ↔ p := by
  rcases h with ⟨hp, hok⟩ | ⟨hp, herror⟩
  · exact iff_of_true hok hp
  · refine iff_of_false ?_ hp
    rintro ⟨a, hok⟩
    rw [herror] at hok
    cases hok

theorem eq_error (h : WrittenIf p written) (hp : ¬p) : written = .error .unwritable := by
  rcases h with ⟨hp', -⟩ | ⟨-, herror⟩
  · exact absurd hp' hp
  · exact herror

theorem map (h : WrittenIf p written) (f : α → β) : WrittenIf p (written.map f) := by
  rcases h with ⟨hp, a, rfl⟩ | ⟨hp, rfl⟩
  · exact Or.inl ⟨hp, f a, rfl⟩
  · exact Or.inr ⟨hp, rfl⟩

theorem bind {next : α → Except Fault β} (h : WrittenIf p written)
    (hnext : ∀ a, WrittenIf q (next a)) : WrittenIf (p ∧ q) (written >>= next) := by
  rcases h with ⟨hp, a, rfl⟩ | ⟨hp, rfl⟩
  · rcases hnext a with ⟨hq, b, hb⟩ | ⟨hq, herror⟩
    · exact Or.inl ⟨⟨hp, hq⟩, b, hb⟩
    · exact Or.inr ⟨fun hpq => hq hpq.2, herror⟩
  · exact Or.inr ⟨fun hpq => hp hpq.1, rfl⟩

end WrittenIf

namespace Value

mutual

/-- No integer in the literal form of a value is too long to be written. -/
def isWritable : Value → Bool
  | int n => Decimal.isWritable n
  | list items | set items => areWritable items
  | pair a b => a.isWritable && b.isWritable
  | dict entries => entriesAreWritable entries
  | object _ _ shown => shown.isSome
  | _ => true

/-- None in the members of a collection is. -/
def areWritable : List Value → Bool
  | [] => true
  | v :: rest => v.isWritable && areWritable rest

/-- None in the entries of a dictionary is. -/
def entriesAreWritable : List (Value × Value) → Bool
  | [] => true
  | (k, v) :: rest => k.isWritable && v.isWritable && entriesAreWritable rest

end

theorem isWritable_of_mem_entries {entries : List (Value × Value)} {k v : Value}
    (h : entriesAreWritable entries = true) (hmem : (k, v) ∈ entries) : v.isWritable = true := by
  induction entries with
  | nil => cases hmem
  | cons entry rest ih =>
      obtain ⟨k', v'⟩ := entry
      simp only [entriesAreWritable, Bool.and_eq_true] at h
      rcases List.mem_cons.mp hmem with heq | hrest
      · obtain ⟨rfl, rfl⟩ := Prod.mk.inj heq
        exact h.1.2
      · exact ih h.2 hrest

/-- The value can be written. -/
def Writable (v : Value) : Prop := v.isWritable = true

instance (v : Value) : Decidable v.Writable :=
  inferInstanceAs (Decidable (v.isWritable = true))

theorem writtenIf_integer (n : Int) :
    WrittenIf (Decimal.isWritable n = true) (integer n) := by
  by_cases hn : Decimal.isWritable n = true
  · exact Or.inl ⟨hn, _, by rw [integer, if_pos hn]⟩
  · exact Or.inr ⟨hn, by rw [integer, if_neg hn]⟩

mutual

/-- A value has a literal form exactly if all of its integers can be written. -/
theorem writtenIf_literal (v : Value) : WrittenIf v.Writable v.literal := by
  cases v with
  | int n =>
      rw [literal]
      exact (writtenIf_integer n).congr (by simp [Writable, isWritable])
  | list items =>
      rw [literal]
      exact ((writtenIf_literals items).map _).congr (by simp [Writable, isWritable])
  | set items =>
      rw [literal]
      exact ((writtenIf_literals items).map _).congr (by simp [Writable, isWritable])
  | pair a b =>
      rw [literal]
      refine ((writtenIf_literal a).bind fun s =>
        (writtenIf_literal b).bind fun t => WrittenIf.of_ok _).congr ?_
      simp only [Writable, isWritable, Bool.and_eq_true, and_true]
  | dict entries =>
      rw [literal]
      exact ((writtenIf_entryLiterals entries).map _).congr (by simp [Writable, isWritable])
  | object kind index shown =>
      cases shown with
      | some shown =>
          rw [literal]
          exact (WrittenIf.of_ok shown).congr (by simp [Writable, isWritable])
      | none =>
          rw [literal]
          exact Or.inr ⟨by simp [Writable, isWritable], rfl⟩
  | _ =>
      rw [literal]
      exact (WrittenIf.of_ok _).congr (by simp [Writable, isWritable])

theorem writtenIf_literals (items : List Value) :
    WrittenIf (areWritable items = true) (literals items) := by
  cases items with
  | nil =>
      rw [literals]
      exact (WrittenIf.of_ok _).congr (by simp [areWritable])
  | cons v rest =>
      rw [literals]
      refine ((writtenIf_literal v).bind fun t =>
        (writtenIf_literals rest).bind fun parts => WrittenIf.of_ok _).congr ?_
      simp only [Writable, areWritable, Bool.and_eq_true, and_true]

theorem writtenIf_entryLiterals (entries : List (Value × Value)) :
    WrittenIf (entriesAreWritable entries = true) (entryLiterals entries) := by
  cases entries with
  | nil =>
      rw [entryLiterals]
      exact (WrittenIf.of_ok _).congr (by simp [entriesAreWritable])
  | cons entry rest =>
      obtain ⟨k, v⟩ := entry
      rw [entryLiterals]
      refine ((writtenIf_literal k).bind fun s => (writtenIf_literal v).bind fun t =>
        (writtenIf_entryLiterals rest).bind fun parts => WrittenIf.of_ok _).congr ?_
      simp only [Writable, entriesAreWritable, Bool.and_eq_true, and_true, and_assoc]

end

/-- What is shown of a value on its own can be written exactly if all of its integers
can. -/
theorem writtenIf_display (v : Value) : WrittenIf v.Writable v.display := by
  cases v with
  | text t =>
      rw [display]
      exact (WrittenIf.of_ok _).congr (by simp [Writable, isWritable])
  | date d =>
      rw [display]
      exact (WrittenIf.of_ok _).congr (by simp [Writable, isWritable])
  | timestamp t =>
      rw [display]
      exact (WrittenIf.of_ok _).congr (by simp [Writable, isWritable])
  | _ => exact writtenIf_literal _

end Value

end IdMint
