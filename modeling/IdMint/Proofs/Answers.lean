/-!
# Computations that may fail, taken apart

A computation without effects that consists of two, one after the other, answers
if both do, and fails for the reason of the first one that fails.  The statements
here take an answer, or a fault, back to the computation that it came from, so
that a proof goes through the parts of a computation in their order.
-/

namespace Except

variable {ε α β : Type} {x : Except ε α} {f : α → β} {next : α → Except ε β} {b : β} {e : ε}

theorem bind_eq_ok_iff : x >>= next = .ok b ↔ ∃ a, x = .ok a ∧ next a = .ok b := by
  cases x with
  | error e =>
      constructor
      · intro h
        cases h
      · rintro ⟨a, h, -⟩
        cases h
  | ok a =>
      constructor
      · intro h
        exact ⟨a, rfl, h⟩
      · rintro ⟨c, hc, h⟩
        rw [← Except.ok.inj hc] at h
        exact h

theorem bind_eq_error_iff :
    x >>= next = .error e ↔ x = .error e ∨ ∃ a, x = .ok a ∧ next a = .error e := by
  cases x with
  | error e' =>
      constructor
      · intro h
        exact Or.inl (congrArg Except.error (Except.error.inj h))
      · rintro (h | ⟨a, h, -⟩)
        · rw [Except.error.inj h]
          rfl
        · cases h
  | ok a =>
      constructor
      · intro h
        exact Or.inr ⟨a, rfl, h⟩
      · rintro (h | ⟨c, hc, h⟩)
        · cases h
        · rw [← Except.ok.inj hc] at h
          exact h

theorem map_eq_ok_iff : x.map f = .ok b ↔ ∃ a, x = .ok a ∧ f a = b := by
  cases x with
  | error e => simp [Except.map]
  | ok a => simp [Except.map]

theorem map_eq_error_iff : x.map f = .error e ↔ x = .error e := by
  cases x with
  | error e' => simp [Except.map]
  | ok a => simp [Except.map]

theorem toOption_eq_some_iff {a : α} : x.toOption = some a ↔ x = .ok a := by
  cases x with
  | error e => simp [Except.toOption]
  | ok c => simp [Except.toOption]

theorem mapError_eq_ok_iff {δ : Type} {g : ε → δ} {a : α} :
    x.mapError g = .ok a ↔ x = .ok a := by
  cases x with
  | error e =>
      refine iff_of_false (fun h => ?_) (fun h => ?_)
      · cases h
      · cases h
  | ok c =>
      show Except.ok c = .ok a ↔ _
      rw [Except.ok.injEq, Except.ok.injEq]

theorem mapError_eq_error_iff {δ : Type} {g : ε → δ} {d : δ} :
    x.mapError g = .error d ↔ ∃ e, x = .error e ∧ g e = d := by
  cases x with
  | error e =>
      show Except.error (g e) = .error d ↔ _
      simp
  | ok c =>
      show Except.ok c = .error d ↔ _
      simp

/-- The error that a computation fails with, if it fails. -/
def error? : Except ε α → Option ε
  | .error e => some e
  | .ok _ => none

theorem error?_eq_some_iff : x.error? = some e ↔ x = .error e := by
  cases x with
  | error e' => simp [error?]
  | ok a => simp [error?]

/-- Computations on the members of a list succeed one after another if and only
if all of them do. -/
theorem exists_mapM_eq_ok_iff {g : α → Except ε β} {l : List α} :
    (∃ results, l.mapM g = .ok results) ↔ ∀ a ∈ l, ∃ b, g a = .ok b := by
  induction l with
  | nil => exact iff_of_true ⟨[], rfl⟩ (by simp)
  | cons a rest ih =>
      rw [List.forall_mem_cons, ← ih]
      constructor
      · rintro ⟨results, h⟩
        rw [List.mapM_cons] at h
        obtain ⟨b, hb, h⟩ := bind_eq_ok_iff.mp h
        obtain ⟨more, hmore, -⟩ := bind_eq_ok_iff.mp h
        exact ⟨⟨b, hb⟩, more, hmore⟩
      · rintro ⟨⟨b, hb⟩, more, hmore⟩
        refine ⟨b :: more, ?_⟩
        rw [List.mapM_cons, hb, hmore]
        rfl

/-- They fail for the reason of one of them. -/
theorem exists_of_mapM_eq_error {g : α → Except ε β} {l : List α}
    (h : l.mapM g = .error e) : ∃ a ∈ l, g a = .error e := by
  induction l with
  | nil => cases h
  | cons a rest ih =>
      rw [List.mapM_cons] at h
      rcases bind_eq_error_iff.mp h with ha | ⟨b, -, h⟩
      · exact ⟨a, List.mem_cons_self, ha⟩
      · rcases bind_eq_error_iff.mp h with hrest | ⟨more, -, hdone⟩
        · obtain ⟨c, hc, hfault⟩ := ih hrest
          exact ⟨c, List.mem_cons_of_mem a hc, hfault⟩
        · cases hdone

end Except
