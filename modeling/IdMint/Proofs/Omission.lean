import IdMint.Proofs.SetUpOnce

/-!
# Requests that might as well not have been made

A request for a length that is not acceptable is turned down before anything is read,
drawn or counted.  So it can be left out of a session, and nobody who looks at the
other steps will notice: neither what they give, nor what they note down, nor what
is seen of clocks, counters and platforms after them.

The step lemma is `World.state_perform_of_rejected`.  That a session without its idle
steps goes as it would have gone with them holds of all steps that leave every world
as it is (`World.session_filter`).
-/

namespace IdMint

/-- The length is acceptable: this can be found out. -/
instance (v : Value) : Decidable v.FitsLength :=
  decidable_of_iff ((Length.ofValue v).isOk = true) (by
    rw [← Length.exists_ofValue_iff]
    cases Length.ofValue v with
    | error rejection => simp [Except.isOk, Except.toBool]
    | ok length => simp [Except.isOk, Except.toBool])

namespace Step

/-- The step is a request, of either kind, for a length that is not acceptable. -/
def IsRejected : Step → Prop
  | tryGenerate _ length | generate _ length => ¬(requestedLength length).FitsLength
  | nextCounts _ _ | setCounter _ _ | fingerprint _ | changePlatform _ _ | setClock _ _
  | setPrimitive _ _ | nextCountsInThreads _ _ _ | generateInThreads _ _ _ _ => False

instance : DecidablePred IsRejected := fun step => by
  cases step <;> unfold IsRejected <;> infer_instance

end Step

namespace World

/-- A length that is not acceptable has a rejection, and the request comes to that. -/
theorem tryGenerate_of_not_fits {length : Value} (g : Nat) (h : ¬length.FitsLength) :
    ∃ rejection, tryGenerate g length = reject length rejection := by
  cases hlength : Length.ofValue length with
  | ok n => exact absurd (Length.exists_ofValue_iff.mp ⟨n, hlength⟩) h
  | error rejection => exact ⟨rejection, tryGenerate_of_error g hlength⟩

/-- A request that is turned down leaves every world as it is. -/
theorem state_perform_of_rejected {step : Step} (h : step.IsRejected) (w : World) :
    (perform step w).state = w := by
  cases step with
  | tryGenerate g length =>
      obtain ⟨rejection, hreject⟩ := tryGenerate_of_not_fits g h
      rw [perform, Act.map_apply, hreject]
      exact state_reject _ rejection w
  | generate g length =>
      obtain ⟨rejection, hreject⟩ := tryGenerate_of_not_fits g h
      rw [perform, Act.map_apply]
      show (generate g (requestedLength length) w).state = w
      rw [state_generate, hreject]
      exact state_reject _ rejection w
  | nextCounts | setCounter | fingerprint | changePlatform | setClock | setPrimitive
    | nextCountsInThreads | generateInThreads => exact absurd h id

/-- Steps that leave every world as it is can be left out of a session: what is seen
after the others, and the world at the end, are the same. -/
theorem session_filter {keep : Step → Bool}
    (hidle : ∀ step, keep step = false → ∀ w, (perform step w).state = w)
    (steps : List Step) (w : World) :
    w.session (steps.filter keep) =
      (((steps.zip (w.session steps).1).filter fun seen => keep seen.1).map Prod.snd,
        (w.session steps).2) := by
  induction steps generalizing w with
  | nil => rfl
  | cons step rest ih =>
      have hrest := ih (w.observe step).2
      cases hkeep : keep step with
      | true => simp [session, hkeep, hrest]
      | false =>
          have hsame : (w.observe step).2 = w := hidle step hkeep w
          rw [hsame] at hrest
          simp [session, hkeep, hrest, hsame]

/-- **Requests that are turned down leave no trace.**  If they are deleted from a
session, whatever the generators share and wherever in the session they stand, the
results, the journal and all that is seen after each of the remaining steps are what
they were, and so is the world at the end. -/
theorem session_without_rejected (steps : List Step) (w : World) :
    w.session (steps.filter fun step => ¬step.IsRejected) =
      (((steps.zip (w.session steps).1).filter fun seen => ¬seen.1.IsRejected).map Prod.snd,
        (w.session steps).2) := by
  apply session_filter
  intro step hstep
  have hrejected : step.IsRejected := by simpa using hstep
  exact state_perform_of_rejected hrejected

end World

end IdMint
