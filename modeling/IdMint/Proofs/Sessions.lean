import IdMint.Session

/-!
# Sessions step by step

What is seen after a step of a session is what is seen after it in the world
that the steps before it have left (`World.getElem_session`), so that statements
about sessions come down to statements about single steps.
-/

namespace IdMint.World

theorem session_append (steps more : List Step) (w : World) :
    w.session (steps ++ more) =
      ((w.session steps).1 ++ ((w.session steps).2.session more).1,
        ((w.session steps).2.session more).2) := by
  induction steps generalizing w with
  | nil => rfl
  | cons step rest ih => simp only [List.cons_append, session, ih]

@[simp] theorem length_session (steps : List Step) (w : World) :
    (w.session steps).1.length = steps.length := by
  induction steps generalizing w with
  | nil => rfl
  | cons step rest ih => simp [session, ih]

/-- What is seen after a step depends on the steps before it only through the
world that they leave. -/
theorem getElem_session (steps : List Step) (w : World) (i : Nat)
    (hi : i < (w.session steps).1.length) :
    (w.session steps).1[i] =
      ((w.session (steps.take i)).2.observe (steps.get ⟨i, by simpa using hi⟩)).1 := by
  induction steps generalizing w i with
  | nil => simp [session] at hi
  | cons step rest ih =>
      cases i with
      | zero => rfl
      | succ i =>
          have hrest : i < ((w.observe step).2.session rest).1.length := by
            simpa [session] using hi
          exact ih (w.observe step).2 i hrest

/-- A step changes the world, be it the last of a session or not. -/
theorem session_concat_snd (steps : List Step) (step : Step) (w : World) :
    (w.session (steps ++ [step])).2 = (perform step (w.session steps).2).state := by
  rw [session_append]
  rfl

end IdMint.World
