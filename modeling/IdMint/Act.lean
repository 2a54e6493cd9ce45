import IdMint.Journal.Entry

/-!
# Actions

An action works on a state, may fail, and notes down journal entries. A failure
does not undo anything: `Run` keeps the state and the entries beside the answer,
so that what a failed action has already done stays done. This is what allows
statements such as "the counter advances even if the hashing fails afterwards".
-/

namespace IdMint

/-- What came of an action: its answer or its fault, the state it left, and what
it noted down. -/
structure Run (σ α : Type) where
  answer : Except Fault α
  state : σ
  entries : List Entry

/-- An action on a state. -/
def Act (σ α : Type) : Type := σ → Run σ α

namespace Act

variable {σ τ α β : Type}

/-- Performs an action. -/
def run (act : Act σ α) (s : σ) : Run σ α := act s

/-- Answers without doing anything. -/
protected def pure (a : α) : Act σ α := fun s => ⟨.ok a, s, []⟩

/-- One action, and then another that depends on its answer; a fault ends the
whole. -/
protected def bind (act : Act σ α) (next : α → Act σ β) : Act σ β := fun s =>
  match act s with
  | ⟨.error fault, s, entries⟩ => ⟨.error fault, s, entries⟩
  | ⟨.ok a, s, entries⟩ =>
    let r := next a s
    ⟨r.answer, r.state, entries ++ r.entries⟩

instance : Monad (Act σ) where
  pure := Act.pure
  bind := Act.bind

/-- Fails. -/
def fail (fault : Fault) : Act σ α := fun s => ⟨.error fault, s, []⟩

/-- Answers or fails as a computation without effects did. -/
def ofExcept (answer : Except Fault α) : Act σ α := fun s => ⟨answer, s, []⟩

/-- Notes an event down. -/
def note (severity : Severity) (event : Text) (fields : List (Text × Value)) : Act σ Unit :=
  fun s => ⟨.ok (), s, [⟨severity, event, fields⟩]⟩

/-- The present state. -/
def state : Act σ σ := fun s => ⟨.ok s, s, []⟩

/-- Changes the state. -/
def change (f : σ → σ) : Act σ Unit := fun s => ⟨.ok (), f s, []⟩

/-- Performs an action and hands a fault on as an answer. -/
def attempt (act : Act σ α) : Act σ (Except Fault α) := fun s =>
  let r := act s
  ⟨.ok r.answer, r.state, r.entries⟩

/-- Performs an action on a part of the state. -/
def within (get : τ → σ) (put : σ → τ → τ) (act : Act σ α) : Act τ α := fun t =>
  let r := act (get t)
  ⟨r.answer, put r.state t, r.entries⟩

/-- Performs an action several times and collects the answers. -/
def times : Nat → Act σ α → Act σ (List α)
  | 0, _ => pure []
  | n + 1, act => do
    let a ← act
    let rest ← times n act
    pure (a :: rest)

@[simp] theorem pure_apply (a : α) (s : σ) : (pure a : Act σ α) s = ⟨.ok a, s, []⟩ := rfl

@[simp] theorem fail_apply (fault : Fault) (s : σ) :
    (fail fault : Act σ α) s = ⟨.error fault, s, []⟩ := rfl

@[simp] theorem ofExcept_apply (answer : Except Fault α) (s : σ) :
    ofExcept answer s = ⟨answer, s, []⟩ := rfl

@[simp] theorem note_apply (severity : Severity) (event : Text) (fields : List (Text × Value))
    (s : σ) : note severity event fields s = ⟨.ok (), s, [⟨severity, event, fields⟩]⟩ := rfl

@[simp] theorem state_apply (s : σ) : (state : Act σ σ) s = ⟨.ok s, s, []⟩ := rfl

@[simp] theorem change_apply (f : σ → σ) (s : σ) : change f s = ⟨.ok (), f s, []⟩ := rfl

@[simp] theorem attempt_apply (act : Act σ α) (s : σ) :
    act.attempt s = ⟨.ok (act s).answer, (act s).state, (act s).entries⟩ := rfl

@[simp] theorem within_apply (get : τ → σ) (put : σ → τ → τ) (act : Act σ α) (t : τ) :
    act.within get put t =
      ⟨(act (get t)).answer, put (act (get t)).state t, (act (get t)).entries⟩ := rfl

/-- Goes on after a run with an action that depends on its answer, unless the
run has failed. -/
def andThen (run : Run σ α) (next : α → Act σ β) : Run σ β :=
  match run.answer with
  | .error fault => ⟨.error fault, run.state, run.entries⟩
  | .ok a =>
    ⟨(next a run.state).answer, (next a run.state).state, run.entries ++ (next a run.state).entries⟩

@[simp] theorem andThen_ok (a : α) (s : σ) (entries : List Entry) (next : α → Act σ β) :
    andThen ⟨.ok a, s, entries⟩ next =
      ⟨(next a s).answer, (next a s).state, entries ++ (next a s).entries⟩ := rfl

@[simp] theorem andThen_error (fault : Fault) (s : σ) (entries : List Entry) (next : α → Act σ β) :
    andThen ⟨.error fault, s, entries⟩ next = ⟨.error fault, s, entries⟩ := rfl

/-- How a sequence of two actions runs. Together with the equations of the
actions themselves, this is what runs are computed with in proofs. -/
theorem bind_apply (act : Act σ α) (next : α → Act σ β) (s : σ) :
    (act >>= next) s = andThen (act s) next := by
  show Act.bind act next s = _
  unfold Act.bind andThen
  split
  · next h => rw [h]
  · next h => rw [h]

@[simp] theorem map_apply (f : α → β) (act : Act σ α) (s : σ) :
    (f <$> act) s = ⟨(act s).answer.map f, (act s).state, (act s).entries⟩ := by
  show (act >>= fun a => pure (f a)) s = _
  rw [bind_apply]
  rcases act s with ⟨_ | _, _, _⟩ <;> simp [Except.map]

theorem andThen_assoc {γ : Type} (run : Run σ α) (next : α → Act σ β) (last : β → Act σ γ) :
    andThen (andThen run next) last = andThen run fun a => next a >>= last := by
  rcases run with ⟨_ | a, s, entries⟩
  · rfl
  · simp only [andThen_ok, bind_apply]
    rcases next a s with ⟨_ | _, _, _⟩ <;> simp

theorem id_map_apply (act : Act σ α) (s : σ) : (id <$> act) s = act s := by
  rw [map_apply]
  rcases act s with ⟨_ | _, _, _⟩ <;> rfl

instance : LawfulMonad (Act σ) :=
  LawfulMonad.mk' _ (fun act => funext (id_map_apply act))
    (fun a next => by
      funext s
      simp [bind_apply])
    (fun act next last => by
      funext s
      simp only [bind_apply]
      exact andThen_assoc (act s) next last)

end Act

end IdMint
