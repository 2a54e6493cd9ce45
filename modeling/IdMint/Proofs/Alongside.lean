import IdMint.Session

/-!
# Two actions side by side

Two actions match along a relation between their states if, started in related
states, they give the same answer, note down the same entries and leave related
states behind.  Actions that are put together in the same way from matching parts
match, so a statement about two runs comes down to the few actions that touch what
the relation speaks of.
-/

namespace IdMint

/-- Two runs that cannot be told apart but by the states that they leave, and those are
related. -/
structure Run.Matches {σ τ α : Type} (R : σ → τ → Prop) (r : Run σ α) (r' : Run τ α) : Prop where
  answer : r.answer = r'.answer
  entries : r.entries = r'.entries
  state : R r.state r'.state

/-- After two actions that have answered the same, it is what follows that has to match. -/
theorem Run.Matches.andThen_ok {σ τ α β : Type} {R : σ → τ → Prop} {a : α} {s : σ} {t : τ}
    {entries : List Entry} {next : α → Act σ β} {next' : α → Act τ β}
    (h : (next a s).Matches R (next' a t)) :
    (Act.andThen ⟨.ok a, s, entries⟩ next).Matches R (Act.andThen ⟨.ok a, t, entries⟩ next') :=
  ⟨h.answer, congrArg (entries ++ ·) h.entries, h.state⟩

/-- What is done next may depend on the states. -/
theorem Run.Matches.state_bind {σ τ α : Type} {R : σ → τ → Prop} {s : σ} {t : τ}
    {next : σ → Act σ α} {next' : τ → Act τ α} (h : (next s s).Matches R (next' t t)) :
    ((Act.state >>= next) s).Matches R ((Act.state >>= next') t) := by
  rw [Act.bind_apply, Act.bind_apply]
  exact h

theorem Run.Matches.map {σ τ α β : Type} {R : σ → τ → Prop} {s : σ} {t : τ} {act : Act σ α}
    {act' : Act τ α} (f : α → β) (h : (act s).Matches R (act' t)) :
    ((f <$> act) s).Matches R ((f <$> act') t) := by
  rw [Act.map_apply, Act.map_apply]
  exact ⟨congrArg (Except.map f) h.answer, h.entries, h.state⟩

namespace Act

variable {σ τ α β : Type} {R : σ → τ → Prop}

/-- In related states, two actions do the same. -/
def Matches (R : σ → τ → Prop) (act : Act σ α) (act' : Act τ α) : Prop :=
  ∀ s t, R s t → (act s).Matches R (act' t)

namespace Matches

theorem pure (a : α) : Matches R (Pure.pure a) (Pure.pure a) := fun _ _ h => ⟨rfl, rfl, h⟩

theorem fail (fault : Fault) : Matches R (Act.fail fault : Act σ α) (Act.fail fault) :=
  fun _ _ h => ⟨rfl, rfl, h⟩

theorem ofExcept (answer : Except Fault α) :
    Matches R (Act.ofExcept answer) (Act.ofExcept answer) :=
  fun _ _ h => ⟨rfl, rfl, h⟩

theorem note (severity : Severity) (event : Text) (fields : List (Text × Value)) :
    Matches R (Act.note severity event fields) (Act.note severity event fields) :=
  fun _ _ h => ⟨rfl, rfl, h⟩

theorem change {f : σ → σ} {f' : τ → τ} (hf : ∀ s t, R s t → R (f s) (f' t)) :
    Matches R (Act.change f) (Act.change f') :=
  fun s t h => ⟨rfl, rfl, hf s t h⟩

theorem attempt {act : Act σ α} {act' : Act τ α} (h : Matches R act act') :
    Matches R act.attempt act'.attempt := by
  intro s t hst
  have hrun := h s t hst
  exact ⟨congrArg Except.ok hrun.answer, hrun.entries, hrun.state⟩

/-- What follows two runs that match has to match, whatever their answer is. -/
theorem andThen {run : Run σ α} {run' : Run τ α} {next : α → Act σ β} {next' : α → Act τ β}
    (hrun : run.Matches R run') (hnext : ∀ a, Matches R (next a) (next' a)) :
    (Act.andThen run next).Matches R (Act.andThen run' next') := by
  rcases run with ⟨answer, s, entries⟩
  rcases run' with ⟨answer', t, entries'⟩
  obtain ⟨hanswer, hentries, hstate⟩ := hrun
  dsimp only at hanswer hentries hstate
  subst hanswer hentries
  cases answer with
  | error fault => exact ⟨rfl, rfl, hstate⟩
  | ok a => exact .andThen_ok (hnext a s t hstate)

theorem bind {act : Act σ α} {act' : Act τ α} {next : α → Act σ β} {next' : α → Act τ β}
    (hact : Matches R act act') (hnext : ∀ a, Matches R (next a) (next' a)) :
    Matches R (act >>= next) (act' >>= next') := by
  intro s t hst
  rw [bind_apply, bind_apply]
  exact andThen (hact s t hst) hnext

/-- What is done next may depend on the states, which are then related. -/
theorem state_bind {next : σ → Act σ β} {next' : τ → Act τ β}
    (hnext : ∀ s t, R s t → Matches R (next s) (next' t)) :
    Matches R (Act.state >>= next) (Act.state >>= next') :=
  fun s t hst => .state_bind (hnext s t hst s t hst)

theorem map {act : Act σ α} {act' : Act τ α} (f : α → β) (h : Matches R act act') :
    Matches R (f <$> act) (f <$> act') :=
  fun s t hst => .map f (h s t hst)

/-- Actions on parts of the states match if they do so on parts that are related. -/
theorem within_related {ρ ρ' : Type} {Q : ρ → ρ' → Prop} {act : Act ρ α} {act' : Act ρ' α}
    {get : σ → ρ} {get' : τ → ρ'} {put : ρ → σ → σ} {put' : ρ' → τ → τ} (h : Matches Q act act')
    (hget : ∀ s t, R s t → Q (get s) (get' t))
    (hput : ∀ x y s t, Q x y → R s t → R (put x s) (put' y t)) :
    Matches R (act.within get put) (act'.within get' put') := by
  intro s t hst
  have hrun := h _ _ (hget s t hst)
  rw [within_apply, within_apply]
  exact ⟨hrun.answer, hrun.entries, hput _ _ s t hrun.state hst⟩

/-- On parts of the states that are equal, an action does the same. -/
theorem within {ρ : Type} {get : σ → ρ} {get' : τ → ρ} {put : ρ → σ → σ} {put' : ρ → τ → τ}
    (act : Act ρ α) (hget : ∀ s t, R s t → get s = get' t)
    (hput : ∀ x s t, R s t → R (put x s) (put' x t)) :
    Matches R (act.within get put) (act.within get' put') := by
  have hsame : Matches Eq act act := by
    rintro x _ rfl
    exact ⟨rfl, rfl, rfl⟩
  refine within_related hsame hget fun x y s t hxy hst => ?_
  rw [← hxy]
  exact hput x s t hst

theorem times {act : Act σ α} {act' : Act τ α} (h : Matches R act act') (n : Nat) :
    Matches R (Act.times n act) (Act.times n act') := by
  induction n with
  | zero => exact pure []
  | succ n ih => exact h.bind fun a => ih.bind fun rest => pure (a :: rest)

theorem timed {read : Act σ Float} {read' : Act τ Float} {act : Act σ α} {act' : Act τ α}
    (operation : Text) (patience : Float) (hread : Matches R read read') (h : Matches R act act') :
    Matches R (Stopwatch.timed read operation patience act)
      (Stopwatch.timed read' operation patience act') := by
  refine hread.bind fun start => h.attempt.bind fun answer => hread.bind fun stop => ?_
  cases answer with
  | error fault => exact (note _ _ _).bind fun _ => fail fault
  | ok a => exact (note _ _ _).bind fun _ => pure a

end Matches

end Act

/-- Rejecting a length depends on nothing but the length. -/
theorem World.matches_reject {R : World → World → Prop} (length : Value)
    (rejection : Length.Rejection) :
    Act.Matches R (reject length rejection) (reject length rejection) := by
  refine (Act.Matches.ofExcept _).bind fun message => (Act.Matches.ofExcept _).bind fun shown => ?_
  exact (Act.Matches.note _ _ _).bind fun _ => Act.Matches.pure _

theorem World.matches_conclude {R : World → World → Prop} (made : Except Fault Text) :
    Act.Matches R (conclude made) (conclude made) := by
  rcases made with fault | identifier
  · cases fault
    case cryptoFailure => exact (Act.Matches.note _ _ _).bind fun _ => .pure _
    all_goals exact .fail _
  · exact .pure _

/-- Threads whose calls match do the same. -/
theorem World.matches_inThreads {α : Type} {R : World → World → Prop} {act act' : Act World α}
    (h : Act.Matches R act act') (calls threads : Nat) :
    Act.Matches R (inThreads calls act threads) (inThreads calls act' threads) := by
  induction threads with
  | zero => exact Act.Matches.pure []
  | succ threads ih =>
      refine (h.times calls).attempt.bind fun first => ih.attempt.bind fun others => ?_
      cases first with
      | error fault => exact Act.Matches.fail fault
      | ok results =>
          cases others with
          | error fault => exact Act.Matches.fail fault
          | ok more => exact Act.Matches.pure (results ++ more)

end IdMint
