import IdMint.Generator

/-!
# What actions leave alone

An action keeps a view of the state if the view is the same before and after it,
whether the action fails or not.  Views that are kept by two actions are kept by
one after the other, so that a frame condition of a request comes from those of
the few actions that it is made of.
-/

namespace IdMint

/-- The action leaves a view of the state as it was, also if it fails. -/
def Act.Keeps {σ α β : Type} (view : σ → β) (act : Act σ α) : Prop :=
  ∀ s, view (act s).state = view s

namespace Act.Keeps

variable {σ τ α γ β : Type} {view : σ → β}

theorem pure (a : α) : (Pure.pure a : Act σ α).Keeps view := fun _ => rfl

theorem fail (fault : Fault) : (Act.fail fault : Act σ α).Keeps view := fun _ => rfl

theorem ofExcept (answer : Except Fault α) :
    (Act.ofExcept answer : Act σ α).Keeps view := fun _ => rfl

theorem note (severity : Severity) (event : Text) (fields : List (Text × Value)) :
    (Act.note severity event fields : Act σ Unit).Keeps view := fun _ => rfl

theorem state : (Act.state : Act σ σ).Keeps view := fun _ => rfl

theorem change {f : σ → σ} (hf : ∀ s, view (f s) = view s) :
    (Act.change f).Keeps view := hf

theorem attempt {act : Act σ α} (hact : act.Keeps view) : act.attempt.Keeps view := hact

theorem bind {act : Act σ α} {next : α → Act σ γ} (hact : act.Keeps view)
    (hnext : ∀ a, (next a).Keeps view) : (act >>= next).Keeps view := by
  intro s
  rw [Act.bind_apply]
  have hs := hact s
  rcases hrun : act s with ⟨fault | a, t, entries⟩
  · rw [hrun] at hs
    exact hs
  · rw [hrun] at hs
    exact (hnext a t).trans hs

theorem within {get : σ → τ} {put : τ → σ → σ} (act : Act τ α)
    (hput : ∀ t s, view (put t s) = view s) : (act.within get put).Keeps view :=
  fun s => hput (act (get s)).state s

theorem timed {read : Act σ Float} {act : Act σ α} (operation : Text) (patience : Float)
    (hread : read.Keeps view) (hact : act.Keeps view) :
    (Stopwatch.timed read operation patience act).Keeps view := by
  refine hread.bind fun start => hact.attempt.bind fun answer => hread.bind fun stop => ?_
  cases answer with
  | error fault => exact (note _ _ _).bind fun _ => fail fault
  | ok a => exact (note _ _ _).bind fun _ => pure a

end Act.Keeps

namespace World

variable {α β : Type} {view : World → β}

theorem keeps_readClock {g : Nat} (hclock : ∀ c w, view (setClock g c w) = view w) :
    (readClock g).Keeps view :=
  Act.Keeps.within Clock.read hclock

theorem keeps_onPlatform {i : Nat} (act : Act Platform α)
    (hplatform : ∀ p w, view (w.setPlatform i p) = view w) :
    (onPlatform i act).Keeps view :=
  Act.Keeps.within act fun p w => hplatform p w

theorem keeps_nextCount {s : Nat} (hplatform : ∀ i p w, view (w.setPlatform i p) = view w)
    (hcount : ∀ c w, view (w.setState s { w.state s with counter := c }) = view w) :
    (nextCount s).Keeps view := by
  refine Act.Keeps.state.bind fun w => ?_
  refine (keeps_onPlatform _ fun p v => hplatform _ p v).bind fun current => ?_
  exact (Act.Keeps.change fun v => hcount _ v).bind fun _ => Act.Keeps.pure current

/-- Getting at a fingerprint changes the platform, the stopwatch and the
fingerprint at most. -/
theorem keeps_fingerprint {s : Nat}
    (hplatform : ∀ i p w, view (w.setPlatform i p) = view w)
    (hwatch : ∀ watch w, view { w with stopwatch := watch } = view w)
    (hprint : ∀ f w, view (w.setState s { w.state s with fingerprint := f }) = view w) :
    (fingerprint s).Keeps view := by
  have hread : readStopwatch.Keeps view :=
    Act.Keeps.within Stopwatch.read fun t w => hwatch t w
  refine Act.Keeps.state.bind fun w => ?_
  cases (w.state s).fingerprint with
  | some bytes => exact Act.Keeps.pure bytes
  | none =>
      refine Act.Keeps.state.bind fun v => ?_
      refine (Act.Keeps.timed _ _ hread
        (keeps_onPlatform _ fun p u => hplatform _ p u)).bind fun computed => ?_
      refine (Act.Keeps.note _ _ _).bind fun _ => ?_
      exact (Act.Keeps.change fun u => hprint _ u).bind fun _ => Act.Keeps.pure computed

/-- Replacing a platform leaves the others as they are. -/
theorem platform_setPlatform_or (w : World) (i j : Nat) (p : Platform) :
    (w.setPlatform i p).platform j = w.platform j ∨
      j = i ∧ (w.setPlatform i p).platform j = p := by
  by_cases hj : i = j
  · subst hj
    by_cases hplace : i < w.platforms.length
    · exact Or.inr ⟨rfl, platform_setPlatform_self p hplace⟩
    · rw [setPlatform, List.set_eq_of_length_le (Nat.not_lt.mp hplace)]
      exact Or.inl rfl
  · exact Or.inl (platform_setPlatform_ne p hj)

/-- What an action on one platform keeps of it, it keeps of all platforms. -/
theorem keeps_platform (view : Platform → β) {act : Act Platform α} (hact : act.Keeps view)
    (i j : Nat) : (onPlatform i act).Keeps fun w => view (w.platform j) := by
  intro w
  show view ((w.setPlatform i (act (w.platform i)).state).platform j) = _
  rcases w.platform_setPlatform_or i j (act (w.platform i)).state with h | ⟨rfl, h⟩
  · rw [h]
  · rw [h, hact]

/-- A rejected request changes nothing at all. -/
theorem state_reject (length : Value) (rejection : Length.Rejection) (w : World) :
    (reject length rejection w).state = w := by
  have hkeeps : (reject length rejection).Keeps id := by
    refine (Act.Keeps.ofExcept _).bind fun message =>
      (Act.Keeps.ofExcept _).bind fun shown => ?_
    exact (Act.Keeps.note _ _ _).bind fun _ => Act.Keeps.pure _
  exact hkeeps w

/-- Concluding a request changes nothing at all. -/
theorem state_conclude (made : Except Fault Text) (w : World) :
    (conclude made w).state = w := by
  rcases made with fault | identifier
  · cases fault <;> rfl
  · rfl

end World

end IdMint
