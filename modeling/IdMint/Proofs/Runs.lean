import IdMint.Session

/-!
# What whole runs come to

An action obeys a relation if the state before it, the state that it
leaves and the entries that it notes down in between are related, whether it fails
or not.  A relation that one run after another inherits (`Act.Cumulative`) has to
be looked at for single actions only: sequences, repetitions and threads obey
it if their parts do.
-/

namespace IdMint

namespace Act

variable {σ α β : Type} {P Q : σ → Prop} {R : σ → σ → List Entry → Prop}

/-- In states of a kind, what an action does to the state and what it notes down
is in a relation. -/
def Obeys (P : σ → Prop) (R : σ → σ → List Entry → Prop) (act : Act σ α) : Prop :=
  ∀ s, P s → R s (act s).state (act s).entries

/-- In states of a kind, an action leaves a state of another kind behind. -/
def Leaves (P Q : σ → Prop) (act : Act σ α) : Prop := ∀ s, P s → Q (act s).state

/-- A relation that holds if nothing happens, that two runs one after the other
inherit, and that does not lead out of the states of a kind. -/
structure Cumulative (P : σ → Prop) (R : σ → σ → List Entry → Prop) : Prop where
  refl : ∀ s, P s → R s s []
  trans : ∀ {s t u : σ} {e f : List Entry}, R s t e → R t u f → R s u (e ++ f)
  stays : ∀ {s t : σ} {e : List Entry}, P s → R s t e → P t

namespace Obeys

theorem pure (hR : Cumulative P R) (a : α) : (Pure.pure a : Act σ α).Obeys P R := hR.refl

theorem fail (hR : Cumulative P R) (fault : Fault) : (Act.fail fault : Act σ α).Obeys P R :=
  hR.refl

theorem ofExcept (hR : Cumulative P R) (answer : Except Fault α) :
    (Act.ofExcept answer).Obeys P R := hR.refl

theorem attempt {act : Act σ α} (hact : act.Obeys P R) : act.attempt.Obeys P R := hact

theorem bind {act : Act σ α} {next : α → Act σ β} (hR : Cumulative P R)
    (hact : act.Obeys P R) (hnext : ∀ a, (next a).Obeys P R) :
    (act >>= next).Obeys P R := by
  intro s hs
  have hfirst := hact s hs
  rw [bind_apply]
  rcases hrun : act s with ⟨fault | a, t, entries⟩
  · rw [hrun] at hfirst
    exact hfirst
  · rw [hrun] at hfirst
    exact hR.trans hfirst (hnext a t (hR.stays hs hfirst))

/-- What is done next may depend on the state, which is then one of the kind. -/
theorem state_bind {next : σ → Act σ β} (hnext : ∀ s, P s → (next s).Obeys P R) :
    (Act.state >>= next).Obeys P R := by
  intro s hs
  rw [bind_apply, state_apply, andThen_ok]
  exact hnext s hs s hs

theorem map {act : Act σ α} (f : α → β) (hact : act.Obeys P R) : (f <$> act).Obeys P R := by
  intro s hs
  rw [map_apply]
  exact hact s hs

theorem times {act : Act σ α} (hR : Cumulative P R) (hact : act.Obeys P R) (n : Nat) :
    (Act.times n act).Obeys P R := by
  induction n with
  | zero => exact pure hR []
  | succ n ih => exact bind hR hact fun a => bind hR ih fun rest => pure hR _

end Obeys

namespace Leaves

theorem bind {act : Act σ α} {next : α → Act σ β} (hact : act.Leaves P Q)
    (hnext : ∀ a, (next a).Leaves Q Q) : (act >>= next).Leaves P Q := by
  intro s hs
  have hfirst := hact s hs
  rw [bind_apply]
  rcases hrun : act s with ⟨fault | a, t, entries⟩
  · rw [hrun] at hfirst
    exact hfirst
  · rw [hrun] at hfirst
    exact hnext a t hfirst

theorem pure (a : α) : (Pure.pure a : Act σ α).Leaves P P := fun _ hs => hs

theorem state_bind {next : σ → Act σ β} (hnext : ∀ s, P s → (next s).Leaves P Q) :
    (Act.state >>= next).Leaves P Q := by
  intro s hs
  rw [bind_apply, state_apply, andThen_ok]
  exact hnext s hs s hs

theorem map {act : Act σ α} (f : α → β) (hact : act.Leaves P Q) : (f <$> act).Leaves P Q := by
  intro s hs
  rw [map_apply]
  exact hact s hs

/-- If an action is done at least once, it leaves behind what it leaves behind the
first time. -/
theorem times {act : Act σ α} (hact : act.Leaves P Q) (hagain : act.Leaves Q Q) {n : Nat}
    (hn : n ≠ 0) : (Act.times n act).Leaves P Q := by
  have hmore : ∀ n, (Act.times n act).Leaves Q Q := by
    intro n
    induction n with
    | zero => exact pure []
    | succ n ih => exact hagain.bind fun a => ih.bind fun rest => pure _
  obtain ⟨m, rfl⟩ := Nat.exists_eq_succ_of_ne_zero hn
  exact hact.bind fun a => (hmore m).bind fun rest => pure _

end Leaves

end Act

namespace World

variable {α : Type} {P Q : World → Prop} {R : World → World → List Entry → Prop}
  {act : Act World α}

/-- Threads do nothing but what the calls of each of them do. -/
theorem obeys_inThreads {calls : Nat} (hR : Act.Cumulative P R)
    (hcalls : (Act.times calls act).Obeys P R) (threads : Nat) :
    (inThreads calls act threads).Obeys P R := by
  induction threads with
  | zero => exact Act.Obeys.pure hR []
  | succ threads ih =>
      refine hcalls.attempt.bind hR fun first => ?_
      refine ih.attempt.bind hR fun others => ?_
      rcases first with fault | results
      · exact Act.Obeys.fail hR fault
      · rcases others with fault | more
        · exact Act.Obeys.fail hR fault
        · exact Act.Obeys.pure hR _

/-- Taking values of a counter does nothing but what each turn does. -/
theorem obeys_nextCounts {g : Nat} (hR : Act.Cumulative P R)
    (hturn : ∀ w, P w → (nextCount (w.generator g).state).Obeys P R) (times : Nat) :
    (perform (.nextCounts g times)).Obeys P R :=
  Act.Obeys.state_bind fun w hw => ((hturn w hw).times hR times).map _

theorem obeys_nextCountsInThreads {g : Nat} (hR : Act.Cumulative P R)
    (hturn : ∀ w, P w → (nextCount (w.generator g).state).Obeys P R) (threads calls : Nat) :
    (perform (.nextCountsInThreads g threads calls)).Obeys P R :=
  Act.Obeys.state_bind fun w hw =>
    (obeys_inThreads hR ((hturn w hw).times hR calls) threads).bind hR fun _ => .pure hR _

theorem leaves_inThreads (hact : act.Leaves P Q) (hagain : act.Leaves Q Q)
    {calls threads : Nat} (hcalls : calls ≠ 0) (hthreads : threads ≠ 0) :
    (inThreads calls act threads).Leaves P Q := by
  have hQ : Act.Cumulative Q fun _ w _ => Q w := by
    refine { refl := fun _ h => h, trans := fun _ h => h, stays := fun _ h => h }
  obtain ⟨m, rfl⟩ := Nat.exists_eq_succ_of_ne_zero hthreads
  intro w hw
  have hfirst : ((Act.times calls act).attempt).Leaves P Q := hact.times hagain hcalls
  refine hfirst.bind (fun first => ?_) w hw
  have hrest : (inThreads calls act m).attempt.Leaves Q Q :=
    obeys_inThreads hQ (Act.Obeys.times hQ hagain calls) m
  refine hrest.bind fun others => ?_
  rcases first with fault | results
  · exact fun _ h => h
  · rcases others with fault | more
    · exact fun _ h => h
    · exact fun _ h => h

end World

end IdMint
