import IdMint.Proofs.Interleaving
import IdMint.Proofs.Identifiers

/-!
# No input is hashed twice

Requests to generators that share a state never hash the same bytes, however
they interleave and whatever their clocks, platforms and fingerprints show, as
long as the counter has not come full circle.

The invariant `Scene.Inv` follows the counter values: those that have been
issued are numbered in the order of their issue (`Scene.Counting`), and every
request that has got past its counter is listed with the value that it holds
(`Stage.Agrees`).  Two requests stand at two places of the list, and values at
two places differ.
-/

namespace IdMint

/-! ## What one action does to the counter -/

namespace World

/-- What a request leaves alone while it does not take a counter value. -/
def tally (s : Nat) (w : World) : Counter × Nat × (Nat → Nat) × HashPrimitive :=
  ((w.state s).counter, w.states.length, fun g => (w.generator g).state, w.primitive)

theorem CountKept.of_tally {s : Nat} {w w' : World} (h : w'.tally s = w.tally s) :
    w.CountKept s w' := by
  simp only [tally, Prod.mk.injEq] at h
  obtain ⟨hcounter, hlength, hshared, hprimitive⟩ := h
  refine
    { counter := hcounter
      state_lt := fun hs => hlength ▸ hs
      shared := ?_
      primitive := hprimitive }
  intro g hg
  exact (congrFun hshared g).trans hg

theorem tally_setClock (s g : Nat) (c : Clock) (w : World) :
    (setClock g c w).tally s = w.tally s := by
  have hshared : ∀ j, ((setClock g c w).generator j).state = (w.generator j).state :=
    fun j => (places_setClock w g j c).2
  simp only [tally, state, states_setClock, primitive_setClock, hshared]

theorem tally_setPlatform (s i : Nat) (p : Platform) (w : World) :
    (w.setPlatform i p).tally s = w.tally s := rfl

theorem tally_setFingerprint (s t : Nat) (f : Option Bytes) (w : World) :
    (w.setState t { w.state t with fingerprint := f }).tally s = w.tally s := by
  have hcounter :
      ((w.setState t { w.state t with fingerprint := f }).state s).counter =
        (w.state s).counter := by
    by_cases hst : t = s
    · subst hst
      by_cases ht : t < w.states.length
      · rw [state_setState_self _ ht]
      · rw [setState, List.set_eq_of_length_le (Nat.not_lt.mp ht)]
    · rw [state_setState_ne _ hst]
  have hlength : (w.setState t { w.state t with fingerprint := f }).states.length =
      w.states.length := by
    simp [setState]
  simp only [tally, hcounter, hlength, generator_setState]
  rfl

theorem tally_fingerprint (s t : Nat) (w : World) :
    (fingerprint t w).state.tally s = w.tally s :=
  keeps_fingerprint (fun i p w => tally_setPlatform s i p w) (fun _ _ => rfl)
    (fun f w => tally_setFingerprint s _ f w) w

end World

namespace Stage

@[simp] theorem follow_snd {α : Type} (run : Run World α) (next : α → Stage) :
    (follow run next).2 = run.state := by
  unfold follow
  split <;> rfl

/-- Every action but one leaves the counter alone. -/
theorem countKept_advance (s g : Nat) (stage : Stage) (w : World)
    (hstage : ∀ n t, stage ≠ .timed n t) : w.CountKept s (stage.advance g w).2 := by
  apply World.CountKept.of_tally
  cases stage with
  | asked length =>
      rw [advance]
      split
      · rfl
      · exact congrArg (World.tally s) (World.state_reject _ _ w)
  | accepted n =>
      rw [advance, follow_snd]
      exact World.tally_setClock s g _ w
  | timed n t => exact absurd rfl (hstage n t)
  | counted n t c =>
      rw [advance, follow_snd]
      exact World.tally_fingerprint s _ w
  | marked n t c f =>
      rw [advance, follow_snd]
      exact World.tally_setPlatform s _ _ w
  | filled n t c f r =>
      rw [advance, follow_snd]
      exact World.tally_setPlatform s _ _ w
  | drafted n d =>
      exact congrArg (World.tally s) (World.state_conclude _ w)
  | ended hashed answer => rfl

theorem taken_eq_none {stage stage' : Stage} (hstage : ∀ n t, stage ≠ .timed n t) :
    stage.taken stage' = none := by
  cases stage with
  | timed n t => exact absurd rfl (hstage n t)
  | _ => rfl

/-- The action that takes a counter value. -/
theorem advance_timed (g : Nat) (n : Length) (t : Int) (w : World) :
    (Stage.timed n t).advance g w =
      (.counted n t (w.upcomingCount (w.generator g).state),
        (w.seeded (w.generator g).state).leaveCount (w.generator g).state
          (counterAfter (w.upcomingCount (w.generator g).state))) := by
  rw [advance, World.nextCount_apply, follow_ok]

/-- What a stage of the request at place `i` says about counter values and about
its result. -/
def Agrees (primitive : HashPrimitive) (issued : List (Nat × Int)) (i : Nat) :
    Stage → Prop
  | .asked _ | .accepted _ | .timed _ _ => True
  | .counted _ _ c | .marked _ _ c _ | .filled _ _ c _ _ => (i, c) ∈ issued
  | .drafted _ d => (i, d.counter) ∈ issued
  | .ended none answer => ∀ outcome, answer = .ok outcome → outcome.value = none
  | .ended (some (n, d)) answer =>
    (i, d.counter) ∈ issued ∧ answer = Identifier.conclusion (d.make primitive n)

theorem Agrees.mono {primitive : HashPrimitive} {issued issued' : List (Nat × Int)}
    {i : Nat} {stage : Stage} (h : stage.Agrees primitive issued i)
    (hsub : issued ⊆ issued') : stage.Agrees primitive issued' i := by
  cases stage with
  | asked length => trivial
  | accepted n => trivial
  | timed n t => trivial
  | counted n t c => exact hsub h
  | marked n t c f => exact hsub h
  | filled n t c f r => exact hsub h
  | drafted n d => exact hsub h
  | ended hashed answer =>
      cases hashed with
      | none => exact h
      | some draft => exact ⟨hsub h.1, h.2⟩

theorem agrees_follow {α : Type} {primitive : HashPrimitive} {issued : List (Nat × Int)}
    {i : Nat} (run : Run World α) {next : α → Stage}
    (hnext : ∀ a, (next a).Agrees primitive issued i) :
    (follow run next).1.Agrees primitive issued i := by
  unfold follow
  split
  · exact hnext _
  · intro outcome h
    cases h

theorem Agrees.advance {primitive : HashPrimitive} {issued : List (Nat × Int)} {i g : Nat}
    {stage : Stage} {w : World} (h : stage.Agrees primitive issued i)
    (hprimitive : w.primitive = primitive) (hstage : ∀ n t, stage ≠ .timed n t) :
    (stage.advance g w).1.Agrees primitive issued i := by
  cases stage with
  | asked length =>
      rw [Stage.advance]
      split
      · trivial
      · intro outcome houtcome
        exact World.value_of_reject houtcome
  | accepted n => exact agrees_follow _ fun _ => trivial
  | timed n t => exact absurd rfl (hstage n t)
  | counted n t c => exact agrees_follow _ fun _ => h
  | marked n t c f => exact agrees_follow _ fun _ => h
  | filled n t c f r => exact agrees_follow _ fun _ => h
  | drafted n d => exact ⟨h, by rw [World.answer_conclude, hprimitive]⟩
  | ended hashed answer => exact h

end Stage

/-! ## The invariant -/

namespace Scene

/-- The values that have been issued follow one another from `start` on, and the
counter holds the next one, once there are any. -/
structure Counting (start : Int) (counter : Counter)
    (issued : List (Nat × Int)) : Prop where
  numbered : ∀ k (hk : k < issued.length), issued[k].2 = wrap64 (start + k)
  stored : ∀ v, counter.stored = some v → v = wrap64 (start + issued.length)
  seeded : issued ≠ [] → counter.stored ≠ none

structure Inv (s : Nat) (primitive : HashPrimitive) (c : Scene) : Prop where
  state_lt : s < c.world.states.length
  primitive_eq : c.world.primitive = primitive
  shared : ∀ r ∈ c.requests, (c.world.generator r.generator).state = s
  counting : ∃ start, Counting start (c.world.state s).counter c.issued
  agrees :
    ∀ (i : Nat) (r : Request), c.requests[i]? = some r →
      r.stage.Agrees primitive c.issued i

variable {s : Nat} {primitive : HashPrimitive} {c : Scene}

theorem inv_start {w : World} (hs : s < w.states.length)
    (hstored : ∀ v, (w.state s).counter.stored = some v → IsInt64 v) :
    Inv s w.primitive { world := w } where
  state_lt := hs
  primitive_eq := rfl
  shared := by simp
  counting := by
    cases hcase : (w.state s).counter.stored with
    | none => exact ⟨0, by simp, by simp [hcase], by simp⟩
    | some v =>
        refine ⟨v, by simp, ?_, by simp⟩
        intro u hu
        rw [hcase] at hu
        obtain rfl := Option.some.inj hu
        simpa using (wrap64_of_isInt64 (hstored v hcase)).symm
  agrees := by simp

theorem Inv.disturb (h : c.Inv s primitive) {w : World} (hkept : c.world.CountKept s w) :
    Inv s primitive { c with world := w } := by
  exact
    { state_lt := hkept.state_lt h.state_lt
      primitive_eq := hkept.primitive.trans h.primitive_eq
      shared := fun r hr => hkept.shared _ (h.shared r hr)
      counting := hkept.counter.symm ▸ h.counting
      agrees := h.agrees }

theorem Inv.ask (h : c.Inv s primitive) (g : Nat) (manner : Manner) (length : Value)
    (hshared : (c.world.generator g).state = s) :
    Inv s primitive
      { c with requests := c.requests ++ [⟨g, manner, .asked length⟩] } := by
  refine
    { state_lt := h.state_lt
      primitive_eq := h.primitive_eq
      shared := ?_
      counting := h.counting
      agrees := ?_ }
  · intro r hr
    rcases List.mem_append.mp hr with hr | hr
    · exact h.shared r hr
    · obtain rfl := List.mem_singleton.mp hr
      exact hshared
  · intro i r hr
    rcases List.mem_append.mp (List.mem_of_getElem? hr) with _ | hnew
    · by_cases hi : i < c.requests.length
      · rw [List.getElem?_append_left hi] at hr
        exact h.agrees i r hr
      · rw [List.getElem?_append_right (Nat.not_lt.mp hi)] at hr
        obtain rfl := List.mem_singleton.mp (List.mem_of_getElem? hr)
        trivial
    · obtain rfl := List.mem_singleton.mp hnew
      trivial

/-- A request moves on to a stage that agrees with the counter values issued so
far or just now. -/
theorem Inv.replace (h : c.Inv s primitive) {i : Nat} {r : Request} {stage : Stage}
    {issued : List (Nat × Int)} (hr : c.requests[i]? = some r) (hsub : c.issued ⊆ issued)
    (hstage : stage.Agrees primitive issued i) :
    (∀ q ∈ c.requests.set i { r with stage }, (c.world.generator q.generator).state = s) ∧
      ∀ (j : Nat) (q : Request), (c.requests.set i { r with stage })[j]? = some q →
        q.stage.Agrees primitive issued j := by
  constructor
  · intro q hq
    rcases List.mem_or_eq_of_mem_set hq with hq | rfl
    · exact h.shared q hq
    · exact h.shared r (List.mem_of_getElem? hr)
  · intro j q hq
    by_cases hij : i = j
    · subst hij
      obtain ⟨hi, -⟩ := List.getElem?_eq_some_iff.mp hr
      rw [List.getElem?_set_self hi] at hq
      obtain rfl := Option.some.inj hq
      exact hstage
    · rw [List.getElem?_set_ne hij] at hq
      exact (h.agrees j q hq).mono hsub

theorem proceed_of_none {i : Nat} (hr : c.requests[i]? = none) : c.proceed i = c := by
  simp only [proceed, hr]

theorem proceed_of_some {i : Nat} {r : Request} (hr : c.requests[i]? = some r) :
    c.proceed i =
      { world := (r.stage.advance r.generator c.world).2
        requests := c.requests.set i
          { r with stage := (r.stage.advance r.generator c.world).1 }
        issued := c.issued ++
          ((r.stage.taken (r.stage.advance r.generator c.world).1).map
            (i, ·)).toList } := by
  simp only [proceed, hr]

/-- The value that the counter will hand out is the next one in the numbering.
If the counter has yet to be seeded, nothing has been issued, and the numbering
starts with the seed. -/
theorem Inv.upcoming (h : c.Inv s primitive) :
    ∃ start, (∀ k (hk : k < c.issued.length), c.issued[k].2 = wrap64 (start + k)) ∧
      c.world.upcomingCount s = wrap64 (start + c.issued.length) := by
  obtain ⟨start, hcounting⟩ := h.counting
  cases hcase : (c.world.state s).counter.stored with
  | some v =>
      refine ⟨start, hcounting.numbered, ?_⟩
      rw [World.upcomingCount_of_stored hcase]
      exact hcounting.stored v hcase
  | none =>
      have hnothing : c.issued = [] := by
        by_contra hissued
        exact hcounting.seeded hissued hcase
      have hseed : IsInt64 (c.world.upcomingCount s) := by
        rw [World.upcomingCount_of_not_stored hcase]
        exact isInt64_wrap64 _
      refine ⟨c.world.upcomingCount s, ?_, ?_⟩
      · intro k hk
        simp [hnothing] at hk
      · rw [hnothing]
        simpa using (wrap64_of_isInt64 hseed).symm

/-- Taking a counter value adds it to the list and stores its successor. -/
theorem Inv.counting_take (h : c.Inv s primitive) (i : Nat) :
    ∃ start, Counting start
      (((c.world.seeded s).leaveCount s
        (counterAfter (c.world.upcomingCount s))).state s).counter
      (c.issued ++ [(i, c.world.upcomingCount s)]) := by
  obtain ⟨start, hnumbered, hupcoming⟩ := h.upcoming
  have hstored : ((((c.world.seeded s).leaveCount s
      (counterAfter (c.world.upcomingCount s))).state s).counter.stored =
        some (counterAfter (c.world.upcomingCount s))) :=
    World.stored_leaveCount _ (by simpa using h.state_lt)
  refine ⟨start, ?_, ?_, ?_⟩
  · intro k hk
    by_cases hold : k < c.issued.length
    · rw [List.getElem_append_left hold]
      exact hnumbered k hold
    · have hlast : k = c.issued.length := by
        simp only [List.length_append, List.length_singleton] at hk
        omega
      subst hlast
      rw [List.getElem_concat_length rfl]
      exact hupcoming
  · intro v hv
    rw [hstored] at hv
    rw [← Option.some.inj hv, hupcoming, counterAfter_wrap64, List.length_append,
      List.length_singleton]
    push_cast
    rw [Int.add_assoc]
  · intro _
    rw [hstored]
    exact Option.some_ne_none _

theorem Inv.proceed (h : c.Inv s primitive) (i : Nat) :
    (c.proceed i).Inv s primitive := by
  cases hr : c.requests[i]? with
  | none =>
      rw [proceed_of_none hr]
      exact h
  | some r =>
      have hshared := h.shared r (List.mem_of_getElem? hr)
      rw [proceed_of_some hr]
      by_cases htimed : ∃ n t, r.stage = .timed n t
      · obtain ⟨n, t, hstage⟩ := htimed
        rw [hstage, Stage.advance_timed, hshared]
        obtain ⟨hgenerators, hagrees⟩ := h.replace hr (List.subset_append_left c.issued _)
          (show Stage.Agrees primitive (c.issued ++ [(i, c.world.upcomingCount s)]) i
            (.counted n t (c.world.upcomingCount s)) from List.mem_concat_self)
        exact
          { state_lt := by simpa [World.leaveCount, World.setState] using h.state_lt
            primitive_eq := by
              rw [← h.primitive_eq]
              exact World.primitive_counting _ _ _
            shared := by
              intro q hq
              rw [World.generator_counting]
              exact hgenerators q hq
            counting := h.counting_take i
            agrees := hagrees }
      · have hstage : ∀ n t, r.stage ≠ .timed n t :=
          fun n t hstage => htimed ⟨n, t, hstage⟩
        have hkept := Stage.countKept_advance s r.generator r.stage c.world hstage
        have hagrees := (h.agrees i r hr).advance (g := r.generator) h.primitive_eq hstage
        obtain ⟨hgenerators, hothers⟩ := h.replace hr (List.Subset.refl c.issued) hagrees
        have hmoved : Inv s primitive ⟨c.world,
            c.requests.set i { r with stage := (r.stage.advance r.generator c.world).1 },
            c.issued⟩ :=
          { state_lt := h.state_lt
            primitive_eq := h.primitive_eq
            shared := hgenerators
            counting := h.counting
            agrees := hothers }
        rw [Stage.taken_eq_none hstage]
        simpa using hmoved.disturb hkept

theorem Inv.step {c' : Scene} (h : c.Inv s primitive) (hstep : Step s c c') :
    c'.Inv s primitive := by
  cases hstep with
  | ask g manner length hshared => exact h.ask g manner length hshared
  | proceed i => exact h.proceed i
  | disturb w hkept => exact h.disturb hkept

/-- Whatever the interleaving, the issued values stay numbered and the requests
agree with them. -/
theorem inv_of_reachable {w : World} (hs : s < w.states.length)
    (hstored : ∀ v, (w.state s).counter.stored = some v → IsInt64 v)
    (hreach : Reachable s w c) :
    c.Inv s w.primitive := by
  induction hreach with
  | refl => exact inv_start hs hstored
  | tail _ hstep ih => exact ih.step hstep

/-! ## Hashed bytes and identifiers -/

theorem Inv.exists_draft (h : c.Inv s primitive) {i : Nat} {length : Length} {x : Bytes}
    (hx : c.hashed? i = some (length, x)) :
    ∃ d : Draft, (i, d.counter) ∈ c.issued ∧ x = d.input := by
  obtain ⟨r, hr, hhashed⟩ := Option.bind_eq_some_iff.mp hx
  have hagrees := h.agrees i r hr
  unfold Request.hashed? at hhashed
  split at hhashed
  · next n d answer hstage =>
      rw [hstage] at hagrees
      obtain ⟨rfl, rfl⟩ := Prod.mk.inj (Option.some.inj hhashed)
      exact ⟨d, hagrees.1, rfl⟩
  · cases hhashed

theorem Inv.counter_ne (h : c.Inv s primitive) (hissued : c.issued.length ≤ 2 ^ 64)
    {i j : Nat} {u v : Int} (hij : i ≠ j) (hu : (i, u) ∈ c.issued)
    (hv : (j, v) ∈ c.issued) : IsInt64 u ∧ IsInt64 v ∧ u ≠ v := by
  obtain ⟨start, hcounting⟩ := h.counting
  obtain ⟨k, hk, hku⟩ := List.mem_iff_getElem.mp hu
  obtain ⟨l, hl, hlv⟩ := List.mem_iff_getElem.mp hv
  have hu' : u = wrap64 (start + k) := by rw [← hcounting.numbered k hk, hku]
  have hv' : v = wrap64 (start + l) := by rw [← hcounting.numbered l hl, hlv]
  refine ⟨hu' ▸ isInt64_wrap64 _, hv' ▸ isInt64_wrap64 _, ?_⟩
  intro huv
  have heq : wrap64 (start + k) = wrap64 (start + l) := by rw [← hu', ← hv', huv]
  have hkl : k = l := wrap64_add_inj (by omega) (by omega) heq
  subst hkl
  rw [hku] at hlv
  exact hij (Prod.mk.inj hlv).1

theorem Inv.hashed_ne (h : c.Inv s primitive) (hissued : c.issued.length ≤ 2 ^ 64)
    {i j : Nat} {length length' : Length} {x y : Bytes} (hij : i ≠ j)
    (hx : c.hashed? i = some (length, x)) (hy : c.hashed? j = some (length', y)) :
    x ≠ y := by
  obtain ⟨d, hd, rfl⟩ := h.exists_draft hx
  obtain ⟨e, he, rfl⟩ := h.exists_draft hy
  obtain ⟨hdInt, heInt, hne⟩ := h.counter_ne hissued hij hd he
  intro heq
  exact hne (Bytes.pack64_injective hdInt heInt (Identifier.counter_of_hashInput_eq heq))

end Scene

theorem Outcome.value_of_unwrap {outcome : Outcome} {t : Text}
    (h : outcome.unwrap = .ok t) : outcome.value = some t := by
  unfold unwrap at h
  split at h
  · cases h
  · next hvalue => rw [hvalue, Except.ok.inj h]
  · cases h

/-- Whichever way a caller is told of failures, an identifier that it gets is
that of the outcome. -/
theorem Manner.outcome_of_report {manner : Manner} {answer : Except Fault Outcome}
    {result : StepResult} {t : Text} (h : manner.report answer = .ok result)
    (ht : result.identifier? = some t) :
    ∃ outcome, answer = .ok outcome ∧ outcome.value = some t := by
  cases answer with
  | error fault => cases manner <;> cases h
  | ok outcome =>
      refine ⟨outcome, rfl, ?_⟩
      cases manner with
      | outcome =>
          obtain rfl := Except.ok.inj h
          exact ht
      | fault =>
          cases hunwrap : outcome.unwrap with
          | error fault =>
              simp only [report, Except.bind, hunwrap, Except.map] at h
              cases h
          | ok u =>
              simp only [report, Except.bind, hunwrap, Except.map] at h
              obtain rfl := Except.ok.inj h
              obtain rfl := Option.some.inj ht
              exact Outcome.value_of_unwrap hunwrap

namespace Scene

variable {s : Nat} {primitive : HashPrimitive} {c : Scene}

/-- An identifier was made of a sufficient digest of the bytes that its request
has hashed. -/
theorem Inv.identifier (h : c.Inv s primitive) {i : Nat} {t : Text}
    (ht : c.identifier? i = some t) :
    ∃ length x d random, c.hashed? i = some (length, x) ∧ primitive x = .ok d ∧
      Identifier.Suffices d length ∧
      t = Identifier.fromDigest (Identifier.letter random) d length := by
  obtain ⟨r, hr, hidentifier⟩ := Option.bind_eq_some_iff.mp ht
  have hagrees := h.agrees i r hr
  unfold Request.identifier? at hidentifier
  split at hidentifier
  · next result hresult =>
      unfold Request.result? at hresult
      split at hresult
      · next hashed answer hstage =>
          obtain ⟨outcome, hanswer, hvalue⟩ :=
            Manner.outcome_of_report (Option.some.inj hresult) hidentifier
          rw [hstage] at hagrees
          cases hashed with
          | none =>
              rw [hagrees outcome hanswer] at hvalue
              cases hvalue
          | some hashed =>
              obtain ⟨n, d⟩ := hashed
              have hconclusion := hagrees.2.symm.trans hanswer
              have hmake := Identifier.eq_ok_of_conclusion hconclusion hvalue
              obtain ⟨e, he, hsuffices, rfl⟩ := Identifier.make_eq_ok_iff.mp hmake
              refine ⟨n, d.input, e, d.pick, ?_, he, hsuffices, rfl⟩
              simp only [hashed?, hr, Option.bind_some, Request.hashed?, hstage]
      · cases hresult
  · cases hidentifier

end Scene

/-- **No two requests hash the same bytes.**  Let requests to generators that
share a state interleave in any way, with anything else going on besides, and
let no more than `2 ^ 64` counter values be issued. Then two different requests
never hand the same bytes to the hash primitive.

So if two of them give the same identifier, this is a collision of the hash
primitive: the two requests asked for the same length and hashed different
bytes, whose digests have numerals that agree in as many digits as the
identifier shows. -/
theorem hashed_pairwise_ne {s : Nat} {w : World} {c : Scene} (hs : s < w.states.length)
    (hstored : ∀ v, (w.state s).counter.stored = some v → IsInt64 v)
    (hreach : Scene.Reachable s w c) (hissued : c.issued.length ≤ 2 ^ 64) {i j : Nat}
    (hij : i ≠ j) :
    (∀ length length' x y,
        c.hashed? i = some (length, x) → c.hashed? j = some (length', y) → x ≠ y) ∧
      ∀ t, c.identifier? i = some t → c.identifier? j = some t →
        ∃ length x y d e,
          c.hashed? i = some (length, x) ∧ c.hashed? j = some (length, y) ∧
          length.val = t.length ∧ x ≠ y ∧ w.primitive x = .ok d ∧ w.primitive y = .ok e ∧
          t.length - 1 ≤ (Base36.encode d).length ∧
          t.length - 1 ≤ (Base36.encode e).length ∧
          (Base36.encode d).take (t.length - 1) =
            (Base36.encode e).take (t.length - 1) := by
  have hinv := Scene.inv_of_reachable hs hstored hreach
  refine ⟨fun length length' x y hx hy => hinv.hashed_ne hissued hij hx hy, ?_⟩
  intro t hi hj
  obtain ⟨length, x, d, random, hx, hd, hdSuffices, rfl⟩ := hinv.identifier hi
  obtain ⟨length', y, e, random', hy, he, heSuffices, heq⟩ := hinv.identifier hj
  have hlen := Identifier.length_fromDigest random hdSuffices
  have hlen' := Identifier.length_fromDigest random' heSuffices
  rw [← heq, hlen] at hlen'
  obtain rfl : length = length' := by
    cases length
    cases length'
    simpa using hlen'
  rw [hlen]
  exact ⟨length, x, y, d, e, hx, hy, rfl, hinv.hashed_ne hissued hij hx hy, hd, he,
    Identifier.length_encode_of_suffices hdSuffices,
    Identifier.length_encode_of_suffices heSuffices, (List.append_inj heq (by simp)).2⟩

/-- A world in which everything repeats itself: the clock stands still, the
random bytes are all alike, the fingerprint is empty and every byte string has
the same digest.  Only the counter moves, from the greatest value to the least. -/
def World.monotonous : World :=
  (World.single default default fun _ => .ok (List.replicate 62 0 ++ [5, 16])).setState 0
    { platform := 0, counter := ⟨some int64Max⟩, fingerprint := some [] }

/-- Two requests for identifiers of four characters, made at once and gone
through in this order. -/
def Scene.crossing : Scene :=
  [0, 0, 1, 1, 1, 0, 1, 0, 0, 1, 1, 0, 0, 1].foldl Scene.proceed
    { world := World.monotonous
      requests := [⟨0, .outcome, .asked (.int 4)⟩,
        ⟨0, .fault, .asked (.object "Index" (some 4) (some "4"))⟩] }

/-- Where everything else repeats itself, the counter still tells two requests
apart, although they end with the same identifier. -/
theorem hashed_pairwise_ne_crossing :
    Scene.Reachable 0 World.monotonous Scene.crossing ∧
      Scene.crossing.issued = [(1, int64Max), (0, int64Min)] ∧
      Scene.crossing.identifier? 0 = some "a100" ∧
      Scene.crossing.identifier? 1 = some "a100" ∧
      ∃ length x y d e,
        Scene.crossing.hashed? 0 = some (length, x) ∧
        Scene.crossing.hashed? 1 = some (length, y) ∧ x ≠ y ∧
        World.monotonous.primitive x = .ok d ∧ World.monotonous.primitive y = .ok e ∧
        (Base36.encode d).take 3 = (Base36.encode e).take 3 := by
  have hreach : Scene.Reachable 0 World.monotonous Scene.crossing := by
    have hone := Scene.Step.ask { world := World.monotonous } 0 .outcome (.int 4)
      (rfl : (World.monotonous.generator 0).state = 0)
    have htwo := Scene.Step.ask
      { world := World.monotonous, requests := [⟨0, .outcome, .asked (.int 4)⟩] } 0 .fault
      (.object "Index" (some 4) (some "4")) (rfl : (World.monotonous.generator 0).state = 0)
    exact Scene.Reachable.foldl_proceed ((Relation.ReflTransGen.single hone).tail htwo) _
  have hissued : Scene.crossing.issued = [(1, int64Max), (0, int64Min)] := by
    decide +kernel
  have hfirst : Scene.crossing.identifier? 0 = some "a100" := by decide +kernel
  have hsecond : Scene.crossing.identifier? 1 = some "a100" := by decide +kernel
  have hstored : ∀ v, (World.monotonous.state 0).counter.stored = some v → IsInt64 v := by
    intro v hv
    obtain rfl : int64Max = v := Option.some.inj hv
    decide
  have hmain := hashed_pairwise_ne (i := 0) (j := 1) (by decide) hstored hreach
    (by rw [hissued]; decide) (by decide)
  obtain ⟨length, x, y, d, e, hx, hy, -, hne, hd, he, -, -, hdigits⟩ :=
    hmain.2 _ hfirst hsecond
  exact ⟨hreach, hissued, hfirst, hsecond, length, x, y, d, e, hx, hy, hne, hd, he,
    hdigits⟩

end IdMint
