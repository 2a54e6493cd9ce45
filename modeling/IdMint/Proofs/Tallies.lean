import IdMint.Proofs.Consumption
import IdMint.Proofs.Layout

/-!
# How often platforms are asked

A platform is asked for random bytes for three reasons: a counter is seeded, if the platform
makes its integers of them; a host name is made up; or an identifier is drafted, which takes
two pieces.  It is asked for its host name whenever a fingerprint is computed.  All of this
but the drafts is noted down, and so the journal of a call tells how often the platforms have
been asked.

As with random integers, this is an account that is carried through a call: `World.Tallies`
adds it to what is known of the progress of a state (`World.tallies_perform`).
-/

namespace IdMint

/-- How often it has been noted down that a host name was looked up in vain. -/
def namings (entries : List Entry) : Nat :=
  entries.countP fun entry => decide (entry.event = ("hostname_lookup_failed" : Text))

/-- How often it has been noted down what the computation of a fingerprint came to. -/
def timings (entries : List Entry) : Nat :=
  entries.countP fun entry => decide (entry.event = ("fingerprint_compute completed" : Text) ∨
    entry.event = ("fingerprint_compute failed" : Text))

theorem namings_append (entries more : List Entry) :
    namings (entries ++ more) = namings entries + namings more :=
  List.countP_append

theorem timings_append (entries more : List Entry) :
    timings (entries ++ more) = timings entries + timings more :=
  List.countP_append

/-! ## Platforms -/

theorem Platform.byteStrings_afterInteger (p : Platform) :
    p.afterInteger.draws.byteStrings =
      p.draws.byteStrings + if p.integerSource = .stream then 1 else 0 := by
  unfold afterInteger randomInteger
  cases p.integerSource <;> simp [randomBytes]

/-- A computation asks for random bytes whenever it notes down that there is no host name. -/
theorem Fingerprint.byteStrings_compute (p : Platform) :
    (compute p).state.draws.byteStrings = p.draws.byteStrings + namings (compute p).entries := by
  by_cases hlacks : ∃ reason, p.LacksName reason
  · obtain ⟨reason, hlacks⟩ := hlacks
    obtain ⟨hentries, huse⟩ := compute_of_lacksName hlacks
    have hcalls : (compute p).state.draws.byteStrings = p.draws.byteStrings + 1 :=
      congrArg RandomUse.calls huse
    rw [hcalls, hentries]
    rfl
  · obtain ⟨hentries, huse⟩ := compute_of_not_lacksName (not_exists.mp hlacks)
    have hcalls : (compute p).state.draws.byteStrings = p.draws.byteStrings :=
      congrArg RandomUse.calls huse
    rw [hcalls, hentries]
    rfl

/-- Every computation asks for the host name, once. -/
theorem Fingerprint.hostNames_compute (p : Platform) :
    (compute p).state.draws.hostNames = p.draws.hostNames + 1 := by
  have hname : (resolveHostName p).state.draws.hostNames = p.draws.hostNames + 1 := by
    cases hlack : p.lack? with
    | some reason =>
        rw [resolveHostName_of_lack hlack]
        rfl
    | none =>
        rw [resolveHostName_of_no_lack hlack]
        rfl
  rcases (compute_after_name p).2 with hstate | hstate
  · rw [hstate, hname]
  · rw [hstate]
    exact hname

namespace World

/-! ## Accounts -/

/-- How often the platform at a place is asked for random bytes on behalf of a state, going
by what is noted down. -/
def servings (w : World) (s i : Nat) (entries : List Entry) : Nat :=
  if i = (w.state s).platform then
    (if (w.platform i).integerSource = .stream then seedings entries else 0) + namings entries
  else 0

theorem servings_append (w : World) (s i : Nat) (entries more : List Entry) :
    w.servings s i (entries ++ more) = w.servings s i entries + w.servings s i more := by
  unfold servings
  rw [seedings_append, namings_append]
  split
  · split <;> omega
  · rfl

theorem servings_of_unnoted {w : World} {s i : Nat} {entries : List Entry}
    (hseedings : seedings entries = 0) (hnamings : namings entries = 0) :
    w.servings s i entries = 0 := by
  simp [servings, hseedings, hnamings]

/-- Progress on a state, for which platforms are asked for random bytes and host names as often
as the entries say, and besides for some pieces of random bytes that go into drafts. -/
structure Tallies (drafted : Nat → Nat) (s : Nat) (w w' : World) (entries : List Entry) : Prop
    extends Progress s w w' entries where
  byteStrings : w.HasState s → ∀ i, (w'.platform i).draws.byteStrings =
    (w.platform i).draws.byteStrings + w.servings s i entries + drafted i
  hostNames : w.HasState s → ∀ i, (w'.platform i).draws.hostNames =
    (w.platform i).draws.hostNames + if i = (w.state s).platform then timings entries else 0

namespace Tallies

variable {s : Nat} {w w' w'' : World} {entries more : List Entry} {drafted later : Nat → Nat}

theorem trans (h : Tallies drafted s w w' entries) (h' : Tallies later s w' w'' more) :
    Tallies (drafted + later) s w w'' (entries ++ more) := by
  refine ⟨h.toProgress.trans h'.toProgress, fun hw i => ?_, fun hw i => ?_⟩
  · have hsame : w'.servings s i more = w.servings s i more := by
      unfold servings
      rw [h.platform, h.integerSource]
    rw [h'.byteStrings (h.hasState hw), h.byteStrings hw, hsame, servings_append, Pi.add_apply]
    omega
  · rw [h'.hostNames (h.hasState hw), h.hostNames hw, h.platform, timings_append]
    split
    · rw [Nat.add_assoc]
    · rfl

/-- Where no platform changes, nothing has been asked for, and nothing may be noted down that
says so. -/
theorem of_platforms (hprogress : Progress s w w' entries)
    (hplatforms : ∀ i, w'.platform i = w.platform i) (hseedings : seedings entries = 0)
    (hnamings : namings entries = 0) (htimings : timings entries = 0) :
    Tallies 0 s w w' entries := by
  refine ⟨hprogress, fun _ i => ?_, fun _ i => ?_⟩
  · rw [hplatforms, servings_of_unnoted hseedings hnamings]
    rfl
  · rw [hplatforms, htimings, ite_self, Nat.add_zero]

theorem refl (s : Nat) (w : World) : Tallies 0 s w w [] :=
  of_platforms (.refl w) (fun _ => rfl) rfl rfl rfl

end Tallies

theorem cumulative_tallies (s g : Nat) :
    Act.Cumulative (fun w => (w.generator g).state = s) (Tallies 0 s) where
  refl w _ := .refl s w
  trans h h' := h.trans h'
  stays hg h := (h.places _).2.trans hg

/-! ## States -/

theorem tallies_readClock (s g : Nat) (w : World) : Tallies 0 s w (w.clockRead g) [] :=
  .of_platforms (progress_readClock s g w) (w.platform_clockRead g) rfl rfl rfl

theorem tallies_nextCount (s : Nat) (w : World) :
    Tallies 0 s w (nextCount s w).state (nextCount s w).entries := by
  refine ⟨progress_nextCount s w, fun hw i => ?_, fun _ i => ?_⟩
  · rw [nextCount_apply]
    dsimp only
    rw [leaveCount, platform_setState, seedEntries]
    cases hstored : (w.state s).counter.stored with
    | some n =>
        rw [seeded_of_stored hstored, servings_of_unnoted rfl rfl]
        rfl
    | none =>
        rw [seeded_of_not_stored hstored, servings]
        by_cases hi : i = (w.state s).platform
        · subst hi
          rw [platform_setPlatform_self _ hw.platform_lt, Platform.byteStrings_afterInteger,
            if_pos rfl]
          rfl
        · rw [platform_setPlatform_ne _ (Ne.symm hi), if_neg hi]
          rfl
  · have huntimed : timings (w.seedEntries s) = 0 := by
      unfold seedEntries
      split <;> rfl
    rw [nextCount_apply, huntimed, ite_self, Nat.add_zero]
    dsimp only
    rw [leaveCount, platform_setState]
    rcases w.platform_seeded s i with h | h
    · rw [h]
    · rw [h]
      exact congrArg Prod.fst (w.platform i).hostDraws_afterInteger

/-- What is noted down of a computation: as many names that have been made up as the platform
has, and one duration. -/
theorem tallied_setUpEntries (w : World) (i : Nat) :
    namings (w.setUpEntries i) = namings (Fingerprint.compute (w.platform i)).entries ∧
      timings (w.setUpEntries i) = 1 := by
  have huntimed : timings (w.platform i).lackEntries = 0 := by
    unfold Platform.lackEntries
    split <;> rfl
  rw [Fingerprint.entries_compute, setUpEntries, namings_append, namings_append, timings_append,
    timings_append, huntimed]
  cases (Fingerprint.compute (w.platform i)).answer <;> exact ⟨rfl, rfl⟩

/-- The host is asked for its name, and for what a name is made of, whether there is a
fingerprint in the end or not. -/
theorem tallies_fingerprint (s : Nat) (w : World) :
    Tallies 0 s w (fingerprint s w).state (fingerprint s w).entries := by
  have hprogress := progress_fingerprint s w
  have hseedings : seedings (fingerprint s w).entries = 0 := seedsNothing_fingerprint s w trivial
  cases hprint : (w.state s).fingerprint with
  | some f =>
      rw [fingerprint_of_some hprint] at hprogress ⊢
      exact .of_platforms hprogress (fun _ => rfl) rfl rfl rfl
  | none =>
      have hentries : (fingerprint s w).entries = w.setUpEntries (w.state s).platform := by
        rw [entries_fingerprint, fingerprintEntries, hprint]
      obtain ⟨hnamings, htimings⟩ := tallied_setUpEntries w (w.state s).platform
      have hplatform : ∀ i, (fingerprint s w).state.platform i =
          (w.setPlatform (w.state s).platform
            (Fingerprint.compute (w.platform (w.state s).platform)).state).platform i := by
        intro i
        rw [platform, platforms_fingerprint_of_none hprint]
        rfl
      rw [hentries] at hseedings
      refine ⟨hprogress, fun hw i => ?_, fun hw i => ?_⟩
      · rw [hplatform, hentries, servings, hseedings, hnamings, ite_self, Nat.zero_add]
        by_cases hi : i = (w.state s).platform
        · subst hi
          rw [platform_setPlatform_self _ hw.platform_lt, if_pos rfl,
            Fingerprint.byteStrings_compute]
          rfl
        · rw [platform_setPlatform_ne _ (Ne.symm hi), if_neg hi]
          rfl
      · rw [hplatform, hentries, htimings]
        by_cases hi : i = (w.state s).platform
        · subst hi
          rw [platform_setPlatform_self _ hw.platform_lt, if_pos rfl,
            Fingerprint.hostNames_compute]
        · rw [platform_setPlatform_ne _ (Ne.symm hi), if_neg hi, Nat.add_zero]

/-! ## Requests -/

/-- How often random bytes are asked for to be put into a draft: once for those that are
hashed, and once for the one that the letter is picked by. -/
def draftServings {α : Type} : Except Fault α → Nat
  | .ok _ => 2
  | .error _ => 0

/-- Some pieces of random bytes that the platform at a place is asked for, and no other. -/
def piecesAt (i pieces : Nat) : Nat → Nat := fun j => if j = i then pieces else 0

theorem piecesAt_zero (i : Nat) : piecesAt i 0 = 0 := by
  funext j
  exact ite_self 0

theorem piecesAt_add (i m n : Nat) : piecesAt i m + piecesAt i n = piecesAt i (m + n) := by
  funext j
  by_cases hj : j = i <;> simp [piecesAt, hj]

section Requests

variable {w : World} {g : Nat}

theorem tallies_served {i : Nat} (hi : i < w.platforms.length) (s n : Nat) :
    Tallies (piecesAt i 1) s w (w.served i n) [] := by
  refine ⟨progress_randomBytes s i n w, fun _ j => ?_, fun _ j => ?_⟩
  · rw [servings_of_unnoted rfl rfl, piecesAt]
    by_cases hj : j = i
    · subst hj
      rw [platform_served_self hi, if_pos rfl]
      rfl
    · rw [platform_served_ne (Ne.symm hj), if_neg hj]
      rfl
  · rw [show timings [] = 0 from rfl, ite_self, Nat.add_zero]
    by_cases hj : j = i
    · subst hj
      rw [platform_served_self hi]
      rfl
    · rw [platform_served_ne (Ne.symm hj)]

theorem tallies_gather (hg : (w.generator g).platform < w.platforms.length) (n : Length) :
    Tallies (piecesAt (w.generator g).platform (draftServings (gather g n w).answer))
      (w.generator g).state w (gather g n w).state (gather g n w).entries := by
  have hcount := tallies_nextCount (w.generator g).state (w.clockRead g)
  rw [nextCount_clockRead] at hcount
  have hcounted := (tallies_readClock (w.generator g).state g w).trans hcount
  have hprint := tallies_fingerprint (w.generator g).state (w.counted g)
  rcases hrun : fingerprint (w.generator g).state (w.counted g) with ⟨fault | f, v, entries⟩
  · rw [hrun] at hprint
    rw [gather_of_error n hrun, draftServings, piecesAt_zero]
    exact hcounted.trans hprint
  · rw [hrun] at hprint
    have hready := hcounted.trans hprint
    have hv : (w.generator g).platform < v.platforms.length := hready.platforms_length ▸ hg
    have hv' : (w.generator g).platform <
        (v.served (w.generator g).platform n.val).platforms.length := by simpa using hv
    have hserved := (hready.trans (tallies_served hv (w.generator g).state n.val)).trans
      (tallies_served hv' (w.generator g).state 1)
    simp only [List.append_nil, piecesAt_add, zero_add] at hserved
    rw [gather_of_ok n hrun]
    exact hserved

/-- What becomes of a draft is nothing to the platforms. -/
theorem tallies_conclude (s : Nat) (made : Except Fault Text) (v : World) :
    Tallies 0 s v (conclude made v).state (conclude made v).entries := by
  have hprogress := progress_conclude s made v
  rw [entries_conclude] at hprogress ⊢
  have hunnoted : seedings (conclusionEntries made) = 0 ∧ namings (conclusionEntries made) = 0 ∧
      timings (conclusionEntries made) = 0 := by
    unfold conclusionEntries
    split <;> exact ⟨rfl, rfl, rfl⟩
  refine .of_platforms hprogress (fun i => ?_) hunnoted.1 hunnoted.2.1 hunnoted.2.2
  rw [state_conclude]

theorem tallies_reject (s : Nat) (length : Value) (rejection : Length.Rejection) (v : World) :
    Tallies 0 s v (reject length rejection v).state (reject length rejection v).entries := by
  have hprogress := progress_reject s length rejection v
  rw [entries_reject] at hprogress ⊢
  have hunnoted : seedings (rejectionEntries length rejection) = 0 ∧
      namings (rejectionEntries length rejection) = 0 ∧
      timings (rejectionEntries length rejection) = 0 := by
    unfold rejectionEntries
    split <;> exact ⟨rfl, rfl, rfl⟩
  refine .of_platforms hprogress (fun i => ?_) hunnoted.1 hunnoted.2.1 hunnoted.2.2
  rw [state_reject]

/-- The pieces of random bytes that a step asks for to be put into a draft. -/
def draftsIn (w : World) : Step → Nat
  | .tryGenerate g length | .generate g length =>
    match Length.ofValue (requestedLength length) with
    | .ok n => draftServings (gather g n w).answer
    | .error _ => 0
  | _ => 0

theorem tallies_tryGenerate (hg : (w.generator g).platform < w.platforms.length)
    (length : Option Value) :
    Tallies (piecesAt (w.generator g).platform (w.draftsIn (.tryGenerate g length)))
      (w.generator g).state w (tryGenerate g (requestedLength length) w).state
      (tryGenerate g (requestedLength length) w).entries := by
  rw [draftsIn]
  cases hlength : Length.ofValue (requestedLength length) with
  | error rejection =>
      rw [tryGenerate_of_error g hlength, piecesAt_zero]
      exact tallies_reject _ _ _ w
  | ok n =>
      have hgather := tallies_gather hg n
      rw [tryGenerate_of_ok g hlength, generateAccepted_eq, Act.bind_apply]
      dsimp only
      rcases hrun : gather g n w with ⟨fault | d, v, entries⟩
      · rw [hrun] at hgather
        exact hgather
      · rw [hrun] at hgather
        have hended := hgather.trans
          (tallies_conclude (w.generator g).state (d.make v.primitive n) v)
        rw [add_zero] at hended
        exact hended

end Requests

end World

/-! ## Calls -/

/-- The step is a call on a generator or on a part of its state, or some turns of a counter. -/
def Step.IsCall : Step → Prop
  | tryGenerate _ _ | generate _ _ | nextCounts _ _ | fingerprint _ | nextCountsInThreads _ _ _ =>
    True
  | setCounter _ _ | changePlatform _ _ | setClock _ _ | setPrimitive _ _
  | generateInThreads _ _ _ _ => False

namespace World

/-- The step lemma: how often platforms are asked in the course of a call. -/
theorem tallies_perform {step : Step} {w : World} (h : step.IsCall)
    (hg : (w.generator step.subject).platform < w.platforms.length) :
    Tallies (piecesAt (w.generator step.subject).platform (w.draftsIn step))
      (w.generator step.subject).state w (perform step w).state (perform step w).entries := by
  have hR := cumulative_tallies (w.generator step.subject).state step.subject
  have hturn : ∀ v : World, (v.generator step.subject).state = (w.generator step.subject).state →
      (nextCount (v.generator step.subject).state).Obeys
        (fun u => (u.generator step.subject).state = (w.generator step.subject).state)
        (Tallies 0 (w.generator step.subject).state) := by
    intro v hv
    rw [hv]
    exact fun u _ => tallies_nextCount _ u
  cases step with
  | tryGenerate g length =>
      rw [perform, Act.map_apply]
      exact tallies_tryGenerate hg length
  | generate g length =>
      have hasked := tallies_tryGenerate hg length
      rw [← state_generate, entries_tryGenerate, ← entries_generate] at hasked
      rw [perform, Act.map_apply]
      exact hasked
  | nextCounts g times =>
      show Tallies (piecesAt (w.generator g).platform 0) _ w _ _
      rw [piecesAt_zero]
      exact obeys_nextCounts hR hturn times w rfl
  | nextCountsInThreads g threads calls =>
      show Tallies (piecesAt (w.generator g).platform 0) _ w _ _
      rw [piecesAt_zero]
      exact obeys_nextCountsInThreads hR hturn threads calls w rfl
  | fingerprint g =>
      show Tallies (piecesAt (w.generator g).platform 0) _ w _ _
      rw [piecesAt_zero, perform, Act.bind_apply, Act.state_apply, Act.andThen_ok, Act.map_apply]
      exact tallies_fingerprint _ w
  | setCounter | changePlatform | setClock | setPrimitive | generateInThreads => exact absurd h id

end World

end IdMint
