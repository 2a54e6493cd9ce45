import IdMint.Proofs.Fingerprints

/-!
# The desk of a generator

What a generator works with lies in several places of a world: its clock, its
platform, and the counter and the fingerprint of its state.  Where the state is
over the generator's own platform, all of it is gathered on a `Desk`, and a
world shows that desk (`World.Shows`).

Each action of a request changes one thing on the desk and leaves the rest
alone.  So the effect of a whole request can be read off from the desk, without
a word about the world around it (`World.Shows.gather_of_stored`,
`World.Shows.gather_of_fresh`).
-/

namespace IdMint

/-- What a generator works with, if nothing is said of it: a counter that has
not been seeded, and no fingerprint. -/
structure Desk where
  clock : Clock
  platform : Platform
  counter : Counter := {}
  fingerprint : Option Bytes := none

namespace World

/-- A generator at place `g` with its platform at place `i` and its state, over
that platform, at place `s` works with what lies on a desk. -/
structure Shows (w : World) (g i s : Nat) (d : Desk) : Prop where
  platform_place : (w.generator g).platform = i
  state_place : (w.generator g).state = s
  platform_lt : i < w.platforms.length
  state_lt : s < w.states.length
  clock_eq : w.clock g = d.clock
  platform_eq : w.platform i = d.platform
  state_eq : w.state s =
    { platform := i, counter := d.counter, fingerprint := d.fingerprint }

namespace Shows

variable {w : World} {g i s : Nat} {d : Desk}

/-! ## One thing at a time -/

theorem setClock (h : w.Shows g i s d) (c : Clock) :
    (World.setClock g c w).Shows g i s { d with clock := c } := by
  obtain ⟨hplatform, hstate⟩ := places_setClock w g g c
  exact
    { platform_place := hplatform.trans h.platform_place
      state_place := hstate.trans h.state_place
      platform_lt := by simpa using h.platform_lt
      state_lt := by simpa using h.state_lt
      clock_eq := clock_setClock w g c
      platform_eq := by simpa [World.platform] using h.platform_eq
      state_eq := by simpa [World.state] using h.state_eq }

theorem setPlatform (h : w.Shows g i s d) (p : Platform) :
    (w.setPlatform i p).Shows g i s { d with platform := p } where
  platform_place := h.platform_place
  state_place := h.state_place
  platform_lt := by simpa [World.setPlatform] using h.platform_lt
  state_lt := h.state_lt
  clock_eq := h.clock_eq
  platform_eq := platform_setPlatform_self p h.platform_lt
  state_eq := h.state_eq

theorem setState (h : w.Shows g i s d) (counter : Counter) (fingerprint : Option Bytes) :
    (w.setState s { platform := i, counter, fingerprint }).Shows g i s
      { d with counter, fingerprint } where
  platform_place := h.platform_place
  state_place := h.state_place
  platform_lt := h.platform_lt
  state_lt := by simpa [World.setState] using h.state_lt
  clock_eq := h.clock_eq
  platform_eq := h.platform_eq
  state_eq := state_setState_self _ h.state_lt

theorem watched (h : w.Shows g i s d) : w.watched.Shows g i s d :=
  ⟨h.platform_place, h.state_place, h.platform_lt, h.state_lt, h.clock_eq, h.platform_eq,
    h.state_eq⟩

/-! ## The actions of a request -/

theorem clockRead (h : w.Shows g i s d) :
    (w.clockRead g).Shows g i s { d with clock := d.clock.advanced } := by
  rw [← h.clock_eq]
  exact h.setClock _

theorem served (h : w.Shows g i s d) (n : Nat) :
    (w.served i n).Shows g i s { d with platform := d.platform.served n } := by
  rw [← h.platform_eq]
  exact h.setPlatform _

theorem leaveCount (h : w.Shows g i s d) (v : Int) :
    (w.leaveCount s v).Shows g i s { d with counter := ⟨some v⟩ } := by
  rw [World.leaveCount, h.state_eq]
  exact h.setState ⟨some v⟩ d.fingerprint

/-- The counter of a desk hands out its value and keeps the next one. -/
theorem counted_of_stored (h : w.Shows g i s d) {v : Int}
    (hcounter : d.counter = ⟨some v⟩) :
    (w.clockRead g).upcomingCount s = v ∧
      (w.counted g).Shows g i s
        { d with clock := d.clock.advanced, counter := ⟨some (counterAfter v)⟩ } := by
  have hstored : ((w.clockRead g).state s).counter.stored = some v := by
    rw [h.clockRead.state_eq, hcounter]
  have hupcoming := upcomingCount_of_stored hstored
  refine ⟨hupcoming, ?_⟩
  rw [World.counted, h.state_place, hupcoming, seeded_of_stored hstored]
  exact h.clockRead.leaveCount _

/-- The counter of a desk that has not been seeded draws a seed, which it hands
out, and keeps the next value. -/
theorem counted_of_fresh (h : w.Shows g i s d) (hcounter : d.counter = {}) :
    (w.clockRead g).upcomingCount s = seedValue d.platform.upcomingInteger ∧
      (w.counted g).Shows g i s
        { d with
          clock := d.clock.advanced
          platform := d.platform.afterInteger
          counter := ⟨some (counterAfter (seedValue d.platform.upcomingInteger))⟩ } := by
  have hread := h.clockRead
  have hstored : ((w.clockRead g).state s).counter.stored = none := by
    rw [hread.state_eq, hcounter]
  have hplace : ((w.clockRead g).state s).platform = i := by rw [hread.state_eq]
  have hupcoming := upcomingCount_of_not_stored hstored
  rw [hplace, hread.platform_eq] at hupcoming
  refine ⟨hupcoming, ?_⟩
  rw [World.counted, h.state_place, hupcoming, seeded_of_not_stored hstored, hplace,
    hread.platform_eq]
  exact (hread.setPlatform _).leaveCount _

theorem fingerprint_of_cached (h : w.Shows g i s d) {f : Bytes}
    (hprint : d.fingerprint = some f) :
    World.fingerprint s w = ⟨.ok f, w, []⟩ := by
  apply fingerprint_of_some
  rw [h.state_eq, hprint]

/-- A desk without a fingerprint gets what its platform answers. -/
theorem fingerprint_of_fresh (h : w.Shows g i s d) {f : Bytes} {p : Platform}
    {entries : List Entry} (hprint : d.fingerprint = none)
    (hcompute : Fingerprint.compute d.platform = ⟨.ok f, p, entries⟩) :
    ∃ v journal, World.fingerprint s w = ⟨.ok f, v, journal⟩ ∧
      v.Shows g i s { d with platform := p, fingerprint := some f } := by
  have hnone : (w.state s).fingerprint = none := by rw [h.state_eq, hprint]
  have hplace : (w.state s).platform = i := by rw [h.state_eq]
  have hrun :
      Fingerprint.compute (w.platform (w.state s).platform) = ⟨.ok f, p, entries⟩ := by
    rw [hplace, h.platform_eq, hcompute]
  obtain ⟨journal, hanswer⟩ := fingerprint_of_answer hnone (by rw [hrun])
  refine ⟨_, journal, hanswer, ?_⟩
  rw [World.asked, hrun, hplace, h.state_eq]
  exact (h.watched.setPlatform p).watched.setState d.counter (some f)

/-- Once clock and counter have been asked and the fingerprint is there, the
random bytes complete the draft. -/
theorem gather_of_fingerprint (h : w.Shows g i s d) {v : World} {d' : Desk} {f : Bytes}
    {journal : List Entry} (length : Length)
    (hprint : World.fingerprint s (w.counted g) = ⟨.ok f, v, journal⟩)
    (hv : v.Shows g i s d') :
    ∃ v' entries,
      World.gather g length w =
        ⟨.ok {
            timestamp := d.clock.upcoming
            counter := (w.clockRead g).upcomingCount s
            fingerprint := f
            random := d'.platform.upcoming length.val
            pick := Bytes.toNatBig ((d'.platform.served length.val).upcoming 1) },
          v', entries⟩ ∧
      v'.Shows g i s
        { d' with platform := (d'.platform.served length.val).served 1 } := by
  have hserved := hv.served length.val
  have hgather :=
    gather_of_ok (g := g) (w := w) length (by rw [h.state_place]; exact hprint)
  rw [h.state_place, h.platform_place, h.clock_eq, hv.platform_eq,
    hserved.platform_eq] at hgather
  exact ⟨_, _, hgather, hserved.served 1⟩

/-- A request at a desk that has been in use before. -/
theorem gather_of_stored (h : w.Shows g i s d) {count : Int} {f : Bytes} (length : Length)
    (hcounter : d.counter = ⟨some count⟩) (hprint : d.fingerprint = some f) :
    ∃ v entries,
      World.gather g length w =
        ⟨.ok {
            timestamp := d.clock.upcoming
            counter := count
            fingerprint := f
            random := d.platform.upcoming length.val
            pick := Bytes.toNatBig ((d.platform.served length.val).upcoming 1) },
          v, entries⟩ ∧
      v.Shows g i s
        { clock := d.clock.advanced
          platform := (d.platform.served length.val).served 1
          counter := ⟨some (counterAfter count)⟩
          fingerprint := some f } := by
  obtain ⟨hcount, hcounted⟩ := h.counted_of_stored hcounter
  have hcached := hcounted.fingerprint_of_cached hprint
  obtain ⟨v, entries, hgather, hv⟩ := h.gather_of_fingerprint length hcached hcounted
  rw [hcount] at hgather
  rw [← hprint]
  exact ⟨v, entries, hgather, hv⟩

/-- The first request at a desk. -/
theorem gather_of_fresh (h : w.Shows g i s d) {f : Bytes} {p : Platform}
    {journal : List Entry} (length : Length) (hcounter : d.counter = {})
    (hprint : d.fingerprint = none)
    (hcompute : Fingerprint.compute d.platform.afterInteger = ⟨.ok f, p, journal⟩) :
    ∃ v entries,
      World.gather g length w =
        ⟨.ok {
            timestamp := d.clock.upcoming
            counter := seedValue d.platform.upcomingInteger
            fingerprint := f
            random := p.upcoming length.val
            pick := Bytes.toNatBig ((p.served length.val).upcoming 1) }, v, entries⟩ ∧
      v.Shows g i s
        { clock := d.clock.advanced
          platform := (p.served length.val).served 1
          counter := ⟨some (counterAfter (seedValue d.platform.upcomingInteger))⟩
          fingerprint := some f } := by
  obtain ⟨hcount, hcounted⟩ := h.counted_of_fresh hcounter
  obtain ⟨u, entries, hcomputed, hu⟩ := hcounted.fingerprint_of_fresh hprint hcompute
  obtain ⟨v, entries', hgather, hv⟩ := h.gather_of_fingerprint length hcomputed hu
  rw [hcount] at hgather
  exact ⟨v, entries', hgather, hv⟩

end Shows

end World

end IdMint
