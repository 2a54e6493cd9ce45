import IdMint.Proofs.Alongside
import IdMint.Proofs.Desks
import IdMint.Proofs.Interleaving
import IdMint.Proofs.Omission
import IdMint.Proofs.Requests

/-!
# What the shared generator is worth

Over one operating system there is one stream of random bytes.  The shared generator
draws the seed of its counter from it, and everything else after that.  It gives the
same as a generator of one's own whose platform has the seed aside and serves the stream
from its ninth byte on: that platform is eight bytes behind as soon as the counter is
seeded, and not before (`Platform.Ahead`).

The seed is the first thing that is drawn at all, since the clock is read before and a
rejected length draws nothing.  So nothing has been made of bytes that would be different
ones over there.
-/

namespace IdMint

/-! ## Platforms -/

namespace Platform

/-- A platform is ahead of another one by some bytes of one stream, of which the other one
leaves out the first eight. -/
structure Ahead (lead : Nat) (p q : Platform) : Prop where
  hostName : p.hostName = q.hostName
  processId : p.processId = q.processId
  environment : p.environment = q.environment
  source : p.integerSource = .stream
  stream : ∀ n, q.stream n = p.stream (n + 8)
  position : p.position = q.position + lead
  bytes : p.draws.bytes = q.draws.bytes + lead

variable {p q : Platform}

/-- Eight bytes ahead, the same bytes come next. -/
theorem Ahead.upcoming (h : Ahead 8 p q) (n : Nat) : p.upcoming n = q.upcoming n := by
  rw [Platform.upcoming, Platform.upcoming, h.position, Nat.add_comm, ← List.map_add_range',
    List.map_map]
  refine List.map_congr_left fun k _ => ?_
  rw [h.stream, Function.comp_apply, Nat.add_comm]

/-- A seed is made of the bytes that are left out, and takes the platform ahead that has to
serve them. -/
theorem Ahead.afterInteger (h : Ahead 0 p q)
    (hseed : q.integerSource = .given (Bytes.toIntLittle (p.upcoming 8))) :
    p.upcomingInteger = q.upcomingInteger ∧ Ahead 8 p.afterInteger q.afterInteger := by
  have hserved : p.afterInteger = p.served 8 := by
    rw [Platform.afterInteger, randomInteger, h.source]
    rfl
  constructor
  · rw [upcomingInteger, upcomingInteger, h.source, hseed]
  · rw [afterInteger_of_given hseed, hserved]
    exact { h with position := congrArg (· + 8) h.position, bytes := congrArg (· + 8) h.bytes }

theorem matches_randomBytes (n : Nat) :
    Act.Matches (Ahead 8) (randomBytes n) (randomBytes n) := by
  intro p q h
  have hposition : p.position + n = q.position + n + 8 := by
    rw [h.position]
    omega
  have hbytes : p.draws.bytes + n = q.draws.bytes + n + 8 := by
    rw [h.bytes]
    omega
  exact ⟨congrArg Except.ok (h.upcoming n), rfl,
    { h with position := hposition, bytes := hbytes }⟩

theorem matches_lookUpHostName : Act.Matches (Ahead 8) lookUpHostName lookUpHostName :=
  fun _ _ h => ⟨h.hostName, rfl, { h with }⟩

theorem matches_readEnvironment : Act.Matches (Ahead 8) readEnvironment readEnvironment :=
  fun _ _ h => ⟨congrArg Except.ok h.environment, rfl, { h with }⟩

end Platform

namespace Fingerprint

open Platform (Ahead)

theorem matches_substituteHostName (reason : Text) :
    Act.Matches (Ahead 8) (substituteHostName reason) (substituteHostName reason) :=
  (Act.Matches.note _ _ _).bind fun _ =>
    (Platform.matches_randomBytes _).bind fun _ => .pure _

theorem matches_resolveHostName :
    Act.Matches (Ahead 8) resolveHostName resolveHostName := by
  refine Platform.matches_lookUpHostName.attempt.bind fun answer => ?_
  cases answer with
  | error fault =>
      dsimp only
      split
      · exact matches_substituteHostName _
      · exact .fail fault
  | ok name =>
      dsimp only
      split
      · exact matches_substituteHostName _
      · exact .pure name

/-- Eight bytes ahead, a host has the same fingerprint, even if its name has to be made up. -/
theorem matches_compute : Act.Matches (Ahead 8) compute compute := by
  refine matches_resolveHostName.bind fun name => (Act.Matches.ofExcept _).bind fun host => ?_
  refine Act.Matches.state_bind fun p q h => ?_
  rw [h.processId]
  refine Platform.matches_readEnvironment.bind fun environment => ?_
  exact (Act.Matches.ofExcept _).bind fun settings => .pure _

end Fingerprint

/-! ## Worlds -/

/-- Two desks have the same on them, save that the platform of the first is ahead once its
counter has been seeded.  Until then, what the other one gives for a seed is what the first
will make of its next eight bytes. -/
structure Desk.Ahead (lead : Nat) (d d' : Desk) : Prop where
  clock : d.clock = d'.clock
  platform : d.platform.Ahead lead d'.platform
  counter : d.counter = d'.counter
  fingerprint : d.fingerprint = d'.fingerprint
  lead_eq : lead = if d.counter.isSeeded then 8 else 0
  seed : d.counter.isSeeded = false →
    d'.platform.integerSource = .given (Bytes.toIntLittle (d.platform.upcoming 8))

namespace World

/-- Two worlds with a generator each that works at such a desk. -/
structure Ahead (lead : Nat) (w w' : World) : Prop where
  desks : ∃ d d', w.Shows 0 0 0 d ∧ w'.Shows 0 0 0 d' ∧ d.Ahead lead d'
  primitive : w.primitive = w'.primitive
  stopwatch : w.stopwatch = w'.stopwatch

theorem stopwatch_setClock (w : World) (g : Nat) (c : Clock) :
    (setClock g c w).stopwatch = w.stopwatch := by
  simp only [setClock]
  split <;> rfl

namespace Ahead

variable {lead : Nat} {w w' : World}

theorem clock (h : Ahead lead w w') : w.clock 0 = w'.clock 0 := by
  obtain ⟨d, d', hw, hw', hd⟩ := h.desks
  rw [hw.clock_eq, hw'.clock_eq, hd.clock]

theorem platform (h : Ahead lead w w') : (w.platform 0).Ahead lead (w'.platform 0) := by
  obtain ⟨d, d', hw, hw', hd⟩ := h.desks
  rw [hw.platform_eq, hw'.platform_eq]
  exact hd.platform

theorem state (h : Ahead lead w w') : w.state 0 = w'.state 0 := by
  obtain ⟨d, d', hw, hw', hd⟩ := h.desks
  rw [hw.state_eq, hw'.state_eq, hd.counter, hd.fingerprint]

theorem origin (h : Ahead lead w w') : (w.state 0).platform = 0 := by
  obtain ⟨d, d', hw, -, -⟩ := h.desks
  rw [hw.state_eq]

/-- Both generators refer to the platform and the state at the first places. -/
theorem places (h : Ahead lead w w') :
    ((w.generator 0).platform = 0 ∧ (w.generator 0).state = 0) ∧
      (w'.generator 0).platform = 0 ∧ (w'.generator 0).state = 0 := by
  obtain ⟨d, d', hw, hw', -⟩ := h.desks
  exact ⟨⟨hw.platform_place, hw.state_place⟩, hw'.platform_place, hw'.state_place⟩

theorem setClock (h : Ahead lead w w') (c : Clock) :
    Ahead lead (World.setClock 0 c w) (World.setClock 0 c w') := by
  obtain ⟨d, d', hw, hw', hd⟩ := h.desks
  refine ⟨⟨_, _, hw.setClock c, hw'.setClock c, { hd with clock := rfl }⟩, ?_, ?_⟩
  · rw [primitive_setClock, primitive_setClock, h.primitive]
  · rw [stopwatch_setClock, stopwatch_setClock, h.stopwatch]

theorem watched (h : Ahead lead w w') : Ahead lead w.watched w'.watched := by
  obtain ⟨d, d', hw, hw', hd⟩ := h.desks
  refine ⟨⟨d, d', hw.watched, hw'.watched, hd⟩, h.primitive, ?_⟩
  rw [World.watched, World.watched, h.stopwatch]

/-- Once the counter is seeded, the platforms go on as they like, eight bytes apart. -/
theorem setPlatform (h : Ahead 8 w w') {p q : Platform} (hp : p.Ahead 8 q) :
    Ahead 8 (w.setPlatform 0 p) (w'.setPlatform 0 q) := by
  obtain ⟨d, d', hw, hw', hd⟩ := h.desks
  have hseeded : d.counter.isSeeded = true := by
    by_contra hnot
    have hlead := hd.lead_eq
    rw [if_neg hnot] at hlead
    cases hlead
  refine ⟨⟨_, _, hw.setPlatform p, hw'.setPlatform q, { hd with platform := hp, seed := ?_ }⟩,
    h.primitive, h.stopwatch⟩
  intro hnot
  rw [show d.counter.isSeeded = false from hnot] at hseeded
  cases hseeded

theorem setFingerprint (h : Ahead lead w w') (f : Bytes) :
    Ahead lead (w.setState 0 { w.state 0 with fingerprint := some f })
      (w'.setState 0 { w'.state 0 with fingerprint := some f }) := by
  obtain ⟨d, d', hw, hw', hd⟩ := h.desks
  rw [hw.state_eq, hw'.state_eq]
  exact ⟨⟨_, _, hw.setState _ _, hw'.setState _ _, { hd with fingerprint := rfl }⟩,
    h.primitive, h.stopwatch⟩

/-- A counter value that is left in both worlds finds them as far apart as seeded counters
are. -/
theorem leaveCount {d d' : Desk} (hw : w.Shows 0 0 0 d) (hw' : w'.Shows 0 0 0 d')
    (hclock : d.clock = d'.clock) (hfingerprint : d.fingerprint = d'.fingerprint)
    (hplatform : d.platform.Ahead 8 d'.platform) (hprimitive : w.primitive = w'.primitive)
    (hstopwatch : w.stopwatch = w'.stopwatch) (v : Int) :
    Ahead 8 (w.leaveCount 0 v) (w'.leaveCount 0 v) where
  desks := ⟨_, _, hw.leaveCount v, hw'.leaveCount v,
    { clock := hclock
      platform := hplatform
      counter := rfl
      fingerprint := hfingerprint
      lead_eq := rfl
      seed := fun hnot => by cases hnot }⟩
  primitive := hprimitive
  stopwatch := hstopwatch

/-- The next value of the counter is the same in both worlds, and if it is the first one it
takes a platform ahead. -/
theorem matches_nextCount (h : Ahead lead w w') :
    (World.nextCount 0 w).Matches (Ahead 8) (World.nextCount 0 w') := by
  have hstate := h.state
  obtain ⟨d, d', hw, hw', hd⟩ := h.desks
  have hcounter : (w.state 0).counter = d.counter := by rw [hw.state_eq]
  have hentries : w.seedEntries 0 = w'.seedEntries 0 := by
    rw [seedEntries, seedEntries, hstate]
  rw [nextCount_apply, nextCount_apply, hentries]
  cases hstored : (w.state 0).counter.stored with
  | some v =>
      have hstored' : (w'.state 0).counter.stored = some v := by rw [← hstate, hstored]
      have hplatform : d.platform.Ahead 8 d'.platform := by
        have hlead := hd.lead_eq
        rw [Counter.isSeeded, ← hcounter, hstored] at hlead
        obtain rfl : lead = 8 := hlead
        exact hd.platform
      rw [upcomingCount_of_stored hstored, upcomingCount_of_stored hstored',
        seeded_of_stored hstored, seeded_of_stored hstored']
      exact ⟨rfl, rfl, leaveCount hw hw' hd.clock hd.fingerprint hplatform h.primitive
        h.stopwatch _⟩
  | none =>
      have hstored' : (w'.state 0).counter.stored = none := by rw [← hstate, hstored]
      have hnot : d.counter.isSeeded = false := by
        rw [Counter.isSeeded, ← hcounter, hstored]
        rfl
      have hlead := hd.lead_eq
      rw [hnot] at hlead
      obtain rfl : lead = 0 := hlead
      obtain ⟨hinteger, hplatform⟩ := hd.platform.afterInteger (hd.seed hnot)
      have hcount : w.upcomingCount 0 = w'.upcomingCount 0 := by
        rw [upcomingCount_of_not_stored hstored, upcomingCount_of_not_stored hstored', hw.state_eq,
          hw'.state_eq]
        dsimp only
        rw [hw.platform_eq, hw'.platform_eq, hinteger]
      rw [hcount, seeded_of_not_stored hstored, seeded_of_not_stored hstored', hw.state_eq,
        hw'.state_eq]
      dsimp only
      rw [hw.platform_eq, hw'.platform_eq]
      have hasked := hw.setPlatform d.platform.afterInteger
      have hasked' := hw'.setPlatform d'.platform.afterInteger
      exact ⟨rfl, rfl, leaveCount hasked hasked' hd.clock hd.fingerprint hplatform h.primitive
        h.stopwatch _⟩

/-! ### Actions -/

theorem matches_onPlatform {α : Type} {act : Act Platform α}
    (h : Act.Matches (Platform.Ahead 8) act act) :
    Act.Matches (Ahead 8) (onPlatform 0 act) (onPlatform 0 act) :=
  .within_related h (fun _ _ hw => hw.platform) fun _ _ _ _ hp hw => hw.setPlatform hp

theorem matches_fingerprint :
    Act.Matches (Ahead 8) (fingerprint 0) (fingerprint 0) := by
  have hwatch : Act.Matches (Ahead 8) readStopwatch readStopwatch := by
    intro w w' h
    rw [readStopwatch_apply, readStopwatch_apply, h.stopwatch]
    exact ⟨rfl, rfl, h.watched⟩
  refine Act.Matches.state_bind fun w w' h => ?_
  rw [← h.state]
  cases (w.state 0).fingerprint with
  | some bytes => exact .pure bytes
  | none =>
      refine Act.Matches.state_bind fun v v' hv => ?_
      rw [← hv.state, hv.origin]
      refine (Act.Matches.timed _ _ hwatch
        (matches_onPlatform Fingerprint.matches_compute)).bind fun computed => ?_
      refine (Act.Matches.note _ _ _).bind fun _ => ?_
      exact (Act.Matches.change fun u u' hu => hu.setFingerprint computed).bind fun _ =>
        .pure computed

/-- A request for an acceptable length gathers the same in both worlds, and leaves one of
them eight bytes ahead. -/
theorem matches_gather (h : Ahead lead w w') (n : Length) :
    (gather 0 n w).Matches (Ahead 8) (gather 0 n w') := by
  have hread : Ahead lead (w.clockRead 0) (w'.clockRead 0) := by
    rw [clockRead, clockRead, h.clock]
    exact h.setClock _
  obtain ⟨⟨hplatform, hstate⟩, hplatform', hstate'⟩ := hread.places
  rw [gather, Act.bind_apply, Act.bind_apply, readClock_apply, readClock_apply, h.clock]
  refine .andThen_ok ?_
  refine .state_bind ?_
  rw [hplatform, hplatform', hstate, hstate']
  -- the counter is what takes the first platform ahead; from there on both do the same
  rw [Act.bind_apply, Act.bind_apply]
  refine Act.Matches.andThen hread.matches_nextCount fun counter => ?_
  refine matches_fingerprint.bind fun f => ?_
  refine (matches_onPlatform (Platform.matches_randomBytes _)).bind fun random => ?_
  exact (matches_onPlatform (Platform.matches_randomBytes _)).bind fun first => .pure _

theorem matches_generateAccepted (h : Ahead lead w w') (n : Length) :
    (generateAccepted 0 n w).Matches (Ahead 8) (generateAccepted 0 n w') := by
  rw [generateAccepted, Act.bind_apply, Act.bind_apply]
  refine Act.Matches.andThen (h.matches_gather n) fun draft => ?_
  refine Act.Matches.state_bind fun v v' hv => ?_
  rw [hv.primitive]
  exact matches_conclude _

/-- How far one world is ahead after a request depends on whether its length is accepted, and
if not on how far it has been ahead before. -/
theorem matches_tryGenerate (h : Ahead lead w w') (length : Value) :
    (tryGenerate 0 length w).Matches (Ahead (if length.FitsLength then 8 else lead))
      (tryGenerate 0 length w') := by
  by_cases hfits : length.FitsLength
  · obtain ⟨n, hn⟩ := Length.exists_ofValue_iff.mpr hfits
    rw [if_pos hfits, tryGenerate_of_ok 0 hn]
    exact h.matches_generateAccepted n
  · obtain ⟨rejection, hreject⟩ := tryGenerate_of_not_fits 0 hfits
    rw [if_neg hfits, hreject]
    exact matches_reject length rejection w w' h

theorem matches_generate (h : Ahead lead w w') (length : Value) :
    (generate 0 length w).Matches (Ahead (if length.FitsLength then 8 else lead))
      (generate 0 length w') := by
  rw [generate, Act.bind_apply, Act.bind_apply]
  exact Act.Matches.andThen (h.matches_tryGenerate length) fun outcome => .ofExcept _

end Ahead

end World

/-! ## Calls -/

/-- The platform with its next eight random bytes set aside: they are the integer that it
gives, and the stream goes on behind them. -/
def Platform.setAside (p : Platform) : Platform :=
  { p with
    integerSource := .given (Bytes.toIntLittle (p.upcoming 8))
    stream := fun n => p.stream (n + 8) }

/-- A generator of one's own, over a platform and with a state and a clock that are its
own. -/
def World.ofGenerator (platform : Platform) (reading : Nat → Int) (primitive : HashPrimitive)
    (stopwatch : Stopwatch) : World where
  platforms := [platform]
  states := [{ platform := 0 }]
  generators := [{ platform := 0, state := 0, clock := some { reading } }]
  wallClock := default
  primitive
  stopwatch

namespace Service

/-- A call: how the caller wants to be told of failures, and the length that is asked for,
if any is. -/
structure Call where
  manner : Manner
  length : Option Value

namespace Call

/-- What the service does for a call. -/
def act (call : Call) : Act Service StepResult :=
  match call.manner with
  | .outcome => .outcome <$> tryGenerate (requestedLength call.length)
  | .fault => .identifier <$> generate (requestedLength call.length)

/-- The step that asks the same of a generator. -/
def step (g : Nat) (call : Call) : Step :=
  match call.manner with
  | .outcome => .tryGenerate g call.length
  | .fault => .generate g call.length

/-- The length that is asked for is acceptable. -/
def IsAccepted (call : Call) : Prop := (requestedLength call.length).FitsLength

instance : DecidablePred IsAccepted :=
  fun call => inferInstanceAs (Decidable (requestedLength call.length).FitsLength)

end Call

/-- Calls that are made one after another: what comes of each of them, with what it notes
down, and the service that is left. -/
def answers : List Call → Service → List (Except Fault StepResult × List Entry) × Service
  | [], s => ([], s)
  | call :: rest, s =>
    let run := call.act s
    let (more, after) := answers rest run.state
    ((run.answer, run.entries) :: more, after)

/-- The world of a service, with its shared generator, is ahead of one with a generator of
one's own. -/
structure Ahead (lead : Nat) (s : Service) (w : World) : Prop where
  place : s.ready.1 = 0
  world : s.ready.2.world.Ahead lead w

variable {lead : Nat} {s : Service} {w : World}

/-- What a service asks of its shared generator matches if it does so in the worlds. -/
theorem Ahead.ask {lead' : Nat} {α : Type} (h : Ahead lead s w) (act : Nat → Act World α)
    (hact : (act 0 s.ready.2.world).Matches (World.Ahead lead') (act 0 w)) :
    ((sharedGenerator >>= fun g => onWorld (act g)) s).Matches (Ahead lead') (act 0 w) := by
  rw [ask_apply, h.place]
  refine ⟨hact.answer, hact.entries, ?_, ?_⟩
  · rw [ready_after]
    exact h.place
  · rw [ready_after]
    exact hact.state

/-- The step: a call to the service comes to the same as one to the generator. -/
theorem Call.matches_act (call : Call) (h : Ahead lead s w) :
    (call.act s).Matches (Ahead (if call.IsAccepted then 8 else lead))
      (World.perform (call.step 0) w) := by
  obtain ⟨manner, length⟩ := call
  cases manner with
  | outcome =>
      exact .map _ (h.ask (fun g => World.tryGenerate g (requestedLength length))
        (h.world.matches_tryGenerate _))
  | fault =>
      exact .map _ (h.ask (fun g => World.generate g (requestedLength length))
        (h.world.matches_generate _))

/-- The run: the lead is settled by the first call that is accepted. -/
theorem Ahead.answers (calls : List Call) (h : Ahead lead s w) :
    (s.answers calls).1 =
        (w.session (calls.map (Call.step 0))).1.map (fun seen => (seen.result, seen.entries)) ∧
      Ahead (if ∃ call ∈ calls, call.IsAccepted then 8 else lead) (s.answers calls).2
        (w.session (calls.map (Call.step 0))).2 := by
  induction calls generalizing lead s w with
  | nil => exact ⟨rfl, by simpa [Service.answers, World.session] using h⟩
  | cons call rest ih =>
      have hfirst := call.matches_act h
      obtain ⟨hmore, hafter⟩ := ih hfirst.state
      constructor
      · show ((call.act s).answer, (call.act s).entries) :: _ = _ :: _
        rw [hfirst.answer, hfirst.entries, hmore]
      · have hlead : (if ∃ later ∈ call :: rest, later.IsAccepted then 8 else lead) =
            if ∃ later ∈ rest, later.IsAccepted then 8
              else if call.IsAccepted then 8 else lead := by
          by_cases hcall : call.IsAccepted <;> simp [hcall]
        rw [hlead]
        exact hafter

/-- Before the first call, nothing is ahead. -/
theorem ahead_start (system : Platform) (nanoseconds : Nat → Int) (primitive : HashPrimitive)
    (stopwatch : Stopwatch) :
    Ahead 0 (start system nanoseconds primitive stopwatch)
      (World.ofGenerator system.setAside (fun n => nanoseconds n / 100) primitive stopwatch) where
  place := rfl
  world :=
    { desks := by
        let clock : Clock := { reading := fun n => nanoseconds n / 100 }
        refine ⟨{ clock, platform := { system with integerSource := .stream } },
          { clock, platform := system.setAside }, ?_, ?_, ?_⟩
        · exact ⟨rfl, rfl, Nat.zero_lt_one, Nat.zero_lt_one, rfl, rfl, rfl⟩
        · exact ⟨rfl, rfl, Nat.zero_lt_one, Nat.zero_lt_one, rfl, rfl, rfl⟩
        · have hplatform : Platform.Ahead 0 { system with integerSource := .stream }
              system.setAside :=
            ⟨rfl, rfl, rfl, rfl, fun _ => rfl, rfl, rfl⟩
          exact ⟨rfl, hplatform, rfl, rfl, rfl, fun _ => rfl⟩
      primitive := rfl
      stopwatch := rfl }

/-- **The shared generator is worth one of one's own.**  Over any operating system, all
calls to the service come to what they would come to if they went to a generator over that
system with its next eight bytes set aside for the seed, and by the clock on the wall in
hundreds of nanoseconds.  From the first accepted call on, the system has served eight bytes
more than the platform of that generator, and until then as many. -/
theorem answers_start (system : Platform) (nanoseconds : Nat → Int) (primitive : HashPrimitive)
    (stopwatch : Stopwatch) (calls : List Call) :
    let s := start system nanoseconds primitive stopwatch
    let w := World.ofGenerator system.setAside (fun n => nanoseconds n / 100) primitive stopwatch
    (s.answers calls).1 =
        (w.session (calls.map (Call.step 0))).1.map (fun seen => (seen.result, seen.entries)) ∧
      ∀ k, ((s.answers (calls.take k)).2.world.platform 0).draws.bytes =
        ((w.session ((calls.take k).map (Call.step 0))).2.platform 0).draws.bytes +
          if ∃ call ∈ calls.take k, call.IsAccepted then 8 else 0 := by
  intro s w
  have hstart : Ahead 0 s w := ahead_start system nanoseconds primitive stopwatch
  refine ⟨(hstart.answers calls).1, fun k => ?_⟩
  have hafter := (hstart.answers (calls.take k)).2.world.platform
  rw [World.platform, platforms_ready] at hafter
  exact hafter.bytes

end Service

end IdMint
