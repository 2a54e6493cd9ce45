import IdMint.Proofs.Counting
import IdMint.Proofs.Frames

/-!
# Drafts of identifiers

A request for an identifier of an acceptable length has two parts
(`generateAccepted_eq`).  Gathering a `Draft` has effects on clock, counter,
fingerprint and platform; hashing the draft and cutting the digest to length has no
effect on the world.  The statements here describe the two parts one by one.
-/

namespace IdMint

/-- What a caller is told when making an identifier has come to an end. -/
def Identifier.conclusion : Except Fault Text → Except Fault Outcome
  | .ok identifier => .ok (Outcome.success identifier)
  | .error (.cryptoFailure message) => .ok (Outcome.failure .cryptoFailure message)
  | .error fault => .error fault

theorem Identifier.eq_ok_of_conclusion {made : Except Fault Text} {outcome : Outcome}
    {t : Text} (h : Identifier.conclusion made = .ok outcome)
    (ht : outcome.value = some t) : made = .ok t := by
  rcases made with fault | identifier
  · cases fault <;> simp only [Identifier.conclusion, reduceCtorEq, Except.ok.injEq] at h
    subst h
    cases ht
  · simp only [Identifier.conclusion, Except.ok.injEq] at h
    subst h
    rw [Option.some.inj ht]

namespace Clock

/-- What a clock will show. -/
def upcoming (c : Clock) : Int := c.reading c.position

/-- A clock once it has been read. -/
def advanced (c : Clock) : Clock :=
  { c with position := c.position + 1, calls := c.calls + 1 }

end Clock

/-- A platform once it has served random bytes. -/
def Platform.served (p : Platform) (n : Nat) : Platform :=
  (Platform.randomBytes n p).state

namespace World

/-- A request gathers a draft and concludes with what the hash primitive makes
of it. -/
theorem generateAccepted_eq (g : Nat) (length : Length) :
    generateAccepted g length =
      gather g length >>= fun draft =>
        Act.state >>= fun w => conclude (draft.make w.primitive length) := rfl

theorem tryGenerate_of_ok {length : Value} {n : Length} (g : Nat)
    (h : Length.ofValue length = .ok n) :
    tryGenerate g length = generateAccepted g n := by
  simp only [tryGenerate, h]

theorem tryGenerate_of_error {length : Value} {rejection : Length.Rejection} (g : Nat)
    (h : Length.ofValue length = .error rejection) :
    tryGenerate g length = reject length rejection := by
  simp only [tryGenerate, h]

/-! ## The parts of a request -/

theorem answer_conclude (made : Except Fault Text) (w : World) :
    (conclude made w).answer = Identifier.conclusion made := by
  rcases made with fault | identifier
  · cases fault <;> rfl
  · rfl

/-- A rejection is an outcome, unless the length has integers too long to be
written. -/
theorem answer_reject (length : Value) (rejection : Length.Rejection) (w : World) :
    (reject length rejection w).answer =
      rejection.message.bind fun message =>
        length.literal.map fun _ => Outcome.failure .invalidArgument message := by
  unfold reject
  rw [Act.bind_apply, Act.ofExcept_apply]
  cases rejection.message with
  | error fault => rfl
  | ok message =>
      rw [Act.andThen_ok, Act.bind_apply, Act.ofExcept_apply]
      cases length.literal with
      | error fault => rfl
      | ok shown => rfl

/-- No rejected request gives an identifier. -/
theorem value_of_reject {length : Value} {rejection : Length.Rejection} {w : World}
    {outcome : Outcome} (h : (reject length rejection w).answer = .ok outcome) :
    outcome.value = none := by
  rw [answer_reject] at h
  cases hmessage : rejection.message with
  | error fault =>
      rw [hmessage] at h
      cases h
  | ok message =>
      cases hshown : length.literal with
      | error fault =>
          rw [hmessage, hshown] at h
          cases h
      | ok shown =>
          rw [hmessage, hshown] at h
          cases h
          rfl

/-- The world once a generator has read its clock. -/
def clockRead (w : World) (g : Nat) : World := setClock g (w.clock g).advanced w

/-- The world once a generator has read its clock and taken a counter value. -/
def counted (w : World) (g : Nat) : World :=
  ((w.clockRead g).seeded (w.generator g).state).leaveCount (w.generator g).state
    (counterAfter ((w.clockRead g).upcomingCount (w.generator g).state))

/-- The world once a platform has served random bytes. -/
def served (w : World) (i n : Nat) : World := w.setPlatform i ((w.platform i).served n)

@[simp] theorem generator_served (w : World) (i n j : Nat) :
    (w.served i n).generator j = w.generator j := rfl

theorem readClock_apply (g : Nat) (w : World) :
    readClock g w = ⟨.ok (w.clock g).upcoming, w.clockRead g, []⟩ := rfl

theorem randomBytes_apply (i n : Nat) (w : World) :
    onPlatform i (Platform.randomBytes n) w =
      ⟨.ok ((w.platform i).upcoming n), w.served i n, []⟩ :=
  rfl

@[simp] theorem platform_clockRead (w : World) (g i : Nat) :
    (w.clockRead g).platform i = w.platform i := by
  simp [clockRead, platform]

@[simp] theorem state_clockRead (w : World) (g s : Nat) :
    (w.clockRead g).state s = w.state s := by
  simp [clockRead, state]

@[simp] theorem places_clockRead (w : World) (g j : Nat) :
    ((w.clockRead g).generator j).platform = (w.generator j).platform ∧
      ((w.clockRead g).generator j).state = (w.generator j).state :=
  places_setClock w g j _

@[simp] theorem generator_counted (w : World) (g j : Nat) :
    (w.counted g).generator j = (w.clockRead g).generator j :=
  generator_counting _ _ _ _

/-- Getting at a fingerprint leaves the generators as they are. -/
theorem generator_fingerprint (s j : Nat) (w : World) :
    (fingerprint s w).state.generator j = w.generator j := by
  have hkeeps : (fingerprint s).Keeps fun w => w.generator j :=
    keeps_fingerprint (fun _ _ _ => rfl) (fun _ _ => rfl) (fun _ _ => rfl)
  exact hkeeps w

theorem nextCount_clockRead (g : Nat) (w : World) :
    nextCount (w.generator g).state (w.clockRead g) =
      ⟨.ok ((w.clockRead g).upcomingCount (w.generator g).state), w.counted g,
        (w.clockRead g).seedEntries (w.generator g).state⟩ :=
  nextCount_apply _ _

/-- Gathering comes to its end if the fingerprint is there, and everything is
then as it was found. -/
theorem gather_of_ok {g : Nat} {w v : World} {f : Bytes} {entries : List Entry}
    (length : Length)
    (hprint : fingerprint (w.generator g).state (w.counted g) = ⟨.ok f, v, entries⟩) :
    gather g length w =
      ⟨.ok {
          timestamp := (w.clock g).upcoming
          counter := (w.clockRead g).upcomingCount (w.generator g).state
          fingerprint := f
          random := (v.platform (w.generator g).platform).upcoming length.val
          pick := Bytes.toNatBig (((v.served (w.generator g).platform length.val).platform
            (w.generator g).platform).upcoming 1) },
        (v.served (w.generator g).platform length.val).served (w.generator g).platform 1,
        (w.clockRead g).seedEntries (w.generator g).state ++ entries⟩ := by
  obtain ⟨hplatform, hstate⟩ := places_clockRead w g g
  simp only [gather, Act.bind_apply, readClock_apply, Act.andThen_ok, Act.state_apply,
    hstate, hplatform, nextCount_clockRead, hprint, randomBytes_apply, Act.pure_apply,
    List.nil_append, List.append_nil]

/-- If the fingerprint cannot be computed, gathering ends there. -/
theorem gather_of_error {g : Nat} {w v : World} {fault : Fault} {entries : List Entry}
    (length : Length)
    (hprint : fingerprint (w.generator g).state (w.counted g) =
      ⟨.error fault, v, entries⟩) :
    gather g length w =
      ⟨.error fault, v,
        (w.clockRead g).seedEntries (w.generator g).state ++ entries⟩ := by
  obtain ⟨hplatform, hstate⟩ := places_clockRead w g g
  simp only [gather, Act.bind_apply, readClock_apply, Act.andThen_ok, Act.state_apply,
    hstate, hplatform, nextCount_clockRead, hprint, Act.andThen_error, List.nil_append]

/-- Gathering keeps what the five actions that it consists of keep. -/
theorem keeps_gather {β : Type} {view : World → β} {g : Nat} (length : Length)
    (hclock : ∀ c w, view (setClock g c w) = view w)
    (hplatform : ∀ i p w, view (w.setPlatform i p) = view w)
    (hwatch : ∀ watch w, view { w with stopwatch := watch } = view w)
    (hstate : ∀ s c f w,
      view (w.setState s { w.state s with counter := c, fingerprint := f }) = view w) :
    (gather g length).Keeps view := by
  refine (keeps_readClock hclock).bind fun timestamp => Act.Keeps.state.bind fun v => ?_
  refine (keeps_nextCount hplatform fun c w => hstate _ c _ w).bind fun counter => ?_
  refine (keeps_fingerprint hplatform hwatch fun f w => hstate _ _ f w).bind
    fun fingerprint => ?_
  refine (keeps_onPlatform _ fun p w => hplatform _ p w).bind fun random => ?_
  refine (keeps_onPlatform _ fun p w => hplatform _ p w).bind fun first => ?_
  exact Act.Keeps.pure _

theorem primitive_gather (g : Nat) (length : Length) (w : World) :
    (gather g length w).state.primitive = w.primitive := by
  have hkeeps : (gather g length).Keeps World.primitive :=
    keeps_gather length (fun c w => primitive_setClock w g c) (fun _ _ _ => rfl)
      (fun _ _ => rfl) fun _ _ _ _ => rfl
  exact hkeeps w

/-- A request that has gathered its draft concludes with what the primitive
makes of it, and leaves the world as the gathering left it. -/
theorem generateAccepted_of_gather {g : Nat} {length : Length} {w v : World} {d : Draft}
    {entries : List Entry} (h : gather g length w = ⟨.ok d, v, entries⟩) :
    (generateAccepted g length w).answer =
        Identifier.conclusion (d.make w.primitive length) ∧
      (generateAccepted g length w).state = v := by
  have hprimitive := primitive_gather g length w
  rw [h] at hprimitive
  rw [generateAccepted_eq, Act.bind_apply, h, Act.andThen_ok, Act.bind_apply,
    Act.state_apply, Act.andThen_ok, ← hprimitive]
  exact ⟨answer_conclude _ _, state_conclude _ _⟩

/-- Hashing leaves the world as the gathering has left it, whatever comes of it. -/
theorem state_generateAccepted (g : Nat) (n : Length) (w : World) :
    (generateAccepted g n w).state = (gather g n w).state := by
  rcases hrun : gather g n w with ⟨fault | d, v, entries⟩
  · rw [generateAccepted_eq, Act.bind_apply, hrun]
    rfl
  · exact (generateAccepted_of_gather hrun).2

/-- A request for an acceptable length answers what is made of its draft. -/
theorem answer_generateAccepted (g : Nat) (length : Length) (w : World) :
    (generateAccepted g length w).answer =
      (gather g length w).answer >>= fun d =>
        Identifier.conclusion (d.make w.primitive length) := by
  rcases hrun : gather g length w with ⟨fault | d, v, entries⟩
  · rw [generateAccepted_eq, Act.bind_apply, hrun]
    rfl
  · exact (generateAccepted_of_gather hrun).1

/-- A fault of the whole answers a caller who wants faults, and so does what an
outcome unwraps to. -/
theorem answer_generate (g : Nat) (v : Value) (w : World) :
    (generate g v w).answer = (tryGenerate g v w).answer >>= Outcome.unwrap := by
  rw [generate, Act.bind_apply]
  rcases tryGenerate g v w with ⟨fault | outcome, v, entries⟩ <;> rfl

end World

end IdMint
