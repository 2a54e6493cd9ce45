import IdMint.Proofs.Alongside
import IdMint.Proofs.Drafting
import IdMint.Proofs.Identifiers

/-!
# What the hash primitive is asked

A request hands some bytes to its hash primitive, and nobody sees them but the
primitive.  They can be told from outside all the same, by trying one primitive after
another (`World.Hashes`): what the primitive answers to other bytes makes no difference,
and a fault with which it answers to these is passed on.  There is only one byte string
of which both can be said (`World.Hashes.unique`).

In the same way it can be told what a request makes of the digest
(`World.Mints`), also if the primitive that it has gives none: of the byte that picks
the letter, as much as the letter shows (`World.Mints.unique`).

Two worlds that are alike but for their primitives stay alike under all actions of a
generator up to the hashing (`World.matches_gather`).  So a request gathers the same
draft whatever the primitive is, and it is the input of that draft which is hashed
(`World.mints_of_gather`).
-/

namespace IdMint

/-! ## Requests -/

/-- A fault of a hash primitive that does not count as a failure to hash. -/
structure Fault.IsPassedOn (fault : Fault) : Prop where
  not_rejected : fault.isRejectedValue = false
  not_failure : fault.isIdentifierFailure = false

/-- The step is a request, of either kind, to a generator for a length. -/
inductive Step.Asks : Step → Nat → Value → Prop
  | tryGenerate (g : Nat) (length : Option Value) :
      Asks (.tryGenerate g length) g (requestedLength length)
  | generate (g : Nat) (length : Option Value) :
      Asks (.generate g length) g (requestedLength length)

theorem Step.Asks.unique {step : Step} {g g' : Nat} {v v' : Value} (h : step.Asks g v)
    (h' : step.Asks g' v') : g = g' ∧ v = v' := by
  cases h <;> cases h' <;> exact ⟨rfl, rfl⟩

/-- What a request answers, given its outcome. -/
def Step.report : Step → Outcome → Except Fault StepResult
  | generate _ _, outcome => outcome.unwrap.map .identifier
  | _, outcome => .ok (.outcome outcome)

/-- The identifier that a result gives. -/
def StepResult.identifier? : StepResult → Option Text
  | .outcome o => o.value
  | .identifier t => some t
  | _ => none

namespace World

/-- The world with another primitive. -/
def withPrimitive (w : World) (primitive : HashPrimitive) : World := { w with primitive }

/-- A step asks the primitive for the digest of some bytes, and for no other one. -/
structure Hashes (w : World) (step : Step) (hashed : Bytes) : Prop where
  only : ∀ primitive primitive' : HashPrimitive, primitive hashed = primitive' hashed →
    (perform step (w.withPrimitive primitive)).answer =
      (perform step (w.withPrimitive primitive')).answer
  fault : ∀ (primitive : HashPrimitive) (fault : Fault), fault.IsPassedOn →
    primitive hashed = .error fault →
    (perform step (w.withPrimitive primitive)).answer = .error fault

/-- A step asks for the digest of some bytes and makes an identifier of it: a letter,
picked by a byte, and as many digits of the digest as the length leaves room for. -/
structure Mints (w : World) (step : Step) (n : Length) (hashed : Bytes) (pick : UInt8) : Prop
    extends Hashes w step hashed where
  identifier : ∀ (primitive : HashPrimitive) (digest : Bytes), primitive hashed = .ok digest →
    digest.length = 64 → 36 ^ (n.val - 2) ≤ digest.toNatBig →
    ∃ result, (perform step (w.withPrimitive primitive)).answer = .ok result ∧
      result.identifier? = some (Fin.ofNat 0x110000 (0x61 + pick.toNat % 26) ::
        (Base36.encode digest).take (n.val - 1))

/-- No step asks for two digests. -/
theorem Hashes.unique {w : World} {step : Step} {hashed hashed' : Bytes}
    (h : w.Hashes step hashed) (h' : w.Hashes step hashed') : hashed = hashed' := by
  by_contra hne
  -- A primitive that tells the two apart would have to be heard out on both.
  let primitive : HashPrimitive := fun bytes =>
    if bytes = hashed then .error .tooDeep else .error (.outside .memory [])
  have hfirst := h.fault primitive .tooDeep ⟨rfl, rfl⟩ (if_pos rfl)
  have hsecond := h'.fault primitive (.outside .memory []) ⟨rfl, rfl⟩ (if_neg (Ne.symm hne))
  rw [hfirst] at hsecond
  cases hsecond

/-- A step that comes to its primitive does not answer the same fault whatever the
primitive is. -/
theorem Hashes.not_stopped {w : World} {step : Step} {hashed : Bytes} {fault : Fault}
    (h : w.Hashes step hashed) :
    ¬∀ primitive, (perform step (w.withPrimitive primitive)).answer = .error fault := by
  intro hstopped
  have hdeep := h.fault (fun _ => .error .tooDeep) .tooDeep ⟨rfl, rfl⟩ rfl
  have hmemory :=
    h.fault (fun _ => .error (.outside .memory [])) (.outside .memory []) ⟨rfl, rfl⟩ rfl
  rw [hstopped] at hdeep hmemory
  rw [hdeep] at hmemory
  cases hmemory

/-- No step makes an identifier of two digests, or puts two letters in front of it. -/
theorem Mints.unique {w : World} {step : Step} {n : Length} {hashed hashed' : Bytes}
    {pick pick' : UInt8} (h : w.Mints step n hashed pick) (h' : w.Mints step n hashed' pick') :
    hashed = hashed' ∧ pick % 26 = pick' % 26 := by
  obtain rfl : hashed = hashed' := h.toHashes.unique h'.toHashes
  refine ⟨rfl, ?_⟩
  -- The greatest digest suffices for every length, so that the letter shows.
  let digest : Bytes := List.replicate 64 255
  have hgreat : 36 ^ (n.val - 2) ≤ digest.toNatBig :=
    (Nat.pow_le_pow_right (by decide) (Nat.sub_le_sub_right n.val_le 2)).trans (by decide +kernel)
  obtain ⟨result, hresult, hidentifier⟩ := h.identifier (fun _ => .ok digest) digest rfl rfl hgreat
  obtain ⟨result', hresult', hidentifier'⟩ :=
    h'.identifier (fun _ => .ok digest) digest rfl rfl hgreat
  obtain rfl : result = result' := Except.ok.inj (hresult.symm.trans hresult')
  rw [hidentifier] at hidentifier'
  obtain ⟨hletter, -⟩ := List.cons.inj (Option.some.inj hidentifier')
  have hsmall : ∀ byte : UInt8, (0x61 + byte.toNat % 26) % 0x110000 = 0x61 + byte.toNat % 26 := by
    omega
  have hnumber : 0x61 + pick.toNat % 26 = 0x61 + pick'.toNat % 26 := by
    rw [← hsmall pick, ← hsmall pick']
    exact congrArg Fin.val hletter
  apply UInt8.toNat_inj.mp
  rw [UInt8.toNat_mod, UInt8.toNat_mod]
  exact Nat.add_left_cancel hnumber

end World

/-! ## Worlds with different primitives -/

namespace World

/-- Two worlds are alike in everything but their primitives. -/
structure Alike (w w' : World) : Prop where
  platforms : w.platforms = w'.platforms
  states : w.states = w'.states
  generators : w.generators = w'.generators
  wallClock : w.wallClock = w'.wallClock
  stopwatch : w.stopwatch = w'.stopwatch

namespace Alike

variable {w w' : World}

theorem platform (h : Alike w w') (i : Nat) : w.platform i = w'.platform i := by
  rw [World.platform, World.platform, h.platforms]

theorem state (h : Alike w w') (s : Nat) : w.state s = w'.state s := by
  rw [World.state, World.state, h.states]

theorem generator (h : Alike w w') (g : Nat) : w.generator g = w'.generator g := by
  rw [World.generator, World.generator, h.generators]

theorem clock (h : Alike w w') (g : Nat) : w.clock g = w'.clock g := by
  rw [World.clock, World.clock, h.generator, h.wallClock]

theorem setPlatform (h : Alike w w') (i : Nat) (p : Platform) :
    Alike (w.setPlatform i p) (w'.setPlatform i p) :=
  { h with platforms := congrArg (·.set i p) h.platforms }

theorem setState (h : Alike w w') (s : Nat) (x : GeneratorState) :
    Alike (w.setState s x) (w'.setState s x) :=
  { h with states := congrArg (·.set s x) h.states }

theorem setClock (h : Alike w w') (g : Nat) (c : Clock) :
    Alike (World.setClock g c w) (World.setClock g c w') := by
  by_cases hown : (w.generator g).clock.isSome = true
  · have hown' : (w'.generator g).clock.isSome = true := by rwa [← h.generator]
    rw [setClock_of_own c hown, setClock_of_own c hown', h.generator]
    have hgenerators : w.generators.set g { w'.generator g with clock := some c } =
        w'.generators.set g { w'.generator g with clock := some c } := by rw [h.generators]
    exact { h with generators := hgenerators }
  · have hown' : ¬(w'.generator g).clock.isSome = true := by rwa [← h.generator]
    rw [setClock_of_wall c hown, setClock_of_wall c hown']
    exact { h with wallClock := rfl }

end Alike

/-! ## The actions of a request -/

variable {α : Type}

theorem matches_readClock (g : Nat) : Act.Matches Alike (readClock g) (readClock g) :=
  Act.Matches.within Clock.read (fun _ _ h => h.clock g) fun c _ _ h => h.setClock g c

theorem matches_onPlatform (i : Nat) (act : Act Platform α) :
    Act.Matches Alike (onPlatform i act) (onPlatform i act) :=
  Act.Matches.within act (fun _ _ h => h.platform i) fun p _ _ h => h.setPlatform i p

theorem matches_readStopwatch : Act.Matches Alike readStopwatch readStopwatch :=
  Act.Matches.within Stopwatch.read (fun _ _ h => h.stopwatch)
    fun _ _ _ h => { h with stopwatch := rfl }

theorem matches_nextCount (s : Nat) : Act.Matches Alike (nextCount s) (nextCount s) := by
  refine Act.Matches.state_bind fun w w' h => ?_
  rw [h.state s]
  refine (matches_onPlatform _ _).bind fun current => ?_
  refine (Act.Matches.change fun v v' hv => ?_).bind fun _ => Act.Matches.pure current
  rw [hv.state s]
  exact hv.setState s _

theorem matches_setUpFingerprint (s : Nat) :
    Act.Matches Alike (setUpFingerprint s) (setUpFingerprint s) := by
  refine Act.Matches.state_bind fun w w' h => ?_
  rw [h.state s]
  refine (Act.Matches.timed _ _ matches_readStopwatch (matches_onPlatform _ _)).bind
    fun computed => (Act.Matches.note _ _ _).bind fun _ => ?_
  refine (Act.Matches.change fun v v' hv => ?_).bind fun _ => Act.Matches.pure computed
  rw [hv.state s]
  exact hv.setState s _

theorem matches_fingerprint (s : Nat) : Act.Matches Alike (fingerprint s) (fingerprint s) := by
  refine Act.Matches.state_bind fun w w' h => ?_
  rw [h.state s]
  cases (w'.state s).fingerprint with
  | some bytes => exact Act.Matches.pure bytes
  | none => exact matches_setUpFingerprint s

/-- What is gathered for an identifier, and what that leaves behind, is the same
whatever the primitive is. -/
theorem matches_gather (g : Nat) (n : Length) : Act.Matches Alike (gather g n) (gather g n) := by
  refine (matches_readClock g).bind fun timestamp => ?_
  refine Act.Matches.state_bind fun w w' h => ?_
  dsimp only
  rw [h.generator g]
  refine (matches_nextCount _).bind fun counter => (matches_fingerprint _).bind fun f => ?_
  refine (matches_onPlatform _ _).bind fun random => ?_
  exact (matches_onPlatform _ _).bind fun first => Act.Matches.pure _

end World

/-! ## What is made of a draft -/

namespace Identifier

/-- The bytes to hash are all that a primitive is asked about. -/
theorem make_congr {primitive primitive' : HashPrimitive} {bytes : Bytes} (letter : Text)
    (length : Length) (h : primitive bytes = primitive' bytes) :
    make primitive letter bytes length = make primitive' letter bytes length := by
  rw [make, make, digest, digest, h]

theorem conclusion_make_of_passedOn {primitive : HashPrimitive} {bytes : Bytes} {fault : Fault}
    (letter : Text) (length : Length) (hfault : fault.IsPassedOn)
    (h : primitive bytes = .error fault) :
    conclusion (make primitive letter bytes length) = .error fault := by
  rw [make_of_fault letter length h, if_neg (by simp [hfault.not_rejected])]
  cases fault with
  | cryptoFailure message => exact absurd hfault.not_failure (by simp [Fault.isIdentifierFailure])
  | _ => rfl

theorem letter_natCast (n : Nat) : letter n = [Fin.ofNat 0x110000 (0x61 + n % 26)] := by
  rw [letter, Int.toNat_emod (Int.natCast_nonneg n) (by decide)]
  rfl

end Identifier

namespace World

variable {w : World} {step : Step} {g : Nat} {v : Value} {n : Length} {d : Draft}

theorem alike_withPrimitive (w : World) (primitive : HashPrimitive) :
    Alike w (w.withPrimitive primitive) :=
  ⟨rfl, rfl, rfl, rfl, rfl⟩

/-- A request answers its outcome, in the form that is asked for. -/
theorem answer_perform_of_asks (h : step.Asks g v) (w : World) :
    (perform step w).answer = (tryGenerate g v w).answer >>= step.report := by
  cases h with
  | tryGenerate g length =>
      rw [perform, Act.map_apply]
      cases (World.tryGenerate g (requestedLength length) w).answer <;> rfl
  | generate g length =>
      rw [perform, Act.map_apply]
      dsimp only
      rw [answer_generate]
      cases (World.tryGenerate g (requestedLength length) w).answer <;> rfl

/-- Whatever the primitive is, a request makes an identifier of the same draft. -/
theorem answer_perform_of_gather (hstep : step.Asks g v) (hn : Length.ofValue v = .ok n)
    (hd : (gather g n w).answer = .ok d) (primitive : HashPrimitive) :
    (perform step (w.withPrimitive primitive)).answer =
      Identifier.conclusion (d.make primitive n) >>= step.report := by
  have hsame := (matches_gather g n w _ (alike_withPrimitive w primitive)).answer
  rw [answer_perform_of_asks hstep, tryGenerate_of_ok g hn, answer_generateAccepted, ← hsame, hd]
  rfl

/-- A request that cannot gather its draft does not come to the primitive. -/
theorem answer_perform_of_gather_fault {fault : Fault} (hstep : step.Asks g v)
    (hn : Length.ofValue v = .ok n) (hfault : (gather g n w).answer = .error fault)
    (primitive : HashPrimitive) :
    (perform step (w.withPrimitive primitive)).answer = .error fault := by
  have hsame := (matches_gather g n w _ (alike_withPrimitive w primitive)).answer
  rw [answer_perform_of_asks hstep, tryGenerate_of_ok g hn, answer_generateAccepted, ← hsame,
    hfault]
  rfl

/-- The random bytes of a draft are as many as the length says, and the letter is picked
by a single byte. -/
theorem exists_pick_of_gather (hd : (gather g n w).answer = .ok d) :
    d.random.length = n.val ∧ ∃ pick : UInt8, d.pick = pick.toNat := by
  rcases hrun : fingerprint (w.generator g).state (w.counted g) with ⟨fault | f, v, entries⟩
  · rw [gather_of_error n hrun] at hd
    cases hd
  · rw [gather_of_ok n hrun] at hd
    obtain rfl := Except.ok.inj hd
    exact ⟨by simp [Platform.upcoming], _, by simp [Platform.upcoming, Bytes.toNatBig]; rfl⟩

/-- What is hashed is the input of the draft. -/
theorem hashes_of_gather (hstep : step.Asks g v) (hn : Length.ofValue v = .ok n)
    (hd : (gather g n w).answer = .ok d) : w.Hashes step d.input where
  only primitive primitive' heq := by
    rw [answer_perform_of_gather hstep hn hd, answer_perform_of_gather hstep hn hd, Draft.make,
      Draft.make, Identifier.make_congr d.letter n heq]
  fault primitive fault hpassed hfault := by
    rw [answer_perform_of_gather hstep hn hd, Draft.make,
      Identifier.conclusion_make_of_passedOn d.letter n hpassed hfault]
    rfl

/-- What is made of the digest starts with the letter of the draft. -/
theorem mints_of_gather {pick : UInt8} (hstep : step.Asks g v) (hn : Length.ofValue v = .ok n)
    (hd : (gather g n w).answer = .ok d) (hpick : d.pick = pick.toNat) :
    w.Mints step n d.input pick where
  toHashes := hashes_of_gather hstep hn hd
  identifier primitive digest hdigest hsize hgreat := by
    have hmade := (Identifier.make_of_digest d.letter n hdigest).1 ⟨hsize, hgreat⟩
    have hletter : d.letter = [Fin.ofNat 0x110000 (0x61 + pick.toNat % 26)] := by
      rw [Draft.letter, hpick, Identifier.letter_natCast]
    rw [answer_perform_of_gather hstep hn hd, Draft.make, hmade, Identifier.fromDigest, hletter]
    cases hstep with
    | tryGenerate g length => exact ⟨_, rfl, rfl⟩
    | generate g length => exact ⟨_, rfl, rfl⟩

end World

end IdMint
