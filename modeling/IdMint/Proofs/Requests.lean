import IdMint.Program
import IdMint.Proofs.Hexadecimal
import IdMint.Proofs.Journals
import IdMint.Proofs.Lines
import IdMint.Proofs.SetUpOnce

/-!
# Requests to the service

The generator that a program shares is asked for one identifier after another, until
there are enough of them or one cannot be made.  `Service.askFor` is a recursion over
single requests that says so, and `Program.mint` comes to it (`Service.times_generate`).

Whatever a request notes down can be written, provided that fingerprints fit into
memory: their size is the only integer in the journal (`Service.plain_generate`).
-/

namespace IdMint

/-! ## Fingerprints that fit into memory -/

theorem Platform.SameHost.trans {p q r : Platform} (h : p.SameHost q) (h' : q.SameHost r) :
    p.SameHost r :=
  ⟨h.hostName.trans h'.hostName, h.processId.trans h'.processId,
    h.environment.trans h'.environment⟩

/-- No fingerprint of the host is as long as a byte string can be at most on a machine
of 64 bits, or longer. -/
def Platform.FitsMemory (p : Platform) : Prop :=
  ∀ q : Platform, q.SameHost p → ∀ f, (Fingerprint.compute q).answer = .ok f →
    f.length < 2 ^ 63

theorem Platform.FitsMemory.of_sameHost {p q : Platform} (h : p.FitsMemory) (hq : q.SameHost p) :
    q.FitsMemory :=
  fun r hr => h r (hr.trans hq)

theorem Utf8.length_octets_le (c : CodePoint) : (octets c).length ≤ 4 := by
  have hlength : (encodeCodePoint c).length ≤ 4 := by
    simp only [encodeCodePoint]
    split_ifs <;> simp
  rw [octets]
  split
  · simp
  · exact hlength

theorem Environment.length_encode_le {t : Text} {bytes : Bytes} (h : encode t = .ok bytes) :
    bytes.length ≤ 4 * t.length := by
  rw [encode_of_encodable (exists_encode_iff.mp ⟨bytes, h⟩)] at h
  obtain rfl := Except.ok.inj h
  clear h
  induction t with
  | nil => simp
  | cons c rest ih =>
      have hc := Utf8.length_octets_le c
      simp only [List.flatMap_cons, List.length_append, List.length_cons]
      omega

/-- It is enough that the host name and the environment are not too long. -/
theorem Platform.fitsMemory_of_le {p : Platform}
    (hname : ∀ name, p.hostName = .ok name → name.length ≤ 2 ^ 32)
    (hsettings : ∀ settings, Environment.serialize p.environment = .ok settings →
      settings.length ≤ 2 ^ 32) : p.FitsMemory := by
  intro q hq f hf
  rw [Fingerprint.answer_compute] at hf
  obtain ⟨name, hhost, hf⟩ := Except.bind_eq_ok_iff.mp hf
  rw [Fingerprint.assemble] at hf
  obtain ⟨host, hencode, hf⟩ := Except.bind_eq_ok_iff.mp hf
  obtain ⟨settings, hserialize, hf⟩ := Except.bind_eq_ok_iff.mp hf
  obtain rfl := Except.ok.inj hf
  rw [hq.environment] at hserialize
  have hlong := Environment.length_encode_le hencode
  have hrest := hsettings settings hserialize
  have hshort : name.length ≤ 2 ^ 32 := by
    have hrandom : (q.upcoming Fingerprint.substituteBytes).hex.length ≤ 2 ^ 32 := by
      rw [Bytes.length_hex, Platform.length_upcoming]
      decide
    rw [Fingerprint.hostText, hq.hostName] at hhost
    cases hown : p.hostName with
    | error fault =>
        rw [hown] at hhost
        dsimp only at hhost
        split at hhost
        · obtain rfl := Except.ok.inj hhost
          exact hrandom
        · cases hhost
    | ok given =>
        rw [hown] at hhost
        dsimp only at hhost
        split at hhost
        · obtain rfl := Except.ok.inj hhost
          exact hrandom
        · obtain rfl := Except.ok.inj hhost
          exact hname given hown
  simp only [List.length_append, Bytes.length_pack32]
  omega

namespace World

/-- The platforms of the world fit into memory. -/
def FitsMemory (w : World) : Prop := ∀ i, (w.platform i).FitsMemory

variable {w w' : World}

theorem FitsMemory.of_sameHost (h : w.FitsMemory)
    (hw : ∀ i, (w'.platform i).SameHost (w.platform i)) : w'.FitsMemory :=
  fun i => (h i).of_sameHost (hw i)

/-! ## What a request leaves of the hosts -/

/-- An action on a platform that leaves its host alone leaves all hosts alone. -/
theorem sameHost_onPlatform {α : Type} {act : Act Platform α}
    (hact : act.Keeps fun p => (p.hostName, p.processId, p.environment)) (w : World) (i j : Nat) :
    ((onPlatform i act w).state.platform j).SameHost (w.platform j) := by
  have hkept := keeps_platform _ hact i j w
  simp only [Prod.mk.injEq] at hkept
  exact ⟨hkept.1, hkept.2.1, hkept.2.2⟩

theorem sameHost_fingerprint (s i : Nat) (w : World) :
    ((fingerprint s w).state.platform i).SameHost (w.platform i) := by
  have hasked := sameHost_onPlatform
    (Fingerprint.keeps_compute (fun _ => rfl) (fun _ _ => rfl) fun _ => rfl)
    w.watched (w.state s).platform i
  cases hprint : (w.state s).fingerprint with
  | some f =>
      rw [fingerprint_of_some hprint]
      exact .refl _
  | none =>
      rw [platform, platforms_fingerprint_of_none hprint]
      exact hasked

theorem sameHost_served (w : World) (j n i : Nat) :
    ((w.served j n).platform i).SameHost (w.platform i) := by
  have hkeeps : (Platform.randomBytes n).Keeps fun p => (p.hostName, p.processId, p.environment) :=
    fun _ => rfl
  exact sameHost_onPlatform hkeeps w j i

theorem sameHost_gather (g : Nat) (n : Length) (i : Nat) (w : World) :
    ((gather g n w).state.platform i).SameHost (w.platform i) := by
  have hprint := sameHost_fingerprint (w.generator g).state i (w.counted g)
  rcases hrun : fingerprint (w.generator g).state (w.counted g) with ⟨fault | f, v, entries⟩
  · rw [hrun] at hprint
    rw [gather_of_error n hrun]
    exact hprint.trans (sameHost_counted w g i)
  · rw [hrun] at hprint
    rw [gather_of_ok n hrun]
    exact ((sameHost_served _ _ _ i).trans (sameHost_served v _ _ i)).trans
      (hprint.trans (sameHost_counted w g i))

/-- No request changes a host. -/
theorem sameHost_generate (g : Nat) (length : Value) (i : Nat) (w : World) :
    ((generate g length w).state.platform i).SameHost (w.platform i) := by
  rw [state_generate]
  cases hlength : Length.ofValue length with
  | error rejection =>
      rw [tryGenerate_of_error g hlength, state_reject]
      exact .refl _
  | ok n =>
      rw [tryGenerate_of_ok g hlength, state_generateAccepted]
      exact sameHost_gather g n i w

/-! ## Journals of requests are plain -/

theorem plain_seedEntries (w : World) (s : Nat) :
    ∀ entry ∈ w.seedEntries s, entry.IsPlain := by
  intro entry hentry
  rw [seedEntries] at hentry
  cases hstored : (w.state s).counter.stored with
  | some n => simp [hstored] at hentry
  | none =>
      rw [hstored] at hentry
      rw [List.mem_singleton.mp hentry]
      exact Entry.isPlain_event _ _

theorem plain_lackEntries (p : Platform) : ∀ entry ∈ p.lackEntries, entry.IsPlain := by
  intro entry hentry
  rw [Platform.lackEntries] at hentry
  cases hlack : p.lack? with
  | none => simp [hlack] at hentry
  | some reason =>
      rw [hlack] at hentry
      rw [List.mem_singleton.mp hentry]
      exact (Entry.isPlain_event _ _).field (by decide) trivial

theorem plain_timing {α : Type} (operation : Text) (patience before after : Float)
    (answer : Except Fault α) :
    (Stopwatch.entry operation patience before after answer).IsPlain := by
  have htext : ∀ t, (Value.text t).IsPlain := fun _ => trivial
  have hfloat : ∀ x, (Value.float x).IsPlain := fun _ => trivial
  cases answer with
  | error fault =>
      have hmessage := (Entry.isPlain_event .error (operation ++ (" failed" : Text))).field
        (by decide : ("error" : Text) ∉ Entry.reservedNames) (htext fault.message)
      exact (hmessage.field (by decide) (hfloat _)).field (by decide) (htext operation)
  | ok a =>
      exact ((Entry.isPlain_event _ _).field (by decide) (hfloat _)).field (by decide)
        (htext operation)

/-- A size that fits into memory can be written. -/
theorem plain_readyEntries {p : Platform} (h : p.FitsMemory) :
    ∀ entry ∈ readyEntries (Fingerprint.compute p).answer, entry.IsPlain := by
  intro entry hentry
  cases hanswer : (Fingerprint.compute p).answer with
  | error fault => simp [hanswer, readyEntries] at hentry
  | ok f =>
      rw [hanswer, readyEntries] at hentry
      rw [List.mem_singleton.mp hentry]
      have hsize : f.length < 2 ^ 63 := h p (.refl p) f hanswer
      have hpow : (f.length : Int).natAbs < 10 ^ 20 := by omega
      have hwritable := Decimal.isWritable_of_natAbs_lt hpow (by decide)
      exact (Entry.isPlain_event _ _).field (by decide) hwritable

theorem plain_fingerprintEntries (h : w.FitsMemory) (s : Nat) :
    ∀ entry ∈ w.fingerprintEntries s, entry.IsPlain := by
  intro entry hentry
  rw [fingerprintEntries] at hentry
  cases hprint : (w.state s).fingerprint with
  | some f => simp [hprint] at hentry
  | none =>
      rw [hprint] at hentry
      simp only [setUpEntries, List.mem_append, List.mem_singleton] at hentry
      rcases hentry with (hlack | rfl) | hready
      · exact plain_lackEntries _ entry hlack
      · exact plain_timing _ _ _ _ _
      · exact plain_readyEntries (h _) entry hready

theorem plain_conclusionEntries (made : Except Fault Text) :
    ∀ entry ∈ conclusionEntries made, entry.IsPlain := by
  intro entry hentry
  rcases made with fault | identifier
  · cases fault with
    | cryptoFailure message =>
        rw [List.mem_singleton.mp hentry]
        exact (Entry.isPlain_event _ _).field (by decide) trivial
    | _ => cases hentry
  · cases hentry

theorem plain_rejectionEntries (length : Value) (rejection : Length.Rejection) :
    ∀ entry ∈ rejectionEntries length rejection, entry.IsPlain := by
  intro entry hentry
  rw [rejectionEntries] at hentry
  split at hentry
  · rw [List.mem_singleton.mp hentry]
    exact (Entry.isPlain_event _ _).field (by decide) trivial
  · cases hentry

/-- Whatever a request notes down can be written. -/
theorem plain_requestEntries (h : w.FitsMemory) (g : Nat) (length : Value) :
    ∀ entry ∈ w.requestEntries g length, entry.IsPlain := by
  intro entry hentry
  rw [requestEntries] at hentry
  cases hlength : Length.ofValue length with
  | error rejection =>
      rw [hlength] at hentry
      exact plain_rejectionEntries length rejection entry hentry
  | ok n =>
      rw [hlength] at hentry
      simp only [gatherEntries, List.mem_append] at hentry
      rcases hentry with (hseed | hprint) | hconclusion
      · exact plain_seedEntries _ _ entry hseed
      · exact plain_fingerprintEntries (h.of_sameHost (sameHost_counted w g)) _ entry hprint
      · cases hdraft : (gather g n w).answer with
        | error fault => simp [hdraft] at hconclusion
        | ok d =>
            rw [hdraft] at hconclusion
            exact plain_conclusionEntries _ entry hconclusion

end World

/-! ## One request after another -/

namespace Service

variable {length : Value}

/-- The service with its shared generator, and the place of that. -/
def ready (s : Service) : Nat × Service :=
  match s.shared with
  | some g => (g, s)
  | none =>
    let g := s.world.generators.length
    let w := { s.world with
      states := s.world.states ++ [{ platform := 0 }]
      generators := s.world.generators ++
        [{ platform := 0, state := s.world.states.length, clock := none }] }
    (g, { world := w, shared := some g })

theorem sharedGenerator_apply (s : Service) :
    sharedGenerator s = ⟨.ok s.ready.1, s.ready.2, []⟩ := by
  rw [sharedGenerator, ready, Act.bind_apply, Act.state_apply, Act.andThen_ok]
  cases s.shared with
  | some g => rfl
  | none => rfl

@[simp] theorem platforms_ready (s : Service) :
    s.ready.2.world.platforms = s.world.platforms := by
  rw [ready]
  cases s.shared with
  | some g => rfl
  | none => rfl

/-- The shared generator, once it is there, stays the one that is asked. -/
theorem ready_after (s : Service) (w : World) :
    ({ s.ready.2 with world := w } : Service).ready =
      (s.ready.1, { s.ready.2 with world := w }) := by
  obtain ⟨world, shared⟩ := s
  cases shared with
  | some g => rfl
  | none => rfl

/-- What is asked of the service is asked of its shared generator. -/
theorem ask_apply {α : Type} (act : Nat → Act World α) (s : Service) :
    (sharedGenerator >>= fun g => onWorld (act g)) s =
      ⟨(act s.ready.1 s.ready.2.world).answer,
        { s.ready.2 with world := (act s.ready.1 s.ready.2.world).state },
        (act s.ready.1 s.ready.2.world).entries⟩ := by
  rw [Act.bind_apply, sharedGenerator_apply, Act.andThen_ok]
  rfl

/-- A request to the service is one to its shared generator. -/
theorem generate_apply (length : Value) (s : Service) :
    generate length s =
      ⟨(World.generate s.ready.1 length s.ready.2.world).answer,
        { s.ready.2 with world := (World.generate s.ready.1 length s.ready.2.world).state },
        (World.generate s.ready.1 length s.ready.2.world).entries⟩ :=
  ask_apply (fun g => World.generate g length) s

/-- The platforms of the service fit into memory. -/
def FitsMemory (s : Service) : Prop := s.world.FitsMemory

variable {s : Service}

theorem FitsMemory.ready (h : s.FitsMemory) : s.ready.2.world.FitsMemory := by
  refine World.FitsMemory.of_sameHost h fun i => ?_
  rw [World.platform, platforms_ready]
  exact .refl _

theorem FitsMemory.generate (h : s.FitsMemory) (length : Value) :
    (Service.generate length s).state.FitsMemory := by
  rw [generate_apply]
  exact World.FitsMemory.of_sameHost h.ready fun i => World.sameHost_generate _ _ i _

/-- Whatever a request to the service notes down can be written. -/
theorem plain_generate (h : s.FitsMemory) (length : Value) :
    ∀ entry ∈ (generate length s).entries, entry.IsPlain := by
  intro entry hentry
  rw [generate_apply] at hentry
  dsimp only at hentry
  rw [World.entries_generate] at hentry
  exact World.plain_requestEntries h.ready _ _ entry hentry

/-- What comes of requests that are made one after another: the identifiers, the fault
that has ended them, if one has, and the service that is left. -/
structure Served where
  identifiers : List Text
  fault? : Option Fault
  after : Service

/-- Requests made one after another, `count` of them, or up to the first that fails. -/
def askFor (length : Value) : Nat → Service → Served
  | 0, s => ⟨[], none, s⟩
  | count + 1, s =>
    match generate length s with
    | ⟨.error fault, after, _⟩ => ⟨[], some fault, after⟩
    | ⟨.ok identifier, after, _⟩ =>
      let rest := askFor length count after
      { rest with identifiers := identifier :: rest.identifiers }

/-- No number of requests changes what fits into memory. -/
theorem FitsMemory.askFor {s : Service} (h : s.FitsMemory) (length : Value) (count : Nat) :
    (Service.askFor length count s).after.FitsMemory := by
  induction count generalizing s with
  | zero => exact h
  | succ count ih =>
      have hafter := h.generate length
      rw [Service.askFor]
      rcases hrun : Service.generate length s with ⟨fault | identifier, after, entries⟩
      · rw [hrun] at hafter
        exact hafter
      · rw [hrun] at hafter
        exact ih hafter

/-- Either all requests are made and give an identifier each, or one of them has failed. -/
theorem length_identifiers {count : Nat} (h : (askFor length count s).fault? = none) :
    (askFor length count s).identifiers.length = count := by
  induction count generalizing s with
  | zero => rfl
  | succ count ih =>
      rw [askFor] at h ⊢
      rcases hrun : generate length s with ⟨fault | identifier, after, entries⟩
      · rw [hrun] at h
        cases h
      · rw [hrun] at h
        exact congrArg (· + 1) (ih h)

/-- What is told of requests as a whole: all identifiers, or the fault. -/
def Served.answer (served : Served) : Except Fault (List Text) :=
  match served.fault? with
  | none => .ok served.identifiers
  | some fault => .error fault

theorem Served.answer_eq_ok_iff {served : Served} {identifiers : List Text} :
    served.answer = .ok identifiers ↔ served.fault? = none ∧ served.identifiers = identifiers := by
  rw [answer]
  cases served.fault? with
  | none => simp
  | some fault => simp

theorem Served.answer_eq_error_iff {served : Served} {fault : Fault} :
    served.answer = .error fault ↔ served.fault? = some fault := by
  rw [answer]
  cases served.fault? with
  | none => simp
  | some reason => simp

theorem Served.answer_cons (identifier : Text) (served : Served) :
    Served.answer { served with identifiers := identifier :: served.identifiers } =
      served.answer.map (identifier :: ·) := by
  rw [answer, answer]
  cases served.fault? with
  | none => rfl
  | some fault => rfl

/-- Making identifiers together is making them one after another, and what is noted down
meanwhile can be written. -/
theorem times_generate (length : Value) (count : Nat) (s : Service) :
    (Act.times count (generate length) s).answer = (askFor length count s).answer ∧
      (Act.times count (generate length) s).state = (askFor length count s).after ∧
      (s.FitsMemory → ∀ entry ∈ (Act.times count (generate length) s).entries,
        entry.IsPlain) := by
  induction count generalizing s with
  | zero => exact ⟨rfl, rfl, fun _ entry hentry => absurd hentry List.not_mem_nil⟩
  | succ count ih =>
      have hplain := fun h : s.FitsMemory => plain_generate h length
      have hfits := fun h : s.FitsMemory => h.generate length
      rw [Act.times, Act.bind_apply, askFor]
      rcases hrun : generate length s with ⟨fault | identifier, after, entries⟩
      · rw [hrun] at hplain
        exact ⟨rfl, rfl, hplain⟩
      · rw [hrun] at hplain hfits
        obtain ⟨hanswer, hstate, hentries⟩ := ih after
        have hall : s.FitsMemory → ∀ entry ∈
            entries ++ (Act.times count (generate length) after).entries, entry.IsPlain :=
          fun h => List.forall_mem_append.mpr ⟨hplain h, hentries (hfits h)⟩
        rw [Act.andThen_ok, Act.bind_apply]
        dsimp only
        rw [Served.answer_cons, ← hanswer, ← hstate]
        rcases hrest : Act.times count (generate length) after with
          ⟨fault | identifiers, last, more⟩
        · rw [hrest] at hall
          exact ⟨rfl, rfl, hall⟩
        · rw [hrest] at hall
          rw [Act.andThen_ok, Act.pure_apply, List.append_nil]
          exact ⟨rfl, rfl, hall⟩

end Service

end IdMint
