import IdMint.Proofs.Hexadecimal
import IdMint.Proofs.Journals
import IdMint.Proofs.SetUpOnce

/-!
# Where the random bytes go

Random bytes are put to three uses: a host name is made up of eight of them where the
platform has none, as many as the length asks for are hashed for an identifier, and
one more picks its letter.  Generators that share a platform, and states that are created
over it, take turns at its stream.

What has been used is read off what came of it and not off the platform: off the host
name that was made up, and off the bytes that a request hands to its hash primitive and
the letter that it puts in front (`World.UsedBy`), which leaves nothing open but what no
letter shows of the byte that picked it (`World.UsedBy.unique`).  `Platform.Spends` compares it with
what the platform has served in the meantime, an action and a step at a time; for a whole
session, all that has been used, in the order of use, is the part of the stream that has
been served (`World.spends_session`).
-/

namespace IdMint

/-! ## Uses -/

/-- What random bytes are used for. -/
inductive Use
  /-- A host name is made up. -/
  | hostName (name : Text)
  /-- Some bytes are hashed for an identifier of a length, and a letter is picked for it. -/
  | identifier (length : Length) (hashed : Bytes) (pick : UInt8)

namespace Use

/-- The random bytes that can be seen to have gone into a use: those that a name spells,
or those at the end of what is hashed, and the one that the letter is picked by. -/
def bytes : Use → Bytes
  | hostName name => Bytes.ofHex name
  | identifier length hashed pick => hashed.drop (hashed.length - length.val) ++ [pick]

/-- What shows of a use: of the byte that picks a letter no more than which one it
picks. -/
def shown : Use → Use
  | hostName name => hostName name
  | identifier length hashed pick => identifier length hashed (pick % 26)

/-- A host name is made up. -/
def isHostName : Use → Bool
  | hostName _ => true
  | identifier _ _ _ => false

/-- The length of the identifier that something is hashed for. -/
def length? : Use → Option Length
  | hostName _ => none
  | identifier length _ _ => some length

/-- How many bytes there are in so many uses: eight for every name, and one more than its
length for every identifier. -/
def total (uses : List Use) : Nat :=
  8 * uses.countP isHostName + ((uses.filterMap length?).map fun n => n.val + 1).sum

theorem total_append (uses more : List Use) : total (uses ++ more) = total uses + total more := by
  simp only [total, List.countP_append, List.filterMap_append, List.map_append, List.sum_append]
  omega

end Use

namespace Platform

/-- What random bytes are used for when a platform is asked for its fingerprint,
whether it can be computed or not. -/
def fingerprintUses (p : Platform) : List Use :=
  match p.lack?, (Fingerprint.resolveHostName p).answer with
  | some _, .ok name => [.hostName name]
  | _, _ => []

/-- The platform has served the bytes that went into some uses, one use after
another, and no others; and it goes on serving the same stream. -/
structure Spends (uses : List Use) (p q : Platform) : Prop where
  stream : q.stream = p.stream
  source : p.integerSource ≠ .stream → q.integerSource ≠ .stream
  position : q.position = p.position + Use.total uses
  draws : q.draws.bytes = p.draws.bytes + Use.total uses
  served : uses.flatMap Use.bytes = p.upcoming (Use.total uses)

namespace Spends

variable {p q r : Platform} {uses more : List Use}

/-- Nothing has been used by what leaves the stream alone. -/
theorem of_same (hstream : q.stream = p.stream) (hposition : q.position = p.position)
    (hdraws : q.draws.bytes = p.draws.bytes)
    (hsource : p.integerSource ≠ .stream → q.integerSource ≠ .stream) : Spends [] p q :=
  ⟨hstream, hsource, hposition, hdraws, rfl⟩

theorem refl (p : Platform) : Spends [] p p := of_same rfl rfl rfl id

theorem trans (h : Spends uses p q) (h' : Spends more q r) : Spends (uses ++ more) p r := by
  constructor
  case stream => exact h'.stream.trans h.stream
  case source => exact fun hp => h'.source (h.source hp)
  case position => rw [h'.position, h.position, Use.total_append, Nat.add_assoc]
  case draws => rw [h'.draws, h.draws, Use.total_append, Nat.add_assoc]
  case served =>
    rw [List.flatMap_append, h.served, h'.served, Use.total_append, upcoming, upcoming, upcoming,
      h.stream, h.position, ← List.map_append, List.range'_append_1]

end Spends

theorem upcoming_add (p : Platform) (m n : Nat) :
    p.upcoming (m + n) = p.upcoming m ++ (p.served m).upcoming n := by
  show (List.range' p.position (m + n)).map p.stream =
    (List.range' p.position m).map p.stream ++ (List.range' (p.position + m) n).map p.stream
  rw [← List.map_append, List.range'_append_1]

/-- Resolving a host name uses what it makes one up of. -/
theorem spends_resolveHostName (p : Platform) :
    Spends p.fingerprintUses p (Fingerprint.resolveHostName p).state := by
  cases hlack : p.lack? with
  | none =>
      have hnone : p.fingerprintUses = [] := by simp only [fingerprintUses, hlack]
      rw [hnone, Fingerprint.resolveHostName_of_no_lack hlack]
      exact .of_same rfl rfl rfl id
  | some reason =>
      have hrun := Fingerprint.resolveHostName_of_lack hlack
      have hname : p.fingerprintUses = [.hostName (p.upcoming 8).hex] := by
        simp only [fingerprintUses, hlack, hrun]
      rw [hname, hrun]
      refine ⟨rfl, id, rfl, rfl, ?_⟩
      show Bytes.ofHex (p.upcoming 8).hex ++ [] = p.upcoming 8
      rw [List.append_nil, Bytes.ofHex_hex]

/-- A platform that has spent nothing has the same uses for its bytes if its host is still
the same. -/
theorem fingerprintUses_of_spends {p q : Platform} (hhost : q.SameHost p) (h : Spends [] p q) :
    q.fingerprintUses = p.fingerprintUses := by
  have hlack : q.lack? = p.lack? := by rw [lack?, lack?, hhost.hostName]
  have hupcoming : q.upcoming 8 = p.upcoming 8 := by
    rw [upcoming, upcoming, h.stream, h.position]
    rfl
  cases hreason : p.lack? with
  | none => simp only [fingerprintUses, hlack, hreason]
  | some reason =>
      simp only [fingerprintUses, hlack, hreason, hupcoming,
        Fingerprint.resolveHostName_of_lack (hlack.trans hreason),
        Fingerprint.resolveHostName_of_lack hreason]

/-- Computing a fingerprint uses what resolving the host name does, also if it fails
afterwards. -/
theorem spends_compute (p : Platform) :
    Spends p.fingerprintUses p (Fingerprint.compute p).state := by
  have hname := spends_resolveHostName p
  rcases (Fingerprint.compute_after_name p).2 with hstate | hstate
  · rw [hstate]
    exact hname
  · rw [hstate]
    exact ⟨hname.stream, hname.source, hname.position, hname.draws, hname.served⟩

end Platform

/-! ## Uses of one platform -/

namespace World

/-- What random bytes of the platform at a place are used for when the fingerprint of
a state is needed. -/
def fingerprintUses (i s : Nat) (w : World) : List Use :=
  if (w.state s).fingerprint = none ∧ (w.state s).platform = i then
    (w.platform i).fingerprintUses
  else []

/-- What random bytes of the platform at a place are used for in a step, as far as it can
be told from what the step answers. -/
inductive UsedBy (i : Nat) (w : World) : Step → List Use → Prop
  /-- Who asks for a fingerprint may have to have it computed. -/
  | fingerprint (g : Nat) :
      UsedBy i w (.fingerprint g) (w.fingerprintUses i (w.generator g).state)
  /-- A request for a length that is not acceptable uses nothing. -/
  | turnedDown (step : Step) (g : Nat) (v : Value) (rejection : Length.Rejection)
      (hasks : step.Asks g v) (hlength : Length.ofValue v = .error rejection) : UsedBy i w step []
  /-- A request that does not get past the fingerprint does not come to its primitive. -/
  | stopped (step : Step) (g : Nat) (v : Value) (n : Length) (fault : Fault)
      (hasks : step.Asks g v) (hn : Length.ofValue v = .ok n)
      (h : ∀ primitive, (perform step (w.withPrimitive primitive)).answer = .error fault) :
      UsedBy i w step (w.fingerprintUses i (w.generator g).state)
  /-- Any other one hashes, and has a letter, whatever comes of the hashing. -/
  | minted (step : Step) (g : Nat) (v : Value) (n : Length) (hashed : Bytes) (pick : UInt8)
      (hasks : step.Asks g v) (hn : Length.ofValue v = .ok n) (h : w.Mints step n hashed pick) :
      UsedBy i w step (w.fingerprintUses i (w.generator g).state ++
        if (w.generator g).platform = i then [.identifier n hashed pick] else [])
  | other (step : Step) (hasks : ∀ g v, ¬step.Asks g v) (hlooks : ∀ g, step ≠ .fingerprint g) :
      UsedBy i w step []

/-- What random bytes of the platform at a place are used for in a session, one use after
another. -/
inductive UsedIn (i : Nat) : World → List Step → List Use → Prop
  | nil (w : World) : UsedIn i w [] []
  | cons {w : World} {step : Step} {rest : List Step} {uses more : List Use}
      (h : UsedBy i w step uses) (hrest : UsedIn i (perform step w).state rest more) :
      UsedIn i w (step :: rest) (uses ++ more)

namespace UsedBy

variable {i : Nat} {w : World} {step : Step} {uses uses' : List Use} {g : Nat} {v : Value}
  {n : Length}

theorem of_rejection {rejection : Length.Rejection} (hasks : step.Asks g v)
    (hlength : Length.ofValue v = .error rejection) (h : UsedBy i w step uses) : uses = [] := by
  cases h with
  | fingerprint => cases hasks
  | turnedDown => rfl
  | other _ hnone => exact absurd hasks (hnone g v)
  | stopped _ _ _ _ _ hasks' hn | minted _ _ _ _ _ _ hasks' hn =>
      obtain ⟨-, rfl⟩ := hasks.unique hasks'
      rw [hlength] at hn
      cases hn

theorem of_stopped {fault : Fault} (hasks : step.Asks g v) (hn : Length.ofValue v = .ok n)
    (hstopped : ∀ primitive, (perform step (w.withPrimitive primitive)).answer = .error fault)
    (h : UsedBy i w step uses) : uses = w.fingerprintUses i (w.generator g).state := by
  cases h with
  | fingerprint => cases hasks
  | turnedDown _ _ _ _ hasks' hlength =>
      obtain ⟨-, rfl⟩ := hasks.unique hasks'
      rw [hn] at hlength
      cases hlength
  | stopped _ _ _ _ _ hasks' =>
      obtain ⟨rfl, -⟩ := hasks.unique hasks'
      rfl
  | minted _ _ _ _ _ _ _ _ hminted => exact absurd hstopped hminted.toHashes.not_stopped
  | other _ hnone => exact absurd hasks (hnone g v)

theorem of_minted {hashed : Bytes} {pick : UInt8} (hasks : step.Asks g v)
    (hn : Length.ofValue v = .ok n) (hminted : w.Mints step n hashed pick)
    (h : UsedBy i w step uses) :
    uses.map Use.shown =
      (w.fingerprintUses i (w.generator g).state ++
        if (w.generator g).platform = i then [Use.identifier n hashed pick] else []).map
          Use.shown := by
  cases h with
  | fingerprint => cases hasks
  | turnedDown _ _ _ _ hasks' hlength =>
      obtain ⟨-, rfl⟩ := hasks.unique hasks'
      rw [hn] at hlength
      cases hlength
  | stopped _ _ _ _ _ _ _ hstopped => exact absurd hstopped hminted.toHashes.not_stopped
  | minted _ _ _ _ _ _ hasks' hn' hminted' =>
      obtain ⟨rfl, rfl⟩ := hasks.unique hasks'
      obtain rfl := Except.ok.inj (hn.symm.trans hn')
      obtain ⟨rfl, hletter⟩ := hminted.unique hminted'
      split <;> simp [Use.shown, hletter]
  | other _ hnone => exact absurd hasks (hnone g v)

/-- There are no two accounts of a step that differ in what shows. -/
theorem unique (h : UsedBy i w step uses) (h' : UsedBy i w step uses') :
    uses.map Use.shown = uses'.map Use.shown := by
  cases h with
  | fingerprint g =>
      cases h' with
      | fingerprint => rfl
      | other _ _ hlooks => exact absurd rfl (hlooks g)
      | turnedDown _ _ _ _ hasks | stopped _ _ _ _ _ hasks | minted _ _ _ _ _ _ hasks => cases hasks
  | turnedDown _ g v rejection hasks hlength => rw [h'.of_rejection hasks hlength]
  | stopped _ g v n fault hasks hn hstopped => rw [h'.of_stopped hasks hn hstopped]
  | minted _ g v n hashed pick hasks hn hminted => exact (h'.of_minted hasks hn hminted).symm
  | other _ hnone hlooks =>
      cases h' with
      | fingerprint g => exact absurd rfl (hlooks g)
      | other => rfl
      | turnedDown _ g v _ hasks | stopped _ g v _ _ hasks | minted _ g v _ _ _ hasks =>
          exact absurd hasks (hnone g v)

end UsedBy

/-- Whatever shows of the uses in a session is settled by the session. -/
theorem UsedIn.unique {i : Nat} {w : World} {steps : List Step} {uses uses' : List Use}
    (h : UsedIn i w steps uses) (h' : UsedIn i w steps uses') :
    uses.map Use.shown = uses'.map Use.shown := by
  induction h generalizing uses' with
  | nil =>
      cases h'
      rfl
  | cons hfirst _ ih =>
      cases h' with
      | cons hfirst' hrest' =>
          rw [List.map_append, List.map_append, hfirst.unique hfirst', ih hrest']

/-- What random bytes of the platform at a place are used for when everything for an
identifier is gathered: first for the fingerprint, and then, if that is to be had, for
the draft. -/
def gatherUses (i g : Nat) (n : Length) (w : World) : List Use :=
  (w.counted g).fingerprintUses i (w.generator g).state ++
    if (w.generator g).platform = i then
      match (gather g n w).answer with
      | .ok d => [.identifier n d.input (UInt8.ofNat d.pick.toNat)]
      | .error _ => []
    else []

/-- What random bytes of the platform at a place are used for by a request.  One that is
accepted has its uses, whatever comes of it; one that is turned down has none. -/
def requestUses (i g : Nat) (length : Value) (w : World) : List Use :=
  match Length.ofValue length with
  | .ok n => w.gatherUses i g n
  | .error _ => []

/-- What random bytes of the platform at a place are used for in a step. -/
def uses (i : Nat) (step : Step) (w : World) : List Use :=
  match step with
  | .tryGenerate g length | .generate g length => w.requestUses i g (requestedLength length)
  | .fingerprint g => w.fingerprintUses i (w.generator g).state
  | _ => []

/-- Between two worlds, the platform at a place has spent its bytes on some uses. -/
def Spends (i : Nat) (uses : List Use) (w w' : World) : Prop :=
  w'.platforms.length = w.platforms.length ∧ (w.platform i).Spends uses (w'.platform i)

variable {i : Nat} {w w' w'' : World} {uses more : List Use}

theorem Spends.trans (h : Spends i uses w w') (h' : Spends i more w' w'') :
    Spends i (uses ++ more) w w'' :=
  ⟨h'.1.trans h.1, h.2.trans h'.2⟩

theorem Spends.of_platforms (h : w'.platforms = w.platforms) : Spends i [] w w' := by
  refine ⟨congrArg List.length h, ?_⟩
  rw [platform, platform, h]
  exact .refl _

/-- If one platform is replaced, what another has spent is nothing. -/
theorem spends_setPlatform {p : Platform} (hi : i < w.platforms.length) (j : Nat)
    (h : (w.platform j).Spends uses p) :
    Spends i (if j = i then uses else []) w (w.setPlatform j p) := by
  refine ⟨by simp [setPlatform], ?_⟩
  by_cases hj : j = i
  · subst hj
    rw [if_pos rfl, platform_setPlatform_self p hi]
    exact h
  · rw [if_neg hj, platform_setPlatform_ne p hj]
    exact .refl _

/-! ## One action at a time -/

/-- The platform at a place exists, and makes no integers of its random bytes. -/
def IsSource (i : Nat) (w : World) : Prop :=
  i < w.platforms.length ∧ (w.platform i).integerSource ≠ .stream

theorem IsSource.of_spends (hi : w.IsSource i) (h : Spends i uses w w') : w'.IsSource i :=
  ⟨h.1 ▸ hi.1, h.2.source hi.2⟩

/-- Counting uses no random bytes. -/
theorem spends_counting (hi : w.IsSource i) (s : Nat) (v : Int) :
    Spends i [] w ((w.seeded s).leaveCount s v) := by
  constructor
  · unfold leaveCount seeded
    split <;> simp [setState, setPlatform]
  · show (w.platform i).Spends [] ((w.seeded s).platform i)
    rcases w.platform_seeded s i with h | h
    · rw [h]
      exact .refl _
    · rw [h]
      cases hgiven : (w.platform i).integerSource with
      | stream => exact absurd hgiven hi.2
      | given n =>
          rw [Platform.afterInteger_of_given hgiven]
          exact .of_same rfl rfl rfl id

theorem spends_counted (hi : w.IsSource i) (g : Nat) : Spends i [] w (w.counted g) := by
  have hread : Spends i [] w (w.clockRead g) := .of_platforms (platforms_setClock w g _)
  exact hread.trans (spends_counting (hi.of_spends hread) _ _)

/-- Runs that use no random bytes can be put together. -/
theorem cumulative_spends :
    Act.Cumulative (IsSource i) fun w w' _ => Spends i [] w w' where
  refl _ _ := .of_platforms rfl
  trans h h' := h.trans h'
  stays hi h := hi.of_spends h

theorem spends_nextCount (s : Nat) :
    (nextCount s).Obeys (IsSource i) fun w w' _ => Spends i [] w w' := by
  intro w hi
  rw [nextCount_apply]
  exact spends_counting hi s _

/-- Needing a fingerprint uses what its computation does, if it has to be computed. -/
theorem spends_fingerprint (hi : w.IsSource i) (s : Nat) :
    Spends i (w.fingerprintUses i s) w (fingerprint s w).state := by
  cases hprint : (w.state s).fingerprint with
  | some f =>
      rw [fingerprint_of_some hprint, fingerprintUses, if_neg (by simp [hprint])]
      exact .of_platforms rfl
  | none =>
      have hasked : Spends i (w.fingerprintUses i s) w (w.asked (w.state s).platform) := by
        have hcompute := Platform.spends_compute (w.platform (w.state s).platform)
        have hset := spends_setPlatform hi.1 (w.state s).platform hcompute
        rw [fingerprintUses]
        by_cases hplace : (w.state s).platform = i
        · subst hplace
          rw [if_pos rfl] at hset
          rw [if_pos ⟨hprint, rfl⟩]
          exact hset
        · rw [if_neg hplace] at hset
          rw [if_neg fun h => hplace h.2]
          exact hset
      have hrun := hasked.trans (.of_platforms (platforms_fingerprint_of_none hprint))
      rwa [List.append_nil] at hrun

/-- The random bytes of a draft are what its input ends in. -/
theorem drop_input {d : Draft} {n : Nat} (h : d.random.length = n) :
    d.input.drop (d.input.length - n) = d.random := by
  rw [Draft.input, Identifier.hashInput, List.length_append, h, Nat.add_sub_cancel]
  exact List.drop_left

/-- The random bytes of a draft and the byte that its letter is picked by are served
one after the other. -/
theorem spends_draft (p : Platform) (n : Length) {d : Draft} (hrandom : d.random = p.upcoming n.val)
    (hpick : d.pick = Bytes.toNatBig ((p.served n.val).upcoming 1)) :
    p.Spends [.identifier n d.input (UInt8.ofNat d.pick.toNat)] ((p.served n.val).served 1) := by
  have htotal : Use.total [.identifier n d.input (UInt8.ofNat d.pick.toNat)] = n.val + 1 := by
    simp [Use.total, Use.isHostName, Use.length?]
  have hlength : d.random.length = n.val := by simp [hrandom, Platform.upcoming]
  constructor
  case stream => rfl
  case source => exact id
  case position =>
    rw [htotal]
    rfl
  case draws =>
    rw [htotal]
    rfl
  case served =>
    have hbyte : [UInt8.ofNat d.pick.toNat] = (p.served n.val).upcoming 1 := by
      rw [hpick]
      simp [Platform.upcoming, Bytes.toNatBig]
    rw [htotal, Platform.upcoming_add, ← hrandom, ← hbyte]
    simp [Use.bytes, drop_input hlength]

theorem platform_served_self (hi : i < w.platforms.length) (n : Nat) :
    (w.served i n).platform i = (w.platform i).served n :=
  platform_setPlatform_self _ hi

theorem platform_served_ne {j : Nat} (h : j ≠ i) (n : Nat) :
    (w.served j n).platform i = w.platform i :=
  platform_setPlatform_ne _ h

@[simp] theorem length_served (w : World) (i n : Nat) :
    (w.served i n).platforms.length = w.platforms.length := by
  simp [served, setPlatform]

/-- Gathering uses random bytes for the fingerprint of the state, and then for the
draft. -/
theorem spends_gather (hi : w.IsSource i) (g : Nat) (n : Length) :
    Spends i (w.gatherUses i g n) w (gather g n w).state := by
  have hcounted := spends_counted hi g
  have hfingerprint := spends_fingerprint (hi.of_spends hcounted) (w.generator g).state
  rw [gatherUses]
  rcases hrun : fingerprint (w.generator g).state (w.counted g) with ⟨fault | f, v, entries⟩
  · rw [hrun] at hfingerprint
    rw [gather_of_error n hrun]
    have hnone : (if (w.generator g).platform = i then ([] : List Use) else []) = [] := by simp
    dsimp only
    rw [hnone, List.append_nil]
    exact hcounted.trans hfingerprint
  · rw [hrun] at hfingerprint
    rw [gather_of_ok n hrun]
    have hready : Spends i _ w v := hcounted.trans hfingerprint
    refine hready.trans ⟨by simp, ?_⟩
    dsimp only
    by_cases hplace : (w.generator g).platform = i
    · subst hplace
      have hv : (w.generator g).platform < v.platforms.length := hready.1 ▸ hi.1
      have hv' : (w.generator g).platform <
          (v.served (w.generator g).platform n.val).platforms.length := by simpa using hv
      rw [if_pos rfl, platform_served_self hv' 1, platform_served_self hv n.val]
      exact spends_draft _ n rfl rfl
    · rw [if_neg hplace, platform_served_ne hplace, platform_served_ne hplace]
      exact .refl _

/-! ## Steps and sessions -/

end World

/-- The step leaves the stream of each platform, and what its integers are made of,
alone; and it is not about requests that several threads make. -/
def Step.KeepsStream : Step → Prop
  | changePlatform _ change => change.stream = none ∧ change.integerSource ≠ some .stream
  | generateInThreads _ _ _ _ => False
  | _ => True

namespace World

variable {i : Nat} {w : World}

/-- A request that is accepted uses what gathering its draft does. -/
theorem spends_tryGenerate (hi : w.IsSource i) (g : Nat) (length : Value) :
    Spends i (w.requestUses i g length) w (tryGenerate g length w).state := by
  rw [requestUses]
  cases hlength : Length.ofValue length with
  | ok n =>
      rw [tryGenerate_of_ok g hlength, state_generateAccepted]
      exact spends_gather hi g n
  | error rejection =>
      rw [tryGenerate_of_error g hlength, state_reject]
      exact .of_platforms rfl

/-- The step lemma: what is used in a step is what is served in it. -/
theorem spends_perform {step : Step} (hi : w.IsSource i) (hstep : step.KeepsStream) :
    Spends i (w.uses i step) w (perform step w).state := by
  cases step with
  | tryGenerate g length =>
      rw [perform, Act.map_apply]
      exact spends_tryGenerate hi g _
  | generate g length =>
      rw [perform, Act.map_apply]
      dsimp only
      rw [state_generate]
      exact spends_tryGenerate hi g _
  | fingerprint g =>
      rw [perform, Act.bind_apply, Act.state_apply, Act.andThen_ok, Act.map_apply]
      exact spends_fingerprint hi _
  | nextCounts g times =>
      exact obeys_nextCounts cumulative_spends (fun v _ => spends_nextCount _) times w hi
  | nextCountsInThreads g threads calls =>
      exact obeys_nextCountsInThreads cumulative_spends (fun v _ => spends_nextCount _) threads
        calls w hi
  | setCounter | setPrimitive => exact .of_platforms rfl
  | setClock g reading => exact .of_platforms (platforms_setClock w g _)
  | changePlatform g change =>
      obtain ⟨hstream, hsource⟩ := hstep
      have hchanged : (w.platform (w.generator g).platform).Spends []
          ((w.platform (w.generator g).platform).changed change) := by
        refine .of_same ?_ ?_ rfl fun hgiven => ?_
        · simp [Platform.changed, hstream]
        · simp [Platform.changed, hstream]
        · cases hnew : change.integerSource with
          | none => simpa [Platform.changed, hnew] using hgiven
          | some source =>
              rw [hnew] at hsource
              simpa [Platform.changed, hnew] using hsource
      have hset := spends_setPlatform hi.1 (w.generator g).platform hchanged
      rw [ite_self] at hset
      exact hset
  | generateInThreads => exact absurd hstep id

/-! ## What can be told of the uses -/

theorem fingerprintUses_counted (hi : w.IsSource i) (g s : Nat) :
    (w.counted g).fingerprintUses i s = w.fingerprintUses i s := by
  obtain ⟨hplatform, hprint⟩ := rest_counted w g s
  rw [fingerprintUses, fingerprintUses, hplatform, hprint,
    Platform.fingerprintUses_of_spends (sameHost_counted w g i) (spends_counted hi g).2]

/-- What is used by a request that is accepted can be told from outside. -/
theorem usedBy_gatherUses {step : Step} {g : Nat} {v : Value} {n : Length} (hi : w.IsSource i)
    (hasks : step.Asks g v) (hn : Length.ofValue v = .ok n) :
    UsedBy i w step (w.gatherUses i g n) := by
  rw [gatherUses, fingerprintUses_counted hi]
  cases hd : (gather g n w).answer with
  | error fault =>
      simp only [ite_self, List.append_nil]
      exact .stopped step g v n fault hasks hn (answer_perform_of_gather_fault hasks hn hd)
  | ok d =>
      obtain ⟨-, pick, hpick⟩ := exists_pick_of_gather hd
      have hbyte : UInt8.ofNat d.pick.toNat = pick := by simp [hpick]
      dsimp only
      rw [hbyte]
      exact .minted step g v n d.input pick hasks hn (mints_of_gather hasks hn hd hpick)

theorem usedBy_requestUses {step : Step} {g : Nat} {v : Value} (hi : w.IsSource i)
    (hasks : step.Asks g v) : UsedBy i w step (w.requestUses i g v) := by
  rw [requestUses]
  cases hlength : Length.ofValue v with
  | ok n => exact usedBy_gatherUses hi hasks hlength
  | error rejection => exact .turnedDown step g v rejection hasks hlength

theorem usedBy_uses (hi : w.IsSource i) (step : Step) : UsedBy i w step (w.uses i step) := by
  cases step with
  | tryGenerate g length => exact usedBy_requestUses hi (.tryGenerate g length)
  | generate g length => exact usedBy_requestUses hi (.generate g length)
  | fingerprint g => exact .fingerprint g
  | _ => exact .other _ (fun _ _ hasks => by cases hasks) fun _ hlooks => by cases hlooks

/-- **Every random byte is used exactly once, in the order in which it is served.**  In
a session on a platform that makes no integers of its random bytes, whoever shares it
with whom: the bytes behind the host names that were made up, those that were hashed and
those that letters were picked by are, one use after another, the part of the stream
that the platform has served; and it has counted eight of them for every name, whether
the fingerprint was computed or not, and one more than its length for every identifier
that got past the fingerprint, whether it could be hashed or not. -/
theorem spends_session {steps : List Step} (hi : i < w.platforms.length)
    (hsource : (w.platform i).integerSource ≠ .stream)
    (hsteps : ∀ step ∈ steps, step.KeepsStream) :
    ∃ uses, UsedIn i w steps uses ∧
      (w.platform i).Spends uses ((w.session steps).2.platform i) := by
  have hrun : ∃ uses, UsedIn i w steps uses ∧ Spends i uses w (w.session steps).2 := by
    have hstart : w.IsSource i := ⟨hi, hsource⟩
    clear hi hsource
    induction steps generalizing w with
    | nil => exact ⟨[], .nil w, .of_platforms rfl⟩
    | cons step rest ih =>
        have hfirst := spends_perform hstart (hsteps step (by simp))
        obtain ⟨more, hmore, hthen⟩ := ih (fun later hlater => hsteps later (by simp [hlater]))
          (hstart.of_spends hfirst)
        exact ⟨_, .cons (usedBy_uses hstart step) hmore, hfirst.trans hthen⟩
  obtain ⟨uses, hused, hspends⟩ := hrun
  exact ⟨uses, hused, hspends.2⟩

/-- A name is made up for a fingerprint that cannot be computed, and another for the
one that can; then four bytes are hashed in vain, and one has picked a letter. -/
theorem spends_session_in_vain :
    let w := single
      { (default : Platform) with environment := [([0xD800], [])], stream := UInt8.ofNat }
      default fun _ => .error (.outside .memory [])
    let steps : List Step := [.tryGenerate 0 (some (.int 4)),
      .changePlatform 0 { environment := some [] }, .fingerprint 0, .generate 0 (some (.int 4))]
    let p := (w.session steps).2.platform 0
    (∃ uses, UsedIn 0 w steps uses ∧
      uses.flatMap Use.bytes = (List.range 21).map UInt8.ofNat) ∧
      p.position = 8 + 8 + 4 + 1 ∧ p.draws.bytes = 8 + 8 + 4 + 1 := by
  intro w steps p
  have hsteps : ∀ step ∈ steps, step.KeepsStream := by simp [steps, Step.KeepsStream]
  obtain ⟨uses, hused, h⟩ := spends_session (i := 0) (w := w) (by decide) (by decide) hsteps
  have hposition : p.position = 21 := by decide +kernel
  have htotal : Use.total uses = 21 := by
    have hserved : p.position = 0 + Use.total uses := h.position
    omega
  refine ⟨⟨uses, hused, ?_⟩, hposition, ?_⟩
  · rw [h.served, htotal, List.range_eq_range']
    rfl
  · rw [h.draws, htotal]
    rfl

end World

end IdMint
