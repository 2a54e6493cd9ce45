import IdMint.Proofs.Desks
import IdMint.Proofs.Hashing
import IdMint.Proofs.Queries
import IdMint.Proofs.Rejections
import IdMint.Proofs.Sessions

/-!
# What a generator gives in the course of its life

A generator of its own, over a platform with a host name, is asked for
identifiers of any lengths, some of them acceptable and some not.  What each
request hashes, and so what it gives, depends on the requests before it only
through the acceptable lengths among them: through their number, which says how
far clock and counter have got, and through their sum, which says how many
random bytes are gone.

`Desk.after` is the desk after requests for identifiers of some lengths, and
`Desk.draft` what the next request gathers there.  That they describe a single
request is `World.Shows.gather_after`; that they go on doing so is an induction
over the run (`World.Shows.session_after`), in which rejected requests do not
count.
-/

namespace IdMint

/-- The acceptable lengths among those that are asked for, in their order. -/
def acceptedLengths (lengths : List Value) : List Length :=
  lengths.filterMap fun v => (Length.ofValue v).toOption

/-- The number of random bytes that identifiers of these lengths take: each
takes as many as it is long, and one more for its letter. -/
def bytesTaken (lengths : List Length) : Nat := (lengths.map fun n => n.val + 1).sum

/-- Requests to a generator, one for each length. -/
def requests (g : Nat) (lengths : List Value) : List Step :=
  lengths.map fun v => .tryGenerate g (some v)

/-- A clock after a number of readings. -/
def Clock.after (c : Clock) (readings : Nat) : Clock :=
  { c with position := c.position + readings, calls := c.calls + readings }

/-- A platform after requests for identifiers of these lengths, of which there
has been one at least. -/
def Platform.after (p : Platform) (lengths : List Length) : Platform :=
  { p with
    position := p.position + bytesTaken lengths
    draws := {
      integers := p.draws.integers + 1
      byteStrings := p.draws.byteStrings + 2 * lengths.length
      bytes := p.draws.bytes + bytesTaken lengths
      hostNames := p.draws.hostNames + 1
      environments := p.draws.environments + 1 } }

/-- A desk after requests for identifiers of these lengths. -/
def Desk.after (d : Desk) (seed : Int) (fingerprint : Bytes)
    (lengths : List Length) : Desk :=
  if lengths = [] then d
  else {
    clock := d.clock.after lengths.length
    platform := d.platform.after lengths
    counter := ⟨some (wrap64 (seed * seedFactor + lengths.length))⟩
    fingerprint := some fingerprint }

/-- What a request gathers, if these are the lengths that have been asked for
before it. -/
def Desk.draft (d : Desk) (seed : Int) (fingerprint : Bytes) (earlier : List Length)
    (length : Length) : Draft where
  timestamp := d.clock.reading (d.clock.position + earlier.length)
  counter := wrap64 (seed * seedFactor + earlier.length)
  fingerprint := fingerprint
  random :=
    (List.range' (d.platform.position + bytesTaken earlier) length.val).map
      d.platform.stream
  pick :=
    (d.platform.stream (d.platform.position + bytesTaken earlier + length.val)).toNat

/-- Nobody has sat at the desk yet.  Its platform gives `seed` for a random
integer and has a host name, and its fingerprint will be made of the bytes
`host` and `settings`. -/
structure Desk.Unused (d : Desk) (seed : Int) (host settings : Bytes) : Prop where
  counter_eq : d.counter = {}
  fingerprint_eq : d.fingerprint = none
  integerSource_eq : d.platform.integerSource = .given seed
  host_eq :
    ∃ name, d.platform.hostName = .ok name ∧ name ≠ [] ∧
      Environment.encode name = .ok host
  settings_eq : Environment.serialize d.platform.environment = .ok settings

/-! ## One request -/

@[simp] theorem bytesTaken_concat (lengths : List Length) (n : Length) :
    bytesTaken (lengths ++ [n]) = bytesTaken lengths + (n.val + 1) := by
  simp [bytesTaken]

theorem acceptedLengths_concat_ok {v : Value} {n : Length} (lengths : List Value)
    (h : Length.ofValue v = .ok n) :
    acceptedLengths (lengths ++ [v]) = acceptedLengths lengths ++ [n] := by
  simp [acceptedLengths, h, Except.toOption]

theorem acceptedLengths_concat_error {v : Value} {rejection : Length.Rejection}
    (lengths : List Value) (h : Length.ofValue v = .error rejection) :
    acceptedLengths (lengths ++ [v]) = acceptedLengths lengths := by
  simp [acceptedLengths, h, Except.toOption]

theorem requests_concat (g : Nat) (lengths : List Value) (v : Value) :
    requests g (lengths ++ [v]) = requests g lengths ++ [.tryGenerate g (some v)] := by
  simp [requests]

theorem perform_request (g : Nat) (v : Value) (w : World) :
    (World.perform (.tryGenerate g (some v)) w).state =
      (World.tryGenerate g v w).state := by
  rw [World.perform, Act.map_apply]
  rfl

/-- The random byte that the letter is picked by. -/
theorem toNatBig_upcoming_served (p : Platform) (n : Nat) :
    ((Bytes.toNatBig ((p.served n).upcoming 1) : Nat) : Int) =
      (p.stream (p.position + n)).toNat := by
  simp [Platform.served, Platform.randomBytes, Platform.upcoming, Bytes.toNatBig]

/-- Serving the random bytes of one more identifier. -/
theorem Platform.served_after (p : Platform) (earlier : List Length) (n : Length) :
    ((p.after earlier).served n.val).served 1 = p.after (earlier ++ [n]) := by
  have hsum : ∀ start : Nat, start + bytesTaken earlier + n.val + 1 =
      start + (bytesTaken earlier + (n.val + 1)) := by
    intro start
    omega
  have hstrings : p.draws.byteStrings + 2 * earlier.length + 1 + 1 =
      p.draws.byteStrings + 2 * (earlier.length + 1) := by
    omega
  simp only [Platform.served, Platform.randomBytes, Platform.after, bytesTaken_concat,
    List.length_append, List.length_singleton, hsum, hstrings]

/-- The fingerprint of an unused desk, once its counter has been seeded. -/
theorem Desk.Unused.compute {d : Desk} {seed : Int} {host settings : Bytes}
    (hd : d.Unused seed host settings) :
    Fingerprint.compute d.platform.afterInteger =
      ⟨.ok (host ++ Bytes.pack32 d.platform.processId ++ settings),
        d.platform.after [], []⟩ := by
  obtain ⟨name, hname, hne, hhost⟩ := hd.host_eq
  have hseeded := Platform.afterInteger_of_given hd.integerSource_eq
  rw [hseeded]
  exact Fingerprint.compute_of_name hname hne hhost hd.settings_eq

namespace World.Shows

variable {w : World} {g i s : Nat} {d : Desk} {seed : Int} {host settings : Bytes}

/-- A request gathers what the closed form says, and leaves the desk that it
says. -/
theorem gather_after {earlier : List Length} (hd : d.Unused seed host settings)
    (h : w.Shows g i s
      (d.after seed (host ++ Bytes.pack32 d.platform.processId ++ settings) earlier))
    (n : Length) :
    ∃ v entries,
      World.gather g n w =
        ⟨.ok (d.draft seed (host ++ Bytes.pack32 d.platform.processId ++ settings)
            earlier n), v, entries⟩ ∧
      v.Shows g i s
        (d.after seed (host ++ Bytes.pack32 d.platform.processId ++ settings)
          (earlier ++ [n])) := by
  by_cases hfirst : earlier = []
  · subst hfirst
    rw [Desk.after, if_pos rfl] at h
    obtain ⟨v, entries, hgather, hv⟩ :=
      h.gather_of_fresh n hd.counter_eq hd.fingerprint_eq hd.compute
    have hinteger : d.platform.upcomingInteger = seed := by
      rw [Platform.upcomingInteger, hd.integerSource_eq]
    rw [hinteger, toNatBig_upcoming_served] at hgather
    rw [hinteger, Platform.served_after, seedValue, counterAfter_wrap64] at hv
    refine ⟨v, entries, ?_, ?_⟩
    · rw [hgather]
      simp [Desk.draft, Clock.upcoming, Platform.upcoming, Platform.after, bytesTaken,
        seedValue]
    · simpa [Desk.after, Clock.after, Clock.advanced] using hv
  · rw [Desk.after, if_neg hfirst] at h
    obtain ⟨v, entries, hgather, hv⟩ := h.gather_of_stored n rfl rfl
    rw [toNatBig_upcoming_served] at hgather
    rw [Platform.served_after, counterAfter_wrap64] at hv
    refine ⟨v, entries, hgather, ?_⟩
    rw [Desk.after, if_neg (by simp)]
    simpa [Clock.after, Clock.advanced, Int.add_assoc, Nat.add_assoc] using hv

/-- What a request for an acceptable length comes to, if the hash function
always gives digests of the right size. -/
theorem tryGenerate_after {earlier : List Length} {H : Bytes → Bytes} {a : Value}
    {n : Length} (hd : d.Unused seed host settings)
    (h : w.Shows g i s
      (d.after seed (host ++ Bytes.pack32 d.platform.processId ++ settings) earlier))
    (hprimitive : w.primitive = fun bytes => .ok (H bytes))
    (hsize : ∀ bytes, (H bytes).length = 64) (hlength : Length.ofValue a = .ok n) :
    let draft :=
      d.draft seed (host ++ Bytes.pack32 d.platform.processId ++ settings) earlier n
    ∃ outcome,
      (World.gather g n w).answer = .ok draft ∧
      (World.tryGenerate g a w).answer = .ok outcome ∧
      (36 ^ (n.val - 2) ≤ (H draft.input).toNatBig →
        outcome =
          Outcome.success (Identifier.fromDigest draft.letter (H draft.input) n)) ∧
      ((H draft.input).toNatBig < 36 ^ (n.val - 2) →
        ∃ message, outcome = Outcome.failure .cryptoFailure message) := by
  intro draft
  obtain ⟨v, entries, hgather, -⟩ := h.gather_after hd n
  have hanswer := (generateAccepted_of_gather hgather).1
  rw [hprimitive] at hanswer
  rw [tryGenerate_of_ok g hlength, hgather]
  have hdigest :
      (fun bytes => .ok (H bytes) : HashPrimitive) draft.input = .ok (H draft.input) :=
    rfl
  have hrejected :
      ∀ fault, (fun bytes => .ok (H bytes) : HashPrimitive) draft.input = .error fault →
        fault.isRejectedValue = true := by
    intro fault hfault
    cases hfault
  rcases Identifier.conclusion_make draft.letter n hrejected with
    ⟨e, he, hsuffices, hmade⟩ | ⟨hnone, message, hmade⟩
  · obtain rfl := Except.ok.inj he
    refine ⟨_, rfl, hanswer.trans hmade, fun _ => rfl, ?_⟩
    intro hsmall
    exact absurd hsuffices.2 (Nat.not_le.mpr hsmall)
  · refine ⟨_, rfl, hanswer.trans hmade, ?_, fun _ => ⟨message, rfl⟩⟩
    intro hgreat
    exact absurd ⟨hsize _, hgreat⟩ (hnone _ hdigest)

/-! ## A whole run -/

/-- After any requests, acceptable or not, the world shows the desk that the
closed form says. -/
theorem session_after (hd : d.Unused seed host settings) (h : w.Shows g i s d)
    (lengths : List Value) :
    (w.session (requests g lengths)).2.Shows g i s
        (d.after seed (host ++ Bytes.pack32 d.platform.processId ++ settings)
          (acceptedLengths lengths)) ∧
      (w.session (requests g lengths)).2.primitive = w.primitive := by
  induction lengths using List.reverseRecOn with
  | nil =>
      refine ⟨?_, rfl⟩
      rw [acceptedLengths, List.filterMap_nil, Desk.after, if_pos rfl]
      exact h
  | append_singleton earlier v ih =>
      obtain ⟨hshows, hprimitive⟩ := ih
      rw [requests_concat, session_concat_snd, perform_request]
      cases hlength : Length.ofValue v with
      | error rejection =>
          rw [acceptedLengths_concat_error earlier hlength,
            tryGenerate_of_error g hlength]
          rw [state_reject]
          exact ⟨hshows, hprimitive⟩
      | ok n =>
          obtain ⟨u, entries, hgather, hu⟩ := hshows.gather_after hd n
          have hkept := primitive_gather g n (w.session (requests g earlier)).2
          rw [hgather, hprimitive] at hkept
          rw [acceptedLengths_concat_ok earlier hlength, tryGenerate_of_ok g hlength,
            (generateAccepted_of_gather hgather).2]
          exact ⟨hu, hkept⟩

end World.Shows

/-- What is seen of a request in a run. -/
theorem World.result_session_requests (w : World) (g : Nat) (lengths : List Value)
    (j : Nat) (hj : j < lengths.length) :
    (w.session (requests g lengths)).1[j]?.map Observation.result =
      some ((tryGenerate g lengths[j]
        (w.session (requests g (lengths.take j))).2).answer.map .outcome) := by
  have hrequests : j < (w.session (requests g lengths)).1.length := by
    simpa [requests] using hj
  rw [List.getElem?_eq_getElem hrequests, getElem_session, Option.map_some]
  have htake : (requests g lengths).take j = requests g (lengths.take j) := by
    simp [requests, List.map_take]
  rw [htake]
  simp [requests, observe, perform, requestedLength]

/-- **What a generator gives in the course of its life.**  Let a generator of
its own be asked for any lengths, one after another.  A request for an
acceptable length, with `earlier` for the acceptable lengths before it, hashes
the reading of the clock with this number, the counter value with this number,
the fingerprint, and the random bytes from the first one on that the earlier
ones have left over.  Its identifier is the letter picked by the byte behind
them and the first digits of the digest; only a digest whose number is too small
gives none.  A request for any other length is told so and changes nothing. -/
theorem session_of_fresh {w : World} {g i s : Nat} {c : Clock} {p : Platform} {seed : Int}
    {name : Text} {H : Bytes → Bytes}
    (hfresh : w.Shows g i s { clock := c, platform := p })
    (hseed : p.integerSource = .given seed) (hname : p.hostName = .ok name)
    (hne : name ≠ []) (hencodable : name.Encodable)
    (henvironment : ∀ t ∈ p.environment, t.1.Encodable ∧ t.2.Encodable)
    (hprimitive : w.primitive = fun bytes => .ok (H bytes))
    (hsize : ∀ bytes, (H bytes).length = 64) (lengths : List Value)
    (hreportable : ∀ v ∈ lengths, v.Reportable) :
    ∃ settings, Environment.serialize p.environment = .ok settings ∧
      (∀ j (hj : j < lengths.length),
        let before := (w.session (requests g (lengths.take j))).2
        let earlier := acceptedLengths (lengths.take j)
        let offset := p.position + bytesTaken earlier
        ∃ outcome,
          (w.session (requests g lengths)).1[j]?.map Observation.result =
            some (.ok (.outcome outcome)) ∧
          (∀ n, Length.ofValue lengths[j] = .ok n →
            let hashed :=
              Bytes.pack64 (c.reading (c.position + earlier.length)) ++
                Bytes.pack64 (wrap64 (seed * 476782367 + earlier.length)) ++
                (name.flatMap Utf8.octets ++ Bytes.pack32 p.processId ++ settings) ++
                (List.range' offset n.val).map p.stream
            before.Hashes (.tryGenerate g (some lengths[j])) hashed ∧
            (36 ^ (n.val - 2) ≤ (H hashed).toNatBig →
              outcome = Outcome.success
                (Fin.ofNat 0x110000 (0x61 + (p.stream (offset + n.val)).toNat % 26) ::
                  (Base36.encode (H hashed)).take (n.val - 1))) ∧
            ((H hashed).toNatBig < 36 ^ (n.val - 2) →
              ∃ message, outcome = Outcome.failure .cryptoFailure message)) ∧
          (∀ rejection, Length.ofValue lengths[j] = .error rejection →
            (∃ message, rejection.message = .ok message ∧
              outcome = Outcome.failure .invalidArgument message) ∧
            (w.session (requests g (lengths.take (j + 1)))).2 = before)) ∧
      (w.session (requests g lengths)).2.Shows g i s
        (({ clock := c, platform := p } : Desk).after seed
          (name.flatMap Utf8.octets ++ Bytes.pack32 p.processId ++ settings)
          (acceptedLengths lengths)) := by
  have hhost := Environment.encode_of_encodable hencodable
  have hsettings := Environment.serialize_of_encodable henvironment
  have hunused :
      ({ clock := c, platform := p } : Desk).Unused seed (name.flatMap Utf8.octets)
        ((Environment.ordered p.environment).flatMap Environment.octets) :=
    { counter_eq := rfl
      fingerprint_eq := rfl
      integerSource_eq := hseed
      host_eq := ⟨name, hname, hne, hhost⟩
      settings_eq := hsettings }
  refine ⟨_, hsettings, ?_, (hfresh.session_after hunused lengths).1⟩
  intro j hj
  obtain ⟨hshows, hkept⟩ := hfresh.session_after hunused (lengths.take j)
  have hresult := World.result_session_requests w g lengths j hj
  dsimp only
  cases hlength : Length.ofValue lengths[j] with
  | error rejection =>
      obtain ⟨message, hmessage, hanswer, hstate⟩ := World.tryGenerate_of_rejection g
        (w.session (requests g (lengths.take j))).2 hlength
        (hreportable _ (List.getElem_mem hj))
      refine ⟨Outcome.failure .invalidArgument message, ?_, ?_, ?_⟩
      · rw [hresult, hanswer]
        rfl
      · intro n hn
        cases hn
      · intro rejection' hrejection
        obtain rfl := Except.error.inj hrejection
        refine ⟨⟨message, hmessage, rfl⟩, ?_⟩
        rw [← List.take_concat_get' lengths j hj, requests_concat,
          World.session_concat_snd, perform_request]
        exact hstate
  | ok n =>
      obtain ⟨outcome, hgather, hanswer, hgreat, hsmall⟩ :=
        hshows.tryGenerate_after hunused (hkept.trans hprimitive) hsize hlength
      refine ⟨outcome, ?_, ?_, ?_⟩
      · rw [hresult, hanswer]
        rfl
      · intro m hm
        obtain rfl := Except.ok.inj hm
        refine ⟨World.hashes_of_gather (.tryGenerate g (some lengths[j])) hlength hgather,
          fun hdigits => ?_, hsmall⟩
        rw [hgreat hdigits, Identifier.fromDigest, Draft.letter, Desk.draft,
          Identifier.letter_natCast]
        rfl
      · intro rejection hrejection
        cases hrejection

/-- A platform with a name of one letter and no environment, whose random bytes
count upwards. -/
def Platform.countingUp : Platform :=
  { (default : Platform) with
    integerSource := .given (-1)
    hostName := .ok "h"
    processId := 258
    stream := UInt8.ofNat }

/-- The second acceptable request out of four: the rejected ones in between have
used nothing up. -/
theorem session_of_fresh_mixed :
    let w := World.single Platform.countingUp { reading := fun n => 7 + n } HashPrimitive.sha3
    let asked : List Value := [.int 4, .bool true, .int 33, .object "Index" (some 5) (some "5")]
    (∀ v ∈ asked, v.Reportable) ∧
      (w.session (requests 0 (asked.take 3))).2.Hashes (.tryGenerate 0 asked[3])
        ([8, 0, 0, 0, 0, 0, 0, 0] ++ [226, 224, 148, 227, 255, 255, 255, 255] ++
          [0x68, 2, 1, 0, 0] ++ [5, 6, 7, 8, 9]) := by
  intro w asked
  have hfresh :
      w.Shows 0 0 0 { clock := { reading := fun n => 7 + n }, platform := .countingUp } :=
    { platform_place := rfl
      state_place := rfl
      platform_lt := by decide
      state_lt := by decide
      clock_eq := rfl
      platform_eq := rfl
      state_eq := rfl }
  have hname : Text.Encodable "h" := Text.encodable_map_ofChar _
  have hnothing : ∀ t ∈ ([] : List (Text × Text)), t.1.Encodable ∧ t.2.Encodable := by
    simp
  have hreportable : ∀ v ∈ asked, v.Reportable := by
    show ∀ v ∈ [Value.int 4, .bool true, .int 33, .object "Index" (some 5) (some "5")], v.Reportable
    decide +kernel
  obtain ⟨settings, hsettings, hcalls, -⟩ :=
    session_of_fresh hfresh rfl rfl (by decide) hname hnothing rfl Sha3.length_digest asked
      hreportable
  obtain ⟨outcome, -, haccepted, -⟩ := hcalls 3 (by decide)
  obtain ⟨hhashes, -⟩ := haccepted ⟨5, by decide, by decide⟩ rfl
  obtain rfl : [] = settings := Except.ok.inj (Environment.serialize_nil.symm.trans hsettings)
  have hinput : Bytes.pack64 (7 + 1) ++ Bytes.pack64 (wrap64 (-1 * 476782367 + 1)) ++
      (("h" : Text).flatMap Utf8.octets ++ Bytes.pack32 258 ++ []) ++
        (List.range' 5 5).map UInt8.ofNat =
      [8, 0, 0, 0, 0, 0, 0, 0] ++ [226, 224, 148, 227, 255, 255, 255, 255] ++ [0x68, 2, 1, 0, 0] ++
        [5, 6, 7, 8, 9] := by
    decide +kernel
  rw [← hinput]
  exact ⟨hreportable, hhashes⟩

end IdMint
