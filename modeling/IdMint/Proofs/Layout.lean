import IdMint.Proofs.Journals
import IdMint.Proofs.Variables

/-!
# What a fingerprint is made of

A fingerprint is the host name in UTF-8, the process id as a word of four bytes and the
serialised environment.  `Fingerprint.Obstacle` lists what can keep a platform from having
one: a refusal to tell the host name that is not the operating system's, and texts without
an encoding.  Where there is no obstacle there is a fingerprint, and its parts can be told
from the platform (`Fingerprint.compute_layout`).

A platform without a host name has one made up, of eight random bytes, and the reason is
noted down.  Nothing else draws random bytes or notes anything down, and it is done before
it turns out whether there are other obstacles.
-/

namespace IdMint

/-! ## Hexadecimal octets -/

/-- The octet of a lower-case hexadecimal digit. -/
def Bytes.hexOctet (d : Nat) : UInt8 := UInt8.ofNat (if d < 10 then 0x30 + d else 0x61 + (d - 10))

/-- The octets of the hexadecimal digits of bytes, two for each. -/
def Bytes.hexOctets (bytes : Bytes) : Bytes :=
  bytes.flatMap fun b => [hexOctet (b.toNat / 16), hexOctet (b.toNat % 16)]

theorem Bytes.octets_hex (bytes : Bytes) : bytes.hex.flatMap Utf8.octets = bytes.hexOctets := by
  have hall : ∀ n < 256,
      (Text.hex 2 n).flatMap Utf8.octets = [hexOctet (n / 16), hexOctet (n % 16)] := by
    decide +kernel
  rw [hex, hexOctets, List.flatMap_assoc]
  exact List.flatMap_congr fun b _ => hall b.toNat b.toNat_lt

theorem Bytes.length_hexOctets (bytes : Bytes) : bytes.hexOctets.length = 2 * bytes.length := by
  induction bytes with
  | nil => rfl
  | cons b rest ih =>
      show (hexOctets rest).length + 2 = 2 * (rest.length + 1)
      omega

/-! ## Host names -/

/-- How far a platform has been asked for anything random. -/
structure RandomUse where
  /-- The place of the next random byte. -/
  position : Nat
  /-- The calls for random bytes. -/
  calls : Nat
  /-- The random bytes that have been drawn. -/
  bytes : Nat
  /-- The random integers that have been drawn. -/
  integers : Nat

namespace Platform

variable {p : Platform} {reason : Text}

/-- How far the platform has been asked for anything random. -/
def randomUse (p : Platform) : RandomUse :=
  ⟨p.position, p.draws.byteStrings, p.draws.bytes, p.draws.integers⟩

/-- The platform has no host name, for a reason: the operating system refuses to tell it, or
it is empty. -/
def LacksName (p : Platform) (reason : Text) : Prop :=
  (∃ fault, p.hostName = .error fault ∧ fault.isSystemRefusal = true ∧ fault.message = reason) ∨
    p.hostName = .ok [] ∧ reason = "empty hostname"

theorem lack?_eq_some_iff : p.lack? = some reason ↔ p.LacksName reason := by
  unfold lack? LacksName
  cases p.hostName with
  | error fault =>
      dsimp only
      by_cases hrefusal : fault.isSystemRefusal = true <;> simp [hrefusal]
  | ok name =>
      cases name with
      | nil =>
          constructor
          · intro h
            exact Or.inr ⟨rfl, (Option.some.inj h).symm⟩
          · rintro (⟨fault, hname, -⟩ | ⟨-, rfl⟩)
            · cases hname
            · rfl
      | cons c rest =>
          constructor
          · intro h
            cases h
          · rintro (⟨fault, hname, -⟩ | ⟨hname, -⟩) <;> cases hname

end Platform

namespace Fingerprint

variable {p : Platform} {reason : Text}

/-- What keeps a platform from having a fingerprint. -/
inductive Obstacle (p : Platform) : Prop
  /-- Some failure other than a refusal by the operating system stands for the host name. -/
  | refusal (fault : Fault) (h : p.hostName = .error fault) (hfault : fault.isSystemRefusal = false)
  /-- The host name has no encoding. -/
  | hostName (name : Text) (h : p.hostName = .ok name) (hname : ¬name.Encodable)
  /-- A name or a value in the environment has no encoding. -/
  | setting (name value : Text) (h : Environment.value? name p.environment = some value)
      (hsetting : ¬(name.Encodable ∧ value.Encodable))

theorem computable_iff_not_obstacle : Computable p ↔ ¬Obstacle p := by
  rw [computable_iff, exists_host_iff, Environment.exists_serialize_iff]
  constructor
  · rintro ⟨hhost, hsettings⟩ hobstacle
    cases hobstacle with
    | refusal fault h hfault =>
        rw [h] at hhost
        dsimp only at hhost
        rw [hfault] at hhost
        cases hhost
    | hostName name h hname =>
        rw [h] at hhost
        dsimp only at hhost
        rw [Environment.exists_encode_iff] at hhost
        rcases hhost with rfl | hencodable
        · exact hname (by decide)
        · exact hname hencodable
    | setting name value h hsetting =>
        exact hsetting (hsettings (name, value) (Environment.mem_unique_iff.mpr h))
  · intro hnone
    constructor
    · cases h : p.hostName with
      | error fault =>
          dsimp only
          by_contra hfault
          exact hnone (.refusal fault h (by simpa using hfault))
      | ok name =>
          dsimp only
          rw [Environment.exists_encode_iff]
          by_contra hname
          exact hnone (.hostName name h fun hencodable => hname (Or.inr hencodable))
    · intro s hs
      by_contra hsetting
      exact hnone (.setting s.1 s.2 (Environment.mem_unique_iff.mp hs) hsetting)

/-- Where there is an obstacle, either the failure that stands for the host name is passed on,
or a text has no encoding. -/
theorem fault_of_obstacle {fault : Fault} (h : (compute p).answer = .error fault) :
    (p.hostName = .error fault ∧ fault.isSystemRefusal = false) ∨
      ∃ defect, fault = .unencodable defect := by
  by_cases hrefuses : p.RefusesOnlyAsSystem
  · exact Or.inr (unencodable_of_compute hrefuses h)
  · obtain ⟨refusal, hrefusal⟩ := not_forall.mp hrefuses
    obtain ⟨hname, hsystem⟩ := Classical.not_imp.mp hrefusal
    rw [answer_compute, hostText, hname] at h
    dsimp only at h
    rw [if_neg hsystem] at h
    obtain rfl := Except.error.inj h
    exact Or.inl ⟨hname, by simpa using hsystem⟩

theorem hostText_of_name {name : Text} (h : p.hostName = .ok name) (hne : name ≠ []) :
    hostText p = .ok name := by
  have hempty : name.isEmpty = false := by simpa using hne
  rw [hostText, h]
  dsimp only
  rw [hempty]
  rfl

theorem hostText_of_lacksName (h : p.LacksName reason) :
    hostText p = .ok (p.upcoming 8).hex := by
  rcases h with ⟨fault, hname, hrefusal, -⟩ | ⟨hname, -⟩
  · rw [hostText, hname]
    dsimp only
    rw [if_pos hrefusal]
    rfl
  · rw [hostText, hname]
    rfl

/-- The parts of a fingerprint. -/
theorem parts_of_compute {bytes : Bytes} (h : (compute p).answer = .ok bytes) :
    ∃ host word settings, bytes = host ++ word ++ settings ∧
      (∀ own, p.hostName = .ok own → own ≠ [] → host = own.flatMap Utf8.octets) ∧
      ((∃ reason, p.LacksName reason) → host = (p.upcoming 8).hexOctets ∧ host.length = 16) ∧
      word.length = 4 ∧ (Bytes.toNatLittle word : Int) = p.processId % 2 ^ 32 ∧
      Environment.serialize p.environment = .ok settings := by
  rw [answer_compute] at h
  obtain ⟨name, hname, hassemble⟩ := Except.bind_eq_ok_iff.mp h
  obtain ⟨host, hhost, hrest⟩ := Except.bind_eq_ok_iff.mp hassemble
  obtain ⟨settings, hsettings, hdone⟩ := Except.bind_eq_ok_iff.mp hrest
  have hencodable := Environment.exists_encode_iff.mp ⟨host, hhost⟩
  rw [Environment.encode_of_encodable hencodable] at hhost
  obtain rfl := Except.ok.inj hhost
  refine ⟨_, Bytes.pack32 p.processId, settings, (Except.ok.inj hdone).symm, ?_, ?_, by simp,
    Bytes.toNatLittle_packLittle 4 p.processId, hsettings⟩
  · intro own hown hne
    rw [hostText_of_name hown hne] at hname
    rw [Except.ok.inj hname]
  · rintro ⟨reason, hlacks⟩
    rw [hostText_of_lacksName hlacks] at hname
    rw [← Except.ok.inj hname, Bytes.octets_hex]
    exact ⟨rfl, by rw [Bytes.length_hexOctets, Platform.length_upcoming]⟩

/-! ## What is drawn and noted down -/

/-- A platform has its random bytes served for a name that is made up, and for nothing else. -/
theorem randomUse_compute (p : Platform) :
    (compute p).state.randomUse = (resolveHostName p).state.randomUse := by
  rcases (compute_after_name p).2 with hstate | hstate
  · rw [hstate]
  · rw [hstate]
    rfl

/-- A name that is made up takes eight random bytes in one piece, and its reason is noted
down. -/
theorem compute_of_lacksName (h : p.LacksName reason) :
    (compute p).entries = [⟨.warning, "hostname_lookup_failed", [("error", .text reason)]⟩] ∧
      (compute p).state.randomUse =
        ⟨p.position + 8, p.draws.byteStrings + 1, p.draws.bytes + 8, p.draws.integers⟩ := by
  have hlack := Platform.lack?_eq_some_iff.mpr h
  rw [entries_compute, Platform.lackEntries, hlack, randomUse_compute,
    resolveHostName_of_lack hlack]
  exact ⟨rfl, rfl⟩

/-- Any other platform draws nothing random, and nothing is noted down. -/
theorem compute_of_not_lacksName (h : ∀ reason, ¬p.LacksName reason) :
    (compute p).entries = [] ∧ (compute p).state.randomUse = p.randomUse := by
  have hnone : p.lack? = none := by
    rw [Option.eq_none_iff_forall_ne_some]
    exact fun reason hreason => h reason (Platform.lack?_eq_some_iff.mp hreason)
  rw [entries_compute, Platform.lackEntries, hnone, randomUse_compute,
    resolveHostName_of_no_lack hnone]
  exact ⟨rfl, rfl⟩

/-- **What a fingerprint is made of, and when there is one.**

Where there is an obstacle, computing a fingerprint fails: with the failure that stands for
the host name, or because a text has no encoding.  Where there is none, a fingerprint
comes out, of three parts: the octets of the host name, or of sixteen hexadecimal digits
made of the next eight random bytes if there is no name; the process id modulo `2 ^ 32` in
four bytes, the lowest first; and the serialised environment.

In either case eight random bytes are drawn at once and the reason is noted down, if there
is no host name, and nothing is drawn and nothing noted down if there is one. -/
theorem compute_layout (p : Platform) :
    (Obstacle p → ∃ fault, (compute p).answer = .error fault ∧
        (p.hostName = .error fault ∧ fault.isSystemRefusal = false ∨
          ∃ defect, fault = .unencodable defect)) ∧
      (¬Obstacle p → ∃ host word settings,
        (compute p).answer = .ok (host ++ word ++ settings) ∧
          (∀ own, p.hostName = .ok own → own ≠ [] → host = own.flatMap Utf8.octets) ∧
          ((∃ reason, p.LacksName reason) →
            host = (p.upcoming 8).hexOctets ∧ host.length = 16) ∧
          word.length = 4 ∧ (Bytes.toNatLittle word : Int) = p.processId % 2 ^ 32 ∧
          Environment.serialize p.environment = .ok settings) ∧
      (∀ reason, p.LacksName reason →
        (compute p).entries = [⟨.warning, "hostname_lookup_failed", [("error", .text reason)]⟩] ∧
          (compute p).state.randomUse =
            ⟨p.position + 8, p.draws.byteStrings + 1, p.draws.bytes + 8, p.draws.integers⟩) ∧
      ((∀ reason, ¬p.LacksName reason) →
        (compute p).entries = [] ∧ (compute p).state.randomUse = p.randomUse) := by
  refine ⟨?_, ?_, fun _ => compute_of_lacksName, compute_of_not_lacksName⟩
  · intro hobstacle
    cases hanswer : (compute p).answer with
    | ok bytes => exact absurd hobstacle (computable_iff_not_obstacle.mp ⟨bytes, hanswer⟩)
    | error fault => exact ⟨fault, rfl, fault_of_obstacle hanswer⟩
  · intro hnone
    obtain ⟨bytes, hanswer⟩ := computable_iff_not_obstacle.mpr hnone
    obtain ⟨host, word, settings, rfl, hparts⟩ := parts_of_compute hanswer
    exact ⟨host, word, settings, hanswer, hparts⟩

end Fingerprint

end IdMint
