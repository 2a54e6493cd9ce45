import IdMint.Journal.Sink
import IdMint.Settings.Load
import IdMint.Proofs.Answers
import IdMint.Proofs.Writing

/-!
# How single settings are settled

What becomes of each value that settings are made of.  A value is accepted under
a condition that says what is acceptable at its place (`…_eq_ok_iff`).  Where it is
not, the loading ends with a report on a problem, unless a fault escapes because the
value holds an integer that is too long to be shown in that report
(`Settings.Settled`).

Nothing escapes from the environment: an integer that can be read can be written
(`Decimal.isWritable_of_readInt`), and a text can be shown as it is.
-/

namespace IdMint

/-! ## Integers that have been read -/

namespace Decimal

theorem digitIn?_lt {base d : Nat} {c : CodePoint} (h : digitIn? base c = some d) : d < base := by
  have hd := (Option.filter_eq_some_iff.mp h).2
  simpa using hd

/-- A number is bounded by the number of its digits. -/
theorem readDigits_lt {base value count : Nat} (t : Text) (h : value < base ^ count) :
    (readDigits base value count t).1 < base ^ (readDigits base value count t).2.1 := by
  have hdigit : ∀ {value count d : Nat}, value < base ^ count → d < base →
      base * value + d < base ^ (count + 1) := by
    intro value count d hvalue hd
    calc base * value + d < base * value + base := by omega
      _ = base * (value + 1) := (Nat.mul_succ base value).symm
      _ ≤ base * base ^ count := Nat.mul_le_mul_left base hvalue
      _ = base ^ (count + 1) := Nat.pow_succ'.symm
  fun_induction readDigits base value count t with
  | case1 value count => exact h
  | case2 value count c d hd => exact hdigit h (digitIn?_lt hd)
  | case3 value count c hnone => exact h
  | case4 value count c next rest d hd ih => exact ih (hdigit h (digitIn?_lt hd))
  | case5 value count c next rest hnone hgroup d hd ih => exact ih (hdigit h (digitIn?_lt hd))
  | case6 value count c next rest hnone hgroup hd => exact h
  | case7 value count c next rest hnone hgroup => exact h

theorem natAbs_readSign (t : Text) : (readSign t).1.natAbs = 1 := by
  unfold readSign
  split
  · split
    · rfl
    · split <;> rfl
  · rfl

/-- An integer that can be read in base ten can be written. -/
theorem isWritable_of_readInt {t : Text} {n : Int} (h : readInt 10 t = .ok n) :
    isWritable n = true := by
  have hsign := natAbs_readSign (Text.trim t)
  rcases hread : readSign (Text.trim t) with ⟨sign, body⟩
  have hvalue : (readDigits 10 0 0 (skipMarker 10 body)).1 <
      10 ^ (readDigits 10 0 0 (skipMarker 10 body)).2.1 := readDigits_lt _ (by decide)
  rcases hdigits : readDigits 10 0 0 (skipMarker 10 body) with ⟨value, count, rest⟩
  rw [hread] at hsign
  rw [hdigits] at hvalue
  simp only [readInt, hread, hdigits] at h
  split at h
  · cases h
  · next hlimit =>
    split at h
    · cases h
    · have hcount : count ≤ digitLimit := by
        simpa [isLimited] using hlimit
      obtain rfl := Except.ok.inj h
      refine isWritable_of_natAbs_lt ?_ hcount
      rw [Int.natAbs_mul, hsign, Int.natAbs_natCast, Nat.one_mul]
      exact hvalue

end Decimal

namespace Settings

/-! ## Answers, problems and escapes -/

/-- A part of the loading ends with an answer or with a report on a problem, unless
one of some faults escapes from it. -/
structure Settled {α : Type} (escapes : Fault → Prop) (answer : Except Fault α) : Prop where
  eq_error : ∀ fault, escapes fault → answer = .error fault
  settled : (∀ fault, ¬escapes fault) →
    (∃ a, answer = .ok a) ∨ ∃ problem : Problem, answer = .error problem.fault

namespace Settled

variable {α β : Type} {escapes escapes' : Fault → Prop} {answer : Except Fault α}

theorem congr (h : Settled escapes answer) (heq : ∀ fault, escapes fault ↔ escapes' fault) :
    Settled escapes' answer :=
  ⟨fun fault hfault => h.eq_error fault ((heq fault).mpr hfault),
    fun hnone => h.settled fun fault hfault => hnone fault ((heq fault).mp hfault)⟩

theorem of_ok (a : α) : Settled (fun _ => False) (.ok a) :=
  ⟨fun _ h => h.elim, fun _ => Or.inl ⟨a, rfl⟩⟩

theorem of_problem (problem : Problem) :
    Settled (fun _ => False) (.error problem.fault : Except Fault α) :=
  ⟨fun _ h => h.elim, fun _ => Or.inr ⟨problem, rfl⟩⟩

theorem of_fault (fault : Fault) : Settled (· = fault) (.error fault : Except Fault α) :=
  ⟨fun _ h => by rw [h], fun h => absurd rfl (h fault)⟩

/-- What escapes from two parts of the loading, one after the other, escapes from the
first, or from the second if there is an answer to the first. -/
theorem bind {next : α → Except Fault β} {later : α → Fault → Prop} (h : Settled escapes answer)
    (hnext : ∀ a, answer = .ok a → Settled (later a) (next a)) :
    Settled (fun fault => escapes fault ∨ ∃ a, answer = .ok a ∧ later a fault)
      (answer >>= next) := by
  constructor
  · rintro fault (hfault | ⟨a, ha, hfault⟩)
    · rw [h.eq_error fault hfault]
      rfl
    · rw [ha]
      exact (hnext a ha).eq_error fault hfault
  · intro hnone
    rcases h.settled fun fault hfault => hnone fault (Or.inl hfault) with
      ⟨a, ha⟩ | ⟨problem, hproblem⟩
    · rw [ha]
      exact (hnext a ha).settled fun fault hfault => hnone fault (Or.inr ⟨a, ha, hfault⟩)
    · rw [hproblem]
      exact Or.inr ⟨problem, rfl⟩

/-- A problem is reported on unless the value that it shows cannot be written. -/
theorem of_shown {shown : Except Fault Text} {p : Prop} {problem : Text → Problem}
    (h : WrittenIf p shown) :
    Settled (fun fault => ¬p ∧ fault = .unwritable)
      (shown >>= fun t => (.error (problem t).fault : Except Fault α)) := by
  rcases h with ⟨hp, t, rfl⟩ | ⟨hp, rfl⟩
  · exact (of_problem (problem t)).congr fun _ => iff_of_false id fun h => h.1 hp
  · exact (of_fault .unwritable).congr fun _ => ⟨fun h => ⟨hp, h⟩, fun h => h.2⟩

end Settled

end Settings

/-! ## Single values -/

theorem Length.ofInt_eq_ok_iff {n : Int} {length : Length} :
    Length.ofInt n = .ok length ↔ n = length.val := by
  unfold Length.ofInt
  split
  · next h =>
    constructor
    · intro heq
      obtain rfl := Except.ok.inj heq
      have hpos : 0 ≤ n := Int.le_trans (by decide) h.1
      exact (Int.toNat_of_nonneg hpos).symm
    · rintro rfl
      rfl
  · next h =>
    refine iff_of_false (fun heq => by cases heq) ?_
    rintro rfl
    exact h ⟨by exact_mod_cast length.le_val, by exact_mod_cast length.val_le⟩

/-- An integer that is an acceptable length can be written. -/
theorem Length.isWritable_val (length : Length) : Decimal.isWritable length.val = true := by
  have hval : (length.val : Int).natAbs < 10 ^ 2 := by
    have hle := length.val_le
    simp only [maxLength] at hle
    omega
  exact Decimal.isWritable_of_natAbs_lt hval (by decide)

namespace Settings

theorem lengthOfInt_eq_ok_iff {place : Text} {n : Int} {length : Length} :
    lengthOfInt place n = .ok length ↔ n = length.val := by
  rw [← Length.ofInt_eq_ok_iff, lengthOfInt]
  split
  · next found hfound =>
    rw [hfound, Except.ok.injEq, Except.ok.injEq]
  · next hfound =>
    rw [hfound]
    refine iff_of_false (fun h => ?_) (fun h => by cases h)
    obtain ⟨shown, -, h⟩ := Except.bind_eq_ok_iff.mp h
    cases h

theorem settled_lengthOfInt (place : Text) (n : Int) :
    Settled (fun fault => ¬Decimal.isWritable n = true ∧ fault = .unwritable)
      (lengthOfInt place n) := by
  rw [lengthOfInt]
  split
  · next length hlength =>
    have hn := Length.ofInt_eq_ok_iff.mp hlength
    have hwritable : Decimal.isWritable n = true := by
      rw [hn]
      exact length.isWritable_val
    exact (Settled.of_ok length).congr fun _ => iff_of_false id fun h => h.1 hwritable
  · exact Settled.of_shown (Value.writtenIf_integer n)

theorem lengthOf_eq_ok_iff {place : Text} {v : Value} {length : Length} :
    lengthOf place v = .ok length ↔ v = .int length.val := by
  unfold lengthOf
  split
  · next n =>
    rw [lengthOfInt_eq_ok_iff, Value.int.injEq]
  · next hint =>
    refine iff_of_false (fun h => ?_) (hint _)
    obtain ⟨shown, -, h⟩ := Except.bind_eq_ok_iff.mp h
    cases h

theorem settled_lengthOf (place : Text) (v : Value) :
    Settled (fun fault => ¬v.Writable ∧ fault = .unwritable) (lengthOf place v) := by
  unfold lengthOf
  split
  · next n =>
    refine (settled_lengthOfInt place n).congr fun fault => ?_
    simp [Value.Writable, Value.isWritable]
  · exact Settled.of_shown (Value.writtenIf_literal _)

/-- The name of a severity is that of no other. -/
theorem find?_levels_eq_some_iff {name : Text} {level : Severity} :
    levels.find? (fun level => title level == name) = some level ↔ name = title level := by
  constructor
  · intro h
    have hname := List.find?_some h
    exact (beq_iff_eq.mp hname).symm
  · rintro rfl
    cases level <;> decide

/-- The name of a severity stands for its weight. -/
theorem standsFor_title (level : Severity) :
    Sink.standsFor (title level) = .ok (.int level.weight) := by
  cases level <;> rfl

/-- So under that name, a sink is configured with the weight. -/
theorem configureBy_title {σ : Type} (level : Severity) (sink : Sink σ) (json : Bool) (s : σ) :
    sink.configureBy (title level) json s = sink.configure (.int level.weight) json s := by
  rw [Sink.configureBy, standsFor_title]

theorem levelOf_eq_ok_iff {place : Text} {v : Value} {level : Severity} :
    levelOf place v = .ok level ↔ ∃ shown, v.display = .ok shown ∧ shown.upper = title level := by
  rw [levelOf, Except.bind_eq_ok_iff]
  refine exists_congr fun shown => and_congr_right fun _ => ?_
  rw [← find?_levels_eq_some_iff]
  split
  · next found hfound =>
    rw [hfound, Option.some.injEq]
    exact ⟨fun h => Except.ok.inj h, fun h => congrArg Except.ok h⟩
  · next hfound =>
    rw [hfound]
    exact iff_of_false (fun h => by cases h) (fun h => by cases h)

theorem settled_levelOf (place : Text) (v : Value) :
    Settled (fun fault => ¬v.Writable ∧ fault = .unwritable) (levelOf place v) := by
  rcases v.writtenIf_display with ⟨hv, shown, hshown⟩ | ⟨hv, hshown⟩
  · have hlevel : Settled (fun _ => False) (levelOf place v) := by
      rw [levelOf, hshown]
      dsimp only [bind, Except.bind]
      split
      · exact Settled.of_ok _
      · exact Settled.of_problem _
    exact hlevel.congr fun _ => iff_of_false id fun h => h.1 hv
  · rw [levelOf, hshown]
    exact (Settled.of_fault .unwritable).congr fun _ => ⟨fun h => ⟨hv, h⟩, fun h => h.2⟩

theorem lengthOfVariable_eq_ok_iff {value : Text} {length : Length} :
    lengthOfVariable value = .ok length ↔ Decimal.readInt 10 value = .ok (length.val : Int) := by
  unfold lengthOfVariable
  split
  · next n hn =>
    rw [hn, lengthOfInt_eq_ok_iff, Except.ok.injEq]
  · next hn =>
    rw [hn]
    exact iff_of_false (fun h => by cases h) (fun h => by cases h)

/-- A length from the environment is settled or reported on, whatever it is. -/
theorem settled_lengthOfVariable (value : Text) :
    Settled (fun _ => False) (lengthOfVariable value) := by
  unfold lengthOfVariable
  split
  · next n hn =>
    have hwritable := Decimal.isWritable_of_readInt hn
    exact (settled_lengthOfInt _ n).congr fun _ => iff_of_false (fun h => h.1 hwritable) id
  · exact Settled.of_problem _

theorem settled_levelOf_text (place t : Text) :
    Settled (fun _ => False) (levelOf place (.text t)) := by
  refine (settled_levelOf place (.text t)).congr fun _ => iff_of_false ?_ id
  rintro ⟨h, -⟩
  exact h (by simp [Value.Writable, Value.isWritable])

/-! ## Values that may be missing -/

section Optional

variable {α β : Type} {found : Option α} {read : α → Except Fault β} {standard b : β}

/-- What is read from a value, if there is one, and else what is standard. -/
def readOr (found : Option α) (read : α → Except Fault β) (standard : β) : Except Fault β :=
  match found with
  | some a => read a
  | none => .ok standard

theorem readOr_eq_ok_iff :
    readOr found read standard = .ok b ↔
      (∀ a, found = some a → read a = .ok b) ∧ (found = none → b = standard) := by
  cases found with
  | none =>
      rw [readOr, Except.ok.injEq]
      simp [eq_comm]
  | some a =>
      rw [readOr]
      simp

theorem readOr_bind {γ : Type} (next : β → Except Fault γ) :
    readOr found read standard >>= next =
      match found with
      | some a => read a >>= next
      | none => next standard := by
  cases found <;> rfl

theorem settled_readOr {escapes : α → Fault → Prop}
    (hread : ∀ a, found = some a → Settled (escapes a) (read a)) :
    Settled (fun fault => ∃ a, found = some a ∧ escapes a fault) (readOr found read standard) := by
  cases found with
  | none =>
      refine (Settled.of_ok standard).congr fun _ => iff_of_false id ?_
      rintro ⟨a, ha, -⟩
      cases ha
  | some a =>
      refine (hread a rfl).congr fun fault => ⟨fun h => ⟨a, rfl, h⟩, ?_⟩
      rintro ⟨c, hc, h⟩
      rwa [Option.some.inj hc]

end Optional

/-! ## What the environment overrides -/

/-- Settings are those of a base, but for what two variables of the environment
override. -/
structure Overrides (s : Surroundings) (base settings : Settings) : Prop where
  length : ∀ value, s.readVariable? lengthVariable = some value →
    Decimal.readInt 10 value = .ok (settings.length.val : Int)
  length_kept : s.readVariable? lengthVariable = none → settings.length = base.length
  level : ∀ value, s.readVariable? levelVariable = some value →
    value.upper = title settings.level
  level_kept : s.readVariable? levelVariable = none → settings.level = base.level
  version : settings.version = base.version
  json : settings.json = base.json
  path : settings.path = base.path

theorem override_eq (s : Surroundings) (base : Settings) :
    override s base =
      readOr (s.readVariable? lengthVariable) lengthOfVariable base.length >>= fun length =>
        readOr (s.readVariable? levelVariable) (fun v => levelOf levelVariable (.text v))
          base.level >>= fun level => .ok { base with length, level } := by
  unfold override
  cases s.readVariable? lengthVariable <;> cases s.readVariable? levelVariable <;> rfl

theorem override_eq_ok_iff {s : Surroundings} {base settings : Settings} :
    override s base = .ok settings ↔ Overrides s base settings := by
  have hlevel : ∀ {t : Text} {level : Severity},
      levelOf levelVariable (.text t) = .ok level ↔ t.upper = title level := by
    intro t level
    rw [levelOf_eq_ok_iff, Value.display]
    simp
  rw [override_eq, Except.bind_eq_ok_iff]
  constructor
  · rintro ⟨length, hlength, h⟩
    obtain ⟨level, hlevel', h⟩ := Except.bind_eq_ok_iff.mp h
    obtain ⟨hgiven, hkept⟩ := readOr_eq_ok_iff.mp hlength
    obtain ⟨hgiven', hkept'⟩ := readOr_eq_ok_iff.mp hlevel'
    obtain rfl := Except.ok.inj h
    exact
      { length := fun value hvalue => lengthOfVariable_eq_ok_iff.mp (hgiven value hvalue)
        length_kept := hkept
        level := fun value hvalue => hlevel.mp (hgiven' value hvalue)
        level_kept := hkept'
        version := rfl
        json := rfl
        path := rfl }
  · intro h
    refine ⟨settings.length, readOr_eq_ok_iff.mpr ⟨fun value hvalue =>
      lengthOfVariable_eq_ok_iff.mpr (h.length value hvalue), h.length_kept⟩, ?_⟩
    refine Except.bind_eq_ok_iff.mpr ⟨settings.level, readOr_eq_ok_iff.mpr
      ⟨fun value hvalue => hlevel.mpr (h.level value hvalue), h.level_kept⟩, ?_⟩
    obtain ⟨version, length, level, json, path⟩ := settings
    obtain rfl := h.version
    obtain rfl := h.json
    obtain rfl := h.path
    rfl

/-- The environment leads to settings or to a report, whatever is in it. -/
theorem settled_override (s : Surroundings) (base : Settings) :
    Settled (fun _ => False) (override s base) := by
  rw [override_eq]
  refine ((settled_readOr fun value _ => settled_lengthOfVariable value).bind fun length _ =>
    (settled_readOr fun value _ => settled_levelOf_text _ value).bind fun level _ =>
      .of_ok _).congr fun fault => ?_
  simp

end Settings

end IdMint
