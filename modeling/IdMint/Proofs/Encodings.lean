import IdMint.Environment
import IdMint.Proofs.Answers

/-!
# Texts that have an encoding

A text has an encoding exactly if each of its surrogates stands for a byte, and
its octets are then those of its code points, one after another.  The same goes
for environments: the serialisation succeeds exactly if every name and every
value that is kept has an encoding, and it is made of the octets of the variables
in the byte order of their names.
-/

namespace IdMint

/-- The code point is no surrogate, or one that stands for a byte. -/
def CodePoint.IsEncodable (c : CodePoint) : Prop :=
  c.isSurrogate = true → c.isEscapedByte = true

/-- Every surrogate in the text stands for a byte. -/
def Text.Encodable (t : Text) : Prop := ∀ c ∈ t, c.IsEncodable

instance (c : CodePoint) : Decidable c.IsEncodable := by
  unfold CodePoint.IsEncodable
  infer_instance

-- by way of the members of the text; the instance for all of a `Fin` would go through every
-- code point
instance (t : Text) : Decidable t.Encodable := List.decidableBAll CodePoint.IsEncodable t

/-- The octets of a code point, be it a character or a surrogate that stands for
a byte. -/
def Utf8.octets (c : CodePoint) : Bytes :=
  if c.isEscapedByte then [UInt8.ofNat (c.val - 0xDC00)] else encodeCodePoint c

/-! ## Texts -/

theorem CodePoint.isEncodable_ofChar (x : Char) : (CodePoint.ofChar x).IsEncodable := by
  intro hsurrogate
  have hvalid := x.valid
  simp only [UInt32.isValidChar, Nat.isValidChar] at hvalid
  have hval : (ofChar x).val = x.val.toNat := rfl
  simp only [isSurrogate, Bool.and_eq_true, decide_eq_true_eq] at hsurrogate
  omega

theorem CodePoint.isEscapedByte_ofChar (x : Char) : ¬(ofChar x).isEscapedByte = true := by
  intro h
  have hvalid := x.valid
  have hval : (ofChar x).val = x.val.toNat := rfl
  simp only [UInt32.isValidChar, Nat.isValidChar] at hvalid
  simp only [isEscapedByte, Bool.and_eq_true, decide_eq_true_eq] at h
  omega

/-- The octets of a character are those that the standard library gives it. -/
theorem Utf8.octets_ofChar (x : Char) :
    octets (CodePoint.ofChar x) = String.utf8EncodeChar x := by
  have hlt : x.val.toNat < 0x110000 := (CodePoint.ofChar x).isLt
  have hval : (CodePoint.ofChar x).val = x.val.toNat := rfl
  rw [octets, if_neg (CodePoint.isEscapedByte_ofChar x), encodeCodePoint, String.utf8EncodeChar]
  simp only [hval, Nat.reducePow, Nat.pow_eq, Nat.div_one, ← Nat.lt_succ_iff, Nat.reduceSucc,
    Nat.add_comm _ (_ % _), Nat.add_comm _ (_ / _)]
  generalize x.val.toNat = n at hlt
  by_cases hone : n < 128
  · rw [if_pos hone, if_pos hone]
  rw [if_neg hone, if_neg hone]
  by_cases htwo : n < 2048
  · rw [if_pos htwo, if_pos htwo, Nat.mod_eq_of_lt (by omega : n / 64 < 32)]
  rw [if_neg htwo, if_neg htwo]
  by_cases hthree : n < 65536
  · rw [if_pos hthree, if_pos hthree, Nat.mod_eq_of_lt (by omega : n / 4096 < 16)]
  rw [if_neg hthree, if_neg hthree, Nat.mod_eq_of_lt (by omega : n / 262144 < 8)]

namespace Text

theorem Encodable.append {s t : Text} (hs : s.Encodable) (ht : t.Encodable) :
    Text.Encodable (s ++ t) := by
  intro c hc
  rcases List.mem_append.mp hc with hc | hc
  · exact hs c hc
  · exact ht c hc

theorem Encodable.cons {c : CodePoint} {t : Text} (hc : c.IsEncodable)
    (ht : t.Encodable) : Text.Encodable (c :: t) := by
  intro d hd
  rcases List.mem_cons.mp hd with rfl | hd
  · exact hc
  · exact ht d hd

theorem encodable_map_ofChar (characters : List Char) :
    Text.Encodable (characters.map CodePoint.ofChar) := by
  intro c hc
  obtain ⟨x, -, rfl⟩ := List.mem_map.mp hc
  exact CodePoint.isEncodable_ofChar x

theorem encodable_hex (width n : Nat) : (hex width n).Encodable := by
  refine Encodable.append ?_ (encodable_map_ofChar _)
  intro c hc
  obtain rfl := List.eq_of_mem_replicate hc
  exact CodePoint.isEncodable_ofChar '0'

end Text

theorem Bytes.encodable_hex (bytes : Bytes) : bytes.hex.Encodable := by
  intro c hc
  obtain ⟨b, -, hb⟩ := List.mem_flatMap.mp hc
  exact Text.encodable_hex 2 b.toNat c hb

theorem Utf8.encodeFrom_of_encodable (position : Nat) {t : Text} (h : t.Encodable) :
    encodeFrom position t = .ok (t.flatMap octets) := by
  induction t generalizing position with
  | nil => rfl
  | cons c rest ih =>
      have hrest := ih (position + 1) fun d hd => h d (List.mem_cons_of_mem c hd)
      have hc := h c List.mem_cons_self
      rw [encodeFrom, hrest, List.flatMap_cons, octets]
      by_cases hescaped : c.isEscapedByte = true
      · rw [if_pos hescaped, if_pos hescaped]
        rfl
      · have hplain : ¬c.isSurrogate = true := fun hsurrogate => hescaped (hc hsurrogate)
        rw [if_neg hescaped, if_neg hescaped, if_neg hplain]
        rfl

/-- Only texts whose surrogates all stand for bytes have an encoding. -/
theorem Utf8.encodable_of_encodeFrom {position : Nat} {t : Text} {bytes : Bytes}
    (h : encodeFrom position t = .ok bytes) : t.Encodable := by
  induction t generalizing position bytes with
  | nil =>
      intro c hc
      cases hc
  | cons c rest ih =>
      rw [encodeFrom] at h
      by_cases hescaped : c.isEscapedByte = true
      · rw [if_pos hescaped] at h
        obtain ⟨more, hmore, -⟩ := Except.map_eq_ok_iff.mp h
        exact (ih hmore).cons fun _ => hescaped
      · rw [if_neg hescaped] at h
        by_cases hsurrogate : c.isSurrogate = true
        · rw [if_pos hsurrogate] at h
          cases h
        · rw [if_neg hsurrogate] at h
          obtain ⟨more, hmore, -⟩ := Except.map_eq_ok_iff.mp h
          exact (ih hmore).cons fun hc => absurd hc hsurrogate

/-! ## Environments -/

namespace Environment

theorem encode_of_encodable {t : Text} (h : t.Encodable) :
    encode t = .ok (t.flatMap Utf8.octets) := by
  rw [encode, Utf8.encode, Utf8.encodeFrom_of_encodable 0 h]
  rfl

/-- Which texts have an encoding. -/
theorem exists_encode_iff {t : Text} : (∃ bytes, encode t = .ok bytes) ↔ t.Encodable := by
  constructor
  · rintro ⟨bytes, hbytes⟩
    exact Utf8.encodable_of_encodeFrom (Except.mapError_eq_ok_iff.mp hbytes)
  · intro h
    exact ⟨_, encode_of_encodable h⟩

/-- Whatever keeps a text from being encoded is a surrogate in it. -/
theorem unencodable_of_encode {t : Text} {fault : Fault} (h : encode t = .error fault) :
    ∃ defect, fault = .unencodable defect := by
  obtain ⟨defect, -, hdefect⟩ := Except.mapError_eq_error_iff.mp h
  exact ⟨defect, hdefect.symm⟩

/-- What is said of all names and all values goes on being said when a variable
is put in. -/
theorem forall_insert {P : Text → Prop} {name value : Text} {env : List (Text × Text)}
    (hname : P name) (hvalue : P value) (henv : ∀ s ∈ env, P s.1 ∧ P s.2) :
    ∀ s ∈ insert name value env, P s.1 ∧ P s.2 := by
  induction env with
  | nil =>
      intro s hs
      obtain rfl := List.mem_singleton.mp hs
      exact ⟨hname, hvalue⟩
  | cons head rest ih =>
      have hhead := henv head List.mem_cons_self
      have hrest : ∀ s ∈ rest, P s.1 ∧ P s.2 :=
        fun s hs => henv s (List.mem_cons_of_mem head hs)
      intro s hs
      rw [insert] at hs
      split at hs
      · rcases List.mem_cons.mp hs with rfl | hs
        · exact ⟨hhead.1, hvalue⟩
        · exact hrest s hs
      · rcases List.mem_cons.mp hs with rfl | hs
        · exact hhead
        · exact ih hrest s hs

theorem forall_unique {P : Text → Prop} {pairs : List (Text × Text)}
    (h : ∀ s ∈ pairs, P s.1 ∧ P s.2) : ∀ s ∈ unique pairs, P s.1 ∧ P s.2 := by
  have hfold : ∀ env : List (Text × Text), (∀ s ∈ env, P s.1 ∧ P s.2) →
      ∀ s ∈ pairs.foldl (fun env pair => insert pair.1 pair.2 env) env,
        P s.1 ∧ P s.2 := by
    induction pairs with
    | nil => exact fun env henv => henv
    | cons head rest ih =>
        intro env henv
        have hhead := h head List.mem_cons_self
        exact ih (fun s hs => h s (List.mem_cons_of_mem head hs)) _
          (forall_insert hhead.1 hhead.2 henv)
  exact hfold [] (by simp)

/-- Computations that all succeed succeed one after another. -/
theorem mapM_of_forall_ok {α β ε : Type} {f : α → Except ε β} {g : α → β} {l : List α}
    (h : ∀ a ∈ l, f a = .ok (g a)) : l.mapM f = .ok (l.map g) := by
  induction l with
  | nil => rfl
  | cons a rest ih =>
      rw [List.mapM_cons, h a List.mem_cons_self,
        ih fun b hb => h b (List.mem_cons_of_mem a hb)]
      rfl

/-- A variable together with the octets of its name. -/
def keyed (setting : Text × Text) : Bytes × Text × Text :=
  (setting.1.flatMap Utf8.octets, setting)

/-- The octets of a variable. -/
def octets (setting : Text × Text) : Bytes :=
  (setting.1 ++ CodePoint.ofChar '=' :: setting.2).flatMap Utf8.octets

/-- Each variable once, in the byte order of their names. -/
def ordered (pairs : List (Text × Text)) : List (Text × Text) :=
  (((unique pairs).map keyed).mergeSort fun a b => Bytes.le a.1 b.1).map (·.2)

theorem entry_of_encodable {name value : Text} (hname : name.Encodable)
    (hvalue : value.Encodable) :
    entry name value = .ok (octets (name, value)) :=
  encode_of_encodable (hname.append (hvalue.cons (CodePoint.isEncodable_ofChar '=')))

theorem mapM_withKey {settings : List (Text × Text)}
    (h : ∀ s ∈ settings, s.1.Encodable) :
    settings.mapM withKey = .ok (settings.map keyed) := by
  apply mapM_of_forall_ok
  intro s hs
  rw [withKey, encode_of_encodable (h s hs)]
  rfl

/-- All names are encoded first, and then the variables in the order of the
encoded names. -/
theorem serialize_eq (pairs : List (Text × Text)) :
    serialize pairs =
      (unique pairs).mapM withKey >>= fun settings =>
        ((settings.mergeSort fun a b => Bytes.le a.1 b.1).mapM fun e =>
          entry e.2.1 e.2.2).map List.flatten := by
  rw [serialize]
  cases (unique pairs).mapM withKey with
  | error fault => rfl
  | ok settings =>
      show (List.mapM (fun e : Bytes × Text × Text => entry e.2.1 e.2.2) _ >>= fun entries =>
        Except.ok entries.flatten) = Except.map _ _
      cases List.mapM (fun e : Bytes × Text × Text => entry e.2.1 e.2.2) _ <;> rfl

/-- If every name and every value that is kept has an encoding, the environment
is serialised. -/
theorem serialize_of_unique {pairs : List (Text × Text)}
    (h : ∀ s ∈ unique pairs, s.1.Encodable ∧ s.2.Encodable) :
    serialize pairs = .ok ((ordered pairs).flatMap octets) := by
  have hentries :
      ∀ l : List (Bytes × Text × Text), (∀ e ∈ l, e ∈ (unique pairs).map keyed) →
      (l.mapM fun e => entry e.2.1 e.2.2) = .ok (l.map fun e => octets e.2) := by
    intro l hl
    apply mapM_of_forall_ok
    intro e he
    obtain ⟨s, hs, rfl⟩ := List.mem_map.mp (hl e he)
    exact entry_of_encodable (h s hs).1 (h s hs).2
  rw [serialize_eq, mapM_withKey fun s hs => (h s hs).1]
  show Except.map _ (List.mapM _ _) = _
  rw [hentries _ fun e he => List.mem_mergeSort.mp he, ordered, List.flatMap_map]
  rfl

theorem serialize_of_encodable {pairs : List (Text × Text)}
    (h : ∀ s ∈ pairs, s.1.Encodable ∧ s.2.Encodable) :
    serialize pairs = .ok ((ordered pairs).flatMap octets) :=
  serialize_of_unique (forall_unique h)

theorem serialize_nil : serialize [] = .ok [] := by
  rw [serialize_of_encodable (by simp), ordered]
  simp [unique]

/-- Which environments are serialised.  A value that a later one replaces does
not matter. -/
theorem exists_serialize_iff {pairs : List (Text × Text)} :
    (∃ bytes, serialize pairs = .ok bytes) ↔
      ∀ s ∈ unique pairs, s.1.Encodable ∧ s.2.Encodable := by
  constructor
  · rintro ⟨bytes, hbytes⟩
    rw [serialize_eq] at hbytes
    obtain ⟨settings, hsettings, hbytes⟩ := Except.bind_eq_ok_iff.mp hbytes
    have hnames : ∀ s ∈ unique pairs, s.1.Encodable := by
      intro s hs
      obtain ⟨e, he⟩ := Except.exists_mapM_eq_ok_iff.mp ⟨settings, hsettings⟩ s hs
      obtain ⟨name, hname, -⟩ := Except.map_eq_ok_iff.mp he
      exact exists_encode_iff.mp ⟨name, hname⟩
    rw [mapM_withKey hnames] at hsettings
    rw [← Except.ok.inj hsettings] at hbytes
    obtain ⟨entries, hentries, -⟩ := Except.map_eq_ok_iff.mp hbytes
    intro s hs
    have hmem : keyed s ∈ ((unique pairs).map keyed).mergeSort fun a b => Bytes.le a.1 b.1 :=
      List.mem_mergeSort.mpr (List.mem_map_of_mem hs)
    have hentry :=
      exists_encode_iff.mp (Except.exists_mapM_eq_ok_iff.mp ⟨entries, hentries⟩ _ hmem)
    refine ⟨hnames s hs, ?_⟩
    intro c hc
    exact hentry c (List.mem_append_right _ (List.mem_cons_of_mem _ hc))
  · intro h
    exact ⟨_, serialize_of_unique h⟩

/-- Whatever keeps an environment from being serialised is a surrogate in it. -/
theorem unencodable_of_serialize {pairs : List (Text × Text)} {fault : Fault}
    (h : serialize pairs = .error fault) : ∃ defect, fault = .unencodable defect := by
  rw [serialize_eq] at h
  rcases Except.bind_eq_error_iff.mp h with hkeys | ⟨settings, -, h⟩
  · obtain ⟨s, -, hs⟩ := Except.exists_of_mapM_eq_error hkeys
    exact unencodable_of_encode (Except.map_eq_error_iff.mp hs)
  · obtain ⟨e, -, he⟩ := Except.exists_of_mapM_eq_error (Except.map_eq_error_iff.mp h)
    exact unencodable_of_encode he

end Environment

end IdMint
