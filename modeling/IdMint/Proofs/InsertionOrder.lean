import IdMint.Proofs.Fingerprints
import IdMint.Proofs.Listings

/-!
# How far the order of the variables matters

Two environments that hold the same values under the same names can have been put
together in different orders.  Both are serialised or neither is, and the octets are the
same except for one thing: variables whose names differ but have the same octets are
written in the order in which they came.  `Environment.serialize_of_sameVariables` says
exactly when two environments come out the same, and carries that over to the fingerprints
of two hosts; `Environment.serialize_of_namesakes` shows two environments that do not.

No two names made of characters have the same octets
(`Environment.namesApart_of_characters`); it takes a surrogate that stands for a byte.
-/

/-! ## Sorted lists, a key at a time -/

namespace List

variable {α : Type} {key f : α → List UInt8} {l l' : List α}

/-- A sorted list starts with those of the least key. -/
theorem filter_append_filter_of_least {k : List UInt8} (hleast : ∀ a ∈ l, k ≤ key a)
    (hsorted : l.Pairwise fun a b => key a ≤ key b) :
    (l.filter fun a => key a = k) ++ (l.filter fun a => key a ≠ k) = l := by
  induction l with
  | nil => rfl
  | cons a rest ih =>
      obtain ⟨hfirst, hrest⟩ := List.pairwise_cons.mp hsorted
      by_cases ha : key a = k
      · have hsplit := ih (fun b hb => hleast b (List.mem_cons_of_mem a hb)) hrest
        simp only [List.filter_cons, ha, decide_true, if_true, ne_eq, not_true_eq_false,
          decide_false, Bool.false_eq_true, if_false, List.cons_append]
        exact congrArg (a :: ·) hsplit
      · have hnone : ∀ b ∈ a :: rest, key b ≠ k := by
          intro b hb hk
          rcases List.mem_cons.mp hb with rfl | hb
          · exact ha hk
          · have hab := hfirst b hb
            rw [hk] at hab
            exact ha (List.le_antisymm hab (hleast a List.mem_cons_self))
        rw [List.filter_eq_nil_iff.mpr (by simpa using hnone),
          List.filter_eq_self.mpr (by simpa using hnone)]
        rfl

theorem filter_ne_filter_eq (l : List α) (k k' : List UInt8) :
    ((l.filter fun a => key a ≠ k).filter fun a => key a = k') =
      if k' = k then [] else l.filter fun a => key a = k' := by
  rw [List.filter_filter]
  by_cases hk : k' = k
  · rw [if_pos hk, hk, List.filter_eq_nil_iff]
    simp
  · rw [if_neg hk]
    refine List.filter_congr fun a _ => ?_
    by_cases ha : key a = k' <;> simp [ha, hk]

/-- Two sorted lists with the same members are written to the same bytes exactly if they are
so for each key. -/
theorem flatMap_eq_iff_of_sorted (hperm : l.Perm l')
    (hl : l.Pairwise fun a b => key a ≤ key b) (hl' : l'.Pairwise fun a b => key a ≤ key b) :
    l.flatMap f = l'.flatMap f ↔
      ∀ k, (l.filter fun a => key a = k).flatMap f = (l'.filter fun a => key a = k).flatMap f := by
  -- by the number of members: those of the least key come first in both lists
  induction hn : l.length using Nat.strong_induction_on generalizing l l' with
  | _ n ih =>
      cases l with
      | nil =>
          obtain rfl := hperm.nil_eq
          simp
      | cons a rest =>
          have hleast : ∀ b ∈ a :: rest, key a ≤ key b := by
            intro b hb
            rcases List.mem_cons.mp hb with rfl | hb
            · exact List.le_refl _
            · exact List.rel_of_pairwise_cons hl hb
          have hsplit := filter_append_filter_of_least hleast hl
          have hsplit' := filter_append_filter_of_least
            (fun b hb => hleast b (hperm.mem_iff.mpr hb)) hl'
          have hfewer : ((a :: rest).filter fun b => key b ≠ key a).length < n := by
            rw [← hn, List.length_filter_lt_length_iff_exists]
            exact ⟨a, List.mem_cons_self, by simp⟩
          have hrest := ih _ hfewer (hperm.filter fun b => key b ≠ key a)
            (hl.filter _) (hl'.filter _) rfl
          have hlength := ((hperm.filter fun b => key b = key a).flatMap_right f).length_eq
          -- the least key decides on the first parts, which are equally long, and the other
          -- keys on what follows
          conv_lhs => rw [← hsplit, ← hsplit', List.flatMap_append, List.flatMap_append]
          constructor
          · intro heq k
            obtain ⟨hfirst, hlast⟩ := List.append_inj heq hlength
            by_cases hk : k = key a
            · rw [hk]
              exact hfirst
            · have hrestk := hrest.mp hlast k
              rwa [filter_ne_filter_eq, filter_ne_filter_eq, if_neg hk, if_neg hk] at hrestk
          · intro heq
            rw [heq (key a)]
            refine congrArg _ (hrest.mpr fun k => ?_)
            rw [filter_ne_filter_eq, filter_ne_filter_eq]
            split
            · rfl
            · exact heq k

end List

namespace IdMint

/-- The code point is a character, and no surrogate. -/
def CodePoint.IsCharacter (c : CodePoint) : Prop := ¬c.isSurrogate = true

instance (c : CodePoint) : Decidable c.IsCharacter := by
  unfold CodePoint.IsCharacter
  infer_instance

/-- A text of characters. -/
def Text.OfCharacters (t : Text) : Prop := ∀ c ∈ t, c.IsCharacter

instance (t : Text) : Decidable t.OfCharacters := List.decidableBAll CodePoint.IsCharacter t

/-- Two computations both fail, or both give bytes, which are the same exactly if a
condition is met. -/
def AgreeIff (x y : Except Fault Bytes) (condition : Prop) : Prop :=
  (∃ fault fault', x = .error fault ∧ y = .error fault') ∨
    ∃ bytes bytes', x = .ok bytes ∧ y = .ok bytes' ∧ (bytes = bytes' ↔ condition)

/-- The same bytes in front of both make no difference. -/
theorem AgreeIff.prepend {x y : Except Fault Bytes} {condition : Prop}
    (h : AgreeIff x y condition) (front : Bytes) :
    AgreeIff (x.map (front ++ ·)) (y.map (front ++ ·)) condition := by
  rcases h with ⟨fault, fault', rfl, rfl⟩ | ⟨bytes, bytes', rfl, rfl, hiff⟩
  · exact Or.inl ⟨fault, fault', rfl, rfl⟩
  · exact Or.inr ⟨_, _, rfl, rfl, (List.append_right_inj front).trans hiff⟩

/-! ## Names of characters -/

theorem CodePoint.IsCharacter.exists_ofChar {c : CodePoint} (h : c.IsCharacter) :
    ∃ x, CodePoint.ofChar x = c := by
  have hvalid : c.val.isValidChar := by
    have hlt := c.isLt
    simp only [IsCharacter, isSurrogate, Bool.and_eq_true, decide_eq_true_eq] at h
    simp only [Nat.isValidChar]
    omega
  exact ⟨Char.ofNatAux c.val hvalid, rfl⟩

theorem Text.OfCharacters.exists_map {t : Text} (h : t.OfCharacters) :
    ∃ characters : List Char, characters.map CodePoint.ofChar = t := by
  induction t with
  | nil => exact ⟨[], rfl⟩
  | cons c rest ih =>
      obtain ⟨x, rfl⟩ := (h c List.mem_cons_self).exists_ofChar
      obtain ⟨characters, rfl⟩ := ih fun d hd => h d (List.mem_cons_of_mem _ hd)
      exact ⟨x :: characters, rfl⟩

theorem Utf8.octets_map_ofChar (characters : List Char) :
    (characters.map CodePoint.ofChar).flatMap octets =
      characters.flatMap String.utf8EncodeChar := by
  rw [List.flatMap_map]
  exact List.flatMap_congr fun x _ => octets_ofChar x

/-- Texts of characters are told apart by their octets. -/
theorem Text.OfCharacters.eq_of_octets {s t : Text} (hs : s.OfCharacters) (ht : t.OfCharacters)
    (h : s.flatMap Utf8.octets = t.flatMap Utf8.octets) : s = t := by
  obtain ⟨characters, rfl⟩ := hs.exists_map
  obtain ⟨others, rfl⟩ := ht.exists_map
  rw [Utf8.octets_map_ofChar, Utf8.octets_map_ofChar, ← List.toByteArray_inj] at h
  have hstring : String.ofList characters = String.ofList others := by
    rw [← String.toByteArray_inj, String.toByteArray_ofList, String.toByteArray_ofList]
    exact h
  rw [String.ofList_inj.mp hstring]

namespace Environment

variable {pairs others : List (Text × Text)}

/-- No two names have the same octets. -/
def NamesApart (pairs : List (Text × Text)) : Prop :=
  ∀ name ∈ pairs.map Prod.fst, ∀ other ∈ pairs.map Prod.fst,
    name.flatMap Utf8.octets = other.flatMap Utf8.octets → name = other

/-- The octets of the variables whose names have the given octets, in the order in which
these names come first. -/
def namesakes (key : Bytes) (pairs : List (Text × Text)) : Bytes :=
  ((unique pairs).filter fun s => nameOctets s = key).flatMap octets

/-- For all octets of names, two environments have the same to write. -/
def SameNamesakes (pairs others : List (Text × Text)) : Prop :=
  ∀ key, namesakes key pairs = namesakes key others

theorem namesApart_of_characters (h : ∀ name ∈ pairs.map Prod.fst, name.OfCharacters) :
    NamesApart pairs :=
  fun name hname other hother => (h name hname).eq_of_octets (h other hother)

/-- Where no two names have the same octets, there is one variable to write, or none. -/
theorem NamesApart.sameNamesakes (hapart : NamesApart pairs) (h : SameVariables pairs others) :
    SameNamesakes pairs others := by
  intro key
  have hunique := perm_unique_iff.mpr h
  have hsame : ∀ s ∈ unique pairs, ∀ t ∈ unique pairs, nameOctets s = nameOctets t → s = t := by
    intro s hs t ht hoctets
    have hnames : s.1 = t.1 :=
      hapart s.1 (mem_names_unique_iff.mp (List.mem_map_of_mem hs)) t.1
        (mem_names_unique_iff.mp (List.mem_map_of_mem ht)) hoctets
    rw [mem_unique_iff] at hs ht
    rw [hnames, ht] at hs
    exact Prod.ext hnames (Option.some.inj hs).symm
  have hany : ∀ l : List (Text × Text), l.Pairwise fun _ _ => True :=
    fun l => List.pairwise_of_forall fun _ _ => trivial
  refine congrArg (List.flatMap octets) (List.Perm.eq_of_pairwise ?_ (hany _) (hany _)
    (hunique.filter fun s => nameOctets s = key))
  intro s t hs ht _ _
  rw [List.mem_filter, decide_eq_true_eq] at hs ht
  exact hsame s hs.1 t (hunique.mem_iff.mpr ht.1) (hs.2.trans ht.2.symm)

/-! ## Environments -/

/-- Whether an environment is serialised depends on what it holds alone. -/
theorem exists_serialize_congr (h : SameVariables pairs others) :
    (∃ bytes, serialize pairs = .ok bytes) ↔ ∃ bytes, serialize others = .ok bytes := by
  rw [exists_serialize_iff, exists_serialize_iff]
  simp only [(perm_unique_iff.mpr h).mem_iff]

/-- In both orders the same octets of names come one after the other. -/
theorem flatMap_ordered_eq_iff (h : SameVariables pairs others) :
    (ordered pairs).flatMap octets = (ordered others).flatMap octets ↔
      SameNamesakes pairs others := by
  have hperm := (perm_ordered pairs).trans
    ((perm_unique_iff.mpr h).trans (perm_ordered others).symm)
  rw [List.flatMap_eq_iff_of_sorted hperm (isListing_ordered pairs).sorted
    (isListing_ordered others).sorted]
  simp only [filter_ordered]
  rfl

/-- Two environments that hold the same are both serialised or both not. -/
theorem agreeIff_serialize (h : SameVariables pairs others) :
    AgreeIff (serialize pairs) (serialize others) (SameNamesakes pairs others) := by
  have hcongr := exists_serialize_congr h
  cases hfirst : serialize pairs with
  | error fault =>
      cases hsecond : serialize others with
      | error fault' => exact Or.inl ⟨fault, fault', rfl, rfl⟩
      | ok bytes =>
          obtain ⟨bytes', hbytes'⟩ := hcongr.mpr ⟨bytes, hsecond⟩
          rw [hfirst] at hbytes'
          cases hbytes'
  | ok bytes =>
      have hkept := exists_serialize_iff.mp ⟨bytes, hfirst⟩
      have hkept' := exists_serialize_iff.mp (hcongr.mp ⟨bytes, hfirst⟩)
      refine Or.inr ⟨bytes, _, rfl, serialize_of_unique hkept', ?_⟩
      rw [← flatMap_ordered_eq_iff h]
      rw [serialize_of_unique hkept] at hfirst
      rw [Except.ok.inj hfirst]

end Environment

/-! ## Fingerprints -/

namespace Fingerprint

/-- The bytes of a fingerprint, once the host name has its octets. -/
theorem assemble_of_encode {name : Text} {host : Bytes} (p : Platform)
    (hhost : Environment.encode name = .ok host) :
    assemble p name =
      (Environment.serialize p.environment).map fun settings =>
        host ++ Bytes.pack32 p.processId ++ settings := by
  rw [assemble, hhost]
  cases Environment.serialize p.environment <;> rfl

/-- Two hosts of one name and one process id, whose environments hold the same, both have
fingerprints or both have none. -/
theorem agreeIff_compute {p q : Platform} (hname : hostText p = hostText q)
    (hprocess : p.processId = q.processId)
    (h : Environment.SameVariables p.environment q.environment) :
    AgreeIff (compute p).answer (compute q).answer
      (Environment.SameNamesakes p.environment q.environment) := by
  rw [answer_compute, answer_compute, hname]
  cases hostText q with
  | error fault => exact Or.inl ⟨fault, fault, rfl, rfl⟩
  | ok name =>
      show AgreeIff (assemble p name) (assemble q name) _
      cases hhost : Environment.encode name with
      | error fault =>
          refine Or.inl ⟨fault, fault, ?_, ?_⟩
          · rw [assemble, hhost]
            rfl
          · rw [assemble, hhost]
            rfl
      | ok host =>
          rw [assemble_of_encode p hhost, assemble_of_encode q hhost, hprocess]
          exact (Environment.agreeIff_serialize h).prepend _

end Fingerprint

namespace Environment

variable {pairs others : List (Text × Text)}

/-- **What an environment holds, and in which order it came.**

Two environments that hold the same values under the same names are both serialised, or
neither is, for want of an encoding; and they come out the same exactly if, for all octets
of names, they have the same to write in the order in which these names come first.  That is
so if no two names have the same octets, as where names are made of characters.  The same
goes for the fingerprints of two hosts that have such environments, one name, be it told or
made up, and one process id. -/
theorem serialize_of_sameVariables (h : SameVariables pairs others) :
    AgreeIff (serialize pairs) (serialize others) (SameNamesakes pairs others) ∧
      (∀ fault, serialize pairs = .error fault ∨ serialize others = .error fault →
        ∃ defect, fault = .unencodable defect) ∧
      (NamesApart pairs → SameNamesakes pairs others) ∧
      ((∀ name ∈ pairs.map Prod.fst, name.OfCharacters) → NamesApart pairs) ∧
      ∀ p q : Platform, p.environment = pairs → q.environment = others →
        Fingerprint.hostText p = Fingerprint.hostText q → p.processId = q.processId →
        AgreeIff (Fingerprint.compute p).answer (Fingerprint.compute q).answer
          (SameNamesakes pairs others) := by
  refine ⟨agreeIff_serialize h, ?_, fun hapart => hapart.sameNamesakes h,
    namesApart_of_characters, ?_⟩
  · rintro fault (hfault | hfault)
    · exact unencodable_of_serialize hfault
    · exact unencodable_of_serialize hfault
  · rintro p q rfl rfl hname hprocess
    exact Fingerprint.agreeIff_compute hname hprocess h

/-- Three pairs hold what two pairs in another order hold, under names of characters, and they
are serialised to the same octets. -/
theorem serialize_of_sameVariables_replaced :
    let pairs : List (Text × Text) := [("\u00e9", [0xD800]), ("A", [0xDCFF]), ("\u00e9", "1")]
    let others : List (Text × Text) := [("A", [0xDCFF]), ("\u00e9", "1")]
    SameVariables pairs others ∧
      ∃ bytes, serialize pairs = .ok bytes ∧ serialize others = .ok bytes := by
  intro pairs others
  have hsame : SameVariables pairs others := by decide +kernel
  obtain ⟨hagree, -, hsufficient, hcharacters, -⟩ := serialize_of_sameVariables hsame
  have hnames : ∀ name ∈ pairs.map Prod.fst, name.OfCharacters := by decide +kernel
  refine ⟨hsame, ?_⟩
  rcases hagree with ⟨fault, -, hfault, -⟩ | ⟨bytes, bytes', hbytes, hbytes', hiff⟩
  · have hkept : ∀ s ∈ unique pairs, s.1.Encodable ∧ s.2.Encodable := by decide +kernel
    obtain ⟨bytes, hbytes⟩ := exists_serialize_iff.mpr hkept
    rw [hbytes] at hfault
    cases hfault
  · obtain rfl := hiff.mpr (hsufficient (hcharacters hnames))
    exact ⟨bytes, hbytes, hbytes'⟩

/-- Two environments that hold the same and are not serialised to the same octets: the names
`U+00EE` and `U+DCC3 U+DCAE` are both written `C3 AE`.  Nor do two hosts with these
environments have the same fingerprint. -/
theorem serialize_of_namesakes :
    let pairs : List (Text × Text) := [("\u00ee", "1"), ([0xDCC3, 0xDCAE], "2")]
    let others : List (Text × Text) := [([0xDCC3, 0xDCAE], "2"), ("\u00ee", "1")]
    let host (environment : List (Text × Text)) : Platform :=
      { (default : Platform) with hostName := .ok "host", environment }
    SameVariables pairs others ∧
      serialize pairs = .ok [0xC3, 0xAE, 0x3D, 0x31, 0xC3, 0xAE, 0x3D, 0x32] ∧
      serialize others = .ok [0xC3, 0xAE, 0x3D, 0x32, 0xC3, 0xAE, 0x3D, 0x31] ∧
      ∃ f f', (Fingerprint.compute (host pairs)).answer = .ok f ∧
        (Fingerprint.compute (host others)).answer = .ok f' ∧ f ≠ f' := by
  intro pairs others host
  -- each of them is its own listing
  have hlisting : IsListing pairs pairs ∧ IsListing others others := by decide +kernel
  have hpairs : serialize pairs = .ok [0xC3, 0xAE, 0x3D, 0x31, 0xC3, 0xAE, 0x3D, 0x32] :=
    serialize_of_isListing hlisting.1 (by decide +kernel)
  have hothers : serialize others = .ok [0xC3, 0xAE, 0x3D, 0x32, 0xC3, 0xAE, 0x3D, 0x31] :=
    serialize_of_isListing hlisting.2 (by decide +kernel)
  have hencodes : encode ("host" : Text) = .ok (("host" : Text).flatMap Utf8.octets) :=
    encode_of_encodable (by decide +kernel)
  have hprint : ∀ environment settings, serialize environment = .ok settings →
      (Fingerprint.compute (host environment)).answer =
        .ok (("host" : Text).flatMap Utf8.octets ++ Bytes.pack32 0 ++ settings) := by
    intro environment settings hsettings
    rw [Fingerprint.compute_of_name (p := host environment) rfl (by decide) hencodes hsettings]
    rfl
  refine ⟨by decide +kernel, hpairs, hothers, _, _, hprint _ _ hpairs, hprint _ _ hothers, ?_⟩
  rw [ne_eq, List.append_right_inj]
  decide

end Environment

end IdMint
