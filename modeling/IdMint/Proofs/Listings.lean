import IdMint.Proofs.Variables

/-!
# In which order variables are written

The variables of an environment are written in the byte order of their encoded names.
Two different names can have the same octets, since a byte of a character may also stand
in a text by itself, as a surrogate; such variables are written in the order in which
their names come first.

`Environment.IsListing` says when a list of variables is such a listing.  Every
environment has one listing and no more than one (`Environment.isListing_ordered`,
`Environment.IsListing.unique`), and the octets of its members, one after another, are
what it is serialised to (`Environment.serialize_of_kept`).
-/

/-- A stable sort leaves those alone that it does not tell apart. -/
theorem List.filter_mergeSort {α : Type} {le : α → α → Bool} {same : α → Bool}
    (htrans : ∀ a b c, le a b = true → le b c = true → le a c = true)
    (htotal : ∀ a b, (le a b || le b a) = true)
    (hsame : ∀ a b, same a = true → same b = true → le a b = true) (l : List α) :
    (l.mergeSort le).filter same = l.filter same := by
  have hsorted : (l.filter same).Pairwise fun a b => le a b = true :=
    List.pairwise_filter.mpr (List.pairwise_of_forall fun a b => hsame a b)
  have hsublist := (List.sublist_mergeSort htrans htotal hsorted List.filter_sublist).filter same
  rw [List.filter_filter] at hsublist
  simp only [Bool.and_self] at hsublist
  exact (hsublist.eq_of_length ((List.mergeSort_perm l le).filter same).length_eq.symm).symm

namespace IdMint

/-- Byte order is the lexicographic order of byte strings. -/
theorem Bytes.le_iff {s t : Bytes} : Bytes.le s t = true ↔ s ≤ t := by
  induction s generalizing t with
  | nil => simp [Bytes.le]
  | cons a s ih =>
      cases t with
      | nil => simp [Bytes.le]
      | cons b t =>
          rw [Bytes.le, List.cons_le_cons_iff]
          by_cases hlt : a < b
          · simp [hlt]
          · by_cases hgt : b < a
            · have hne : a ≠ b := fun heq => UInt8.ne_of_lt hgt heq.symm
              simp [hlt, hgt, hne]
            · have heq : a = b := UInt8.le_antisymm (UInt8.not_lt.mp hgt) (UInt8.not_lt.mp hlt)
              simp [heq, ih]

namespace Environment

variable {pairs settings others : List (Text × Text)}

/-- The octets of a variable's name. -/
def nameOctets (setting : Text × Text) : Bytes := setting.1.flatMap Utf8.octets

/-- A list of the variables that an environment holds: each name once, with the value that
is held under it, in the byte order of the encoded names; names with the same octets stand
in the order in which they come first. -/
structure IsListing (pairs settings : List (Text × Text)) : Prop where
  nodup : (settings.map Prod.fst).Nodup
  mem_iff : ∀ name value, (name, value) ∈ settings ↔ value? name pairs = some value
  sorted : settings.Pairwise fun a b => nameOctets a ≤ nameOctets b
  stable : settings.Pairwise fun a b =>
    nameOctets a = nameOctets b → place pairs a.1 < place pairs b.1

theorem isListing_iff :
    IsListing pairs settings ↔
      settings.Perm (unique pairs) ∧
        (settings.Pairwise fun a b => nameOctets a ≤ nameOctets b) ∧
        settings.Pairwise fun a b =>
          nameOctets a = nameOctets b → place pairs a.1 < place pairs b.1 := by
  constructor
  · intro h
    refine ⟨?_, h.sorted, h.stable⟩
    rw [List.perm_ext_iff_of_nodup (.of_map _ h.nodup) (nodup_unique pairs)]
    exact fun s => (h.mem_iff s.1 s.2).trans mem_unique_iff.symm
  · rintro ⟨hperm, hsorted, hstable⟩
    refine ⟨(hperm.map Prod.fst).nodup_iff.mpr (nodup_names pairs), ?_, hsorted, hstable⟩
    intro name value
    rw [hperm.mem_iff, mem_unique_iff]

instance (pairs settings : List (Text × Text)) : Decidable (IsListing pairs settings) :=
  decidable_of_iff' _ isListing_iff

/-! ## Every environment has a listing -/

/-- Variables are sorted by the octets of their names. -/
theorem ordered_eq (pairs : List (Text × Text)) :
    ordered pairs = (unique pairs).mergeSort fun a b => Bytes.le (nameOctets a) (nameOctets b) := by
  have hforget : ((unique pairs).map keyed).map (·.2) = unique pairs := by
    rw [List.map_map]
    exact List.map_id _
  rw [ordered, List.map_mergeSort (s := fun a b => Bytes.le (nameOctets a) (nameOctets b)), hforget]
  intro a ha b hb
  obtain ⟨s, -, rfl⟩ := List.mem_map.mp ha
  obtain ⟨t, -, rfl⟩ := List.mem_map.mp hb
  rfl

theorem le_trans (a b c : Text × Text) (hab : Bytes.le (nameOctets a) (nameOctets b) = true)
    (hbc : Bytes.le (nameOctets b) (nameOctets c) = true) :
    Bytes.le (nameOctets a) (nameOctets c) = true :=
  Bytes.le_iff.mpr (List.le_trans (Bytes.le_iff.mp hab) (Bytes.le_iff.mp hbc))

theorem le_total (a b : Text × Text) :
    (Bytes.le (nameOctets a) (nameOctets b) || Bytes.le (nameOctets b) (nameOctets a)) = true := by
  rw [Bool.or_eq_true, Bytes.le_iff, Bytes.le_iff]
  exact List.le_total _ _

theorem perm_ordered (pairs : List (Text × Text)) : (ordered pairs).Perm (unique pairs) := by
  rw [ordered_eq]
  exact List.mergeSort_perm _ _

/-- Variables whose names have the same octets keep their order. -/
theorem filter_ordered (pairs : List (Text × Text)) (key : Bytes) :
    ((ordered pairs).filter fun s => nameOctets s = key) =
      (unique pairs).filter fun s => nameOctets s = key := by
  rw [ordered_eq]
  refine List.filter_mergeSort le_trans le_total (fun a b ha hb => ?_) _
  rw [of_decide_eq_true ha, of_decide_eq_true hb]
  exact Bytes.le_iff.mpr (List.le_refl _)

theorem isListing_ordered (pairs : List (Text × Text)) : IsListing pairs (ordered pairs) := by
  refine isListing_iff.mpr ⟨perm_ordered pairs, ?_, ?_⟩
  · rw [ordered_eq]
    exact (List.pairwise_mergeSort le_trans le_total _).imp Bytes.le_iff.mp
  · refine List.pairwise_iff_forall_sublist.mpr fun {a b} hsublist hkey => ?_
    -- both stay when only the variables with these octets are kept, and there the order
    -- is that of the environment
    have hkept := hsublist.filter fun s => nameOctets s = nameOctets b
    rw [filter_ordered] at hkept
    simp only [hkey, List.filter_cons, decide_true, if_true, List.filter_nil] at hkept
    exact List.pairwise_iff_forall_sublist.mp (pairwise_place_unique pairs)
      (hkept.trans List.filter_sublist)

/-- An environment has no more than one listing. -/
theorem IsListing.unique (h : IsListing pairs settings) (h' : IsListing pairs others) :
    settings = others := by
  have hperm : settings.Perm others := (isListing_iff.mp h).1.trans (isListing_iff.mp h').1.symm
  refine List.Perm.eq_of_pairwise ?_ (h.sorted.and h.stable) (h'.sorted.and h'.stable) hperm
  rintro a b - - ⟨hab, hplace⟩ ⟨hba, hplace'⟩
  have hkey := List.le_antisymm hab hba
  exact absurd (hplace' hkey.symm) (Nat.lt_asymm (hplace hkey))

/-! ## What an environment is serialised to -/

/-- An environment is serialised to the octets of its listing. -/
theorem serialize_of_isListing (hlisting : IsListing pairs settings)
    (h : ∀ s ∈ settings, s.1.Encodable ∧ s.2.Encodable) :
    serialize pairs = .ok (settings.flatMap octets) := by
  obtain rfl := hlisting.unique (isListing_ordered pairs)
  exact serialize_of_unique fun s hs => h s ((perm_ordered pairs).mem_iff.mpr hs)

/-- Only the list of variables counts. -/
theorem serialize_congr (h : unique pairs = unique others) :
    serialize pairs = serialize others := by
  rw [serialize, serialize, h]

/-- **Nothing is lost, and nothing comes twice.**

If every name that is given and every value that is held have encodings, an environment is
serialised to the octets of `name=value` for the members of its listing, one after another
and with nothing in between.  The list of variables, each name with the value that is held
under it, is serialised to the same octets as the pairs that it was made of.  A value that
is given under a name and replaced later could be any other, also one without an encoding. -/
theorem serialize_of_kept (hnames : ∀ s ∈ pairs, s.1.Encodable)
    (hvalues : ∀ name value, value? name pairs = some value → value.Encodable) :
    (∃ settings, IsListing pairs settings ∧
        serialize pairs = .ok (settings.flatMap octets) ∧
        ∀ others, IsListing pairs others → others = settings) ∧
      serialize (unique pairs) = serialize pairs ∧
      ∀ before name value after, pairs = before ++ (name, value) :: after →
        name ∈ after.map Prod.fst →
        ∀ value', serialize (before ++ (name, value') :: after) = serialize pairs := by
  have hlisting := isListing_ordered pairs
  refine ⟨⟨ordered pairs, hlisting, ?_, fun _ h => h.unique hlisting⟩,
    serialize_congr (unique_unique pairs), ?_⟩
  · refine serialize_of_isListing hlisting fun s hs => ?_
    have hvalue := (hlisting.mem_iff s.1 s.2).mp hs
    have hgiven := (value?_isSome_iff s.1 pairs).mp (by rw [hvalue]; rfl)
    obtain ⟨t, ht, hname⟩ := List.mem_map.mp hgiven
    exact ⟨hname ▸ hnames t ht, hvalues s.1 s.2 hvalue⟩
  · rintro before name value after rfl hlater value'
    exact serialize_congr (unique_overwritten value' value hlater)

/-- Five pairs make four variables.  The first value has no encoding, but it is replaced;
the two names with the octets `C3 A9` keep their order. -/
theorem serialize_of_kept_namesakes :
    let pairs : List (Text × Text) :=
      [("B", [0xD800]), ("\u00e9", "1"), ([0xDCC3, 0xDCA9], "2"), ("A", "\u00e9"), ("B", "3")]
    (∀ s ∈ pairs, s.1.Encodable) ∧
      (∀ name value, value? name pairs = some value → value.Encodable) ∧
      serialize pairs =
        .ok [0x41, 0x3D, 0xC3, 0xA9, 0x42, 0x3D, 0x33, 0xC3, 0xA9, 0x3D, 0x31, 0xC3, 0xA9, 0x3D,
          0x32] := by
  intro pairs
  have hnames : ∀ s ∈ pairs, s.1.Encodable := by decide +kernel
  have hkept : ∀ s ∈ unique pairs, s.2.Encodable := by decide +kernel
  have hvalues : ∀ name value, value? name pairs = some value → value.Encodable :=
    fun name value h => hkept (name, value) (mem_unique_iff.mpr h)
  obtain ⟨⟨settings, -, hserialize, honly⟩, -⟩ := serialize_of_kept hnames hvalues
  have hlisting : IsListing pairs
      [("A", "\u00e9"), ("B", "3"), ("\u00e9", "1"), ([0xDCC3, 0xDCA9], "2")] := by decide +kernel
  refine ⟨hnames, hvalues, ?_⟩
  rw [hserialize, ← honly _ hlisting]
  decide +kernel

end Environment

end IdMint
