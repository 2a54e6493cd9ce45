import IdMint.Proofs.Encodings
import Mathlib.Data.List.Induction
import Mathlib.Data.List.Nodup

/-!
# What an environment holds

An environment holds one value under each of its names, the last one that is given
(`Environment.value?`).  The list of variables that a serialisation starts from says
the same in another way: each name stands there once, in the order in which the names
come first, and with the value that is held under it (`Environment.mem_unique_iff`,
`Environment.pairwise_place_unique`).  These two facts leave no choice, so that the
list is a function of the names and of what is held (`Environment.unique_congr`).
-/

namespace IdMint.Environment

variable {pairs others : List (Text × Text)}

/-- The value under a name: the last one that is given. -/
def value? (name : Text) (pairs : List (Text × Text)) : Option Text := pairs.reverse.lookup name

/-- The place where a name comes first. -/
def place (pairs : List (Text × Text)) (name : Text) : Nat := (pairs.map Prod.fst).idxOf name

/-- Two environments hold the same values under the same names. -/
def SameVariables (pairs others : List (Text × Text)) : Prop :=
  ∀ name, value? name pairs = value? name others

theorem value?_concat (name : Text) (pairs : List (Text × Text)) (s : Text × Text) :
    value? name (pairs ++ [s]) = if name = s.1 then some s.2 else value? name pairs := by
  rw [value?, List.reverse_append, List.reverse_singleton, List.singleton_append,
    List.lookup_cons]
  by_cases hname : name = s.1
  · rw [if_pos hname, beq_iff_eq.mpr hname]
  · rw [if_neg hname, beq_eq_false_iff_ne.mpr hname]
    rfl

/-- A value is held under exactly the names that are given. -/
theorem value?_isSome_iff (name : Text) (pairs : List (Text × Text)) :
    (value? name pairs).isSome = true ↔ name ∈ pairs.map Prod.fst := by
  induction pairs using List.reverseRecOn with
  | nil => simp [value?]
  | append_singleton pairs s ih =>
      rw [value?_concat, List.map_append, List.mem_append, ← ih]
      by_cases hname : name = s.1 <;> simp [hname]

/-! ## Putting variables in -/

theorem unique_concat (pairs : List (Text × Text)) (s : Text × Text) :
    unique (pairs ++ [s]) = insert s.1 s.2 (unique pairs) :=
  List.foldl_concat ..

/-- A name that is there already keeps its place. -/
theorem map_fst_insert {name : Text} (value : Text) {env : List (Text × Text)}
    (h : name ∈ env.map Prod.fst) : (insert name value env).map Prod.fst = env.map Prod.fst := by
  induction env with
  | nil => cases h
  | cons head rest ih =>
      rw [insert]
      by_cases hname : head.1 = name
      · rw [if_pos hname, List.map_cons, List.map_cons, hname]
      · rw [List.map_cons, List.mem_cons, or_iff_right fun heq => hname heq.symm] at h
        rw [if_neg hname, List.map_cons, List.map_cons, ih h]

/-- A new name comes last. -/
theorem insert_of_not_mem {name : Text} (value : Text) {env : List (Text × Text)}
    (h : name ∉ env.map Prod.fst) : insert name value env = env ++ [(name, value)] := by
  induction env with
  | nil => rfl
  | cons head rest ih =>
      rw [List.map_cons, List.mem_cons, not_or] at h
      rw [insert, if_neg fun heq => h.1 heq.symm, ih h.2]
      rfl

/-- Putting a variable in changes the value under its name and no other. -/
theorem mem_insert_iff {name value : Text} {env : List (Text × Text)} {s : Text × Text}
    (hnodup : (env.map Prod.fst).Nodup) :
    s ∈ insert name value env ↔ if s.1 = name then s.2 = value else s ∈ env := by
  induction env with
  | nil =>
      rw [insert, List.mem_singleton, Prod.ext_iff]
      by_cases hname : s.1 = name <;> simp [hname]
  | cons head rest ih =>
      obtain ⟨hhead, hrest⟩ := List.nodup_cons.mp hnodup
      rw [insert]
      by_cases hname : head.1 = name
      · rw [if_pos hname, List.mem_cons, hname, Prod.ext_iff]
        by_cases hs : s.1 = name
        · -- the name stands nowhere else, so that nothing of the rest counts
          have hout : s ∉ rest := by
            intro hmem
            rw [hname, ← hs] at hhead
            exact hhead (List.mem_map_of_mem hmem)
          simp [hs, hout]
        · have hne : s ≠ head := by
            rintro rfl
            exact hs hname
          simp [hs, hne]
      · rw [if_neg hname, List.mem_cons, ih hrest]
        by_cases hs : s.1 = name
        · have hne : s ≠ head := by
            rintro rfl
            exact hname hs
          simp [hs, hne]
        · simp [hs]

/-! ## The list of variables -/

theorem mem_names_unique_iff {name : Text} :
    name ∈ (unique pairs).map Prod.fst ↔ name ∈ pairs.map Prod.fst := by
  induction pairs using List.reverseRecOn with
  | nil => exact Iff.rfl
  | append_singleton pairs s ih =>
      rw [unique_concat, List.map_append, List.mem_append, ← ih]
      by_cases hs : s.1 ∈ (unique pairs).map Prod.fst
      · rw [map_fst_insert s.2 hs, List.map_singleton, List.mem_singleton]
        constructor
        · exact Or.inl
        · rintro (h | rfl)
          · exact h
          · exact hs
      · rw [insert_of_not_mem s.2 hs, List.map_append, List.mem_append]

/-- The names stand in the order in which they come first. -/
theorem pairwise_place_names (pairs : List (Text × Text)) :
    ((unique pairs).map Prod.fst).Pairwise fun a b => place pairs a < place pairs b := by
  induction pairs using List.reverseRecOn with
  | nil => exact List.Pairwise.nil
  | append_singleton pairs s ih =>
      have hplace : ∀ name ∈ (unique pairs).map Prod.fst,
          place (pairs ++ [s]) name = place pairs name := by
        intro name hname
        rw [place, List.map_append, List.idxOf_append_of_mem (mem_names_unique_iff.mp hname)]
        rfl
      have hkept : ((unique pairs).map Prod.fst).Pairwise fun a b =>
          place (pairs ++ [s]) a < place (pairs ++ [s]) b := by
        refine ih.imp_of_mem fun ha hb hab => ?_
        rwa [hplace _ ha, hplace _ hb]
      rw [unique_concat]
      by_cases hs : s.1 ∈ (unique pairs).map Prod.fst
      · rw [map_fst_insert s.2 hs]
        exact hkept
      · rw [insert_of_not_mem s.2 hs, List.map_append]
        refine List.pairwise_append.mpr ⟨hkept, List.pairwise_singleton _ _, ?_⟩
        intro name hname last hlast
        obtain rfl := List.mem_singleton.mp hlast
        have hout : s.1 ∉ pairs.map Prod.fst := fun h => hs (mem_names_unique_iff.mpr h)
        rw [hplace name hname, place, place, List.map_append, List.idxOf_append_of_notMem hout]
        have hlt := List.idxOf_lt_length_of_mem (mem_names_unique_iff.mp hname)
        omega

theorem pairwise_place_unique (pairs : List (Text × Text)) :
    (unique pairs).Pairwise fun a b => place pairs a.1 < place pairs b.1 :=
  (List.pairwise_map (R := fun a b => place pairs a < place pairs b)).mp
    (pairwise_place_names pairs)

theorem nodup_names (pairs : List (Text × Text)) : ((unique pairs).map Prod.fst).Nodup := by
  refine (pairwise_place_names pairs).imp fun hlt heq => ?_
  rw [heq] at hlt
  exact Nat.lt_irrefl _ hlt

theorem nodup_unique (pairs : List (Text × Text)) : (unique pairs).Nodup :=
  List.Nodup.of_map _ (nodup_names pairs)

/-- Each name stands there with the value that is held under it. -/
theorem mem_unique_iff {s : Text × Text} : s ∈ unique pairs ↔ value? s.1 pairs = some s.2 := by
  induction pairs using List.reverseRecOn with
  | nil => simp [unique, value?]
  | append_singleton pairs last ih =>
      rw [unique_concat, mem_insert_iff (nodup_names pairs), ih, value?_concat]
      by_cases hname : s.1 = last.1
      · rw [if_pos hname, if_pos hname, Option.some.injEq, eq_comm]
      · rw [if_neg hname, if_neg hname]

/-- The same variables in any order are the same values under the same names. -/
theorem perm_unique_iff : (unique pairs).Perm (unique others) ↔ SameVariables pairs others := by
  rw [List.perm_ext_iff_of_nodup (nodup_unique pairs) (nodup_unique others)]
  constructor
  · intro h name
    apply Option.ext
    intro value
    rw [← mem_unique_iff (s := (name, value)), h, mem_unique_iff]
  · intro h s
    rw [mem_unique_iff, mem_unique_iff, h s.1]

instance (pairs others : List (Text × Text)) : Decidable (SameVariables pairs others) :=
  decidable_of_iff _ perm_unique_iff

/-- The list of variables depends on the names that are given, in their order, and on the
values that are held, and on nothing else. -/
theorem unique_congr (hnames : pairs.map Prod.fst = others.map Prod.fst)
    (hvalues : SameVariables pairs others) : unique pairs = unique others := by
  have hplace : place others = place pairs := by
    funext name
    rw [place, place, hnames]
  have hothers := pairwise_place_unique others
  rw [hplace] at hothers
  exact List.Perm.eq_of_pairwise (fun a b _ _ hab hba => absurd hba (Nat.lt_asymm hab))
    (pairwise_place_unique pairs) hothers (perm_unique_iff.mpr hvalues)

/-- Where every name comes once, every variable is kept. -/
theorem unique_of_nodup (h : (pairs.map Prod.fst).Nodup) : unique pairs = pairs := by
  induction pairs using List.reverseRecOn with
  | nil => rfl
  | append_singleton pairs s ih =>
      rw [List.map_append, List.map_singleton, List.nodup_append] at h
      obtain ⟨hrest, -, hapart⟩ := h
      have hnew : s.1 ∉ pairs.map Prod.fst :=
        fun hmem => hapart s.1 hmem s.1 List.mem_cons_self rfl
      rw [unique_concat, ih hrest, insert_of_not_mem s.2 hnew]

theorem unique_unique (pairs : List (Text × Text)) : unique (unique pairs) = unique pairs :=
  unique_of_nodup (nodup_names pairs)

theorem value?_append (name : Text) (earlier later : List (Text × Text)) :
    value? name (earlier ++ later) = (value? name later).or (value? name earlier) := by
  rw [value?, List.reverse_append, List.lookup_append]
  rfl

/-- What is given later under the same name stands for what is given before. -/
theorem unique_overwritten {name : Text} {before after : List (Text × Text)} (value value' : Text)
    (h : name ∈ after.map Prod.fst) :
    unique (before ++ (name, value) :: after) = unique (before ++ (name, value') :: after) := by
  refine unique_congr (by simp) fun sought => ?_
  rw [← List.singleton_append, ← List.singleton_append (x := (name, value')), value?_append,
    value?_append, value?_append, value?_append]
  congr 1
  by_cases hsought : sought = name
  · obtain ⟨last, hlast⟩ := Option.isSome_iff_exists.mp ((value?_isSome_iff name after).mpr h)
    rw [hsought, hlast]
    rfl
  · have hout : ∀ v, value? sought [(name, v)] = none := by
      intro v
      rw [← List.nil_append [(name, v)], value?_concat, if_neg hsought]
      rfl
    rw [hout, hout]

end IdMint.Environment
