import IdMint.Proofs.Settling

/-!
# What documents give

A document in a file gives settings if it is a dictionary with a version that is
understood, and if its two parts give a length and a severity, be it for want of
others (`Settings.Gives`).  Whatever else it is, the loading ends with a report on a
problem, unless a fault escapes from one of a few places (`Settings.Escape`).
-/

namespace IdMint

/-! ## Parts -/

namespace Value

/-- The value under a text key.  What is no dictionary has no entries. -/
def value? (v : Value) (key : Text) : Option Value :=
  match v with
  | .dict entries => lookUp? key entries
  | _ => none

/-- The value under a text key, or null. -/
def under (v : Value) (key : Text) : Value := (v.value? key).getD .null

/-- The value can be a part of a document: it is a dictionary, or it counts as
false. -/
def IsPart (v : Value) : Prop := (∃ entries, v = .dict entries) ∨ v.isTrue = false

instance (v : Value) : Decidable v.IsPart :=
  match v with
  | dict entries => .isTrue (Or.inl ⟨entries, rfl⟩)
  | null | bool _ | int _ | float _ | text _ | bytes _ | date _ | timestamp _ | list _
  | pair _ _ | set _ | object _ _ _ | recurrence _ =>
    decidable_of_iff (isTrue _ = false)
      ⟨Or.inr, fun h => h.resolve_left fun ⟨_, hdict⟩ => by cases hdict⟩

/-- What stands under a key of a value can be written if the value can. -/
theorem Writable.value? {v found : Value} {key : Text} (h : v.Writable)
    (hfound : v.value? key = some found) : found.Writable := by
  cases v with
  | dict entries =>
      obtain ⟨⟨k, found'⟩, hfind, rfl⟩ := Option.map_eq_some_iff.mp hfound
      rw [Writable, isWritable] at h
      exact isWritable_of_mem_entries h (List.mem_of_find?_eq_some hfind)
  | _ => cases hfound

theorem Writable.under {v : Value} (h : v.Writable) (key : Text) : (v.under key).Writable := by
  unfold Value.under
  cases hfound : v.value? key with
  | none => simp [Writable, isWritable]
  | some found => exact h.value? hfound

/-- A part that counts as false is as good as an empty one. -/
theorem get?_orEmpty_of_isPart {v : Value} (h : v.IsPart) (key : Text) :
    v.orEmpty.get? key = .ok (v.value? key) := by
  rcases h with ⟨entries, rfl⟩ | hfalse
  · cases entries with
    | nil => rfl
    | cons entry rest => rfl
  · rw [orEmpty, hfalse]
    cases v with
    | dict entries =>
        cases entries with
        | nil => rfl
        | cons entry rest => cases hfalse
    | _ => rfl

theorem get?_orEmpty_of_not_isPart {v : Value} (h : ¬v.IsPart) (key : Text) :
    v.orEmpty.get? key = .error (.noEntries v.typeName) := by
  have htrue : v.isTrue = true := eq_true_of_ne_false fun hfalse => h (Or.inr hfalse)
  rw [orEmpty, if_pos htrue]
  cases v with
  | dict entries => exact absurd (Or.inl ⟨entries, rfl⟩) h
  | _ => rfl

theorem isPart_of_get?_orEmpty {v : Value} {key : Text} {found : Option Value}
    (h : v.orEmpty.get? key = .ok found) : v.IsPart := by
  by_cases hpart : v.IsPart
  · exact hpart
  · rw [get?_orEmpty_of_not_isPart hpart] at h
    cases h

end Value

namespace Settings

theorem settled_get?_orEmpty (v : Value) (key : Text) :
    Settled (fun fault => ¬v.IsPart ∧ fault = .noEntries v.typeName) (v.orEmpty.get? key) := by
  by_cases h : v.IsPart
  · rw [Value.get?_orEmpty_of_isPart h]
    exact (Settled.of_ok _).congr fun _ => iff_of_false id fun hnot => hnot.1 h
  · rw [Value.get?_orEmpty_of_not_isPart h]
    exact (Settled.of_fault _).congr fun _ => ⟨fun hfault => ⟨h, hfault⟩, fun hnot => hnot.2⟩

/-- A document gives a length, if only for want of another one. -/
structure GivesLength (document : Value) (length : Length) : Prop where
  isPart : (document.under "generator").IsPart
  given : ∀ v, (document.under "generator").value? "default_length" = some v →
    v = .int length.val
  standard : (document.under "generator").value? "default_length" = none → length.val = 24

/-- A document gives a severity, if only for want of another one. -/
structure GivesLevel (document : Value) (level : Severity) : Prop where
  isPart : (document.under "logging").IsPart
  given : ∀ v, (document.under "logging").value? "level" = some v →
    ∃ shown, v.display = .ok shown ∧ shown.upper = title level
  standard : (document.under "logging").value? "level" = none → level = .warning

/-- The length that a document gives. -/
def lengthIn (source : Text) (document : Value) : Except Fault Length :=
  (document.under "generator").orEmpty.get? "default_length" >>= fun found =>
    readOr found (lengthOf (Text.concat [source, ": generator.default_length"])) standard.length

/-- The severity that a document gives. -/
def levelIn (source : Text) (document : Value) : Except Fault Severity :=
  (document.under "logging").orEmpty.get? "level" >>= fun found =>
    readOr found (levelOf (Text.concat [source, ": logging.level"])) standard.level

theorem lengthIn_eq_ok_iff {source : Text} {document : Value} {length : Length} :
    lengthIn source document = .ok length ↔ GivesLength document length := by
  have hstandard : length = standard.length ↔ length.val = 24 := by
    obtain ⟨val, le_val, val_le⟩ := length
    simp [standard, standardLength, defaultLength]
  rw [lengthIn, Except.bind_eq_ok_iff]
  constructor
  · rintro ⟨found, hfound, h⟩
    have hpart := Value.isPart_of_get?_orEmpty hfound
    rw [Value.get?_orEmpty_of_isPart hpart] at hfound
    obtain rfl := Except.ok.inj hfound
    obtain ⟨hgiven, hnone⟩ := readOr_eq_ok_iff.mp h
    exact ⟨hpart, fun v hv => lengthOf_eq_ok_iff.mp (hgiven v hv),
      fun hv => hstandard.mp (hnone hv)⟩
  · intro h
    refine ⟨_, Value.get?_orEmpty_of_isPart h.isPart _, readOr_eq_ok_iff.mpr ⟨?_, ?_⟩⟩
    · intro v hv
      exact lengthOf_eq_ok_iff.mpr (h.given v hv)
    · intro hv
      exact hstandard.mpr (h.standard hv)

theorem levelIn_eq_ok_iff {source : Text} {document : Value} {level : Severity} :
    levelIn source document = .ok level ↔ GivesLevel document level := by
  rw [levelIn, Except.bind_eq_ok_iff]
  constructor
  · rintro ⟨found, hfound, h⟩
    have hpart := Value.isPart_of_get?_orEmpty hfound
    rw [Value.get?_orEmpty_of_isPart hpart] at hfound
    obtain rfl := Except.ok.inj hfound
    obtain ⟨hgiven, hnone⟩ := readOr_eq_ok_iff.mp h
    exact ⟨hpart, fun v hv => levelOf_eq_ok_iff.mp (hgiven v hv), hnone⟩
  · intro h
    refine ⟨_, Value.get?_orEmpty_of_isPart h.isPart _, readOr_eq_ok_iff.mpr ⟨?_, h.standard⟩⟩
    intro v hv
    exact levelOf_eq_ok_iff.mpr (h.given v hv)

/-- What escapes when a value is read that a part of a document may hold. -/
inductive PartEscape (v : Value) (key : Text) : Fault → Prop
  /-- The part is neither a dictionary nor counts as false. -/
  | shape (h : ¬v.IsPart) : PartEscape v key (.noEntries v.typeName)
  /-- The value is not acceptable and too long to be shown. -/
  | unwritable (h : v.IsPart) (found : Value) (hfound : v.value? key = some found)
      (hlong : ¬found.Writable) : PartEscape v key .unwritable

theorem settled_part {α : Type} (v : Value) (key : Text) {read : Value → Except Fault α}
    {standard : α}
    (hread : ∀ found, Settled (fun fault => ¬found.Writable ∧ fault = .unwritable) (read found)) :
    Settled (PartEscape v key)
      (v.orEmpty.get? key >>= fun found => readOr found read standard) := by
  refine ((settled_get?_orEmpty v key).bind fun found _ =>
    settled_readOr fun value _ => hread value).congr fun fault => ?_
  constructor
  · rintro (⟨hpart, rfl⟩ | ⟨found, hfound, value, hvalue, hlong, rfl⟩)
    · exact .shape hpart
    · have hpart := Value.isPart_of_get?_orEmpty hfound
      rw [Value.get?_orEmpty_of_isPart hpart] at hfound
      exact .unwritable hpart value ((Except.ok.inj hfound).trans hvalue) hlong
  · rintro (hpart | ⟨hpart, value, hvalue, hlong⟩)
    · exact Or.inl ⟨hpart, rfl⟩
    · exact Or.inr ⟨_, Value.get?_orEmpty_of_isPart hpart key, value, hvalue, hlong, rfl⟩

theorem settled_lengthIn (source : Text) (document : Value) :
    Settled (PartEscape (document.under "generator") "default_length")
      (lengthIn source document) :=
  settled_part _ _ (settled_lengthOf _)

theorem settled_levelIn (source : Text) (document : Value) :
    Settled (PartEscape (document.under "logging") "level") (levelIn source document) :=
  settled_part _ _ (settled_levelOf _)

/-- What a report on a document in a file calls it. -/
def sourceOf (path : Text) : Text := if path.isEmpty then "config" else path

/-- The settings that a document gives, one after another. -/
theorem ofDocument_eq (entries : List (Value × Value)) (path : Text) :
    ofDocument (.dict entries) (some path) =
      lengthIn (sourceOf path) (.dict entries) >>= fun length =>
        levelIn (sourceOf path) (.dict entries) >>= fun level =>
          ((Value.dict entries).under "logging").orEmpty.get? "json" >>= fun json =>
            .ok {
              version := (Value.lookUp? "version" entries).getD standard.version
              length
              level
              json := (json.map Value.isTrue).getD false
              path := some path } := by
  have hpart : ∀ name, part (.dict entries) name =
      pure ((Value.dict entries).under name).orEmpty := fun _ => rfl
  have hversion : (Value.dict entries).get? "version" =
      pure (Value.lookUp? "version" entries) := rfl
  simp only [ofDocument, lengthIn, levelIn, bind_assoc, readOr_bind, hpart, hversion, pure_bind]
  refine bind_congr fun found => ?_
  cases found with
  | none =>
      refine bind_congr fun found => ?_
      cases found <;> rfl
  | some v =>
      refine bind_congr fun length => bind_congr fun found => ?_
      cases found <;> rfl

/-- The document has a version that is understood. -/
def IsSupported (document : Value) : Prop :=
  ∃ version, document.value? "version" = some version ∧ version.sameKey (.int 1) = true

/-- The settings that a document in a file gives. -/
structure Gives (document : Value) (path : Text) (settings : Settings) : Prop where
  version : document.value? "version" = some settings.version
  supported : settings.version.sameKey (.int 1) = true
  length : GivesLength document settings.length
  level : GivesLevel document settings.level
  json : settings.json = ((document.under "logging").value? "json").any Value.isTrue
  path : settings.path = some path

theorem ofDocument_eq_ok_iff {entries : List (Value × Value)} {path : Text}
    {settings : Settings} :
    ofDocument (.dict entries) (some path) = .ok settings ↔
      settings.version = (Value.lookUp? "version" entries).getD standard.version ∧
        GivesLength (.dict entries) settings.length ∧ GivesLevel (.dict entries) settings.level ∧
        settings.json = (((Value.dict entries).under "logging").value? "json").any Value.isTrue ∧
        settings.path = some path := by
  have hjson : ∀ found : Option Value, (found.map Value.isTrue).getD false = found.any Value.isTrue :=
    fun found => by cases found <;> rfl
  rw [ofDocument_eq, Except.bind_eq_ok_iff]
  constructor
  · rintro ⟨length, hlength, h⟩
    obtain ⟨level, hlevel, h⟩ := Except.bind_eq_ok_iff.mp h
    have hgives := levelIn_eq_ok_iff.mp hlevel
    obtain ⟨json, hfound, h⟩ := Except.bind_eq_ok_iff.mp h
    rw [Value.get?_orEmpty_of_isPart hgives.isPart] at hfound
    obtain rfl := Except.ok.inj hfound
    obtain rfl := Except.ok.inj h
    exact ⟨rfl, lengthIn_eq_ok_iff.mp hlength, hgives, hjson _, rfl⟩
  · rintro ⟨hversion, hlength, hlevel, hfound, hpath⟩
    refine ⟨settings.length, lengthIn_eq_ok_iff.mpr hlength, ?_⟩
    refine Except.bind_eq_ok_iff.mpr ⟨settings.level, levelIn_eq_ok_iff.mpr hlevel, ?_⟩
    refine Except.bind_eq_ok_iff.mpr ⟨_, Value.get?_orEmpty_of_isPart hlevel.isPart _, ?_⟩
    rw [hjson, ← hversion, ← hfound, ← hpath]

/-- Only truth values and numbers are equal to an integer, and all of those can be
looked up. -/
theorem isSearchable_of_sameKey {version : Value} {n : Int}
    (h : version.sameKey (.int n) = true) : isSearchable version = true := by
  cases version with
  | bool | int | float => rfl
  | null | text | bytes | date | timestamp | list | pair | set | dict | object
    | recurrence => simp [Value.sameKey, Value.asInteger?] at h

theorem checkVersion_eq (version : Value) :
    checkVersion version =
      if isSearchable version = false then .error (.unhashable version.typeName)
      else if version.sameKey (.int 1) = true then .ok ()
      else version.display >>= fun shown => .error (Problem.unsupportedVersion shown).fault := by
  unfold checkVersion
  simp only [supportedVersions, List.any_cons, List.any_nil, Bool.or_false, Bool.not_eq_true']
  rfl

theorem checkVersion_eq_ok_iff {version : Value} :
    checkVersion version = .ok () ↔ version.sameKey (.int 1) = true := by
  rw [checkVersion_eq]
  by_cases hsame : version.sameKey (.int 1) = true
  · rw [if_neg (Bool.not_eq_false _ ▸ isSearchable_of_sameKey hsame), if_pos hsame]
    exact iff_of_true rfl hsame
  · rw [if_neg hsame]
    refine iff_of_false (fun h => ?_) hsame
    split at h
    · cases h
    · obtain ⟨shown, -, h⟩ := Except.bind_eq_ok_iff.mp h
      cases h

/-- What escapes from the check of a version. -/
inductive VersionEscape (version : Value) : Fault → Prop
  /-- The version is of a kind that cannot be looked up. -/
  | unsearchable (h : isSearchable version = false) :
      VersionEscape version (.unhashable version.typeName)
  /-- The version is not understood and too long to be shown. -/
  | unsupported (hsearch : isSearchable version = true)
      (hother : ¬version.sameKey (.int 1) = true) (hlong : ¬version.Writable) :
      VersionEscape version .unwritable

theorem settled_checkVersion (version : Value) :
    Settled (VersionEscape version) (checkVersion version) := by
  rw [checkVersion_eq]
  by_cases hsearch : isSearchable version = false
  · rw [if_pos hsearch]
    refine (Settled.of_fault _).congr fun fault => ⟨fun h => ?_, fun h => ?_⟩
    · rw [h]
      exact .unsearchable hsearch
    · cases h with
      | unsearchable h => rfl
      | unsupported h => rw [hsearch] at h; cases h
  · have hfound : isSearchable version = true := eq_true_of_ne_false hsearch
    rw [if_neg hsearch]
    by_cases hsame : version.sameKey (.int 1) = true
    · rw [if_pos hsame]
      refine (Settled.of_ok ()).congr fun fault => iff_of_false id ?_
      rintro (h | ⟨-, hother, -⟩)
      · exact hsearch h
      · exact hother hsame
    · rw [if_neg hsame]
      refine (Settled.of_shown version.writtenIf_display).congr fun fault => ⟨?_, ?_⟩
      · rintro ⟨hlong, rfl⟩
        exact .unsupported hfound hsame hlong
      · rintro (h | ⟨-, -, hlong⟩)
        · exact absurd h hsearch
        · exact ⟨hlong, rfl⟩

/-! ## Files -/

theorem ofFile_of_version {entries : List (Value × Value)} {version : Value} (path : Text)
    (h : Value.lookUp? "version" entries = some version) (hnull : version ≠ .null) :
    ofFile path (.dict entries) =
      checkVersion version >>= fun _ => ofDocument (.dict entries) (some path) := by
  unfold ofFile
  dsimp only
  rw [h]
  split
  · next hversion => exact absurd hversion hnull
  · rfl

/-- A document without a version, or that is no dictionary, is reported on. -/
theorem ofFile_of_no_version {document : Value} (path : Text)
    (h : ∀ version, document.value? "version" = some version → version = .null) :
    ∃ problem : Problem, ofFile path document = .error problem.fault := by
  cases document with
  | dict entries =>
      unfold ofFile
      dsimp only
      cases hfound : Value.lookUp? "version" entries with
      | none => exact ⟨_, rfl⟩
      | some version =>
          obtain rfl := h version hfound
          exact ⟨_, rfl⟩
  | null => exact ⟨_, rfl⟩
  | _ => exact ⟨_, rfl⟩

/-- What escapes from a document in a file. -/
inductive Escape (document : Value) : Fault → Prop
  | version (version : Value) (h : document.value? "version" = some version) (fault : Fault)
      (hfault : VersionEscape version fault) : Escape document fault
  | length (hversion : IsSupported document) (fault : Fault)
      (hfault : PartEscape (document.under "generator") "default_length" fault) :
      Escape document fault
  | level (hversion : IsSupported document) (hlength : ∃ length, GivesLength document length)
      (fault : Fault) (hfault : PartEscape (document.under "logging") "level" fault) :
      Escape document fault

theorem value?_eq_some {document version : Value} {key : Text}
    (h : document.value? key = some version) :
    ∃ entries, document = .dict entries ∧ Value.lookUp? key entries = some version := by
  cases document with
  | dict entries => exact ⟨entries, rfl, h⟩
  | _ => cases h

theorem ne_null_of_sameKey {version : Value} {n : Int} (h : version.sameKey (.int n) = true) :
    version ≠ .null := by
  rintro rfl
  simp [Value.sameKey, Value.asInteger?] at h

theorem ofFile_eq_ok_iff {document : Value} {path : Text} {settings : Settings} :
    ofFile path document = .ok settings ↔ Gives document path settings := by
  constructor
  · intro h
    by_cases hnull : ∀ version, document.value? "version" = some version → version = .null
    · obtain ⟨problem, hproblem⟩ := ofFile_of_no_version path hnull
      rw [hproblem] at h
      cases h
    · obtain ⟨version, hversion⟩ := Classical.not_forall.mp hnull
      obtain ⟨hentry, hne⟩ := Classical.not_imp.mp hversion
      obtain ⟨entries, rfl, hfound⟩ := value?_eq_some hentry
      rw [ofFile_of_version path hfound hne] at h
      obtain ⟨_, hcheck, h⟩ := Except.bind_eq_ok_iff.mp h
      obtain ⟨hgiven, hlength, hlevel, hjson, hpath⟩ := ofDocument_eq_ok_iff.mp h
      rw [hfound] at hgiven
      obtain rfl : settings.version = version := hgiven
      exact ⟨hentry, checkVersion_eq_ok_iff.mp hcheck, hlength, hlevel, hjson, hpath⟩
  · intro h
    obtain ⟨entries, rfl, hfound⟩ := value?_eq_some h.version
    rw [ofFile_of_version path hfound (ne_null_of_sameKey h.supported)]
    refine Except.bind_eq_ok_iff.mpr ⟨(), checkVersion_eq_ok_iff.mpr h.supported, ?_⟩
    refine ofDocument_eq_ok_iff.mpr ⟨?_, h.length, h.level, h.json, h.path⟩
    rw [hfound]
    rfl

theorem settled_ofDocument (entries : List (Value × Value)) (path : Text) :
    Settled (fun fault =>
        PartEscape ((Value.dict entries).under "generator") "default_length" fault ∨
          (∃ length, GivesLength (.dict entries) length) ∧
            PartEscape ((Value.dict entries).under "logging") "level" fault)
      (ofDocument (.dict entries) (some path)) := by
  rw [ofDocument_eq]
  refine ((settled_lengthIn _ _).bind fun length _ =>
    (settled_levelIn _ _).bind fun level hlevel =>
      ((settled_get?_orEmpty _ _).bind fun json _ => .of_ok _)).congr fun fault => ?_
  refine or_congr_right ⟨?_, ?_⟩
  · rintro ⟨length, hlength, hfault | ⟨level, hlevel, ⟨hpart, -⟩ | ⟨json, -, hnone⟩⟩⟩
    · exact ⟨⟨length, lengthIn_eq_ok_iff.mp hlength⟩, hfault⟩
    · exact absurd (levelIn_eq_ok_iff.mp hlevel).isPart hpart
    · exact hnone.elim
  · rintro ⟨⟨length, hlength⟩, hfault⟩
    exact ⟨length, lengthIn_eq_ok_iff.mpr hlength, Or.inl hfault⟩

theorem settled_ofFile (document : Value) (path : Text) :
    Settled (Escape document) (ofFile path document) := by
  by_cases hnull : ∀ version, document.value? "version" = some version → version = .null
  · obtain ⟨problem, hproblem⟩ := ofFile_of_no_version path hnull
    rw [hproblem]
    refine (Settled.of_problem problem).congr fun fault => iff_of_false id ?_
    have hunsupported : ¬IsSupported document := by
      rintro ⟨version, hentry, hsame⟩
      exact ne_null_of_sameKey hsame (hnull version hentry)
    rintro (⟨version, hentry, _, hfault⟩ | ⟨hversion, -, -⟩ | ⟨hversion, -, -, -⟩)
    · obtain rfl := hnull version hentry
      rcases hfault with hsearch | ⟨-, -, hlong⟩
      · cases hsearch
      · exact hlong (by simp [Value.Writable, Value.isWritable])
    · exact hunsupported hversion
    · exact hunsupported hversion
  · obtain ⟨version, hversion⟩ := Classical.not_forall.mp hnull
    obtain ⟨hentry, hne⟩ := Classical.not_imp.mp hversion
    obtain ⟨entries, rfl, hfound⟩ := value?_eq_some hentry
    have hsupported : IsSupported (.dict entries) ↔ checkVersion version = .ok () := by
      rw [checkVersion_eq_ok_iff]
      constructor
      · rintro ⟨other, hother, hsame⟩
        rw [hentry] at hother
        rwa [Option.some.inj hother]
      · exact fun h => ⟨version, hentry, h⟩
    rw [ofFile_of_version path hfound hne]
    refine ((settled_checkVersion version).bind fun _ _ =>
      settled_ofDocument entries path).congr fun fault => ⟨?_, ?_⟩
    · rintro (hfault | ⟨_, hcheck, hfault | ⟨hlength, hfault⟩⟩)
      · exact .version version hentry fault hfault
      · exact .length (hsupported.mpr hcheck) fault hfault
      · exact .level (hsupported.mpr hcheck) hlength fault hfault
    · rintro (⟨other, hother, _, hfault⟩ | ⟨hversion, _, hfault⟩ |
        ⟨hversion, hlength, _, hfault⟩)
      · rw [hentry] at hother
        obtain rfl := Option.some.inj hother
        exact Or.inl hfault
      · exact Or.inr ⟨(), hsupported.mp hversion, Or.inl hfault⟩
      · exact Or.inr ⟨(), hsupported.mp hversion, Or.inr ⟨hlength, hfault⟩⟩

end Settings

end IdMint
