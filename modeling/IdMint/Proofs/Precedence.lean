import Mathlib.Data.List.DropRight
import IdMint.Proofs.Loading

/-!
# Which source a setting comes from

Settings come from the first file among four candidates and from nothing else but
two variables of the environment, which override what the file gives
(`Settings.Settles`).  What is loaded is settled by these rules, and where they give
nothing the program ends with a report (`Settings.Resolves`).

That nothing else plays a part is a statement about two loadings
(`Settings.resolve_congr`): they run alike if their files have one path and hold
documents that agree under the keys that settings are read from.
-/

namespace IdMint

namespace Settings

variable {reader : DocumentReader}

/-! ## The rules -/

/-- There is a file at none of the candidates. -/
def NoFile (s : Surroundings) (requested : Option Text) : Prop :=
  ∀ c ∈ candidates s requested, LeadsNowhere s c

/-- The settings that the sources settle. -/
inductive Settles (reader : DocumentReader) (s : Surroundings) (requested : Option Text)
    (settings : Settings) : Prop
  /-- Without a file the environment overrides what holds by default. -/
  | default (hnone : NoFile s requested)
      (h : Overrides s { version := .int 1, length := { val := 24 }, level := .warning,
                         json := false, path := none } settings) :
      Settles reader s requested settings
  /-- The environment overrides what the first file gives, which must be acceptable
  even where it is overridden. -/
  | file (path : Text) (bytes : Bytes) (document : Value) (base : Settings)
      (hfile : IsFirstFile s (candidates s requested) path (.ok bytes))
      (hread : reader (.opened bytes) = .ok document)
      (hgives : Gives document path base) (h : Overrides s base settings) :
      Settles reader s requested settings

/-- A document holds nothing that escapes from the loading: its version can be looked
up, its parts are dictionaries or count as false, and its integers can be written. -/
structure WellFormed (document : Value) : Prop where
  version : ∀ v, document.value? "version" = some v → isSearchable v = true
  generator : (document.under "generator").IsPart
  logging : (document.under "logging").IsPart
  writable : document.Writable

/-- A file cannot be read, is called malformed by the reader of documents, or holds a
document that is well formed. -/
inductive Shaped (reader : DocumentReader) : Contents → Prop
  | unreadable (reason : Text) : Shaped reader (.error reason)
  | malformed (bytes : Bytes) (hread : reader (.opened bytes) = .error .malformed) :
      Shaped reader (.ok bytes)
  | document (bytes : Bytes) (document : Value) (hread : reader (.opened bytes) = .ok document)
      (h : WellFormed document) : Shaped reader (.ok bytes)

/-- Two documents agree under the keys that settings are read from. -/
structure Agree (d d' : Value) : Prop where
  version : d.value? "version" = d'.value? "version"
  length : (d.under "generator").value? "default_length" =
    (d'.under "generator").value? "default_length"
  level : (d.under "logging").value? "level" = (d'.under "logging").value? "level"
  json : (d.under "logging").value? "json" = (d'.under "logging").value? "json"

/-- Two files come to the same: they have the same contents, or hold well-formed
dictionaries that agree. -/
inductive Alike (reader : DocumentReader) : Contents → Contents → Prop
  | refl (contents : Contents) : Alike reader contents contents
  | documents {bytes bytes' : Bytes} {entries entries' : List (Value × Value)}
      (hread : reader (.opened bytes) = .ok (.dict entries))
      (hread' : reader (.opened bytes') = .ok (.dict entries'))
      (h : WellFormed (.dict entries)) (h' : WellFormed (.dict entries'))
      (hagree : Agree (.dict entries) (.dict entries')) : Alike reader (.ok bytes) (.ok bytes')

/-- Two environments override the same. -/
structure SameOverrides (s s' : Surroundings) : Prop where
  length : s.readVariable? lengthVariable = s'.readVariable? lengthVariable
  level : s.readVariable? levelVariable = s'.readVariable? levelVariable

/-- What is loaded follows the rules. -/
structure Resolves (reader : DocumentReader) (s : Surroundings) (requested : Option Text) :
    Prop where
  /-- What is loaded is what the sources settle. -/
  settled : ∀ {σ : Type} (t : σ) (settings : Settings),
    (load reader s requested t).answer = .ok settings ↔ Settles reader s requested settings
  /-- Where they settle nothing, the program ends with exit code one and a report, unless
  a candidate cannot be expanded or something escapes from the first file. -/
  reported : ∀ {σ : Type} (t : σ), (∀ fault, ¬SearchFails s (candidates s requested) fault) →
    (∀ path contents, IsFirstFile s (candidates s requested) path contents →
      Shaped reader contents) →
    (∀ settings, ¬Settles reader s requested settings) →
    ∃ report, (load reader s requested t).answer = .error (.stop 1 report) ∧
      ("CONFIG ERROR: " : Text) <+: report
  /-- A candidate that cannot be expanded ends the loading as a fault, unless there is a
  file before it. -/
  failed : ∀ {σ : Type} (t : σ) (fault : Fault), SearchFails s (candidates s requested) fault →
    (load reader s requested t).answer = .error fault
  /-- Nothing but the first file and two variables influences the loading, and nothing
  in that file but what is under the known keys of its document. -/
  of_file : ∀ {σ : Type} (t : σ) (s' : Surroundings) (requested' : Option Text) (path : Text)
    (contents contents' : Contents),
    IsFirstFile s (candidates s requested) path contents →
    IsFirstFile s' (candidates s' requested') path contents' →
    Alike reader contents contents' → SameOverrides s s' →
    load reader s' requested' t = load reader s requested t
  /-- If there is no file, the two variables alone decide. -/
  of_no_file : ∀ {σ : Type} (t : σ) (s' : Surroundings) (requested' : Option Text),
    NoFile s requested → NoFile s' requested' → SameOverrides s s' →
    (load reader s' requested' t).answer = (load reader s requested t).answer
  /-- The last candidate is a path that the search expands once more, which makes no
  difference unless the path of the home directory begins with a tilde itself. -/
  of_home : ∃ path, s.expand "~/.cuid2/config.yaml" = .ok path ∧
    ((∀ home, s.home? = some home → Text.startsWith '~' home = false) → s.expand path = .ok path)

/-! ## The home directory -/

theorem expand_of_not_startsWith (s : Surroundings) {path : Text}
    (h : Text.startsWith '~' path = false) : s.expand path = .ok path := by
  cases path with
  | nil => rfl
  | cons c rest =>
      have hc : c.is '~' = false := h
      rw [Surroundings.expand, hc]
      rfl

theorem not_startsWith_tilde_of_slash {t : Text} (h : Text.startsWith '/' t = true) :
    Text.startsWith '~' t = false := by
  cases t with
  | nil => rfl
  | cons c rest =>
      have hc : c.val = 47 := eq_of_beq h
      show (c.val == 126) = false
      rw [hc]
      rfl

/-- A path below a home directory begins as that one does, or with a slash. -/
theorem not_startsWith_tilde_of_home {home rest : Text} (h : Text.startsWith '~' home = false)
    (hrest : Text.startsWith '/' rest = true) :
    Text.startsWith '~' (Surroundings.belowHome home rest) = false := by
  have htrimmed : home.rdropWhile (·.is '/') <+: home := List.rdropWhile_prefix _ home
  have hbelow : Surroundings.belowHome home rest = home.rdropWhile (·.is '/') ++ rest := by
    refine if_neg fun hempty => ?_
    obtain ⟨-, rfl⟩ := List.append_eq_nil_iff.mp (List.isEmpty_iff.mp hempty)
    cases hrest
  rw [hbelow]
  cases hcases : home.rdropWhile (·.is '/') with
  | nil => exact not_startsWith_tilde_of_slash hrest
  | cons c trimmed =>
      rw [hcases] at htrimmed
      obtain ⟨slashes, rfl⟩ := htrimmed
      exact h

/-- What has been expanded below the home directory stays as it is. -/
theorem expand_ownPath {s : Surroundings}
    (h : ∀ home, s.home? = some home → Text.startsWith '~' home = false) :
    s.expand (s.ownPath "/.cuid2/config.yaml") = .ok (s.ownPath "/.cuid2/config.yaml") := by
  cases hhome : s.home? with
  | none =>
      have hkept : s.ownPath "/.cuid2/config.yaml" = "~/.cuid2/config.yaml" := by
        rw [Surroundings.ownPath, hhome]
        rfl
      rw [hkept, expand_below_home, hkept]
  | some home =>
      apply expand_of_not_startsWith
      rw [Surroundings.ownPath, hhome]
      exact not_startsWith_tilde_of_home (h home hhome) rfl

/-! ## What is settled -/

theorem load_eq_ok_iff {σ : Type} {s : Surroundings} {requested : Option Text} {t : σ}
    {settings : Settings} :
    (load reader s requested t).answer = .ok settings ↔ Settles reader s requested settings := by
  rw [answer_load]
  rcases hsearch : firstFile? s (candidates s requested) with fault | _ | ⟨path, contents⟩
  · have hfails := firstFile?_eq_error_iff.mp hsearch
    refine iff_of_false (fun h => by cases h) ?_
    rintro (⟨hnone, -⟩ | ⟨path, bytes, _, _, hfile, -, -, -⟩)
    · exact hfails.not_nowhere hnone
    · exact hfile.not_searchFails hfails
  · have hnone : NoFile s requested := firstFile?_eq_none_iff.mp hsearch
    show override s standard = .ok settings ↔ _
    rw [override_eq_ok_iff]
    constructor
    · exact fun h => .default hnone h
    · rintro (⟨-, h⟩ | ⟨path, bytes, _, _, hfile, -, -, -⟩)
      · exact h
      · exact absurd hnone hfile.not_nowhere
  · have hfile := firstFile?_eq_some_iff.mp hsearch
    show resolve reader s path contents = .ok settings ↔ _
    rw [resolve_eq_ok_iff]
    constructor
    · rintro ⟨bytes, document, base, rfl, hread, hgives, h⟩
      exact .file path bytes document base hfile hread hgives h
    · rintro (⟨hnone, -⟩ | ⟨path', bytes, document, base, hfile', hread, hgives, h⟩)
      · exact absurd hnone hfile.not_nowhere
      · obtain ⟨rfl, rfl⟩ := hfile.unique hfile'
        exact ⟨bytes, document, base, rfl, hread, hgives, h⟩

/-! ## What escapes -/

instance (document : Value) : Decidable (WellFormed document) :=
  decidable_of_iff ((document.value? "version").all isSearchable = true ∧
      (document.under "generator").IsPart ∧ (document.under "logging").IsPart ∧
      document.Writable)
    ⟨fun ⟨hversion, hgenerator, hlogging, hwritable⟩ =>
      ⟨fun v hv => by rw [hv] at hversion; exact hversion, hgenerator, hlogging, hwritable⟩,
    fun h => ⟨Option.all_eq_true_iff_get _ _ |>.mpr fun hv => h.version _ (Option.some_get hv).symm,
      h.generator, h.logging, h.writable⟩⟩

theorem WellFormed.not_escape {document : Value} (h : WellFormed document) (fault : Fault) :
    ¬Escape document fault := by
  have hpart : ∀ name key, (document.under name).IsPart →
      ¬PartEscape (document.under name) key fault := by
    rintro name key hpart (hshape | ⟨-, found, hfound, hlong⟩)
    · exact hshape hpart
    · exact hlong ((h.writable.under name).value? hfound)
  rintro (⟨version, hentry, _, hfault⟩ | ⟨-, _, hfault⟩ | ⟨-, -, _, hfault⟩)
  · rcases hfault with hsearch | ⟨-, -, hlong⟩
    · rw [h.version version hentry] at hsearch
      cases hsearch
    · exact hlong (h.writable.value? hentry)
  · exact hpart _ _ h.generator hfault
  · exact hpart _ _ h.logging hfault

theorem Shaped.not_fileEscape {contents : Contents} (h : Shaped reader contents)
    (fault : Fault) : ¬FileEscape reader contents fault := by
  rintro (⟨bytes, rfl, _, hfault⟩ | ⟨bytes, rfl, found, hfound, _, hfault⟩)
  · rcases h with _ | ⟨_, hread⟩ | ⟨_, _, hread, -⟩ <;> rw [hread] at hfault <;> cases hfault
  · rcases h with _ | ⟨_, hread⟩ | ⟨_, document, hread, hwell⟩
    · rw [hread] at hfound
      cases hfound
    · rw [hread] at hfound
      obtain rfl := Except.ok.inj hfound
      exact hwell.not_escape fault hfault

/-! ## What plays no part -/

theorem lengthIn_congr {source : Text} {d d' : Value} (h : (d.under "generator").IsPart)
    (h' : (d'.under "generator").IsPart) (hagree : Agree d d') :
    lengthIn source d = lengthIn source d' := by
  rw [lengthIn, lengthIn, Value.get?_orEmpty_of_isPart h, Value.get?_orEmpty_of_isPart h',
    hagree.length]

theorem levelIn_congr {source : Text} {d d' : Value} (h : (d.under "logging").IsPart)
    (h' : (d'.under "logging").IsPart) (hagree : Agree d d') :
    levelIn source d = levelIn source d' := by
  rw [levelIn, levelIn, Value.get?_orEmpty_of_isPart h, Value.get?_orEmpty_of_isPart h',
    hagree.level]

/-- A well-formed dictionary gives what it does by what is under the known keys. -/
theorem ofFile_congr {entries entries' : List (Value × Value)} (path : Text)
    (h : WellFormed (.dict entries)) (h' : WellFormed (.dict entries'))
    (hagree : Agree (.dict entries) (.dict entries')) :
    ofFile path (.dict entries) = ofFile path (.dict entries') := by
  have hversion : Value.lookUp? "version" entries = Value.lookUp? "version" entries' :=
    hagree.version
  have hdocument : ofDocument (.dict entries) (some path) =
      ofDocument (.dict entries') (some path) := by
    rw [ofDocument_eq, ofDocument_eq, lengthIn_congr h.generator h'.generator hagree,
      levelIn_congr h.logging h'.logging hagree, Value.get?_orEmpty_of_isPart h.logging,
      Value.get?_orEmpty_of_isPart h'.logging, hagree.json, hversion]
  unfold ofFile
  dsimp only
  rw [hversion, hdocument]

theorem override_congr {s s' : Surroundings} (base : Settings) (h : SameOverrides s s') :
    override s base = override s' base := by
  rw [override_eq, override_eq, h.length, h.level]

theorem resolve_congr {s s' : Surroundings} {path : Text} {contents contents' : Contents}
    (halike : Alike reader contents contents') (h : SameOverrides s s') :
    resolve reader s path contents = resolve reader s' path contents' := by
  have hfile : (document reader path contents >>= fun found => ofFile path found) =
      document reader path contents' >>= fun found => ofFile path found := by
    cases halike with
    | refl => rfl
    | documents hread hread' hwell hwell' hagree =>
        rw [document_of_read hread, document_of_read hread']
        exact ofFile_congr path hwell hwell' hagree
  have hover : (fun base => override s base) = fun base => override s' base :=
    funext fun base => override_congr base h
  rw [resolve, resolve, ← bind_assoc, ← bind_assoc, hfile, hover]

/-! ## The whole -/

/-- **Settings are settled by the precedence of their sources**, whatever the files and
the environment are, and whatever a reader makes of the files.

The first file counts even if it cannot be read or is malformed, and what it gives has to
be acceptable before the environment overrides it.  No other file and no other key of its
document makes a difference. -/
theorem load_resolves (reader : DocumentReader) (s : Surroundings) (requested : Option Text) :
    Resolves reader s requested where
  settled _ _ := load_eq_ok_iff
  reported t hsearch hshaped hnone := by
    have hkept : ∀ fault, ¬LoadEscape reader s requested fault := by
      rintro fault (⟨_, hfails⟩ | ⟨path, contents, _, hfile, hfault⟩)
      · exact hsearch fault hfails
      · exact (hshaped path contents hfile).not_fileEscape fault hfault
    rcases (settled_load reader s requested t).settled hkept with
      ⟨settings, hok⟩ | ⟨problem, hproblem⟩
    · exact absurd (load_eq_ok_iff.mp hok) (hnone settings)
    · exact ⟨problem.report, hproblem, isPrefix_report problem⟩
  failed t fault hfails := (settled_load reader s requested t).eq_error fault (.search fault hfails)
  of_file t s' requested' path contents contents' hfile hfile' halike hsame := by
    rw [load_of_file reader hfile, load_of_file reader hfile', resolve_congr halike hsame]
  of_no_file t s' requested' hnone hnone' hsame := by
    rw [answer_load, answer_load, firstFile?_eq_none_iff.mpr hnone,
      firstFile?_eq_none_iff.mpr hnone']
    exact (override_congr standard hsame).symm
  of_home := ⟨_, expand_below_home s, expand_ownPath⟩

/-- Surroundings without any file. -/
def noFiles : Surroundings where
  file? _ := none
  environment := []
  ownHome := some "/root"
  homes _ := none

/-- Where there is no file at all, a path that cannot be expanded keeps the defaults from
being loaded. -/
theorem load_of_embedded_null :
    (∀ path, noFiles.file? path = none) ∧
      (load (fun _ => .error .malformed) noFiles (some "~a\x00b") ()).answer =
        .error .embeddedNull ∧
      ∀ settings, (load (fun _ => .error .malformed) noFiles (some "~a\x00b") ()).answer ≠
        .ok settings := by
  have hfault : (load (fun _ => .error .malformed) noFiles (some "~a\x00b") ()).answer =
      .error .embeddedNull :=
    Except.error?_eq_some_iff.mp (by decide +kernel)
  refine ⟨fun path => rfl, hfault, fun settings hok => ?_⟩
  rw [hfault] at hok
  cases hok

/-- Surroundings in which the environment names a file and overrides the length, of which
the file says nothing. -/
def layers : Surroundings where
  file? path :=
    if path = ("/home/ids/ids.yaml" : Text) then
      some (.ok "version: 1\ngenerator: 0\nlogging:\n  level: debug\n  json: yes\n".toUTF8.toList)
    else none
  environment := [("CUID2_CONFIG", "~ids/ids.yaml"), ("CUID2_LENGTH", " 1_6 ")]
  ownHome := none
  homes name := if name = ("ids" : Text) then some "/home/ids" else none

/-- What that file says. -/
def layersDocument : Value :=
  .dict [(.text "version", .int 1), (.text "generator", .int 0),
    (.text "logging", .dict [(.text "level", .text "debug"), (.text "json", .bool true)])]

/-- The file gives the level and the format of the journal, in a part beside an empty
one. -/
theorem load_resolves_layers :
    (∀ fault, ¬SearchFails layers (candidates layers none) fault) ∧
      (∀ path contents, IsFirstFile layers (candidates layers none) path contents →
        Shaped (fun _ => .ok layersDocument) contents) ∧
      ∃ settings, Settles (fun _ => .ok layersDocument) layers none settings ∧
        settings.length.val = 16 ∧ settings.level = .debug ∧ settings.json = true := by
  have hresolves := load_resolves (fun _ => .ok layersDocument) layers none
  have hload : (load (fun _ => .ok layersDocument) layers none ()).answer.toOption.any
      (fun settings => settings.length.val = 16 ∧ settings.level = .debug ∧
        settings.json = true) = true := by
    decide +kernel
  cases hanswer : (load (fun _ => .ok layersDocument) layers none ()).answer with
  | error fault =>
      rw [hanswer] at hload
      cases hload
  | ok settings =>
      rw [hanswer] at hload
      refine ⟨?_, ?_, settings, (hresolves.settled () settings).mp hanswer,
        of_decide_eq_true hload⟩
      · intro fault hfails
        rw [hresolves.failed () fault hfails] at hanswer
        cases hanswer
      · intro path contents hfile
        have hcontents := hfile.file
        simp only [layers] at hcontents
        split at hcontents
        · obtain rfl := Option.some.inj hcontents
          exact .document _ layersDocument rfl (by decide +kernel)
        · cases hcontents

end Settings

end IdMint
