import IdMint.Proofs.Indifference
import IdMint.Proofs.Lines
import IdMint.Proofs.Precedence

/-!
# What loaded settings are good for

Settings are checked where they are loaded, and they are used elsewhere by rules of
their own: a generator takes for a length whatever stands for an integer, and a sink is
configured by a name, which is looked up in a table that has more names than there are
severities.  Settings that have been loaded suit both (`Settings.Usable`), whichever of
the sources they come from.

What the sources hold is a matter of the values, before anything is made of them
(`Settings.Source`).  So the length is known to be an integer there already, and the
level to be written in any mixture of cases, also of cases of letters outside ASCII.
-/

namespace IdMint

/-! ## What a generator takes -/

/-- An acceptable length passes the check of a generator. -/
theorem checkLength_val (length : Length) : checkLength (.int length.val) = .ok none := by
  have hlength : Length.ofValue (.int length.val) = .ok length := Length.ofInt_eq_ok_iff.mpr rfl
  rw [checkLength, hlength]

/-- A request for an acceptable length is never turned down as one for another would be. -/
theorem World.error_ne_invalidArgument {g : Nat} {v : Value} {length : Length} {w : World}
    {outcome : Outcome} (hlength : Length.ofValue v = .ok length)
    (h : (World.tryGenerate g v w).answer = .ok outcome) :
    outcome.error ≠ some .invalidArgument := by
  rw [World.tryGenerate_of_ok g hlength] at h
  rcases World.isConclusion_of_generateAccepted h with ⟨t, rfl⟩ | ⟨message, rfl⟩
  · simp [Outcome.success]
  · simp [Outcome.failure]

namespace Settings

/-- The name of a severity is written in upper case. -/
theorem upper_title (level : Severity) : (title level).upper = title level := by
  cases level <;> decide

/-! ## Where settings come from -/

/-- What the first file holds under a key in one of its parts, if there is a file and
if it holds something there. -/
inductive InFile (reader : DocumentReader) (s : Surroundings) (requested : Option Text)
    (part key : Text) : Option Value → Prop
  | missing (h : NoFile s requested) : InFile reader s requested part key none
  | found (path : Text) (bytes : Bytes) (document : Value)
      (hfile : IsFirstFile s (candidates s requested) path (.ok bytes))
      (hread : reader (.opened bytes) = .ok document) :
      InFile reader s requested part key ((document.under part).value? key)

/-- The value that a setting is made of: what the variable of a name is read as, and if
that is not set what the first file holds, or else the standard. -/
inductive Source (reader : DocumentReader) (s : Surroundings) (requested : Option Text)
    (name part key : Text) (reads : Text → Value → Prop) (standard : Value) : Value → Prop
  | environment (t : Text) (v : Value) (h : s.readVariable? name = some t) (hreads : reads t v) :
      Source reader s requested name part key reads standard v
  | file (found : Option Value) (hunset : s.readVariable? name = none)
      (h : InFile reader s requested part key found) :
      Source reader s requested name part key reads standard (found.getD standard)

/-- The value that the length is made of. -/
def LengthSource (reader : DocumentReader) (s : Surroundings) (requested : Option Text) :
    Value → Prop :=
  Source reader s requested "CUID2_LENGTH" "generator" "default_length"
    (fun t v => ∃ n, Decimal.readInt 10 t = .ok n ∧ v = .int n) (.int 24)

/-- The value that the level is made of. -/
def LevelSource (reader : DocumentReader) (s : Surroundings) (requested : Option Text) :
    Value → Prop :=
  Source reader s requested "CUID2_LOG_LEVEL" "logging" "level" (fun t v => v = .text t)
    (.text "WARNING")

/-- Settings suit those that use them. -/
structure Usable (reader : DocumentReader) (s : Surroundings) (requested : Option Text)
    (settings : Settings) : Prop where
  /-- What the length is made of is the integer itself, and nothing that stands for one. -/
  length : ∀ v, LengthSource reader s requested v ↔ v = .int settings.length.val
  accepted : checkLength (.int settings.length.val) = .ok none
  /-- No generator turns a request for that length down, whatever state it is in. -/
  request : ∀ g w outcome,
    (World.tryGenerate g (.int settings.length.val) w).answer = .ok outcome →
    outcome.error ≠ some .invalidArgument
  /-- The level is what the sources hold, in upper case. -/
  level : ∃ v shown, LevelSource reader s requested v ∧ v.display = .ok shown ∧
    title settings.level = shown.upper
  upper : (title settings.level).upper = title settings.level
  /-- The name of the level stands for a weight: that is what a sink is configured with. -/
  threshold : ∀ {σ : Type} (sink : Sink σ) (json : Bool) (s : σ),
    sink.configureBy (title settings.level) json s =
      sink.configure (.int settings.level.weight) json s
  /-- A sink that knows the severities can be configured with the level, in either form. -/
  configures : ∀ {σ : Type} (sink : Sink σ), sink.KnowsSeverities → ∀ (json : Bool) (s : σ),
    (sink.configureBy (title settings.level) json s).1 = .ok ()
  /-- The form is a truth value, whatever the file holds. -/
  json : ∃ found, InFile reader s requested "logging" "json" found ∧
    settings.json = found.any Value.isTrue
  version : settings.version.sameKey (.int 1) = true
  path_eq_none : settings.path = none ↔ NoFile s requested
  path_eq_some : ∀ path, settings.path = some path ↔
    ∃ contents, IsFirstFile s (candidates s requested) path contents

/-! ## The sources -/

section Sources

variable {reader : DocumentReader} {s : Surroundings} {requested : Option Text}

/-- The first file holds at most one value at a place. -/
theorem InFile.unique {part key : Text} {found found' : Option Value}
    (h : InFile reader s requested part key found)
    (h' : InFile reader s requested part key found') : found = found' := by
  cases h with
  | missing hnone =>
      cases h' with
      | missing => rfl
      | found _ _ _ hfile => exact absurd hnone hfile.not_nowhere
  | found path bytes document hfile hread =>
      cases h' with
      | missing hnone => exact absurd hnone hfile.not_nowhere
      | found path' bytes' document' hfile' hread' =>
          obtain ⟨-, hbytes⟩ := hfile.unique hfile'
          obtain rfl := Except.ok.inj hbytes
          rw [hread] at hread'
          obtain rfl := Except.ok.inj hread'
          rfl

/-- What a base gives, before the environment overrides it, is what the first file holds,
or the standard. -/
structure FromFile (reader : DocumentReader) (s : Surroundings) (requested : Option Text)
    (base : Settings) : Prop where
  length : ∃ found, InFile reader s requested "generator" "default_length" found ∧
    found.getD (.int 24) = .int base.length.val
  level : ∃ found, InFile reader s requested "logging" "level" found ∧
    ∃ shown, (found.getD (.text "WARNING")).display = .ok shown ∧ title base.level = shown.upper
  json : ∃ found, InFile reader s requested "logging" "json" found ∧
    base.json = found.any Value.isTrue
  version : base.version.sameKey (.int 1) = true
  path_eq_none : base.path = none ↔ NoFile s requested
  path_eq_some : ∀ path, base.path = some path ↔
    ∃ contents, IsFirstFile s (candidates s requested) path contents

theorem FromFile.of_noFile (h : NoFile s requested) : FromFile reader s requested standard where
  length := ⟨none, .missing h, rfl⟩
  level := ⟨none, .missing h, "WARNING", rfl, (upper_title .warning).symm⟩
  json := ⟨none, .missing h, rfl⟩
  version := by decide
  path_eq_none := iff_of_true rfl h
  path_eq_some path := by
    refine iff_of_false (fun hpath => by cases hpath) ?_
    rintro ⟨contents, hfile⟩
    exact hfile.not_nowhere h

theorem FromFile.of_gives {path : Text} {bytes : Bytes} {document : Value} {base : Settings}
    (hfile : IsFirstFile s (candidates s requested) path (.ok bytes))
    (hread : reader (.opened bytes) = .ok document)
    (h : Gives document path base) : FromFile reader s requested base where
  length := by
    refine ⟨_, .found path bytes document hfile hread, ?_⟩
    cases hfound : (document.under "generator").value? "default_length" with
    | none => rw [h.length.standard hfound]; rfl
    | some v => exact h.length.given v hfound
  level := by
    refine ⟨_, .found path bytes document hfile hread, ?_⟩
    cases hfound : (document.under "logging").value? "level" with
    | none => exact ⟨"WARNING", rfl, by rw [h.level.standard hfound]; decide⟩
    | some v =>
        obtain ⟨shown, hshown, hupper⟩ := h.level.given v hfound
        exact ⟨shown, hshown, hupper.symm⟩
  json := ⟨_, .found path bytes document hfile hread, h.json⟩
  version := h.supported
  path_eq_none := by
    rw [h.path]
    exact iff_of_false (fun hpath => by cases hpath) hfile.not_nowhere
  path_eq_some path' := by
    rw [h.path, Option.some.injEq]
    constructor
    · rintro rfl
      exact ⟨_, hfile⟩
    · rintro ⟨contents, hfile'⟩
      exact (hfile.unique hfile').1

/-- Settled settings are what a base from the first file, or without one, comes to under
the environment. -/
theorem Settles.exists_fromFile {settings : Settings} (h : Settles reader s requested settings) :
    ∃ base, FromFile reader s requested base ∧ Overrides s base settings := by
  cases h with
  | default hnone h => exact ⟨standard, .of_noFile hnone, h⟩
  | file path bytes document base hfile hread hgives h =>
      exact ⟨base, .of_gives hfile hread hgives, h⟩

variable {base settings : Settings}

/-- The length is the one value that its source has. -/
theorem lengthSource_iff (hbase : FromFile reader s requested base) (h : Overrides s base settings)
    (v : Value) : LengthSource reader s requested v ↔ v = .int settings.length.val := by
  obtain ⟨found, hfound, hvalue⟩ := hbase.length
  cases hset : s.readVariable? lengthVariable with
  | some t =>
      have hread := h.length t hset
      constructor
      · rintro (⟨t', v, ht', n, hn, rfl⟩ | ⟨_, hunset, _⟩)
        · rw [show s.readVariable? "CUID2_LENGTH" = some t from hset] at ht'
          obtain rfl := Option.some.inj ht'
          rw [hread] at hn
          rw [Except.ok.inj hn]
        · rw [show s.readVariable? "CUID2_LENGTH" = some t from hset] at hunset
          cases hunset
      · rintro rfl
        exact .environment t _ hset ⟨_, hread, rfl⟩
  | none =>
      rw [h.length_kept hset, ← hvalue]
      constructor
      · rintro (⟨t', v, ht', _⟩ | ⟨found', -, hfound'⟩)
        · rw [show s.readVariable? "CUID2_LENGTH" = none from hset] at ht'
          cases ht'
        · rw [hfound.unique hfound']
      · rintro rfl
        exact .file found hset hfound

theorem exists_levelSource (hbase : FromFile reader s requested base)
    (h : Overrides s base settings) :
    ∃ v shown, LevelSource reader s requested v ∧ v.display = .ok shown ∧
      title settings.level = shown.upper := by
  cases hset : s.readVariable? levelVariable with
  | some t => exact ⟨.text t, t, .environment t _ hset rfl, rfl, (h.level t hset).symm⟩
  | none =>
      obtain ⟨found, hfound, shown, hshown, hupper⟩ := hbase.level
      rw [h.level_kept hset]
      exact ⟨_, shown, .file found hset hfound, hshown, hupper⟩

end Sources

/-! ## The whole -/

/-- **Loaded settings suit those that use them**, whatever files and variables they come
from, and whatever reader has read the files. -/
theorem load_usable {σ : Type} {reader : DocumentReader} {s : Surroundings}
    {requested : Option Text} {t : σ} {settings : Settings}
    (h : (load reader s requested t).answer = .ok settings) :
    Usable reader s requested settings := by
  obtain ⟨base, hbase, hoverrides⟩ := (load_eq_ok_iff.mp h).exists_fromFile
  have hlength : Length.ofValue (.int settings.length.val) = .ok settings.length :=
    Length.ofInt_eq_ok_iff.mpr rfl
  exact
    { length := lengthSource_iff hbase hoverrides
      accepted := checkLength_val settings.length
      request := fun g w outcome => World.error_ne_invalidArgument hlength
      level := exists_levelSource hbase hoverrides
      upper := upper_title settings.level
      threshold := configureBy_title settings.level
      configures := by
        intro σ sink hsink json s
        rw [configureBy_title]
        exact hsink settings.level json s
      json := by
        rw [hoverrides.json]
        exact hbase.json
      version := by
        rw [hoverrides.version]
        exact hbase.version
      path_eq_none := by
        rw [hoverrides.path]
        exact hbase.path_eq_none
      path_eq_some := by
        rw [hoverrides.path]
        exact hbase.path_eq_some }

/-- Surroundings whose file gives its version as a truth value, its length in base sixteen and
its level in small letters, one of them without its dot. -/
def oddSpellings : Surroundings where
  file? path :=
    if path = usualPath then
      some (.ok ("version: yes\ngenerator:\n  default_length: 0x10\n" ++
        "logging:\n  level: warnıng\n  json: 2\n").toUTF8.toList)
    else none
  environment := []
  ownHome := some "/root"
  homes _ := none

/-- What that file says. -/
def oddDocument : Value :=
  .dict [(.text "version", .bool true),
    (.text "generator", .dict [(.text "default_length", .int 16)]),
    (.text "logging", .dict [(.text "level", .text "warnıng"), (.text "json", .int 2)])]

/-- The length that the file gives is one that generators accept, and a printer knows the
level. -/
theorem load_usable_oddSpellings :
    ∃ settings, (load (fun _ => .ok oddDocument) oddSpellings none ()).answer = .ok settings ∧
      Usable (fun _ => .ok oddDocument) oddSpellings none settings ∧
        settings.length.val = 16 ∧ settings.level = .warning ∧ settings.json = true ∧
        ∀ p : Printer, (Printer.sink.configureBy (title settings.level) settings.json p).1 =
          .ok () := by
  have hload : (load (fun _ => .ok oddDocument) oddSpellings none ()).answer.toOption.any
      (fun settings => settings.length.val = 16 ∧ settings.level = .warning ∧
        settings.json = true) = true := by
    decide +kernel
  cases hanswer : (load (fun _ => .ok oddDocument) oddSpellings none ()).answer with
  | error fault =>
      rw [hanswer] at hload
      cases hload
  | ok settings =>
      rw [hanswer] at hload
      obtain ⟨hlength, hlevel, hjson⟩ := of_decide_eq_true hload
      have husable := load_usable hanswer
      exact ⟨settings, rfl, husable, hlength, hlevel, hjson,
        husable.configures Printer.sink Printer.sink_knowsSeverities settings.json⟩

end Settings

end IdMint
