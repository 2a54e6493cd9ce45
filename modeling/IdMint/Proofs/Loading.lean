import IdMint.Proofs.Documents

/-!
# Where settings are loaded from

The search goes along four candidates, and the first file that is there counts,
whatever is in it (`Settings.IsFirstFile`).  A candidate that cannot be expanded ends
the search as a fault, unless there is a file before it (`Settings.SearchFails`).

What comes of the loading depends on the search, on the file, on what a reader of
documents makes of it, and on two variables of the environment, and on nothing else
(`Settings.answer_load`).
-/

namespace IdMint

namespace Settings

/-! ## The search -/

section Search

variable {s : Surroundings} {places : List Text} {path : Text} {contents : Contents}
  {fault : Fault}

/-- Where settings are looked for: at the path that the caller names and at the one
that the environment names, unless they are empty, then below the working directory,
and below the home directory.  The tilde of the last one is expanded here already. -/
def candidates (s : Surroundings) (requested : Option Text) : List Text :=
  (requested.toList ++ (s.readVariable? "CUID2_CONFIG").toList).filter (· ≠ []) ++
    (".cuid2/config.yaml" : Text) :: (s.expand "~/.cuid2/config.yaml").toOption.toList

theorem expand_below_home (s : Surroundings) :
    s.expand "~/.cuid2/config.yaml" = .ok (s.ownPath "/.cuid2/config.yaml") := rfl

theorem searchPaths_eq (s : Surroundings) (requested : Option Text) :
    searchPaths s requested = candidates s requested := by
  have hoptional : ∀ path : Option Text,
      optionalPath path = path.toList.filter (· ≠ []) := by
    intro path
    rcases path with _ | _ | _ <;> rfl
  rw [searchPaths, candidates, List.filter_append, hoptional, hoptional, expand_below_home]
  rfl

/-- The candidate can be expanded, and there is no file at the path. -/
def LeadsNowhere (s : Surroundings) (candidate : Text) : Prop :=
  ∃ path, s.expand candidate = .ok path ∧ s.file? path = none

/-- The candidate that leads to a file is the first one that does not lead nowhere. -/
structure IsFirstFile (s : Surroundings) (places : List Text) (path : Text)
    (contents : Contents) : Prop where
  split : ∃ earlier candidate later, places = earlier ++ candidate :: later ∧
    (∀ c ∈ earlier, LeadsNowhere s c) ∧ s.expand candidate = .ok path
  file : s.file? path = some contents

/-- The first candidate that does not lead nowhere cannot be expanded. -/
def SearchFails (s : Surroundings) (places : List Text) (fault : Fault) : Prop :=
  ∃ earlier candidate later, places = earlier ++ candidate :: later ∧
    (∀ c ∈ earlier, LeadsNowhere s c) ∧ s.expand candidate = .error fault

/-- How the search along some candidates ends. -/
inductive Searched (s : Surroundings) (places : List Text) :
    Except Fault (Option (Text × Contents)) → Prop
  | nowhere (h : ∀ c ∈ places, LeadsNowhere s c) : Searched s places (.ok none)
  | file {path : Text} {contents : Contents} (h : IsFirstFile s places path contents) :
      Searched s places (.ok (some (path, contents)))
  | fails {fault : Fault} (h : SearchFails s places fault) :
      Searched s places (.error fault)

/-- The search passes by what leads nowhere. -/
theorem firstFile?_cons {candidate : Text} (h : LeadsNowhere s candidate) (rest : List Text) :
    firstFile? s (candidate :: rest) = firstFile? s rest := by
  obtain ⟨path, hpath, hnone⟩ := h
  rw [firstFile?, hpath]
  dsimp only [bind, Except.bind]
  rw [hnone]

theorem firstFile?_append {earlier : List Text} (h : ∀ c ∈ earlier, LeadsNowhere s c)
    (rest : List Text) : firstFile? s (earlier ++ rest) = firstFile? s rest := by
  induction earlier with
  | nil => rfl
  | cons c earlier ih =>
      rw [List.cons_append, firstFile?_cons (h c (by simp))]
      exact ih fun later hlater => h later (by simp [hlater])

/-- It ends at a file. -/
theorem firstFile?_cons_of_file {candidate : Text} (hpath : s.expand candidate = .ok path)
    (hfile : s.file? path = some contents) (rest : List Text) :
    firstFile? s (candidate :: rest) = .ok (some (path, contents)) := by
  rw [firstFile?, hpath]
  dsimp only [bind, Except.bind]
  rw [hfile]
  rfl

/-- It ends as a fault where a candidate cannot be expanded. -/
theorem firstFile?_cons_of_fault {candidate : Text} (hfault : s.expand candidate = .error fault)
    (rest : List Text) : firstFile? s (candidate :: rest) = .error fault := by
  rw [firstFile?, hfault]
  rfl

theorem Searched.eq {answer : Except Fault (Option (Text × Contents))}
    (h : Searched s places answer) : firstFile? s places = answer := by
  cases h with
  | nowhere h =>
      have hskip := firstFile?_append h []
      rwa [List.append_nil] at hskip
  | file h =>
      obtain ⟨⟨earlier, candidate, later, rfl, hearlier, hpath⟩, hfile⟩ := h
      rw [firstFile?_append hearlier, firstFile?_cons_of_file hpath hfile]
  | fails h =>
      obtain ⟨earlier, candidate, later, rfl, hearlier, hfault⟩ := h
      rw [firstFile?_append hearlier, firstFile?_cons_of_fault hfault]

/-- A candidate that leads nowhere may be put before the others. -/
theorem Searched.cons {c : Text} {answer : Except Fault (Option (Text × Contents))}
    (hc : LeadsNowhere s c) (h : Searched s places answer) :
    Searched s (c :: places) answer := by
  cases h with
  | nowhere h => exact .nowhere (List.forall_mem_cons.mpr ⟨hc, h⟩)
  | file h =>
      obtain ⟨⟨earlier, candidate, later, rfl, hearlier, hpath⟩, hfile⟩ := h
      exact .file ⟨⟨c :: earlier, candidate, later, rfl,
        List.forall_mem_cons.mpr ⟨hc, hearlier⟩, hpath⟩, hfile⟩
  | fails h =>
      obtain ⟨earlier, candidate, later, rfl, hearlier, hfault⟩ := h
      exact .fails ⟨c :: earlier, candidate, later, rfl,
        List.forall_mem_cons.mpr ⟨hc, hearlier⟩, hfault⟩

theorem searched_firstFile? (s : Surroundings) (places : List Text) :
    Searched s places (firstFile? s places) := by
  induction places with
  | nil => exact .nowhere (by simp)
  | cons c rest ih =>
      cases hpath : s.expand c with
      | error fault =>
          rw [firstFile?_cons_of_fault hpath]
          exact .fails ⟨[], c, rest, rfl, by simp, hpath⟩
      | ok path =>
          cases hfile : s.file? path with
          | none =>
              have hnowhere : LeadsNowhere s c := ⟨path, hpath, hfile⟩
              rw [firstFile?_cons hnowhere]
              exact ih.cons hnowhere
          | some contents =>
              rw [firstFile?_cons_of_file hpath hfile]
              exact .file ⟨⟨[], c, rest, rfl, by simp, hpath⟩, hfile⟩

/-- The search ends in exactly one way. -/
theorem firstFile?_eq_iff {answer : Except Fault (Option (Text × Contents))} :
    firstFile? s places = answer ↔ Searched s places answer := by
  constructor
  · rintro rfl
    exact searched_firstFile? s places
  · exact Searched.eq

theorem firstFile?_eq_some_iff :
    firstFile? s places = .ok (some (path, contents)) ↔
      IsFirstFile s places path contents := by
  rw [firstFile?_eq_iff]
  constructor
  · intro h
    cases h with
    | file h => exact h
  · exact .file

theorem firstFile?_eq_none_iff :
    firstFile? s places = .ok none ↔ ∀ c ∈ places, LeadsNowhere s c := by
  rw [firstFile?_eq_iff]
  constructor
  · intro h
    cases h with
    | nowhere h => exact h
  · exact .nowhere

theorem firstFile?_eq_error_iff :
    firstFile? s places = .error fault ↔ SearchFails s places fault := by
  rw [firstFile?_eq_iff]
  constructor
  · intro h
    cases h with
    | fails h => exact h
  · exact .fails

theorem Searched.unique {answer answer' : Except Fault (Option (Text × Contents))}
    (h : Searched s places answer) (h' : Searched s places answer') : answer = answer' :=
  h.eq.symm.trans h'.eq

/-- There is at most one first file. -/
theorem IsFirstFile.unique {path' : Text} {contents' : Contents}
    (h : IsFirstFile s places path contents) (h' : IsFirstFile s places path' contents') :
    path = path' ∧ contents = contents' := by
  cases (Searched.file h).unique (.file h')
  exact ⟨rfl, rfl⟩

theorem IsFirstFile.not_nowhere (h : IsFirstFile s places path contents) :
    ¬∀ c ∈ places, LeadsNowhere s c := by
  intro hnowhere
  cases (Searched.file h).unique (.nowhere hnowhere)

/-- A search that comes to a file does not fail. -/
theorem IsFirstFile.not_searchFails (h : IsFirstFile s places path contents) :
    ¬SearchFails s places fault := by
  intro hfails
  cases (Searched.file h).unique (.fails hfails)

theorem SearchFails.not_nowhere (h : SearchFails s places fault) :
    ¬∀ c ∈ places, LeadsNowhere s c := by
  intro hnowhere
  cases (Searched.fails h).unique (.nowhere hnowhere)

end Search

/-! ## Files -/

variable {reader : DocumentReader}

/-- What escapes from a file. -/
inductive FileEscape (reader : DocumentReader) (contents : Contents) : Fault → Prop
  /-- It comes from the reader of documents, which does not call the file malformed. -/
  | reader (bytes : Bytes) (h : contents = .ok bytes) (fault : Fault)
      (hread : reader (.opened bytes) = .error (.fault fault)) :
      FileEscape reader contents fault
  | document (bytes : Bytes) (h : contents = .ok bytes) (document : Value)
      (hread : reader (.opened bytes) = .ok document) (fault : Fault)
      (hfault : Escape document fault) : FileEscape reader contents fault

section Document

variable {path : Text} {bytes : Bytes}

theorem document_of_read {found : Value} (h : reader (.opened bytes) = .ok found) :
    document reader path (.ok bytes) = .ok found := by
  unfold document
  simp only [h]

theorem document_of_malformed (h : reader (.opened bytes) = .error .malformed) :
    document reader path (.ok bytes) = .error (Problem.unparsable path).fault := by
  unfold document
  simp only [h]

theorem document_of_fault {fault : Fault} (h : reader (.opened bytes) = .error (.fault fault)) :
    document reader path (.ok bytes) = .error fault := by
  unfold document
  simp only [h]

theorem document_error (reason : Text) :
    document reader path (.error reason) = .error (Problem.unreadable path reason).fault := by
  unfold document
  rfl

end Document

theorem document_eq_ok_iff {path : Text} {contents : Contents} {found : Value} :
    document reader path contents = .ok found ↔
      ∃ bytes, contents = .ok bytes ∧ reader (.opened bytes) = .ok found := by
  cases contents with
  | error reason =>
      rw [document_error]
      simp
  | ok bytes =>
      rcases hread : reader (.opened bytes) with (_ | fault) | value
      · rw [document_of_malformed hread]
        simp [hread]
      · rw [document_of_fault hread]
        simp [hread]
      · rw [document_of_read hread]
        simp [hread]

theorem settled_document (reader : DocumentReader) (path : Text) (contents : Contents) :
    Settled (fun fault => ∃ bytes, contents = .ok bytes ∧
      reader (.opened bytes) = .error (.fault fault)) (document reader path contents) := by
  cases contents with
  | error reason =>
      rw [document_error]
      exact (Settled.of_problem _).congr fun fault => by simp
  | ok bytes =>
      rcases hread : reader (.opened bytes) with (_ | escaped) | value
      · rw [document_of_malformed hread]
        exact (Settled.of_problem _).congr fun fault => by simp [hread]
      · rw [document_of_fault hread]
        exact (Settled.of_fault escaped).congr fun fault => by simp [hread, eq_comm]
      · rw [document_of_read hread]
        exact (Settled.of_ok value).congr fun fault => by simp [hread]

/-- Settings come of a file if it can be read, holds a document that gives settings,
and the environment has no objection. -/
theorem resolve_eq_ok_iff {s : Surroundings} {path : Text} {contents : Contents}
    {settings : Settings} :
    resolve reader s path contents = .ok settings ↔
      ∃ bytes found base, contents = .ok bytes ∧ reader (.opened bytes) = .ok found ∧
        Gives found path base ∧ Overrides s base settings := by
  rw [resolve, Except.bind_eq_ok_iff]
  constructor
  · rintro ⟨found, hfound, h⟩
    obtain ⟨base, hbase, h⟩ := Except.bind_eq_ok_iff.mp h
    obtain ⟨bytes, hbytes, hread⟩ := document_eq_ok_iff.mp hfound
    exact ⟨bytes, found, base, hbytes, hread, ofFile_eq_ok_iff.mp hbase,
      override_eq_ok_iff.mp h⟩
  · rintro ⟨bytes, found, base, hbytes, hread, hbase, h⟩
    exact ⟨found, document_eq_ok_iff.mpr ⟨bytes, hbytes, hread⟩, Except.bind_eq_ok_iff.mpr
      ⟨base, ofFile_eq_ok_iff.mpr hbase, override_eq_ok_iff.mpr h⟩⟩

theorem settled_resolve (reader : DocumentReader) (s : Surroundings) (path : Text)
    (contents : Contents) :
    Settled (FileEscape reader contents) (resolve reader s path contents) := by
  refine ((settled_document reader path contents).bind fun found _ =>
    (settled_ofFile found path).bind fun base _ =>
      settled_override s base).congr fun fault => ⟨?_, ?_⟩
  · rintro (⟨bytes, hbytes, hread⟩ | ⟨found, hfound, hfault | ⟨base, -, hnone⟩⟩)
    · exact .reader bytes hbytes fault hread
    · obtain ⟨bytes, hbytes, hread⟩ := document_eq_ok_iff.mp hfound
      exact .document bytes hbytes found hread fault hfault
    · exact hnone.elim
  · rintro (⟨bytes, hbytes, _, hread⟩ | ⟨bytes, hbytes, found, hread, _, hfault⟩)
    · exact Or.inl ⟨bytes, hbytes, hread⟩
    · exact Or.inr ⟨found, document_eq_ok_iff.mpr ⟨bytes, hbytes, hread⟩, Or.inl hfault⟩

/-! ## The whole -/

/-- What is done once a file is found. -/
theorem load_of_file {σ : Type} (reader : DocumentReader) {s : Surroundings}
    {requested : Option Text} {path : Text} {contents : Contents}
    (h : IsFirstFile s (candidates s requested) path contents) (t : σ) :
    load reader s requested t = (do
      Act.note .debug "Loading config" [("path", .text path)]
      let settings ← Act.ofExcept (resolve reader s path contents)
      Act.note .debug "Config loaded"
        [("path", .text path), ("version", settings.version),
          ("default_length", .int settings.length.val)]
      pure settings : Act σ Settings) t := by
  rw [load, searchPaths_eq, Act.bind_apply, Act.ofExcept_apply, firstFile?_eq_some_iff.mpr h]
  rfl

theorem answer_load_of_file {σ : Type} (reader : DocumentReader) {s : Surroundings}
    {requested : Option Text} {path : Text} {contents : Contents}
    (h : IsFirstFile s (candidates s requested) path contents) (t : σ) :
    (load reader s requested t).answer = resolve reader s path contents := by
  rw [load_of_file reader h, Act.bind_apply, Act.note_apply, Act.andThen_ok, Act.bind_apply,
    Act.ofExcept_apply]
  cases resolve reader s path contents <;> rfl

/-- What is loaded, however the search ends. -/
theorem answer_load {σ : Type} (reader : DocumentReader) (s : Surroundings)
    (requested : Option Text) (t : σ) :
    (load reader s requested t).answer =
      firstFile? s (candidates s requested) >>= fun found =>
        match found with
        | none => override s standard
        | some (path, contents) => resolve reader s path contents := by
  rcases hsearch : firstFile? s (candidates s requested) with fault | _ | ⟨path, contents⟩
  · rw [load, searchPaths_eq, Act.bind_apply, Act.ofExcept_apply, hsearch]
    rfl
  · rw [load, searchPaths_eq, Act.bind_apply, Act.ofExcept_apply, hsearch]
    rfl
  · exact answer_load_of_file reader (firstFile?_eq_some_iff.mp hsearch) t

/-- What escapes from the loading. -/
inductive LoadEscape (reader : DocumentReader) (s : Surroundings) (requested : Option Text) :
    Fault → Prop
  | search (fault : Fault) (h : SearchFails s (candidates s requested) fault) :
      LoadEscape reader s requested fault
  | file (path : Text) (contents : Contents) (fault : Fault)
      (h : IsFirstFile s (candidates s requested) path contents)
      (hfault : FileEscape reader contents fault) : LoadEscape reader s requested fault

theorem settled_load {σ : Type} (reader : DocumentReader) (s : Surroundings)
    (requested : Option Text) (t : σ) :
    Settled (LoadEscape reader s requested) (load reader s requested t).answer := by
  rw [answer_load]
  rcases hsearch : firstFile? s (candidates s requested) with fault | _ | ⟨path, contents⟩
  · have hfails := firstFile?_eq_error_iff.mp hsearch
    refine (Settled.of_fault fault).congr fun other => ⟨?_, ?_⟩
    · rintro rfl
      exact .search _ hfails
    · rintro (⟨_, hother⟩ | ⟨path, contents, _, hfile, -⟩)
      · exact Except.error.inj ((Searched.fails hother).unique (.fails hfails))
      · exact absurd hfails hfile.not_searchFails
  · have hnowhere := firstFile?_eq_none_iff.mp hsearch
    refine (settled_override s standard).congr fun fault => iff_of_false id ?_
    rintro (⟨_, hfails⟩ | ⟨path, contents, _, hfile, -⟩)
    · exact hfails.not_nowhere hnowhere
    · exact hfile.not_nowhere hnowhere
  · have hfile := firstFile?_eq_some_iff.mp hsearch
    refine (settled_resolve reader s path contents).congr fun fault => ⟨?_, ?_⟩
    · exact fun h => .file path contents fault hfile h
    · rintro (⟨_, hfails⟩ | ⟨path', contents', _, hfile', h⟩)
      · exact absurd hfails hfile.not_searchFails
      · rwa [(hfile.unique hfile').2]

/-- A report says in its first words what it is about. -/
theorem isPrefix_report (problem : Problem) : ("CONFIG ERROR: " : Text) <+: problem.report :=
  ⟨problem.detail ++ ("\n" : Text), by simp [Problem.report, Text.concat]⟩

end Settings

end IdMint
