import IdMint.Proofs.Lines
import IdMint.Proofs.Loading
import IdMint.Proofs.Requests

/-!
# Runs of the program, one after another

A run that has got over its arguments and its settings asks the shared generator for
identifiers, one request after another, and prints either all of them or none: they are
held back until the last one has been made (`Program.run_tells`).  What the requests have
taken from the generator stays taken, and the next run goes on from there
(`Program.runs_tell`).
-/

namespace IdMint

/-! ## What a run asks for -/

namespace CommandLine

/-- At least one identifier is asked for, if any number is. -/
def Request.IsPositive (request : Request) : Prop := ∀ n, request.count = .value n → 1 ≤ n

theorem Request.IsPositive.accept {request after : Request} {argument : Text} {s : Switch}
    (h : request.IsPositive) (haccept : request.accept argument s = .ok after) :
    after.IsPositive := by
  rw [Request.accept] at haccept
  split at haccept
  · obtain rfl := Except.ok.inj haccept
    cases s with
    | help | length | config => exact h
    | count =>
        intro n hn
        cases hn
  · cases s with
    | help | config =>
        obtain rfl := Except.ok.inj haccept
        exact h
    | length =>
        rw [Request.withValue] at haccept
        split at haccept
        · obtain rfl := Except.ok.inj haccept
          exact h
        · cases haccept
    | count =>
        rw [Request.withValue] at haccept
        split at haccept
        · next n hn =>
          split at haccept
          · cases haccept
          · obtain rfl := Except.ok.inj haccept
            intro count hcount
            obtain rfl := Given.value.inj hcount
            omega
        · cases haccept

/-- No option, and nothing that is put aside, makes the number of identifiers less than
one. -/
theorem isPositive_of_readFrom {words : List (Text × Word)} {request after : Request}
    {extras : List Text} {taken : Bool} (h : request.IsPositive)
    (hread : readFrom request extras taken words = .ok (.request after)) : after.IsPositive := by
  induction words generalizing request extras taken with
  | nil =>
      rw [readFrom] at hread
      split at hread
      · obtain rfl := Reading.request.inj (Except.ok.inj hread)
        exact h
      · cases hread
  | cons word rest ih =>
      obtain ⟨argument, word⟩ := word
      unfold readFrom at hread
      split at hread
      · exact ih h hread
      · cases word with
        | operand | unknown => exact ih h hread
        | option s isLong attached =>
            obtain ⟨wanted, -, hread⟩ := Except.bind_eq_ok_iff.mp hread
            cases wanted with
            | help => cases hread
            | attached s argument | next s argument =>
                obtain ⟨later, haccept, hread⟩ := Except.bind_eq_ok_iff.mp hread
                exact ih (h.accept haccept) hread

/-- A request that has been read asks for one identifier at least. -/
theorem isPositive_of_read {arguments : List Text} {request : Request}
    (h : read arguments = .request request) : request.IsPositive := by
  have hstart : Request.IsPositive {} := by
    intro n hn
    obtain rfl := Given.value.inj hn
    exact Nat.le_refl 1
  rw [read] at h
  split at h
  · next reading hreading =>
    subst h
    obtain ⟨words, -, hwords⟩ := Except.bind_eq_ok_iff.mp hreading
    exact isPositive_of_readFrom hstart hwords
  · cases h

end CommandLine

/-- A run whose arguments are accepted and whose settings can be loaded by a reader of
documents: what has changed on the machine since the run before, what surrounds the run, and
what it asks for. -/
structure Invocation (reader : DocumentReader) where
  change : PlatformChange
  surroundings : Surroundings
  arguments : List Text
  request : CommandLine.Request
  settings : Settings
  /-- The length of the identifiers. -/
  length : Int
  /-- How many identifiers are wanted. -/
  count : Nat
  accepted : CommandLine.read arguments = .request request
  loaded : (Settings.load reader surroundings request.config ()).answer = .ok settings
  length_eq : request.length = some (.value length) ∨
    request.length = none ∧ length = settings.length.val
  count_eq : request.count = .value count

/-- What is seen of a run tells what has come of its requests: all identifiers, a line each,
or else no identifier at all, and a message if the failure is one that callers are
promised. -/
structure Report.Tells (report : Report) (served : Service.Served) : Prop where
  completed : served.fault? = none →
    report.ending = .completed 0 ∧ report.output = Text.lines served.identifiers
  withheld : served.fault? ≠ none → report.output = []
  promised : ∀ fault, served.fault? = some fault → fault.isIdentifierFailure = true →
    report.ending = .completed 1 ∧
      ∃ lines, report.errors = Text.lines (lines ++ [Text.concat ["Error: ", fault.message]])
  escaped : ∀ fault, served.fault? = some fault → ¬fault.isIdentifierFailure = true →
    report.ending = .failed fault

namespace Service

variable {reader : DocumentReader}

/-- The service after a change of the operating system. -/
def changed (change : PlatformChange) (s : Service) : Service := (changeSystem change s).state

/-- What comes of the requests of several runs, one after another. -/
def serveAll : List (Invocation reader) → Service → List Served × Service
  | [], s => ([], s)
  | run :: rest, s =>
    let served := askFor (.int run.length) run.count (s.changed run.change)
    let (others, last) := serveAll rest served.after
    (served :: others, last)

/-- The platforms fit into memory at the start of every run. -/
def FitsThroughout : List (Invocation reader) → Service → Prop
  | [], _ => True
  | run :: rest, s =>
    (s.changed run.change).FitsMemory ∧
      FitsThroughout rest (askFor (.int run.length) run.count (s.changed run.change)).after

/-- Where nothing is changed but the random bytes, the platforms go on fitting into memory. -/
theorem FitsMemory.changed {s : Service} (h : s.FitsMemory) {change : PlatformChange}
    (hname : change.hostName = none) (hprocess : change.processId = none)
    (henvironment : change.environment = none) : (s.changed change).FitsMemory := by
  have hsame : ((s.world.platform 0).changed { change with integerSource := none }).SameHost
      (s.world.platform 0) := by
    constructor
    · simp [Platform.changed, hname]
    · simp [Platform.changed, hprocess]
    · simp [Platform.changed, henvironment]
  refine World.FitsMemory.of_sameHost h fun i => ?_
  show ((s.world.setPlatform 0 _).platform i).SameHost _
  rcases s.world.platform_setPlatform_or 0 i _ with hkept | ⟨rfl, hnew⟩
  · rw [hkept]
    exact .refl _
  · rw [hnew]
    exact hsame

/-- On a host that stays as it is, the platforms fit into memory if they do so at the
start. -/
theorem FitsMemory.throughout {s : Service} (h : s.FitsMemory) {runs : List (Invocation reader)}
    (hruns : ∀ run ∈ runs, run.change.hostName = none ∧ run.change.processId = none ∧
      run.change.environment = none) : s.FitsThroughout runs := by
  induction runs generalizing s with
  | nil => trivial
  | cons run rest ih =>
      obtain ⟨hname, hprocess, henvironment⟩ := hruns run (by simp)
      have hchanged := h.changed hname hprocess henvironment
      exact ⟨hchanged, ih (hchanged.askFor _ _) fun later hlater => hruns later (by simp [hlater])⟩

end Service

namespace Program

variable {σ : Type} {reader : DocumentReader} {sink : Sink σ}

/-- Runs of the program, one after another: what is seen of each, and the program that they
leave. -/
def runs (sink : Sink σ) : List (Invocation reader) → Program σ → List Report × Program σ
  | [], p => ([], p)
  | run :: rest, p =>
    let (report, p) := Program.run reader sink run.surroundings run.arguments
      { p with service := p.service.changed run.change }
    let (reports, p) := runs sink rest p
    (report :: reports, p)

/-- What plain actions note down is written in whole lines, and their answer is passed on. -/
theorem perform_of_plain {α : Type} {act : Act Service α} {p : Program σ}
    (hwrites : sink.WritesLines) (h : ∀ entry ∈ (act p.service).entries, entry.IsPlain) :
    ∃ lines journal, p.perform sink act =
      ((act p.service).answer, Text.lines lines, ⟨(act p.service).state, journal⟩) := by
  obtain ⟨lines, journal, hwritten⟩ := hwrites.writeAll h p.journal
  exact ⟨lines, journal, by rw [perform]; simp only [hwritten]; rfl⟩

end Program

/-! ## Loading -/

namespace Settings

/-- A version that is understood can be written. -/
theorem isPlain_of_sameKey {version : Value} (h : version.sameKey (.int 1) = true) :
    version.IsPlain := by
  cases version with
  | bool | float => exact trivial
  | int n =>
      have hn : n = 1 := by simpa [Value.sameKey, Value.asInteger?] using h
      subst hn
      exact Decimal.isWritable_of_natAbs_lt (by decide : (1 : Int).natAbs < 10 ^ 1) (by decide)
  | null | text | bytes | date | timestamp | list | pair | set | dict | object
    | recurrence => simp [Value.sameKey, Value.asInteger?] at h

/-- The version of settings that a file gives is understood, also after the environment has
had its say. -/
theorem isPlain_version {reader : DocumentReader} {s : Surroundings} {path : Text}
    {contents : Contents} {settings : Settings}
    (h : resolve reader s path contents = .ok settings) :
    settings.version.IsPlain := by
  obtain ⟨bytes, found, base, -, -, hgives, hoverrides⟩ := resolve_eq_ok_iff.mp h
  rw [hoverrides.version]
  exact isPlain_of_sameKey hgives.supported

/-- Loading settings with success changes nothing, and what it notes down can be written. -/
theorem load_of_ok {σ : Type} {reader : DocumentReader} {s : Surroundings}
    {requested : Option Text} {t : σ} {settings : Settings}
    (h : (load reader s requested ()).answer = .ok settings) :
    (load reader s requested t).answer = .ok settings ∧ (load reader s requested t).state = t ∧
      ∀ entry ∈ (load reader s requested t).entries, entry.IsPlain := by
  have htext : ∀ t, (Value.text t).IsPlain := fun _ => trivial
  rw [answer_load] at h ⊢
  rcases hsearch : firstFile? s (candidates s requested) with fault | _ | ⟨path, contents⟩
  · rw [hsearch] at h
    cases h
  · rw [hsearch] at h
    have hsettings : override s standard = .ok settings := h
    have hrun : load reader s requested t =
        ⟨.ok settings, t, [⟨.debug, "No config file found, using defaults",
          [("searched", .list ((candidates s requested).map Value.text))]⟩]⟩ := by
      rw [load, searchPaths_eq, Act.bind_apply, Act.ofExcept_apply, hsearch, Act.andThen_ok]
      simp only [Act.bind_apply, Act.note_apply, Act.andThen_ok, Act.ofExcept_apply, hsettings]
      rfl
    rw [hrun]
    refine ⟨h, rfl, List.forall_mem_singleton.mpr ?_⟩
    exact (Entry.isPlain_event _ _).field (by decide) (by simp [Value.IsPlain])
  · rw [hsearch] at h
    have hresolve : resolve reader s path contents = .ok settings := h
    have hrun : load reader s requested t =
        ⟨.ok settings, t, [⟨.debug, "Loading config", [("path", .text path)]⟩,
          ⟨.debug, "Config loaded", [("path", .text path), ("version", settings.version),
            ("default_length", .int settings.length.val)]⟩]⟩ := by
      rw [load_of_file reader (firstFile?_eq_some_iff.mp hsearch)]
      simp only [Act.bind_apply, Act.note_apply, Act.andThen_ok, Act.ofExcept_apply, hresolve,
        Act.pure_apply]
      rfl
    have hlength : (Value.int settings.length.val).IsPlain := settings.length.isWritable_val
    rw [hrun]
    refine ⟨h, rfl, List.forall_mem_cons.mpr ⟨?_, List.forall_mem_singleton.mpr ?_⟩⟩
    · exact (Entry.isPlain_event _ _).field (by decide) (htext path)
    · exact (((Entry.isPlain_event _ _).field (by decide) hlength).field (by decide)
        (isPlain_version hresolve)).field (by decide) (htext path)

end Settings

/-! ## One run -/

/-- Parts with line breaks between them, and one more behind, are a line each. -/
theorem Text.join_append_eq_lines {parts : List Text} (h : parts ≠ []) :
    Text.join "\n" parts ++ ("\n" : Text) = Text.lines parts := by
  induction parts with
  | nil => exact absurd rfl h
  | cons part rest ih =>
      cases rest with
      | nil => simp [Text.join, Text.lines]
      | cons next rest =>
          have hrest := ih (by simp)
          rw [Text.join, List.append_assoc, hrest]
          · rfl
          · simp

theorem Text.lines_append (lines more : List Text) :
    Text.lines (lines ++ more) = Text.lines lines ++ Text.lines more := by
  simp [Text.lines]

namespace Program

open Service

/-- What is handed on of requests: the identifiers, a message, or the fault. -/
def reply (served : Served) : Except Fault (Except Text (List Text)) :=
  match served.fault? with
  | none => .ok (.ok served.identifiers)
  | some fault => if fault.isIdentifierFailure then .ok (.error fault.message) else .error fault

theorem reply_of_none {served : Served} (h : served.fault? = none) :
    reply served = .ok (.ok served.identifiers) := by
  rw [reply, h]

theorem reply_of_promised {served : Served} {fault : Fault} (h : served.fault? = some fault)
    (hfailure : fault.isIdentifierFailure = true) : reply served = .ok (.error fault.message) := by
  rw [reply, h]
  exact if_pos hfailure

theorem reply_of_escape {served : Served} {fault : Fault} (h : served.fault? = some fault)
    (hescape : ¬fault.isIdentifierFailure = true) : reply served = .error fault := by
  rw [reply, h]
  exact if_neg hescape

/-- Serving a request asks for its identifiers one after another, and what is noted down
meanwhile can be written. -/
theorem serve_apply {request : CommandLine.Request} (settings : Settings) {count : Nat}
    (hcount : request.count = .value count) (s : Service) :
    let served := askFor (lengthFor request settings) count s
    (serve request settings s).answer = reply served ∧
      (serve request settings s).state = served.after ∧
      (s.FitsMemory → ∀ entry ∈ (serve request settings s).entries, entry.IsPlain) := by
  intro served
  obtain ⟨hanswer, hstate, hentries⟩ := times_generate (lengthFor request settings) count s
  have hcountFor : countFor request = .ok count := by rw [countFor, hcount]
  rw [serve, Act.bind_apply, hcountFor, Act.ofExcept_apply, Act.andThen_ok, Act.bind_apply, mint,
    Act.attempt_apply, Act.andThen_ok]
  rcases hrun : Act.times count (generate (lengthFor request settings)) s with
    ⟨fault | identifiers, after, entries⟩
  · rw [hrun] at hanswer hstate hentries
    have hfault := Served.answer_eq_error_iff.mp hanswer.symm
    dsimp only at hstate hentries ⊢
    by_cases hfailure : fault.isIdentifierFailure = true
    · have hnoted : s.FitsMemory → ∀ entry ∈ entries ++
          [⟨.debug, "generation_failed", [("error", .text fault.message)]⟩], entry.IsPlain := by
        intro h
        refine List.forall_mem_append.mpr ⟨hentries h, List.forall_mem_singleton.mpr ?_⟩
        exact (Entry.isPlain_event _ _).field (by decide) trivial
      rw [if_pos hfailure, reply_of_promised hfault hfailure]
      exact ⟨rfl, hstate, hnoted⟩
    · rw [if_neg hfailure, reply_of_escape hfault hfailure, Act.fail_apply, List.nil_append,
        List.append_nil]
      exact ⟨rfl, hstate, hentries⟩
  · rw [hrun] at hanswer hstate hentries
    obtain ⟨hnone, hidentifiers⟩ := Served.answer_eq_ok_iff.mp hanswer.symm
    dsimp only at hstate hentries ⊢
    rw [reply_of_none hnone, hidentifiers, Act.pure_apply, List.nil_append, List.append_nil]
    exact ⟨rfl, hstate, hentries⟩

/-- What is printed of requests tells what has come of them. -/
theorem tells_reply {served : Served} (written : List Text)
    (hsome : served.fault? = none → served.identifiers ≠ []) :
    (reportService (Text.lines written) (reply served)).Tells served := by
  constructor
  case completed =>
    intro hnone
    rw [reply_of_none hnone]
    exact ⟨rfl, Text.join_append_eq_lines (hsome hnone)⟩
  case withheld =>
    intro hne
    obtain ⟨fault, hfault⟩ := Option.ne_none_iff_exists'.mp hne
    by_cases hfailure : fault.isIdentifierFailure = true
    · rw [reply_of_promised hfault hfailure]
      rfl
    · rw [reply_of_escape hfault hfailure]
      rfl
  case promised =>
    intro fault hfault hfailure
    rw [reply_of_promised hfault hfailure]
    refine ⟨rfl, written, ?_⟩
    rw [Text.lines_append]
    simp [reportService, Text.lines]
  case escaped =>
    intro fault hfault hfailure
    rw [reply_of_escape hfault hfailure]
    rfl

/-- The length that is asked for on the command line counts, and else that of the
settings. -/
theorem lengthFor_eq {reader : DocumentReader} (run : Invocation reader) :
    lengthFor run.request run.settings = .int run.length := by
  rcases run.length_eq with hgiven | ⟨hnone, hlength⟩
  · rw [lengthFor, hgiven]
  · rw [lengthFor, hnone, hlength]

section Runs

variable {σ : Type} {reader : DocumentReader} {sink : Sink σ}

/-- The step lemma: a run asks for its identifiers one after another, tells what has come of
that, and leaves the service behind that the last of its requests has left. -/
theorem run_tells (hknows : sink.KnowsSeverities) (hwrites : sink.WritesLines)
    (run : Invocation reader) {p : Program σ} (h : p.service.FitsMemory) :
    let served := askFor (.int run.length) run.count p.service
    (Program.run reader sink run.surroundings run.arguments p).1.Tells served ∧
      (Program.run reader sink run.surroundings run.arguments p).2.service = served.after := by
  intro served
  -- Loading succeeds and changes nothing, and so does the configuration of the sink.
  obtain ⟨hsettings, hstays, hplain⟩ := Settings.load_of_ok (t := p.service) run.loaded
  obtain ⟨loading, journal, hload⟩ := perform_of_plain hwrites hplain
  rw [hsettings, hstays] at hload
  have hlevel := hknows run.settings.level run.settings.json journal
  rcases hconfigure : sink.configure (.int run.settings.level.weight) run.settings.json journal with
    ⟨configured, ready⟩
  rw [hconfigure] at hlevel
  obtain rfl : configured = .ok () := hlevel
  -- Then the identifiers are made.
  obtain ⟨hanswer, hstate, hentries⟩ :=
    serve_apply run.settings run.count_eq p.service
  rw [lengthFor_eq] at hanswer hstate
  obtain ⟨serving, last, hserve⟩ :=
    perform_of_plain (p := (⟨p.service, ready⟩ : Program σ)) hwrites (hentries h)
  rw [hanswer, hstate] at hserve
  have hrun : Program.run reader sink run.surroundings run.arguments p =
      (reportService (Text.lines (loading ++ serving)) (reply served), ⟨served.after, last⟩) := by
    rw [Program.run, run.accepted]
    dsimp only
    rw [fulfil, hload]
    dsimp only
    rw [Settings.configureBy_title, hconfigure]
    dsimp only
    rw [hserve, Text.lines_append]
  rw [hrun]
  refine ⟨tells_reply _ fun hnone => ?_, rfl⟩
  have hlength := length_identifiers hnone
  have hpositive := CommandLine.isPositive_of_read run.accepted run.count run.count_eq
  intro hnil
  rw [hnil] at hlength
  simp at hlength
  omega

/-! ## All runs -/

/-- **Each run prints all of its identifiers or none, and the next run goes on from there**,
with a sink that can be configured with every severity and that writes in whole lines.
In a sequence of runs whose arguments are accepted and whose settings can be loaded, each
acts on the shared generator as that many requests for identifiers of the length that it
asks for, made one after another up to the first that fails.  It tells what has come of
them, and the service that it leaves for the next run is the one that the last of them,
failed or not, has left. -/
theorem runs_tell {invocations : List (Invocation reader)} {p : Program σ}
    (hknows : sink.KnowsSeverities) (hwrites : sink.WritesLines)
    (h : p.service.FitsThroughout invocations) :
    List.Forall₂ Report.Tells (p.runs sink invocations).1 (p.service.serveAll invocations).1 ∧
      (p.runs sink invocations).2.service = (p.service.serveAll invocations).2 := by
  induction invocations generalizing p with
  | nil => exact ⟨.nil, rfl⟩
  | cons run rest ih =>
      obtain ⟨htells, hafter⟩ :=
        run_tells hknows hwrites run (p := { p with service := p.service.changed run.change }) h.1
      have hrest : (Program.run reader sink run.surroundings run.arguments
          { p with service := p.service.changed run.change }).2.service.FitsThroughout rest := by
        rw [hafter]
        exact h.2
      obtain ⟨hreports, hlast⟩ := ih hrest
      rw [hafter] at hreports hlast
      exact ⟨.cons htells hreports, hlast⟩

end Runs

/-- Two identifiers are asked for, of which the second cannot be hashed: none is printed.  The
run after that gets the third one. -/
theorem runs_tell_in_vain :
    let surroundings : Surroundings :=
      { file? := fun _ => none, environment := [], ownHome := some "/root", homes := fun _ => none }
    let two : Invocation fun _ => .error .malformed :=
      { change := {}, surroundings, arguments := ["-l", "4", "-n", "2"]
        request := { length := some (.value 4), count := .value 2 }, settings := .standard
        length := 4, count := 2, accepted := by decide +kernel, loaded := rfl
        length_eq := Or.inl rfl, count_eq := rfl }
    let one : Invocation fun _ => .error .malformed :=
      { change := {}, surroundings, arguments := ["--length=4"]
        request := { length := some (.value 4) }, settings := .standard
        length := 4, count := 1, accepted := by decide +kernel, loaded := rfl
        length_eq := Or.inl rfl, count_eq := rfl }
    let primitive : HashPrimitive := fun bytes =>
      if bytes.getLast? = some 16 then .error (.outside .value "no")
      else .ok (List.replicate 62 0 ++ [5, 16])
    let system : Platform :=
      { (default : Platform) with hostName := .ok "h", stream := UInt8.ofNat }
    let p : Program Printer :=
      { service := Service.start system (fun n => n) primitive { reading := fun _ => 0 }
        journal := Printer.start fun _ => 0 }
    p.service.FitsThroughout [two, one] ∧
      ∃ first second, (p.runs Printer.sink [two, one]).1 = [first, second] ∧
        first.ending = .completed 1 ∧ first.output = [] ∧
        second.ending = .completed 0 ∧ second.output = ("w100\n" : Text) := by
  intro surroundings two one primitive system p
  have hfits : p.service.FitsMemory := by
    have hnothing : ∀ settings, Environment.serialize [] = .ok settings →
        settings.length ≤ 2 ^ 32 := by
      intro settings hsettings
      rw [Environment.serialize_nil] at hsettings
      obtain rfl := Except.ok.inj hsettings
      exact Nat.zero_le _
    intro i
    cases i with
    | zero =>
        refine Platform.fitsMemory_of_le (fun name hname => ?_) hnothing
        obtain rfl : ("h" : Text) = name := Except.ok.inj hname
        decide
    | succ i =>
        refine Platform.fitsMemory_of_le (fun name hname => ?_) hnothing
        obtain rfl : ([] : Text) = name := Except.ok.inj hname
        decide
  have hthroughout : p.service.FitsThroughout [two, one] := by
    refine Service.FitsMemory.throughout hfits fun run hrun => ?_
    simp only [List.mem_cons, List.not_mem_nil, or_false] at hrun
    rcases hrun with rfl | rfl
    · exact ⟨rfl, rfl, rfl⟩
    · exact ⟨rfl, rfl, rfl⟩
  let failed := askFor (.int 4) 2 (p.service.changed {})
  let made := askFor (.int 4) 1 (failed.after.changed {})
  have htell : List.Forall₂ Report.Tells (p.runs Printer.sink [two, one]).1 [failed, made] :=
    (runs_tell Printer.sink_knowsSeverities Printer.sink_writesLines hthroughout).1
  obtain ⟨first, rest, hfirst, hrest, hreports⟩ := List.forall₂_cons_right_iff.mp htell
  obtain ⟨second, none, hsecond, hnone, rfl⟩ := List.forall₂_cons_right_iff.mp hrest
  obtain rfl := List.forall₂_nil_right_iff.mp hnone
  have hfault : failed.fault? = some (.cryptoFailure "SHA3-512 hashing failed: no") := by
    decide +kernel
  have hmade : made.fault? = none := by decide +kernel
  have hidentifiers : made.identifiers = [("w100" : Text)] := by decide +kernel
  refine ⟨hthroughout, first, second, hreports, (hfirst.promised _ hfault rfl).1,
    hfirst.withheld (by rw [hfault]; simp), (hsecond.completed hmade).1, ?_⟩
  rw [(hsecond.completed hmade).2, hidentifiers]
  rfl

end Program

end IdMint
