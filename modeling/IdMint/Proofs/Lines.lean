import IdMint.Journal.Printer
import IdMint.Proofs.Answers
import IdMint.Proofs.Writing

/-!
# Entries that can be written

A sink need not be able to write every entry: a field may have a name that the sink
uses itself, or a value that has no form in JSON, or hold an integer that is too long.
An entry with none of this is plain (`Entry.IsPlain`).  Two things are asked of a sink:
that the severities are among the thresholds that it knows (`Sink.KnowsSeverities`), and
that it writes plain entries in whole lines (`Sink.WritesLines`).

Printers do both, in either form and under every threshold
(`Printer.sink_knowsSeverities`, `Printer.sink_writesLines`).
-/

namespace IdMint

/-! ## Plain values -/

namespace Value

/-- A truth value, a number or a text, or a list of texts; an integer must have a
numeral. -/
def IsPlain : Value → Prop
  | bool _ | float _ | text _ => True
  | int n => Decimal.isWritable n = true
  | list items => ∀ v ∈ items, ∃ t, v = text t
  | null | bytes _ | date _ | timestamp _ | pair _ _ | set _ | dict _ | object _ _ _
  | recurrence _ => False

variable {v : Value}

theorem areWritable_of_texts {items : List Value} (h : ∀ v ∈ items, ∃ t, v = text t) :
    areWritable items = true := by
  induction items with
  | nil => rw [areWritable]
  | cons v rest ih =>
      obtain ⟨t, rfl⟩ := h v (by simp)
      rw [areWritable, ih fun w hw => h w (by simp [hw])]
      simp [isWritable]

theorem jsonItems_of_texts {items : List Value} (h : ∀ v ∈ items, ∃ t, v = text t) :
    ∃ parts, jsonItems items = .ok parts := by
  induction items with
  | nil => exact ⟨[], rfl⟩
  | cons v rest ih =>
      obtain ⟨t, rfl⟩ := h v (by simp)
      obtain ⟨parts, hparts⟩ := ih fun w hw => h w (by simp [hw])
      exact ⟨jsonText t :: parts, by rw [jsonItems, json, hparts]; rfl⟩

theorem IsPlain.writable (h : v.IsPlain) : v.Writable := by
  cases v with
  | int n =>
      have hn : Decimal.isWritable n = true := h
      simpa [Writable, isWritable] using hn
  | list items =>
      rw [Writable, isWritable, areWritable_of_texts h]
  | bool | float | text => simp [Writable, isWritable]
  | _ => exact absurd h id

/-- A plain value has a form in JSON. -/
theorem IsPlain.json (h : v.IsPlain) : ∃ t, v.json = .ok t := by
  cases v with
  | bool | float | text => exact ⟨_, by rw [Value.json]⟩
  | int n =>
      rw [Value.json]
      exact (writtenIf_integer n).exists_iff.mpr h
  | list items =>
      obtain ⟨parts, hparts⟩ := jsonItems_of_texts h
      exact ⟨_, by rw [Value.json, hparts]; rfl⟩
  | _ => exact absurd h id

/-- A plain value can be shown on the console. -/
theorem IsPlain.consoleValue (h : v.IsPlain) : ∃ t, Entry.consoleValue v = .ok t := by
  have hliteral : ∃ t, v.literal = .ok t := (writtenIf_literal v).exists_iff.mpr h.writable
  cases v with
  | text t => exact ⟨_, rfl⟩
  | _ => exact hliteral

/-- A dictionary of plain values under texts has a form in JSON. -/
theorem jsonEntries_of_plain {fields : List (Text × Value)}
    (h : ∀ field ∈ fields, field.2.IsPlain) :
    ∃ parts, jsonEntries (fields.map fun (name, v) => (.text name, v)) = .ok parts := by
  induction fields with
  | nil => exact ⟨[], by rw [List.map_nil, jsonEntries]⟩
  | cons field rest ih =>
      obtain ⟨name, v⟩ := field
      obtain ⟨t, ht⟩ := (h (name, v) (by simp)).json
      obtain ⟨parts, hparts⟩ := ih fun later hlater => h later (by simp [hlater])
      refine ⟨Text.concat [jsonText name, ": ", t] :: parts, ?_⟩
      rw [List.map_cons, jsonEntries, jsonKey, ht, hparts]
      rfl

end Value

/-! ## Plain entries -/

namespace Entry

/-- The names that a sink uses itself, or for what it writes on lines of its own. -/
def reservedNames : List Text := ["event", "self", "method_name", "stack", "exception"]

/-- No field has a name that a sink uses itself, and all values are plain. -/
structure IsPlain (entry : Entry) : Prop where
  names : ∀ field ∈ entry.fields, field.1 ∉ reservedNames
  values : ∀ field ∈ entry.fields, field.2.IsPlain

variable {entry : Entry} {severity : Severity} {event : Text} {fields : List (Text × Value)}

/-- An event without fields is plain. -/
theorem isPlain_event (severity : Severity) (event : Text) : IsPlain ⟨severity, event, []⟩ where
  names := by simp
  values := by simp

/-- A plain field may be added to a plain entry. -/
theorem IsPlain.field {name : Text} {v : Value} (h : IsPlain ⟨severity, event, fields⟩)
    (hname : name ∉ reservedNames) (hv : v.IsPlain) :
    IsPlain ⟨severity, event, (name, v) :: fields⟩ where
  names := List.forall_mem_cons.mpr ⟨hname, h.names⟩
  values := List.forall_mem_cons.mpr ⟨hv, h.values⟩

theorem mem_setField {name : Text} {v : Value} {fields : List (Text × Value)}
    {field : Text × Value} (h : field ∈ setField name v fields) :
    field = (name, v) ∨ field ∈ fields := by
  induction fields with
  | nil => exact Or.inl (by simpa [setField] using h)
  | cons first rest ih =>
      obtain ⟨n, w⟩ := first
      rw [setField] at h
      split at h
      · next hn =>
        subst hn
        rcases List.mem_cons.mp h with h | h
        · exact Or.inl h
        · exact Or.inr (List.mem_cons_of_mem _ h)
      · rcases List.mem_cons.mp h with h | h
        · exact Or.inr (by simp [h])
        · rcases ih h with h | h
          · exact Or.inl h
          · exact Or.inr (List.mem_cons_of_mem _ h)

namespace IsPlain

theorem of_mem_ownFields (h : entry.IsPlain) {field : Text × Value}
    (hfield : field ∈ entry.ownFields) : field.1 ∉ reservedNames ∧ field.2.IsPlain := by
  have hmem : field ∈ entry.fields := (List.mem_filter.mp hfield).1
  exact ⟨h.names field hmem, h.values field hmem⟩

/-- What the sink adds to an entry is plain. -/
theorem of_mem_allFields (h : entry.IsPlain) {time : Float} {field : Text × Value}
    (hfield : field ∈ entry.allFields time) : field.2.IsPlain := by
  rcases mem_setField hfield with rfl | hfield
  · exact trivial
  · rcases mem_setField hfield with rfl | hfield
    · exact trivial
    · rcases mem_setField hfield with rfl | hfield
      · exact trivial
      · exact (h.of_mem_ownFields hfield).2

theorem jsonLine (h : entry.IsPlain) (time : Float) : ∃ line, entry.jsonLine time = .ok line := by
  have hfields : ∀ field ∈ entry.allFields time, field.2.IsPlain := fun _ => h.of_mem_allFields
  obtain ⟨parts, hparts⟩ := Value.jsonEntries_of_plain hfields
  exact ⟨_, by rw [Entry.jsonLine, Value.json, hparts]; rfl⟩

/-- A field that a sink lays out in a way of its own is not among the others. -/
theorem field?_of_mem_reservedNames (h : entry.IsPlain) {name : Text}
    (hname : name ∈ reservedNames) : entry.field? name = none := by
  have hnone : entry.ownFields.find? (·.1 = name) = none := by
    rw [List.find?_eq_none]
    intro field hfield hsame
    have hfree := (h.of_mem_ownFields hfield).1
    rw [of_decide_eq_true hsame] at hfree
    exact hfree hname
  rw [field?, hnone]
  rfl

theorem loggerColumns (h : entry.IsPlain) : ∃ columns, entry.loggerColumns = .ok columns := by
  rw [Entry.loggerColumns, Except.exists_mapM_eq_ok_iff]
  intro v hv
  obtain ⟨name, -, hfound⟩ := List.mem_filterMap.mp hv
  rw [field?, Option.map_eq_some_iff] at hfound
  obtain ⟨field, hfield, rfl⟩ := hfound
  have hplain := (h.of_mem_ownFields (List.mem_of_find?_eq_some hfield)).2
  obtain ⟨shown, hshown⟩ := (Value.writtenIf_display field.2).exists_iff.mpr hplain.writable
  exact ⟨_, by rw [hshown]; rfl⟩

theorem consoleFields (h : entry.IsPlain) : ∃ fields, entry.consoleFields = .ok fields := by
  rw [Entry.consoleFields, Except.exists_mapM_eq_ok_iff]
  intro field hfield
  have hown : field ∈ entry.ownFields := (List.mem_filter.mp (List.mem_mergeSort.mp hfield)).1
  obtain ⟨shown, hshown⟩ := (h.of_mem_ownFields hown).2.consoleValue
  exact ⟨_, by rw [consoleField, hshown]; rfl⟩

theorem appendices (h : entry.IsPlain) : entry.appendices = .ok [] := by
  rw [Entry.appendices, h.field?_of_mem_reservedNames (by decide),
    h.field?_of_mem_reservedNames (by decide)]
  rfl

theorem consoleLine (h : entry.IsPlain) (time : Float) :
    ∃ line, entry.consoleLine time = .ok line := by
  obtain ⟨columns, hcolumns⟩ := h.loggerColumns
  obtain ⟨fields, hfields⟩ := h.consoleFields
  exact ⟨_, by rw [Entry.consoleLine, hcolumns, hfields, h.appendices]; rfl⟩

end IsPlain

end Entry

/-! ## What is asked of a sink -/

namespace Sink

variable {σ : Type} {sink : Sink σ}

/-- The sink can be configured with the threshold of every severity, in either form. -/
def KnowsSeverities (sink : Sink σ) : Prop :=
  ∀ (severity : Severity) (json : Bool) (s : σ),
    (sink.configure (.int severity.weight) json s).1 = .ok ()

/-- The sink writes every plain entry, in whole lines or not at all. -/
def WritesLines (sink : Sink σ) : Prop :=
  ∀ (entry : Entry) (s : σ), entry.IsPlain →
    ∃ lines, (sink.write entry s).1 = .ok (Text.lines lines)

/-- Plain entries are written one after another, in whole lines. -/
theorem WritesLines.writeAll {entries : List Entry} (hsink : sink.WritesLines)
    (h : ∀ entry ∈ entries, entry.IsPlain) (s : σ) :
    ∃ lines after, sink.writeAll entries s = (.ok (), Text.lines lines, after) := by
  induction entries generalizing s with
  | nil => exact ⟨[], s, rfl⟩
  | cons entry rest ih =>
      have hrest : ∀ later ∈ rest, later.IsPlain := fun later hlater => h later (by simp [hlater])
      obtain ⟨first, hfirst⟩ := hsink entry s (h entry (by simp))
      rcases hwrite : sink.write entry s with ⟨answer, next⟩
      rw [hwrite] at hfirst
      obtain rfl : answer = .ok (Text.lines first) := hfirst
      obtain ⟨lines, after, hlines⟩ := ih hrest next
      refine ⟨first ++ lines, after, ?_⟩
      rw [Sink.writeAll, hwrite]
      simp only [hlines, Text.lines, List.flatMap_append]

end Sink

/-! ## Printers -/

namespace Printer

variable {entry : Entry}

/-- A printer can be configured with every severity. -/
theorem sink_knowsSeverities : sink.KnowsSeverities := by
  intro severity json p
  have hknown : thresholdOf (.int severity.weight) = .ok severity.weight := by
    cases severity <;> rfl
  show (configure (.int severity.weight) json p).1 = .ok ()
  rw [configure, hknown]

theorem line_of_plain (h : entry.IsPlain) (p : Printer) :
    ∃ line, p.line entry = .ok (line ++ ("\n" : Text)) := by
  rw [line]
  cases p.json with
  | true =>
      obtain ⟨line, hline⟩ := h.jsonLine (p.time p.written)
      exact ⟨line, by rw [if_pos rfl, hline]; rfl⟩
  | false =>
      obtain ⟨line, hline⟩ := h.consoleLine (p.time p.written)
      exact ⟨line, by rw [if_neg (by decide), hline]; rfl⟩

theorem checkFields_of_plain (h : entry.IsPlain) (writer : Text) {names : List Text}
    (hnames : ∀ name ∈ names, name ∈ Entry.reservedNames) :
    checkFields writer names entry = .ok () := by
  have hnone : (entry.fields.find? fun (name, _) => names.contains name) = none := by
    rw [List.find?_eq_none]
    intro field hfield hcontains
    exact h.names field hfield (hnames field.1 (List.contains_iff_mem.mp hcontains))
  rw [checkFields, hnone]

/-- Nothing keeps a printer from saying whether a plain entry is serious enough. -/
theorem accepts_of_plain (h : entry.IsPlain) (p : Printer) :
    ∃ accepted, p.accepts entry = .ok accepted := by
  rw [accepts, checkFields_of_plain h idler (by decide), checkFields_of_plain h method (by decide),
    checkFields_of_plain h dispatcher (by decide)]
  split
  · exact ⟨false, rfl⟩
  · exact ⟨true, rfl⟩

/-- A printer writes a plain entry in a line or not at all. -/
theorem sink_writesLines : sink.WritesLines := by
  intro entry p h
  show ∃ lines, (write entry p).1 = .ok (Text.lines lines)
  obtain ⟨accepted, haccepted⟩ := accepts_of_plain h p
  rw [write, haccepted]
  cases accepted with
  | false => exact ⟨[], rfl⟩
  | true =>
      obtain ⟨line, hline⟩ := line_of_plain h p
      exact ⟨[line], by simp [hline, Text.lines]⟩

end Printer

end IdMint
