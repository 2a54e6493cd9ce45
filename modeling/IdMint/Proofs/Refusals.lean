import IdMint.Proofs.Loading

/-!
# Which configurations are refused with a report

Whatever is wrong with a configuration, the loading is to end with a report on it
and exit code one.  That holds for everything but two sorts of faults
(`Settings.LoadEscape`).  The search fails if a path cannot be expanded.  And from the
first file there escape the faults of the reader of documents that do not call it
malformed, a version of a kind that cannot be looked up, a part of the document that is
neither a dictionary nor counts as false, and an integer too long to be shown in the
report (`Settings.FileEscape`).  The variables that override settings and the other
files play no part in it.
-/

namespace IdMint

namespace Settings

/-- **How the loading of settings ends**, whatever the files and the environment are,
and whatever a reader makes of the files.

A failure of the search is passed on, and so is a fault that escapes from the first file.
If there is neither, there are settings, or the program ends with exit code one and a
report on a configuration error. -/
theorem load_reports {σ : Type} (reader : DocumentReader) (s : Surroundings)
    (requested : Option Text) (t : σ) :
    (∀ fault, LoadEscape reader s requested fault →
      (load reader s requested t).answer = .error fault) ∧
    ((∀ fault, ¬LoadEscape reader s requested fault) →
      (∃ settings, (load reader s requested t).answer = .ok settings) ∨
        ∃ report, (load reader s requested t).answer = .error (.stop 1 report) ∧
          ("CONFIG ERROR: " : Text) <+: report) := by
  have h := settled_load reader s requested t
  constructor
  · exact h.eq_error
  · intro hnone
    rcases h.settled hnone with hok | ⟨problem, hproblem⟩
    · exact Or.inl hok
    · exact Or.inr ⟨problem.report, hproblem, isPrefix_report problem⟩

/-- Surroundings with one file and nothing else. -/
def loneFile (path : Text) (bytes : Bytes) : Surroundings where
  file? p := if p = path then some (.ok bytes) else none
  environment := []
  ownHome := some "/root"
  homes _ := none

/-- A document whose version is a list. -/
def listedVersion : Value := .dict [(.text "version", .list [.int 1])]

/-- A file with such a document is not refused with a report. -/
theorem load_of_listed_version :
    (load (fun _ => .ok listedVersion) (loneFile usualPath "version: [1]\n".toUTF8.toList) none
        ()).answer = .error (.unhashable "list") ∧
      ∀ report, (load (fun _ => .ok listedVersion)
          (loneFile usualPath "version: [1]\n".toUTF8.toList) none ()).answer ≠
        .error (.stop 1 report) := by
  have hescaped : (load (fun _ => .ok listedVersion)
      (loneFile usualPath "version: [1]\n".toUTF8.toList) none ()).answer =
        .error (.unhashable "list") :=
    Except.error?_eq_some_iff.mp (by decide +kernel)
  refine ⟨hescaped, fun report hreport => ?_⟩
  rw [hescaped] at hreport
  cases hreport

end Settings

end IdMint
