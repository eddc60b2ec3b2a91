import DefUse.Proofs.Check.Files
import DefUse.Proofs.Command.Printing

/-!
# Proofs/Command/Verify — one report for each file, unless a file breaks the run off

A file comes to its own report, whatever is in the other files, and `verify` reports on the files it
collects in their order, for people and for programs alike.  But it has nothing to show before the
last of them is done: a file that breaks its check off (`Breaks`) breaks off the whole run, and with
it go the reports on all the others.
-/

namespace DefUse

open Job

section

variable [Libraries] {disk : Disk} {routing : Routing} {settings : Settings}

/-- **A file is checked by what is read at its path**, and by nothing else on the disk. -/
theorem verifyFile_of_read_eq {d d' : Disk} {p : Path} (h : d.read p = d'.read p)
    (settings : Settings) :
    verifyFile d (some settings) p = verifyFile d' (some settings) p := by
  have hload : d.loadTree p = d'.loadTree p := by
    rw [Disk.loadTree, Disk.loadTree, Disk.loadDocument, Disk.loadDocument, Disk.loadJsonDocument,
      Disk.loadJsonDocument, Disk.loadLuaTree, Disk.loadLuaTree, h]
  rw [verifyFile_some, verifyFile_some]
  cases hd' : d'.loadTree p with
  | ok tree => rw [checkFile_of_ok (hload.trans hd'), checkFile_of_ok hd']
  | error e => rw [checkFile_of_error (hload.trans hd'), checkFile_of_error hd']

/-- A file has no report exactly if it breaks its check off. -/
theorem not_breaks_iff {d : Disk} {p : Path} :
    ¬ Breaks d p ↔ ∃ r, verifyFile d (some settings) p = .ok r ∧ Answers d p r := by
  rcases verifyFile_cases d settings p with ⟨hnot, hr⟩ | ⟨hbreaks, e, he⟩
  · exact ⟨fun _ => hr, fun _ => hnot⟩
  · refine ⟨fun hnot => absurd hbreaks hnot, ?_⟩
    rintro ⟨r, hr, -⟩
    cases he.symm.trans hr

/-- Files none of which breaks off have a report each. -/
theorem exists_reports (settings : Settings) {files : List Path}
    (h : ∀ p ∈ files, ¬ Breaks disk p) :
    ∃ reports, List.Forall₂
      (fun p r => verifyFile disk (some settings) p = .ok r ∧ Answers disk p r) files reports := by
  induction files with
  | nil => exact ⟨[], .nil⟩
  | cons p files ih =>
    obtain ⟨hp, hfiles⟩ := List.forall_mem_cons.1 h
    obtain ⟨r, hr⟩ := not_breaks_iff.1 hp
    obtain ⟨reports, hreports⟩ := ih hfiles
    exact ⟨r :: reports, .cons hr hreports⟩

/-- Files that were all reported on do not break a check off. -/
theorem not_breaks_of_forall₂ {files : List Path} {reports : List Report}
    (h : List.Forall₂ (fun p r => verifyFile disk (some settings) p = .ok r) files reports) :
    ∀ p ∈ files, ¬ Breaks disk p := by
  induction h with
  | nil => exact List.forall_mem_nil _
  | @cons p r files reports hr _ ih =>
    refine List.forall_mem_cons.2 ⟨?_, ih⟩
    rcases verifyFile_cases disk settings p with ⟨hnot, -⟩ | ⟨-, e, he⟩
    · exact hnot
    · cases hr.symm.trans he

/-- Files of which one breaks off come to an escape. -/
theorem exists_escape (settings : Settings) {files : List Path}
    (h : ∃ p ∈ files, Breaks disk p) :
    ∃ e, checkAll disk settings files = .error (.escape e) := by
  obtain ⟨p, hp, hbreaks⟩ := h
  cases hall : checkAll disk settings files with
  | error crash =>
    obtain ⟨-, -, e, -, rfl⟩ := exists_escape_of_checkAll hall
    exact ⟨e, rfl⟩
  | ok reports =>
    exact absurd hbreaks (not_breaks_of_forall₂ (checkAll_eq_ok_iff.1 hall) p hp)

/-- What `verify` does once it has settings and all paths are there. -/
theorem presents_verify_of_load {r : VerifyRequest}
    (hpaths : ∀ p ∈ r.paths, disk.pathExists p = true) (hload : (r.load disk).1 = .ok settings) :
    Presents (verifyCommand r) disk routing
      (logItems disk routing r settings ++
        resultItems routing r.json (checkAll disk settings (collectFiles disk r.paths)))
      ((checkAll disk settings (collectFiles disk r.paths)).map exitCode) := by
  have hall : r.paths.all disk.pathExists = true := List.all_eq_true.2 hpaths
  have h := presents_verifyCommand disk routing r
  rw [verifyItems, verifyOutcome, if_pos hall, if_pos hall, hload] at h
  exact h

/-- A file that breaks off breaks off the command, before anything is reported. -/
theorem presents_verify_of_breaks {r : VerifyRequest}
    (hpaths : ∀ p ∈ r.paths, disk.pathExists p = true) (hload : (r.load disk).1 = .ok settings)
    (hsome : ∃ p ∈ collectFiles disk r.paths, Breaks disk p) :
    ∃ e, Presents (verifyCommand r) disk routing (logItems disk routing r settings)
      (.error (.escape e)) := by
  obtain ⟨e, he⟩ := exists_escape settings hsome
  have hverify : Presents (verifyCommand r) disk routing _ _ := presents_verify_of_load hpaths hload
  rw [he, resultItems, List.append_nil] at hverify
  exact ⟨e, hverify⟩

end

/-- Where there is no settings file, a request without names has the bundled settings. -/
theorem load_of_nearest {disk : Disk} {paths : List Path} {json : Bool}
    (h : Settings.nearest? disk .here = none) :
    VerifyRequest.load ⟨paths, [], none, json⟩ disk = (.ok .bundled, []) := by
  have hproject : Settings.project disk .here = .ok ⟨.table [], none, none⟩ := by
    rw [Settings.project, h]
  rw [VerifyRequest.load, Settings.load, hproject]
  rfl

end DefUse
