import DefUse.Proofs.Command.Verify
import DefUse.Proofs.Console.Screen
import DefUse.Proofs.Json.RoundTrip

/-!
# Proofs/Command/Document — the document among the log

Reports for programs are printed as one document, on the console that everything else goes to as
well.  So the output is the log followed by the document: the warnings on the way to the settings
and, if it is asked for, the trace.  The document by itself is read back as the reports.  With
anything before it the output is no document at all, if a record starts with the name of its level
(`Console.Labels`), as it does on `screen`.
-/

namespace DefUse

open Job

/-! ## Reports in a document -/

/-- The finding that a value stands for. -/
def Finding.ofValue? (v : Value) : Option Finding :=
  match v.get? "kind", v.get? "name" with
  | some (.str label), some (.str name) => (FindingKind.ofLabel? label).map (⟨·, name⟩)
  | _, _ => none

/-- The report that a value stands for. -/
def Report.ofValue? (v : Value) : Option Report :=
  match v.get? "path", v.get? "warnings", v.get? "errors", v.get? "success" with
  | some path, some (.list warnings), some (.list errors), some (.bool success) => do
    let findings ← warnings.mapM Finding.ofValue?
    let errors ← errors.mapM Value.text?
    return ⟨path.text?, findings, errors, success⟩
  | _, _, _, _ => none

/-- The reports that a text holds as a document. -/
def readReports? (text : String) : Option (List Report) :=
  match Json.read text with
  | .ok (.list items) => items.mapM Report.ofValue?
  | _ => none

theorem mapM_map_of_forall {α β : Type} {f : β → Option α} {g : α → β} (h : ∀ a, f (g a) = some a)
    (items : List α) : (items.map g).mapM f = some items := by
  induction items with
  | nil => rfl
  | cons a items ih => rw [List.map_cons, List.mapM_cons, h, ih]; rfl

theorem Finding.ofValue?_toValue (f : Finding) :
    Finding.ofValue? (.record [("kind", .str f.kind.label), ("name", .str f.name)]) = some f := by
  obtain ⟨kind, name⟩ := f
  cases kind <;> rfl

/-- **A report is read back from its value.** -/
theorem Report.ofValue?_toValue (r : Report) : Report.ofValue? r.toValue = some r := by
  obtain ⟨path, findings, errors, success⟩ := r
  have hfindings := mapM_map_of_forall Finding.ofValue?_toValue findings
  have herrors : (errors.map Value.str).mapM Value.text? = some errors :=
    mapM_map_of_forall (f := Value.text?) (g := .str) (fun _ => rfl) errors
  have hpath : ((path.map Value.str).getD .null).text? = path := by cases path <;> rfl
  change (do
    let findings ← (findings.map _).mapM Finding.ofValue?
    let errors ← (errors.map Value.str).mapM Value.text?
    return (⟨((path.map Value.str).getD .null).text?, findings, errors, success⟩ : Report)) = _
  rw [hfindings, herrors, hpath]
  rfl

theorem Report.proper_toValue (r : Report) : r.toValue.Proper := by
  have hpath : ((r.path.map Value.str).getD .null).Proper := by
    cases r.path <;> simp [Value.Proper]
  have hfindings : (Value.list (r.findings.map fun f =>
      .record [("kind", .str f.kind.label), ("name", .str f.name)])).Proper := by
    rw [Value.proper_list, List.forall_mem_map]
    intro f _
    simp [Value.Proper, Value.ProperFields]
  have herrors : (Value.list (r.errors.map .str)).Proper := by
    rw [Value.proper_list, List.forall_mem_map]
    intro e _
    simp [Value.Proper]
  have hsuccess : (Value.bool r.success).Proper := by simp [Value.Proper]
  have hkeys : ["path", "warnings", "errors", "success"].Nodup := by decide
  exact ⟨hkeys, hpath, hfindings, herrors, hsuccess, trivial⟩

/-- A report has no whole number that might be too long. -/
theorem Report.isWritable_toValue (r : Report) :
    (Json.Document.ofValue r.toValue).isWritable = true := by
  have hpath : (Json.Document.ofValue ((r.path.map Value.str).getD .null)).isWritable = true := by
    cases r.path <;> rfl
  have hfindings : (Json.Document.ofValue (.list (r.findings.map fun f =>
      .record [("kind", .str f.kind.label), ("name", .str f.name)]))).isWritable = true := by
    refine Json.Document.areWritable_iff.2 ?_
    rw [Json.Document.ofValues_eq, List.map_map, List.forall_mem_map]
    exact fun f _ => rfl
  have herrors : (Json.Document.ofValue (.list (r.errors.map .str))).isWritable = true := by
    refine Json.Document.areWritable_iff.2 ?_
    rw [Json.Document.ofValues_eq, List.map_map, List.forall_mem_map]
    exact fun e _ => rfl
  refine Json.Document.areWritableFields_iff.2 ?_
  rw [Json.Document.ofFields_eq, List.forall_mem_map]
  exact List.forall_mem_cons.2 ⟨hpath, List.forall_mem_cons.2 ⟨hfindings,
    List.forall_mem_cons.2 ⟨herrors, List.forall_mem_singleton.2 rfl⟩⟩⟩

theorem readable_reports (reports : List Report) :
    (Json.Document.ofValue (.list (reports.map Report.toValue))).Readable := by
  refine ⟨Json.Document.proper_ofValue ?_, Json.Document.areWritable_iff.2 ?_⟩
  · rw [Value.proper_list, List.forall_mem_map]
    exact fun r _ => r.proper_toValue
  · rw [Json.Document.ofValues_eq, List.map_map, List.forall_mem_map]
    exact fun r _ => r.isWritable_toValue

/-- **The document of reports is read back as the reports**, with or without a line feed after
it. -/
theorem readReports?_documentOf (reports : List Report) {text : String} {gap : List Char}
    (hgap : Json.Gap gap) (htext : text.toList = (documentOf reports).toList ++ gap) :
    readReports? text = some reports := by
  rw [readReports?, Json.read_render (readable_reports reports) _ hgap htext]
  exact mapM_map_of_forall Report.ofValue?_toValue reports

/-! ## The output as a text -/

/-- The text that lines are on a console. -/
def textOf (ls : List String) : String := String.ofList (ls.flatMap fun l => l.toList ++ ['\n'])

/-- **What a run writes to the console**, as one text. -/
def RunResult.output (r : RunResult) : String := textOf r.lines

theorem textOf_append (ls ls' : List String) : textOf (ls ++ ls') = textOf ls ++ textOf ls' := by
  rw [textOf, List.flatMap_append, String.ofList_append]
  rfl

theorem textOf_lines (text : String) : textOf (lines text) = text ++ "\n" := by
  have hsplit : ∀ cs, (splitAt '\n' cs).flatMap (· ++ ['\n']) = cs ++ ['\n'] := by
    intro cs
    induction cs with
    | nil => rfl
    | cons c cs ih =>
      rw [splitAt]
      split
      next hc => rw [List.flatMap_cons, ih, hc]; rfl
      next =>
        cases hpieces : splitAt '\n' cs with
        | nil => exact absurd hpieces (splitAt_ne_nil _ _)
        | cons piece pieces =>
          rw [hpieces, List.flatMap_cons] at ih
          rw [List.flatMap_cons, List.cons_append, List.cons_append, ih]
          rfl
  have hlines : ((lines text).flatMap fun l => l.toList ++ ['\n']) = text.toList ++ ['\n'] := by
    rw [lines, List.flatMap_map]
    simpa using hsplit text.toList
  rw [textOf, hlines, String.ofList_append, String.ofList_toList]

section

variable [Libraries] {disk : Disk} {settings : Settings}

/-! ## The log -/

/-- The text of a log. -/
def logText (log : List Record) : String :=
  textOf (Shown.lines (log.map Libraries.console.record))

omit [Libraries] in
/-- What starts with the name of a level that a record of the log has is no document. -/
theorem read_error_of_level {level : Level} (h : level = .warning ∨ level = .debug) {text : String}
    {rest : List Char} (htext : text.toList = level.name.toList ++ rest) (v : Value) :
    Json.read text ≠ .ok v := by
  -- no value starts with the first letter of a level, so the reader stops there
  have hfault : Json.readChars text.toList = .error (.problem .value text.toList) := by
    rw [htext]
    rcases h with rfl | rfl <;> rfl
  rw [Json.read, Json.readDocument, hfault]
  intro h
  cases h

/-- **What starts with a log is no document**, unless the log is empty. -/
theorem read_error_of_log (hlabels : Libraries.console.Labels) {log : List Record} (hne : log ≠ [])
    (hlevels : ∀ r ∈ log, r.level = .warning ∨ r.level = .debug)
    (hshown : Shown.fault? (log.map Libraries.console.record) = none)
    {text rest : String} (htext : text = logText log ++ rest) (v : Value) :
    Json.read text ≠ .ok v := by
  cases log with
  | nil => exact absurd rfl hne
  | cons r log =>
    cases hr : Libraries.console.record r with
    | error f =>
      rw [List.map_cons, hr] at hshown
      cases hshown
    | ok ls =>
      obtain ⟨first, others, rfl⟩ := hlabels r ls hr
      have hstart : ∃ after, text.toList = r.level.name.toList ++ after := by
        rw [htext, logText, List.map_cons, hr, Shown.lines, textOf]
        simp only [List.cons_append, List.flatMap_cons, String.toList_append, String.toList_ofList,
          List.append_assoc]
        exact ⟨_, rfl⟩
      obtain ⟨after, hafter⟩ := hstart
      exact read_error_of_level (hlevels r List.mem_cons_self) hafter v

/-- **What a run logs** on the way to reports for programs: the warnings that come with the settings
and, if it is asked for, the trace of each file. -/
def logOf (disk : Disk) (verbose : Bool) (r : VerifyRequest) (settings : Settings) : List Record :=
  (Settings.load disk r.globals r.globalsFile .here).2.map warningRecord ++
    if verbose then ((collectFiles disk r.paths).flatMap (traceOf disk settings)).map Event.record
    else []

theorem level_of_mem_logOf {verbose : Bool} {r : VerifyRequest} {record : Record}
    (h : record ∈ logOf disk verbose r settings) :
    record.level = .warning ∨ record.level = .debug := by
  rcases List.mem_append.1 h with hwarning | htrace
  · obtain ⟨m, -, rfl⟩ := List.mem_map.1 hwarning
    exact Or.inl rfl
  · split at htrace
    · obtain ⟨e, -, rfl⟩ := List.mem_map.1 htrace
      exact Or.inr rfl
    · cases htrace

/-- A trace that is presented to its end is presented event by event. -/
theorem fileItems_of_none {verbose : Bool} {p : Path}
    (h : Shown.fault? (fileItems disk (consoles verbose) settings p) = none) :
    fileItems disk (consoles verbose) settings p =
      if verbose then (traceOf disk settings p).map Event.shown else [] := by
  have haccepts : (consoles verbose).accepts .debug = verbose := by cases verbose <;> rfl
  rw [fileItems, haccepts] at h ⊢
  cases verbose with
  | false => rw [if_neg Bool.false_ne_true, if_neg Bool.false_ne_true]
  | true =>
    rw [if_pos rfl] at h ⊢
    rw [if_pos rfl, traceItems_of_none (fault?_traceItems_eq_none_iff.1 h)]

/-- **What is put on the console before the document is the log**, if it can be shown. -/
theorem logItems_eq_map {verbose : Bool} {r : VerifyRequest} {reports : List Report}
    (hjson : r.json = true)
    (hreports : List.Forall₂ (fun p report => verifyFile disk (some settings) p = .ok report)
      (collectFiles disk r.paths) reports)
    (h : Shown.fault? (logItems disk (consoles verbose) r settings) = none) :
    logItems disk (consoles verbose) r settings =
      (logOf disk verbose r settings).map Libraries.console.record := by
  rw [logItems, openingItems, if_pos hjson, List.nil_append,
    checkedFiles_of_forall₂ hreports] at h ⊢
  obtain ⟨-, hfiles⟩ := Shown.fault?_append_eq_none_iff.1 h
  rw [logOf, List.map_append]
  refine congrArg₂ (· ++ ·) ?_ ?_
  · rw [warningItems, List.map_map]
    refine List.map_congr_left fun m _ => if_pos ?_
    cases verbose <;> rfl
  · have hfile : ∀ p ∈ collectFiles disk r.paths, fileItems disk (consoles verbose) settings p =
        if verbose then (traceOf disk settings p).map Event.shown else [] := by
      intro p hp
      refine fileItems_of_none (Shown.fault?_eq_none_iff.2 fun item hitem => ?_)
      exact Shown.fault?_eq_none_iff.1 hfiles item (List.mem_flatMap.2 ⟨p, hp, hitem⟩)
    rw [List.flatMap_congr hfile]
    cases verbose with
    | false => exact List.flatMap_eq_nil_iff.2 fun _ _ => rfl
    | true =>
      rw [if_pos rfl, List.map_map, List.map_flatMap]
      rfl

/-! ## The output of a run -/

/-- **The output of a run that has its reports**: the log, the document, a line feed. -/
theorem run_of_reports {args : List String} {verbose : Bool} {r : VerifyRequest}
    {reports : List Report} (hargs : Invocation.ofArguments args = .ok ⟨verbose, .verify r⟩)
    (hjson : r.json = true) (hpaths : ∀ p ∈ r.paths, disk.pathExists p = true)
    (hload : (r.load disk).1 = .ok settings)
    (hreports : List.Forall₂ (fun p report => verifyFile disk (some settings) p = .ok report)
      (collectFiles disk r.paths) reports)
    (hlog : Shown.fault? (logItems disk (consoles verbose) r settings) = none) :
    (Command.run disk args).outcome = .ok (exitCode reports) ∧
      (Command.run disk args).output =
        logText (logOf disk verbose r settings) ++ (documentOf reports ++ "\n") := by
  have hverify : Presents (verifyCommand r) disk (consoles verbose) _ _ :=
    presents_verify_of_load hpaths hload
  rw [checkAll_eq_ok_iff.2 hreports, resultItems, reportsItems, if_pos hjson] at hverify
  obtain ⟨houtcome, hlines, -⟩ := Shows.run (w := startingWorld disk verbose) hverify
  rw [run_of_arguments disk hargs]
  constructor
  · refine houtcome.trans ?_
    rw [Shown.outcome_append, Shown.outcome_of_none hlog]
    rfl
  · have hstart : textOf (startingWorld disk verbose).lines = "" := rfl
    have hdocument : Shown.lines [.ok (lines (documentOf reports))] = lines (documentOf reports) :=
      List.append_nil _
    refine (congrArg textOf hlines).trans ?_
    rw [Shown.lines_append_of_none hlog, hdocument, textOf_append, textOf_append, textOf_lines,
      logItems_eq_map hjson hreports hlog, hstart, String.empty_append, logText]

/-- **Reports for programs are printed after the log, as one document.**  Whenever `verify` is asked
for them and comes to a code, with all paths there and settings that load, every file it collects
has its report, and the output is the log followed by the document and a line feed.  The document is
read back as the reports, in order and field by field.  So is the whole output if the log is empty;
otherwise, on a console that names levels, the output is no document at all. -/
theorem verify_output_eq_log_document {args : List String} {verbose : Bool} {r : VerifyRequest}
    {code : Nat} (hargs : Invocation.ofArguments args = .ok ⟨verbose, .verify r⟩)
    (hjson : r.json = true) (hpaths : ∀ p ∈ r.paths, disk.pathExists p = true)
    (hload : (Settings.load disk r.globals r.globalsFile .here).1 = .ok settings)
    (hcode : (Command.run disk args).outcome = .ok code) :
    let output := (Command.run disk args).output
    let log := logOf disk verbose r settings
    ∃ reports,
      List.Forall₂ (fun p report => verifyFile disk (some settings) p = .ok report)
        (collectFiles disk r.paths) reports ∧
      code = exitCode reports ∧
      output = logText log ++ (documentOf reports ++ "\n") ∧
      readReports? (documentOf reports) = some reports ∧
      (log = [] → readReports? output = some reports) ∧
      (Libraries.console.Labels → log ≠ [] → ∀ v, Json.read output ≠ .ok v) := by
  intro output log
  have hverify : Presents (verifyCommand r) disk (consoles verbose) _ _ :=
    presents_verify_of_load hpaths hload
  have houtcome := (Shows.run (w := startingWorld disk verbose) hverify).1
  rw [run_of_arguments disk hargs] at hcode
  obtain ⟨hfault, hall⟩ := Shown.outcome_eq_ok_iff.1 (houtcome.symm.trans hcode)
  obtain ⟨reports, hall, hexit⟩ := map_eq_ok_iff.1 hall
  have hreports := checkAll_eq_ok_iff.1 hall
  have hlog := (Shown.fault?_append_eq_none_iff.1 hfault).1
  have houtput : output = logText log ++ (documentOf reports ++ "\n") :=
    (run_of_reports hargs hjson hpaths hload hreports hlog).2
  refine ⟨reports, hreports, hexit.symm, houtput, ?_, fun hempty => ?_, fun hlabels hne v => ?_⟩
  · exact readReports?_documentOf reports (List.forall_mem_nil _) (List.append_nil _).symm
  · have hgap : Json.Gap ['\n'] := List.forall_mem_singleton.2 rfl
    refine readReports?_documentOf reports hgap ?_
    rw [houtput, hempty, String.toList_append, String.toList_append]
    rfl
  · refine read_error_of_log hlabels hne (fun _ => level_of_mem_logOf) ?_ houtput v
    rw [← logItems_eq_map hjson hreports hlog]
    exact hlog

end

/-! ## A script that calls a name -/

/-- A script that calls a name, and an empty list of names. -/
def callDisk : Disk := ⟨.dir [("t.lua", .file (Utf8.encode "x()")), ("names.txt", .file [])], []⟩

/-- Where the script is. -/
def callPath : Path := ⟨.working, ["t.lua"]⟩

/-- The report on the script. -/
def callReport : Report := ⟨some "t.lua", [⟨.undefinedUse, "x"⟩], [], true⟩

/-- The request to check the script with no global names. -/
def callRequest : VerifyRequest := ⟨[callPath], [], some ⟨.working, ["names.txt"]⟩, true⟩

/-- The settings with no global names. -/
def nameless : Settings := { Settings.bundled with globals := [] }

theorem load_callDisk : callRequest.load callDisk = (.ok nameless, []) := rfl

theorem forall₂_callDisk :
    List.Forall₂ (fun p report => verifyFile callDisk (some nameless) p = .ok report)
      (collectFiles callDisk callRequest.paths) [callReport] := by
  have hreport : (verifyFile callDisk (some nameless) callPath).toOption = some callReport := by
    decide +kernel
  exact .cons (toOption_eq_some_iff.1 hreport) .nil

/-- A run that is asked for the trace: what it prints besides the document is printed where the
document is, so that the output is none. -/
theorem traced_output_no_document :
    let args := ["verify", "--json", "-v", "--globals-file", "names.txt", "t.lua"]
    Invocation.ofArguments args = .ok ⟨true, .verify callRequest⟩ ∧
      (Command.run callDisk args).outcome = .ok 1 ∧
      verifyFile callDisk (some nameless) callPath = .ok callReport ∧
      ∀ v, Json.read (Command.run callDisk args).output ≠ .ok v := by
  intro args
  have hargs : Invocation.ofArguments args = .ok ⟨true, .verify callRequest⟩ := by decide +kernel
  have hpaths : ∀ p ∈ callRequest.paths, callDisk.pathExists p = true := by decide +kernel
  have hload : (callRequest.load callDisk).1 = .ok nameless := congrArg Prod.fst load_callDisk
  have hlog : Shown.fault? (logItems callDisk (consoles true) callRequest nameless) = none := by
    decide +kernel
  have hevents : (logOf callDisk true callRequest nameless).isEmpty = false := by decide +kernel
  obtain ⟨houtcome, houtput⟩ := run_of_reports hargs rfl hpaths hload forall₂_callDisk hlog
  refine ⟨hargs, houtcome, (List.forall₂_cons.1 forall₂_callDisk).1, ?_⟩
  refine read_error_of_log labels_screen (List.isEmpty_eq_false_iff.1 hevents)
    (fun _ => level_of_mem_logOf) ?_ houtput
  rw [← logItems_eq_map rfl forall₂_callDisk hlog]
  exact hlog

/-- Without the trace the output is read back as the report. -/
theorem verify_output_eq_log_document_use :
    let args := ["verify", "--json", "--globals-file", "names.txt", "t.lua"]
    Invocation.ofArguments args = .ok ⟨false, .verify callRequest⟩ ∧
      (Command.run callDisk args).outcome = .ok 1 ∧
      readReports? (Command.run callDisk args).output = some [callReport] := by
  intro args
  have hargs : Invocation.ofArguments args = .ok ⟨false, .verify callRequest⟩ := by decide +kernel
  have hpaths : ∀ p ∈ callRequest.paths, callDisk.pathExists p = true := by decide +kernel
  have hload : (callRequest.load callDisk).1 = .ok nameless := congrArg Prod.fst load_callDisk
  have hlog : Shown.fault? (logItems callDisk (consoles false) callRequest nameless) = none :=
    congrArg Shown.fault? (logItems_of_quiet (congrArg Prod.snd load_callDisk) rfl rfl)
  have houtcome : (Command.run callDisk args).outcome = .ok 1 :=
    (run_of_reports hargs rfl hpaths hload forall₂_callDisk hlog).1
  obtain ⟨reports, hchecked, -, -, -, hread, -⟩ :=
    verify_output_eq_log_document hargs rfl hpaths hload houtcome
  have hreports : reports = [callReport] := by
    have hall := checkAll_eq_ok_iff.2 hchecked
    exact Except.ok.inj (hall.symm.trans (checkAll_eq_ok_iff.2 forall₂_callDisk))
  refine ⟨hargs, houtcome, (hread rfl).trans ?_⟩
  rw [hreports]

end DefUse
