import DefUse.Proofs.Command.Dump
import DefUse.Proofs.Command.Verify
import DefUse.Proofs.Console.Screen

/-!
# Proofs/Command/Agreement — the two ways of reporting agree

Whether reports are for people or for programs, `verify` comes to the same (`verifyOutcome`), and
the reports are the same ones in the same order.  People are shown more, though: a line to begin
with, and each report in lines of its own.  A console that cannot show one of these breaks off a run
for people where a run for programs comes to its end.  On a console on which escaped texts can be
shown (`Console.Escapes`), as they can on `screen`, that never happens.

What people see of a report is what it says on a console that shows its texts as they stand
(`Console.Legible`).  Which texts are shown so is the console's own affair.  On `screen` they are
those without a backslash before a bracket and without a name between colons that stands for a
picture (`Markup.Verbatim`).
-/

namespace DefUse

open Job

/-! ## Lines of findings -/

/-- The line of a finding, counted. -/
def Finding.line (k : Nat) (f : Finding) : String := s!"Warning #{k}: {f.message}"

theorem Finding.numberedFrom_eq (k : Nat) (fs : List Finding) :
    Finding.numberedFrom k fs = fs.mapIdx fun i f => f.line (i + k) := by
  induction fs generalizing k with
  | nil => rfl
  | cons f fs ih =>
    have hshift : (fun i (f : Finding) => f.line (i + (k + 1))) =
        fun i f => f.line (i + 1 + k) := by
      funext i f
      rw [Nat.add_comm k, Nat.add_assoc]
    rw [Finding.numberedFrom, ih, hshift, List.mapIdx_cons, Nat.zero_add]
    rfl

section

variable [Libraries] {disk : Disk} {routing : Routing} {settings : Settings} {reports : List Report}

/-! ## Reports that are shown as they stand -/

/-- All texts of a report are among those that are shown as they stand. -/
structure Report.Legible (legible : String → Prop) (r : Report) : Prop where
  path : legible (r.path.getD "<tree>")
  errors : ∀ e ∈ r.errors, legible ("❌ Verification aborted: " ++ e)
  findings : ∀ f ∈ r.findings, ∀ k, legible ("⚠️  " ++ f.line k)

/-- **What people see of a report** whose texts are shown as they stand: its path, a line for each
error, and a numbered line for each finding. -/
theorem reportItems_of_legible {legible : String → Prop} {r : Report}
    (hconsole : Libraries.console.Legible legible) (haccepts : routing.accepts .warning = true)
    (h : r.Legible legible) :
    reportItems routing r = ([r.path.getD "<tree>"] ++
      r.errors.map ("ERROR    ❌ Verification aborted: " ++ ·) ++
      r.findings.mapIdx fun i f => "WARNING  ⚠️  " ++ f.line (i + 1)).map
        fun line => .ok [line] := by
  have haccepts' : routing.accepts .error = true := by
    rw [Routing.accepts, decide_eq_true_eq] at haccepts ⊢
    exact haccepts.trans (by decide)
  have hpath : r.shownPath = .ok [r.path.getD "<tree>"] := hconsole.path _ h.path
  have herrors : (r.errors.map fun e => routing.shown (abortRecord e)) =
      r.errors.map fun e => .ok ["ERROR    ❌ Verification aborted: " ++ e] := by
    refine List.map_congr_left fun e he => ?_
    exact (if_pos haccepts').trans (hconsole.abort e (h.errors e he))
  have hfindings : ((Finding.numbered r.findings).map fun line =>
      routing.shown (findingRecord line)) =
      (r.findings.mapIdx fun i f => "WARNING  ⚠️  " ++ f.line (i + 1)).map
        fun line => .ok [line] := by
    rw [Finding.numbered, Finding.numberedFrom_eq]
    refine List.ext_getElem (by simp only [List.length_map, List.length_mapIdx]) fun i _ _ => ?_
    simp only [List.getElem_map, List.getElem_mapIdx]
    exact (if_pos haccepts).trans (hconsole.finding _ (h.findings _ (List.getElem_mem _) _))
  rw [reportItems, hpath, herrors, hfindings, List.map_append, List.map_append, List.map_map]
  rfl

/-! ## Everything people are told -/

/-- A tame text can be shown, at any level. -/
theorem Routing.toBool_shown (level : Level) {text : String}
    (hconsole : Libraries.console.Escapes) (h : Libraries.console.Tame text) :
    (routing.shown ⟨level, text⟩).toBool = true := by
  rw [Routing.shown]
  split
  · exact hconsole.record level text h
  · rfl

/-- People can be told what is going to be checked. -/
theorem fault?_openingItems (hconsole : Libraries.console.Escapes) (files names : Nat) :
    Shown.fault? (openingItems routing false files names) = none := by
  have hsign : Markup.Unmarked Level.info.sign.toList := by decide
  have hfirst : Markup.Unmarked "Verifying ".toList := by decide
  have hmiddle : Markup.Unmarked " file(s) against ".toList := by decide
  have hlast : Markup.Unmarked " global identifiers...".toList := by decide
  have htame : Libraries.console.Tame (openingRecord files names).text :=
    .plain (Markup.unmarked_append hsign (Markup.unmarked_append (Markup.unmarked_append
      (Markup.unmarked_append (Markup.unmarked_append hfirst (Markup.unmarked_toString files))
        hmiddle) (Markup.unmarked_toString names)) hlast))
  exact Shown.fault?_eq_none_iff.2 (List.forall_mem_singleton.2
    (Routing.toBool_shown .info hconsole htame))

theorem fault?_reportItems (hconsole : Libraries.console.Escapes) (r : Report) :
    Shown.fault? (reportItems routing r) = none := by
  rw [reportItems, Shown.fault?_append_eq_none_iff, Shown.fault?_eq_none_iff,
    Shown.fault?_eq_none_iff, List.forall_mem_cons, List.forall_mem_map, List.forall_mem_map]
  refine ⟨⟨hconsole.printed _ (.path _), fun e _ => ?_⟩, fun line _ => ?_⟩
  · have htext : (abortRecord e).text =
        Level.error.sign ++ "Verification aborted: " ++ Libraries.console.escape e :=
      (String.append_assoc ..).symm
    have htame : Libraries.console.Tame (abortRecord e).text :=
      htext ▸ .escaped (by decide) e
    exact Routing.toBool_shown .error hconsole htame
  · have htame : Libraries.console.Tame (findingRecord line).text := .escaped (by decide) line
    exact Routing.toBool_shown .warning hconsole htame

theorem fault?_closingItems (hconsole : Libraries.console.Escapes) (reports : List Report) :
    Shown.fault? (closingItems routing reports) = none := by
  have hcell : ∀ row ∈ (summary reports).rows, ∀ cell ∈ row, Libraries.console.Tame cell := by
    refine List.forall_mem_map.2 fun r _ => ?_
    rw [Report.row, List.forall_mem_append, List.forall_mem_cons, List.forall_mem_map,
      List.forall_mem_singleton]
    refine ⟨⟨?_, fun k _ => .plain (Markup.unmarked_toString _)⟩, .status r⟩
    have hempty : Markup.Unmarked "".toList := by decide
    simpa only [String.empty_append] using Console.Tame.escaped hempty (r.path.getD "")
  have htame : Libraries.console.Tame successRecord.text := .plain (by decide)
  rw [closingItems, Shown.fault?_append_eq_none_iff, Shown.fault?_eq_none_iff,
    Shown.fault?_eq_none_iff]
  constructor
  · split
    · exact List.forall_mem_singleton.2 (hconsole.table _ hcell)
    · exact List.forall_mem_nil _
  · split
    · exact List.forall_mem_singleton.2 (Routing.toBool_shown .success hconsole htame)
    · exact List.forall_mem_nil _

/-- **Reports can always be shown to people** on a console on which escaped texts can be shown. -/
theorem fault?_reportsItems (hconsole : Libraries.console.Escapes) (reports : List Report) :
    Shown.fault? (reportsItems routing false reports) = none := by
  refine Shown.fault?_append_eq_none_iff.2 ⟨?_, fault?_closingItems hconsole reports⟩
  rw [Shown.fault?_eq_none_iff]
  intro item hitem
  obtain ⟨r, -, hr⟩ := List.mem_flatMap.1 hitem
  exact Shown.fault?_eq_none_iff.1 (fault?_reportItems hconsole r) item hr

/-- **What is put on the console for people only.** -/
def peopleItems (disk : Disk) (routing : Routing) (r : VerifyRequest) : List Shown :=
  match (r.load disk).1 with
  | .error _ => []
  | .ok settings =>
    let files := collectFiles disk r.paths
    openingItems routing false files.length settings.globals.length ++
      resultItems routing false (checkAll disk settings files)

theorem fault?_peopleItems (hconsole : Libraries.console.Escapes) (disk : Disk) (routing : Routing)
    (r : VerifyRequest) : Shown.fault? (peopleItems disk routing r) = none := by
  rw [peopleItems]
  split
  · rfl
  · refine Shown.fault?_append_eq_none_iff.2 ⟨fault?_openingItems hconsole _ _, ?_⟩
    rw [resultItems.eq_def]
    split
    · exact fault?_reportsItems hconsole _
    · rfl

/-- What `verify` puts on the console once it has settings and all paths are there. -/
theorem verifyItems_of_load (routing : Routing) {r : VerifyRequest}
    (hpaths : r.paths.all disk.pathExists = true) (hload : (r.load disk).1 = .ok settings) :
    verifyItems disk routing r = warningItems disk routing r ++
      (openingItems routing r.json (collectFiles disk r.paths).length settings.globals.length ++
        ((checkedFiles disk settings (collectFiles disk r.paths)).flatMap
            (fileItems disk routing settings) ++
          resultItems routing r.json (checkAll disk settings (collectFiles disk r.paths)))) := by
  rw [verifyItems, if_pos hpaths, hload]
  dsimp only [logItems]
  rw [List.append_assoc, List.append_assoc]

/-- What is printed for programs can always be shown. -/
theorem outcome_resultItems_true {α : Type} (checked : Except Crash (List Report))
    (o : Except Crash α) : Shown.outcome (resultItems routing true checked) o = o := by
  cases checked <;> rfl

/-- **Both ways come to the same**, unless something that only people are shown cannot be shown. -/
theorem outcomes_agree (disk : Disk) (routing : Routing) (r : VerifyRequest) :
    let human := Shown.outcome (verifyItems disk routing { r with json := false })
      (verifyOutcome disk r)
    human =
        Shown.outcome (verifyItems disk routing { r with json := true }) (verifyOutcome disk r) ∨
      ∃ f, .error f ∈ peopleItems disk routing r ∧ human = .error (.unshown f) := by
  intro human
  by_cases hpaths : r.paths.all disk.pathExists = true
  · cases hload : (r.load disk).1 with
    | error e =>
      have hsame : verifyItems disk routing { r with json := false } =
          verifyItems disk routing { r with json := true } := by
        have hload' : ∀ json, (VerifyRequest.load { r with json } disk).1 = .error e :=
          fun _ => hload
        rw [verifyItems, verifyItems, if_pos hpaths, if_pos hpaths, hload', hload']
        rfl
      exact Or.inl (congrArg (Shown.outcome · _) hsame)
    | ok settings =>
      have hhuman := verifyItems_of_load routing (r := { r with json := false }) hpaths hload
      have hmachine := verifyItems_of_load routing (r := { r with json := true }) hpaths hload
      rw [hmachine, openingItems, if_pos rfl, List.nil_append, ← List.append_assoc,
        Shown.outcome_append, outcome_resultItems_true, peopleItems, hload]
      simp only [human]
      rw [hhuman]
      exact Shown.outcome_among ..
  · have hsame : verifyItems disk routing { r with json := false } =
        verifyItems disk routing { r with json := true } := by
      rw [verifyItems, verifyItems, if_neg hpaths, if_neg hpaths]
    exact Or.inl (congrArg (Shown.outcome · _) hsame)

/-! ## Exit codes -/

omit [Libraries] in
theorem exitCode_eq_zero_iff :
    exitCode reports = 0 ↔ ∀ report ∈ reports, report.isClean = true := by
  rw [exitCode, ← List.all_eq_true]
  split <;> simp_all

/-- **There is nothing to report**: every path exists, the settings load, and every file that is
collected is reported on without errors and without findings. -/
structure Flawless (disk : Disk) (r : VerifyRequest) : Prop where
  paths : ∀ p ∈ r.paths, disk.pathExists p = true
  reports : ∃ settings, (r.load disk).1 = .ok settings ∧
    ∀ p ∈ collectFiles disk r.paths, ∃ report, verifyFile disk (some settings) p = .ok report ∧
      report.isClean = true

/-- Reports are clean if each file has a clean one. -/
theorem forall_isClean_iff {files : List Path}
    (h : List.Forall₂ (fun p report => verifyFile disk (some settings) p = .ok report)
      files reports) :
    (∀ report ∈ reports, report.isClean = true) ↔
      ∀ p ∈ files, ∃ report, verifyFile disk (some settings) p = .ok report ∧
        report.isClean = true := by
  induction h with
  | nil => simp
  | @cons p report files reports hp _ ih =>
    have hfirst : report.isClean = true ↔
        ∃ report, verifyFile disk (some settings) p = .ok report ∧ report.isClean = true := by
      constructor
      · exact fun hclean => ⟨report, hp, hclean⟩
      · rintro ⟨report', hp', hclean⟩
        obtain rfl := Except.ok.inj (hp.symm.trans hp')
        exact hclean
    rw [List.forall_mem_cons, List.forall_mem_cons, ih, hfirst]

/-- **A run that comes to a code has its reports**, unless a path is missing or the settings do not
load; and its code is the one for them. -/
theorem exists_reports_of_outcome {r : VerifyRequest} {code : Nat}
    (hpaths : ∀ p ∈ r.paths, disk.pathExists p = true) (hload : (r.load disk).1 = .ok settings)
    (hcode : verifyOutcome disk r = .ok code) :
    ∃ reports, List.Forall₂ (fun p report => verifyFile disk (some settings) p = .ok report)
      (collectFiles disk r.paths) reports ∧ code = exitCode reports := by
  rw [verifyOutcome, if_pos (List.all_eq_true.2 hpaths), hload] at hcode
  obtain ⟨reports, hall, rfl⟩ := map_eq_ok_iff.1 hcode
  exact ⟨reports, checkAll_eq_ok_iff.1 hall, rfl⟩

/-- **The exit code is zero exactly if there is nothing to report.** -/
theorem verifyOutcome_eq_zero_iff {r : VerifyRequest} {code : Nat}
    (hcode : verifyOutcome disk r = .ok code) : code = 0 ↔ Flawless disk r := by
  by_cases hpaths : ∀ p ∈ r.paths, disk.pathExists p = true
  · cases hload : (r.load disk).1 with
    | error e =>
      have hnot : ¬ Flawless disk r := by
        rintro ⟨-, settings, hok, -⟩
        cases hload.symm.trans hok
      rw [verifyOutcome, if_pos (List.all_eq_true.2 hpaths), hload] at hcode
      dsimp only at hcode
      split at hcode
      · obtain rfl := Except.ok.inj hcode
        exact ⟨fun h => absurd h Nat.one_ne_zero, fun h => absurd h hnot⟩
      · cases hcode
    | ok settings =>
      obtain ⟨reports, hreports, rfl⟩ := exists_reports_of_outcome hpaths hload hcode
      rw [exitCode_eq_zero_iff, forall_isClean_iff hreports]
      constructor
      · exact fun hclean => ⟨hpaths, settings, hload, hclean⟩
      · rintro ⟨-, settings', hload', hclean⟩
        obtain rfl := Except.ok.inj (hload.symm.trans hload')
        exact hclean
  · rw [verifyOutcome, if_neg fun hall => hpaths (List.all_eq_true.1 hall)] at hcode
    obtain rfl := Except.ok.inj hcode
    exact ⟨fun h => absurd h Nat.one_ne_zero, fun h => absurd h.paths hpaths⟩

/-! ## Both ways of reporting -/

/-- **What `verify` does if every file has its report.** -/
theorem presents_verify_of_reports {r : VerifyRequest}
    (hpaths : ∀ p ∈ r.paths, disk.pathExists p = true) (hload : (r.load disk).1 = .ok settings)
    (hreports : List.Forall₂ (fun p report => verifyFile disk (some settings) p = .ok report)
      (collectFiles disk r.paths) reports) :
    Presents (verifyCommand r) disk routing
      (warningItems disk routing r ++
        (openingItems routing r.json reports.length settings.globals.length ++
          ((collectFiles disk r.paths).flatMap (fileItems disk routing settings) ++
            reportsItems routing r.json reports))) (.ok (exitCode reports)) := by
  have h : Presents (verifyCommand r) disk routing _ _ := presents_verify_of_load hpaths hload
  rw [checkAll_eq_ok_iff.2 hreports] at h
  dsimp only [logItems] at h
  rw [checkedFiles_of_forall₂ hreports, hreports.length_eq, List.append_assoc,
    List.append_assoc] at h
  exact h

end

/-! ## On the screen -/

/-- The texts that come from outside are shown as they stand. -/
structure Report.Verbatim (r : Report) : Prop where
  path : Markup.Verbatim (r.path.getD "<tree>")
  errors : ∀ e ∈ r.errors, Markup.Verbatim e
  names : ∀ f ∈ r.findings, Markup.Verbatim f.name

/-- A text after a blank is shown as it stands if what stands before the blank is. -/
theorem Markup.Verbatim.append_blank {before s : String} (hbefore : Plainly before.toList)
    (h : Verbatim s) : Verbatim (before ++ " " ++ s) := by
  have hblank : " ".toList = [' '] := by decide
  have htext : (before ++ " " ++ s).toList = before.toList ++ ' ' :: s.toList := by
    rw [String.toList_append, String.toList_append, hblank, List.append_assoc]
    rfl
  refine ⟨htext ▸ hbefore.append_blank h.plainly, ?_⟩
  rw [htext, EndsPlain, List.getLast?_append, List.getLast?_cons]
  cases hlast : s.toList.getLast? with
  | none => simp
  | some c => exact fun hc => h.endsPlain (hlast.trans hc)

/-- What a finding says before the name. -/
def FindingKind.words : FindingKind → String
  | undefinedUse => "Using undefined variable"
  | redefinition => "Variable redefinition of"

theorem Finding.message_eq (f : Finding) : f.message = f.kind.words ++ " " ++ f.name := by
  unfold Finding.message
  cases f.kind with
  | undefinedUse =>
    rw [show FindingKind.undefinedUse.words ++ " " = "Using undefined variable " by decide]
    rfl
  | redefinition =>
    rw [show FindingKind.redefinition.words ++ " " = "Variable redefinition of " by decide]
    rfl

theorem Finding.signed_line_eq (k : Nat) (f : Finding) :
    "⚠️  " ++ f.line k =
      "⚠️  Warning #" ++ (toString k ++ (": " ++ f.kind.words)) ++ " " ++ f.name := by
  have hline : f.line k = "Warning #" ++ toString k ++ ": " ++ f.message := rfl
  have hsign : "⚠️  Warning #" = "⚠️  " ++ "Warning #" := by decide
  rw [hline, f.message_eq, hsign]
  simp only [String.append_assoc]

/-- A number is shown as it stands. -/
theorem ordinary_of_mem_toString {n : Nat} {c : Char} (h : c ∈ (toString n).toList) :
    (c ≠ '\n' ∧ c ≠ '\t' ∧ Markup.isDropped c = false) ∧ c ≠ '\\' ∧ c ≠ ':' := by
  have htext : (toString n).toList = Nat.toDigits 10 n := Nat.toList_repr
  rw [htext] at h
  have hdigit : c.isDigit = true := Nat.isDigit_of_mem_toDigits (by decide) (by decide) h
  obtain ⟨hlow, hhigh⟩ : 48 ≤ c.toNat ∧ c.toNat ≤ 57 := Char.isDigit_iff_toNat.1 hdigit
  have hne : ∀ d : Char, d.toNat < 48 ∨ 57 < d.toNat → c ≠ d := by
    rintro d hd rfl
    omega
  refine ⟨⟨hne _ (by decide), hne _ (by decide), ?_⟩, hne _ (by decide), hne _ (by decide)⟩
  simp only [Markup.isDropped, List.contains_eq_mem, decide_eq_false_iff_not, List.mem_cons,
    List.not_mem_nil, or_false]
  omega

/-- What stands before the name in the line of a finding is shown as it stands: it has one colon
only. -/
theorem FindingKind.plainly_before (kind : FindingKind) (k : Nat) :
    Markup.Plainly ("⚠️  Warning #" ++ (toString k ++ (": " ++ kind.words))).toList := by
  have hsign : Markup.Kept "⚠️  Warning #".toList ∧ '\\' ∉ "⚠️  Warning #".toList ∧
      "⚠️  Warning #".toList.count ':' = 0 := by decide
  have hwords : Markup.Kept (": " ++ kind.words).toList ∧ '\\' ∉ (": " ++ kind.words).toList ∧
      (": " ++ kind.words).toList.count ':' = 1 := by
    cases kind <;> decide
  have hdigits : (toString k).toList.count ':' = 0 :=
    List.count_eq_zero.2 fun hc => (ordinary_of_mem_toString hc).2.2 rfl
  rw [String.toList_append, String.toList_append]
  refine Markup.plainly_of_count ?_ ?_ ?_
  · exact List.forall_mem_append.2 ⟨hsign.1, List.forall_mem_append.2
      ⟨fun c hc => (ordinary_of_mem_toString hc).1, hwords.1⟩⟩
  · rw [List.mem_append, List.mem_append, not_or, not_or]
    exact ⟨hsign.2.1, fun hc => (ordinary_of_mem_toString hc).2.1 rfl, hwords.2.1⟩
  · rw [List.count_append, List.count_append, hsign.2.2, hdigits, hwords.2.2]

/-- **All texts of a report are shown as they stand** on the screen if those from outside are. -/
theorem Report.Verbatim.legible {r : Report} (h : r.Verbatim) : r.Legible Markup.Verbatim where
  path := h.path
  errors e he := by
    have hbefore : Markup.Plainly "❌ Verification aborted:".toList :=
      Markup.plainly_of_count (by decide) (by decide) (by decide)
    have htext : "❌ Verification aborted: " = "❌ Verification aborted:" ++ " " := by decide
    rw [htext]
    exact (h.errors e he).append_blank hbefore
  findings f hf k := by
    rw [f.signed_line_eq]
    exact (h.names f hf).append_blank (f.kind.plainly_before k)

/-! ## A name that is used

The tree of a script that calls a name and does nothing else, as a document. -/

/-- The tree of a script that calls a name. -/
def useTree (name : String) : Value := .record
  [("type", .str "Chunk"),
   ("body", .list [.record
     [("type", .str "CallStatement"),
      ("expression", .record [("type", .str "Identifier"), ("name", .str name)])]])]

/-- Where the tree is. -/
def usePath : Path := ⟨.working, ["t.json"]⟩

/-- The disk with the tree. -/
def useDisk (name : String) : Disk :=
  ⟨.dir [("t.json", .file (Utf8.encode (dumpText (.ofValue (useTree name)))))], []⟩

/-- The report on the tree if the name is not defined. -/
def useReport (name : String) : Report := ⟨some "t.json", [⟨.undefinedUse, name⟩], [], true⟩

theorem loadTree_useDisk (name : String) :
    (useDisk name).loadTree usePath = .ok (useTree name) := by
  have hproper : (useTree name).Proper := by
    simp [useTree, Value.Proper, Value.ProperItems, Value.ProperFields]
  have hshow := Json.Document.toValue_ofValue (useTree name)
  have htree : IsTree (.ofValue (useTree name)) :=
    ⟨by rw [hshow]; rfl, by rw [hshow]; exact ⟨_, rfl⟩, Json.Document.proper_ofValue hproper⟩
  have hload := loadDocument_of_dump htree rfl (by decide) (d := useDisk name)
    (p := usePath) rfl
  rw [loadTree_of_loadDocument hload, hshow]

/-- All that a walk through the tree does is to use the name. -/
theorem blockSteps_useTree {name : String} (h : name ≠ "") :
    blockSteps (useTree name) = [.enter (.str "CallStatement"), .use name] := by
  let identifier : Value := .record [("type", .str "Identifier"), ("name", .str name)]
  have hname : joinedName identifier = .ok (some name) := by
    rw [joinedName_of_identifier rfl]
    exact congrArg (Except.map some) (if_neg h)
  rw [blockSteps_of_body rfl, List.flatMap_singleton, statementSteps_eq]
  exact congrArg (Step.enter (.str "CallStatement") :: ·) (expressionSteps_of_some hname)

/-- The tree has its report if the name is not taken for granted. -/
theorem verify_useTree {settings : Settings} {name : String} (hname : name ≠ "")
    (h : name ∉ settings.globals) :
    ((Session.start settings (useTree name)).verify (some "t.json")).1 = .ok (useReport name) := by
  let s := (Session.start settings (useTree name)).walking
  let t := s.note (.entered (.str "CallStatement") 0)
  have haligned : Step.Aligned 0 s := Session.aligned_walking settings (useTree name)
  have hhidden : ¬ t.scopes.Sees name 0 := by
    rintro ⟨k, -, hk⟩
    exact h (Session.mem_definedAt_start.1 hk).2
  have hsteps : Step.performAll 0 [.enter (.str "CallStatement"), .use name] s = t.use name 0 := by
    simp only [Step.performAll, Step.perform, Outcome.andThen_none]
    rcases t.use name 0 with ⟨_ | f, u⟩ <;> rfl
  have hfindings : ((Session.start settings (useTree name)).walk 0).2.findings =
      [⟨.undefinedUse, name⟩] := by
    rw [Session.walk_start, blockSteps_useTree hname, hsteps,
      Session.findings_use_of_aligned (s := t) ⟨haligned.balanced, haligned.depth_eq⟩,
      if_neg hhidden, Session.findings_note,
      (Session.fresh_start settings (useTree name)).findings_eq]
    rfl
  rw [Session.fst_verify, Session.failure_walk_start, hfindings, blockSteps_useTree hname]
  rfl

/-- So has the file the tree is in. -/
theorem verifyFile_useDisk {settings : Settings} {name : String} (hname : name ≠ "")
    (h : name ∉ settings.globals) :
    verifyFile (useDisk name) (some settings) usePath = .ok (useReport name) := by
  rw [verifyFile_some, checkFile_of_ok (loadTree_useDisk name)]
  exact congrArg (Except.mapError Escape.walk) (verify_useTree hname h)

theorem load_useDisk (name : String) (json : Bool) :
    VerifyRequest.load ⟨[usePath], [], none, json⟩ (useDisk name) = (.ok .bundled, []) :=
  load_of_nearest rfl

end DefUse
