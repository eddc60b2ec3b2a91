import DefUse.Proofs.Command.Arguments
import DefUse.Proofs.Command.Verify
import DefUse.Proofs.Console.Screen

/-!
# Proofs/Command/Tracing — what asking for a trace changes

A file is checked alike whether or not there is a trace (`checkFile_traced`), and so everything that
`verify` puts on the console is the same, but for the traces of the files, which stand in one place
(`exists_verifyItems`).  Whatever the console, the run comes to the same if it can show them.  Names
are logged as they are, and a console on which texts are marked may not be able to show one of them:
then the run breaks off.  `dump-tree` has no trace at all.
-/

namespace DefUse

open Job

variable {α β : Type} {x : Job α} {f : α → Job β} {disk : Disk} {settings : Settings}

/-! ## Jobs that are done alike -/

/-- **A job is done alike** whether a trace is asked for or not. -/
def Steady (x : Job α) (disk : Disk) : Prop :=
  ∃ outcome disk' ls, ∀ verbose printed, x.run ⟨disk, consoles verbose, printed⟩ =
    (outcome, ⟨disk', consoles verbose, List.reverse ls ++ printed⟩)

theorem steady_of_presents {items : List Shown} {outcome : Except Crash α}
    (h : ∀ verbose, Presents x disk (consoles verbose) items outcome) : Steady x disk :=
  ⟨_, disk, _, h⟩

theorem steady_pure (a : α) : Steady (pure a) disk := steady_of_presents fun _ => presents_pure a

theorem steady_throw (e : Crash) : Steady (throw e : Job α) disk :=
  steady_of_presents fun _ => presents_throw e

theorem Steady.bind (hx : Steady x disk) (hf : ∀ a disk, Steady (f a) disk) :
    Steady (x >>= f) disk := by
  obtain ⟨e | a, disk', ls, hx⟩ := hx
  · refine ⟨.error e, disk', ls, fun verbose printed => ?_⟩
    rw [run_bind, hx]
  · obtain ⟨outcome, disk'', ls', hf⟩ := hf a disk'
    refine ⟨outcome, disk'', ls ++ ls', fun verbose printed => ?_⟩
    rw [run_bind, hx]
    dsimp only
    rw [hf, List.reverse_append, List.append_assoc]

/-- A job may look at the disk. -/
theorem Steady.get_bind {f : World → Job β}
    (hf : ∀ routing printed, f ⟨disk, routing, printed⟩ = f ⟨disk, .initial, []⟩)
    (h : Steady (f ⟨disk, .initial, []⟩) disk) : Steady (get >>= f) disk := by
  obtain ⟨outcome, disk', ls, h⟩ := h
  refine ⟨outcome, disk', ls, fun verbose printed => ?_⟩
  rw [run_bind, run_get]
  dsimp only
  rw [hf]
  exact h verbose printed

/-- A file is written alike. -/
theorem steady_writeFile (p : Path) (text : String) (disk : Disk) :
    Steady (writeFile p text) disk := by
  cases hmade : disk.makeDirectories p.parent p.parts.length with
  | error e =>
    refine ⟨.error (.file e), disk, [], fun verbose printed => ?_⟩
    rw [writeFile, run_bind, run_get]
    simp only [hmade, run_throw, List.reverse_nil, List.nil_append]
  | ok made =>
    cases hwritten : made.write p (Utf8.encode text) with
    | error e =>
      refine ⟨.error (.file e), made, [], fun verbose printed => ?_⟩
      rw [writeFile, run_bind, run_get]
      simp only [hmade, run_bind, run_set, hwritten, run_throw, List.reverse_nil, List.nil_append]
    | ok after =>
      refine ⟨.ok (), after, [], fun verbose printed => ?_⟩
      rw [writeFile, run_bind, run_get]
      simp only [hmade, run_bind, run_set, hwritten, List.reverse_nil, List.nil_append]

/-! ## Events that can be shown -/

/-- The texts of an event that come from outside. -/
def Event.texts : Event → List String
  | defined n _ | used n _ _ | retracted n => [n]
  | warned f => [f.name]
  | entered kind _ => [kind.plain]
  | ignored kind => [kind.display]
  | opened _ | closed _ | left _ => []

open Markup in
/-- A message has no marks but for those of its texts and those of a statement that is entered. -/
theorem Event.tame_message (c : Console) {e : Event} (h : ∀ t ∈ e.texts, Unmarked t.toList) :
    c.Tame e.message := by
  have hat : Unmarked " @ ".toList := by decide
  have hclose : Unmarked ")".toList := by decide
  cases e with
  | opened d =>
    have hstart : Unmarked "Starting new local scope (depth ".toList := by decide
    exact .plain (unmarked_append (unmarked_append hstart (unmarked_toString d)) hclose)
  | closed d =>
    have hstart : Unmarked "Removing local scope (depth ".toList := by decide
    exact .plain (unmarked_append (unmarked_append hstart (unmarked_toString d)) hclose)
  | defined n d =>
    have hstart : Unmarked "Defining: ".toList := by decide
    have hname := unmarked_append hstart (h n List.mem_cons_self)
    exact .plain (unmarked_append (unmarked_append hname hat) (unmarked_toString d))
  | used n d visible =>
    have hstart : Unmarked "Using: ".toList := by decide
    have hname := unmarked_append hstart (h n List.mem_cons_self)
    have hmark : Unmarked (if visible then "" else " (undefined)").toList := by
      cases visible <;> decide
    exact .plain (unmarked_append
      (unmarked_append (unmarked_append hname hat) (unmarked_toString_int d)) hmark)
  | warned f =>
    have hstart : Unmarked "Warning: ".toList := by decide
    have hlabel : Unmarked f.kind.label.toList := by cases f.kind <;> decide
    have hblank : Unmarked " ".toList := by decide
    exact .plain (unmarked_append (unmarked_append (unmarked_append hstart hlabel) hblank)
      (h f.name List.mem_cons_self))
  | retracted n =>
    have hstart : Unmarked "Retracted undefined use of ".toList := by decide
    exact .plain (unmarked_append hstart (h n List.mem_cons_self))
  | entered kind d =>
    have hstart : Unmarked "STATEMENT ".toList := by decide
    have hend : Unmarked " ]] @ ".toList := by decide
    have hkind := unmarked_append hstart (h kind.plain List.mem_cons_self)
    have hmessage : (Event.entered kind d).message =
        "[[ " ++ ("STATEMENT " ++ kind.plain ++ " ]] @ " ++ toString d) := by
      have hbrackets : "[[ STATEMENT " = "[[ " ++ "STATEMENT " := by decide
      change "[[ STATEMENT " ++ kind.plain ++ " ]] @ " ++ toString d = _
      rw [hbrackets]
      simp only [String.append_assoc]
    rw [hmessage]
    exact .bracketed (unmarked_append (unmarked_append hkind hend) (unmarked_toString_int d))
  | ignored kind =>
    have hstart : Unmarked "Ignoring operand ".toList := by decide
    exact .plain (unmarked_append hstart (h kind.display List.mem_cons_self))
  | left c =>
    have hstart : Unmarked "Leaving ".toList := by decide
    have hscope : Unmarked "Scope(depth=".toList := by decide
    have hdefined : Unmarked ", defined=".toList := by decide
    have hused : Unmarked ", used=".toList := by decide
    exact .plain (unmarked_append hstart (unmarked_append (unmarked_append (unmarked_append
      (unmarked_append (unmarked_append (unmarked_append hscope (unmarked_toString _)) hdefined)
        (unmarked_toString _)) hused) (unmarked_toString _)) hclose))

section

variable [Libraries]

/-- **An event can be shown if its texts have no brackets and no backslashes**, on a console on
which escaped texts can be shown. -/
theorem Event.isShown_of_unmarked (hconsole : Libraries.console.Escapes) {e : Event}
    (h : ∀ t ∈ e.texts, Markup.Unmarked t.toList) : e.isShown = true :=
  hconsole.record .debug e.message (e.tame_message _ h)

/-! ## What is put on the console -/

/-- What is no event is shown alike. -/
theorem shown_consoles {r : Record} (h : r.level ≠ .debug) (verbose : Bool) :
    (consoles verbose).shown r = Libraries.console.record r := by
  refine if_pos ?_
  cases hlevel : r.level with
  | debug => exact absurd hlevel h
  | _ => cases verbose <;> rfl

/-- **What is put on the console for the traces** of the files that are checked. -/
def tracesItems (disk : Disk) (settings : Settings) (files : List Path) : List Shown :=
  files.flatMap fun p => traceItems (traceOf disk settings p)

/-- Traces are presented to their ends exactly if each of their events can be shown. -/
theorem fault?_tracesItems_eq_none_iff {files : List Path} :
    Shown.fault? (tracesItems disk settings files) = none ↔
      ∀ e ∈ files.flatMap (traceOf disk settings), e.isShown = true := by
  induction files with
  | nil => exact iff_of_true rfl (List.forall_mem_nil _)
  | cons p files ih =>
    rw [tracesItems, List.flatMap_cons, List.flatMap_cons, List.forall_mem_append,
      Shown.fault?_append_eq_none_iff, fault?_traceItems_eq_none_iff, Shown.fault?_eq_none_iff,
      List.forall_mem_map]
    exact and_congr_right fun _ => ih

theorem tracesItems_eq_map {files : List Path}
    (h : ∀ e ∈ files.flatMap (traceOf disk settings), e.isShown = true) :
    tracesItems disk settings files =
      (files.flatMap (traceOf disk settings)).map Event.shown := by
  induction files with
  | nil => rfl
  | cons p files ih =>
    rw [List.flatMap_cons, List.forall_mem_append] at h
    have hfirst : Shown.fault? ((traceOf disk settings p).map Event.shown) = none :=
      Shown.fault?_eq_none_iff.2 (List.forall_mem_map.2 h.1)
    rw [tracesItems, List.flatMap_cons, List.flatMap_cons, List.map_append,
      traceItems_of_none hfirst]
    exact congrArg _ (ih h.2)

/-- The files that a run of `verify` checks, and the settings: none if a path is missing or the
settings do not load. -/
def checkedBy (disk : Disk) (r : VerifyRequest) : Option (Settings × List Path) :=
  if r.paths.all disk.pathExists then
    match (r.load disk).1 with
    | .ok settings => some (settings, checkedFiles disk settings (collectFiles disk r.paths))
    | .error _ => none
  else none

/-- **The events of a run of `verify`**: those of the files it checks. -/
def eventsOf (disk : Disk) (r : VerifyRequest) : List Event :=
  match checkedBy disk r with
  | some (settings, files) => files.flatMap (traceOf disk settings)
  | none => []

/-- What is put on the console about reports is the same. -/
theorem reportsItems_consoles (verbose json : Bool) (reports : List Report) :
    reportsItems (consoles verbose) json reports = reportsItems (consoles false) json reports := by
  have habort : ∀ e, (abortRecord e).level ≠ .debug := fun e => show Level.error ≠ .debug by decide
  have hfinding : ∀ line, (findingRecord line).level ≠ .debug :=
    fun line => show Level.warning ≠ .debug by decide
  have hsuccess : successRecord.level ≠ .debug := by decide
  have hreport : reportItems (consoles verbose) = reportItems (consoles false) := by
    funext report
    simp only [reportItems, shown_consoles (habort _), shown_consoles (hfinding _)]
  simp only [reportsItems, hreport, closingItems, shown_consoles hsuccess]

theorem resultItems_consoles (verbose json : Bool) (checked : Except Crash (List Report)) :
    resultItems (consoles verbose) json checked = resultItems (consoles false) json checked := by
  cases checked with
  | ok reports => exact reportsItems_consoles verbose json reports
  | error e => rfl

theorem warningItems_consoles (disk : Disk) (verbose : Bool) (r : VerifyRequest) :
    warningItems disk (consoles verbose) r = warningItems disk (consoles false) r := by
  have hwarning : ∀ m, (warningRecord m).level ≠ .debug :=
    fun m => show Level.warning ≠ .debug by decide
  simp only [warningItems, shown_consoles (hwarning _)]

theorem refusalItems_consoles (verbose : Bool) (e : SettingsError) :
    refusalItems (consoles verbose) (.error e) = refusalItems (consoles false) (.error e) := by
  have hrefusal : ∀ m, (refusalRecord m).level ≠ .debug :=
    fun m => show Level.error ≠ .debug by decide
  simp only [refusalItems, shown_consoles (hrefusal _)]

theorem openingItems_consoles (verbose json : Bool) (files names : Nat) :
    openingItems (consoles verbose) json files names =
      openingItems (consoles false) json files names := by
  have hopening : (openingRecord files names).level ≠ .debug := show Level.info ≠ .debug by decide
  simp only [openingItems, shown_consoles hopening]

/-- **A trace stands in one place** of what `verify` puts on the console. -/
theorem exists_verifyItems (disk : Disk) (r : VerifyRequest) :
    ∃ before after, verifyItems disk (consoles false) r = before ++ after ∧
      verifyItems disk (consoles true) r = before ++
        ((match checkedBy disk r with
          | some (settings, files) => tracesItems disk settings files
          | none => []) ++ after) := by
  by_cases hpaths : r.paths.all disk.pathExists = true
  · cases hload : (r.load disk).1 with
    | error e =>
      refine ⟨verifyItems disk (consoles false) r, [], (List.append_nil _).symm, ?_⟩
      rw [checkedBy, if_pos hpaths, hload, List.append_nil, List.append_nil, verifyItems,
        verifyItems, if_pos hpaths, if_pos hpaths, hload]
      dsimp only
      rw [warningItems_consoles, refusalItems_consoles]
    | ok settings =>
      refine ⟨warningItems disk (consoles false) r ++ openingItems (consoles false) r.json
        (collectFiles disk r.paths).length settings.globals.length,
        resultItems (consoles false) r.json
          (checkAll disk settings (collectFiles disk r.paths)), ?_, ?_⟩
      · rw [verifyItems, if_pos hpaths, hload]
        dsimp only [logItems]
        rw [flatMap_fileItems_of_not rfl, List.append_nil]
      · rw [checkedBy, if_pos hpaths, hload, verifyItems, if_pos hpaths, hload]
        dsimp only [logItems]
        rw [warningItems_consoles, openingItems_consoles, resultItems_consoles, ← List.append_assoc,
          List.append_assoc]
        rfl
  · refine ⟨verifyItems disk (consoles false) r, [], (List.append_nil _).symm, ?_⟩
    have hmissing : ∀ p : Path, (Record.message .error ("Path not found: " ++ p.text)).level ≠
        .debug := fun p => show Level.error ≠ .debug by decide
    rw [checkedBy, if_neg hpaths, List.append_nil, List.append_nil, verifyItems, verifyItems,
      if_neg hpaths, if_neg hpaths]
    simp only [shown_consoles (hmissing _)]

/-! ## Trees -/

/-- Messages are logged alike, but for those of a trace. -/
theorem steady_log (level : Level) (text : String) (h : level ≠ .debug) :
    Steady (log level text) disk := by
  have hrecord : (Record.message level text).level ≠ .debug := h
  have hpresents : ∀ verbose, Presents (log level text) disk (consoles verbose)
      [Libraries.console.record (.message level text)] (.ok ()) := by
    intro verbose
    rw [← shown_consoles hrecord verbose]
    exact presents_record _
  exact steady_of_presents hpresents

/-- **`dump-tree` is carried out alike.** -/
theorem steady_dumpCommand (r : DumpRequest) (disk : Disk) : Steady (dumpCommand r) disk := by
  refine Steady.get_bind (fun _ _ => by dsimp only) ?_
  dsimp only
  by_cases hexists : disk.pathExists r.path = true
  · rw [if_pos hexists]
    cases disk.loadDocument r.path with
    | error e =>
      dsimp only
      split
      · exact (steady_log .error _ (by decide)).bind fun _ _ => steady_pure 1
      · exact steady_throw _
    | ok tree =>
      dsimp only
      cases Json.write? tree with
      | none => exact steady_throw _
      | some text =>
        cases r.out with
        | none =>
          exact (steady_of_presents fun _ => presents_emit _).bind fun _ _ => steady_pure 0
        | some out =>
          exact (steady_writeFile out _ disk).bind fun _ _ =>
            (steady_log .success _ (by decide)).bind fun _ _ => steady_pure 0
  · rw [if_neg hexists]
    exact (steady_log .error _ (by decide)).bind fun _ _ => steady_pure 1

/-! ## The program -/

/-- The lines of events, up to the first that cannot be shown. -/
def eventLines (events : List Event) : List String := Shown.lines (events.map Event.shown)

/-- **A run and the same run with a trace** of some events. -/
structure Traced (events : List Event) (plain traced : RunResult) : Prop where
  /-- What is written is the same. -/
  disk : traced.disk = plain.disk
  /-- If every event can be shown, the runs come to the same, and events are printed in one place
  of the output, all of them unless the runs break off. -/
  shown : (∀ e ∈ events, e.isShown = true) → traced.outcome = plain.outcome ∧
    ∃ before shown after, plain.lines = before ++ after ∧
      traced.lines = before ++ (eventLines shown ++ after) ∧ shown <+: events ∧
      ∀ code, plain.outcome = .ok code → shown = events
  /-- If an event cannot be shown, the run with the trace breaks off for something that cannot be
  shown. -/
  broken : (∃ e ∈ events, e.isShown = false) → ∃ f, traced.outcome = .error (.unshown f)

theorem Traced.refl (r : RunResult) : Traced [] r r where
  disk := rfl
  shown _ := ⟨rfl, r.lines, [], [], (List.append_nil _).symm, (List.append_nil _).symm,
    List.nil_prefix, fun _ _ => rfl⟩
  broken := fun ⟨_, he, _⟩ => absurd he List.not_mem_nil

/-- The events that a trace adds to a run. -/
def addedEvents (disk : Disk) (args : List String) : List Event :=
  match Invocation.ofArguments args with
  | .ok ⟨false, .verify r⟩ => eventsOf disk r
  | _ => []

/-- What a run of `verify` comes to. -/
theorem run_of_verify (disk : Disk) {args : List String} {verbose : Bool} {r : VerifyRequest}
    (hargs : Invocation.ofArguments args = .ok ⟨verbose, .verify r⟩) :
    Command.run disk args =
      ⟨Shown.outcome (verifyItems disk (consoles verbose) r) (verifyOutcome disk r),
        Shown.lines (verifyItems disk (consoles verbose) r), disk⟩ := by
  have hrun := presents_verifyCommand disk (consoles verbose) r []
  rw [run_of_arguments disk hargs]
  refine (congrArg (fun r : Except Crash Nat × World => RunResult.mk r.1 r.2.lines r.2.disk)
    hrun).trans ?_
  dsimp only [World.lines]
  rw [List.append_nil, List.reverse_reverse]

/-- **Things are put on the console as before, with a trace among them**, if the trace is presented
to its end exactly when each of its events can be shown. -/
theorem traced_of_items {events : List Event} {before trace after : List Shown}
    (hnone : Shown.fault? trace = none ↔ ∀ e ∈ events, e.isShown = true)
    (hmap : (∀ e ∈ events, e.isShown = true) → trace = events.map Event.shown)
    (outcome : Except Crash Nat) (disk : Disk) :
    Traced events
      ⟨Shown.outcome (before ++ after) outcome, Shown.lines (before ++ after), disk⟩
      ⟨Shown.outcome (before ++ (trace ++ after)) outcome,
        Shown.lines (before ++ (trace ++ after)), disk⟩ where
  disk := rfl
  shown h := by
    have htrace := hnone.2 h
    simp only [Shown.outcome_append, Shown.outcome_of_none htrace]
    refine ⟨trivial, ?_⟩
    cases hbefore : Shown.fault? before with
    | none =>
      refine ⟨Shown.lines before, events, Shown.lines after, Shown.lines_append_of_none hbefore, ?_,
        List.prefix_rfl, fun _ _ => rfl⟩
      rw [Shown.lines_append_of_none hbefore, Shown.lines_append_of_none htrace, hmap h, eventLines]
    | some f =>
      -- the run breaks off before there is a trace
      refine ⟨Shown.lines before, [], [], ?_, ?_, List.nil_prefix, fun code hcode => ?_⟩
      · rw [Shown.lines_append_of_some hbefore, List.append_nil]
      · rw [Shown.lines_append_of_some hbefore]
        exact (List.append_nil _).symm
      · rw [Shown.outcome_of_some hbefore] at hcode
        cases hcode
  broken := by
    rintro ⟨e, he, hunshown⟩
    have hfault : Shown.fault? (before ++ (trace ++ after)) ≠ none := by
      intro h
      rw [Shown.fault?_append_eq_none_iff, Shown.fault?_append_eq_none_iff] at h
      exact absurd (hnone.1 h.2.1 e he) (Bool.eq_false_iff.1 hunshown)
    obtain ⟨f, hf⟩ := Option.ne_none_iff_exists'.1 hfault
    exact ⟨f, Shown.outcome_of_some hf⟩

/-- **A run of `verify` and the same run with a trace.** -/
theorem traced_verify (disk : Disk) {args args' : List String} {r : VerifyRequest}
    (hargs : Invocation.ofArguments args = .ok ⟨false, .verify r⟩)
    (hargs' : Invocation.ofArguments args' = .ok ⟨true, .verify r⟩) :
    Traced (eventsOf disk r) (Command.run disk args) (Command.run disk args') := by
  obtain ⟨before, after, hplain, htraced⟩ := exists_verifyItems disk r
  rw [run_of_verify disk hargs, run_of_verify disk hargs', hplain, htraced, eventsOf]
  cases checkedBy disk r with
  | none => exact traced_of_items (iff_of_true rfl (List.forall_mem_nil _)) (fun _ => rfl) _ _
  | some checked =>
    exact traced_of_items fault?_tracesItems_eq_none_iff tracesItems_eq_map _ _

/-- **A run of `dump-tree` and the same run with a trace.** -/
theorem traced_dump (disk : Disk) {args args' : List String} {r : DumpRequest}
    (hargs : Invocation.ofArguments args = .ok ⟨false, .dump r⟩)
    (hargs' : Invocation.ofArguments args' = .ok ⟨true, .dump r⟩) :
    Traced [] (Command.run disk args) (Command.run disk args') := by
  obtain ⟨outcome, disk', ls, h⟩ := steady_dumpCommand r disk
  have hplain : (dumpCommand r).run (startingWorld disk false) = _ := h false []
  have htraced : (dumpCommand r).run (startingWorld disk true) = _ := h true []
  rw [run_of_arguments disk hargs, run_of_arguments disk hargs',
    show Task.job (.dump r) = dumpCommand r from rfl, hplain, htraced]
  exact .refl _

end

/-! ## A name that is listed -/

/-- A disk with an empty script and a file of one name. -/
def listedDisk (name : String) : Disk :=
  ⟨.dir [("t.lua", .file []), ("names.txt", .file (Utf8.encode name))], []⟩

/-- The script is to be checked with the names of the file, for programs. -/
def listedRequest : VerifyRequest :=
  ⟨[⟨.working, ["t.lua"]⟩], [], some ⟨.working, ["names.txt"]⟩, true⟩

end DefUse
