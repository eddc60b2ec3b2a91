import Mathlib.Data.List.Forall2
import Mathlib.Data.List.TakeWhile
import DefUse.Proofs.Attempt
import DefUse.Proofs.Check.Inert
import DefUse.Proofs.Command.Job

/-!
# Proofs/Command/Printing — what a command puts on the console

A command puts things on the console one after the other: records, printed values, a table.  The
console makes lines of each of them or refuses it, and what it refuses breaks the command off.  So
all there is to know of a command that only prints is which things it puts there and what it comes
to if none of them is refused; that is `Job.Presents`, and jobs in a row present their things in a
row.  Nothing is assumed of the console.

The parts of `verify` are taken in turn, and `presents_verifyCommand` puts them together.  What it
comes to (`verifyOutcome`) depends neither on the console nor on whether the reports are for people
or for programs, nor on whether there is a trace.
-/

namespace DefUse

/-! ## Things on a console -/

/-- **What a console makes of a thing**: its lines, or why it cannot be shown. -/
abbrev Shown := Except Fault (List String)

namespace Shown

variable {α : Type} {f : Fault} {items rest : List Shown}

/-- Why the first thing that cannot be shown cannot be shown, if there is one. -/
def fault? : List Shown → Option Fault
  | [] => none
  | .ok _ :: rest => fault? rest
  | .error f :: _ => some f

/-- The lines of things, up to the first that cannot be shown. -/
def lines : List Shown → List String
  | [] => []
  | .ok ls :: rest => ls ++ lines rest
  | .error _ :: _ => []

/-- **What putting things on a console comes to**: what it would come to by itself, unless one of
them cannot be shown. -/
def outcome (items : List Shown) (o : Except Crash α) : Except Crash α :=
  match fault? items with
  | none => o
  | some f => .error (.unshown f)

theorem outcome_of_none {o : Except Crash α} (h : fault? items = none) : outcome items o = o := by
  rw [outcome, h]

theorem outcome_of_some {o : Except Crash α} (h : fault? items = some f) :
    outcome items o = .error (.unshown f) := by
  rw [outcome, h]

theorem outcome_eq_ok_iff {o : Except Crash α} {a : α} :
    outcome items o = .ok a ↔ fault? items = none ∧ o = .ok a := by
  cases h : fault? items with
  | none => rw [outcome_of_none h, eq_self, true_and]
  | some f =>
    rw [outcome_of_some h]
    exact ⟨nofun, nofun⟩

theorem fault?_append (items rest : List Shown) :
    fault? (items ++ rest) = (fault? items).or (fault? rest) := by
  induction items with
  | nil => rfl
  | cons item items ih =>
    cases item with
    | ok ls => exact ih
    | error f => rfl

/-- What things in a row come to. -/
theorem outcome_append (items rest : List Shown) (o : Except Crash α) :
    outcome (items ++ rest) o = outcome items (outcome rest o) := by
  cases h : fault? items with
  | none => rw [outcome_of_none h, outcome, outcome, fault?_append, h, Option.none_or]
  | some f =>
    have hall : fault? (items ++ rest) = some f := by rw [fault?_append, h, Option.some_or]
    rw [outcome_of_some h, outcome_of_some hall]

theorem fault?_append_eq_none_iff :
    fault? (items ++ rest) = none ↔ fault? items = none ∧ fault? rest = none := by
  rw [fault?_append, Option.or_eq_none_iff]

/-- Everything can be shown if each thing can. -/
theorem fault?_eq_none_iff : fault? items = none ↔ ∀ item ∈ items, item.toBool = true := by
  induction items with
  | nil => exact ⟨fun _ => List.forall_mem_nil _, fun _ => rfl⟩
  | cons item items ih =>
    rw [List.forall_mem_cons, ← ih]
    cases item with
    | ok ls => exact ⟨fun h => ⟨rfl, h⟩, fun h => h.2⟩
    | error f => exact ⟨nofun, nofun⟩

/-- What cannot be shown is among the things. -/
theorem mem_of_fault? (h : fault? items = some f) : .error f ∈ items := by
  induction items with
  | nil => cases h
  | cons item items ih =>
    cases item with
    | ok ls => exact List.mem_cons_of_mem _ (ih h)
    | error g =>
      obtain rfl := Option.some.inj h
      exact List.mem_cons_self

theorem lines_append_of_none (h : fault? items = none) :
    lines (items ++ rest) = lines items ++ lines rest := by
  induction items with
  | nil => rfl
  | cons item items ih =>
    cases item with
    | ok ls => exact (congrArg (ls ++ ·) (ih h)).trans (List.append_assoc _ _ _).symm
    | error f => cases h

/-- Nothing is shown after a thing that cannot be. -/
theorem lines_append_of_some (h : fault? items = some f) : lines (items ++ rest) = lines items := by
  induction items with
  | nil => cases h
  | cons item items ih =>
    cases item with
    | ok ls => exact congrArg (ls ++ ·) (ih h)
    | error g => rfl

/-- Things among others matter only if one of them cannot be shown. -/
theorem outcome_among (before first between last : List Shown) (o : Except Crash α) :
    let all := outcome (before ++ (first ++ (between ++ last))) o
    all = outcome (before ++ between) o ∨
      ∃ f, .error f ∈ first ++ last ∧ all = .error (.unshown f) := by
  intro all
  simp only [all, outcome_append]
  cases hbefore : fault? before with
  | some f => exact Or.inl (by rw [outcome_of_some hbefore, outcome_of_some hbefore])
  | none =>
    rw [outcome_of_none hbefore, outcome_of_none hbefore]
    cases hfirst : fault? first with
    | some f =>
      exact Or.inr ⟨f, List.mem_append_left _ (mem_of_fault? hfirst), outcome_of_some hfirst⟩
    | none =>
      rw [outcome_of_none hfirst]
      cases hbetween : fault? between with
      | some f => exact Or.inl (by rw [outcome_of_some hbetween, outcome_of_some hbetween])
      | none =>
        rw [outcome_of_none hbetween, outcome_of_none hbetween]
        cases hlast : fault? last with
        | some f =>
          exact Or.inr ⟨f, List.mem_append_right _ (mem_of_fault? hlast), outcome_of_some hlast⟩
        | none => exact Or.inl (outcome_of_none hlast)

end Shown

namespace Job

variable {α β : Type} {x : Job α} {f : α → Job β} {disk : Disk} {routing : Routing}
  {items rest : List Shown}

/-- **What a job that only prints comes to**: its outcome and the lines it prints, whatever was
printed before. -/
def Shows (x : Job α) (disk : Disk) (routing : Routing) (outcome : Except Crash α)
    (ls : List String) : Prop :=
  ∀ printed, x.run ⟨disk, routing, printed⟩ = (outcome, ⟨disk, routing, ls.reverse ++ printed⟩)

/-- What a job comes to in a world. -/
theorem Shows.run {w : World} {outcome : Except Crash α} {ls : List String}
    (h : Shows x w.disk w.routing outcome ls) :
    (x.run w).1 = outcome ∧ (x.run w).2.lines = w.lines ++ ls ∧ (x.run w).2.disk = w.disk := by
  have hrun : x.run w = (outcome, ⟨w.disk, w.routing, ls.reverse ++ w.printed⟩) := h w.printed
  rw [hrun]
  exact ⟨rfl, by simp [World.lines], rfl⟩

/-- **A job presents things** on the console, one after the other, and comes to an outcome unless
one of them cannot be shown. -/
def Presents (x : Job α) (disk : Disk) (routing : Routing) (items : List Shown)
    (outcome : Except Crash α) : Prop :=
  Shows x disk routing (Shown.outcome items outcome) (Shown.lines items)

theorem presents_pure (a : α) : Presents (pure a) disk routing [] (.ok a) := fun _ => rfl

theorem presents_throw (e : Crash) : Presents (throw e : Job α) disk routing [] (.error e) :=
  fun _ => rfl

theorem presents_emit (ls : List String) : Presents (emit ls) disk routing [.ok ls] (.ok ()) := by
  intro printed
  rw [run_emit]
  simp only [Shown.lines, List.append_nil]
  rfl

/-- Breaking off for something is like trying to show it. -/
theorem presents_unshown (e : Fault) (outcome : Except Crash α) :
    Presents (throw (.unshown e) : Job α) disk routing [.error e] outcome := fun _ => rfl

/-- **Jobs in a row present their things in a row.** -/
theorem Presents.bind {a : α} {outcome : Except Crash β}
    (hx : Presents x disk routing items (.ok a))
    (hf : Presents (f a) disk routing rest outcome) :
    Presents (x >>= f) disk routing (items ++ rest) outcome := by
  intro printed
  have hfirst := hx printed
  rw [run_bind, hfirst]
  cases h : Shown.fault? items with
  | none =>
    rw [Shown.outcome_of_none h]
    dsimp only
    rw [hf, Shown.outcome_append, Shown.outcome_of_none h, Shown.lines_append_of_none h,
      List.reverse_append, List.append_assoc]
  | some fault =>
    rw [Shown.outcome_append, Shown.outcome_of_some h, Shown.outcome_of_some h,
      Shown.lines_append_of_some h]

theorem Presents.bind_pure {a : α} {b : β} (hx : Presents x disk routing items (.ok a))
    (hf : f a = pure b) : Presents (x >>= f) disk routing items (.ok b) := by
  rw [← List.append_nil items]
  exact hx.bind (hf ▸ presents_pure b)

/-- Nothing is presented after a job that breaks off. -/
theorem Presents.bind_error {e : Crash} (hx : Presents x disk routing items (.error e)) :
    Presents (x >>= f) disk routing items (.error e) := by
  intro printed
  have hfirst := hx printed
  rw [run_bind, hfirst]
  cases h : Shown.fault? items with
  | none => rw [Shown.outcome_of_none h, Shown.outcome_of_none h]
  | some fault => rw [Shown.outcome_of_some h, Shown.outcome_of_some h]

/-- A job may look at the disk and the consoles. -/
theorem Presents.get_bind {f : World → Job β} {outcome : Except Crash β}
    (hf : ∀ printed, f ⟨disk, routing, printed⟩ = f ⟨disk, routing, []⟩)
    (h : Presents (f ⟨disk, routing, []⟩) disk routing items outcome) :
    Presents (get >>= f) disk routing items outcome := by
  intro printed
  rw [run_bind, run_get]
  dsimp only
  rw [hf]
  exact h printed

theorem Presents.forM {as : List α} {f : α → Job PUnit} {g : α → List Shown}
    (h : ∀ a, Presents (f a) disk routing (g a) (.ok ())) :
    Presents (as.forM f) disk routing (as.flatMap g) (.ok ()) := by
  induction as with
  | nil => exact presents_pure _
  | cons a as ih => exact (h a).bind ih

end Job

open Job

variable [Libraries] {disk : Disk} {routing : Routing} {settings : Settings}

/-! ## Records -/

/-- What the console makes of a record, nothing if its level is not printed. -/
def Routing.shown (routing : Routing) (r : Record) : Shown :=
  if routing.accepts r.level then Libraries.console.record r else .ok []

theorem presents_record (r : Record) :
    Presents (ask (.log r)) disk routing [routing.shown r] (.ok ()) := by
  intro printed
  rw [ask, run_bind, run_get, Routing.shown]
  by_cases haccepts : routing.accepts r.level = true
  · simp only [Routing.step, if_pos haccepts]
    cases Libraries.console.record r <;> simp [Shown.outcome, Shown.fault?, Shown.lines, Except.map]
  · simp only [Routing.step, if_neg haccepts]
    rfl

/-- Records one after the other. -/
theorem presents_records {α : Type} (as : List α) (record : α → Record) :
    Presents (as.forM fun a => ask (.log (record a))) disk routing
      (as.map fun a => routing.shown (record a)) (.ok ()) := by
  rw [List.map_eq_flatMap]
  exact Presents.forM fun a => presents_record (record a)

theorem presents_print (text : String) :
    Presents (print text) disk routing [Libraries.console.printed [.str text]] (.ok ()) := by
  intro printed
  rw [print, ask, run_bind, run_get]
  simp only [Routing.step]
  cases Libraries.console.printed [.str text] <;>
    simp [Shown.outcome, Shown.fault?, Shown.lines, Except.map]

/-! ## Settings -/

/-- The record of a warning on the way to the settings. -/
def warningRecord (text : String) : Record := ⟨.warning, text⟩

/-- The record of why the settings cannot be loaded. -/
def refusalRecord (text : String) : Record :=
  .message .error ("Cannot load configuration: " ++ Libraries.console.escape text)

/-- The settings of a request, or why they cannot be loaded, and the warnings on the way. -/
def VerifyRequest.load (r : VerifyRequest) (disk : Disk) :
    Except SettingsError Settings × List String :=
  Settings.load disk r.globals r.globalsFile .here

/-- What is put on the console for the warnings on the way to the settings. -/
def warningItems (disk : Disk) (routing : Routing) (r : VerifyRequest) : List Shown :=
  (r.load disk).2.map fun m => routing.shown (warningRecord m)

/-- What is put on the console about settings that cannot be loaded. -/
def refusalItems (routing : Routing) : Except SettingsError Settings → List Shown
  | .ok _ => []
  | .error e =>
    match e.message? with
    | some m => [routing.shown (refusalRecord m)]
    | none => []

/-- What loading the settings comes to: the settings, none if it is reported why, or a crash. -/
def loadOutcome : Except SettingsError Settings → Except Crash (Option Settings)
  | .ok settings => .ok (some settings)
  | .error e =>
    match e.message? with
    | some _ => .ok none
    | none => .error (.escape (.settings e))

/-- **Loading the settings** presents the warnings and then, if need be, the refusal. -/
theorem presents_loadSettings (r : VerifyRequest) :
    Presents (loadSettings r) disk routing
      (warningItems disk routing r ++ refusalItems routing (r.load disk).1)
      (loadOutcome (r.load disk).1) := by
  have hlogged : Presents (loadLogged r.globals r.globalsFile .here) disk routing
      (warningItems disk routing r) (.ok (r.load disk).1) := by
    refine Presents.get_bind (fun _ => by dsimp only) ?_
    exact (presents_records _ warningRecord).bind_pure rfl
  refine hlogged.bind ?_
  cases (r.load disk).1 with
  | ok settings => exact presents_pure _
  | error e =>
    dsimp only [refusalItems, loadOutcome]
    cases e.message? with
    | none => exact presents_throw _
    | some m => exact (presents_record (refusalRecord m)).bind_pure rfl

/-! ## Traces -/

/-- What the console makes of an event. -/
def Event.shown (e : Event) : Shown := Libraries.console.record e.record

/-- The trace of checking a file. -/
def traceOf (disk : Disk) (settings : Settings) (p : Path) : List Event :=
  ((checkFile disk true settings p).2.map Session.trace).getD []

/-- What is put on the console for a trace.  If an event cannot be shown, what follows it is the way
out of the functions that are open there. -/
def traceItems (trace : List Event) : List Shown :=
  (trace.takeWhile Event.isShown).map Event.shown ++
    match firstFault? trace with
    | none => []
    | some f =>
      (Scopes.replayAll (trace.takeWhile Event.isShown)).unwinding.map Event.shown ++ [.error f]

theorem firstFault?_eq (trace : List Event) :
    firstFault? trace = Shown.fault? (trace.map Event.shown) := by
  induction trace with
  | nil => rfl
  | cons e trace ih =>
    rw [firstFault?, List.map_cons, Event.shown]
    cases Libraries.console.record e.record with
    | ok ls => exact ih
    | error f => rfl

/-- **A trace that can be shown** is shown event by event. -/
theorem traceItems_of_none {trace : List Event}
    (h : Shown.fault? (trace.map Event.shown) = none) :
    traceItems trace = trace.map Event.shown := by
  have hall : ∀ e ∈ trace, e.isShown = true :=
    List.forall_mem_map.1 (Shown.fault?_eq_none_iff.1 h)
  rw [traceItems, firstFault?_eq, h, List.takeWhile_eq_self_iff.2 hall, List.append_nil]

/-- A trace is presented to its end exactly if each event of it can be shown. -/
theorem fault?_traceItems_eq_none_iff {trace : List Event} :
    Shown.fault? (traceItems trace) = none ↔ Shown.fault? (trace.map Event.shown) = none := by
  constructor
  · intro h
    rw [traceItems, Shown.fault?_append_eq_none_iff, firstFault?_eq] at h
    cases hfault : Shown.fault? (trace.map Event.shown) with
    | none => rfl
    | some f =>
      rw [hfault, Shown.fault?_append_eq_none_iff] at h
      cases h.2.2
  · intro h
    rw [traceItems_of_none h, h]

theorem Routing.shown_event (h : routing.accepts .debug = true) (e : Event) :
    routing.shown e.record = e.shown := if_pos h

theorem presents_events (h : routing.accepts .debug = true) (events : List Event) :
    Presents (events.forM fun e => ask (.log e.record)) disk routing (events.map Event.shown)
      (.ok ()) := by
  have hitems : (events.map fun e => routing.shown e.record) = events.map Event.shown :=
    List.map_congr_left fun e _ => Routing.shown_event h e
  rw [← hitems]
  exact presents_records events Event.record

/-- **A trace is logged** if debug records are printed. -/
theorem presents_logTrace (h : routing.accepts .debug = true) (trace : List Event) :
    Presents (logTrace trace) disk routing (traceItems trace) (.ok ()) := by
  refine Presents.get_bind (fun _ => by dsimp only) ?_
  rw [h]
  refine (presents_events h _).bind ?_
  cases firstFault? trace with
  | none => exact presents_pure ()
  | some f => exact (presents_events h _).bind (presents_unshown f _)

/-- …and else nothing is. -/
theorem presents_logTrace_of_not (h : routing.accepts .debug = false) (trace : List Event) :
    Presents (logTrace trace) disk routing [] (.ok ()) := by
  refine Presents.get_bind (fun _ => by dsimp only) ?_
  rw [h]
  exact presents_pure ()

/-! ## Files -/

/-- What is put on the console while a file is checked. -/
def fileItems (disk : Disk) (routing : Routing) (settings : Settings) (p : Path) : List Shown :=
  if routing.accepts .debug then traceItems (traceOf disk settings p) else []

/-- Nothing is put on the console while debug records are not printed. -/
theorem flatMap_fileItems_of_not (h : routing.accepts .debug = false) (files : List Path) :
    files.flatMap (fileItems disk routing settings) = [] :=
  List.flatMap_eq_nil_iff.2 fun _ _ => if_neg (by rw [h]; exact Bool.false_ne_true)

/-- The trace of a session is logged if debug records are printed. -/
theorem presents_logSession (settings : Settings) (p : Path) :
    Presents (logSession (checkFile disk (routing.accepts .debug) settings p).2) disk routing
      (fileItems disk routing settings p) (.ok ()) := by
  rw [fileItems]
  cases h : routing.accepts .debug with
  | false =>
    rw [if_neg Bool.false_ne_true]
    cases (checkFile disk false settings p).2 with
    | none => exact presents_pure ()
    | some s => exact presents_logTrace_of_not h s.trace
  | true =>
    rw [if_pos rfl, traceOf]
    cases (checkFile disk true settings p).2 with
    | none => exact presents_pure ()
    | some s => exact presents_logTrace h s.trace

/-- **Checking a file** presents its trace and comes to what `verifyFile` says. -/
theorem presents_checkLogged (settings : Settings) (p : Path) :
    Presents (checkLogged settings p) disk routing (fileItems disk routing settings p)
      ((verifyFile disk (some settings) p).mapError .escape) := by
  have hresult : verifyFile disk (some settings) p =
      (checkFile disk (routing.accepts .debug) settings p).1 :=
    (checkFile_traced disk _ settings p).symm
  refine Presents.get_bind (fun _ => by dsimp only) ?_
  dsimp only
  rw [hresult, ← List.append_nil (fileItems disk routing settings p)]
  refine (presents_logSession settings p).bind ?_
  cases (checkFile disk (routing.accepts .debug) settings p).1 with
  | error e => exact presents_throw _
  | ok report => exact presents_pure _

/-- What checking files one after the other comes to, apart from what is shown. -/
def checkAll (disk : Disk) (settings : Settings) (files : List Path) :
    Except Crash (List Report) :=
  files.mapM fun p => (verifyFile disk (some settings) p).mapError .escape

theorem checkAll_cons (p : Path) (files : List Path) :
    checkAll disk settings (p :: files) =
      ((verifyFile disk (some settings) p).mapError .escape >>= fun report =>
        checkAll disk settings files >>= fun reports => pure (report :: reports)) :=
  List.mapM_cons

/-- **Files give their reports if each of them gives one.** -/
theorem checkAll_eq_ok_iff {files : List Path} {reports : List Report} :
    checkAll disk settings files = .ok reports ↔
      List.Forall₂ (fun p r => verifyFile disk (some settings) p = .ok r) files reports := by
  induction files generalizing reports with
  | nil =>
    rw [List.forall₂_nil_left_iff]
    exact ⟨fun h => (Except.ok.inj h).symm, fun h => h ▸ rfl⟩
  | cons p files ih =>
    rw [checkAll_cons, List.forall₂_cons_left_iff, bind_eq_ok_iff]
    refine exists_congr fun report => ?_
    rw [mapError_eq_ok_iff, bind_eq_ok_iff]
    constructor
    · rintro ⟨hreport, rest, hrest, h⟩
      exact ⟨rest, hreport, ih.1 hrest, (Except.ok.inj h).symm⟩
    · rintro ⟨rest, hreport, hrest, rfl⟩
      exact ⟨hreport, rest, ih.2 hrest, rfl⟩

/-- What breaks off is the first file that has no report. -/
theorem exists_escape_of_checkAll {files : List Path} {crash : Crash}
    (h : checkAll disk settings files = .error crash) :
    ∃ p ∈ files, ∃ e, verifyFile disk (some settings) p = .error e ∧ crash = .escape e := by
  induction files with
  | nil => cases h
  | cons p files ih =>
    rw [checkAll_cons] at h
    cases hp : verifyFile disk (some settings) p with
    | error e =>
      rw [hp] at h
      exact ⟨p, List.mem_cons_self, e, hp, (Except.error.inj h).symm⟩
    | ok report =>
      rw [hp] at h
      cases hrest : checkAll disk settings files with
      | ok reports =>
        rw [hrest] at h
        cases h
      | error crash' =>
        rw [hrest] at h
        obtain rfl := Except.error.inj h
        obtain ⟨q, hq, hescape⟩ := ih hrest
        exact ⟨q, List.mem_cons_of_mem p hq, hescape⟩

/-- Things up to the first that something stops at, with that one. -/
def upTo {α : Type} (stops : α → Bool) : List α → List α
  | [] => []
  | a :: rest => if stops a then [a] else a :: upTo stops rest

/-- The files that are checked: all of them, or those up to one that has no report. -/
def checkedFiles (disk : Disk) (settings : Settings) (files : List Path) : List Path :=
  upTo (fun p => !(verifyFile disk (some settings) p).toBool) files

theorem checkedFiles_cons_of_ok {p : Path} {report : Report}
    (h : verifyFile disk (some settings) p = .ok report) (files : List Path) :
    checkedFiles disk settings (p :: files) = p :: checkedFiles disk settings files := by
  rw [checkedFiles, upTo, h]
  rfl

theorem checkedFiles_cons_of_error {p : Path} {e : Escape}
    (h : verifyFile disk (some settings) p = .error e) (files : List Path) :
    checkedFiles disk settings (p :: files) = [p] := by
  rw [checkedFiles, upTo, h]
  rfl

theorem checkedFiles_of_forall₂ {files : List Path} {reports : List Report}
    (h : List.Forall₂ (fun p r => verifyFile disk (some settings) p = .ok r) files reports) :
    checkedFiles disk settings files = files := by
  induction h with
  | nil => rfl
  | cons hp _ ih => rw [checkedFiles_cons_of_ok hp, ih]

/-- **Checking files** presents their traces, up to that of a file that has no report. -/
theorem presents_checkAll (settings : Settings) (files : List Path) :
    Presents (files.mapM (checkLogged settings)) disk routing
      ((checkedFiles disk settings files).flatMap (fileItems disk routing settings))
      (checkAll disk settings files) := by
  induction files with
  | nil => exact presents_pure _
  | cons p files ih =>
    have hfirst : Presents (checkLogged settings p) disk routing
        (fileItems disk routing settings p) _ := presents_checkLogged settings p
    rw [List.mapM_cons, checkAll_cons]
    cases hp : verifyFile disk (some settings) p with
    | error e =>
      rw [hp] at hfirst
      rw [checkedFiles_cons_of_error hp, List.flatMap_singleton]
      exact hfirst.bind_error
    | ok report =>
      rw [hp] at hfirst
      rw [checkedFiles_cons_of_ok hp, List.flatMap_cons]
      refine hfirst.bind ?_
      cases hall : checkAll disk settings files with
      | error e =>
        rw [hall] at ih
        exact ih.bind_error
      | ok reports =>
        rw [hall] at ih
        exact ih.bind_pure rfl

/-! ## Reports -/

/-- The record of why a check was aborted. -/
def abortRecord (error : String) : Record :=
  .message .error ("Verification aborted: " ++ Libraries.console.escape error)

/-- The record of a finding, from its numbered line. -/
def findingRecord (line : String) : Record := .message .warning (Libraries.console.escape line)

/-- What the console makes of the path of a report. -/
def Report.shownPath (r : Report) : Shown :=
  Libraries.console.printed
    [.str ("[path]" ++ Libraries.console.escape (r.path.getD "<tree>") ++ "[/path]")]

/-- **What is put on the console for a report**: its path, its errors, its findings. -/
def reportItems (routing : Routing) (r : Report) : List Shown :=
  r.shownPath :: (r.errors.map fun e => routing.shown (abortRecord e)) ++
    (Finding.numbered r.findings).map fun line => routing.shown (findingRecord line)

theorem presents_printReport (r : Report) :
    Presents (printReport r) disk routing (reportItems routing r) (.ok ()) := by
  have hitems : reportItems routing r = [r.shownPath] ++
      ((r.errors.map fun e => routing.shown (abortRecord e)) ++
        (Finding.numbered r.findings).map fun line => routing.shown (findingRecord line)) := rfl
  rw [hitems]
  exact (presents_print _).bind ((presents_records r.errors abortRecord).bind
    (presents_records _ findingRecord))

/-- The record of a run that found nothing. -/
def successRecord : Record := .message .success "No definition problems found."

/-- What stands after the reports: the summary if there are several, and a word if all is well. -/
def closingItems (routing : Routing) (reports : List Report) : List Shown :=
  (if 1 < reports.length then [Libraries.console.table (summary reports)] else []) ++
    if reports.all Report.isClean then [routing.shown successRecord] else []

theorem presents_printSummary (reports : List Report) :
    Presents (printSummary reports) disk routing [Libraries.console.table (summary reports)]
      (.ok ()) := by
  rw [printSummary]
  cases Libraries.console.table (summary reports) with
  | ok ls => exact presents_emit ls
  | error f => exact presents_unshown f _

theorem presents_printReports (reports : List Report) :
    Presents (printReports reports) disk routing
      (reports.flatMap (reportItems routing) ++ closingItems routing reports) (.ok ()) := by
  refine (Presents.forM presents_printReport).bind ?_
  have hlast : Presents (if reports.all Report.isClean then
      log .success "No definition problems found." else pure ()) disk routing
      (if reports.all Report.isClean then [routing.shown successRecord] else []) (.ok ()) := by
    split
    · exact presents_record successRecord
    · exact presents_pure ()
  rw [closingItems]
  dsimp only
  by_cases hseveral : 1 < reports.length
  · rw [if_pos hseveral, if_pos hseveral]
    exact (presents_printSummary reports).bind hlast
  · rw [if_neg hseveral, if_neg hseveral]
    exact hlast

/-- The document that reports are printed as. -/
def documentOf (reports : List Report) : String :=
  Json.indented (.list (reports.map Report.toValue))

/-- What is put on the console for reports, for programs and for people. -/
def reportsItems (routing : Routing) (json : Bool) (reports : List Report) : List Shown :=
  if json then [.ok (lines (documentOf reports))]
  else reports.flatMap (reportItems routing) ++ closingItems routing reports

/-- What is put on the console once files are checked, nothing if one of them has no report. -/
def resultItems (routing : Routing) (json : Bool) : Except Crash (List Report) → List Shown
  | .ok reports => reportsItems routing json reports
  | .error _ => []

theorem presents_present (r : VerifyRequest) (reports : List Report) :
    Presents (present r reports) disk routing (reportsItems routing r.json reports) (.ok ()) := by
  rw [present, reportsItems]
  cases r.json with
  | true => exact presents_emit _
  | false => exact presents_printReports reports

/-! ## The command -/

/-- The record that a run for people starts with. -/
def openingRecord (files names : Nat) : Record :=
  .message .info s!"Verifying {files} file(s) against {names} global identifiers..."

/-- What is put on the console before files are checked, for programs and for people. -/
def openingItems (routing : Routing) (json : Bool) (files names : Nat) : List Shown :=
  if json then [] else [routing.shown (openingRecord files names)]

theorem presents_announce (r : VerifyRequest) (files names : Nat) :
    Presents (announce r files names) disk routing (openingItems routing r.json files names)
      (.ok ()) := by
  rw [announce, openingItems]
  cases r.json with
  | true => exact presents_pure ()
  | false => exact presents_record (openingRecord files names)

/-- **What is put on the console before any report**: the warnings on the way to the settings, what
people are told, and the traces of the files. -/
def logItems (disk : Disk) (routing : Routing) (r : VerifyRequest) (settings : Settings) :
    List Shown :=
  let files := collectFiles disk r.paths
  warningItems disk routing r ++
    (openingItems routing r.json files.length settings.globals.length ++
      (checkedFiles disk settings files).flatMap (fileItems disk routing settings))

/-- Nothing is put on the console before the reports if they are for programs, there is no trace and
nothing is to be warned of. -/
theorem logItems_of_quiet {r : VerifyRequest} (hwarnings : (r.load disk).2 = [])
    (hjson : r.json = true) (hdebug : routing.accepts .debug = false) :
    logItems disk routing r settings = [] := by
  rw [logItems, warningItems, hwarnings, openingItems, if_pos hjson,
    flatMap_fileItems_of_not hdebug]
  rfl

/-- **What is put on the console by `verify`.** -/
def verifyItems (disk : Disk) (routing : Routing) (r : VerifyRequest) : List Shown :=
  if r.paths.all disk.pathExists then
    match (r.load disk).1 with
    | .error e => warningItems disk routing r ++ refusalItems routing (.error e)
    | .ok settings =>
      logItems disk routing r settings ++
        resultItems routing r.json (checkAll disk settings (collectFiles disk r.paths))
  else
    (r.paths.filter (!disk.pathExists ·)).map fun p =>
      routing.shown (.message .error ("Path not found: " ++ p.text))

/-- **What `verify` comes to**, unless something cannot be shown. -/
def verifyOutcome (disk : Disk) (r : VerifyRequest) : Except Crash Nat :=
  if r.paths.all disk.pathExists then
    match (r.load disk).1 with
    | .error e => if e.message?.isSome then .ok 1 else .error (.escape (.settings e))
    | .ok settings => (checkAll disk settings (collectFiles disk r.paths)).map exitCode
  else .ok 1

/-- Checking the files of a request and reporting on them. -/
theorem presents_reportOn (r : VerifyRequest) (settings : Settings) (files : List Path) :
    Presents (do
      announce r files.length settings.globals.length
      let reports ← files.mapM (checkLogged settings)
      present r reports
      return exitCode reports) disk routing
      (openingItems routing r.json files.length settings.globals.length ++
        ((checkedFiles disk settings files).flatMap (fileItems disk routing settings) ++
          resultItems routing r.json (checkAll disk settings files)))
      ((checkAll disk settings files).map exitCode) := by
  refine (presents_announce r _ _).bind ?_
  have hchecked : Presents (files.mapM (checkLogged settings)) disk routing _ _ :=
    presents_checkAll settings files
  cases hall : checkAll disk settings files with
  | error e =>
    rw [hall] at hchecked
    rw [resultItems, List.append_nil]
    exact hchecked.bind_error
  | ok reports =>
    rw [hall] at hchecked
    exact hchecked.bind ((presents_present r reports).bind_pure rfl)

omit [Libraries] in
theorem isEmpty_missing_iff {paths : List Path} :
    (paths.filter (!disk.pathExists ·)).isEmpty = true ↔ paths.all disk.pathExists = true := by
  simp only [List.isEmpty_iff, List.filter_eq_nil_iff, List.all_eq_true, Bool.not_eq_true,
    Bool.not_eq_false']

/-- **All that `verify` does**: what it puts on the console and what it comes to. -/
theorem presents_verifyCommand (disk : Disk) (routing : Routing) (r : VerifyRequest) :
    Presents (verifyCommand r) disk routing (verifyItems disk routing r)
      (verifyOutcome disk r) := by
  refine Presents.get_bind (fun _ => rfl) ?_
  dsimp only
  rw [verifyItems, verifyOutcome]
  by_cases hpaths : r.paths.all disk.pathExists = true
  · rw [if_pos (isEmpty_missing_iff.2 hpaths), if_pos hpaths, if_pos hpaths]
    have hload : Presents (loadSettings r) disk routing _ _ := presents_loadSettings r
    cases hsettings : (r.load disk).1 with
    | error e =>
      rw [hsettings, loadOutcome] at hload
      cases hm : e.message? with
      | none =>
        simp only [hm] at hload ⊢
        exact hload.bind_error
      | some m =>
        simp only [hm] at hload ⊢
        exact hload.bind_pure rfl
    | ok settings =>
      rw [hsettings, refusalItems, List.append_nil, loadOutcome] at hload
      dsimp only [logItems]
      rw [List.append_assoc, List.append_assoc]
      exact hload.bind (presents_reportOn r settings (collectFiles disk r.paths))
  · rw [if_neg (isEmpty_missing_iff.not.2 hpaths), if_neg hpaths, if_neg hpaths]
    exact (presents_records _ fun p : Path =>
      .message .error ("Path not found: " ++ p.text)).bind_pure rfl

end DefUse
