import DefUse.Check.File
import DefUse.Check.Replay
import DefUse.Command.Invocation
import DefUse.Console.Routing
import DefUse.Json.Printer

/-!
# Command/Run — carrying out a command

A command works on a disk and prints.  It comes to an exit code, or it breaks off; what it has
printed and written by then stays.  `Command.run` is the whole program but for the real disk and the
real console.
-/

namespace DefUse

variable [Libraries]

/-- **What a command breaks off with.** -/
inductive Crash where
  /-- Something that cannot be shown. -/
  | unshown (f : Fault)
  | file (e : FileError)
  | escape (e : Escape)
  /-- A tree with a whole number of too many digits to be written. -/
  | unwritable

/-- What a command works on: the disk, the consoles, and the lines printed, the latest first. -/
structure World where
  disk : Disk
  routing : Routing
  printed : List String

namespace World

/-- A disk, with nothing printed. -/
def start (disk : Disk) : World := ⟨disk, .initial, []⟩

/-- The lines printed, in order. -/
def lines (w : World) : List String := w.printed.reverse

end World

/-- A part of a command. -/
abbrev Job := ExceptT Crash (StateM World)

namespace Job

/-- Print lines. -/
def emit (lines : List String) : Job Unit :=
  modify fun w => { w with printed := lines.reverse ++ w.printed }

/-- Make a request of the consoles. -/
def ask (request : Request) : Job Unit := do
  let w ← get
  match w.routing.step Libraries.console request with
  | .error f => throw (.unshown f)
  | .ok (routing, writings) =>
    set { w with routing }
    emit (writings.flatMap Writing.lines)

/-- Log a message of a level. -/
def log (level : Level) (text : String) : Job Unit := ask (.log (.message level text))

/-- Print a marked text. -/
def print (text : String) : Job Unit := ask (.print [.str text])

end Job

open Job

/-! ## The trace -/

/-- The record of an event. -/
def Event.record (e : Event) : Record := ⟨.debug, e.message⟩

/-- Whether an event can be shown. -/
def Event.isShown (e : Event) : Bool := (Libraries.console.record e.record).toBool

/-- Why the first event that cannot be shown cannot be shown, if there is one. -/
def firstFault? : List Event → Option Fault
  | [] => none
  | e :: rest =>
    match Libraries.console.record e.record with
    | .ok _ => firstFault? rest
    | .error f => some f

/-- Log the trace of a run.  An event that cannot be shown ends the run there: each function that
is open is left, and nothing that came after it has happened. -/
def logTrace (trace : List Event) : Job Unit := do
  if (← get).routing.accepts .debug then
    let events := trace.takeWhile Event.isShown
    events.forM fun e => ask (.log e.record)
    match firstFault? trace with
    | none => pure ()
    | some f =>
      (Scopes.replayAll events).unwinding.forM fun e => ask (.log e.record)
      throw (.unshown f)

/-! ## Checking files -/

/-- Log the trace of a session, if there was one. -/
def logSession : Option Session → Job Unit
  | some s => logTrace s.trace
  | none => pure ()

/-- Check a file and log the trace. -/
def checkLogged (settings : Settings) (p : Path) : Job Report := do
  let w ← get
  let (result, session) := checkFile w.disk (w.routing.accepts .debug) settings p
  logSession session
  match result with
  | .ok report => return report
  | .error e => throw (.escape e)

/-- A report as a record. -/
def Report.toValue (r : Report) : Value := .record
  [("path", (r.path.map Value.str).getD .null),
   ("warnings", .list (r.findings.map fun f =>
      .record [("kind", .str f.kind.label), ("name", .str f.name)])),
   ("errors", .list (r.errors.map .str)),
   ("success", .bool r.success)]

/-- Print the findings on one file. -/
def printReport (r : Report) : Job Unit := do
  print ("[path]" ++ Libraries.console.escape (r.path.getD "<tree>") ++ "[/path]")
  r.errors.forM fun e => log .error ("Verification aborted: " ++ Libraries.console.escape e)
  (Finding.numbered r.findings).forM fun line => log .warning (Libraries.console.escape line)

/-- The marked word for how a check went. -/
def Report.status (r : Report) : String :=
  if !r.success then "[error]aborted[/error]"
  else if r.findings.isEmpty then "[success]ok[/success]" else "[warning]warnings[/warning]"

/-- The row of a report in the summary. -/
def Report.row (r : Report) : List String :=
  let counts := FindingKind.all.map fun k => toString (Finding.count k r.findings)
  Libraries.console.escape (r.path.getD "") :: counts ++ [r.status]

/-- The table that sums up several reports. -/
def summary (reports : List Report) : Table :=
  { title := "Verification Summary"
    columns := [("File", .left), ("Undefined", .right), ("Redefined", .right), ("Status", .left)]
    rows := reports.map Report.row }

/-- Print the table that sums up several reports. -/
def printSummary (reports : List Report) : Job Unit := do
  match Libraries.console.table (summary reports) with
  | .ok lines => emit lines
  | .error f => throw (.unshown f)

/-- The exit code for some reports: zero if there is nothing to report. -/
def exitCode (reports : List Report) : Nat := if reports.all Report.isClean then 0 else 1

/-- Print reports to be read by people. -/
def printReports (reports : List Report) : Job Unit := do
  reports.forM printReport
  if 1 < reports.length then printSummary reports
  if reports.all Report.isClean then log .success "No definition problems found."

/-- Load settings and log the warnings on the way. -/
def loadLogged (extra : List String) (namesFile : Option Path) (start : Path) :
    Job (Except SettingsError Settings) := do
  let (result, warnings) := Settings.load (← get).disk extra namesFile start
  warnings.forM fun m => ask (.log ⟨.warning, m⟩)
  return result

/-- Load the settings of a run, or log why they cannot be loaded. -/
def loadSettings (r : VerifyRequest) : Job (Option Settings) := do
  match ← loadLogged r.globals r.globalsFile .here with
  | .ok settings => return some settings
  | .error e =>
    match e.message? with
    | some m =>
      log .error ("Cannot load configuration: " ++ Libraries.console.escape m)
      return none
    | none => throw (.escape (.settings e))

/-- Tell people what is going to be checked. -/
def announce (r : VerifyRequest) (files names : Nat) : Job Unit :=
  if r.json then pure ()
  else log .info s!"Verifying {files} file(s) against {names} global identifiers..."

/-- Print reports, as data or to be read by people. -/
def present (r : VerifyRequest) (reports : List Report) : Job Unit :=
  if r.json then emit (lines (Json.indented (.list (reports.map Report.toValue))))
  else printReports reports

/-- **Carry out `verify`**; the exit code. -/
def verifyCommand (r : VerifyRequest) : Job Nat := do
  let disk := (← get).disk
  let missing := r.paths.filter (!disk.pathExists ·)
  if missing.isEmpty then
    match ← loadSettings r with
    | none => return 1
    | some settings =>
      let files := collectFiles disk r.paths
      announce r files.length settings.globals.length
      let reports ← files.mapM (checkLogged settings)
      present r reports
      return exitCode reports
  else
    missing.forM fun p => log .error ("Path not found: " ++ p.text)
    return 1

/-! ## Printing trees -/

/-- Write a text to a file, with the directories that lead to it. -/
def writeFile (p : Path) (text : String) : Job Unit := do
  let w ← get
  match w.disk.makeDirectories p.parent p.parts.length with
  | .error e => throw (.file e)
  | .ok disk =>
    set { w with disk }
    match disk.write p (Utf8.encode text) with
    | .error e => throw (.file e)
    | .ok disk => set { w with disk }

/-- **Carry out `dump-tree`**; the exit code. -/
def dumpCommand (r : DumpRequest) : Job Nat := do
  let disk := (← get).disk
  if disk.pathExists r.path then
    match disk.loadDocument r.path with
    | .ok tree =>
      match Json.write? tree with
      | none => throw .unwritable
      | some text =>
        match r.out with
        | none =>
          emit (lines text)
          return 0
        | some out =>
          writeFile out (text ++ "\n")
          log .success s!"Wrote tree for {r.path.name} to {out.text}"
          return 0
    | .error e =>
      match e.isContent, e.message? with
      | true, some m =>
        log .error s!"Failed to parse {r.path.name}: {m}"
        return 1
      | _, _ => throw (.escape (.load e))
  else
    log .error ("Path not found: " ++ r.path.text)
    return 1

/-! ## The program -/

/-- Carry out a task; the exit code. -/
def Task.job : Task → Job Nat
  | verify r => verifyCommand r
  | dump r => dumpCommand r

/-- Carry out what a command line asks for; the exit code. -/
def Invocation.job (i : Invocation) : Job Nat := do
  ask (.verbose i.verbose)
  i.task.job

/-- **What a run of the program comes to**: the exit code or what it broke off with, the lines
printed, and the disk after it. -/
structure RunResult where
  outcome : Except Crash Nat
  lines : List String
  disk : Disk

namespace Command

/-- The exit code for a command line that cannot be read. -/
def misuseCode : Nat := 2

/-- **Run the program.** -/
def run (disk : Disk) (args : List String) : RunResult :=
  match Invocation.ofArguments args with
  | .ok i =>
    let (outcome, w) := i.job.run (.start disk)
    ⟨outcome, w.lines, w.disk⟩
  | .error (.help text) => ⟨.ok 0, (lines text).dropLast, disk⟩
  | .error .version => ⟨.ok 0, [Invocation.versionLine], disk⟩
  | .error .misuse => ⟨.ok misuseCode, [], disk⟩

end Command

end DefUse
