import DefUse.Command.Run
import DefUse.Standard

/-!
# Main — the program

Everything the command may look at is read beforehand: the paths on the command line with all that
is below them, the settings files from the working directory upwards, and the file of names they
ask for.  The command runs on that, and what it prints and writes is then carried out.
-/

namespace DefUse

/-- A file, or a directory with all that is below it. -/
partial def snapshot (e : IO.FS.DirEntry) : IO (Option Entry) := do
  if ← e.path.isDir then
    let mut entries := []
    for child in ← e.path.readDir do
      match ← snapshot child with
      | some entry => entries := (child.fileName, entry) :: entries
      | none => pure ()
    return some (.dir entries)
  else if ← e.path.pathExists then
    return some (.file (← IO.FS.readBinFile e.path).toList)
  else return none

/-- Put the directories that lead to a path on a disk, as far as they are there. -/
def mountParents (d : Disk) (p : Path) : IO Disk := do
  let mut disk := d
  for i in List.range p.parts.length do
    let q : Path := { p with parts := p.parts.take i }
    if ← ((← IO.currentDir) / q.text).isDir then
      disk := (disk.ensureDirectory q).toOption.getD disk
    else if ← ((← IO.currentDir) / q.text).pathExists then
      disk := disk.graft q (.file [])
  return disk

/-- Put what is at a path on a disk. -/
def mount (d : Disk) (p : Path) : IO Disk := do
  let disk ← mountParents d p
  match ← snapshot ⟨p.parent.text, if p.name = "" then "." else p.name⟩ with
  | some entry => return disk.graft p entry
  | none => return disk

/-- Put the settings files from the working directory upwards on a disk. -/
def mountSettings (d : Disk) : IO Disk := do
  let mut disk := d
  for parts in Settings.upwards d.cwd do
    disk ← mount disk (Path.child ⟨.root, parts⟩ Settings.fileName)
  match Settings.project disk .here with
  | .error _ => return disk
  | .ok project =>
    match project.namesPath? with
    | .ok (some file) => mount disk file
    | _ => return disk

/-- The paths a task looks at. -/
def Task.paths : Task → List Path
  | .verify r => r.paths ++ r.globalsFile.toList
  | .dump r => r.path :: r.out.toList

/-- The disk as far as a task may look at it. -/
def mountTask (task : Task) : IO Disk := do
  let cwd := (Path.ofText (← IO.currentDir).toString).parts
  let mut disk ← mountSettings ⟨.dir [], cwd⟩
  disk ← mountParents disk (Path.child ⟨.root, cwd⟩ ".")
  for p in task.paths do
    disk ← mount disk p
  return disk

/-- Write the file a task was to write, if the run wrote it. -/
def writeBack (task : Task) (disk : Disk) : IO Unit := do
  match task with
  | .dump ⟨_, some out⟩ =>
    match disk.read out with
    | .ok bytes =>
      IO.FS.createDirAll out.parent.text
      IO.FS.writeBinFile out.text ⟨bytes.toArray⟩
    | .error _ => pure ()
  | _ => pure ()

/-- The message for a run that broke off. -/
def Crash.message : Crash → String
  | .unshown .markup => "a text has a closing tag that matches no open one"
  | .unshown .encoding => "a text has a character that cannot be shown"
  | .unshown (.other reason) => reason
  | .unwritable => "the tree has a number with too many digits"
  | .file e => e.message
  | .escape (.settings e) => e.message?.getD "the settings cannot be used"
  | .escape (.load (.undecodable e)) => e.message
  | .escape (.load e) => e.message?.getD "the file cannot be read"
  | .escape (.walk f) => f.message?.getD "the tree cannot be walked"

/-- Run the program on a disk and print. -/
def perform (disk : Disk) (args : List String) : IO RunResult := do
  let result := Command.run disk args
  for line in result.lines do
    IO.println line
  return result

end DefUse

open DefUse in
/-- Run the program on the real disk. -/
def main (args : List String) : IO UInt32 := do
  match Invocation.ofArguments args with
  | .error stop =>
    if stop = .misuse then IO.eprintln "lua-verifier: the command line cannot be read, see --help"
    let result ← perform ⟨.dir [], []⟩ args
    return (result.outcome.toOption.getD 1).toUInt32
  | .ok i =>
    let result ← perform (← mountTask i.task) args
    match result.outcome with
    | .ok code =>
      if code = 0 then writeBack i.task result.disk
      return code.toUInt32
    | .error crash =>
      IO.eprintln crash.message
      return 1
