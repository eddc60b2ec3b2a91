import DefUse.File.Path
import DefUse.Text.Quoted

/-!
# File/Tree — files and directories

A disk is a tree of directories with files at its leaves, and a working directory in it.  Paths are
followed name by name: each name but the last has to be a directory, and `..` leads to the directory
that holds the one reached.  What can go wrong is a `FileError`, which names the path as it was
asked for.
-/

namespace DefUse

/-- **A file or a directory.** -/
inductive Entry where
  | file (bytes : List UInt8)
  | dir (entries : List (String × Entry))
  deriving Inhabited

/-- What can be wrong with a path. -/
inductive FileProblem where
  | missing
  | alreadyThere
  | notADirectory
  | isADirectory
  /-- A name with the character that ends a name, which no path can have. -/
  | nullByte
  deriving DecidableEq, Repr

namespace FileProblem

/-- The number of a problem; a path that is none has no number. -/
def number? : FileProblem → Option Nat
  | missing => some 2
  | alreadyThere => some 17
  | notADirectory => some 20
  | isADirectory => some 21
  | nullByte => none

/-- The words for a problem. -/
def text : FileProblem → String
  | missing => "No such file or directory"
  | alreadyThere => "File exists"
  | notADirectory => "Not a directory"
  | isADirectory => "Is a directory"
  | nullByte => "embedded null byte"

end FileProblem

/-- **Why a path could not be used.** -/
structure FileError where
  problem : FileProblem
  path : Path
  deriving DecidableEq, Repr

/-- Whether the error is one of the system's, which have numbers. -/
def FileError.isSystem (e : FileError) : Bool := e.problem.number?.isSome

/-- The message of a file error. -/
def FileError.message (e : FileError) : String :=
  match e.problem.number? with
  | some n => s!"[Errno {n}] {e.problem.text}: {quoted e.path.text}"
  | none => e.problem.text

namespace Entry

/-- The entry of a name, in the entries of a directory. -/
def find? (n : String) : List (String × Entry) → Option Entry
  | [] => none
  | (m, e) :: rest => if m = n then some e else find? n rest

/-- Put an entry under a name, in place of one that is there. -/
def put (n : String) (e : Entry) : List (String × Entry) → List (String × Entry)
  | [] => [(n, e)]
  | (m, f) :: rest => if m = n then (n, e) :: rest else (m, f) :: put n e rest

/-- The entry names lead to, without `..` among them. -/
def at? : List String → Entry → Option Entry
  | [], e => some e
  | n :: rest, dir entries => (find? n entries).bind (at? rest)
  | _ :: _, file _ => none

/-- Put an entry where names lead, in a directory that is there. -/
def putAt : List String → Entry → Entry → Entry
  | [], _, e => e
  | n :: rest, dir entries, e =>
    match find? n entries with
    | some child => dir (put n (putAt rest child e) entries)
    | none => if rest.isEmpty then dir (put n e entries) else dir entries
  | _ :: _, file bytes, _ => file bytes

mutual

/-- The names that lead to each file below an entry. -/
def filesBelow : Entry → List (List String)
  | file _ => []
  | dir entries => filesAmong entries

/-- The names that lead to each file among the entries of a directory. -/
def filesAmong : List (String × Entry) → List (List String)
  | [] => []
  | (n, file _) :: rest => [n] :: filesAmong rest
  | (n, dir entries) :: rest => (filesAmong entries).map (n :: ·) ++ filesAmong rest

end

end Entry

/-- **A disk**: its root directory, and the names that lead to the working directory. -/
structure Disk where
  root : Entry
  cwd : List String

namespace Disk

/-- Follow the parts of a path from where some names lead. -/
def follow (d : Disk) : List String → List String → Except FileProblem (List String)
  | here, [] => .ok here
  | here, p :: rest =>
    match d.root.at? here with
    | some (.dir entries) =>
      if p = ".." then d.follow here.dropLast rest
      else if (Entry.find? p entries).isSome then d.follow (here ++ [p]) rest
      else .error .missing
    | some (.file _) => .error .notADirectory
    | none => .error .missing

/-- Where a path starts. -/
def base (d : Disk) (p : Path) : List String := if p.absolute then [] else d.cwd

/-- Where a path leads, as names from the root. -/
def place (d : Disk) (p : Path) : Except FileProblem (List String) := d.follow (d.base p) p.parts

/-- The entry a path leads to. -/
def entry (d : Disk) (p : Path) : Except FileProblem Entry := do
  match d.root.at? (← d.place p) with
  | some e => return e
  | none => throw .missing

/-- Whether a path leads anywhere. -/
def pathExists (d : Disk) (p : Path) : Bool :=
  match d.entry p with
  | .ok _ => true
  | .error _ => false

/-- Whether a path leads to a directory. -/
def isDirectory (d : Disk) (p : Path) : Bool :=
  match d.entry p with
  | .ok (.dir _) => true
  | _ => false

/-- Whether a path leads to a file. -/
def isFile (d : Disk) (p : Path) : Bool :=
  match d.entry p with
  | .ok (.file _) => true
  | _ => false

/-- The bytes of the file a path leads to. -/
def read (d : Disk) (p : Path) : Except FileError (List UInt8) :=
  if p.hasNull then .error ⟨.nullByte, p⟩
  else
    match d.entry p with
    | .ok (.file bytes) => .ok bytes
    | .ok (.dir _) => .error ⟨.isADirectory, p⟩
    | .error problem => .error ⟨problem, p⟩

/-- Where the last name of a path would be put: the directory that holds it, and the name.  A path
that has none, or ends in `..`, leads to a directory. -/
def slot (d : Disk) (p : Path) : Except FileProblem (List String × String) :=
  if p.hasNull then .error .nullByte
  else
    match p.parts.getLast? with
    | none => .error .isADirectory
    | some n => do
      let here ← d.place p.parent
      match d.root.at? here with
      | some (.dir _) => if n = ".." then throw .isADirectory else return (here, n)
      | some (.file _) => throw .notADirectory
      | none => throw .missing

/-- Write a file, in a directory that is there. -/
def write (d : Disk) (p : Path) (bytes : List UInt8) : Except FileError Disk :=
  match d.slot p with
  | .error problem => .error ⟨problem, p⟩
  | .ok (here, n) =>
    match d.root.at? (here ++ [n]) with
    | some (.dir _) => .error ⟨.isADirectory, p⟩
    | _ => .ok { d with root := d.root.putAt (here ++ [n]) (.file bytes) }

/-- Make a directory, in a directory that is there. -/
def makeDirectory (d : Disk) (p : Path) : Except FileError Disk :=
  match d.slot p with
  | .error .isADirectory => .error ⟨.alreadyThere, p⟩
  | .error problem => .error ⟨problem, p⟩
  | .ok (here, n) =>
    match d.root.at? (here ++ [n]) with
    | some _ => .error ⟨.alreadyThere, p⟩
    | none => .ok { d with root := d.root.putAt (here ++ [n]) (.dir []) }

/-- Make a directory unless it is there. -/
def ensureDirectory (d : Disk) (p : Path) : Except FileError Disk :=
  match d.makeDirectory p with
  | .ok d => .ok d
  | .error e => if d.isDirectory p then .ok d else .error e

/-- Make a directory and those that lead to it, as far as they are not there.  The number bounds
how many names the path has. -/
def makeDirectories (d : Disk) (p : Path) : Nat → Except FileError Disk
  | 0 => d.ensureDirectory p
  | n + 1 =>
    match d.makeDirectory p with
    | .error ⟨.missing, q⟩ =>
      if p.parts.isEmpty then .error ⟨.missing, q⟩
      else do (← d.makeDirectories p.parent n).ensureDirectory p
    | .ok d => .ok d
    | .error e => if d.isDirectory p then .ok d else .error e

/-- Put an entry where a path leads or would lead, whatever is there. -/
def graft (d : Disk) (p : Path) (e : Entry) : Disk :=
  match d.place p with
  | .ok names => { d with root := d.root.putAt names e }
  | .error _ =>
    match d.slot p with
    | .ok (here, n) => { d with root := d.root.putAt (here ++ [n]) e }
    | .error _ => d

/-- A path as names from the root, `..` taking back the name before it whether or not that leads
anywhere. -/
def resolve (d : Disk) (p : Path) : Path :=
  let follow (here : List String) (n : String) : List String :=
    if n = ".." then here.dropLast else here ++ [n]
  { anchor := if p.absolute then p.anchor else .root
    parts := p.parts.foldl follow (d.base p) }

/-- The files below a directory, component by component in order. -/
def filesUnder (d : Disk) (p : Path) : List Path :=
  match d.entry p with
  | .ok e =>
    (e.filesBelow.mergeSort Path.partsLe).map fun names => { p with parts := p.parts ++ names }
  | .error _ => []

end Disk

end DefUse
