import Mathlib.Tactic.Common
import DefUse.Proofs.Settings.Names

/-!
# Proofs/Settings/Nearest — which files settings are loaded from

Of all the settings files above a directory the nearest one counts, and what the others say does not
matter (`Settings.Nearest`).  It may ask for a file of names, unless one is given from outside
(`Settings.Selects`).  These two files are all that is read: on disks that agree on them, loading
comes to the same, errors and warnings included (`load_of_agree`).
-/

namespace DefUse

/-- A directory is another one or above it. -/
def Path.IsAbove (p q : Path) : Prop := p.anchor = q.anchor ∧ p.parts <+: q.parts

/-- Two directories that are each above the other are one. -/
theorem Path.IsAbove.antisymm {p q : Path} (h : p.IsAbove q) (h' : q.IsAbove p) : p = q := by
  obtain ⟨pa, pp⟩ := p
  obtain ⟨qa, qp⟩ := q
  obtain ⟨rfl, hparts⟩ := h
  rw [Path.mk.injEq]
  exact ⟨rfl, hparts.eq_of_length_le h'.2.length_le⟩

theorem Path.parent_child (p : Path) (n : String) : (p.child n).parent = p := by
  rw [child, parent, List.dropLast_concat]

namespace Settings

variable {d d' : Disk} {start dir file : Path} {namesFile : Option Path}

/-! ## The nearest settings file -/

/-- **The directory of the nearest settings file**: the directory to start from or one above it, and
every other one with such a file is above it. -/
structure Nearest (d : Disk) (start dir : Path) : Prop where
  above : dir.IsAbove (d.resolve start)
  isFile : d.isFile (dir.child fileName) = true
  nearest : ∀ other : Path, other.IsAbove (d.resolve start) →
    d.isFile (other.child fileName) = true → other.IsAbove dir

/-- There is one nearest settings file at most. -/
theorem Nearest.unique {other : Path} (h : Nearest d start dir) (h' : Nearest d start other) :
    dir = other :=
  (h'.nearest dir h.above h.isFile).antisymm (h.nearest other h'.above h'.isFile)

/-- The directory some steps above another one. -/
def directoryAbove (top : Path) (steps : Nat) : Path :=
  { top with parts := top.parts.take (top.parts.length - steps) }

/-- The directories above one are those some steps up from it. -/
theorem isAbove_iff {top other : Path} :
    other.IsAbove top ↔ ∃ steps ≤ top.parts.length, other = directoryAbove top steps := by
  constructor
  · rintro ⟨hanchor, hparts⟩
    have hle := hparts.length_le
    refine ⟨top.parts.length - other.parts.length, Nat.sub_le _ _, ?_⟩
    rw [directoryAbove, Nat.sub_sub_self hle, ← List.prefix_iff_eq_take.1 hparts, ← hanchor]
  · rintro ⟨steps, -, rfl⟩
    exact ⟨rfl, List.take_prefix _ _⟩

/-- Directories are searched upwards, step by step. -/
theorem nearest?_eq (d : Disk) (start : Path) :
    nearest? d start =
      ((List.range ((d.resolve start).parts.length + 1)).find? fun steps =>
        d.isFile ((directoryAbove (d.resolve start) steps).child fileName)).map fun steps =>
          (directoryAbove (d.resolve start) steps).child fileName := by
  rw [nearest?, upwards, List.map_map, List.find?_map]
  rfl

/-- The first settings file on the way up is the nearest one. -/
theorem nearest_of_find? {steps : Nat}
    (h : (List.range ((d.resolve start).parts.length + 1)).find? (fun steps =>
      d.isFile ((directoryAbove (d.resolve start) steps).child fileName)) = some steps) :
    Nearest d start (directoryAbove (d.resolve start) steps) := by
  obtain ⟨hfile, hmem, hfirst⟩ := List.find?_range_eq_some.1 h
  refine ⟨⟨rfl, List.take_prefix _ _⟩, hfile, fun other habove hother => ?_⟩
  obtain ⟨more, -, rfl⟩ := isAbove_iff.1 habove
  have hle : steps ≤ more := by
    by_contra hlt
    have hnone := hfirst more (Nat.lt_of_not_le hlt)
    rw [hother] at hnone
    cases hnone
  exact ⟨rfl, List.take_prefix_take_left (Nat.sub_le_sub_left hle _)⟩

/-- **The settings file that is found is the nearest one.** -/
theorem nearest?_eq_some_iff :
    nearest? d start = some file ↔ ∃ dir, Nearest d start dir ∧ file = dir.child fileName := by
  rw [nearest?_eq, Option.map_eq_some_iff]
  constructor
  · rintro ⟨steps, hfind, rfl⟩
    exact ⟨_, nearest_of_find? hfind, rfl⟩
  · rintro ⟨dir, hdir, rfl⟩
    obtain ⟨steps, hle, rfl⟩ := isAbove_iff.1 hdir.above
    have hsome : ((List.range ((d.resolve start).parts.length + 1)).find? fun steps =>
        d.isFile ((directoryAbove (d.resolve start) steps).child fileName)).isSome = true :=
      List.find?_isSome.2 ⟨steps, List.mem_range.2 (Nat.lt_succ_of_le hle), hdir.isFile⟩
    obtain ⟨found, hfound⟩ := Option.isSome_iff_exists.1 hsome
    exact ⟨found, hfound, by rw [hdir.unique (nearest_of_find? hfound)]⟩

/-- None is found exactly if there is none. -/
theorem nearest?_eq_none_iff : nearest? d start = none ↔ ∀ dir, ¬ Nearest d start dir := by
  rw [Option.eq_none_iff_forall_ne_some]
  constructor
  · exact fun h dir hdir => h _ (nearest?_eq_some_iff.2 ⟨dir, hdir, rfl⟩)
  · intro h file hfile
    obtain ⟨dir, hdir, -⟩ := nearest?_eq_some_iff.1 hfile
    exact h dir hdir

/-! ## What is read -/

/-- The fields of a table. -/
def tableOf? : Datum → Option (List (String × Datum))
  | .table fields => some fields
  | _ => none

theorem tableOf?_eq_some_iff {given : Datum} {fields : List (String × Datum)} :
    tableOf? given = some fields ↔ given = .table fields := by
  cases given <;> simp [tableOf?]

/-- **The section of a document**, the table `lua_verifier` in the table `tool`; either is empty if
it is not there. -/
def sectionTable? (document : List (String × Datum)) : Option (List (String × Datum)) := do
  let tool ← tableOf? ((Datum.lookup "tool" document).getD (.table []))
  tableOf? ((Datum.lookup "lua_verifier" tool).getD (.table []))

/-- The section that is looked up is the table that a document has for it. -/
theorem sectionTable?_eq_some_iff {document fields : List (String × Datum)} :
    sectionTable? document = some fields ↔ sectionOf document = .ok (.table fields) := by
  rw [sectionTable?, sectionOf]
  cases (Datum.lookup "tool" document).getD (.table []) with
  | table tool =>
    rw [tableOf?, Option.bind_eq_bind, Option.bind_some, tableOf?_eq_some_iff, Except.ok.injEq]
  | _ => simp [tableOf?]

/-- Only a table asks for a file of names. -/
theorem namesFile?_eq_some {given datum : Datum} (h : namesFile? given = .ok (some datum)) :
    ∃ fields, given = .table fields ∧ Datum.lookup "globals_file" fields = some datum := by
  rw [namesFile?.eq_def] at h
  split at h
  · exact ⟨_, rfl, Except.ok.inj h⟩
  · split at h <;> cases h
  · split at h <;> cases h
  · cases h

/-- Only a text names a path. -/
theorem pathOf_eq_ok {directory : Option Path} {datum : Datum}
    (h : pathOf directory datum = .ok file) :
    ∃ name, datum = .str name ∧ file = (directory.getD .here).join (.ofText name) := by
  rw [pathOf.eq_def] at h
  split at h
  · exact ⟨_, rfl, (Except.ok.inj h).symm⟩
  · cases h

/-- A file of names is read by its bytes. -/
theorem readNames_congr {file : Path} (h : d.read file = d'.read file) :
    readNames d file = readNames d' file := by
  rw [readNames, readNames, Disk.readText, Disk.readText, h]

variable [Libraries]

/-- **The section of a settings file** that can be read. -/
def HasSection (d : Disk) (dir : Path) (fields : List (String × Datum)) : Prop :=
  ∃ bytes text document, d.read (dir.child fileName) = .ok bytes ∧ Utf8.decode bytes = .ok text ∧
    Libraries.readToml text = .ok document ∧ sectionTable? document = some fields

/-- **The file of names that settings start from**: the one that is given, or else the one that the
nearest settings file asks for, which is relative to its directory. -/
inductive Selects (d : Disk) (namesFile : Option Path) (start : Path) : Path → Prop
  | given {file : Path} (h : namesFile = some file) : Selects d namesFile start file
  | asked {dir : Path} {fields : List (String × Datum)} {name : String} (h : namesFile = none)
      (nearest : Nearest d start dir) (inside : HasSection d dir fields)
      (asks : Datum.lookup "globals_file" fields = some (.str name)) :
      Selects d namesFile start (dir.join (.ofText name))

/-- **Disks that agree** on the nearest settings file and on the file of names: where they are, and
what comes of reading them. -/
structure Agree (d d' : Disk) (namesFile : Option Path) (start : Path) : Prop where
  nearest : ∀ dir, Nearest d start dir ↔ Nearest d' start dir
  settings : ∀ dir, Nearest d start dir →
    d.read (dir.child fileName) = d'.read (dir.child fileName)
  names : ∀ file, Selects d namesFile start file → d.read file = d'.read file

theorem Agree.nearest?_eq (h : Agree d d' namesFile start) :
    nearest? d start = nearest? d' start := by
  ext file
  simp only [nearest?_eq_some_iff, h.nearest]

/-- Disks that agree give the same project. -/
theorem Agree.project_eq (h : Agree d d' namesFile start) :
    project d start = project d' start := by
  rw [project, project, ← h.nearest?_eq]
  cases hfile : nearest? d start with
  | none => rfl
  | some file =>
    obtain ⟨dir, hdir, rfl⟩ := nearest?_eq_some_iff.1 hfile
    simp only [h.settings dir hdir]

/-- **A settings file that is passed over**, and why: the system does not let it be read, or it is
malformed. -/
inductive PassedOver (d : Disk) (dir : Path) : String → Prop
  | unreadable {e : FileError} (reads : d.read (dir.child fileName) = .error e)
      (system : e.isSystem = true) : PassedOver d dir e.message
  | malformed {bytes : List UInt8} {text reason : String}
      (reads : d.read (dir.child fileName) = .ok bytes) (decodes : Utf8.decode bytes = .ok text)
      (refuses : Libraries.readToml text = .error (.malformed reason)) : PassedOver d dir reason

/-- **What a project says**, if it says anything: nothing without a settings file or if it is passed
over, which it is warned of, and else what the section says. -/
theorem project_eq_ok {p : Project} (h : project d start = .ok p) :
    (∀ dir, ¬ Nearest d start dir) ∧ p = ⟨.table [], none, none⟩ ∨
    ∃ dir, Nearest d start dir ∧
      ((∃ reason, PassedOver d dir reason ∧ p = .ignoring (dir.child fileName) reason) ∨
        ∃ given, p = ⟨given, some dir, none⟩ ∧
          ∀ fields, given = .table fields → HasSection d dir fields) := by
  rw [project] at h
  cases hfile : nearest? d start with
  | none =>
    rw [hfile] at h
    exact Or.inl ⟨nearest?_eq_none_iff.1 hfile, (Except.ok.inj h).symm⟩
  | some file =>
    obtain ⟨dir, hdir, rfl⟩ := nearest?_eq_some_iff.1 hfile
    refine Or.inr ⟨dir, hdir, ?_⟩
    rw [hfile] at h
    cases hbytes : d.read (dir.child fileName) with
    | error e =>
      simp only [hbytes] at h
      split at h
      next hsystem => exact Or.inl ⟨_, .unreadable hbytes hsystem, (Except.ok.inj h).symm⟩
      next => cases h
    | ok bytes =>
      simp only [hbytes] at h
      obtain ⟨text, htext, h⟩ := bind_eq_ok_iff.1 h
      replace htext := mapError_eq_ok_iff.1 htext
      cases hdocument : Libraries.readToml text with
      | error e =>
        rw [hdocument] at h
        cases e with
        | malformed reason =>
          exact Or.inl ⟨reason, .malformed hbytes htext hdocument, (Except.ok.inj h).symm⟩
        | refused reason => cases h
      | ok document =>
        rw [hdocument] at h
        obtain ⟨given, hsection, h⟩ := bind_eq_ok_iff.1 h
        refine Or.inr ⟨given, ?_, ?_⟩
        · rw [← Except.ok.inj h, dir.parent_child]
        · rintro fields rfl
          exact ⟨bytes, text, document, hbytes, htext, hdocument,
            sectionTable?_eq_some_iff.2 hsection⟩

/-- A project that gives a table gives the section of the nearest settings file, or nothing. -/
theorem hasSection_of_project {p : Project} {fields : List (String × Datum)}
    (h : project d start = .ok p) (hgiven : p.given = .table fields) :
    fields = [] ∨
      ∃ dir, Nearest d start dir ∧ p.directory = some dir ∧ HasSection d dir fields := by
  obtain ⟨-, rfl⟩ | ⟨dir, hdir, ⟨reason, -, rfl⟩ | ⟨given, rfl, hsection⟩⟩ := project_eq_ok h
  · exact Or.inl (Datum.table.inj hgiven).symm
  · exact Or.inl (Datum.table.inj hgiven).symm
  · exact Or.inr ⟨dir, hdir, rfl, hsection fields hgiven⟩

/-- A settings file that can be read gives its section, relative to its directory. -/
theorem project_of_hasSection {fields : List (String × Datum)} (hdir : Nearest d start dir)
    (h : HasSection d dir fields) : project d start = .ok ⟨.table fields, some dir, none⟩ := by
  obtain ⟨bytes, text, document, hbytes, htext, hdocument, hfields⟩ := h
  have hsection := sectionTable?_eq_some_iff.1 hfields
  rw [project, nearest?_eq_some_iff.2 ⟨dir, hdir, rfl⟩]
  simp only [hbytes, projectOf, htext, hdocument, hsection, Except.mapError, bind, Except.bind,
    pure, Except.pure, Path.parent_child]

/-- A settings file that is passed over says nothing, and there is a warning. -/
theorem project_of_passedOver {reason : String} (hdir : Nearest d start dir)
    (h : PassedOver d dir reason) :
    project d start = .ok (.ignoring (dir.child fileName) reason) := by
  rw [project, nearest?_eq_some_iff.2 ⟨dir, hdir, rfl⟩]
  cases h with
  | unreadable reads system => simp only [reads, system, if_true]
  | malformed reads decodes refuses =>
    simp only [reads, projectOf, decodes, refuses, Except.mapError, bind, Except.bind, pure,
      Except.pure]

/-- **The file of names that a project asks for is the one that is selected.** -/
theorem selects_of_project {p : Project} (h : project d start = .ok p)
    (hpath : p.namesPath? = .ok (some file)) : Selects d none start file := by
  rw [Project.namesPath?] at hpath
  obtain ⟨asked, hasked, hpath⟩ := bind_eq_ok_iff.1 hpath
  cases asked with
  | none => cases hpath
  | some datum =>
    obtain ⟨path, hof, hpath⟩ := bind_eq_ok_iff.1 hpath
    obtain rfl : path = file := Option.some.inj (Except.ok.inj hpath)
    obtain ⟨fields, hgiven, hlook⟩ := namesFile?_eq_some hasked
    obtain ⟨name, rfl, rfl⟩ := pathOf_eq_ok hof
    obtain rfl | ⟨dir, hdir, hdirectory, hsection⟩ := hasSection_of_project h hgiven
    · cases hlook
    · rw [hdirectory]
      exact .asked rfl hdir hsection hlook

/-- **A file of names that is selected without being given is one that the project asks for.** -/
theorem namesPath?_of_selects (h : Selects d none start file) :
    ∃ p, project d start = .ok p ∧ p.namesPath? = .ok (some file) := by
  cases h with
  | given h => cases h
  | @asked dir fields name _ nearest inside asks =>
    refine ⟨_, project_of_hasSection nearest inside, ?_⟩
    have hasked : namesFile? (.table fields) = .ok (some (.str name)) := congrArg Except.ok asks
    rw [Project.namesPath?, hasked]
    rfl

/-- Disks that agree give the same names to start from. -/
theorem Agree.baseNames_eq (h : Agree d d' namesFile start) {p : Project}
    (hp : project d start = .ok p) : baseNames d p namesFile = baseNames d' p namesFile := by
  cases namesFile with
  | some file => exact readNames_congr (h.names file (.given rfl))
  | none =>
    rw [baseNames, baseNames]
    cases hpath : p.namesPath? with
    | error e => rfl
    | ok path? =>
      cases path? with
      | none => rfl
      | some file => exact readNames_congr (h.names file (selects_of_project hp hpath))

/-- **Settings are loaded from the nearest settings file and the file of names**, and from nothing
else on a disk. -/
theorem load_of_agree (h : Agree d d' namesFile start) (extra : List String) :
    load d extra namesFile start = load d' extra namesFile start := by
  rw [load, load, ← h.project_eq]
  cases hp : project d start with
  | error e => rfl
  | ok p =>
    simp only [load.assemble, h.baseNames_eq hp]

end Settings

end DefUse
