import Mathlib.Data.List.Lex
import Mathlib.Data.List.Nodup
import DefUse.Proofs.File.Write
import DefUse.Proofs.Table

/-!
# Proofs/File/Listing — the files below a directory

A directory tree has every name of a directory once, and none of them is `..` (`Entry.Proper`).  In
such a tree the files below a directory are the paths that lead on from it, by names alone, to a
file (`Disk.mem_filesUnder_iff`), and they are listed strictly increasing, component by component
(`Disk.pairwise_filesUnder`).

Listing the entries of directories in another order, at any depth (`Entry.Relisted`), changes
nothing that a path could find out: where it leads, and to what kind of entry
(`Disk.Relisted.isFile_eq`, `Disk.Relisted.isDirectory_eq`).
-/

namespace DefUse

/-! ## The order of paths -/

namespace Path

/-- The components of a path: what it starts with, if it starts at a root, and its names. -/
def components (p : Path) : List String :=
  (if p.absolute then [p.anchor.text] else []) ++ p.parts

/-- **A path comes before another one**, component by component. -/
def Precedes (p q : Path) : Prop := List.Lex (· < ·) p.components q.components

/-- A path leads on from another one by some names. -/
def extend (p : Path) (names : List String) : Path := { p with parts := p.parts ++ names }

/-- A path is below another one: it leads on from there by one name or more, and never up. -/
def IsBelow (q p : Path) : Prop := ∃ names, names ≠ [] ∧ ".." ∉ names ∧ q = p.extend names

theorem partsLe_iff {a b : List String} :
    partsLe a b = true ↔ a = b ∨ List.Lex (· < ·) a b := by
  fun_induction partsLe a b with
  | case1 b =>
    cases b with
    | nil => exact iff_of_true rfl (Or.inl rfl)
    | cons m b => exact iff_of_true rfl (Or.inr .nil)
  | case2 n a =>
    refine iff_of_false Bool.false_ne_true ?_
    simp only [List.not_lex_nil, reduceCtorEq, or_self, not_false_eq_true]
  | case3 n a b ih =>
    rw [ih, List.cons_lex_cons_iff, List.cons_inj_right]
    simp only [String.lt_irrefl, true_and, false_or]
  | case4 n a m b hne =>
    rw [decide_eq_true_eq, List.cons_lex_cons_iff]
    simp only [List.cons.injEq, hne, false_and, false_or, or_false]

theorem partsLe_trans (a b c : List String) (hab : partsLe a b = true)
    (hbc : partsLe b c = true) : partsLe a c = true := by
  rw [partsLe_iff] at hab hbc ⊢
  rcases hab with rfl | hab
  · exact hbc
  · rcases hbc with rfl | hbc
    · exact Or.inr hab
    · exact Or.inr (List.lex_trans String.lt_trans hab hbc)

theorem partsLe_total (a b : List String) : (partsLe a b || partsLe b a) = true := by
  fun_induction partsLe a b with
  | case1 b => rfl
  | case2 n a => rfl
  | case3 n a b ih => simpa [partsLe] using ih
  | case4 n a m b hne =>
    rw [partsLe, if_neg (Ne.symm hne), Bool.or_eq_true, decide_eq_true_eq, decide_eq_true_eq]
    by_contra hnot
    obtain ⟨hnm, hmn⟩ := not_or.1 hnot
    exact hne (String.le_antisymm (String.not_lt.1 hmn) (String.not_lt.1 hnm))

theorem precedes_extend {p : Path} {a b : List String} (h : List.Lex (· < ·) a b) :
    (p.extend a).Precedes (p.extend b) := by
  have hsplit (names : List String) : (p.extend names).components = p.components ++ names :=
    (List.append_assoc _ _ _).symm
  rw [Precedes, hsplit, hsplit]
  exact h.append_left _ _

/-- Increasing paths are different. -/
theorem nodup_of_precedes {ps : List Path} (h : ps.Pairwise Precedes) : ps.Nodup := by
  refine h.imp fun {p q} hpq heq => ?_
  rw [heq] at hpq
  exact List.lex_irrefl String.lt_irrefl _ hpq

/-- **Increasing paths are determined by which they are.** -/
theorem eq_of_precedes {ps qs : List Path} (hps : ps.Pairwise Precedes)
    (hqs : qs.Pairwise Precedes) (h : ∀ p, p ∈ ps ↔ p ∈ qs) : ps = qs := by
  refine List.Perm.eq_of_pairwise (fun p q _ _ hpq hqp => ?_) hps hqs
    ((List.perm_ext_iff_of_nodup (nodup_of_precedes hps) (nodup_of_precedes hqs)).2 h)
  exact absurd hqp (List.lex_asymm String.lt_asymm hpq)

end Path

namespace Entry

variable {e f : Entry} {entries : List (String × Entry)} {names : List String} {n : String}

/-! ## Directory trees -/

/-- **A directory tree**: every directory has each of its names once, and none of them is `..`. -/
inductive Proper : Entry → Prop
  | file (bytes : List UInt8) : Proper (file bytes)
  | dir {entries : List (String × Entry)} (distinct : (entries.map Prod.fst).Nodup)
      (named : ∀ x ∈ entries, x.1 ≠ "..") (below : ∀ x ∈ entries, Proper x.2) :
      Proper (dir entries)

theorem mem_of_find? (h : find? n entries = some e) : (n, e) ∈ entries :=
  mem_of_lookup (find?_eq_lookup n entries ▸ h)

theorem find?_of_mem (hdistinct : (entries.map Prod.fst).Nodup) (h : (n, e) ∈ entries) :
    find? n entries = some e := by
  rwa [find?_eq_lookup, lookup_eq_some_iff_mem hdistinct]

/-- Where names lead in a directory tree, there is one, and they do not lead up. -/
theorem Proper.at? (h : e.Proper) (hat : e.at? names = some f) : f.Proper ∧ ".." ∉ names := by
  induction names generalizing e with
  | nil => exact ⟨Option.some.inj hat ▸ h, List.not_mem_nil⟩
  | cons n names ih =>
    obtain ⟨entries, child, rfl, hchild, hrest⟩ := exists_dir_of_at? hat
    cases h with
    | dir distinct named below =>
      have hmem := mem_of_find? hchild
      obtain ⟨hf, hup⟩ := ih (below _ hmem) hrest
      exact ⟨hf, List.not_mem_cons_of_ne_of_not_mem (Ne.symm (named _ hmem)) hup⟩

/-! ## Files below an entry -/

/-- The names that lead from an entry to each file, none to the file that it is itself. -/
def filesFrom : Entry → List (List String)
  | file _ => [[]]
  | dir entries => filesAmong entries

theorem filesAmong_eq_flatMap (entries : List (String × Entry)) :
    filesAmong entries = entries.flatMap fun x => x.2.filesFrom.map (x.1 :: ·) := by
  induction entries with
  | nil => rw [filesAmong, List.flatMap_nil]
  | cons x rest ih =>
    obtain ⟨n, e⟩ := x
    cases e with
    | file bytes => rw [filesAmong, ih, List.flatMap_cons, filesFrom, List.map_singleton]; simp
    | dir entries => rw [filesAmong, ih, List.flatMap_cons, filesFrom]

/-- **The files that are found are those that names lead to.** -/
theorem Proper.mem_filesFrom_iff (h : e.Proper) :
    names ∈ e.filesFrom ↔ ∃ bytes, e.at? names = some (.file bytes) := by
  -- the names are followed one by one, each into a smaller tree
  induction names generalizing e with
  | nil =>
    cases e with
    | file bytes => simp [filesFrom, Entry.at?]
    | dir entries =>
      rw [filesFrom, filesAmong_eq_flatMap]
      simp [Entry.at?]
  | cons n names ih =>
    cases h with
    | file bytes => simp [filesFrom, Entry.at?]
    | @dir entries distinct named below =>
      rw [filesFrom, filesAmong_eq_flatMap, List.mem_flatMap]
      constructor
      · rintro ⟨⟨m, child⟩, hmem, hnames⟩
        obtain ⟨rest, hrest, heq⟩ := List.mem_map.1 hnames
        obtain ⟨rfl, rfl⟩ := List.cons.inj heq
        obtain ⟨bytes, hbytes⟩ := (ih (below _ hmem)).1 hrest
        exact ⟨bytes, by rw [at?_cons, find?_of_mem distinct hmem]; exact hbytes⟩
      · rintro ⟨bytes, hbytes⟩
        obtain ⟨child, hchild, hrest⟩ := Option.bind_eq_some_iff.1 hbytes
        have hmem := mem_of_find? hchild
        exact ⟨(n, child), hmem, List.mem_map_of_mem ((ih (below _ hmem)).2 ⟨bytes, hrest⟩)⟩

/-- **No file is found twice.** -/
theorem Proper.nodup_filesFrom (h : e.Proper) : e.filesFrom.Nodup := by
  induction h with
  | file bytes => exact List.nodup_singleton _
  | @dir entries distinct named below ih =>
    rw [filesFrom, filesAmong_eq_flatMap, List.nodup_flatMap]
    refine ⟨fun x hx => (List.nodup_map_iff List.cons_injective).2 (ih x hx), ?_⟩
    refine (List.pairwise_map.1 distinct).imp fun {x y} hne names hx hy => ?_
    obtain ⟨a, -, rfl⟩ := List.mem_map.1 hx
    obtain ⟨b, -, heq⟩ := List.mem_map.1 hy
    exact hne (List.cons.inj heq).1.symm

/-! ## The order of listing -/

/-- Whether an entry is a directory. -/
def isDir : Entry → Bool
  | file _ => false
  | dir _ => true

/-- **A tree listed in another order**: the entries of any of its directories in any order. -/
inductive Relisted : Entry → Entry → Prop
  | refl (e : Entry) : Relisted e e
  | perm {entries entries' : List (String × Entry)} (h : entries.Perm entries') :
      Relisted (dir entries) (dir entries')
  | inside (n : String) (before after : List (String × Entry)) {e e' : Entry} (h : Relisted e e') :
      Relisted (dir (before ++ (n, e) :: after)) (dir (before ++ (n, e') :: after))
  | trans {e e' e'' : Entry} (h : Relisted e e') (h' : Relisted e' e'') : Relisted e e''

theorem Relisted.proper (h : Relisted e f) (he : e.Proper) : f.Proper := by
  induction h with
  | refl e => exact he
  | perm h =>
    cases he with
    | dir distinct named below =>
      refine .dir ((h.map _).nodup_iff.1 distinct) (fun x hx => ?_) (fun x hx => ?_)
      · exact named x (h.mem_iff.2 hx)
      · exact below x (h.mem_iff.2 hx)
  | @inside n before after e e' h ih =>
    cases he with
    | dir distinct named below =>
      have hold : (n, e) ∈ before ++ (n, e) :: after := by simp
      have hmem {x : String × Entry} (hx : x ∈ before ++ (n, e') :: after) :
          x = (n, e') ∨ x ∈ before ++ (n, e) :: after := by
        simp only [List.mem_append, List.mem_cons] at hx ⊢
        tauto
      refine .dir (by simpa using distinct) (fun x hx => ?_) (fun x hx => ?_)
      · rcases hmem hx with rfl | hx
        · exact named (n, e) hold
        · exact named x hx
      · rcases hmem hx with rfl | hx
        · exact ih (below (n, e) hold)
        · exact below x hx
  | trans h h' ih ih' => exact ih' (ih he)

theorem find?_append (n : String) (before after : List (String × Entry)) :
    find? n (before ++ after) = (find? n before).or (find? n after) := by
  simp only [find?_eq_lookup, List.lookup_append]

theorem find?_of_perm {entries' : List (String × Entry)} (h : entries.Perm entries')
    (hdistinct : (entries.map Prod.fst).Nodup) (n : String) :
    find? n entries = find? n entries' := by
  have hdistinct' : (entries'.map Prod.fst).Nodup := (h.map _).nodup_iff.1 hdistinct
  ext e
  constructor
  · exact fun he => find?_of_mem hdistinct' (h.mem_iff.1 (mem_of_find? he))
  · exact fun he => find?_of_mem hdistinct (h.mem_iff.2 (mem_of_find? he))

/-- **Names lead to the same kind of entry**, however directories are listed. -/
theorem Relisted.map_isDir_at? (h : Relisted e f) (he : e.Proper) (names : List String) :
    (e.at? names).map isDir = (f.at? names).map isDir := by
  induction h generalizing names with
  | refl e => rfl
  | perm h =>
    cases he with
    | dir distinct named below =>
      cases names with
      | nil => rfl
      | cons n names => rw [at?_cons, at?_cons, find?_of_perm h distinct]
  | @inside n before after e e' h ih =>
    cases he with
    | dir distinct named below =>
      have hin (names : List String) := ih (below (n, e) (by simp)) names
      cases names with
      | nil => rfl
      | cons m names =>
        rw [at?_cons, at?_cons, find?_append, find?_append, find?, find?]
        cases find? m before with
        | some g => rfl
        | none =>
          by_cases hnm : n = m
          · rw [if_pos hnm, if_pos hnm]
            exact hin names
          · rw [if_neg hnm, if_neg hnm]
  | trans h h' ih ih' => rw [ih he, ih' (h.proper he)]

end Entry

namespace Disk

variable {d d' : Disk} {p q : Path} {here names there : List String} {e : Entry}

/-! ## Where a path leads on -/

theorem follow_of_at? (hup : ".." ∉ names) (h : d.root.at? (here ++ names) = some e) :
    d.follow here names = .ok (here ++ names) := by
  induction names generalizing here with
  | nil => rw [follow, List.append_nil]
  | cons n names ih =>
    have hstep := h
    rw [Entry.at?_append] at hstep
    obtain ⟨dir, hdir, hrest⟩ := Option.bind_eq_some_iff.1 hstep
    obtain ⟨entries, child, rfl, hchild, -⟩ := Entry.exists_dir_of_at? hrest
    rw [List.mem_cons, not_or] at hup
    rw [List.append_cons] at h ⊢
    rw [follow_child hdir (Ne.symm hup.1) (by rw [hchild]; rfl), ih hup.2 h]

theorem eq_append_of_follow (hup : ".." ∉ names) (h : d.follow here names = .ok there) :
    there = here ++ names := by
  induction names generalizing here with
  | nil => rw [List.append_nil, Except.ok.inj h]
  | cons n names ih =>
    rw [List.mem_cons, not_or] at hup
    obtain ⟨entries, -, ⟨hn, -⟩ | ⟨-, -, hrest⟩⟩ := follow_cases h
    · exact absurd hn.symm hup.1
    · rw [ih hup.2 hrest, ← List.append_cons]

theorem entry_eq_ok_iff :
    d.entry p = .ok e ↔ ∃ place, d.place p = .ok place ∧ d.root.at? place = some e := by
  rw [entry]
  cases hplace : d.place p with
  | error problem => simp [bind, Except.bind]
  | ok place =>
    simp only [bind, Except.bind, Except.ok.injEq, exists_eq_left']
    cases hat : d.root.at? place with
    | none => simp [throw, throwThe, MonadExceptOf.throw]
    | some e => simp [pure, Except.pure]

/-- **A path that leads on by names leads to what the names lead to.** -/
theorem entry_extend_iff (hplace : d.place p = .ok here) (hup : ".." ∉ names) :
    d.entry (p.extend names) = .ok e ↔ d.root.at? (here ++ names) = some e := by
  have hon : d.place (p.extend names) = d.follow here names := follow_append names hplace
  rw [entry_eq_ok_iff, hon]
  constructor
  · rintro ⟨there, hthere, hat⟩
    rwa [eq_append_of_follow hup hthere] at hat
  · exact fun hat => ⟨_, follow_of_at? hup hat, hat⟩

theorem isFile_iff : d.isFile p = true ↔ ∃ bytes, d.entry p = .ok (.file bytes) := by
  rw [isFile]
  split <;> simp_all

theorem isDirectory_iff : d.isDirectory p = true ↔ ∃ entries, d.entry p = .ok (.dir entries) := by
  rw [isDirectory]
  split <;> simp_all

/-! ## The files below a directory -/

theorem filesUnder_eq {entries : List (String × Entry)} (h : d.entry p = .ok (.dir entries)) :
    d.filesUnder p = ((Entry.dir entries).filesFrom.mergeSort Path.partsLe).map p.extend := by
  rw [filesUnder, h]
  simp only [Entry.filesBelow, Entry.filesFrom]
  rfl

/-- **The files below a directory** are listed, and nothing else. -/
theorem mem_filesUnder_iff (hd : d.root.Proper) (h : d.isDirectory p = true) :
    q ∈ d.filesUnder p ↔ q.IsBelow p ∧ d.isFile q = true := by
  obtain ⟨entries, hdir⟩ := isDirectory_iff.1 h
  obtain ⟨place, hplace, hat⟩ := entry_eq_ok_iff.1 hdir
  have hproper := (hd.at? hat).1
  have hlead (names : List String) (f : Entry) :
      d.root.at? (place ++ names) = some f ↔ (Entry.dir entries).at? names = some f := by
    rw [Entry.at?_append, hat, Option.bind_some]
  rw [filesUnder_eq hdir, List.mem_map]
  simp only [List.mem_mergeSort, hproper.mem_filesFrom_iff]
  constructor
  · rintro ⟨names, ⟨bytes, hbytes⟩, rfl⟩
    have hup := (hproper.at? hbytes).2
    refine ⟨⟨names, ?_, hup, rfl⟩, isFile_iff.2 ⟨bytes, ?_⟩⟩
    · rintro rfl
      cases hbytes
    · rwa [entry_extend_iff hplace hup, hlead]
  · rintro ⟨⟨names, -, hup, rfl⟩, hfile⟩
    obtain ⟨bytes, hbytes⟩ := isFile_iff.1 hfile
    exact ⟨names, ⟨bytes, (hlead _ _).1 ((entry_extend_iff hplace hup).1 hbytes)⟩, rfl⟩

/-- **The files below a directory are listed in order**, each once. -/
theorem pairwise_filesUnder (hd : d.root.Proper) (h : d.isDirectory p = true) :
    (d.filesUnder p).Pairwise Path.Precedes := by
  obtain ⟨entries, hdir⟩ := isDirectory_iff.1 h
  obtain ⟨place, -, hat⟩ := entry_eq_ok_iff.1 hdir
  have hnodup := (hd.at? hat).1.nodup_filesFrom
  rw [filesUnder_eq hdir]
  have hle := List.pairwise_mergeSort Path.partsLe_trans Path.partsLe_total
    (Entry.dir entries).filesFrom
  have hne := (List.mergeSort_perm _ Path.partsLe).nodup_iff.2 hnodup
  refine (hle.and hne).map _ fun a b ⟨hab, hne⟩ => ?_
  exact Path.precedes_extend ((Path.partsLe_iff.1 hab).resolve_left hne)

/-! ## The order of listing -/

/-- **A disk listed in another order**, with the same working directory. -/
structure Relisted (d d' : Disk) : Prop where
  cwd : d.cwd = d'.cwd
  root : d.root.Relisted d'.root

/-- Two disks on which names lead to entries of the same kind. -/
def Alike (d d' : Disk) : Prop :=
  ∀ names, (d.root.at? names).map Entry.isDir = (d'.root.at? names).map Entry.isDir

theorem isSome_find? {entries : List (String × Entry)} (h : d.root.at? here = some (.dir entries))
    (n : String) : (Entry.find? n entries).isSome = (d.root.at? (here ++ [n])).isSome := by
  rw [Entry.at?_append, h, Option.bind_some, Entry.at?_cons]
  cases Entry.find? n entries <;> rfl

/-- What is where names lead, on disks that are alike: nothing, files, or directories that have the
same names. -/
theorem Alike.cases (h : Alike d d') (here : List String) :
    d.root.at? here = none ∧ d'.root.at? here = none ∨
    (∃ bytes bytes', d.root.at? here = some (.file bytes) ∧
      d'.root.at? here = some (.file bytes')) ∨
    ∃ entries entries', d.root.at? here = some (.dir entries) ∧
      d'.root.at? here = some (.dir entries') ∧
      ∀ n, (Entry.find? n entries).isSome = (Entry.find? n entries').isSome := by
  have hkind := h here
  cases hat : d.root.at? here with
  | none =>
    rw [hat, Option.map_none, eq_comm, Option.map_eq_none_iff] at hkind
    exact Or.inl ⟨rfl, hkind⟩
  | some e =>
    rw [hat, Option.map_some, eq_comm, Option.map_eq_some_iff] at hkind
    obtain ⟨e', hat', hkind⟩ := hkind
    rcases e with bytes | entries <;> rcases e' with bytes' | entries'
    · exact Or.inr (Or.inl ⟨bytes, bytes', rfl, hat'⟩)
    · cases hkind
    · cases hkind
    · refine Or.inr (Or.inr ⟨entries, entries', rfl, hat', fun n => ?_⟩)
      rw [isSome_find? hat, isSome_find? hat', ← Option.isSome_map, h, Option.isSome_map]

theorem Alike.follow (h : Alike d d') (here parts : List String) :
    d.follow here parts = d'.follow here parts := by
  induction parts generalizing here with
  | nil => rw [Disk.follow, Disk.follow]
  | cons n parts ih =>
    rw [Disk.follow, Disk.follow]
    obtain ⟨hat, hat'⟩ | ⟨bytes, bytes', hat, hat'⟩ | ⟨entries, entries', hat, hat', hnames⟩ :=
      h.cases here
    · rw [hat, hat']
    · rw [hat, hat']
    · rw [hat, hat']
      simp only [hnames, ih]

/-- Whether a path leads to a directory, if it leads anywhere. -/
def kind? (d : Disk) (p : Path) : Option Bool := (d.entry p).toOption.map Entry.isDir

theorem isFile_eq_kind? (d : Disk) (p : Path) : d.isFile p = (d.kind? p == some false) := by
  rw [isFile, kind?]
  rcases d.entry p with problem | ⟨bytes | entries⟩ <;> rfl

theorem isDirectory_eq_kind? (d : Disk) (p : Path) :
    d.isDirectory p = (d.kind? p == some true) := by
  rw [isDirectory, kind?]
  rcases d.entry p with problem | ⟨bytes | entries⟩ <;> rfl

theorem kind?_eq_bind (d : Disk) (p : Path) :
    d.kind? p = (d.place p).toOption.bind fun place => (d.root.at? place).map Entry.isDir := by
  rw [kind?, entry]
  cases d.place p with
  | error problem => rfl
  | ok place =>
    simp only [bind, Except.bind, Except.toOption, Option.bind_some]
    cases d.root.at? place <;> rfl

section

variable (h : Relisted d d') (hd : d.root.Proper) (p : Path)
include h hd

theorem Relisted.alike : Alike d d' := h.root.map_isDir_at? hd

theorem Relisted.kind?_eq : d.kind? p = d'.kind? p := by
  have hplace : d.place p = d'.place p := by
    rw [place, place, base, base, h.cwd]
    exact (h.alike hd).follow _ _
  rw [kind?_eq_bind, kind?_eq_bind, hplace]
  simp only [h.alike hd _]

/-- **A path leads to a file or not**, however directories are listed. -/
theorem Relisted.isFile_eq : d.isFile p = d'.isFile p := by
  rw [isFile_eq_kind?, isFile_eq_kind?, h.kind?_eq hd]

/-- **A path leads to a directory or not**, however directories are listed. -/
theorem Relisted.isDirectory_eq : d.isDirectory p = d'.isDirectory p := by
  rw [isDirectory_eq_kind?, isDirectory_eq_kind?, h.kind?_eq hd]

end

end Disk

end DefUse
