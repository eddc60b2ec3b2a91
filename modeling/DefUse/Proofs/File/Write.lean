import Mathlib.Tactic.SplitIfs
import DefUse.File.Tree

/-!
# Proofs/File/Write — a file reads back

Putting a file where there is no directory takes nothing away that a path could lead through: every
directory is still one, and has the names it had (`exists_dir_of_putAt`).  So a path leads where it
led before, the one that was written to leads to the file, and reading it gives the bytes.
-/

namespace DefUse

namespace Entry

variable {m n : String} {e root : Entry} {entries : List (String × Entry)} {bytes : List UInt8}

/-! ## One directory -/

theorem find?_put_self (n : String) (e : Entry) (entries : List (String × Entry)) :
    find? n (put n e entries) = some e := by
  induction entries with
  | nil => rw [put, find?, if_pos rfl]
  | cons entry rest ih =>
    obtain ⟨k, f⟩ := entry
    rw [put]
    split
    · rw [find?, if_pos rfl]
    · rename_i hk
      rw [find?, if_neg hk, ih]

theorem find?_put_of_ne (h : m ≠ n) : find? m (put n e entries) = find? m entries := by
  induction entries with
  | nil => exact if_neg (Ne.symm h)
  | cons entry rest ih =>
    obtain ⟨k, f⟩ := entry
    rw [put]
    split
    · rename_i hk
      rw [find?, find?, if_neg (Ne.symm h), if_neg (hk ▸ Ne.symm h)]
    · rw [find?, find?, ih]

/-- A directory has all the names that another one has. -/
def Covers (entries' entries : List (String × Entry)) : Prop :=
  ∀ m, (find? m entries).isSome = true → (find? m entries').isSome = true

theorem covers_put (n : String) (e : Entry) (entries : List (String × Entry)) :
    Covers (put n e entries) entries := by
  intro m hm
  by_cases hmn : m = n
  · rw [hmn, find?_put_self]
    rfl
  · rwa [find?_put_of_ne hmn]

/-! ## Below a directory -/

theorem at?_cons (n : String) (names : List String) (entries : List (String × Entry)) :
    at? (n :: names) (dir entries) = (find? n entries).bind (at? names) := rfl

theorem at?_append (names more : List String) (root : Entry) :
    at? (names ++ more) root = (at? names root).bind (at? more) := by
  induction names generalizing root with
  | nil => rfl
  | cons n names ih =>
    cases root with
    | file bytes => rfl
    | dir entries =>
      rw [List.cons_append, at?_cons, at?_cons]
      cases find? n entries with
      | none => rfl
      | some child => exact ih child

theorem exists_dir_of_at? {names : List String} (h : at? (n :: names) root = some e) :
    ∃ entries child, root = dir entries ∧ find? n entries = some child ∧
      at? names child = some e := by
  cases root with
  | file bytes => cases h
  | dir entries =>
    obtain ⟨child, hchild, hrest⟩ := Option.bind_eq_some_iff.1 h
    exact ⟨entries, child, rfl, hchild, hrest⟩

/-- **What is put under a name of a directory is there.** -/
theorem at?_putAt_self {here : List String} (h : at? here root = some (dir entries)) (n : String)
    (e : Entry) : at? (here ++ [n]) (putAt (here ++ [n]) root e) = some e := by
  induction here generalizing root with
  | nil =>
    obtain rfl : root = dir entries := Option.some.inj h
    have hput : putAt ([] ++ [n]) (dir entries) e = dir (put n e entries) := by
      rw [List.nil_append, putAt]
      cases find? n entries <;> rfl
    rw [hput, List.nil_append, at?_cons, find?_put_self]
    rfl
  | cons m here ih =>
    obtain ⟨entries', child, rfl, hchild, hrest⟩ := exists_dir_of_at? h
    rw [List.cons_append, putAt, hchild]
    dsimp only
    rw [at?_cons, find?_put_self]
    exact ih hrest

/-- Where names lead on from a directory, something is put below the first of them or, if that is
not there, at most beside the others. -/
theorem putAt_cases (n : String) (target : List String) (entries : List (String × Entry))
    (e : Entry) :
    (∃ child, find? n entries = some child ∧
      putAt (n :: target) (dir entries) e = dir (put n (putAt target child e) entries)) ∨
    find? n entries = none ∧ (putAt (n :: target) (dir entries) e = dir (put n e entries) ∨
      putAt (n :: target) (dir entries) e = dir entries) := by
  rw [putAt]
  cases hn : find? n entries with
  | some child => exact Or.inl ⟨child, rfl, rfl⟩
  | none =>
    refine Or.inr ⟨rfl, ?_⟩
    dsimp only
    split
    · exact Or.inl rfl
    · exact Or.inr rfl

/-- **Every directory is still one**, with the names that it had, after a file was put where there
was no directory. -/
theorem exists_dir_of_putAt {target : List String}
    (htarget : ∀ entries, at? target root ≠ some (dir entries)) {names : List String}
    (h : at? names root = some (dir entries)) :
    ∃ entries', at? names (putAt target root (file bytes)) = some (dir entries') ∧
      Covers entries' entries := by
  induction names generalizing target root with
  | nil =>
    obtain rfl : root = dir entries := Option.some.inj h
    cases target with
    | nil => exact absurd rfl (htarget entries)
    | cons n target =>
      rcases putAt_cases n target entries (file bytes) with ⟨child, -, hput⟩ | ⟨-, hput | hput⟩
      · exact ⟨_, congrArg some hput, covers_put _ _ _⟩
      · exact ⟨_, congrArg some hput, covers_put _ _ _⟩
      · exact ⟨_, congrArg some hput, fun _ => id⟩
  | cons m names ih =>
    obtain ⟨outer, child, rfl, hchild, hrest⟩ := exists_dir_of_at? h
    cases target with
    | nil => exact absurd rfl (htarget outer)
    | cons n target =>
      -- below another name than the first one nothing has changed
      have hother {outer'} (hput : putAt (n :: target) (dir outer) (file bytes) = dir outer')
          (hm : find? m outer' = find? m outer) :
          ∃ entries', at? (m :: names) (putAt (n :: target) (dir outer) (file bytes)) =
            some (dir entries') ∧ Covers entries' entries := by
        rw [hput, at?_cons, hm, hchild]
        exact ⟨entries, hrest, fun _ => id⟩
      rcases putAt_cases n target outer (file bytes) with ⟨next, hn, hput⟩ | ⟨hn, hput | hput⟩
      · by_cases hmn : m = n
        · subst hmn
          obtain rfl : next = child := Option.some.inj (hn.symm.trans hchild)
          rw [hput, at?_cons, find?_put_self]
          refine ih (fun inner hinner => htarget inner ?_) hrest
          rw [at?_cons, hn]
          exact hinner
        · exact hother hput (find?_put_of_ne hmn)
      · refine hother hput (find?_put_of_ne ?_)
        rintro rfl
        cases hn.symm.trans hchild
      · exact hother hput rfl

end Entry

namespace Disk

variable {d d' : Disk} {p : Path} {bytes : List UInt8}

/-! ## Paths -/

theorem follow_parent {here parts : List String} {entries : List (String × Entry)}
    (h : d.root.at? here = some (.dir entries)) :
    d.follow here (".." :: parts) = d.follow here.dropLast parts := by
  rw [follow, h]
  rfl

theorem follow_child {here parts : List String} {n : String} {entries : List (String × Entry)}
    (h : d.root.at? here = some (.dir entries)) (hn : n ≠ "..")
    (hfind : (Entry.find? n entries).isSome = true) :
    d.follow here (n :: parts) = d.follow (here ++ [n]) parts := by
  rw [follow, h]
  dsimp only
  rw [if_neg hn, if_pos hfind]

/-- A path leads on from a directory only. -/
theorem follow_cases {here parts place : List String} {n : String}
    (h : d.follow here (n :: parts) = .ok place) :
    ∃ entries, d.root.at? here = some (.dir entries) ∧
      (n = ".." ∧ d.follow here.dropLast parts = .ok place ∨
        n ≠ ".." ∧ (Entry.find? n entries).isSome = true ∧
          d.follow (here ++ [n]) parts = .ok place) := by
  rw [follow] at h
  cases hroot : d.root.at? here with
  | none => rw [hroot] at h; cases h
  | some e =>
    cases e with
    | file bytes => rw [hroot] at h; cases h
    | dir entries =>
      rw [hroot] at h
      dsimp only at h
      split_ifs at h with hup hfind
      · exact ⟨entries, rfl, Or.inl ⟨hup, h⟩⟩
      · exact ⟨entries, rfl, Or.inr ⟨hup, hfind, h⟩⟩

theorem follow_append {here mid parts : List String} (more : List String)
    (h : d.follow here parts = .ok mid) : d.follow here (parts ++ more) = d.follow mid more := by
  induction parts generalizing here with
  | nil =>
    obtain rfl : here = mid := Except.ok.inj h
    rfl
  | cons n parts ih =>
    obtain ⟨entries, hdir, ⟨rfl, hrest⟩ | ⟨hn, hfind, hrest⟩⟩ := follow_cases h
    · rw [List.cons_append, follow_parent hdir, ih hrest]
    · rw [List.cons_append, follow_child hdir hn hfind, ih hrest]

/-- A disk has every directory of another one, with all its names. -/
def Extends (d' d : Disk) : Prop :=
  ∀ {names entries}, d.root.at? names = some (.dir entries) →
    ∃ entries', d'.root.at? names = some (.dir entries') ∧ Entry.Covers entries' entries

/-- **A path leads where it led.** -/
theorem Extends.follow (h : Extends d' d) {here parts place : List String}
    (hfollow : d.follow here parts = .ok place) : d'.follow here parts = .ok place := by
  induction parts generalizing here with
  | nil => exact hfollow
  | cons n parts ih =>
    obtain ⟨entries, hdir, hstep⟩ := follow_cases hfollow
    obtain ⟨entries', hdir', hcovers⟩ := h hdir
    rcases hstep with ⟨rfl, hrest⟩ | ⟨hn, hfind, hrest⟩
    · rw [follow_parent hdir', ih hrest]
    · rw [follow_child hdir' hn (hcovers n hfind), ih hrest]

/-! ## Writing -/

/-- Where a path can be put: it is one, its last name is no `..`, and a directory holds it. -/
theorem slot_cases {here : List String} {n : String} (h : d.slot p = .ok (here, n)) :
    p.hasNull = false ∧ p.parts = p.parent.parts ++ [n] ∧ n ≠ ".." ∧ d.place p.parent = .ok here ∧
      ∃ entries, d.root.at? here = some (.dir entries) := by
  unfold slot at h
  cases hnull : p.hasNull with
  | true => rw [hnull, if_pos rfl] at h; cases h
  | false =>
    rw [hnull, if_neg Bool.false_ne_true] at h
    cases hlast : p.parts.getLast? with
    | none => rw [hlast] at h; cases h
    | some k =>
      rw [hlast] at h
      cases hplace : d.place p.parent with
      | error problem => rw [hplace] at h; cases h
      | ok place =>
        rw [hplace] at h
        simp only [bind, Except.bind] at h
        split at h
        · rename_i entries hdir
          split at h
          · cases h
          · obtain ⟨rfl, rfl⟩ := Prod.mk.inj (Except.ok.inj h)
            obtain ⟨before, hparts⟩ := List.getLast?_eq_some_iff.1 hlast
            exact ⟨rfl, by simp [Path.parent, hparts], ‹_›, rfl, entries, hdir⟩
        · cases h
        · cases h

/-- What a file that could be written to was: a name of a directory, and no directory itself. -/
theorem write_cases (h : d.write p bytes = .ok d') :
    ∃ here n, d.slot p = .ok (here, n) ∧
      (∀ entries, d.root.at? (here ++ [n]) ≠ some (.dir entries)) ∧
      d' = { d with root := d.root.putAt (here ++ [n]) (.file bytes) } := by
  unfold write at h
  cases hslot : d.slot p with
  | error problem => rw [hslot] at h; cases h
  | ok place =>
    obtain ⟨here, n⟩ := place
    rw [hslot] at h
    dsimp only at h
    split at h
    · cases h
    · rename_i htarget
      exact ⟨here, n, rfl, htarget, (Except.ok.inj h).symm⟩

/-- Whether a path can be written to does not depend on the bytes. -/
theorem exists_write (h : d.write p bytes = .ok d') (bytes' : List UInt8) :
    ∃ d'', d.write p bytes' = .ok d'' := by
  obtain ⟨here, n, hslot, htarget, -⟩ := write_cases h
  refine ⟨{ d with root := d.root.putAt (here ++ [n]) (.file bytes') }, ?_⟩
  rw [write, hslot]
  dsimp only
  split
  · exact absurd ‹_› (htarget _)
  · rfl

/-- **A file that was written reads back.** -/
theorem read_of_write (h : d.write p bytes = .ok d') : d'.read p = .ok bytes := by
  obtain ⟨here, n, hslot, htarget, hd'⟩ := write_cases h
  obtain ⟨hnull, hparts, hn, hplace, entries, hdir⟩ := slot_cases hslot
  have hextends : Extends d' d := by
    intro names entries hnames
    rw [hd']
    exact Entry.exists_dir_of_putAt htarget hnames
  have hfile : d'.root.at? (here ++ [n]) = some (.file bytes) := by
    rw [hd']
    exact Entry.at?_putAt_self hdir n (.file bytes)
  obtain ⟨entries', hdir', -⟩ := hextends hdir
  have hfind : Entry.find? n entries' = some (.file bytes) := by
    rw [Entry.at?_append, hdir', Option.bind_some, Entry.at?_cons] at hfile
    obtain ⟨e, he, hrest⟩ := Option.bind_eq_some_iff.1 hfile
    exact Option.some.inj hrest ▸ he
  have hbase : d'.base p = d.base p.parent := by rw [hd']; rfl
  have hlead : d'.place p = .ok (here ++ [n]) := by
    rw [place, hparts, hbase, follow_append [n] (hextends.follow hplace),
      follow_child hdir' hn (by rw [hfind]; rfl)]
    rfl
  rw [read, hnull, if_neg Bool.false_ne_true, entry, hlead]
  simp only [bind, Except.bind, hfile]
  rfl

/-- **A path can be written to**: the directories that lead to it can be made, and then some file
can be put there. -/
def Writable (d : Disk) (p : Path) : Prop :=
  ∃ made, d.makeDirectories p.parent p.parts.length = .ok made ∧
    ∃ bytes after, made.write p bytes = .ok after

end Disk

end DefUse
