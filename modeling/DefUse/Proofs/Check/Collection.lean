import Mathlib.Data.List.Forall2
import Mathlib.Data.List.TakeWhile
import DefUse.Check.File
import DefUse.Proofs.File.Listing

/-!
# Proofs/Check/Collection — the files that paths stand for

A directory stands for the files below it that can be checked, and any other path for itself
(`StandsFor`).  What a file is called decides whether it can be checked: something, a dot, and `lua`
or `json` in capital or small letters (`Path.EndsIn`), so that `.lua` and `a.lua.` cannot, and
`..LUA` can.

The files of a directory come in order, so they are determined by which they are
(`StandsFor.unique`), and the order in which directories are listed does not matter.
-/

namespace DefUse

/-! ## Suffixes -/

namespace Path

variable {n : String} {stem rest : List Char} {p : Path}

theorem plain_reverse (h : '.' ∉ rest) : ∀ c ∈ rest.reverse, decide (c ≠ '.') = true :=
  fun _ hc => decide_eq_true fun hdot => h (hdot ▸ List.mem_reverse.1 hc)

/-- **A suffix starts at the last dot**, and is empty if nothing stands before or behind that. -/
theorem suffixOf_of_last_dot (h : n.toList = stem ++ '.' :: rest) (hrest : '.' ∉ rest) :
    suffixOf n = if stem = [] ∨ rest = [] then "" else String.ofList ('.' :: rest) := by
  have hback : n.toList.reverse = rest.reverse ++ '.' :: stem.reverse := by simp [h]
  rw [suffixOf, hback, List.takeWhile_append_of_pos (plain_reverse hrest),
    List.dropWhile_append_of_pos (plain_reverse hrest)]
  simp

/-- Without a dot there is no suffix. -/
theorem suffixOf_of_no_dot (h : '.' ∉ n.toList) : suffixOf n = "" := by
  have hstem : n.toList.reverse.dropWhile (fun c => decide (c ≠ '.')) = [] :=
    List.dropWhile_eq_nil_iff.2 (plain_reverse h)
  rw [suffixOf, hstem]
  exact if_pos (Or.inl (Nat.zero_le 1))

/-- A name with a dot, cut at the last one. -/
theorem exists_last_dot (h : '.' ∈ n.toList) :
    ∃ stem rest, n.toList = stem ++ '.' :: rest ∧ '.' ∉ rest := by
  obtain ⟨rest, stem, hback, hrest⟩ := List.eq_append_cons_of_mem (List.mem_reverse.2 h)
  refine ⟨stem.reverse, rest.reverse, ?_, by simpa using hrest⟩
  simpa using congrArg List.reverse hback

/-- **A name ends in a suffix**, in capital or small letters: before the dot there is something. -/
def EndsIn (p : Path) (letters : String) : Prop :=
  ∃ stem rest : List Char, p.name.toList = stem ++ '.' :: rest ∧ stem ≠ [] ∧
    rest.map Char.toLower = letters.toList

/-- A suffix is compared letter by letter, large or small. -/
theorem foldedSuffix_eq_iff {letters : String} (hdot : '.' ∉ letters.toList)
    (hne : letters.toList ≠ []) :
    p.foldedSuffix = String.ofList ('.' :: letters.toList) ↔ p.EndsIn letters := by
  rw [foldedSuffix, String.ofList_inj, suffix]
  constructor
  · intro h
    by_cases hname : '.' ∈ p.name.toList
    · obtain ⟨stem, rest, hcut, hrest⟩ := exists_last_dot hname
      rw [suffixOf_of_last_dot hcut hrest] at h
      split_ifs at h with hempty
      · simp at h
      · rw [String.toList_ofList, List.map_cons] at h
        exact ⟨stem, rest, hcut, fun hstem => hempty (Or.inl hstem), (List.cons.inj h).2⟩
    · rw [suffixOf_of_no_dot hname] at h
      simp at h
  · rintro ⟨stem, rest, hcut, hstem, hletters⟩
    have hrest : '.' ∉ rest := fun hmem =>
      hdot (hletters ▸ List.mem_map.2 ⟨'.', hmem, by decide⟩)
    have hsome : ¬ (stem = [] ∨ rest = []) := by
      rintro (hnil | rfl)
      · exact hstem hnil
      · exact hne hletters.symm
    rw [suffixOf_of_last_dot hcut hrest, if_neg hsome, String.toList_ofList, List.map_cons,
      hletters]
    rfl

/-- **A file that can be checked**, by its name. -/
def IsChecked (p : Path) : Prop := p.EndsIn "lua" ∨ p.EndsIn "json"

/-- The suffixes that are looked for are those of files that are checked. -/
theorem contains_foldedSuffix_iff :
    checkedSuffixes.contains p.foldedSuffix = true ↔ p.IsChecked := by
  have hlua : ".lua" = String.ofList ('.' :: "lua".toList) := by decide
  have hjson : ".json" = String.ofList ('.' :: "json".toList) := by decide
  rw [List.contains_iff_mem, checkedSuffixes, List.mem_cons, List.mem_singleton, hlua, hjson,
    foldedSuffix_eq_iff (by decide) (by decide), foldedSuffix_eq_iff (by decide) (by decide),
    IsChecked]

end Path

/-! ## Collecting -/

variable {d d' : Disk} {p : Path} {files files' : List Path}

/-- **The files that a path stands for**: those below it that can be checked, in order, if it is a
directory, and the path itself if it is not. -/
inductive StandsFor (d : Disk) (p : Path) : List Path → Prop
  | itself (h : d.isDirectory p = false) : StandsFor d p [p]
  | directory {files : List Path} (h : d.isDirectory p = true)
      (increasing : files.Pairwise Path.Precedes)
      (mem_iff : ∀ q, q ∈ files ↔ q.IsBelow p ∧ d.isFile q = true ∧ q.IsChecked) :
      StandsFor d p files

/-- No file is collected twice for a path. -/
theorem StandsFor.nodup (h : StandsFor d p files) : files.Nodup := by
  cases h with
  | itself h => exact List.nodup_singleton p
  | directory h increasing mem_iff => exact Path.nodup_of_precedes increasing

/-- **A path stands for one list of files.** -/
theorem StandsFor.unique (h : StandsFor d p files) (h' : StandsFor d p files') :
    files = files' := by
  cases h with
  | itself h =>
    cases h' with
    | itself h' => rfl
    | directory h' => rw [h] at h'; cases h'
  | directory h increasing mem_iff =>
    cases h' with
    | itself h' => rw [h'] at h; cases h
    | directory h' increasing' mem_iff' =>
      exact Path.eq_of_precedes increasing increasing' fun q => (mem_iff q).trans (mem_iff' q).symm

/-- In which order a directory is listed does not matter. -/
theorem StandsFor.relisted (h : StandsFor d p files) (hlist : d.Relisted d')
    (hd : d.root.Proper) : StandsFor d' p files := by
  cases h with
  | itself h => exact .itself (hlist.isDirectory_eq hd p ▸ h)
  | directory h increasing mem_iff =>
    refine .directory (hlist.isDirectory_eq hd p ▸ h) increasing fun q => ?_
    rw [mem_iff, hlist.isFile_eq hd]

/-- The files that one path adds to a collection. -/
def collected (d : Disk) (p : Path) : List Path :=
  if d.isDirectory p then (d.filesUnder p).filter fun q => checkedSuffixes.contains q.foldedSuffix
  else [p]

theorem collectFiles_eq_flatten (d : Disk) (paths : List Path) :
    collectFiles d paths = (paths.map (collected d)).flatten := List.flatMap_def

/-- **What is collected for a path is what it stands for.** -/
theorem standsFor_collected (hd : d.root.Proper) (p : Path) : StandsFor d p (collected d p) := by
  rw [collected]
  split_ifs with h
  · refine .directory h ((d.pairwise_filesUnder hd h).filter _) fun q => ?_
    rw [List.mem_filter, Path.contains_foldedSuffix_iff, d.mem_filesUnder_iff hd h, and_assoc]
  · exact .itself (Bool.eq_false_iff.2 h)

/-- **Collecting files loses and repeats nothing**: the files that the paths stand for, one path
after the other, in whatever order directories are listed. -/
theorem collectFiles_standsFor (hd : d.root.Proper) (paths : List Path) :
    (∃ pieces, List.Forall₂ (StandsFor d) paths pieces ∧ (∀ files ∈ pieces, files.Nodup) ∧
      collectFiles d paths = pieces.flatten) ∧
    ∀ d', d.Relisted d' → collectFiles d' paths = collectFiles d paths := by
  constructor
  · refine ⟨paths.map (collected d), ?_, fun files hfiles => ?_, collectFiles_eq_flatten d paths⟩
    · rw [List.forall₂_map_right_iff, List.forall₂_same]
      exact fun p _ => standsFor_collected hd p
    · obtain ⟨p, -, rfl⟩ := List.mem_map.1 hfiles
      exact (standsFor_collected hd p).nodup
  · intro d' hlist
    have hsame (p : Path) : collected d' p = collected d p :=
      (standsFor_collected (hlist.root.proper hd) p).unique
        ((standsFor_collected hd p).relisted hlist hd)
    rw [collectFiles_eq_flatten, collectFiles_eq_flatten, List.map_congr_left fun p _ => hsame p]

/-- A folder: a directory that is called like a script, names that are no more than a suffix, and a
directory whose name another one goes on from. -/
def folder (listed : List (String × Entry) → List (String × Entry)) : Disk :=
  { root := .dir [("w", .dir (listed
      [("sub-x", .dir [("q.lua", .file [])]),
       ("sub", .dir (listed [("z.JSON", .file []), (".lua", .file []), ("a.lua.", .file [])])),
       ("d.lua", .dir [("x.txt", .file [])]),
       ("n.txt", .file [])]))]
    cwd := ["w"] }

theorem proper_folder : (folder id).root.Proper := by
  have hleaf (n : String) (hn : n ≠ "..") : (Entry.dir [(n, .file [])]).Proper :=
    .dir (List.nodup_singleton n) (by simpa using hn) (by simpa using .file [])
  have hsub : (Entry.dir [("z.JSON", .file []), (".lua", .file []), ("a.lua.", .file [])]).Proper :=
    .dir (by decide) (by decide) (by simpa using .file [])
  refine .dir (by decide) (by decide)
    (List.forall_mem_singleton.2 (.dir (by decide) (by decide) ?_))
  simp only [id, List.forall_mem_cons]
  exact ⟨hleaf _ (by decide), hsub, hleaf _ (by decide), .file [], by simp⟩

theorem relisted_folder : (folder id).Relisted (folder List.reverse) := by
  have hsub : Entry.Relisted
      (.dir [("z.JSON", .file []), (".lua", .file []), ("a.lua.", .file [])])
      (.dir [("z.JSON", .file []), (".lua", .file []), ("a.lua.", .file [])].reverse) :=
    .perm (List.reverse_perm _).symm
  exact ⟨rfl, .inside "w" [] [] (.trans (.inside "sub" [("sub-x", .dir [("q.lua", .file [])])]
    [("d.lua", .dir [("x.txt", .file [])]), ("n.txt", .file [])] hsub)
    (.perm (List.reverse_perm _).symm))⟩

theorem collectFiles_standsFor_folder :
    (folder id).root.Proper ∧ (folder id).Relisted (folder List.reverse) ∧
    (∃ pieces, List.Forall₂ (StandsFor (folder id)) [.here, .ofText "n.txt"] pieces ∧
      (∀ files ∈ pieces, files.Nodup) ∧
      collectFiles (folder id) [.here, .ofText "n.txt"] = pieces.flatten) ∧
    collectFiles (folder List.reverse) [.here, .ofText "n.txt"] =
      collectFiles (folder id) [.here, .ofText "n.txt"] :=
  have hall := collectFiles_standsFor proper_folder [.here, .ofText "n.txt"]
  ⟨proper_folder, relisted_folder, hall.1, hall.2 _ relisted_folder⟩

end DefUse
