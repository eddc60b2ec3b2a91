import DefUse.Proofs.Check.Inert
import DefUse.Proofs.Json.Proper
import DefUse.Proofs.Lua.Source

/-!
# Proofs/Check/Files — which files come to a report

Whatever a path leads to, checking it comes to a report, but for four kinds of files (`Breaks`): a
path with a character that no path can have; a JSON document whose bytes are not UTF-8; one with a
whole number of too many digits; and one whose tree uses a field as something it is not before
anything else is wrong with it.  None of these has a message, so none can be reported, and the check
ends without a report.

All but the first have the suffix of a JSON document.  Source text is read whatever its bytes are,
and all that can be wrong with the tree of a source text is that something in it is not supported
(`exists_message_of_loadLuaTree`).
-/

namespace DefUse

open Step (stopsAll)

variable [Libraries] {d : Disk} {p : Path} {e : LoadError} {tree : Value}

/-- **A file breaks the check off**: its path is none; or it has the suffix of a JSON document and
is not UTF-8 or has a number that is too long; or it gives a tree and the first thing wrong with
that has no message. -/
inductive Breaks (d : Disk) (p : Path) : Prop
  | noPath (hnull : p.hasNull = true)
  | undecodable {bytes : List UInt8} {e : Utf8.Error} (hjson : p.foldedSuffix = ".json")
      (hread : d.read p = .ok bytes) (hdecode : Utf8.decode bytes = .error e)
  | tooLong {bytes : List UInt8} {text : String} {digits : Nat} (hjson : p.foldedSuffix = ".json")
      (hread : d.read p = .ok bytes) (hdecode : Utf8.decode bytes = .ok text)
      (hlong : Json.readDocument (String.ofList (Utf8.unifyLineEnds text.toList)) =
        .error (.tooLong digits))
  | unreported {tree : Value} {f : Failure} (hload : d.loadTree p = .ok tree)
      (hstop : (stopsAll (blockSteps tree)).head? = some f) (hf : f.message? = none)

/-- **A report answers for a file**: it names the file; it is a success exactly if the file gives a
tree that can be walked to its end; and otherwise its one error says why there is no tree, or what
the walk stopped at. -/
structure Answers (d : Disk) (p : Path) (r : Report) : Prop where
  path_eq : r.path = some p.text
  success_iff : r.success = true ↔
    r.errors = [] ∧ ∃ tree, d.loadTree p = .ok tree ∧ stopsAll (blockSteps tree) = []
  error : r.success = false → ∃ m, r.errors = [m] ∧
    ((∃ e, d.loadTree p = .error e ∧ e.message? = some m) ∨
      ∃ tree f, d.loadTree p = .ok tree ∧ (stopsAll (blockSteps tree)).head? = some f ∧
        f.message? = some m)

/-! ## Reading a file -/

omit [Libraries] in
/-- Where no path leads, the system says so. -/
theorem Disk.isSome_number?_of_follow {here parts : List String} {problem : FileProblem}
    (h : d.follow here parts = .error problem) : problem.number?.isSome = true := by
  fun_induction Disk.follow d here parts with
  | case1 => cases h
  | case2 | case3 =>
    rename_i ih
    exact ih h
  | case4 | case5 | case6 =>
    obtain rfl := Except.error.inj h
    rfl

omit [Libraries] in
/-- **What can go wrong in reading a file**: the path is none, or the system says what is wrong. -/
theorem Disk.read_eq_error {err : FileError} (h : d.read p = .error err) :
    p.hasNull = true ∧ err = ⟨.nullByte, p⟩ ∨ p.hasNull = false ∧ err.isSystem = true := by
  rw [Disk.read] at h
  split at h
  · rename_i hnull
    exact Or.inl ⟨hnull, (Except.error.inj h).symm⟩
  · rename_i hnull
    refine Or.inr ⟨by simpa using hnull, ?_⟩
    split at h
    · cases h
    · obtain rfl := Except.error.inj h
      rfl
    · rename_i problem hentry
      obtain rfl := Except.error.inj h
      rw [Disk.entry] at hentry
      cases hplace : d.place p with
      | error problem' =>
        rw [hplace] at hentry
        obtain rfl := Except.error.inj hentry
        exact isSome_number?_of_follow hplace
      | ok there =>
        rw [hplace] at hentry
        cases hat : d.root.at? there with
        | none =>
          simp only [bind, Except.bind, hat] at hentry
          obtain rfl := Except.error.inj hentry
          rfl
        | some e => simp [bind, Except.bind, hat, pure, Except.pure] at hentry

/-- **What the file of a JSON document is read to**: an error, and if that has no message, the
reason why not; or the document in it, if that is the root of a tree. -/
inductive ReadsDocument (d : Disk) (p : Path) : Except LoadError Json.Document → Prop
  | refused {e : LoadError} (hm : e.message? ≠ none) : ReadsDocument d p (.error e)
  | noPath (hnull : p.hasNull = true) : ReadsDocument d p (.error (.unreadable ⟨.nullByte, p⟩))
  | undecodable {bytes : List UInt8} {err : Utf8.Error} (hread : d.read p = .ok bytes)
      (hdecode : Utf8.decode bytes = .error err) : ReadsDocument d p (.error (.undecodable err))
  | tooLong {bytes : List UInt8} {text : String} {digits : Nat} (hread : d.read p = .ok bytes)
      (hdecode : Utf8.decode bytes = .ok text)
      (hlong : Json.readDocument (String.ofList (Utf8.unifyLineEnds text.toList)) =
        .error (.tooLong digits)) : ReadsDocument d p (.error (.tooLong digits))
  | document {bytes : List UInt8} {text : String} {document : Json.Document} {items : List Value}
      (hread : d.read p = .ok bytes) (hjson : Json.readDocument text = .ok document)
      (hkind : (kindOf document.toValue).isText "Chunk" = true)
      (hbody : document.toValue.field "body" = .list items) : ReadsDocument d p (.ok document)

omit [Libraries] in
theorem readsDocument (d : Disk) (p : Path) : ReadsDocument d p (d.loadJsonDocument p) := by
  rw [Disk.loadJsonDocument]
  rcases hread : d.read p with err | bytes <;> simp only [bind, Except.bind, Except.mapError]
  · rcases Disk.read_eq_error hread with ⟨hnull, rfl⟩ | ⟨-, hsystem⟩
    · exact .noPath hnull
    · exact .refused (by simp [LoadError.message?, hsystem])
  rcases hdecode : Utf8.decode bytes with err | text <;> simp only
  · exact .undecodable hread hdecode
  rcases hjson : Json.readDocument (String.ofList (Utf8.unifyLineEnds text.toList)) with
    err | document <;> simp only
  · cases err with
    | notADocument e => exact .refused nofun
    | tooLong digits => exact .tooLong hread hdecode hjson
  split
  · exact .refused nofun
  · rename_i hkind
    split
    · rename_i items hbody
      exact .document hread hjson (by simpa using hkind) hbody
    · exact .refused nofun

/-- **What a source text is read to**: an error that has a message unless the path is none, or its
tree. -/
inductive ReadsSource (d : Disk) (p : Path) : Except LoadError Value → Prop
  | refused {e : LoadError} (hm : e.message? ≠ none) : ReadsSource d p (.error e)
  | noPath (hnull : p.hasNull = true) : ReadsSource d p (.error (.unreadable ⟨.nullByte, p⟩))
  | tree {bytes : List UInt8} {text : String} {tree : Value} (hread : d.read p = .ok bytes)
      (htree : Lua.tree text = .ok tree) : ReadsSource d p (.ok tree)

theorem readsSource (d : Disk) (p : Path) : ReadsSource d p (d.loadLuaTree p) := by
  rw [Disk.loadLuaTree]
  rcases hread : d.read p with err | bytes <;> simp only [bind, Except.bind, Except.mapError]
  · rcases Disk.read_eq_error hread with ⟨hnull, rfl⟩ | ⟨-, hsystem⟩
    · exact .noPath hnull
    · exact .refused (by simp [LoadError.message?, hsystem])
  generalize htext : String.ofList (Utf8.unifyLineEnds (Utf8.decodeLossy bytes).toList) = text
  rcases htree : Lua.tree text with e | tree
  · refine .refused ?_
    unfold Lua.tree at htree
    split at htree
    · rename_i root _
      cases hconvert : Lua.convert root with
      | ok tree => rw [hconvert] at htree; cases htree
      | error r =>
        rw [hconvert] at htree
        obtain rfl := Except.error.inj htree
        exact nofun
    · obtain rfl := Except.error.inj htree
      exact nofun
  · exact .tree hread htree

theorem Disk.loadTree_eq_error_iff : d.loadTree p = .error e ↔ d.loadDocument p = .error e := by
  rw [Disk.loadTree]
  cases d.loadDocument p <;> simp [Except.map]

/-- A file that gives no tree and no message breaks the check off. -/
theorem breaks_of_loadTree (h : d.loadTree p = .error e) (hm : e.message? = none) :
    Breaks d p := by
  rw [Disk.loadTree_eq_error_iff, Disk.loadDocument] at h
  split at h
  · rename_i hsuffix
    have hreads := readsDocument d p
    rw [h] at hreads
    cases hreads with
    | refused hm' => exact absurd hm hm'
    | noPath hnull => exact .noPath hnull
    | undecodable hread hdecode => exact .undecodable hsuffix hread hdecode
    | tooLong hread hdecode hlong => exact .tooLong hsuffix hread hdecode hlong
  · have hreads := readsSource d p
    cases hload : d.loadLuaTree p with
    | ok tree => rw [hload] at h; cases h
    | error e' =>
      rw [hload] at h hreads
      obtain rfl := Except.error.inj h
      cases hreads with
      | refused hm' => exact absurd hm hm'
      | noPath hnull => exact .noPath hnull

theorem loadTree_of_hasNull (hnull : p.hasNull = true) :
    d.loadTree p = .error (.unreadable ⟨.nullByte, p⟩) := by
  have hread : d.read p = .error ⟨.nullByte, p⟩ := by rw [Disk.read, if_pos hnull]
  rw [Disk.loadTree_eq_error_iff, Disk.loadDocument]
  split
  · rw [Disk.loadJsonDocument, hread]
    rfl
  · rw [Disk.loadLuaTree, hread]
    rfl

theorem loadTree_of_undecodable {bytes : List UInt8} {err : Utf8.Error}
    (hjson : p.foldedSuffix = ".json") (hread : d.read p = .ok bytes)
    (hdecode : Utf8.decode bytes = .error err) : d.loadTree p = .error (.undecodable err) := by
  rw [Disk.loadTree_eq_error_iff, Disk.loadDocument, if_pos hjson, Disk.loadJsonDocument, hread]
  simp only [hdecode, bind, Except.bind, Except.mapError]

theorem loadTree_of_tooLong {bytes : List UInt8} {text : String} {digits : Nat}
    (hjson : p.foldedSuffix = ".json") (hread : d.read p = .ok bytes)
    (hdecode : Utf8.decode bytes = .ok text)
    (hlong : Json.readDocument (String.ofList (Utf8.unifyLineEnds text.toList)) =
      .error (.tooLong digits)) : d.loadTree p = .error (.tooLong digits) := by
  rw [Disk.loadTree_eq_error_iff, Disk.loadDocument, if_pos hjson, Disk.loadJsonDocument, hread]
  simp only [hdecode, hlong, bind, Except.bind, Except.mapError, LoadError.ofJson]

/-- **A file breaks the check off exactly if what is wrong with it first has no message.** -/
theorem breaks_iff :
    Breaks d p ↔ (∃ e, d.loadTree p = .error e ∧ e.message? = none) ∨
      ∃ tree f, d.loadTree p = .ok tree ∧ (stopsAll (blockSteps tree)).head? = some f ∧
        f.message? = none := by
  constructor
  · rintro (hnull | ⟨hjson, hread, hdecode⟩ | ⟨hjson, hread, hdecode, hlong⟩ | ⟨hload, hstop, hf⟩)
    · exact Or.inl ⟨_, loadTree_of_hasNull hnull, rfl⟩
    · exact Or.inl ⟨_, loadTree_of_undecodable hjson hread hdecode, rfl⟩
    · exact Or.inl ⟨_, loadTree_of_tooLong hjson hread hdecode hlong, rfl⟩
    · exact Or.inr ⟨_, _, hload, hstop, hf⟩
  · rintro (⟨e, hload, hm⟩ | ⟨tree, f, hload, hstop, hf⟩)
    · exact breaks_of_loadTree hload hm
    · exact .unreported hload hstop hf

/-- **Every stop of the tree of a source text has a message.** -/
theorem exists_message_of_loadLuaTree (hparser : Lua.SoundParser) (h : d.loadLuaTree p = .ok tree)
    {f : Failure} (hf : (stopsAll (blockSteps tree)).head? = some f) :
    ∃ m, f.message? = some m := by
  have hreads := readsSource d p
  rw [h] at hreads
  cases hreads with
  | tree hread htree =>
    obtain ⟨root, -, hconverted, hkind⟩ := Lua.converted_of_tree hparser htree
    have hnodes : tree.AllNodes Conforms := hconverted.nodes tree List.mem_cons_self
    have hshaped := shaped_of_conforms hnodes (isRecord_of_kindOf_eq hkind)
    have hdecides := decides_blockSteps (hshaped.block hkind (by decide))
    exact (hdecides.refusals f (List.mem_of_head? hf)).exists_message

/-- The tree of a source text is checked as it is. -/
theorem loadTree_of_not_json (hlua : p.foldedSuffix ≠ ".json") :
    d.loadTree p = d.loadLuaTree p := by
  rw [Disk.loadTree, Disk.loadDocument, if_neg hlua]
  cases d.loadLuaTree p <;> simp [Except.map]

/-- **Only a document or a path that is none breaks a check off.** -/
theorem Breaks.foldedSuffix_eq (hparser : Lua.SoundParser) (h : Breaks d p) :
    p.hasNull = true ∨ p.foldedSuffix = ".json" := by
  cases h with
  | noPath hnull => exact Or.inl hnull
  | undecodable hjson => exact Or.inr hjson
  | tooLong hjson => exact Or.inr hjson
  | unreported hload hstop hf =>
    refine Or.inr (by_contra fun hlua => ?_)
    rw [loadTree_of_not_json hlua] at hload
    obtain ⟨m, hm⟩ := exists_message_of_loadLuaTree hparser hload hstop
    cases hm.symm.trans hf

/-! ## Checking a file -/

theorem verifyFile_of_loadTree_ok (settings : Settings) (h : d.loadTree p = .ok tree) :
    verifyFile d (some settings) p =
      (Session.conclude (some p.text)
        ((Session.start settings tree).verify (some p.text)).2.findings
        (stopsAll (blockSteps tree)).head?).mapError .walk := by
  rw [verifyFile_some, checkFile_of_ok h, ← Session.fst_verify_start]
  rfl

/-- **Two files with one tree have one report**, but for the path in it. -/
theorem verifyFile_congr {d' : Disk} {q : Path} (settings : Settings) (h : d.loadTree p = .ok tree)
    (h' : d'.loadTree q = .ok tree) :
    verifyFile d' (some settings) q =
      (verifyFile d (some settings) p).map fun r => { r with path := some q.text } := by
  rw [verifyFile_of_loadTree_ok settings h, verifyFile_of_loadTree_ok settings h',
    Session.snd_verify, Session.snd_verify]
  cases (stopsAll (blockSteps tree)).head? with
  | none => rfl
  | some f => cases hm : f.message? <;> simp only [Session.conclude, hm] <;> rfl

theorem verifyFile_of_loadTree_error (settings : Settings) (h : d.loadTree p = .error e) :
    verifyFile d (some settings) p =
      match e.message? with
      | some m => .ok (.failed (some p.text) m)
      | none => .error (.load e) := by
  rw [verifyFile_some, checkFile_of_error h]
  cases e.message? <;> rfl

/-- **Checking a file comes to a report that answers for it, or the file breaks the check off.** -/
theorem verifyFile_cases (d : Disk) (settings : Settings) (p : Path) :
    (¬ Breaks d p ∧ ∃ r, verifyFile d (some settings) p = .ok r ∧ Answers d p r) ∨
      (Breaks d p ∧ ∃ e, verifyFile d (some settings) p = .error e) := by
  rw [breaks_iff]
  cases hload : d.loadTree p with
  | error e =>
    have hverify := verifyFile_of_loadTree_error settings hload
    cases hm : e.message? with
    | none =>
      rw [hm] at hverify
      exact Or.inr ⟨Or.inl ⟨e, rfl, hm⟩, _, hverify⟩
    | some m =>
      rw [hm] at hverify
      refine Or.inl ⟨by simp [hm], _, hverify, rfl, ?_, fun _ => ⟨m, rfl, Or.inl ⟨e, hload, hm⟩⟩⟩
      simp [Report.failed]
  | ok tree =>
    have hverify := verifyFile_of_loadTree_ok settings hload
    cases hstop : (stopsAll (blockSteps tree)).head? with
    | none =>
      rw [hstop] at hverify
      refine Or.inl ⟨by simp [hstop], _, hverify, rfl, ?_, by simp⟩
      simpa using ⟨tree, hload, List.head?_eq_none_iff.1 hstop⟩
    | some f =>
      cases hm : f.message? with
      | none =>
        simp only [hstop, Session.conclude, hm] at hverify
        exact Or.inr ⟨Or.inr ⟨tree, f, rfl, hstop, hm⟩, _, hverify⟩
      | some m =>
        simp only [hstop, Session.conclude, hm] at hverify
        refine Or.inl ⟨by simp [hstop, hm], _, hverify, rfl, by simp, fun _ =>
          ⟨m, rfl, Or.inr ⟨tree, f, hload, hstop, hm⟩⟩⟩

end DefUse
