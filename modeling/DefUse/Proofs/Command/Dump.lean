import DefUse.Proofs.Check.Files
import DefUse.Proofs.Command.Printing
import DefUse.Proofs.File.Write
import DefUse.Proofs.Json.Ascii
import DefUse.Proofs.Text.Utf8

/-!
# Proofs/Command/Dump — a dumped tree is the tree of the file

`dump-tree` writes the tree of a file as a document.  Here its three round trips are put in a row:
the bytes on the disk, the text in the bytes, the document in the text.  What makes them fit is that
every tree that can be loaded is proper, whether it was read from a document or from a source text,
and that what a document must have to be a tree is had by all of them.

A document can say all that a tree can, but for one thing: a whole number of too many digits is
neither written nor read.  No tree that was read from a document has one.  A source text may, since
the number of digits of a hexadecimal number is not limited, and then nothing is dumped.
-/

namespace DefUse

open Job

section

variable [Libraries] {d disk : Disk} {p out : Path} {tree : Json.Document}

/-! ## What a loaded tree is -/

/-- The root of a tree: a proper document of kind `Chunk` with a list of statements. -/
structure IsTree (tree : Json.Document) : Prop where
  kind : (kindOf tree.toValue).isText "Chunk" = true
  body : ∃ items, tree.toValue.field "body" = .list items
  proper : tree.Proper

omit [Libraries] in
/-- What a syntax is converted to has a list of statements. -/
theorem Lua.exists_body_of_convert {root : Root} {v : Value} (h : convert root = .ok v) :
    ∃ items, v.field "body" = .list items := by
  cases root with
  | chunk body | body body =>
    obtain ⟨items, -, hv⟩ := bind_eq_ok_iff.1 h
    obtain rfl := Except.ok.inj hv
    exact ⟨items, rfl⟩

/-- **Every tree that is loaded is one**, and it is loaded from a file that is read. -/
theorem isTree_of_loadDocument (hparser : Lua.SoundParser) (h : d.loadDocument p = .ok tree) :
    IsTree tree ∧ (p.foldedSuffix = ".json" → tree.isWritable = true) ∧
      ∃ bytes, d.read p = .ok bytes := by
  rw [Disk.loadDocument] at h
  split at h
  · have hreads := readsDocument d p
    rw [h] at hreads
    cases hreads with
    | document hread hjson hkind hbody =>
      have hreadable := Json.readable_of_readDocument hjson
      exact ⟨⟨hkind, ⟨_, hbody⟩, hreadable.proper⟩, fun _ => hreadable.isWritable, _, hread⟩
  · rename_i hlua
    obtain ⟨v, hload, rfl⟩ := map_eq_ok_iff.1 h
    have hreads := readsSource d p
    rw [hload] at hreads
    cases hreads with
    | tree hread htree =>
      obtain ⟨root, -, hconverted, hkind⟩ := Lua.converted_of_tree hparser htree
      obtain ⟨root, -, hconvert⟩ := Lua.tree_eq_ok_iff.1 htree
      obtain ⟨items, hbody⟩ := Lua.exists_body_of_convert hconvert
      have hproper : v.Proper := hconverted.proper v List.mem_cons_self
      refine ⟨⟨?_, ⟨items, ?_⟩, Json.Document.proper_ofValue hproper⟩,
        fun hjson => absurd hjson hlua, _, hread⟩
      · rw [Json.Document.toValue_ofValue, hkind]
        rfl
      · rw [Json.Document.toValue_ofValue, hbody]

/-! ## Loading a dump -/

/-- The text that is dumped. -/
def dumpText (tree : Json.Document) : String := Json.render (.indented 0) tree ++ "\n"

/-- **A tree is loaded from its dump.** -/
theorem loadDocument_of_dump (htree : IsTree tree) (hwritable : tree.isWritable = true)
    (hsuffix : p.foldedSuffix = ".json")
    (hread : d.read p = .ok (Utf8.encode (dumpText tree))) : d.loadDocument p = .ok tree := by
  have htext : (dumpText tree).toList = (Json.render (.indented 0) tree).toList ++ ['\n'] :=
    String.toList_append
  have hshown : Json.AllShown (dumpText tree).toList := by
    rw [htext]
    exact (Json.allShown_render htree.proper _).append (by decide)
  have hjson : Json.readDocument (dumpText tree) = .ok tree :=
    Json.readDocument_render ⟨htree.proper, hwritable⟩ _ (by simp [Json.Gap, Json.isSpace]) htext
  obtain ⟨items, hbody⟩ := htree.body
  rw [Disk.loadDocument, if_pos hsuffix, Disk.loadJsonDocument, hread]
  simp only [bind, Except.bind, Except.mapError, Utf8.decode_encode,
    Utf8.unifyLineEnds_of_notMem hshown.notMem_return, String.ofList_toList, hjson, htree.kind,
    hbody]
  rfl

/-! ## Dumping -/

omit [Libraries] in
theorem pathExists_of_read {bytes : List UInt8} (h : d.read p = .ok bytes) :
    d.pathExists p = true := by
  rw [Disk.pathExists]
  cases hentry : d.entry p with
  | ok e => rfl
  | error problem =>
    rw [Disk.read, hentry] at h
    split at h <;> cases h

omit [Libraries] in
/-- Writing where one can. -/
theorem run_writeFile {w : World} (hwritable : w.disk.Writable out) (text : String) :
    ∃ after, (writeFile out text).run w = (.ok (), { w with disk := after }) ∧
      after.read out = .ok (Utf8.encode text) := by
  obtain ⟨made, hmade, bytes, written, hwritten⟩ := hwritable
  obtain ⟨after, hafter⟩ := Disk.exists_write hwritten (Utf8.encode text)
  refine ⟨after, ?_, Disk.read_of_write hafter⟩
  rw [writeFile, run_bind, run_get]
  simp only [hmade, run_bind, run_set, hafter]

/-- What is put on the console about a tree that was written. -/
def dumpedItems (routing : Routing) (p out : Path) : List Shown :=
  [routing.shown (.message .success s!"Wrote tree for {p.name} to {out.text}")]

/-- **A tree that can be written is**, whether or not the message about it can be shown. -/
theorem run_dumpCommand_of_isWritable {w : World} (hpath : w.disk.pathExists p = true)
    (htree : w.disk.loadDocument p = .ok tree) (hnumbers : tree.isWritable = true)
    (hwritable : w.disk.Writable out) :
    let r := (dumpCommand ⟨p, some out⟩).run w
    r.1 = Shown.outcome (dumpedItems w.routing p out) (.ok 0) ∧
      r.2.lines = w.lines ++ Shown.lines (dumpedItems w.routing p out) ∧
      r.2.disk.read out = .ok (Utf8.encode (dumpText tree)) := by
  obtain ⟨after, hrun, hread⟩ := run_writeFile hwritable (dumpText tree)
  have hlog : Presents (log .success s!"Wrote tree for {p.name} to {out.text}" >>= fun _ =>
      (pure 0 : Job Nat)) after w.routing (dumpedItems w.routing p out) (.ok 0) :=
    (presents_record _).bind_pure rfl
  have hcommand : (dumpCommand ⟨p, some out⟩).run w =
      (log .success s!"Wrote tree for {p.name} to {out.text}" >>= fun _ =>
        (pure 0 : Job Nat)).run { w with disk := after } := by
    rw [dumpCommand, run_bind, run_get]
    simp only [hpath, if_true, htree, Json.write?, hnumbers]
    rw [run_bind, ← dumpText, hrun]
  obtain ⟨houtcome, hlines, hdisk⟩ := Shows.run (w := { w with disk := after }) hlog
  rw [hcommand]
  exact ⟨houtcome, hlines, hdisk ▸ hread⟩

/-- **A tree that cannot be written** breaks the command off before anything is. -/
theorem run_dumpCommand_of_not_isWritable {w : World} (hpath : w.disk.pathExists p = true)
    (htree : w.disk.loadDocument p = .ok tree) (hnumbers : tree.isWritable = false)
    (o : Option Path) : (dumpCommand ⟨p, o⟩).run w = (.error .unwritable, w) := by
  rw [dumpCommand, run_bind, run_get]
  simp only [hpath, if_true, htree, Json.write?, hnumbers]
  rfl

theorem loadTree_of_loadDocument (h : d.loadDocument p = .ok tree) :
    d.loadTree p = .ok tree.toValue := by
  rw [Disk.loadTree, h]
  rfl

/-- **A dump of a file's tree is as good as the file**, if there is one.  Whatever file has a tree
and wherever one can write, `dump-tree` breaks off with nothing printed or written if a whole number
in the tree has too many digits, which is never so if the file is a document itself.  Otherwise it
writes a document that is loaded as the same tree: the same values under the same keys in the same
order, texts code point for code point, and doubles as well, since their shortest decimals read
back.  So checking the dump comes to what checking the file comes to, under any settings and but for
the path in the report.  The command then ends with code zero unless the message about it cannot be
shown. -/
theorem dump_reads_back (hparser : Lua.SoundParser) {args : List String} {verbose : Bool}
    (hargs : Invocation.ofArguments args = .ok ⟨verbose, .dump ⟨p, some out⟩⟩)
    (htree : disk.loadDocument p = .ok tree) (hsuffix : out.foldedSuffix = ".json")
    (hwritable : disk.Writable out) :
    let r := Command.run disk args
    (p.foldedSuffix = ".json" → tree.isWritable = true) ∧
    (tree.isWritable = false → r.outcome = .error .unwritable ∧ r.lines = [] ∧ r.disk = disk) ∧
    (tree.isWritable = true →
      r.outcome = Shown.outcome (dumpedItems (consoles verbose) p out) (.ok 0) ∧
      r.lines = Shown.lines (dumpedItems (consoles verbose) p out) ∧
      r.disk.read out = .ok (Utf8.encode (Json.render (.indented 0) tree ++ "\n")) ∧
      r.disk.loadDocument out = .ok tree ∧
      ∀ settings, verifyFile r.disk (some settings) out =
        (verifyFile disk (some settings) p).map fun report =>
          { report with path := some out.text }) := by
  obtain ⟨histree, hdocument, bytes, hread⟩ := isTree_of_loadDocument hparser htree
  have hpath : disk.pathExists p = true := pathExists_of_read hread
  refine ⟨hdocument, fun hnumbers => ?_, fun hnumbers => ?_⟩ <;> rw [run_of_arguments disk hargs]
  · rw [show Task.job (.dump ⟨p, some out⟩) = dumpCommand ⟨p, some out⟩ from rfl,
      run_dumpCommand_of_not_isWritable (w := startingWorld disk verbose) hpath htree hnumbers]
    exact ⟨rfl, rfl, rfl⟩
  · obtain ⟨houtcome, hlines, hback⟩ := run_dumpCommand_of_isWritable
      (w := startingWorld disk verbose) hpath htree hnumbers hwritable
    have hload := loadDocument_of_dump histree hnumbers hsuffix hback
    exact ⟨houtcome, hlines, hback, hload, fun settings => verifyFile_congr settings
      (loadTree_of_loadDocument htree) (loadTree_of_loadDocument hload)⟩

end

/-- A script with a character beyond the sixteen-bit ones and a double that is no short binary
fraction, dumped to a directory that is not there. -/
theorem dump_reads_back_script :
    let p : Path := ⟨.working, ["a.lua"]⟩
    let out : Path := ⟨.working, ["out", "a.json"]⟩
    let args := ["dump-tree", "a.lua", "--out", "out/a.json"]
    let disk : Disk := ⟨.dir [("a.lua", .file (Utf8.encode "x = '😀' .. 0.1"))], []⟩
    Invocation.ofArguments args = .ok ⟨false, .dump ⟨p, some out⟩⟩ ∧ disk.Writable out ∧
      ∃ tree, disk.loadDocument p = .ok tree ∧ tree.isWritable = true ∧
        tree.toValue.words = [.name "x", .text "😀",
          .numeral (.real (.finite false 7205759403792794 (-56)))] ∧
        (Command.run disk args).disk.loadDocument out = .ok tree ∧
        ∀ settings, verifyFile (Command.run disk args).disk (some settings) out =
          (verifyFile disk (some settings) p).map fun report =>
            { report with path := some "out/a.json" } := by
  intro p out args disk
  have hargs : Invocation.ofArguments args = .ok ⟨false, .dump ⟨p, some out⟩⟩ := by
    decide +kernel
  have hwritable : disk.Writable out := ⟨_, rfl, [], _, rfl⟩
  have hsource : (disk.loadDocument p).toOption.map (fun t => (t.isWritable, t.toValue.words)) =
      some (true, [.name "x", .text "😀",
        .numeral (.real (.finite false 7205759403792794 (-56)))]) := by
    decide +kernel
  obtain ⟨tree, htree, hfacts⟩ := Option.map_eq_some_iff.1 hsource
  obtain ⟨hnumbers, hwords⟩ := Prod.mk.inj hfacts
  have hload : disk.loadDocument p = .ok tree := toOption_eq_some_iff.1 htree
  obtain ⟨-, -, hdump⟩ :=
    dump_reads_back Lua.soundParser hargs hload (by decide +kernel) hwritable
  obtain ⟨-, -, -, hback, hverify⟩ := hdump hnumbers
  exact ⟨hargs, hwritable, tree, hload, hnumbers, hwords, hback, hverify⟩

/-! ## A number that is too long -/

namespace Lua

/-- The source text of an assignment of a hexadecimal number that is all `f`. -/
def hexSource (n : Nat) : String := "x = 0x" ++ String.ofList (List.replicate n 'f')

theorem toList_hexSource (n : Nat) : (hexSource n).toList =
    'x' :: ' ' :: '=' :: ' ' :: '0' :: 'x' :: List.replicate n 'f' := by
  have hstart : "x = 0x".toList = ['x', ' ', '=', ' ', '0', 'x'] := rfl
  rw [hexSource, String.toList_append, hstart, String.toList_ofList]
  rfl

theorem digitsValue_replicate (n : Nat) : digitsValue 16 (List.replicate n 'f') + 1 = 16 ^ n := by
  have hdigit : digitValue 'f' = 15 := by decide
  induction n with
  | zero => rfl
  | succ n ih =>
    rw [digitsValue] at ih ⊢
    rw [List.replicate_succ', List.foldl_append, List.foldl_cons, List.foldl_nil, hdigit,
      Nat.pow_succ]
    omega

theorem scanToken?_hex (n : Nat) : scanToken? ('0' :: 'x' :: List.replicate (n + 1) 'f') =
    some (.numeral (.whole (16 ^ (n + 1) - 1)), []) := by
  have hall : ∀ c ∈ List.replicate (n + 1) 'f', isHexDigit c = true := by
    intro c hc
    obtain rfl := List.eq_of_mem_replicate hc
    decide
  have hhex : scanHex? (List.replicate (n + 1) 'f') = some (.whole (16 ^ (n + 1) - 1), []) := by
    rw [scanHex?, List.takeWhile_eq_self_iff.2 hall, List.dropWhile_eq_nil_iff.2 hall,
      ← digitsValue_replicate, Nat.add_sub_cancel]
    rfl
  have hnumber : scanNumber? ('0' :: 'x' :: List.replicate (n + 1) 'f') =
      scanHex? (List.replicate (n + 1) 'f') := rfl
  have htoken : scanToken? ('0' :: 'x' :: List.replicate (n + 1) 'f') =
      (scanNumber? ('0' :: 'x' :: List.replicate (n + 1) 'f')).map fun found =>
        (.numeral found.1, found.2) := rfl
  rw [htoken, hnumber, hhex]
  rfl

/-- A token and those after it. -/
theorem scanAll?_cons {c : Char} {cs rest : List Char} {t : Token} (fuel : Nat)
    (hspace : isSpace c = false) (hdash : c ≠ '-') (h : scanToken? (c :: cs) = some (t, rest)) :
    scanAll? (fuel + 1) (c :: cs) = (scanAll? fuel rest).map (t :: ·) := by
  rw [scanAll?, if_neg (by rw [hspace]; exact Bool.false_ne_true), h]
  · cases hrest : scanAll? fuel rest <;> simp [hrest]
  · rintro rest' rfl
    exact absurd rfl hdash

theorem scan?_hexSource (n : Nat) : Token.scan? (hexSource (n + 1)) =
    some [.name "x", .symbol "=", .numeral (.whole (16 ^ (n + 1) - 1))] := by
  have hblank : ∀ fuel rest, scanAll? (fuel + 1) (' ' :: rest) = scanAll? fuel rest :=
    fun _ _ => rfl
  have hname : ∀ rest, scanToken? ('x' :: ' ' :: rest) = some (.name "x", ' ' :: rest) :=
    fun rest => by rfl
  have hsign : ∀ rest, scanToken? ('=' :: ' ' :: rest) = some (.symbol "=", ' ' :: rest) :=
    fun rest => by rfl
  have hfirst : ∀ rest, skipFirstLine ('x' :: rest) = 'x' :: rest := fun _ => rfl
  rw [Token.scan?, toList_hexSource]
  simp only [hfirst, List.length_cons, List.length_replicate]
  rw [scanAll?_cons _ (by decide) (by decide) (hname _), hblank,
    scanAll?_cons _ (by decide) (by decide) (hsign _), hblank,
    scanAll?_cons _ (by decide) (by decide) (scanToken?_hex n)]
  rfl

theorem parse?_hexSource (n : Nat) : parse? (hexSource (n + 1)) = some (.chunk (.block
    [.assign [.name "x"] [.number (.whole (16 ^ (n + 1) - 1))]])) := by
  rw [parse?, scan?_hexSource]
  rfl

/-- The tree of an assignment of a whole number. -/
def assignTree (n : Nat) : Value :=
  node "Chunk" [("body", .list [node "AssignmentStatement"
    [("variables", .list [node "Identifier" [("name", .str "x")]]),
     ("init", .list [node "NumericLiteral" [("value", .int n)]])]])]

theorem tree_hexSource (n : Nat) :
    Lua.tree (hexSource (n + 1)) = .ok (assignTree (16 ^ (n + 1) - 1)) := by
  refine tree_eq_ok_iff.2 ⟨_, parse_eq_ok_iff.2 (parse?_hexSource n), ?_⟩
  rfl

theorem isWritable_assignTree (n : Nat) :
    (Json.Document.ofValue (assignTree n)).isWritable =
      decide (Json.digitCount n ≤ Json.maxDigits) := by
  simp [assignTree, node, Json.Document.ofValue, Json.Document.ofValues, Json.Document.ofFields,
    Json.Document.isWritable, Json.Document.areWritable, Json.Document.areWritableFields]

theorem loadDocument_hexSource {d : Disk} {p : Path} {n : Nat} (hlua : p.foldedSuffix ≠ ".json")
    (hread : d.read p = .ok (Utf8.encode (hexSource (n + 1)))) :
    d.loadDocument p = .ok (Json.Document.ofValue (assignTree (16 ^ (n + 1) - 1))) := by
  have hreturn : '\r' ∉ (hexSource (n + 1)).toList := by
    rw [toList_hexSource]
    simp [List.mem_replicate]
  rw [Disk.loadDocument, if_neg hlua, Disk.loadLuaTree, hread]
  simp only [Except.mapError, ok_bind]
  rw [Utf8.decodeLossy_encode, Utf8.unifyLineEnds_of_notMem hreturn, String.ofList_toList,
    tree_hexSource]
  rfl

end Lua

/-- The script that assigns a hexadecimal number of four thousand digits: it has a tree, and there
is room for a dump, but none is written. -/
theorem dump_refuses_long_number :
    let p : Path := ⟨.working, ["a.lua"]⟩
    let out : Path := ⟨.working, ["o.json"]⟩
    let args := ["dump-tree", "a.lua", "--out", "o.json"]
    let disk : Disk := ⟨.dir [("a.lua", .file (Utf8.encode (Lua.hexSource 4000)))], []⟩
    Invocation.ofArguments args = .ok ⟨false, .dump ⟨p, some out⟩⟩ ∧ disk.Writable out ∧
      (∃ tree, disk.loadDocument p = .ok tree) ∧
      Command.run disk args = ⟨.error .unwritable, [], disk⟩ := by
  intro p out args disk
  have hargs : Invocation.ofArguments args = .ok ⟨false, .dump ⟨p, some out⟩⟩ := by
    decide +kernel
  have hread : disk.read p = .ok (Utf8.encode (Lua.hexSource 4000)) := rfl
  have hpath : disk.pathExists p = true := pathExists_of_read hread
  have hload : disk.loadDocument p =
      .ok (Json.Document.ofValue (Lua.assignTree (16 ^ (3999 + 1) - 1))) :=
    Lua.loadDocument_hexSource (by decide +kernel) hread
  have hnumbers : (Json.Document.ofValue (Lua.assignTree (16 ^ (3999 + 1) - 1))).isWritable =
      false := by
    rw [Lua.isWritable_assignTree, decide_eq_false_iff_not, Json.digitCount, Int.natAbs_natCast,
      Json.maxDigits, Nat.length_toDigits_le_iff (by decide) (by decide)]
    decide +kernel
  refine ⟨hargs, ⟨_, rfl, [], _, rfl⟩, ⟨_, hload⟩, ?_⟩
  rw [run_of_arguments disk hargs, show Task.job (.dump ⟨p, some out⟩) =
    dumpCommand ⟨p, some out⟩ from rfl, run_dumpCommand_of_not_isWritable
      (w := startingWorld disk false) hpath hload hnumbers]
  rfl

end DefUse
