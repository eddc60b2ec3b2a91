import Mathlib.Data.List.Induction
import Mathlib.Tactic.SplitIfs
import DefUse.Proofs.Settings.Nearest
import DefUse.Proofs.Text.Utf8
import DefUse.Proofs.Toml.Keys
import DefUse.Standard

/-!
# Proofs/Settings/Loaded — what loaded settings are made of

Three sources meet in the settings that are loaded, each in a way of its own.  The file of names
replaces the bundled names (`Settings.Starts`); names that the section adds and names that are given
from outside come after them, and of a name that comes twice the first place counts
(`FirstOccurrences`); and an entry of the section's table of members stands before the bundled entry
of the same key (`lookup_merged`).
-/

namespace DefUse

/-! ## First occurrences -/

/-- **The first occurrences of names**: each of them once, in the order in which they first come. -/
structure FirstOccurrences (kept names : List String) : Prop where
  mem_iff : ∀ n, n ∈ kept ↔ n ∈ names
  order : kept.Pairwise fun a b => names.idxOf a < names.idxOf b

/-- No name is kept twice. -/
theorem FirstOccurrences.nodup {kept names : List String} (h : FirstOccurrences kept names) :
    kept.Nodup :=
  h.order.imp fun hlt heq => Nat.ne_of_lt hlt (congrArg names.idxOf heq)

/-- A name that comes again is not kept again. -/
theorem FirstOccurrences.concat_of_mem {kept names : List String} {n : String}
    (h : FirstOccurrences kept names) (hn : n ∈ names) : FirstOccurrences kept (names ++ [n]) := by
  have hindex {m : String} (hm : m ∈ kept) : (names ++ [n]).idxOf m = names.idxOf m :=
    List.idxOf_append_of_mem ((h.mem_iff m).1 hm)
  constructor
  · intro m
    rw [h.mem_iff, List.mem_append, List.mem_singleton, or_iff_left_of_imp]
    rintro rfl
    exact hn
  · refine h.order.imp_of_mem fun ha hb hab => ?_
    rwa [hindex ha, hindex hb]

/-- A new name is kept at the end. -/
theorem FirstOccurrences.concat_of_notMem {kept names : List String} {n : String}
    (h : FirstOccurrences kept names) (hn : n ∉ names) :
    FirstOccurrences (kept ++ [n]) (names ++ [n]) := by
  have hindex {m : String} (hm : m ∈ kept) : (names ++ [n]).idxOf m = names.idxOf m :=
    List.idxOf_append_of_mem ((h.mem_iff m).1 hm)
  have hlast : (names ++ [n]).idxOf n = names.length := by
    rw [List.idxOf_append_of_notMem hn, List.idxOf_cons_self, Nat.add_zero]
  constructor
  · intro m
    rw [List.mem_append, List.mem_append, h.mem_iff]
  · refine List.pairwise_append.2 ⟨?_, List.pairwise_singleton _ _, fun a ha b hb => ?_⟩
    · refine h.order.imp_of_mem fun ha hb hab => ?_
      rwa [hindex ha, hindex hb]
    · rw [List.mem_singleton.1 hb, hindex ha, hlast]
      exact List.idxOf_lt_length_iff.2 ((h.mem_iff a).1 ha)

/-- **Erasing repetitions keeps the first occurrences.** -/
theorem firstOccurrences_eraseDups (names : List String) :
    FirstOccurrences names.eraseDups names := by
  -- by induction on the last name: it is kept if it is new
  induction names using List.reverseRecOn with
  | nil => exact ⟨fun _ => by simp, by simp⟩
  | append_singleton names n ih =>
    rw [List.eraseDups_append]
    by_cases hn : n ∈ names
    · have hnone : ([n].removeAll names).eraseDups = [] := by simp [List.removeAll, hn]
      rw [hnone, List.append_nil]
      exact ih.concat_of_mem hn
    · have hone : ([n].removeAll names).eraseDups = [n] := by
        simp [List.removeAll, hn, List.eraseDups_cons]
      rw [hone]
      exact ih.concat_of_notMem hn

/-! ## Tables with entries put into them -/

namespace Datum

variable {k key : String} {v : Datum} {fields : List (String × Datum)}

/-- A value that is put under a key is found there, and nothing else changes. -/
theorem lookup_store :
    lookup key (store k v fields) = if k = key then some v else lookup key fields := by
  fun_induction store k v fields with
  | case1 => rfl
  | case2 d rest =>
    rw [lookup, lookup]
    split <;> rfl
  | case3 m d rest hne ih =>
    rw [lookup, lookup, ih]
    split
    next hm => rw [if_neg fun hk => hne (hm.trans hk.symm)]
    next => rfl

/-- A table with the fields of another one put into it. -/
def merged (base fields : List (String × Datum)) : List (String × Datum) :=
  fields.foldl (fun all f => store f.1 f.2 all) base

/-- A field of a merged table comes from one of the two. -/
theorem mem_merged {f : String × Datum} {base : List (String × Datum)}
    (h : f ∈ merged base fields) : f ∈ fields ∨ f ∈ base := by
  induction fields generalizing base with
  | nil => exact Or.inr h
  | cons g rest ih =>
    rcases ih h with hrest | hbase
    · exact Or.inl (List.mem_cons_of_mem g hrest)
    · rcases mem_store hbase with rfl | hbase
      · exact Or.inl List.mem_cons_self
      · exact Or.inr hbase

/-- Merging keeps keys apart. -/
theorem nodup_merged {base : List (String × Datum)} (h : (base.map Prod.fst).Nodup) :
    ((merged base fields).map Prod.fst).Nodup := by
  induction fields generalizing base with
  | nil => exact h
  | cons f rest ih => exact ih (nodup_store h)

/-- **A field that is put into a table stands before the one that was there.** -/
theorem lookup_merged {base : List (String × Datum)} (h : (fields.map Prod.fst).Nodup) :
    lookup key (merged base fields) = (lookup key fields).or (lookup key base) := by
  induction fields generalizing base with
  | nil => rfl
  | cons f rest ih =>
    obtain ⟨hf, hrest⟩ := List.nodup_cons.1 h
    have hmerged : merged base (f :: rest) = merged (store f.1 f.2 base) rest := rfl
    rw [hmerged, ih hrest, lookup_store, lookup]
    split
    next hkey =>
      rw [lookup_eq_lookup, lookup_eq_none_iff_notMem.2 (hkey ▸ hf)]
      rfl
    next => rfl

end Datum

namespace Settings

variable {d : Disk} {start dir file : Path} {namesFile : Option Path}
  {fields : List (String × Datum)} {names : List String}

/-! ## Sections with the right kinds of data -/

/-- A list of texts as data. -/
def ofTexts (names : List String) : Datum := .list (names.map .str)

/-- A row of a table of members as a field. -/
def ofRow (row : String × List String) : String × Datum := (row.1, ofTexts row.2)

/-- Texts among data, if there is nothing else. -/
def textsAmong? : List Datum → Option (List String)
  | [] => some []
  | .str s :: rest => (textsAmong? rest).map (s :: ·)
  | _ :: _ => none

/-- A list of texts. -/
def texts? : Datum → Option (List String)
  | .list items => textsAmong? items
  | _ => none

/-- Rows among fields, if there is nothing else. -/
def rowsAmong? : List (String × Datum) → Option (List (String × List String))
  | [] => some []
  | (k, v) :: rest => do
    let names ← texts? v
    return (k, names) :: (← rowsAmong? rest)

/-- A table of members. -/
def rows? : Datum → Option (List (String × List String))
  | .table fields => rowsAmong? fields
  | _ => none

/-- **A section whose names and members are of the right kinds**: a list of texts and a table of
lists of texts, either of them empty if it is not there. -/
structure Gives (fields : List (String × Datum)) (more : List String)
    (rows : List (String × List String)) : Prop where
  names : texts? ((Datum.lookup "extra_globals" fields).getD (.list [])) = some more
  members : rows? ((Datum.lookup "derived_properties" fields).getD (.table [])) = some rows

/-- Data that are texts are the texts. -/
theorem eq_map_of_textsAmong? {items : List Datum} (h : textsAmong? items = some names) :
    items = names.map .str := by
  fun_induction textsAmong? items generalizing names with
  | case1 => exact Option.some.inj h ▸ rfl
  | case2 s rest ih =>
    obtain ⟨others, hothers, rfl⟩ := Option.map_eq_some_iff.1 h
    rw [List.map_cons, ih hothers]
  | case3 => cases h

theorem eq_ofTexts_of_texts? {v : Datum} (h : texts? v = some names) : v = ofTexts names := by
  cases v with
  | list items => exact congrArg Datum.list (eq_map_of_textsAmong? h)
  | _ => cases h

theorem eq_map_of_rowsAmong? {rows : List (String × List String)}
    (h : rowsAmong? fields = some rows) : fields = rows.map ofRow := by
  fun_induction rowsAmong? fields generalizing rows with
  | case1 => exact Option.some.inj h ▸ rfl
  | case2 k v rest ih =>
    simp only [Option.bind_eq_bind, Option.bind_eq_some_iff] at h
    obtain ⟨names, hnames, others, hothers, h⟩ := h
    rw [← Option.some.inj h, List.map_cons, ofRow, ← ih hothers, ← eq_ofTexts_of_texts? hnames]

/-- A table of members is its rows. -/
theorem eq_table_of_rows? {v : Datum} {rows : List (String × List String)}
    (h : rows? v = some rows) : v = .table (rows.map ofRow) := by
  cases v with
  | table fields => exact congrArg Datum.table (eq_map_of_rowsAmong? h)
  | _ => cases h

/-- A row is found under its key. -/
theorem lookup_map_ofRow (rows : List (String × List String)) (key : String) :
    Datum.lookup key (rows.map ofRow) = (rows.lookup key).map ofTexts := by
  induction rows with
  | nil => rfl
  | cons row rest ih =>
    rw [List.map_cons, ofRow, Datum.lookup]
    split
    next h => rw [← h, List.lookup_cons_self, Option.map_some]
    next h => rw [lookup_cons_of_ne h, ih]

theorem ofTexts_injective : Function.Injective ofTexts := by
  intro names names' h
  exact List.map_injective_iff.2 (fun _ _ => Datum.str.inj) (Datum.list.inj h)

/-- Fields that are rows one by one are rows. -/
theorem exists_rows (h : ∀ f ∈ fields, ∃ row, f = ofRow row) :
    ∃ rows : List (String × List String), fields = rows.map ofRow := by
  induction fields with
  | nil => exact ⟨[], rfl⟩
  | cons f rest ih =>
    obtain ⟨row, hrow⟩ := h f List.mem_cons_self
    obtain ⟨rows, hrows⟩ := ih fun g hg => h g (List.mem_cons_of_mem f hg)
    exact ⟨row :: rows, by rw [List.map_cons, hrow, hrows]⟩

/-- A table of members with the rows of another one put into it is one. -/
theorem exists_rows_merged (base rows : List (String × List String)) :
    ∃ all : List (String × List String),
      Datum.merged (base.map ofRow) (rows.map ofRow) = all.map ofRow := by
  refine exists_rows fun f hf => ?_
  have hmem : f ∈ (rows ++ base).map ofRow := by
    rw [List.map_append]
    exact List.mem_append.2 (Datum.mem_merged hf)
  obtain ⟨row, -, rfl⟩ := List.mem_map.1 hmem
  exact ⟨row, rfl⟩

/-! ## Checking -/

/-- A field as a pair. -/
def ofField (f : String × Datum) : Datum × Datum := (.str f.1, f.2)

/-- Putting a pair among fields is putting a value under its key. -/
theorem putPair_ofField (f : String × Datum) (fields : List (String × Datum)) :
    putPair (ofField f) (fields.map ofField) = (Datum.store f.1 f.2 fields).map ofField := by
  induction fields with
  | nil => rfl
  | cons g rest ih =>
    have hkey : (ofField g).1.sameKey (ofField f).1 = decide (g.1 = f.1) := rfl
    rw [List.map_cons, putPair, hkey, Datum.store]
    by_cases hk : g.1 = f.1
    · rw [if_pos hk, decide_eq_true hk]
      rfl
    · rw [if_neg hk, decide_eq_false hk, ih]
      rfl

/-- So is putting several of them. -/
theorem foldl_putPair_ofField (base fields : List (String × Datum)) :
    (fields.map ofField).foldl (fun all pair => putPair pair all) (base.map ofField) =
      (Datum.merged base fields).map ofField := by
  induction fields generalizing base with
  | nil => rfl
  | cons f rest ih => rw [List.map_cons, List.foldl_cons, putPair_ofField, ih]; rfl

/-- **A validator takes data of the right kinds as they are.** -/
structure Faithful (v : Validator) : Prop where
  texts : ∀ spots names, v.texts spots (ofTexts names) = .ok names
  members : ∀ spots rows, v.members spots (.ok ((rows.map ofRow).map ofField)) = .ok rows

theorem textsFrom_texts (spots : List Spot) (i : Nat) (names : List String) :
    Strict.textsFrom spots i (names.map .str) = .ok names := by
  induction names generalizing i with
  | nil => rfl
  | cons n names ih => rw [List.map_cons, Strict.textsFrom, ih]; rfl

theorem pairs_rows (spots : List Spot) (rows : List (String × List String)) :
    Strict.pairs spots ((rows.map ofRow).map ofField) = .ok rows := by
  induction rows with
  | nil => rfl
  | cons row rows ih =>
    have hrow : Strict.texts (spots ++ [Strict.keySpot (.str row.1)]) (ofTexts row.2) =
        .ok row.2 := textsFrom_texts _ 0 row.2
    rw [List.map_cons, List.map_cons, ofField, ofRow, Strict.pairs, ih, hrow]
    rfl

/-- **The validator that converts nothing** is one of these. -/
theorem faithful_strict : Faithful strict where
  texts spots names := textsFrom_texts spots 0 names
  members spots rows := pairs_rows spots rows

/-- Settings that are checked have each name once. -/
theorem check_eq_ok {v : Validator} {g : Given} {s : Settings} (h : check v g = .ok s) :
    ∃ globals, checkField g.globals (v.texts [.field "global_identifiers"]) bundledGlobals =
        .ok globals ∧ s.globals = globals.eraseDups ∧
      checkField g.derived (v.members [.field "derived_properties"]) bundledDerived =
        .ok s.derived := by
  rw [check] at h
  split at h
  next globals derived _ _ hglobals hderived _ _ =>
    rw [← Except.ok.inj h]
    exact ⟨globals, hglobals, rfl, hderived⟩
  next => cases h

/-! ## Loading -/

section

variable [Libraries]

/-- **The names that settings start from**: those that the file that is selected lists, or else the
bundled ones. -/
inductive Starts (d : Disk) (namesFile : Option Path) (start : Path) : List String → Prop
  | file {file : Path} {names : List String} (h : Selects d namesFile start file)
      (lists : FileLists d file names) : Starts d namesFile start names
  | bundled (h : ∀ file, ¬ Selects d namesFile start file) :
      Starts d namesFile start bundledGlobals

/-- **The section in force**, and the warnings about it: that of the nearest settings file, or an
empty one if there is no settings file or it is passed over. -/
inductive InForce (d : Disk) (start : Path) : List (String × Datum) → List String → Prop
  | nearest {dir : Path} {fields : List (String × Datum)} (h : Nearest d start dir)
      (inside : HasSection d dir fields) : InForce d start fields []
  | passedOver {dir : Path} {reason : String} (h : Nearest d start dir)
      (passed : PassedOver d dir reason) :
      InForce d start [] ["Ignoring unreadable " ++ (dir.child fileName).text ++ ": " ++ reason]
  | absent (h : ∀ dir, ¬ Nearest d start dir) : InForce d start [] []

/-- **No key comes twice** in a settings file that can be read. -/
def KeysApart : Prop :=
  ∀ text document, Libraries.readToml text = .ok document → Datum.Keyed (.table document)

/-- A project that gives a table gives the section in force. -/
theorem inForce_of_project {p : Project} (h : project d start = .ok p)
    (hgiven : p.given = .table fields) : InForce d start fields p.warning.toList := by
  obtain ⟨hnone, rfl⟩ | ⟨dir, hdir, ⟨reason, hpassed, rfl⟩ | ⟨given, rfl, hsection⟩⟩ :=
    project_eq_ok h
  · obtain rfl : [] = fields := Datum.table.inj hgiven
    exact .absent hnone
  · obtain rfl : [] = fields := Datum.table.inj hgiven
    exact .passedOver hdir hpassed
  · exact .nearest hdir (hsection fields hgiven)

/-- The section in force is what the project gives. -/
theorem InForce.project_eq {warnings : List String} (h : InForce d start fields warnings) :
    ∃ directory, project d start = .ok ⟨.table fields, directory, warnings.head?⟩ := by
  cases h with
  | nearest h inside => exact ⟨_, project_of_hasSection h inside⟩
  | passedOver h passed => exact ⟨_, project_of_passedOver h passed⟩
  | absent h => exact ⟨none, by rw [project, nearest?_eq_none_iff.2 h]; rfl⟩

/-- There is one section in force. -/
theorem InForce.unique {others : List (String × Datum)} {warnings warnings' : List String}
    (h : InForce d start fields warnings) (h' : InForce d start others warnings') :
    fields = others := by
  obtain ⟨directory, hproject⟩ := h.project_eq
  obtain ⟨directory', hproject'⟩ := h'.project_eq
  have hsame := Except.ok.inj (hproject.symm.trans hproject')
  exact Datum.table.inj (congrArg Project.given hsame)

/-- The section in force has its keys apart. -/
theorem InForce.keyed {warnings : List String} (htoml : KeysApart)
    (h : InForce d start fields warnings) : Datum.Keyed (.table fields) := by
  cases h with
  | nearest h inside =>
    obtain ⟨bytes, text, document, -, -, hdocument, hfields⟩ := inside
    obtain ⟨tool, htool, hfields⟩ := Option.bind_eq_some_iff.1 hfields
    have hkeyed := (htoml text document hdocument).lookup_getD "tool"
    rw [tableOf?_eq_some_iff.1 htool] at hkeyed
    exact tableOf?_eq_some_iff.1 hfields ▸ hkeyed.lookup_getD "lua_verifier"
  | passedOver _ _ => exact Datum.keyed_empty
  | absent h => exact Datum.keyed_empty

/-- No key comes twice in the section's table of members. -/
theorem InForce.nodup_rows {more warnings : List String} {rows : List (String × List String)}
    (htoml : KeysApart) (h : InForce d start fields warnings)
    (hgives : Gives fields more rows) : ((rows.map ofRow).map Prod.fst).Nodup := by
  have hkeyed := (h.keyed htoml).lookup_getD "derived_properties"
  rw [eq_table_of_rows? hgives.members] at hkeyed
  cases hkeyed with
  | plain h => cases h
  | table distinct values => exact distinct

/-- **Names are found if they are those to start from**: the names of the file that is selected, or
the bundled ones if none is. -/
theorem starts_of_baseNames {p : Project} (hp : project d start = .ok p)
    (h : baseNames d p namesFile = .ok names) : Starts d namesFile start names := by
  cases namesFile with
  | some file => exact .file (.given rfl) (readNames_eq_ok_iff.1 h)
  | none =>
    rw [baseNames] at h
    obtain ⟨path?, hpath, h⟩ := bind_eq_ok_iff.1 h
    cases path? with
    | some file => exact .file (selects_of_project hp hpath) (readNames_eq_ok_iff.1 h)
    | none =>
      obtain rfl : bundledGlobals = names := Except.ok.inj h
      refine .bundled fun file hfile => ?_
      obtain ⟨q, hq, hasks⟩ := namesPath?_of_selects hfile
      obtain rfl : q = p := Except.ok.inj (hq.symm.trans hp)
      cases hasks.symm.trans hpath

/-- At most one file is selected. -/
theorem Selects.unique {other : Path} (h : Selects d namesFile start file)
    (h' : Selects d namesFile start other) : file = other := by
  cases namesFile with
  | some given =>
    cases h with
    | given h =>
      cases h' with
      | given h' => exact Option.some.inj (h.symm.trans h')
      | asked h' => cases h'
    | asked h => cases h
  | none =>
    obtain ⟨p, hp, hpath⟩ := namesPath?_of_selects h
    obtain ⟨q, hq, hpath'⟩ := namesPath?_of_selects h'
    obtain rfl : p = q := Except.ok.inj (hp.symm.trans hq)
    exact Option.some.inj (Except.ok.inj (hpath.symm.trans hpath'))

/-- There is one list of names to start from. -/
theorem Starts.unique {others : List String} (h : Starts d namesFile start names)
    (h' : Starts d namesFile start others) : names = others := by
  cases h with
  | bundled h =>
    cases h' with
    | bundled => rfl
    | file h' => exact absurd h' (h _)
  | file h lists =>
    cases h' with
    | bundled h' => exact absurd h (h' _)
    | file h' lists' =>
      obtain rfl := h.unique h'
      exact Except.ok.inj
        ((readNames_eq_ok_iff.2 lists).symm.trans (readNames_eq_ok_iff.2 lists'))

/-- **What settings are put together of**: the names to start from, what the section gives and what
is given from outside go through the validator, and the members are put among the bundled ones. -/
theorem assemble_eq_ok {p : Project} {s : Settings} {extra : List String}
    (h : load.assemble d extra namesFile p = .ok s) :
    ∃ fields base, p.given = .table fields ∧ baseNames d p namesFile = .ok base ∧
      s.globals.Nodup ∧ ∀ more rows, Gives fields more rows → Faithful Libraries.validator →
        s.globals = (base ++ more ++ extra).eraseDups ∧
        s.derived.map ofRow = Datum.merged (bundledDerived.map ofRow) (rows.map ofRow) := by
  rw [load.assemble] at h
  obtain ⟨base, hbase, h⟩ := bind_eq_ok_iff.1 h
  split at h
  next fields hgiven =>
    refine ⟨fields, base, hgiven, hbase, ?_⟩
    dsimp only at h
    split at h
    next => cases h
    next items hitems =>
      obtain ⟨pairs, hpairs, h⟩ := bind_eq_ok_iff.1 h
      obtain ⟨globals, hglobals, hs, hderived⟩ := check_eq_ok (mapError_eq_ok_iff.1 h)
      refine ⟨hs ▸ (firstOccurrences_eraseDups globals).nodup, ?_⟩
      intro more rows hgives hvalidator
      rw [eq_ofTexts_of_texts? hgives.names] at hitems
      rw [eq_table_of_rows? hgives.members] at hpairs
      obtain rfl : more.map .str = items := Option.some.inj hitems
      obtain rfl : (rows.map ofRow).map ofField = pairs := Except.ok.inj hpairs
      have hnames : base.map .str ++ more.map .str ++ extra.map .str =
          (base ++ more ++ extra).map Datum.str := by rw [List.map_append, List.map_append]
      have hbundled : bundledPairs = (bundledDerived.map ofRow).map ofField := by
        rw [List.map_map]
        rfl
      obtain ⟨all, hall⟩ := exists_rows_merged bundledDerived rows
      have hgiven : globals = base ++ more ++ extra := by
        rw [hnames] at hglobals
        exact (Except.ok.inj ((hvalidator.texts _ _).symm.trans hglobals)).symm
      have hmembers : s.derived = all := by
        rw [hbundled, foldl_putPair_ofField, hall] at hderived
        exact (Except.ok.inj ((hvalidator.members _ _).symm.trans hderived)).symm
      rw [hs, hgiven, hmembers, hall]
      exact ⟨rfl, rfl⟩
  next => cases h

/-- **Loading settings reads the nearest settings file and no other.**  On disks that agree on it
and on the file of names, the outcome is the same, with its warnings.  If settings are loaded, there
is one list of names to start from, those that the file of names lists or the bundled ones, and one
section in force, that of the nearest settings file, or an empty one if there is none or it is
passed over with a warning.  If its data are of the right kinds, the global names are the first
occurrences among the names to start from, those that the section adds and those given from outside;
and the table of members has the section's entry for each of its keys, and the bundled entry for the
others.  Assumed are a reader of settings files that keeps keys apart and a validator that takes
data of the right kinds as they are. -/
theorem load_reads_nearest (htoml : KeysApart) (hvalidator : Faithful Libraries.validator)
    (extra : List String) (namesFile : Option Path) (start : Path) :
    (∀ d d', Agree d d' namesFile start →
      load d extra namesFile start = load d' extra namesFile start) ∧
    ∀ d s warnings, load d extra namesFile start = (.ok s, warnings) →
      s.globals.Nodup ∧
      ∃ names fields, (∀ others, Starts d namesFile start others ↔ others = names) ∧
        (∀ others, InForce d start others warnings ↔ others = fields) ∧
        ∀ more rows, Gives fields more rows →
          FirstOccurrences s.globals (names ++ more ++ extra) ∧
          (s.derived.map Prod.fst).Nodup ∧
          ∀ key, s.derived.lookup key = (rows.lookup key).or (bundledDerived.lookup key) := by
  refine ⟨fun d d' h => load_of_agree h extra, fun d s warnings hload => ?_⟩
  rw [load] at hload
  cases hproject : project d start with
  | error e =>
    rw [hproject] at hload
    cases hload
  | ok p =>
    rw [hproject] at hload
    obtain ⟨hassembled, rfl⟩ := Prod.mk.inj hload
    obtain ⟨fields, base, hgiven, hbase, hnodup, hparts⟩ := assemble_eq_ok hassembled
    have hstarts := starts_of_baseNames hproject hbase
    have hforce := inForce_of_project hproject hgiven
    refine ⟨hnodup, base, fields, fun others => ⟨fun h => h.unique hstarts, fun h => h ▸ hstarts⟩,
      fun others => ⟨fun h => h.unique hforce, fun h => h ▸ hforce⟩, fun more rows hgives => ?_⟩
    obtain ⟨hglobals, hderived⟩ := hparts more rows hgives hvalidator
    refine ⟨hglobals ▸ firstOccurrences_eraseDups _, ?_, fun key => ?_⟩
    · have hkeys : s.derived.map Prod.fst = (s.derived.map ofRow).map Prod.fst := by
        rw [List.map_map]
        rfl
      rw [hkeys, hderived]
      exact Datum.nodup_merged (by decide)
    · have hlookup := congrArg (Datum.lookup key) hderived
      rw [Datum.lookup_merged (hforce.nodup_rows htoml hgives), lookup_map_ofRow, lookup_map_ofRow,
        lookup_map_ofRow, ← Option.map_or] at hlookup
      exact Option.map_injective ofTexts_injective hlookup

end

/-! ## A sample -/

/-- The reader of a run keeps keys apart. -/
theorem keysApart_toml : KeysApart := by
  intro text document h
  cases hread : Toml.read? text with
  | none =>
    rw [show Libraries.readToml text = Toml.read text from rfl, Toml.read, hread] at h
    cases h
  | some fields =>
    rw [show Libraries.readToml text = Toml.read text from rfl, Toml.read, hread] at h
    exact Except.ok.inj h ▸ Toml.keyed_of_read? hread

/-- Settings that ask for a file of names, add names and members. -/
def sampleText : String :=
  "[tool.lua_verifier]\nglobals_file='n'\nextra_globals=['x','a']\n" ++
    "derived_properties=\x7bF=['S']\x7d"

/-- A project, worked on in a directory inside it.  The settings file outside the project and a file
that is called like the file of names can hold anything. -/
def sampleDisk (other : List UInt8) : Disk :=
  { root := .dir [("pyproject.toml", .file other),
      ("w", .dir [("pyproject.toml", .file (Utf8.encode sampleText)),
        ("n", .file (Utf8.encode "a b a")), ("in", .dir [("n", .file other)])])]
    cwd := ["w", "in"] }

theorem nearest_sampleDisk (other : List UInt8) :
    Nearest (sampleDisk other) .here ⟨.root, ["w"]⟩ := by
  have hfile : nearest? (sampleDisk other) .here = some ⟨.root, ["w", fileName]⟩ := rfl
  obtain ⟨dir, hdir, hchild⟩ := nearest?_eq_some_iff.1 hfile
  rwa [← dir.parent_child fileName, ← hchild] at hdir

/-- The section of the sample asks for the file `n`, adds two names and has an entry `F`. -/
theorem hasSection_sampleDisk : ∃ fields, Gives fields ["x", "a"] [("F", ["S"])] ∧
    Datum.lookup "globals_file" fields = some (.str "n") ∧
      ∀ other, HasSection (sampleDisk other) ⟨.root, ["w"]⟩ fields := by
  have h : ((Toml.read sampleText).toOption.bind sectionTable?).map (fun fields =>
      (texts? ((Datum.lookup "extra_globals" fields).getD (.list [])),
        rows? ((Datum.lookup "derived_properties" fields).getD (.table [])),
        textsAmong? (Datum.lookup "globals_file" fields).toList)) =
      some (some ["x", "a"], some [("F", ["S"])], some ["n"]) := by decide +kernel
  obtain ⟨fields, hfields, h⟩ := Option.map_eq_some_iff.1 h
  obtain ⟨document, hdocument, hsection⟩ := Option.bind_eq_some_iff.1 hfields
  simp only [Prod.mk.injEq] at h
  refine ⟨fields, ⟨h.1, h.2.1⟩, ?_, fun other => ?_⟩
  · exact Option.toList_eq_singleton_iff.1 (eq_map_of_textsAmong? h.2.2)
  · exact ⟨_, _, document, rfl, Utf8.decode_encode sampleText, toOption_eq_some_iff.1 hdocument,
      hsection⟩

/-- The file of names that the sample asks for is next to its settings file. -/
theorem selects_sampleDisk (other : List UInt8) :
    Selects (sampleDisk other) none .here ⟨.root, ["w", "n"]⟩ := by
  obtain ⟨fields, -, hname, hinside⟩ := hasSection_sampleDisk
  exact .asked rfl (nearest_sampleDisk other) (hinside other) hname

/-- Samples agree on all that is read, whatever the other files hold. -/
theorem agree_sampleDisk (other other' : List UInt8) :
    Agree (sampleDisk other) (sampleDisk other') none .here where
  nearest dir := by
    constructor
    · exact fun h => h.unique (nearest_sampleDisk other) ▸ nearest_sampleDisk other'
    · exact fun h => h.unique (nearest_sampleDisk other') ▸ nearest_sampleDisk other
  settings dir h := by
    rw [h.unique (nearest_sampleDisk other)]
    rfl
  names file h := by
    rw [h.unique (selects_sampleDisk other)]
    rfl

/-- The names to start from are the words of the file of names. -/
theorem starts_sampleDisk : Starts (sampleDisk []) none .here ["a", "b", "a"] := by
  have hnames : (readNames (sampleDisk []) ⟨.root, ["w", "n"]⟩).toOption =
      some ["a", "b", "a"] := by decide +kernel
  exact .file (selects_sampleDisk []) (readNames_eq_ok_iff.1 (toOption_eq_some_iff.1 hnames))

/-- The sample is loaded from its own two files: the names of the file of names come first, then
those that are added, each of them once, and `F` has the members that the section gives it. -/
theorem load_reads_nearest_sample :
    Agree (sampleDisk []) (sampleDisk [0xff]) none .here ∧
    load (sampleDisk []) ["b", "y"] none .here = load (sampleDisk [0xff]) ["b", "y"] none .here ∧
    ∃ fields s, Gives fields ["x", "a"] [("F", ["S"])] ∧
      load (sampleDisk []) ["b", "y"] none .here = (.ok s, []) ∧
      InForce (sampleDisk []) .here fields [] ∧
      Starts (sampleDisk []) none .here ["a", "b", "a"] ∧
      FirstOccurrences s.globals (["a", "b", "a"] ++ ["x", "a"] ++ ["b", "y"]) ∧
      s.globals = ["a", "b", "x", "y"] ∧ s.derived.lookup "F" = some ["S"] := by
  obtain ⟨hframe, hresult⟩ :=
    load_reads_nearest keysApart_toml faithful_strict ["b", "y"] none .here
  refine ⟨agree_sampleDisk [] [0xff], hframe _ _ (agree_sampleDisk [] [0xff]), ?_⟩
  obtain ⟨fields, hgives, -, hinside⟩ := hasSection_sampleDisk
  have hforce : InForce (sampleDisk []) .here fields [] :=
    .nearest (nearest_sampleDisk []) (hinside [])
  have hsample : (load (sampleDisk []) ["b", "y"] none .here).1.toOption.map Settings.globals =
      some ["a", "b", "x", "y"] ∧ (load (sampleDisk []) ["b", "y"] none .here).2 = [] := by
    decide +kernel
  obtain ⟨s, hs, hglobals⟩ := Option.map_eq_some_iff.1 hsample.1
  have hload : load (sampleDisk []) ["b", "y"] none .here = (.ok s, []) :=
    Prod.ext (toOption_eq_some_iff.1 hs) hsample.2
  obtain ⟨-, names, others, hnames, hothers, hparts⟩ := hresult _ s [] hload
  obtain rfl := (hothers fields).1 hforce
  obtain rfl := (hnames _).1 (starts_sampleDisk)
  obtain ⟨hfirst, -, hderived⟩ := hparts _ _ hgives
  exact ⟨fields, s, hgives, hload, hforce, starts_sampleDisk, hfirst, hglobals, hderived "F"⟩

end Settings

end DefUse
