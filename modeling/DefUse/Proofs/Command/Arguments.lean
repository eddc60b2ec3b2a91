import DefUse.Command.Invocation

/-!
# Proofs/Command/Arguments — asking for a trace

The option that asks for a trace may stand before the name of a command or right after it.  Options
found first stay first, so in either place it is only added to what is found, and no task looks at
it.  A command line with it therefore asks for what it asks for without it, and for a trace.
-/

namespace DefUse

open Arguments

variable {g : Grammar}

namespace Arguments

/-! ## Options found first -/

/-- What was found, after some options. -/
def Found.after (first : List Occurrence) (f : Found) : Found :=
  { f with switches := first ++ f.switches }

/-- **Options found first stay first** and change nothing else. -/
theorem collect_after (g : Grammar) (first : List Occurrence) (fuel : Nat) (found : Found)
    (args : List (String × Kind)) :
    collect g fuel (found.after first) args = (collect g fuel found args).map (.after first) := by
  induction fuel generalizing found args with
  | zero => rfl
  | succ fuel ih =>
    cases args with
    | nil => rfl
    | cons a rest =>
      obtain ⟨arg, kind⟩ := a
      -- the words of a command are taken alike, since only the options differ
      have hwords : ∀ kind, (∀ s byLetter attached, kind ≠ .switch s byLetter attached) →
          kind ≠ .unknown → collect g (fuel + 1) (found.after first) ((arg, kind) :: rest) =
            (collect g (fuel + 1) found ((arg, kind) :: rest)).map (.after first) := by
        intro kind hswitch hunknown
        have hisNone : (found.after first).words.isNone = found.words.isNone := rfl
        rw [collect, collect, hisNone]
        · dsimp only
          generalize (if found.words.isNone = true then g.wants.count ((arg, kind) :: rest)
            else 0) = count
          by_cases hcount : count = 0
          · rw [if_pos hcount, if_pos hcount, ← ih]
            rfl
          · rw [if_neg hcount, if_neg hcount, ← ih]
            rfl
        · exact hswitch
        · exact hunknown
        · exact hswitch
        · exact hunknown
      cases kind with
      | switch s byLetter attached =>
        rw [collect, collect]
        cases occurrences g rest s byLetter arg.length attached with
        | error e => rfl
        | ok result =>
          obtain ⟨named, count, left⟩ := result
          dsimp only [bind, Except.bind]
          cases firstStop? named with
          | some stop => rfl
          | none =>
            dsimp only
            rw [← ih]
            simp only [Found.after, List.append_assoc]
      | unknown =>
        rw [collect, collect, ← ih]
        rfl
      | word => exact hwords _ nofun nofun
      | divider => exact hwords _ nofun nofun

/-! ## The words of the command -/

/-- Classifying keeps the arguments. -/
theorem map_fst_of_classifyAll {args : List String} {kinds : List (String × Kind)}
    (h : classifyAll g args = .ok kinds) : kinds.map (·.1) = args := by
  induction args generalizing kinds with
  | nil =>
    obtain rfl := Except.ok.inj h
    rfl
  | cons arg rest ih =>
    rw [classifyAll] at h
    cases hkind : classify g arg with
    | error e =>
      rw [hkind] at h
      cases h
    | ok kind =>
      rw [hkind] at h
      cases kind with
      | divider =>
        obtain rfl := Except.ok.inj h
        rw [List.map_cons, List.map_map]
        exact congrArg (arg :: ·) (List.map_id rest)
      | word | unknown | switch =>
        cases hrest : classifyAll g rest with
        | error e =>
          rw [hrest] at h
          cases h
        | ok kinds =>
          rw [hrest] at h
          obtain rfl := Except.ok.inj h
          rw [List.map_cons, ih hrest]

/-- The name of a command takes all that follows it. -/
theorem read_command {name : String} (hg : g.wants = .command)
    (hname : classify g name = .ok .word) (rest : List String) :
    read g (name :: rest) =
      (classifyAll g rest).map fun _ => ⟨[], some (name :: rest), []⟩ := by
  have hkinds : classifyAll g (name :: rest) =
      (classifyAll g rest).map ((name, .word) :: ·) := by
    rw [classifyAll, hname]
    cases classifyAll g rest <;> rfl
  rw [read, hkinds]
  cases hrest : classifyAll g rest with
  | error e => rfl
  | ok kinds =>
    have hall : g.wants.count ((name, .word) :: kinds) = ((name, Kind.word) :: kinds).length := by
      rw [hg]
      rfl
    have hwords : g.wants.wordsOf ((name, .word) :: kinds) = name :: rest := by
      rw [hg, ← map_fst_of_classifyAll hrest]
      rfl
    dsimp only [Except.map, bind, Except.bind]
    rw [collect]
    · dsimp only
      rw [if_pos Option.isNone_none, hall, if_neg (List.length_cons ▸ Nat.succ_ne_zero _),
        List.take_of_length_le (Nat.le_refl _), List.drop_of_length_le (Nat.le_refl _), hwords]
      rfl
    · exact nofun
    · exact nofun

end Arguments

namespace Invocation

/-! ## The option that asks for a trace -/

/-- The option was found. -/
def trace : List Occurrence := [(verboseSwitch, [])]

theorem classify_verbose (hg : g.byLetter? 'v' = some verboseSwitch) :
    classify g "-v" = .ok (.switch verboseSwitch true none) := by
  have hletters : classify g "-v" = .ok (classifyLetters g 'v' []) := rfl
  rw [hletters, classifyLetters, hg]

theorem classifyAll_cons_verbose (hg : g.byLetter? 'v' = some verboseSwitch) (args : List String) :
    classifyAll g ("-v" :: args) =
      (classifyAll g args).map (("-v", .switch verboseSwitch true none) :: ·) := by
  rw [classifyAll, classify_verbose hg]
  cases classifyAll g args <;> rfl

/-- **The option in front of some arguments** is added to what is found in them. -/
theorem read_cons_verbose (hg : g.byLetter? 'v' = some verboseSwitch) (args : List String) :
    Arguments.read g ("-v" :: args) = (Arguments.read g args).map (.after trace) := by
  rw [Arguments.read, Arguments.read, classifyAll_cons_verbose hg]
  cases classifyAll g args with
  | error e => rfl
  | ok kinds => exact collect_after g trace (kinds.length + 1) ⟨[], none, []⟩ kinds

theorem has_after_trace (f : Found) : (f.after trace).has "verbose" = true := by
  rw [Found.has, Found.wordsOf?, Option.isSome_map, List.find?_isSome]
  exact ⟨(verboseSwitch, []), List.mem_reverse.2 List.mem_cons_self, rfl⟩

theorem wordsOf?_after_trace (f : Found) {long : String} (h : "verbose" ≠ long) :
    (f.after trace).wordsOf? long = f.wordsOf? long := by
  have hnone : [(verboseSwitch, ([] : List String))].find? (·.1.long = long) = none :=
    List.find?_eq_none.2 (List.forall_mem_singleton.2 (by rwa [decide_eq_true_eq]))
  rw [Found.wordsOf?, Found.wordsOf?, Found.after, trace, List.reverse_append,
    List.reverse_singleton, List.find?_append, hnone, Option.or_none]

/-- What the option does not touch: each command has it, and no task looks at it. -/
theorem command?_verbose {name : String} {grammar : Grammar} {task : Found → List String → Task}
    (h : command? name = some (grammar, task)) :
    classify programGrammar name = .ok .word ∧ grammar.byLetter? 'v' = some verboseSwitch ∧
      ∀ f words, task (f.after trace) words = task f words := by
  unfold command? at h
  split at h
  · obtain ⟨rfl, rfl⟩ := Prod.mk.inj (Option.some.inj h)
    refine ⟨rfl, rfl, fun f words => ?_⟩
    simp only [verifyTask, Found.pathOf?, Found.has, wordsOf?_after_trace f, ne_eq, String.reduceEq,
      not_false_eq_true]
  · obtain ⟨rfl, rfl⟩ := Prod.mk.inj (Option.some.inj h)
    refine ⟨rfl, rfl, fun f words => ?_⟩
    simp only [dumpTask, Found.pathOf?, wordsOf?_after_trace f, ne_eq, String.reduceEq,
      not_false_eq_true]
  · cases h

/-- **A command line asks for the same as another, and for a trace.** -/
def AddsTrace (args args' : List String) : Prop :=
  ofArguments args' = (ofArguments args).map fun i => { i with verbose := true }

/-- What the findings before and after the name of a command come to. -/
def combine (task : Found → List String → Task) (outer inner : Found) : Except Stop Invocation :=
  match inner.words with
  | none => throw .misuse
  | some words =>
    if outer.leftOver.isEmpty && inner.leftOver.isEmpty then
      return ⟨outer.has "verbose" || inner.has "verbose", task inner words⟩
    else throw .misuse

theorem combine_after_left (task : Found → List String → Task) (outer inner : Found) :
    combine task (outer.after trace) inner =
      (combine task outer inner).map fun i => { i with verbose := true } := by
  have hleft : (outer.after trace).leftOver = outer.leftOver := rfl
  rw [combine, combine, has_after_trace, hleft]
  cases inner.words with
  | none => rfl
  | some words => dsimp only; split <;> rfl

theorem combine_after_right {task : Found → List String → Task}
    (htask : ∀ f words, task (f.after trace) words = task f words) (outer inner : Found) :
    combine task outer (inner.after trace) =
      (combine task outer inner).map fun i => { i with verbose := true } := by
  have hleft : (inner.after trace).leftOver = inner.leftOver := rfl
  have hwords : (inner.after trace).words = inner.words := rfl
  rw [combine, combine, has_after_trace, hleft, hwords, Bool.or_true]
  cases inner.words with
  | none => rfl
  | some words => dsimp only; rw [htask]; split <;> rfl

/-- **The option may stand before everything else.** -/
theorem addsTrace_cons (args : List String) : AddsTrace args ("-v" :: args) := by
  rw [AddsTrace, ofArguments, ofArguments, read_cons_verbose rfl]
  cases Arguments.read programGrammar args with
  | error e => rfl
  | ok outer =>
    dsimp only [Except.map, bind, Except.bind]
    have hwords : (outer.after trace).words = outer.words := rfl
    rw [hwords]
    split
    next name rest _ =>
      cases command? name with
      | none => rfl
      | some command =>
        obtain ⟨grammar, task⟩ := command
        dsimp only
        cases Arguments.read grammar rest with
        | error e => rfl
        | ok inner => exact combine_after_left task outer inner
    next => rfl

/-- **The option may stand right after the name of a command.** -/
theorem addsTrace_command {name : String} (h : (command? name).isSome) (rest : List String) :
    AddsTrace (name :: rest) (name :: "-v" :: rest) := by
  obtain ⟨⟨grammar, task⟩, hcommand⟩ := Option.isSome_iff_exists.1 h
  obtain ⟨hname, hgrammar, htask⟩ := command?_verbose hcommand
  rw [AddsTrace, ofArguments, ofArguments, read_command rfl hname, read_command rfl hname,
    classifyAll_cons_verbose rfl]
  cases classifyAll programGrammar rest with
  | error e => rfl
  | ok kinds =>
    dsimp only [Except.map, bind, Except.bind]
    rw [hcommand]
    dsimp only
    rw [read_cons_verbose hgrammar]
    cases Arguments.read grammar rest with
    | error e => rfl
    | ok inner => exact combine_after_right htask ⟨[], some (name :: rest), []⟩ inner

end Invocation

end DefUse
