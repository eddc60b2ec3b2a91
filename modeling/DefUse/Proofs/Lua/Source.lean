import DefUse.Check.File
import DefUse.Proofs.Check.Fragment
import DefUse.Proofs.Check.Lockstep
import DefUse.Proofs.Lua.Tokens
import DefUse.Standard

/-!
# Proofs/Lua/Source — trees read from a source text

What makes trees and what checks them meet here.  Whatever parser is used, if its syntax is sound,
then every tree that is read from a source text conforms, so it is well-shaped, and checking it
gives a report: no field is ever used as something it is not, and if the check does not come to the
end, it is because a construct is not supported.
-/

namespace DefUse.Lua

/-- **What is taken of the parser**: the syntax it gives is sound. -/
def SoundParser [Libraries] : Prop :=
  ∀ {source : String} {root : Root}, Libraries.parseLua source = .ok root → root.Sound

theorem parse_eq_ok_iff {source : String} {root : Root} :
    parse source = .ok root ↔ parse? source = some root := by
  unfold parse
  split <;> simp [*]

/-- The parser of a run gives sound syntax. -/
theorem soundParser : SoundParser := fun h => (sound_of_parse? (parse_eq_ok_iff.1 h)).1

section

variable [Libraries] {source : String} {tree : Value}

theorem tree_eq_ok_iff :
    Lua.tree source = .ok tree ↔
      ∃ root, Libraries.parseLua source = .ok root ∧ convert root = .ok tree := by
  unfold Lua.tree
  split
  · rename_i root hroot
    rw [mapError_eq_ok_iff, hroot]
    simp
  · rename_i hroot
    simp [hroot]

/-- **A tree is spelled by the words of the syntax it is made from.** -/
theorem converted_of_tree (hparser : SoundParser) (h : Lua.tree source = .ok tree) :
    ∃ root, Libraries.parseLua source = .ok root ∧ Converted root.words [tree] ∧
      kindOf tree = .str "Chunk" := by
  obtain ⟨root, hroot, hconvert⟩ := tree_eq_ok_iff.1 h
  exact ⟨root, hroot, converted_convert (hparser hroot) hconvert⟩

/-- **A source text never trips the shape checks.**  Whatever the parser makes of a source text, as
long as it is sound: every node of the tree keeps the contract of its kind, so that a conditional
has its clauses in order; and the tree has the words of the syntax, in their order.  Whatever the
settings, checking the tree gives a report: it comes to its end without an error, or its one error
is the refusal of a construct that is not supported, which is what the walk stopped at. -/
theorem verifyTree_of_source (hparser : SoundParser) (h : Lua.tree source = .ok tree) :
    tree.AllNodes Conforms ∧ kindOf tree = .str "Chunk" ∧
      (∃ root, Libraries.parseLua source = .ok root ∧ tree.words = root.words) ∧
      ∀ (settings : Settings) (path : Option String),
        ∃ r, verifyTree settings tree path = .ok r ∧
          (((Session.start settings tree).walk 0).1 = none ∧ r.errors = [] ∨
            ∃ f m, ((Session.start settings tree).walk 0).1 = some f ∧ f.IsRefusal ∧
              f.message? = some m ∧ r.errors = [m]) := by
  obtain ⟨root, hroot, hconverted, hkind⟩ := converted_of_tree hparser h
  have hnodes : tree.AllNodes Conforms := hconverted.nodes tree List.mem_cons_self
  have hwords : tree.words = root.words := by simpa using hconverted.words
  refine ⟨hnodes, hkind, ⟨root, hroot, hwords⟩, fun settings path => ?_⟩
  have hshaped := shaped_of_conforms hnodes (isRecord_of_kindOf_eq hkind)
  have hdecides := decides_blockSteps (hshaped.block hkind (by decide))
  have hwalk := Session.failure_walk_start settings tree
  rw [verifyTree, Session.fst_verify, hwalk]
  cases hf : (Step.stopsAll (blockSteps tree)).head? with
  | none => exact ⟨_, rfl, Or.inl ⟨rfl, rfl⟩⟩
  | some f =>
    have hrefusal : f.IsRefusal := hdecides.refusals f (List.mem_of_head? hf)
    obtain ⟨m, hm⟩ := hrefusal.exists_message
    exact ⟨_, by simp only [Session.conclude, hm]; rfl, Or.inr ⟨f, m, rfl, hrefusal, hm, rfl⟩⟩

end

/-- A conditional with all three clauses, the second of which returns what is not supported. -/
theorem verifyTree_of_source_branch :
    let source := "if a then f(x) elseif b then return t[1] else y = 'z' end"
    ∃ tree, Lua.tree source = .ok tree ∧
      tree.words = [.keyword "if", .name "a", .name "f", .name "x", .keyword "elseif", .name "b",
        .name "t", .numeral (.whole 1), .keyword "else", .name "y", .text "z"] ∧
      tree.AllNodes Conforms ∧
      (∃ root, Libraries.parseLua source = .ok root ∧ tree.words = root.words) ∧
      ∃ r, verifyTree .bundled tree none = .ok r ∧
        (((Session.start .bundled tree).walk 0).1 = none ∧ r.errors = [] ∨
          ∃ f m, ((Session.start .bundled tree).walk 0).1 = some f ∧ f.IsRefusal ∧
            f.message? = some m ∧ r.errors = [m]) := by
  intro source
  have hsource : (Lua.tree source).toOption.map Value.words =
      some [.keyword "if", .name "a", .name "f", .name "x", .keyword "elseif", .name "b",
        .name "t", .numeral (.whole 1), .keyword "else", .name "y", .text "z"] := by
    decide +kernel
  obtain ⟨tree, htree, hwords⟩ := Option.map_eq_some_iff.1 hsource
  have htree : Lua.tree source = .ok tree := toOption_eq_some_iff.1 htree
  obtain ⟨hnodes, -, hroot, hreport⟩ := verifyTree_of_source soundParser htree
  exact ⟨tree, htree, hwords, hnodes, hroot, hreport .bundled none⟩

end DefUse.Lua
