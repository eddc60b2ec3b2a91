import DefUse.Proofs.Check.Lockstep
import DefUse.Proofs.Name.Parts

/-!
# Proofs/Check/Globals — more names taken for granted

A run under settings that take more names for granted goes its own way: declarations of these names
become redefinitions, and assignments to them stay where they are.  For names without a separator
that is all there is to it.  Such a name is no member of another one, so nothing is copied from it
and no handle gains it, and every other name is seen, reported and forgiven as before.

`AgreeOff` is the relation the two walks keep: agreement on everything but the names that were
added.
-/

namespace DefUse

namespace Mark

/-- The name a mark is about. -/
def name : Mark → String
  | .undefinedUse n | .redefinition n | .fresh n => n

/-- What a mark does to the findings about some names: nothing if it is about none of them. -/
theorem filter_amend (keep : String → Bool) (m : Mark) (fs : List Finding) :
    (m.amend fs).filter (fun f => keep f.name) =
      if keep m.name then m.amend (fs.filter fun f => keep f.name)
      else fs.filter fun f => keep f.name := by
  cases m with
  | redefinition n =>
    by_cases hn : keep n <;> simp [amend, name, hn]
  | undefinedUse n =>
    by_cases hn : keep n <;> by_cases hmem : ⟨.undefinedUse, n⟩ ∈ fs <;>
      simp [amend, name, hn, hmem]
  | fresh n =>
    by_cases hn : keep n
    · simp [amend, name, hn, List.filter_filter, Bool.and_comm]
    · simp only [amend, name, hn, List.filter_filter, Bool.false_eq_true, if_false]
      refine List.filter_congr fun f _ => ?_
      by_cases hf : f = ⟨.undefinedUse, n⟩ <;> simp [hf, hn]

/-- An undefined use is reported only by its own mark. -/
theorem mem_of_mem_amend {m : Mark} {fs : List Finding} {n : String}
    (h : ⟨.undefinedUse, n⟩ ∈ m.amend fs) : ⟨.undefinedUse, n⟩ ∈ fs ∨ m = .undefinedUse n := by
  cases m with
  | redefinition k => simpa [amend] using h
  | fresh k => exact Or.inl (List.mem_filter.1 h).1
  | undefinedUse k =>
    rw [amend] at h
    split at h
    · exact Or.inl h
    · rcases List.mem_append.1 h with h | h
      · exact Or.inl h
      · have hname : n = k := congrArg Finding.name (List.mem_singleton.1 h)
        exact Or.inr (by rw [hname])

end Mark

namespace Session

open Scopes (target)
open Step (Aligned)

variable {G : List String} {s t s' t' : Session} {n : String} {d : Int}

/-- **Two sessions agree off some names**, which the second one takes for granted. -/
structure AgreeOff (G : List String) (s t : Session) : Prop where
  settings_eq : t.settings = { s.settings with globals := t.settings.globals }
  defined_iff : ∀ k n, n ∉ G → (n ∈ t.scopes.definedAt k ↔ n ∈ s.scopes.definedAt k)
  global : ∀ g ∈ G, g ∈ t.scopes.definedAt 0
  findings_eq : t.findings.filter (fun f => f.name ∉ G) = s.findings.filter fun f => f.name ∉ G
  silent : ∀ g ∈ G, ⟨.undefinedUse, g⟩ ∉ t.findings

namespace AgreeOff

theorem sees_iff (h : AgreeOff G s t) (hn : n ∉ G) : t.scopes.Sees n d ↔ s.scopes.Sees n d :=
  exists_congr fun k => and_congr_right fun _ => h.defined_iff k n hn

/-- The names taken for granted are seen everywhere. -/
theorem sees_of_mem (h : AgreeOff G s t) (hn : n ∈ G) (hd : 0 ≤ d) : t.scopes.Sees n d :=
  ⟨0, hd, h.global n hn⟩

/-- Sessions that agree may define names if they agree on those. -/
theorem defines (h : AgreeOff G s t) {P Q : String → Prop} (hs : Defines d P s s')
    (ht : Defines d Q t t') (hPQ : ∀ n, n ∉ G → (Q n ↔ P n)) : AgreeOff G s' t' where
  settings_eq := by rw [ht.settings_eq, hs.settings_eq]; exact h.settings_eq
  defined_iff k n hn := by rw [ht.mem_iff, hs.mem_iff, h.defined_iff k n hn, hPQ n hn]
  global g hg := ht.mem (h.global g hg)
  findings_eq := by rw [ht.findings_eq, hs.findings_eq]; exact h.findings_eq
  silent := by rw [ht.findings_eq]; exact h.silent

/-- Sessions that agree may change their findings if these go on to agree. -/
theorem of_findings (h : AgreeOff G s t) (hs : s'.settings = s.settings)
    (ht : t'.settings = t.settings)
    (hsdefined : ∀ k, s'.scopes.definedAt k = s.scopes.definedAt k)
    (htdefined : ∀ k, t'.scopes.definedAt k = t.scopes.definedAt k)
    (hfindings : t'.findings.filter (fun f => f.name ∉ G) =
      s'.findings.filter fun f => f.name ∉ G)
    (hsilent : ∀ g ∈ G, ⟨.undefinedUse, g⟩ ∉ t'.findings) : AgreeOff G s' t' where
  settings_eq := by rw [ht, hs]; exact h.settings_eq
  defined_iff k n hn := by rw [htdefined, hsdefined]; exact h.defined_iff k n hn
  global g hg := by rw [htdefined]; exact h.global g hg
  findings_eq := hfindings
  silent := hsilent

/-- A mark about a name that was added does not matter. -/
theorem filter_amend_of_mem {m : Mark} (hm : m.name ∈ G) (fs : List Finding) :
    (m.amend fs).filter (fun f => f.name ∉ G) = fs.filter fun f => f.name ∉ G := by
  rw [Mark.filter_amend (fun k => decide (k ∉ G)), if_neg (by simpa using hm)]

/-- One and the same mark keeps findings in agreement. -/
theorem filter_amend_congr (m : Mark) {fs gs : List Finding}
    (h : fs.filter (fun f => f.name ∉ G) = gs.filter fun f => f.name ∉ G) :
    (m.amend fs).filter (fun f => f.name ∉ G) = (m.amend gs).filter fun f => f.name ∉ G := by
  rw [Mark.filter_amend (fun k => decide (k ∉ G)), Mark.filter_amend (fun k => decide (k ∉ G)), h]

theorem declare (h : AgreeOff G s t) (hs : Aligned d s) (ht : Aligned d t) (n : String)
    (isLocal : Bool) : AgreeOff G (s.declare n d isLocal).2 (t.declare n d isLocal).2 := by
  refine h.of_findings settings_declare settings_declare (fun k => by rw [scopes_declare])
    (fun k => by rw [scopes_declare]) ?_ fun g hg hmem => ?_
  · rw [findings_declare_of_aligned hs, findings_declare_of_aligned ht]
    by_cases hn : n ∈ G
    · have hname : ∀ c : Prop, [Decidable c] →
          (if c then Mark.redefinition n else .fresh n).name ∈ G := by
        intro c _
        split <;> exact hn
      rw [filter_amend_of_mem (hname _), filter_amend_of_mem (hname _), h.findings_eq]
    · simp only [h.sees_iff hn]
      exact filter_amend_congr _ h.findings_eq
  · rw [findings_declare_of_aligned ht] at hmem
    rcases Mark.mem_of_mem_amend hmem with hmem | hmem
    · exact h.silent g hg hmem
    · split at hmem <;> cases hmem

theorem use (h : AgreeOff G s t) (hs : Aligned d s) (ht : Aligned d t) (n : String) :
    AgreeOff G (s.use n d).2 (t.use n d).2 := by
  refine h.of_findings settings_use settings_use (fun k => definedAt_use hs)
    (fun k => definedAt_use ht) ?_ fun g hg hmem => ?_
  · rw [findings_use_of_aligned hs, findings_use_of_aligned ht]
    by_cases hn : n ∈ G
    · -- the first walk may report a use that the second one sees defined
      rw [if_pos (h.sees_of_mem hn ht.isOpen.1), h.findings_eq]
      split
      · rfl
      · exact (filter_amend_of_mem (m := .undefinedUse n) hn _).symm
    · simp only [h.sees_iff hn]
      split
      · exact h.findings_eq
      · exact filter_amend_congr _ h.findings_eq
  · rw [findings_use_of_aligned ht] at hmem
    split at hmem
    · exact h.silent g hg hmem
    · rename_i hunseen
      rcases Mark.mem_of_mem_amend hmem with hmem | hmem
      · exact h.silent g hg hmem
      · obtain rfl : n = g := Mark.undefinedUse.inj hmem
        exact hunseen (h.sees_of_mem hg ht.isOpen.1)

theorem closeScope (h : AgreeOff G s t) (hd : 0 < d) (hs : Aligned d s) (ht : Aligned d t) :
    AgreeOff G s.closeScope.2 t.closeScope.2 := by
  refine ⟨?_, fun k n hn => ?_, fun g hg => ?_, ?_, ?_⟩
  · rw [settings_closeScope, settings_closeScope]
    exact h.settings_eq
  · rw [definedAt_closeScope hs hd, definedAt_closeScope ht hd]
    split
    · exact h.defined_iff k n hn
    · exact Iff.rfl
  · rw [definedAt_closeScope ht hd, if_pos (by simpa using hd)]
    exact h.global g hg
  · rw [findings_closeScope, findings_closeScope]
    exact h.findings_eq
  · rw [findings_closeScope]
    exact h.silent

/-- A call gives the same members in both sessions, names without a separator being no members. -/
theorem gains_iff (h : AgreeOff G s t) (hplain : ∀ g ∈ G, Plain g) (name callee m : String) :
    Gains t d name callee m ↔ Gains s d name callee m := by
  have htoken : t.settings.cloneToken = s.settings.cloneToken := by rw [h.settings_eq]; rfl
  have hderived : t.settings.derivedFrom callee = s.settings.derivedFrom callee := by
    rw [h.settings_eq]
    rfl
  have hsep : t.settings.separator = s.settings.separator := by rw [h.settings_eq]
  have hsees : ∀ (source rest : String) (sep : Separator),
      t.scopes.Sees (source ++ sep.text ++ rest) d ↔
        s.scopes.Sees (source ++ sep.text ++ rest) d := fun source rest sep =>
    h.sees_iff fun hmem => (hplain _ hmem).ne_member source rest sep rfl
  constructor
  · rintro (⟨hsource, hcallee, hsee⟩ | hsuffix)
    · exact .copied hsource (htoken ▸ hcallee) ((hsees _ _ _).1 hsee)
    · rw [hsep]
      exact .listed (hderived ▸ hsuffix)
  · rintro (⟨hsource, hcallee, hsee⟩ | hsuffix)
    · exact .copied hsource (htoken ▸ hcallee) ((hsees _ _ _).2 hsee)
    · rw [← hsep]
      exact .listed (hderived ▸ hsuffix)

end AgreeOff

/-- **Agreement off names without a separator lasts.** -/
theorem lockstep_agreeOff (hplain : ∀ g ∈ G, Plain g) : Lockstep id (AgreeOff G) where
  noteLeft _ h := ⟨h.settings_eq, h.defined_iff, h.global, h.findings_eq, h.silent⟩
  noteRight _ h := ⟨h.settings_eq, h.defined_iff, h.global, h.findings_eq, h.silent⟩
  declare n isLocal hs ht h := h.declare hs ht n isLocal
  define n isLocal hs ht h :=
    h.defines (defines_define hs n isLocal) (defines_define ht n isLocal) fun _ _ => Iff.rfl
  use n hs ht h := h.use hs ht n
  assign n hs ht h := by
    refine h.defines (defines_assign hs n) (defines_assign ht n) fun m hm => ?_
    refine and_congr_right fun hmn => not_congr (h.sees_iff ?_)
    exact hmn ▸ hm
  derive n callee _ hs ht h :=
    h.defines (defines_derive hs n callee) (defines_derive ht n callee) fun m _ =>
      h.gains_iff hplain n callee m
  openScope h := by
    refine ⟨h.settings_eq, fun k n hn => ?_, fun g hg => ?_, h.findings_eq, h.silent⟩
    · rw [scopes_openScope, scopes_openScope, Scopes.definedAt_push, Scopes.definedAt_push]
      exact h.defined_iff k n hn
    · rw [scopes_openScope, Scopes.definedAt_push]
      exact h.global g hg
  closeScope hd hs ht h := h.closeScope hd hs ht

theorem agreeOff_start {A : Settings} {globals : List String}
    (hglobals : ∀ n, n ∈ globals ↔ n ∈ A.globals ∨ n ∈ G) (tree : Value) :
    AgreeOff G (start A tree) (start { A with globals } tree) := by
  have hA := fresh_start A tree
  have hB := fresh_start { A with globals } tree
  refine ⟨?_, fun k n hn => ?_, fun g hg => ?_, ?_, fun g _ => ?_⟩
  · rw [hA.settings_eq, hB.settings_eq]
  · rw [mem_definedAt_start, mem_definedAt_start, hglobals]
    simp [hn]
  · rw [mem_definedAt_start, hglobals]
    exact ⟨rfl, Or.inr hg⟩
  · rw [hA.findings_eq, hB.findings_eq]
  · rw [hB.findings_eq]
    exact List.not_mem_nil

/-- **Adding plain globals is local to those names.**  If names without a separator are added to the
ones taken for granted, a tree is a success or not as before and has the same errors, or the same
failure escapes; the findings about all other names are the same, in the same order; and no use of
an added name is reported. -/
theorem verify_add_globals (A : Settings) (globals G : List String)
    (hglobals : ∀ n, n ∈ globals ↔ n ∈ A.globals ∨ n ∈ G) (hplain : ∀ g ∈ G, Plain g)
    (tree : Value) (path : Option String) :
    let a := (start A tree).verify path
    let b := (start { A with globals } tree).verify path
    a.1.map (fun r => (r.success, r.errors, r.findings.filter fun f => f.name ∉ G)) =
        b.1.map (fun r => (r.success, r.errors, r.findings.filter fun f => f.name ∉ G)) ∧
      (a.2.findings.filter fun f => f.name ∉ G) = (b.2.findings.filter fun f => f.name ∉ G) ∧
      (∀ g ∈ G, ⟨.undefinedUse, g⟩ ∉ b.2.findings) ∧
      ∀ r, b.1 = .ok r → ∀ g ∈ G, ⟨.undefinedUse, g⟩ ∉ r.findings := by
  intro a b
  have hend : AgreeOff G a.2 b.2 := by
    have hstart := agreeOff_start hglobals tree
    have hwalk := (lockstep_agreeOff hplain).performAll_same (blockSteps tree)
      (aligned_walking A tree) (aligned_walking { A with globals } tree)
      ⟨hstart.settings_eq, hstart.defined_iff, hstart.global, hstart.findings_eq, hstart.silent⟩
    rw [← walk_start, ← walk_start] at hwalk
    simp only [a, b, snd_verify]
    exact hwalk
  refine ⟨?_, hend.findings_eq.symm, hend.silent, fun r hr g hg => ?_⟩
  · simp only [a, b, fst_verify_start]
    refine conclude_congr _ _ fun errors success => ?_
    simp only [hend.findings_eq, a, b]
  · rw [findings_of_verify hr]
    exact hend.silent g hg

/-- A script that uses `x` and `y`, and then declares both. -/
theorem verify_add_globals_x :
    let A : Settings := ⟨["print"], [], .colon, "Clone"⟩
    let name (n : String) : Value := .record [("type", .str "Identifier"), ("name", .str n)]
    let tree : Value := .record [("type", .str "Chunk"), ("body", .list
      [.record [("type", .str "ReturnStatement"), ("arguments", .list [name "x", name "y"])],
       .record [("type", .str "LocalStatement"), ("variables", .list [name "x", name "y"])]])]
    let a := (start A tree).verify none
    let b := (start { A with globals := ["x", "print"] } tree).verify none
    (∀ n, n ∈ ["x", "print"] ↔ n ∈ A.globals ∨ n ∈ ["x"]) ∧ (∀ g ∈ ["x"], Plain g) ∧
      (a.2.findings.filter fun f => f.name ∉ ["x"]) =
        (b.2.findings.filter fun f => f.name ∉ ["x"]) ∧
      ∀ g ∈ ["x"], ⟨.undefinedUse, g⟩ ∉ b.2.findings := by
  intro A name tree a b
  have hglobals : ∀ n, n ∈ ["x", "print"] ↔ n ∈ A.globals ∨ n ∈ ["x"] := by
    simp [A, or_comm]
  have hplain : ∀ g ∈ ["x"], Plain g := by decide
  have hruns := verify_add_globals A ["x", "print"] ["x"] hglobals hplain tree none
  exact ⟨hglobals, hplain, hruns.2.1, hruns.2.2.1⟩

end Session

end DefUse
