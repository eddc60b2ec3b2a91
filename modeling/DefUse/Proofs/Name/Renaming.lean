import Mathlib.Logic.Equiv.Basic
import DefUse.Proofs.Name.Parts

/-!
# Proofs/Name/Renaming — putting other names in the places of names

A renaming says what becomes of the parts of names, one by one and no two of them alike.
`Renaming.apply` carries it over to all names: every part is renamed, and the separators stay where
they are.  A renamed name can be cut at a separator exactly where the name itself can
(`apply_join`, `exists_of_apply_eq`), so all that is ever done to names by cutting and joining them
is done to renamed ones in the same way.
-/

namespace DefUse

/-- **A part of a name**: a text that is not empty and has no separator. -/
abbrev Part := {s : String // s ≠ "" ∧ Plain s}

/-- What a method calls its receiver. -/
def Part.self : Part := ⟨"self", by decide, by decide⟩

/-- **A renaming**: every part becomes another one, and no two become the same.  What a method calls
its receiver is given by the language and stays. -/
structure Renaming where
  part : Part → Part
  injective : Function.Injective part
  part_self : part .self = .self

namespace Renaming

/-- Two parts change places. -/
def swap (p q : Part) (hp : p ≠ .self) (hq : q ≠ .self) : Renaming where
  part := Equiv.swap p q
  injective := (Equiv.swap p q).injective
  part_self := Equiv.swap_apply_of_ne_of_ne hp.symm hq.symm

variable (r : Renaming)

/-- Rename a part; an empty one stays empty. -/
def onPart (cs : List Char) : List Char :=
  if h : String.ofList cs ≠ "" ∧ Plain (String.ofList cs) then
    (r.part ⟨String.ofList cs, h⟩).1.toList
  else cs

/-- **Rename a name**, part by part. -/
def apply (n : String) : String := String.ofList ((Parts.cut n.toList).map r.onPart).glue

theorem onPart_part (p : Part) : r.onPart p.1.toList = (r.part p).1.toList := by
  rw [onPart, dif_pos (by rw [String.ofList_toList]; exact p.2)]
  simp only [String.ofList_toList]

/-- What is no part is left alone. -/
theorem onPart_cases (cs : List Char) :
    (∃ p : Part, cs = p.1.toList ∧ r.onPart cs = (r.part p).1.toList) ∨
      (∀ p : Part, cs ≠ p.1.toList) ∧ r.onPart cs = cs := by
  by_cases h : String.ofList cs ≠ "" ∧ Plain (String.ofList cs)
  · have hcs : cs = (⟨String.ofList cs, h⟩ : Part).1.toList := String.toList_ofList.symm
    exact Or.inl ⟨_, hcs, (congrArg r.onPart hcs).trans (r.onPart_part _)⟩
  · refine Or.inr ⟨fun p hp => h ?_, dif_neg h⟩
    rw [hp, String.ofList_toList]
    exact p.2

theorem plain_onPart {cs : List Char} (h : ∀ sep : Separator, sep.char ∉ cs) :
    ∀ sep : Separator, sep.char ∉ r.onPart cs := by
  rcases r.onPart_cases cs with ⟨p, -, hp⟩ | ⟨-, hcs⟩
  · rw [hp]
    exact (r.part p).2.2
  · rw [hcs]
    exact h

theorem onPart_injective : r.onPart.Injective := by
  intro cs ds h
  rcases r.onPart_cases cs with ⟨p, rfl, hp⟩ | ⟨hcs, hce⟩ <;>
    rcases r.onPart_cases ds with ⟨q, rfl, hq⟩ | ⟨hds, hde⟩
  · have hsame : r.part p = r.part q :=
      Subtype.ext (String.toList_inj.1 (hp.symm.trans (h.trans hq)))
    rw [r.injective hsame]
  · exact absurd (hde.symm.trans (h.symm.trans hp)) (hds _)
  · exact absurd (hce.symm.trans (h.trans hq)) (hcs _)
  · exact hce.symm.trans (h.trans hde)

/-! ## Names -/

theorem toList_apply (n : String) :
    (r.apply n).toList = ((Parts.cut n.toList).map r.onPart).glue := by
  rw [apply, String.toList_ofList]

/-- **Cutting a renamed name renames the parts.** -/
theorem cut_apply (n : String) :
    Parts.cut (r.apply n).toList = (Parts.cut n.toList).map r.onPart := by
  have hplain := Parts.plain_of_mem_cut n.toList
  rw [toList_apply]
  refine Parts.cut_glue fun part hpart => ?_
  have hmem : part ∈ (Parts.cut n.toList).all.map r.onPart := by
    simpa [Parts.all, Parts.map, Function.comp_def] using hpart
  obtain ⟨part', hpart', rfl⟩ := List.mem_map.1 hmem
  exact r.plain_onPart (hplain part' hpart')

@[simp] theorem apply_empty : r.apply "" = "" := rfl

/-- A part of a name is renamed as the renaming says. -/
theorem apply_part (p : Part) : r.apply p.1 = (r.part p).1 := by
  refine String.toList_inj.1 ?_
  rw [toList_apply, Parts.cut_of_plain p.2.2, ← onPart_part]
  simp [Parts.map, Parts.glue]

theorem apply_self : r.apply "self" = "self" :=
  (r.apply_part .self).trans (congrArg Subtype.val r.part_self)

/-- **A joined name is renamed on either side of the separator.** -/
theorem apply_join (base rest : String) (sep : Separator) :
    r.apply (base ++ sep.text ++ rest) = r.apply base ++ sep.text ++ r.apply rest := by
  refine String.toList_inj.1 ?_
  simp only [toList_apply, String.toList_append, Separator.text, String.toList_singleton,
    List.append_assoc, List.singleton_append]
  rw [Parts.cut_append, Parts.map_append, Parts.glue_append]

/-- **A renamed name is a joined one only if the name itself is.** -/
theorem exists_of_apply_eq {n base rest : String} {sep : Separator}
    (h : r.apply n = base ++ sep.text ++ rest) :
    ∃ base' rest', n = base' ++ sep.text ++ rest' ∧ r.apply base' = base ∧
      r.apply rest' = rest := by
  have hcut := r.cut_apply n
  rw [h] at hcut
  simp only [String.toList_append, Separator.text, String.toList_singleton, List.append_assoc,
    List.singleton_append] at hcut
  rw [Parts.cut_append] at hcut
  obtain ⟨p, q, hpq, hp, hq⟩ := Parts.eq_append_of_map hcut.symm
  have hplain := Parts.plain_of_mem_cut n.toList
  rw [hpq] at hplain
  have hback : ∀ {part : Parts} {m : String}, (∀ x ∈ part.all, x ∈ (p.append sep q).all) →
      part.map r.onPart = Parts.cut m.toList → r.apply (String.ofList part.glue) = m := by
    intro part m hsub hmap
    refine String.toList_inj.1 ?_
    rw [toList_apply, String.toList_ofList, Parts.cut_glue fun x hx => hplain x (hsub x hx), hmap,
      Parts.glue_cut]
  refine ⟨String.ofList p.glue, String.ofList q.glue, ?_, hback ?_ hp, hback ?_ hq⟩
  · refine String.toList_inj.1 ?_
    rw [← Parts.glue_cut n.toList, hpq, Parts.glue_append]
    simp [Separator.text]
  · intro x hx
    simp only [Parts.all, Parts.append, List.map_append, List.mem_cons, List.mem_append] at hx ⊢
    tauto
  · intro x hx
    simp only [Parts.all, Parts.append, List.map_append, List.map_cons, List.mem_cons,
      List.mem_append] at hx ⊢
    tauto

/-- **No two names become the same.** -/
theorem apply_injective : Function.Injective r.apply := by
  intro m n h
  have hcut : (Parts.cut m.toList).map r.onPart = (Parts.cut n.toList).map r.onPart := by
    rw [← cut_apply, ← cut_apply, h]
  refine String.toList_inj.1 ?_
  rw [← Parts.glue_cut m.toList, Parts.map_injective r.onPart_injective hcut, Parts.glue_cut]

theorem apply_ne_empty {n : String} (h : n ≠ "") : r.apply n ≠ "" :=
  fun he => h (r.apply_injective (he.trans r.apply_empty.symm))

end Renaming

end DefUse
