import Mathlib.Data.List.Basic
import DefUse.Name

/-!
# Proofs/Name/Parts — a name is its parts and the separators between them

A name is a flat text, and everything that is known about its structure is read off its characters.
`Parts.cut` takes a name apart at its separators and `Parts.glue` puts parts together.  Neither
loses anything: gluing what was cut gives the name back (`glue_cut`), and cutting what was glued
gives the parts back as long as they have no separators of their own (`cut_glue`).  So wherever a
name is cut in two at a separator, its parts are cut in two as well (`cut_append`).
-/

namespace DefUse

/-- **A name without a separator.** -/
def Plain (n : String) : Prop := ∀ sep : Separator, sep.char ∉ n.toList

instance (n : String) : Decidable (Plain n) :=
  decidable_of_iff (Separator.dot.char ∉ n.toList ∧ Separator.colon.char ∉ n.toList)
    ⟨fun h sep => match sep with | .dot => h.1 | .colon => h.2, fun h => ⟨h .dot, h .colon⟩⟩

/-- A name without a separator is no member of any name. -/
theorem Plain.ne_member {n : String} (h : Plain n) (base rest : String) (sep : Separator) :
    n ≠ base ++ sep.text ++ rest := by
  rintro rfl
  exact h sep (by simp [Separator.text])

namespace Separator

/-- The separator a character is. -/
def ofChar? (c : Char) : Option Separator :=
  if c = dot.char then some dot else if c = colon.char then some colon else none

@[simp] theorem ofChar?_char (sep : Separator) : ofChar? sep.char = some sep := by
  cases sep <;> rfl

theorem char_eq_of_ofChar? {c : Char} {sep : Separator} (h : ofChar? c = some sep) :
    sep.char = c := by
  unfold ofChar? at h
  split at h
  · rename_i hc
    rw [← Option.some.inj h, hc]
  · split at h
    · rename_i hc
      rw [← Option.some.inj h, hc]
    · cases h

theorem ofChar?_eq_none {c : Char} (h : ∀ sep : Separator, sep.char ≠ c) : ofChar? c = none := by
  rw [ofChar?, if_neg (h dot).symm, if_neg (h colon).symm]

end Separator

/-- **The parts of a name**: the first one, and each of the others behind its separator. -/
structure Parts where
  first : List Char
  links : List (Separator × List Char)

namespace Parts

/-- All the parts, without the separators. -/
def all (p : Parts) : List (List Char) := p.first :: p.links.map (·.2)

/-- Parts with another function's values in their places. -/
def map (f : List Char → List Char) (p : Parts) : Parts :=
  ⟨f p.first, p.links.map fun link => (link.1, f link.2)⟩

/-- Parts, a separator and more parts. -/
def append (p : Parts) (sep : Separator) (q : Parts) : Parts :=
  ⟨p.first, p.links ++ (sep, q.first) :: q.links⟩

/-- Cut a name at its separators. -/
def cut : List Char → Parts
  | [] => ⟨[], []⟩
  | c :: cs =>
    match Separator.ofChar? c with
    | some sep => ⟨[], (sep, (cut cs).first) :: (cut cs).links⟩
    | none => ⟨c :: (cut cs).first, (cut cs).links⟩

/-- Put parts together. -/
def glue (p : Parts) : List Char := p.first ++ p.links.flatMap fun link => link.1.char :: link.2

theorem glue_append (p : Parts) (sep : Separator) (q : Parts) :
    (p.append sep q).glue = p.glue ++ sep.char :: q.glue := by
  simp [append, glue]

theorem map_append (f : List Char → List Char) (p : Parts) (sep : Separator) (q : Parts) :
    (p.append sep q).map f = (p.map f).append sep (q.map f) := by
  simp [append, map]

/-- **A name is its parts put together.** -/
theorem glue_cut (cs : List Char) : (cut cs).glue = cs := by
  induction cs with
  | nil => rfl
  | cons c cs ih =>
    rw [cut]
    split
    · rename_i sep hsep
      rw [← Separator.char_eq_of_ofChar? hsep]
      exact congrArg (sep.char :: ·) ih
    · exact congrArg (c :: ·) ih

/-- **Cutting a name cuts what is on either side of a separator.** -/
theorem cut_append (xs : List Char) (sep : Separator) (ys : List Char) :
    cut (xs ++ sep.char :: ys) = (cut xs).append sep (cut ys) := by
  induction xs with
  | nil => simp [cut, append]
  | cons x xs ih =>
    rw [List.cons_append, cut, cut, ih]
    split <;> rfl

/-- A name without separators is its only part. -/
theorem cut_of_plain {cs : List Char} (h : ∀ sep : Separator, sep.char ∉ cs) :
    cut cs = ⟨cs, []⟩ := by
  induction cs with
  | nil => rfl
  | cons c cs ih =>
    have hc : Separator.ofChar? c = none :=
      Separator.ofChar?_eq_none fun sep hsep => h sep (hsep ▸ List.mem_cons_self)
    have hcs : cut cs = ⟨cs, []⟩ := ih fun sep hsep => h sep (List.mem_cons_of_mem _ hsep)
    rw [cut, hc, hcs]

/-- Parts that were cut have no separators. -/
theorem plain_of_mem_cut (cs : List Char) :
    ∀ part ∈ (cut cs).all, ∀ sep : Separator, sep.char ∉ part := by
  induction cs with
  | nil => simp [cut, all]
  | cons c cs ih =>
    rw [all, List.forall_mem_cons] at ih
    rw [cut]
    split
    · rw [all, List.forall_mem_cons]
      refine ⟨by simp, ?_⟩
      rw [List.map_cons, List.forall_mem_cons]
      exact ih
    · rename_i hc
      rw [all, List.forall_mem_cons]
      refine ⟨fun sep hmem => ?_, ih.2⟩
      rcases List.mem_cons.1 hmem with rfl | hmem
      · simp at hc
      · exact ih.1 sep hmem

/-- **Parts without separators come back when what was put together is cut.** -/
theorem cut_glue {p : Parts} (h : ∀ part ∈ p.all, ∀ sep : Separator, sep.char ∉ part) :
    cut p.glue = p := by
  obtain ⟨first, links⟩ := p
  rw [all, List.forall_mem_cons] at h
  induction links generalizing first with
  | nil =>
    rw [glue, List.flatMap_nil, List.append_nil]
    exact cut_of_plain h.1
  | cons link links ih =>
    obtain ⟨sep, part⟩ := link
    rw [List.map_cons, List.forall_mem_cons] at h
    have hglue : glue ⟨first, (sep, part) :: links⟩ = first ++ sep.char :: glue ⟨part, links⟩ := rfl
    rw [hglue, cut_append, cut_of_plain h.1, ih part h.2]
    rfl

theorem map_injective {f : List Char → List Char} (hf : f.Injective) : (map f).Injective := by
  intro p q h
  obtain ⟨hfirst, hlinks⟩ := Parts.mk.inj h
  have hlink : Function.Injective fun link : Separator × List Char => (link.1, f link.2) := by
    intro link link' he
    obtain ⟨hsep, hpart⟩ := Prod.mk.inj he
    exact Prod.ext hsep (hf hpart)
  calc p = ⟨p.first, p.links⟩ := rfl
    _ = ⟨q.first, q.links⟩ := by rw [hf hfirst, List.map_injective_iff.2 hlink hlinks]

/-- Parts that are cut in two at one of their links. -/
theorem eq_append_of_map {f : List Char → List Char} {p q r : Parts} {sep : Separator}
    (h : p.map f = q.append sep r) :
    ∃ q' r' : Parts, p = q'.append sep r' ∧ q'.map f = q ∧ r'.map f = r := by
  obtain ⟨first, links⟩ := p
  obtain ⟨hfirst, hlinks⟩ := Parts.mk.inj h
  obtain ⟨before, after, rfl, hbefore, hafter⟩ := List.map_eq_append_iff.1 hlinks
  obtain ⟨⟨sep', part⟩, more, rfl, hlink, hmore⟩ := List.map_eq_cons_iff.1 hafter
  obtain ⟨rfl, hpart⟩ := Prod.mk.inj hlink
  refine ⟨⟨first, before⟩, ⟨part, more⟩, rfl, ?_, ?_⟩
  · rw [map, hfirst, hbefore]
  · rw [map, hpart, hmore]

end Parts

end DefUse
