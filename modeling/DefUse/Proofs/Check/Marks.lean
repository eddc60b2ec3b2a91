import Mathlib.Data.List.Basic
import Mathlib.Data.List.Induction
import Mathlib.Order.Nat
import DefUse.Finding

/-!
# Proofs/Check/Marks — which findings a history of marks leaves

A history marks down the uses of names that are not visible, and the declarations of names that are
visible already or **fresh**.  `Mark.reports` says which findings it leaves, looking at the whole of
it: every redefinition, and the first undefined use of a name after its last fresh declaration.

`reports_concat` is the other reading: what one more mark does to the findings so far.  It is what a
walk does, one mark at a time, without ever looking back at the history.
-/

namespace DefUse

/-- **A mark of a history.** -/
inductive Mark where
  | undefinedUse (name : String)
  | redefinition (name : String)
  | fresh (name : String)
  deriving DecidableEq

namespace Mark

variable {marks : List Mark} {m : Mark} {n : String} {i j : Nat}

/-- **An undefined use is pending** if its name is not declared afresh after it. -/
def Pending (marks : List Mark) (n : String) (i : Nat) : Prop :=
  marks[i]? = some (.undefinedUse n) ∧ .fresh n ∉ marks.drop (i + 1)

instance : Decidable (Pending marks n i) := inferInstanceAs (Decidable (_ ∧ _))

/-- The first of the pending uses of a name. -/
def FirstPending (marks : List Mark) (n : String) (i : Nat) : Prop :=
  Pending marks n i ∧ ∀ j < i, ¬ Pending marks n j

instance : Decidable (FirstPending marks n i) := inferInstanceAs (Decidable (_ ∧ _))

/-- **What is reported at a place of a history**: a redefinition, or the first pending use of a
name. -/
def reportAt (marks : List Mark) (i : Nat) : Option Finding :=
  match marks[i]? with
  | some (.redefinition n) => some ⟨.redefinition, n⟩
  | some (.undefinedUse n) =>
    if FirstPending marks n i then some ⟨.undefinedUse, n⟩ else none
  | some (.fresh _) => none
  | none => none

/-- **What a history reports**, in the order of its marks. -/
def reports (marks : List Mark) : List Finding :=
  (List.range marks.length).filterMap (reportAt marks)

/-- What one more mark does to findings: a redefinition is added, an undefined use unless there is
one of the name, and a fresh declaration takes the undefined use of its name away. -/
def amend (fs : List Finding) : Mark → List Finding
  | .redefinition n => fs ++ [⟨.redefinition, n⟩]
  | .undefinedUse n =>
    if ⟨.undefinedUse, n⟩ ∈ fs then fs else fs ++ [⟨.undefinedUse, n⟩]
  | .fresh n => fs.filter (· ≠ ⟨.undefinedUse, n⟩)

/-! ## Pending uses -/

theorem Pending.lt_length (h : Pending marks n i) : i < marks.length :=
  (List.getElem?_eq_some_iff.1 h.1).1

theorem pending_concat (hi : i < marks.length) :
    Pending (marks ++ [m]) n i ↔ Pending marks n i ∧ m ≠ .fresh n := by
  rw [Pending, Pending, List.getElem?_append_left hi, List.drop_append_of_le_length hi,
    List.mem_append, List.mem_singleton, not_or, and_assoc, ne_comm]

theorem pending_concat_length : Pending (marks ++ [m]) n marks.length ↔ m = .undefinedUse n := by
  simp [Pending]

/-- One more mark keeps the first pending use of a name, unless it declares the name afresh. -/
theorem firstPending_concat (hi : i < marks.length) :
    FirstPending (marks ++ [m]) n i ↔ FirstPending marks n i ∧ m ≠ .fresh n := by
  rw [FirstPending, FirstPending, pending_concat hi]
  constructor
  · rintro ⟨⟨hp, hm⟩, hfirst⟩
    exact ⟨⟨hp, fun j hj h => hfirst j hj ((pending_concat (hj.trans hi)).2 ⟨h, hm⟩)⟩, hm⟩
  · rintro ⟨⟨hp, hfirst⟩, hm⟩
    exact ⟨⟨hp, hm⟩, fun j hj h => hfirst j hj ((pending_concat (hj.trans hi)).1 h).1⟩

/-- …and is itself the first if none was pending. -/
theorem firstPending_concat_length :
    FirstPending (marks ++ [.undefinedUse n]) n marks.length ↔ ¬ ∃ i, Pending marks n i := by
  rw [FirstPending, pending_concat_length, not_exists]
  constructor
  · rintro ⟨-, hfirst⟩ i hi
    exact hfirst i hi.lt_length ((pending_concat hi.lt_length).2 ⟨hi, by simp⟩)
  · intro h
    exact ⟨rfl, fun i hi hp => h i ((pending_concat hi).1 hp).1⟩

theorem reportAt_eq_undefinedUse :
    reportAt marks i = some ⟨.undefinedUse, n⟩ ↔ FirstPending marks n i := by
  constructor
  · intro h
    unfold reportAt at h
    split at h
    · cases h
    · split at h
      · cases h
        assumption
      · cases h
    · cases h
    · cases h
  · intro h
    rw [reportAt, h.1.1]
    exact if_pos h

/-- **A name has its undefined use reported exactly if one is pending.** -/
theorem mem_reports_iff : ⟨.undefinedUse, n⟩ ∈ reports marks ↔ ∃ i, Pending marks n i := by
  rw [reports, List.mem_filterMap]
  constructor
  · rintro ⟨i, -, hi⟩
    exact ⟨i, (reportAt_eq_undefinedUse.1 hi).1⟩
  · intro h
    -- of the pending uses only the first is reported, so that is the one to find
    have hfirst : FirstPending marks n (Nat.find h) :=
      ⟨Nat.find_spec h, fun j hj => Nat.find_min h hj⟩
    exact ⟨Nat.find h, List.mem_range.2 hfirst.1.lt_length, reportAt_eq_undefinedUse.2 hfirst⟩

/-! ## One more mark -/

/-- Whether a finding stays when one more mark is made. -/
def spares : Mark → Finding → Bool
  | .fresh n, f => f ≠ ⟨.undefinedUse, n⟩
  | .undefinedUse _, _ | .redefinition _, _ => true

theorem spares_undefinedUse : m.spares ⟨.undefinedUse, n⟩ ↔ m ≠ .fresh n := by
  cases m <;> simp [spares, eq_comm (a := n)]

theorem spares_redefinition : m.spares ⟨.redefinition, n⟩ := by
  cases m <;> simp [spares]

/-- At the places before it, one more mark only takes back what a fresh declaration does. -/
theorem reportAt_concat_of_lt (hi : i < marks.length) :
    reportAt (marks ++ [m]) i = (reportAt marks i).filter m.spares := by
  have hget : (marks ++ [m])[i]? = marks[i]? := List.getElem?_append_left hi
  unfold reportAt
  rw [hget]
  cases hm : marks[i]? with
  | none => rfl
  | some mark =>
    cases mark with
    | fresh k => rfl
    | redefinition k => simp [Option.filter_some, spares_redefinition]
    | undefinedUse k =>
      simp only [firstPending_concat hi]
      by_cases hfirst : FirstPending marks k i
      · simp [hfirst, Option.filter_some, spares_undefinedUse]
      · simp [hfirst]

/-- The mark itself is reported unless it is fresh, or an undefined use that is not the first. -/
theorem toList_reportAt_concat_length (marks : List Mark) (m : Mark) :
    (reports marks).filter m.spares ++ (reportAt (marks ++ [m]) marks.length).toList =
      m.amend (reports marks) := by
  have hget : (marks ++ [m])[marks.length]? = some m := List.getElem?_concat_length
  rw [reportAt, hget]
  cases m with
  | redefinition k => simp [amend, spares]
  | fresh k => exact List.append_nil _
  | undefinedUse k =>
    simp only [firstPending_concat_length, ← mem_reports_iff, amend]
    split <;> simp_all [spares]

/-- **What one more mark does to what is reported.** -/
theorem reports_concat (marks : List Mark) (m : Mark) :
    reports (marks ++ [m]) = m.amend (reports marks) := by
  have hbefore : (List.range marks.length).filterMap (reportAt (marks ++ [m])) =
      (reports marks).filter m.spares := by
    rw [reports, List.filter_filterMap]
    exact List.filterMap_congr fun i hi => reportAt_concat_of_lt (List.mem_range.1 hi)
  rw [reports, List.length_append, List.length_singleton, List.range_succ, List.filterMap_append,
    hbefore, ← toList_reportAt_concat_length]
  congr 1

example : reports [.undefinedUse "a", .undefinedUse "b", .undefinedUse "b", .fresh "a",
    .redefinition "a", .undefinedUse "a"] =
    [⟨.undefinedUse, "b"⟩, ⟨.redefinition, "a"⟩, ⟨.undefinedUse, "a"⟩] := by decide

/-- …and what a mark that may be missing does. -/
theorem reports_append_toList (marks : List Mark) (o : Option Mark) :
    reports (marks ++ o.toList) = o.elim (reports marks) (amend (reports marks)) := by
  cases o with
  | none => rw [Option.toList_none, List.append_nil, Option.elim_none]
  | some m => exact reports_concat marks m

/-- **No name has its undefined use reported twice.** -/
theorem pairwise_reports (marks : List Mark) :
    (reports marks).Pairwise fun f g =>
      f.kind = .undefinedUse → g.kind = .undefinedUse → f.name ≠ g.name := by
  induction marks using List.reverseRecOn with
  | nil => exact List.Pairwise.nil
  | append_singleton marks m ih =>
    rw [reports_concat]
    cases m with
    | redefinition n => simpa [amend, List.pairwise_append] using ih
    | fresh n => exact ih.filter _
    | undefinedUse n =>
      rw [amend]
      split
      · exact ih
      · rename_i hn
        refine List.pairwise_append.2 ⟨ih, List.pairwise_singleton _ _, ?_⟩
        rintro ⟨kind, name⟩ hf g hg (rfl : kind = _) - (rfl : name = _)
        rw [List.mem_singleton.1 hg] at hf
        exact hn hf

end Mark

end DefUse
