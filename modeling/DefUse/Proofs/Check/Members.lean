import Mathlib.Data.List.Nodup
import DefUse.Proofs.Check.Effects

/-!
# Proofs/Check/Members — the members a handle gains

Members are found and made by cutting names into pieces.  Each cut is said here as an equation
between texts: a member of a name is that name, a separator and something more
(`isMemberOf_iff`), a call that copies a handle is the handle's name and the clone token
(`cloneSource?_eq_some_iff`), and moving a member puts one name in the place of another
(`moveMember_append`).

A member that is copied is cut off behind the name of its handle.  What is left, its **tail**,
begins with the separator that it had, so that the copy has the same one; and a name that only
begins with that of the handle, such as `e10:Set` for `e1`, leaves no tail.  `Session.Copies` says
which tails a call copies, how often and in which order; `Session.Gains` says which names it gives
to a handle.
-/

namespace DefUse

/-! ## Sets in order -/

/-- Once its repetitions are gone, a list has everything once. -/
theorem nodup_eraseDups {α : Type} [BEq α] [LawfulBEq α] : ∀ items : List α, items.eraseDups.Nodup
  | [] => List.nodup_nil
  | a :: rest => by
    rw [List.eraseDups_cons, List.nodup_cons, List.mem_eraseDups]
    exact ⟨by simp, nodup_eraseDups _⟩
termination_by items => items.length
decreasing_by exact Nat.lt_succ_of_le (List.length_filter_le _ rest)

/-- **A set in order is strictly increasing.** -/
theorem Names.pairwise_sorted {names : Names} (h : names.Nodup) :
    names.sorted.Pairwise (· < ·) := by
  have hle : names.sorted.Pairwise (· ≤ ·) := by
    refine (List.pairwise_mergeSort (fun a b c hab hbc => ?_) (fun a b => ?_) names).imp ?_
    · simp only [Bool.not_eq_true', decide_eq_false_iff_not, String.not_lt] at hab hbc ⊢
      exact String.le_trans hab hbc
    · simp only [Bool.or_eq_true, Bool.not_eq_true', decide_eq_false_iff_not, String.not_lt]
      exact String.le_total a b
    · intro a b hab
      simpa only [Bool.not_eq_true', decide_eq_false_iff_not, String.not_lt] using hab
  have hne : names.sorted.Pairwise (· ≠ ·) := (List.mergeSort_perm names _).nodup_iff.2 h
  refine (hle.and hne).imp fun ⟨hab, hne⟩ => ?_
  by_contra hlt
  exact hne (String.le_antisymm hab (String.not_lt.1 hlt))

namespace Scopes

variable {s : Scopes} {base n m : String} {d : Int}

theorem startsWith_iff {start text : String} :
    startsWith start text = true ↔ ∃ rest, text = start ++ rest := by
  rw [startsWith, List.isPrefixOf_iff_prefix]
  constructor
  · rintro ⟨rest, hrest⟩
    exact ⟨String.ofList rest, String.toList_inj.1 (by simp [← hrest])⟩
  · rintro ⟨rest, rfl⟩
    exact ⟨rest.toList, by simp⟩

/-- **A member of a name** is the name, a separator and something more. -/
theorem isMemberOf_iff :
    isMemberOf base n = true ↔
      ∃ (sep : Separator) (rest : String), n = base ++ sep.text ++ rest := by
  rw [isMemberOf, Bool.or_eq_true, startsWith_iff, startsWith_iff]
  constructor
  · rintro (⟨rest, rfl⟩ | ⟨rest, rfl⟩)
    · exact ⟨.dot, rest, rfl⟩
    · exact ⟨.colon, rest, rfl⟩
  · rintro ⟨_ | _, rest, rfl⟩
    · exact Or.inl ⟨rest, rfl⟩
    · exact Or.inr ⟨rest, rfl⟩

/-- A name is in one of the scopes down to a depth exactly if it is seen there. -/
theorem mem_flatten_take_iff {k : Nat} : n ∈ (s.defined.take (k + 1)).flatten ↔ s.Sees n k := by
  rw [List.mem_flatten]
  constructor
  · rintro ⟨names, hnames, hn⟩
    obtain ⟨j, hj⟩ := List.mem_iff_getElem?.1 hnames
    have hlt : j < k + 1 := by
      have := (List.getElem?_eq_some_iff.1 hj).1
      rw [List.length_take] at this
      omega
    rw [List.getElem?_take_of_lt hlt] at hj
    exact ⟨j, by omega, by rw [definedAt, hj]; exact hn⟩
  · rintro ⟨j, hj, hn⟩
    rw [definedAt] at hn
    cases hget : s.defined[j]? with
    | none => simp [hget] at hn
    | some names =>
      rw [hget] at hn
      refine ⟨names, List.mem_iff_getElem?.2 ⟨j, ?_⟩, hn⟩
      rw [List.getElem?_take_of_lt (by omega), hget]

theorem Balanced.members_eq_ok (h : s.Balanced) (hd : s.IsOpen d) (base : String) :
    s.members base d = .ok (Names.sorted
      ((s.defined.take (d.toNat + 1)).flatten.filter (isMemberOf base)).eraseDups) := by
  rw [members, h.level_eq_ok hd]
  rfl

/-- **The members that are told are the ones that are seen.** -/
theorem Balanced.exists_members (h : s.Balanced) (hd : s.IsOpen d) (base : String) :
    ∃ names, s.members base d = .ok names ∧
      ∀ m, m ∈ names ↔ isMemberOf base m = true ∧ s.Sees m d := by
  refine ⟨_, h.members_eq_ok hd base, fun m => ?_⟩
  rw [Names.sorted, List.mem_mergeSort, List.mem_eraseDups, List.mem_filter, mem_flatten_take_iff,
    Int.toNat_of_nonneg hd.1, and_comm]

/-- **The members of a name are told in order, each once.** -/
theorem pairwise_members {names : List String} (h : s.members base d = .ok names) :
    names.Pairwise (· < ·) := by
  unfold members at h
  cases hk : s.level d with
  | error f =>
    rw [hk] at h
    cases h
  | ok k =>
    rw [hk] at h
    obtain rfl := Except.ok.inj h
    exact Names.pairwise_sorted (nodup_eraseDups _)

end Scopes

/-! ## Tails -/

/-- **A tail**: what stands behind the name of a handle in one of its members. -/
def IsTail (t : String) : Prop := ∃ (sep : Separator) (rest : String), t = sep.text ++ rest

/-- A member is the name it is one of and a tail. -/
theorem isMemberOf_append_iff {base t : String} :
    Scopes.isMemberOf base (base ++ t) = true ↔ IsTail t := by
  rw [Scopes.isMemberOf_iff]
  refine exists_congr fun sep => exists_congr fun rest => ?_
  rw [String.append_assoc]
  exact String.append_right_inj base

namespace Session

open Step (Aligned)

variable {s : Session} {settings : Settings} {name callee source m : String} {d : Int}

/-! ## Copied members -/

/-- **A call copies a handle** if it is the handle's name and the clone token. -/
theorem cloneSource?_eq_some_iff :
    cloneSource? settings callee = some source ↔
      source ≠ "" ∧ callee = source ++ settings.cloneToken := by
  simp only [cloneSource?, Bool.and_eq_true, List.isSuffixOf_iff_suffix, decide_eq_true_eq]
  constructor
  · intro h
    split at h
    · rename_i hcopies
      obtain ⟨⟨rest, hrest⟩, hlt⟩ := hcopies
      obtain rfl := Option.some.inj h
      rw [← hrest, List.length_append] at hlt
      have htake : callee.toList.take (callee.toList.length - settings.cloneToken.toList.length) =
          rest := by
        rw [← hrest, List.length_append, Nat.add_sub_cancel, List.take_left]
      rw [htake]
      refine ⟨fun hempty => ?_, String.toList_inj.1 (by simp [← hrest])⟩
      have hrest : rest = [] := by simpa using congrArg String.toList hempty
      simp [hrest] at hlt
    · cases h
  · rintro ⟨hne, rfl⟩
    have hlt : 0 < source.toList.length := by
      rw [List.length_pos_iff]
      exact fun h => hne (String.toList_inj.1 h)
    rw [if_pos ⟨⟨source.toList, by simp⟩, by simpa using hlt⟩]
    simp

theorem moveMember_append (source name rest : String) :
    moveMember source name (source ++ rest) = name ++ rest := by
  rw [moveMember, String.toList_append, ← String.length_toList, List.drop_left,
    String.ofList_toList]

/-- **The tails that a call copies**: those of the visible members of the handle it is called on,
each once and in the order of the members; none if it is no call that copies a handle. -/
structure Copies (s : Session) (callee : String) (d : Int) (tails : List String) : Prop where
  mem_iff : ∀ t, t ∈ tails ↔ ∃ source, source ≠ "" ∧ callee = source ++ s.settings.cloneToken ∧
    IsTail t ∧ s.scopes.Sees (source ++ t) d
  nodup : tails.Nodup
  sorted : ∀ source, callee = source ++ s.settings.cloneToken →
    (tails.map (source ++ ·)).Pairwise (· < ·)

theorem copies_nil (h : ∀ source, source ≠ "" → callee ≠ source ++ s.settings.cloneToken) :
    Copies s callee d [] where
  mem_iff t := by
    simp only [List.not_mem_nil, false_iff]
    rintro ⟨source, hne, hcallee, -⟩
    exact h source hne hcallee
  nodup := List.nodup_nil
  sorted _ _ := List.Pairwise.nil

/-- A member is moved by its tail. -/
theorem moveMember_eq (source name m : String) :
    moveMember source name m = name ++ moveMember source "" m := by
  rw [moveMember, moveMember, String.empty_append]

/-- A call that copies a handle copies the tails of the members that are told for it. -/
theorem copies_of_members (hne : source ≠ "") (hcallee : callee = source ++ s.settings.cloneToken)
    {names : List String} (hnames : s.scopes.members source d = .ok names)
    (hmem : ∀ m, m ∈ names ↔ Scopes.isMemberOf source m = true ∧ s.scopes.Sees m d) :
    Copies s callee d (names.map (moveMember source "")) := by
  have hunique : ∀ source', callee = source' ++ s.settings.cloneToken → source' = source :=
    fun source' h => (String.append_left_inj _).1 (h.symm.trans hcallee)
  have htail : ∀ t, moveMember source "" (source ++ t) = t := fun t => by
    rw [moveMember_append, String.empty_append]
  -- a member is got back by putting its tail behind the name
  have hback : ∀ m ∈ names, source ++ moveMember source "" m = m := fun m hm => by
    obtain ⟨sep, rest, rfl⟩ := Scopes.isMemberOf_iff.1 ((hmem m).1 hm).1
    rw [String.append_assoc, htail]
  have hfull : (names.map (moveMember source "")).map (source ++ ·) = names := by
    rw [List.map_map]
    exact (List.map_congr_left hback).trans (List.map_id names)
  have hsorted : ((names.map (moveMember source "")).map (source ++ ·)).Pairwise (· < ·) := by
    rw [hfull]
    exact Scopes.pairwise_members hnames
  refine ⟨fun t => ⟨fun ht => ?_, ?_⟩, List.Nodup.of_map _ hsorted.nodup,
    fun source' h => hunique source' h ▸ hsorted⟩
  · obtain ⟨m, hm, rfl⟩ := List.mem_map.1 ht
    obtain ⟨his, hsees⟩ := (hmem m).1 hm
    refine ⟨source, hne, hcallee, ?_, ?_⟩
    · rw [← isMemberOf_append_iff, hback m hm]
      exact his
    · rw [hback m hm]
      exact hsees
  · rintro ⟨source', -, h, his, hsees⟩
    obtain rfl := hunique source' h
    exact List.mem_map.2 ⟨_, (hmem _).2 ⟨isMemberOf_append_iff.2 his, hsees⟩, htail t⟩

/-- What is told for a call: the tails it copies, behind the new name, and then what the table
lists. -/
theorem exists_copies (h : s.scopes.Balanced) (hd : s.scopes.IsOpen d) (name callee : String) :
    ∃ tails, Copies s callee d tails ∧
      s.derivedMembers name callee d = .ok (tails.map (name ++ ·) ++
        (s.settings.derivedFrom callee).map (name ++ s.settings.separator.text ++ ·)) := by
  cases hsource : cloneSource? s.settings callee with
  | none =>
    refine ⟨[], copies_nil fun source hne heq => ?_, ?_⟩
    · rw [cloneSource?_eq_some_iff.2 ⟨hne, heq⟩] at hsource
      cases hsource
    · simp only [derivedMembers, hsource]
      rfl
  | some source =>
    obtain ⟨hne, hcallee⟩ := cloneSource?_eq_some_iff.1 hsource
    obtain ⟨names, hnames, hmem⟩ := h.exists_members hd source
    have hmoved : (names.map (moveMember source "")).map (name ++ ·) =
        names.map (moveMember source name) := by
      rw [List.map_map]
      exact List.map_congr_left fun m _ => (moveMember_eq source name m).symm
    refine ⟨_, copies_of_members hne hcallee hnames hmem, ?_⟩
    rw [hmoved]
    simp only [derivedMembers, hsource, hnames]
    rfl

/-! ## Gained members -/

/-- **The names that a call gives to a handle**: the members of the handle it copies, moved, and
those the table lists for what is called. -/
inductive Gains (s : Session) (d : Int) (name callee : String) : String → Prop
  | copied {source rest : String} {sep : Separator} (hsource : source ≠ "")
      (hcallee : callee = source ++ s.settings.cloneToken)
      (hsees : s.scopes.Sees (source ++ sep.text ++ rest) d) :
      Gains s d name callee (name ++ sep.text ++ rest)
  | listed {suffix : String} (hsuffix : suffix ∈ s.settings.derivedFrom callee) :
      Gains s d name callee (name ++ s.settings.separator.text ++ suffix)

/-- **The members told for a call are those it gives.** -/
theorem mem_derivedMembers (h : s.scopes.Balanced) (hd : s.scopes.IsOpen d)
    (name callee : String) :
    ∃ names, s.derivedMembers name callee d = .ok names ∧
      ∀ m, m ∈ names ↔ Gains s d name callee m := by
  obtain ⟨tails, htails, htold⟩ := exists_copies h hd name callee
  refine ⟨_, htold, fun m => ?_⟩
  rw [List.mem_append, List.mem_map, List.mem_map]
  constructor
  · rintro (⟨t, ht, rfl⟩ | ⟨suffix, hsuffix, rfl⟩)
    · obtain ⟨source, hne, hcallee, ⟨sep, rest, rfl⟩, hsees⟩ := (htails.mem_iff t).1 ht
      rw [← String.append_assoc] at hsees ⊢
      exact .copied hne hcallee hsees
    · exact .listed hsuffix
  · rintro (@⟨source, rest, sep, hne, hcallee, hsees⟩ | hsuffix)
    · rw [String.append_assoc] at hsees ⊢
      exact Or.inl ⟨_, (htails.mem_iff _).2 ⟨source, hne, hcallee, ⟨sep, rest, rfl⟩, hsees⟩, rfl⟩
    · exact Or.inr ⟨_, hsuffix, rfl⟩

/-- **A call defines the members it gives** at the depth of the handle. -/
theorem defines_derive_of_isOpen (h : s.scopes.Balanced) (hd : s.scopes.IsOpen d)
    (name callee : String) :
    Defines d (Gains s d name callee) s (s.derive name callee d).2 := by
  obtain ⟨names, hnames, hmem⟩ := mem_derivedMembers h hd name callee
  rw [derive, hnames]
  exact (defines_defineAll names.eraseDups h hd).congr fun m => by rw [List.mem_eraseDups, hmem]

theorem defines_derive (h : Aligned d s) (name callee : String) :
    Defines d (Gains s d name callee) s (s.derive name callee d).2 :=
  defines_derive_of_isOpen h.balanced h.isOpen name callee

/-- **A call gives exactly what it tells.**  Wherever a scope is open, a call tells first the
members of the handle it copies, each with its own separator behind the new name, each once and in
the order of the members that are copied; and then what the table lists for it, in its order.  These
names are defined in the scope at the depth, and nothing else is changed. -/
theorem defines_derivedMembers (h : s.scopes.Balanced) (hd : s.scopes.IsOpen d)
    (name callee : String) :
    ∃ tails, Copies s callee d tails ∧
      let told := tails.map (name ++ ·) ++
        (s.settings.derivedFrom callee).map (name ++ s.settings.separator.text ++ ·)
      s.derivedMembers name callee d = .ok told ∧ (tails.map (name ++ ·)).Nodup ∧
      (s.derive name callee d).1 = none ∧
      (s.derive name callee d).2.scopes.defined.length = s.scopes.defined.length ∧
      Defines d (· ∈ told) s (s.derive name callee d).2 := by
  obtain ⟨tails, htails, htold⟩ := exists_copies h hd name callee
  refine ⟨tails, htails, htold, ?_, failure_derive h hd name callee,
    (frame_derive h callee).definedLength, ?_⟩
  · exact List.Nodup.map (fun t t' ht => (String.append_right_inj name).1 ht) htails.nodup
  · rw [derive, htold]
    exact (defines_defineAll _ h hd).congr fun m => List.mem_eraseDups

/-- The copy of `e1` has a member from either scope, with its own separator, and none of `e10`; the
table lists one of them once more. -/
theorem defines_derivedMembers_copy :
    let settings : Settings :=
      ⟨["e1:Set", "e10:Get"], [("e1:Clone", ["x", "Set"])], .colon, "Clone"⟩
    let s := ((start settings .null).openScope.define "e1.a" 1 true).2
    (s.scopes.Balanced ∧ s.scopes.IsOpen 1) ∧
      s.derivedMembers "e2" "e1:Clone" 1 = .ok ["e2.a", "e2:Set", "e2:x", "e2:Set"] ∧
      (s.derive "e2" "e1:Clone" 1).1 = none ∧
      Defines 1 (· ∈ ["e2.a", "e2:Set", "e2:x", "e2:Set"]) s (s.derive "e2" "e1:Clone" 1).2 := by
  intro settings s
  have hs : s.scopes.Balanced := ⟨by decide +kernel, by decide +kernel⟩
  have hd : s.scopes.IsOpen 1 := by decide +kernel
  have hfound : ((s.scopes.defined.take ((1 : Int).toNat + 1)).flatten.filter
      (Scopes.isMemberOf "e1")).eraseDups = ["e1:Set", "e1.a"] := by decide +kernel
  have hsorted : Names.sorted ["e1:Set", "e1.a"] = ["e1.a", "e1:Set"] :=
    List.Perm.eq_of_pairwise (fun a b _ _ hab hba => absurd hba (String.lt_asymm hab))
      (Names.pairwise_sorted (by decide +kernel)) (by decide +kernel)
      ((List.mergeSort_perm _ _).trans (.swap _ _ _))
  have hmembers : s.scopes.members "e1" 1 = .ok ["e1.a", "e1:Set"] := by
    rw [hs.members_eq_ok hd, hfound, hsorted]
  have hsource : cloneSource? s.settings "e1:Clone" = some "e1" := by decide +kernel
  have hgiven : s.derivedMembers "e2" "e1:Clone" 1 =
      .ok ["e2.a", "e2:Set", "e2:x", "e2:Set"] := by
    simp only [derivedMembers, hsource, hmembers]
    exact congrArg Except.ok (by decide +kernel)
  obtain ⟨tails, -, htold, -, hnone, -, hdefines⟩ := defines_derivedMembers hs hd "e2" "e1:Clone"
  rw [← Except.ok.inj (hgiven.symm.trans htold)] at hdefines
  exact ⟨⟨hs, hd⟩, hgiven, hnone, hdefines⟩

end Session

end DefUse
