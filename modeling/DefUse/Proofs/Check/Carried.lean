import DefUse.Proofs.Check.Globals

/-!
# Proofs/Check/Carried — what copied handles carry over from names taken for granted

A name that is taken for granted is visible everywhere, so no use of it is reported.  Taking more
names for granted might be thought to do nothing but silence uses.  It does more if an added name is
a member of a handle: whatever copies the handle now gains a member of its own, in the scope of the
copy alone.  An assignment to that member stays there, where it would have defined a global name,
and a declaration of it redefines it, where it would have forgiven an earlier use
(`undefined_use_with_more_globals`).

That is all there is.  `Carried` are the names that copies can gain from the added ones, one after
the other, and outside them two runs that differ in the added names stay in agreement: what the run
with more names reports undefined, the other one reports too (`verify_more_globals`).
-/

namespace DefUse

/-- **An undefined use is reported** if its own mark is made, or it was reported before and its name
is not declared afresh. -/
theorem Mark.undefinedUse_mem_amend {m : Mark} {fs : List Finding} {n : String} :
    ⟨.undefinedUse, n⟩ ∈ m.amend fs ↔
      m = .undefinedUse n ∨ ⟨.undefinedUse, n⟩ ∈ fs ∧ m ≠ .fresh n := by
  cases m with
  | redefinition k => simp [amend]
  | fresh k => simp [amend, @eq_comm _ n k]
  | undefinedUse k =>
    by_cases hk : k = n
    · subst hk
      simp only [amend, true_or, iff_true]
      split <;> simp_all
    · simp only [amend, Mark.undefinedUse.injEq, hk, false_or, ne_eq, reduceCtorEq,
        not_false_eq_true, and_true]
      split
      · rfl
      · simp [Ne.symm hk]

/-- **The names that copied handles carry over** from some names.  If a call of a handle's name and
the clone token gives its members to another name, then whatever follows the handle in one of the
names, separator included, follows that other name too; and so on from there. -/
inductive Carried (gifts : List (String × String)) (token : String) (names : List String) :
    String → Prop
  | first {name source rest : String} {sep : Separator} (hsource : source ≠ "")
      (hgift : (name, source ++ token) ∈ gifts) (hmem : source ++ sep.text ++ rest ∈ names) :
      Carried gifts token names (name ++ sep.text ++ rest)
  | next {name source rest : String} {sep : Separator} (hsource : source ≠ "")
      (hgift : (name, source ++ token) ∈ gifts)
      (h : Carried gifts token names (source ++ sep.text ++ rest)) :
      Carried gifts token names (name ++ sep.text ++ rest)

namespace Session

open Scopes (target)
open Step (Aligned giftsAll)

variable {s t s' t' : Session} {n m : String} {d : Int} {isLocal : Bool}

/-! ## Reported uses -/

theorem undefinedUse_mem_declare (h : Aligned d s) :
    ⟨.undefinedUse, m⟩ ∈ (s.declare n d isLocal).2.findings ↔
      ⟨.undefinedUse, m⟩ ∈ s.findings ∧ ¬ (m = n ∧ ¬ s.scopes.Sees n (target d isLocal)) := by
  rw [findings_declare_of_aligned h, Mark.undefinedUse_mem_amend]
  split <;> simp_all [eq_comm]

theorem undefinedUse_mem_use (h : Aligned d s) :
    ⟨.undefinedUse, m⟩ ∈ (s.use n d).2.findings ↔
      ⟨.undefinedUse, m⟩ ∈ s.findings ∨ m = n ∧ ¬ s.scopes.Sees n d := by
  rw [findings_use_of_aligned h]
  split
  · simp_all
  · rw [Mark.undefinedUse_mem_amend]
    simp_all [eq_comm, or_comm]

/-! ## Agreement outside the names carried over -/

variable {gifts : List (String × String)} {token : String} {G : List String}

/-- **Two sessions agree outside some names and what is carried over from them**, the second one
taking these names for granted. -/
structure AgreeBeyond (gifts : List (String × String)) (token : String) (G : List String)
    (s t : Session) : Prop where
  settings_eq : t.settings = { s.settings with globals := t.settings.globals }
  token_eq : s.settings.cloneToken = token
  defined_iff : ∀ k n, n ∉ G → ¬ Carried gifts token G n →
    (n ∈ t.scopes.definedAt k ↔ n ∈ s.scopes.definedAt k)
  global : ∀ g ∈ G, g ∈ t.scopes.definedAt 0
  undefined_iff : ∀ n, n ∉ G → ¬ Carried gifts token G n →
    (⟨.undefinedUse, n⟩ ∈ t.findings ↔ ⟨.undefinedUse, n⟩ ∈ s.findings)
  silent : ∀ g ∈ G, ⟨.undefinedUse, g⟩ ∉ t.findings

namespace AgreeBeyond

theorem sees_iff (h : AgreeBeyond gifts token G s t) (hn : n ∉ G)
    (hc : ¬ Carried gifts token G n) : t.scopes.Sees n d ↔ s.scopes.Sees n d :=
  exists_congr fun k => and_congr_right fun _ => h.defined_iff k n hn hc

/-- The names taken for granted are seen everywhere. -/
theorem sees_of_mem (h : AgreeBeyond gifts token G s t) (hn : n ∈ G) (hd : 0 ≤ d) :
    t.scopes.Sees n d := ⟨0, hd, h.global n hn⟩

/-- Sessions that agree may define names if they agree on those. -/
theorem defines (h : AgreeBeyond gifts token G s t) {P Q : String → Prop} (hs : Defines d P s s')
    (ht : Defines d Q t t') (hPQ : ∀ n, n ∉ G → ¬ Carried gifts token G n → (Q n ↔ P n)) :
    AgreeBeyond gifts token G s' t' where
  settings_eq := by rw [ht.settings_eq, hs.settings_eq]; exact h.settings_eq
  token_eq := by rw [hs.settings_eq]; exact h.token_eq
  defined_iff k n hn hc := by rw [ht.mem_iff, hs.mem_iff, h.defined_iff k n hn hc, hPQ n hn hc]
  global g hg := ht.mem (h.global g hg)
  undefined_iff := by rw [ht.findings_eq, hs.findings_eq]; exact h.undefined_iff
  silent := by rw [ht.findings_eq]; exact h.silent

/-- Sessions that agree may change their findings if these go on to agree. -/
theorem of_findings (h : AgreeBeyond gifts token G s t) (hs : s'.settings = s.settings)
    (ht : t'.settings = t.settings)
    (hsdefined : ∀ k, s'.scopes.definedAt k = s.scopes.definedAt k)
    (htdefined : ∀ k, t'.scopes.definedAt k = t.scopes.definedAt k)
    (hundefined : ∀ n, n ∉ G → ¬ Carried gifts token G n →
      (⟨.undefinedUse, n⟩ ∈ t'.findings ↔ ⟨.undefinedUse, n⟩ ∈ s'.findings))
    (hsilent : ∀ g ∈ G, ⟨.undefinedUse, g⟩ ∉ t'.findings) : AgreeBeyond gifts token G s' t' where
  settings_eq := by rw [ht, hs]; exact h.settings_eq
  token_eq := by rw [hs]; exact h.token_eq
  defined_iff k n hn hc := by rw [htdefined, hsdefined]; exact h.defined_iff k n hn hc
  global g hg := by rw [htdefined]; exact h.global g hg
  undefined_iff := hundefined
  silent := hsilent

theorem declare (h : AgreeBeyond gifts token G s t) (hs : Aligned d s) (ht : Aligned d t)
    (n : String) (isLocal : Bool) :
    AgreeBeyond gifts token G (s.declare n d isLocal).2 (t.declare n d isLocal).2 := by
  refine h.of_findings settings_declare settings_declare (fun k => by rw [scopes_declare])
    (fun k => by rw [scopes_declare]) (fun m hm hc => ?_) fun g hg hmem => ?_
  · rw [undefinedUse_mem_declare hs, undefinedUse_mem_declare ht, h.undefined_iff m hm hc]
    refine and_congr_right fun _ => not_congr (and_congr_right fun hmn => ?_)
    subst hmn
    rw [h.sees_iff hm hc]
  · exact h.silent g hg ((undefinedUse_mem_declare ht).1 hmem).1

theorem use (h : AgreeBeyond gifts token G s t) (hs : Aligned d s) (ht : Aligned d t)
    (n : String) : AgreeBeyond gifts token G (s.use n d).2 (t.use n d).2 := by
  refine h.of_findings settings_use settings_use (fun k => definedAt_use hs)
    (fun k => definedAt_use ht) (fun m hm hc => ?_) fun g hg hmem => ?_
  · rw [undefinedUse_mem_use hs, undefinedUse_mem_use ht, h.undefined_iff m hm hc]
    refine or_congr_right (and_congr_right fun hmn => ?_)
    subst hmn
    rw [h.sees_iff hm hc]
  · rcases (undefinedUse_mem_use ht).1 hmem with hmem | ⟨rfl, hunseen⟩
    · exact h.silent g hg hmem
    · exact hunseen (h.sees_of_mem hg ht.isOpen.1)

theorem closeScope (h : AgreeBeyond gifts token G s t) (hd : 0 < d) (hs : Aligned d s)
    (ht : Aligned d t) : AgreeBeyond gifts token G s.closeScope.2 t.closeScope.2 where
  settings_eq := by rw [settings_closeScope, settings_closeScope]; exact h.settings_eq
  token_eq := by rw [settings_closeScope]; exact h.token_eq
  defined_iff k n hn hc := by
    rw [definedAt_closeScope hs hd, definedAt_closeScope ht hd]
    split
    · exact h.defined_iff k n hn hc
    · exact Iff.rfl
  global g hg := by
    rw [definedAt_closeScope ht hd, if_pos (by simpa using hd)]
    exact h.global g hg
  undefined_iff := by rw [findings_closeScope, findings_closeScope]; exact h.undefined_iff
  silent := by rw [findings_closeScope]; exact h.silent

/-- **A call gives the same members in both sessions**, but for those it carries over. -/
theorem gains_iff (h : AgreeBeyond gifts token G s t) {name callee : String}
    (hgift : (name, callee) ∈ gifts) (hc : ¬ Carried gifts token G m) :
    Gains t d name callee m ↔ Gains s d name callee m := by
  have htoken : t.settings.cloneToken = s.settings.cloneToken := by rw [h.settings_eq]; rfl
  have hderived : t.settings.derivedFrom callee = s.settings.derivedFrom callee := by
    rw [h.settings_eq]
    rfl
  have hsep : t.settings.separator = s.settings.separator := by rw [h.settings_eq]
  -- what is copied from a name that is added or carried over would be carried over itself
  have hsees : ∀ {source rest : String} {sep : Separator}, source ≠ "" →
      callee = source ++ s.settings.cloneToken → m = name ++ sep.text ++ rest →
      (t.scopes.Sees (source ++ sep.text ++ rest) d ↔
        s.scopes.Sees (source ++ sep.text ++ rest) d) := by
    rintro source rest sep hsource rfl rfl
    rw [h.token_eq] at hgift
    exact h.sees_iff (fun hmem => hc (.first hsource hgift hmem))
      fun hcarried => hc (.next hsource hgift hcarried)
  constructor
  · rintro (⟨hsource, hcallee, hsee⟩ | hsuffix)
    · rw [htoken] at hcallee
      exact .copied hsource hcallee ((hsees hsource hcallee rfl).1 hsee)
    · rw [hsep]
      exact .listed (hderived ▸ hsuffix)
  · rintro (⟨hsource, hcallee, hsee⟩ | hsuffix)
    · exact .copied hsource (htoken ▸ hcallee) ((hsees hsource hcallee rfl).2 hsee)
    · rw [← hsep]
      exact .listed (hderived ▸ hsuffix)

end AgreeBeyond

/-- **Agreement outside the names carried over lasts**, as long as members are given by the calls
that were counted. -/
theorem lockstep_agreeBeyond (gifts : List (String × String)) (token : String) (G : List String) :
    Lockstep id (AgreeBeyond gifts token G) fun name callee => (name, callee) ∈ gifts where
  noteLeft _ h := ⟨h.settings_eq, h.token_eq, h.defined_iff, h.global, h.undefined_iff, h.silent⟩
  noteRight _ h := ⟨h.settings_eq, h.token_eq, h.defined_iff, h.global, h.undefined_iff, h.silent⟩
  declare n isLocal hs ht h := h.declare hs ht n isLocal
  define n isLocal hs ht h :=
    h.defines (defines_define hs n isLocal) (defines_define ht n isLocal) fun _ _ _ => Iff.rfl
  use n hs ht h := h.use hs ht n
  assign n hs ht h := by
    refine h.defines (defines_assign hs n) (defines_assign ht n) fun m hm hc => ?_
    refine and_congr_right fun hmn => not_congr ?_
    subst hmn
    exact h.sees_iff hm hc
  derive n callee hgift hs ht h :=
    h.defines (defines_derive hs n callee) (defines_derive ht n callee) fun _ _ hc =>
      h.gains_iff hgift hc
  openScope h := by
    refine ⟨h.settings_eq, h.token_eq, fun k n hn hc => ?_, fun g hg => ?_, h.undefined_iff,
      h.silent⟩
    · rw [scopes_openScope, scopes_openScope, Scopes.definedAt_push, Scopes.definedAt_push]
      exact h.defined_iff k n hn hc
    · rw [scopes_openScope, Scopes.definedAt_push]
      exact h.global g hg
  closeScope hd hs ht h := h.closeScope hd hs ht

theorem agreeBeyond_start {A : Settings} {globals : List String}
    (hglobals : ∀ n, n ∈ globals ↔ n ∈ A.globals ∨ n ∈ G) (tree : Value) :
    AgreeBeyond gifts A.cloneToken G (start A tree) (start { A with globals } tree) := by
  have hoff := agreeOff_start hglobals tree
  refine ⟨hoff.settings_eq, ?_, fun k n hn _ => hoff.defined_iff k n hn, hoff.global,
    fun n _ _ => ?_, hoff.silent⟩
  · rw [(fresh_start A tree).settings_eq]
  · rw [(fresh_start A tree).findings_eq, (fresh_start { A with globals } tree).findings_eq]

/-- **More names taken for granted may report more uses.**  In

    function f() local h = e:Clone() h.Foo = 1 end
    h.Foo()

the use of `h.Foo` is reported only if `e.Foo` is taken for granted: then `h` has a member `Foo`
inside `f`, and the assignment to it defines no global name. -/
theorem undefined_use_with_more_globals :
    let name (n : String) : Value := .record [("type", .str "Identifier"), ("name", .str n)]
    let member (base sep n : String) : Value := .record
      [("type", .str "MemberExpression"), ("indexer", .str sep), ("base", name base),
       ("identifier", name n)]
    let call (callee : Value) : Value := .record
      [("type", .str "CallExpression"), ("base", callee), ("arguments", .list [])]
    let tree : Value := .record [("type", .str "Chunk"), ("body", .list
      [.record [("type", .str "FunctionDeclaration"), ("identifier", name "f"),
        ("isLocal", .bool false), ("parameters", .list []), ("body", .list
          [.record [("type", .str "LocalStatement"), ("variables", .list [name "h"]),
            ("init", .list [call (member "e" ":" "Clone")])],
           .record [("type", .str "AssignmentStatement"),
            ("variables", .list [member "h" "." "Foo"]),
            ("init", .list [.record [("type", .str "NumericLiteral"), ("value", .int 1)]])]])],
       .record [("type", .str "CallStatement"), ("expression", call (member "h" "." "Foo"))]])]
    let A : Settings := ⟨["e"], [], .colon, "Clone"⟩
    let B : Settings := { A with globals := ["e", "e.Foo"] }
    A.globals ⊆ B.globals ∧
      (((start A tree).verify none).1.toOption.map Report.findings =
        some [⟨.undefinedUse, "e:Clone"⟩]) ∧
      (((start B tree).verify none).1.toOption.map Report.findings =
        some [⟨.undefinedUse, "e:Clone"⟩, ⟨.undefinedUse, "h.Foo"⟩]) ∧
      ¬ ∀ n, ⟨.undefinedUse, n⟩ ∈ ((start B tree).verify none).2.findings →
        ⟨.undefinedUse, n⟩ ∈ ((start A tree).verify none).2.findings := by
  intro name member call tree A B
  have hA : ((start A tree).verify none).2.findings = [⟨.undefinedUse, "e:Clone"⟩] := by
    decide +kernel
  have hB : ((start B tree).verify none).2.findings =
      [⟨.undefinedUse, "e:Clone"⟩, ⟨.undefinedUse, "h.Foo"⟩] := by
    decide +kernel
  refine ⟨by decide, by decide +kernel, by decide +kernel, fun h => ?_⟩
  have hreported := h "h.Foo" (by rw [hB]; decide)
  rw [hA] at hreported
  exact absurd hreported (by decide)

/-- Two runs of which one takes more names for granted agree outside what is carried over. -/
theorem agreeBeyond_verify (A : Settings) {globals : List String}
    (hglobals : ∀ n, n ∈ globals ↔ n ∈ A.globals ∨ n ∈ G) (tree : Value) (path : Option String) :
    AgreeBeyond (giftsAll (blockSteps tree)) A.cloneToken G ((start A tree).verify path).2
      ((start { A with globals } tree).verify path).2 := by
  have hstart : AgreeBeyond (giftsAll (blockSteps tree)) A.cloneToken G (start A tree)
      (start { A with globals } tree) := agreeBeyond_start hglobals tree
  have hwalk := (lockstep_agreeBeyond _ A.cloneToken G).performAll_of_gifts (φ := id) 0
    (blockSteps tree) (fun _ hg => hg) (aligned_walking A tree)
    (aligned_walking { A with globals } tree)
    ⟨hstart.settings_eq, hstart.token_eq, hstart.defined_iff, hstart.global, hstart.undefined_iff,
      hstart.silent⟩
  rw [Step.mapAll_id, ← walk_start, ← walk_start] at hwalk
  rw [snd_verify, snd_verify]
  exact hwalk

/-- **More names taken for granted silence uses**, outside the names that copied handles carry over
from them.  If a run takes more names for granted than another one, every name it reports undefined
is reported undefined by the other one too, or is carried over from one of the names that were
added; and whenever it comes to a report, so does the other one. -/
theorem verify_more_globals (A : Settings) (globals : List String) (hmore : A.globals ⊆ globals)
    (tree : Value) (path : Option String) :
    let added := globals.filter (· ∉ A.globals)
    let a := (start A tree).verify path
    let b := (start { A with globals } tree).verify path
    (∀ n, ⟨.undefinedUse, n⟩ ∈ b.2.findings →
      ⟨.undefinedUse, n⟩ ∈ a.2.findings ∨
        Carried (giftsAll (blockSteps tree)) A.cloneToken added n) ∧
    ∀ r, b.1 = .ok r → ∃ r', a.1 = .ok r' ∧ ∀ n, ⟨.undefinedUse, n⟩ ∈ r.findings →
      ⟨.undefinedUse, n⟩ ∈ r'.findings ∨
        Carried (giftsAll (blockSteps tree)) A.cloneToken added n := by
  intro added a b
  have hglobals : ∀ n, n ∈ globals ↔ n ∈ A.globals ∨ n ∈ added := by
    intro n
    by_cases hn : n ∈ A.globals
    · simp [hn, hmore hn]
    · simp [added, hn]
  have hend : AgreeBeyond (giftsAll (blockSteps tree)) A.cloneToken added a.2 b.2 :=
    agreeBeyond_verify A hglobals tree path
  have hreported : ∀ n, ⟨.undefinedUse, n⟩ ∈ b.2.findings → ⟨.undefinedUse, n⟩ ∈ a.2.findings ∨
      Carried (giftsAll (blockSteps tree)) A.cloneToken added n := by
    intro n hn
    by_cases hc : Carried (giftsAll (blockSteps tree)) A.cloneToken added n
    · exact Or.inr hc
    · have hnot : n ∉ added := fun hmem => hend.silent n hmem hn
      exact Or.inl ((hend.undefined_iff n hnot hc).1 hn)
  refine ⟨hreported, fun r hr => ?_⟩
  have hsame : a.1.map (fun _ => ()) = b.1.map fun _ => () := by
    simp only [a, b, fst_verify_start]
    exact conclude_congr _ _ fun _ _ => rfl
  rw [hr] at hsame
  cases hr' : a.1 with
  | error f => rw [hr'] at hsame; cases hsame
  | ok r' =>
    refine ⟨r', rfl, fun n hn => ?_⟩
    rw [findings_of_verify hr']
    rw [findings_of_verify hr] at hn
    exact hreported n hn

/-- A script that copies `e` and uses a member of the copy, with `e.Foo` and `k` added. -/
theorem verify_more_globals_copy :
    let name (n : String) : Value := .record [("type", .str "Identifier"), ("name", .str n)]
    let member (base sep n : String) : Value := .record
      [("type", .str "MemberExpression"), ("indexer", .str sep), ("base", name base),
       ("identifier", name n)]
    let tree : Value := .record [("type", .str "Chunk"), ("body", .list
      [.record [("type", .str "LocalStatement"), ("variables", .list [name "h"]),
        ("init", .list [.record [("type", .str "CallExpression"), ("base", member "e" ":" "Clone"),
          ("arguments", .list [name "k"])]])],
       .record [("type", .str "ReturnStatement"), ("arguments", .list [member "h" "." "Foo"])]])]
    let A : Settings := ⟨["e"], [], .colon, "Clone"⟩
    let globals := ["k", "e", "e.Foo"]
    A.globals ⊆ globals ∧
      ⟨.undefinedUse, "e:Clone"⟩ ∈ ((start { A with globals } tree).verify none).2.findings ∧
      Carried (giftsAll (blockSteps tree)) A.cloneToken (globals.filter (· ∉ A.globals)) "h.Foo" ∧
      ∀ n, ⟨.undefinedUse, n⟩ ∈ ((start { A with globals } tree).verify none).2.findings →
        ⟨.undefinedUse, n⟩ ∈ ((start A tree).verify none).2.findings ∨
          Carried (giftsAll (blockSteps tree)) A.cloneToken (globals.filter (· ∉ A.globals)) n := by
  intro name member tree A globals
  have hmore : A.globals ⊆ globals := by decide
  have hcarried : Carried (giftsAll (blockSteps tree)) A.cloneToken
      (globals.filter (· ∉ A.globals)) "h.Foo" :=
    @Carried.first _ _ _ "h" "e" "Foo" .dot (by decide) (by decide +kernel) (by decide)
  exact ⟨hmore, by decide +kernel, hcarried, (verify_more_globals A globals hmore tree none).1⟩

end Session

end DefUse
