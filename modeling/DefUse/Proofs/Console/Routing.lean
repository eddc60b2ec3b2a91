import DefUse.Console.Proxy
import DefUse.Console.Screen
import DefUse.Proofs.Attempt

/-!
# Proofs/Console/Routing — what is written, and where

What a request writes is fixed by the requests before it: the console is the one that the last
redirection or reset put in place (`Request.consoleAfter`), and the threshold is the one that was
last asked for since the last reset (`Request.thresholdAfter`).

The proxy keeps this in three places: the console behind it, the level that it was asked for, and
the logger with its handlers.  They go together (`Proxy.InStep`): the logger has one handler for a
console, that of the console behind the proxy, and lets through what was asked for.  A proxy whose
parts go together answers as a routing does (`Proxy.InStep.run_eq`).  All this holds whatever a
console makes of what it shows.
-/

namespace DefUse

variable {c : Console} {p p' : Proxy} {q : Request} {ws : List Writing} {requests : List Request}

/-! ## What the requests so far amount to -/

namespace Request

/-- The console that a request puts in place. -/
def console? : Request → Option Destination
  | .redirect d => some d
  | .reset => some .standard
  | _ => none

/-- Whether more records are asked for, if a request is about that. -/
def verbosity? : Request → Option Bool
  | .verbose on => some on
  | _ => none

/-- Whether a request is a reset. -/
def isReset : Request → Bool
  | .reset => true
  | _ => false

/-- What a console makes of a request: the lines it has to show, or why it cannot. -/
def shown (c : Console) : Request → Except Fault (List String)
  | .log record => c.record record
  | .print values => c.printed values
  | _ => .ok []

/-- The lines of a request that can be shown. -/
def lines (c : Console) (q : Request) : List String := (q.shown c).toOption.getD []

/-- **The current console**: the last one that was put in place. -/
def consoleAfter (history : List Request) : Destination :=
  (history.reverse.findSome? console?).getD .standard

/-- **The threshold in force**: what was last asked for since the last reset. -/
def thresholdAfter (history : List Request) : Level :=
  ((history.reverse.takeWhile fun q => !q.isReset).findSome? verbosity?).elim .info
    Routing.thresholdOf

/-- **What a request writes after others**: a record at or above the threshold is written once, on
the current console, and one below it is not written; printed values always are. -/
def due (c : Console) (history : List Request) : Request → List Writing
  | .log record =>
    if (thresholdAfter history).rank ≤ record.level.rank then
      [⟨consoleAfter history, lines c (.log record)⟩]
    else []
  | .print values => [⟨consoleAfter history, lines c (.print values)⟩]
  | _ => []

/-- What requests write after others, each at its turn. -/
def dueFrom (c : Console) (history requests : List Request) : List Writing :=
  (requests.mapIdx fun i q => due c (history ++ requests.take i) q).flatten

theorem dueFrom_cons (c : Console) (history requests : List Request) (q : Request) :
    dueFrom c history (q :: requests) = due c history q ++ dueFrom c (history ++ [q]) requests := by
  have htail : (fun i q' => due c (history ++ (q :: requests).take (i + 1)) q') =
      fun i q' => due c (history ++ [q] ++ requests.take i) q' := by
    funext i q'
    rw [List.take_succ_cons, List.append_assoc, List.singleton_append]
  rw [dueFrom, List.mapIdx_cons, htail, List.flatten_cons, List.take_zero, List.append_nil]
  rfl

theorem consoleAfter_concat (history : List Request) (q : Request) :
    consoleAfter (history ++ [q]) = q.console?.getD (consoleAfter history) := by
  rw [consoleAfter, List.reverse_concat, List.findSome?_cons]
  cases q.console? <;> rfl

theorem thresholdAfter_reset (history : List Request) :
    thresholdAfter (history ++ [.reset]) = .info := by
  rw [thresholdAfter, List.reverse_concat]
  rfl

theorem thresholdAfter_concat (history : List Request) (h : q.isReset = false) :
    thresholdAfter (history ++ [q]) =
      q.verbosity?.elim (thresholdAfter history) Routing.thresholdOf := by
  rw [thresholdAfter, List.reverse_concat, List.takeWhile_cons_of_pos (by rw [h]; rfl),
    List.findSome?_cons]
  cases q.verbosity? <;> rfl

end Request

open Request

/-! ## A routing follows the requests -/

/-- The routing that requests lead to. -/
def Routing.after (history : List Request) : Routing :=
  ⟨consoleAfter history, thresholdAfter history⟩

/-- One request: the routing keeps up with it, and writes what is due. -/
theorem Routing.step_after (history : List Request) (h : (q.shown c).toBool = true) :
    (after history).step c q = .ok (after (history ++ [q]), due c history q) := by
  rw [after, after, consoleAfter_concat]
  cases q with
  | redirect d => rw [thresholdAfter_concat history rfl]; rfl
  | reset => rw [thresholdAfter_reset]; rfl
  | verbose on => rw [thresholdAfter_concat history rfl]; rfl
  | log record =>
    obtain ⟨ls, hls⟩ := toBool_eq_true_iff.1 h
    have hrecord : c.record record = .ok ls := hls
    rw [thresholdAfter_concat history rfl, step, due, Request.lines, hls, hrecord]
    by_cases haccepts : (thresholdAfter history).rank ≤ record.level.rank
    · rw [if_pos haccepts, accepts, decide_eq_true haccepts]
      rfl
    · rw [if_neg haccepts, accepts, decide_eq_false haccepts]
      rfl
  | print values =>
    obtain ⟨ls, hls⟩ := toBool_eq_true_iff.1 h
    have hprinted : c.printed values = .ok ls := hls
    rw [thresholdAfter_concat history rfl, step, due, Request.lines, hls, hprinted]
    rfl

theorem Routing.run_after (history : List Request)
    (h : ∀ q ∈ requests, (q.shown c).toBool = true) :
    (after history).run c requests =
      .ok (after (history ++ requests), dueFrom c history requests) := by
  induction requests generalizing history with
  | nil => rw [List.append_nil]; rfl
  | cons q requests ih =>
    have hstep := step_after history (h q List.mem_cons_self)
    have hrest := ih (history ++ [q]) fun q' hq' => h q' (List.mem_cons_of_mem q hq')
    rw [List.append_assoc, List.singleton_append] at hrest
    rw [run, hstep, ok_bind]
    dsimp only
    rw [hrest, dueFrom_cons]
    rfl

/-! ## A proxy whose parts go together -/

namespace Proxy

/-- **A proxy whose parts go together**: its logger has one handler for a console, that of the
console behind the proxy, and lets through what the proxy was asked for. -/
structure InStep (p : Proxy) : Prop where
  consoles : p.logger.consoles = [p.backend]
  threshold : p.logger.threshold = p.level

/-- The routing that a proxy stands for. -/
def routing (p : Proxy) : Routing := ⟨p.backend, p.level⟩

theorem consoles_others (l : Logger) : l.others.filterMap Handler.console? = [] := by
  rw [List.filterMap_eq_nil_iff]
  intro h hmem
  exact Option.isNone_iff_eq_none.1 (List.mem_filter.1 hmem).2

/-- **Pointing the logger at a console brings the parts together**, whatever was there before. -/
theorem inStep_configure (p : Proxy) : p.configure.InStep where
  consoles := by
    rw [configure, Logger.consoles, List.filterMap_append, consoles_others]
    rfl
  threshold := rfl

theorem others_configure (p : Proxy) : p.configure.logger.others = p.logger.others := by
  rw [configure, Logger.others, List.filter_append, Logger.others, List.filter_filter]
  simp [Handler.console?]

theorem inStep_start (l : Logger) : (start l).InStep := inStep_configure _

/-- With one handler for a console, a record is written once or not at all. -/
theorem InStep.handle_eq (h : p.InStep) (r : Record) :
    p.logger.handle c r =
      if p.level.rank ≤ r.level.rank then (c.record r).map fun ls => [⟨p.backend, ls⟩]
      else .ok [] := by
  rw [Logger.handle, h.consoles, h.threshold]
  congr 1
  cases hlines : c.record r <;> rfl

/-- **One request leaves the parts together**, and other handlers where they are. -/
theorem InStep.step (h : p.InStep) (hstep : p.step c q = .ok (p', ws)) :
    p'.InStep ∧ p'.logger.others = p.logger.others := by
  cases q with
  | redirect d =>
    obtain ⟨rfl, -⟩ := Prod.mk.inj (Except.ok.inj hstep)
    exact ⟨inStep_configure _, others_configure _⟩
  | reset =>
    obtain ⟨rfl, -⟩ := Prod.mk.inj (Except.ok.inj hstep)
    exact ⟨inStep_configure _, others_configure _⟩
  | verbose on =>
    obtain ⟨rfl, -⟩ := Prod.mk.inj (Except.ok.inj hstep)
    exact ⟨⟨h.consoles, rfl⟩, rfl⟩
  | log record =>
    obtain ⟨_, -, heq⟩ := map_eq_ok_iff.1 hstep
    obtain ⟨rfl, -⟩ := Prod.mk.inj heq
    exact ⟨h, rfl⟩
  | print values =>
    obtain ⟨_, -, heq⟩ := map_eq_ok_iff.1 hstep
    obtain ⟨rfl, -⟩ := Prod.mk.inj heq
    exact ⟨h, rfl⟩

/-- **One request is answered as the routing answers it.** -/
theorem InStep.step_eq (h : p.InStep) (q : Request) :
    (p.step c q).map (Prod.map routing id) = p.routing.step c q := by
  cases q with
  | redirect d => rfl
  | reset => rfl
  | verbose on => rfl
  | log record =>
    rw [Proxy.step, Routing.step, h.handle_eq, Routing.accepts]
    by_cases haccepts : p.level.rank ≤ record.level.rank
    · rw [if_pos haccepts, routing, decide_eq_true haccepts, if_pos rfl]
      cases c.record record <;> rfl
    · rw [if_neg haccepts, routing, decide_eq_false haccepts]
      rfl
  | print values =>
    rw [Proxy.step, Routing.step]
    cases c.printed values <;> rfl

/-- A run leaves the parts together, and other handlers where they are. -/
theorem InStep.run (h : p.InStep) (hrun : p.run c requests = .ok (p', ws)) :
    p'.InStep ∧ p'.logger.others = p.logger.others := by
  induction requests generalizing p ws with
  | nil =>
    obtain ⟨rfl, -⟩ := Prod.mk.inj (Except.ok.inj hrun)
    exact ⟨h, rfl⟩
  | cons q requests ih =>
    obtain ⟨⟨p₁, now⟩, hstep, hrun⟩ := bind_eq_ok_iff.1 hrun
    obtain ⟨⟨p₂, later⟩, hrest, heq⟩ := bind_eq_ok_iff.1 hrun
    obtain ⟨rfl, -⟩ := Prod.mk.inj (Except.ok.inj heq)
    obtain ⟨h₁, hothers₁⟩ := h.step hstep
    obtain ⟨h₂, hothers₂⟩ := ih h₁ hrest
    exact ⟨h₂, hothers₂.trans hothers₁⟩

/-- **A run of a proxy is a run of the routing that it stands for.** -/
theorem InStep.run_eq (h : p.InStep) (requests : List Request) :
    (p.run c requests).map (Prod.map routing id) = p.routing.run c requests := by
  induction requests generalizing p with
  | nil => rfl
  | cons q requests ih =>
    rw [Proxy.run, Routing.run, ← h.step_eq]
    cases hstep : p.step c q with
    | error f => rfl
    | ok result =>
      obtain ⟨p₁, now⟩ := result
      have hrest := ih (h.step hstep).1
      simp only [ok_bind, Except.map, Prod.map, id, ← hrest]
      cases p₁.run c requests <;> rfl

/-- **Each message is written once, on the console that is current when it comes, if it reaches the
threshold in force then, and nowhere otherwise.**  At any time the logger has one handler for a
console, that of the current console, and its threshold is what was last asked for since the last
reset, which another console does not change. -/
theorem writes_to_current (c : Console) (l : Logger) (requests : List Request)
    (h : ∀ q ∈ requests, (q.shown c).toBool = true) :
    Routing.initial.run c requests = .ok (Routing.after requests, dueFrom c [] requests) ∧
    ∃ p, (start l).run c requests = .ok (p, dueFrom c [] requests) ∧
      p.backend = consoleAfter requests ∧
      p.logger.consoles = [consoleAfter requests] ∧
      p.logger.threshold = thresholdAfter requests ∧
      p.logger.others = l.others ∧
      ∀ d, (p.setBackend d).logger.threshold = p.logger.threshold := by
  have hrouting : Routing.initial.run c requests =
      .ok (Routing.after requests, dueFrom c [] requests) := Routing.run_after [] h
  refine ⟨hrouting, ?_⟩
  have hsame := (inStep_start l).run_eq (c := c) requests
  rw [show (start l).routing = Routing.initial from rfl, hrouting] at hsame
  obtain ⟨⟨p, ws⟩, hrun, heq⟩ := map_eq_ok_iff.1 hsame
  obtain ⟨hafter, rfl⟩ := Prod.mk.inj heq
  obtain ⟨hconsole, hlevel⟩ := Routing.mk.inj hafter
  obtain ⟨hp, hothers⟩ := (inStep_start l).run hrun
  refine ⟨p, hrun, hconsole, hp.consoles.trans (congrArg ([·]) hconsole), hp.threshold.trans hlevel,
    hothers.trans (others_configure _), fun d => ?_⟩
  exact (inStep_configure _).threshold.trans hp.threshold.symm

/-- Consoles are swapped and reset, and levels asked for, with records in between. -/
def swaps : List Request :=
  [.verbose true, .redirect (.other 0), .log ⟨.debug, "a"⟩, .redirect (.other 1),
    .log (.message .error "b"), .reset, .log ⟨.debug, "c"⟩, .redirect (.other 0),
    .log ⟨.debug, "d"⟩, .log (.message .info "e")]

/-- A logger that has handlers for consoles and of another kind. -/
def busyLogger : Logger := ⟨.warning, [.console .standard, .foreign 0, .console (.other 0)]⟩

/-- Three of the five records are written, each where it belongs. -/
theorem writes_to_current_swaps :
    (∀ q ∈ swaps, (q.shown screen).toBool = true) ∧
    ∃ p, (start busyLogger).run screen swaps =
        .ok (p, [⟨.other 0, ["DEBUG    a"]⟩, ⟨.other 1, ["ERROR    ❌ b"]⟩,
          ⟨.other 0, ["INFO     ℹ️  e"]⟩]) ∧
      p.logger.consoles = [.other 0] ∧ p.logger.threshold = .info ∧
      p.logger.others = [.foreign 0] := by
  have hshown : ∀ q ∈ swaps, (q.shown screen).toBool = true := by decide +kernel
  have hdue : dueFrom screen [] swaps = [⟨.other 0, ["DEBUG    a"]⟩,
      ⟨.other 1, ["ERROR    ❌ b"]⟩, ⟨.other 0, ["INFO     ℹ️  e"]⟩] := by decide +kernel
  obtain ⟨-, p, hrun, -, hconsoles, hthreshold, hothers, -⟩ :=
    writes_to_current screen busyLogger swaps hshown
  exact ⟨hshown, p, hdue ▸ hrun, hconsoles, hthreshold, hothers⟩

end Proxy

end DefUse
