import DefUse.Command.Run

/-!
# Proofs/Command/Job — running the parts of a command

A job is run in a world and leads to another one, whether it ends well or breaks off.
`Job.run_bind` is the one rule for jobs in a row, and a run of the program is the run of the job of
its task (`run_of_arguments`).
-/

namespace DefUse.Job

variable {α β : Type} {x : Job α} {f : α → Job β} {w : World}

@[simp] theorem run_pure (a : α) (w : World) : (pure a : Job α).run w = (.ok a, w) := rfl

@[simp] theorem run_throw (e : Crash) (w : World) : (throw e : Job α).run w = (.error e, w) := rfl

@[simp] theorem run_get (w : World) : (get : Job World).run w = (.ok w, w) := rfl

@[simp] theorem run_set (w w' : World) : (set w' : Job PUnit).run w = (.ok ⟨⟩, w') := rfl

/-- Lines are printed one after the other; the last one is first in what is kept. -/
@[simp] theorem run_emit (lines : List String) (w : World) :
    (emit lines).run w = (.ok (), { w with printed := lines.reverse ++ w.printed }) := rfl

/-- **Jobs in a row**: the second is run where the first ended, unless that broke off. -/
@[simp] theorem run_bind (x : Job α) (f : α → Job β) (w : World) :
    (x >>= f).run w =
      match x.run w with
      | (.ok a, w') => (f a).run w'
      | (.error e, w') => (.error e, w') := by
  rw [ExceptT.run_bind]
  change StateT.bind x.run _ w = _
  rw [StateT.bind]
  change (match x.run w with | _ => _) = _
  rcases x.run w with ⟨_ | a, w'⟩ <;> rfl

end DefUse.Job

namespace DefUse

variable [Libraries]

/-! ## The program -/

/-- The consoles of a run: the standard one, for a trace or for none. -/
def consoles (verbose : Bool) : Routing := ⟨.standard, Routing.thresholdOf verbose⟩

/-- The world that a task is carried out in. -/
def startingWorld (disk : Disk) (verbose : Bool) : World := ⟨disk, consoles verbose, []⟩

/-- **The program carries out its task** and comes to what that comes to. -/
theorem run_of_arguments (disk : Disk) {args : List String} {verbose : Bool} {task : Task}
    (hargs : Invocation.ofArguments args = .ok ⟨verbose, task⟩) :
    let r := task.job.run (startingWorld disk verbose)
    Command.run disk args = ⟨r.1, r.2.lines, r.2.disk⟩ := by
  have hstart : (Job.ask (.verbose verbose)).run (.start disk) =
      (.ok (), startingWorld disk verbose) := rfl
  rw [Command.run, hargs]
  dsimp only
  rw [Invocation.job, Job.run_bind, hstart]
  dsimp only
  rcases task.job.run (startingWorld disk verbose) with ⟨outcome, w⟩
  rfl

end DefUse
