import LiveTree.Proofs.Events

/-!
# Time that passes in a calm workspace

When nothing is due and nobody waits in the background, letting time pass moves the clock and lets
attempts at grammars end, and does nothing else.  When there is a single task, time passes calmly up to
its deadline, then the task runs, and if that leaves nothing to do, time passes calmly again.

## Key results

- `settle_of_calm`, `settle_of_due`: all there is to do now is nothing, or one task
- `advance_of_calm`: time passes before the next deadline
- `advance_of_task`: time passes through the deadline of the only task
-/

namespace LiveTree.Workspace

variable {parser : Parser} {w : Workspace}

/-- Nothing is due, and nobody waits in the background. -/
structure Calm (w : Workspace) : Prop where
  due : w.dueTask? = none
  waiters : w.services.waiters = []

/-! ## Attempts that end -/

/-- Where nobody waits, the end of an attempt lets nobody go on. -/
theorem resumeWaiters_of_unawaited (h : w.services.waiters = []) (language : String)
    (outcome : Except GrammarError Grammar) : w.resumeWaiters language outcome = w := by
  have hsame : { w with services := { w.services with waiters := [] } } = w := by
    rw [← h]
  unfold resumeWaiters
  dsimp only
  rw [h, List.filter_nil, List.filter_nil, hsame]
  cases outcome <;> rfl

/-- When nobody waits for it, the end of an attempt concerns the registry alone. -/
theorem finishLoad_of_unawaited (h : w.services.waiters = []) (language : String) :
    w.finishLoad language =
      w.setRegistry (w.services.registry.complete w.services.libraries language).1 := by
  unfold finishLoad completeLoad
  cases w.services.registry.complete w.services.libraries language with
  | mk registry outcome =>
    cases outcome with
    | none => rfl
    | some outcome =>
      have hwaiters : (w.setRegistry registry).services.waiters = [] := h
      exact resumeWaiters_of_unawaited hwaiters language outcome

/-- The attempts at several languages end one after the other, and that concerns the registry alone.
    -/
theorem foldl_finishLoad_of_unawaited (h : w.services.waiters = []) (languages : List String) :
    ∃ registry, languages.foldl finishLoad w = w.setRegistry registry ∧
      w.services.registry.Leads registry := by
  -- By induction on the languages: after one attempt has ended there is still nobody who waits.
  induction languages generalizing w with
  | nil => exact ⟨w.services.registry, rfl, .refl _⟩
  | cons language rest ih =>
    have hcomplete := w.services.registry.complete_leads w.services.libraries language
    rw [List.foldl_cons, finishLoad_of_unawaited h]
    obtain ⟨registry, heq, hleads⟩ := ih (w := w.setRegistry
      (w.services.registry.complete w.services.libraries language).1) h
    exact ⟨registry, heq, hcomplete.trans hleads⟩

/-! ## All there is to do now -/

/-- Where nothing is due, no task runs. -/
theorem drain_of_not_due (h : w.dueTask? = none) (steps : Nat) : drain parser steps w = w := by
  cases steps with
  | zero => rfl
  | succ steps =>
    unfold drain
    rw [h]

/-- In a calm workspace all there is to do now concerns the registry alone. -/
theorem settleFor_of_calm (parser : Parser) (calm : w.Calm) (rounds : Nat) :
    ∃ registry, settleFor parser rounds w = w.setRegistry registry ∧
      w.services.registry.Leads registry := by
  -- By induction on the rounds: each ends some attempts, and leaves the workspace calm.
  induction rounds generalizing w with
  | zero => exact ⟨w.services.registry, rfl, .refl _⟩
  | succ rounds ih =>
    unfold settleFor runDue
    rw [drain_of_not_due calm.due]
    dsimp only
    split
    · exact ⟨w.services.registry, rfl, .refl _⟩
    · obtain ⟨registry, heq, hleads⟩ := foldl_finishLoad_of_unawaited calm.waiters
        (w.services.registry.attempts.map (·.id))
      rw [heq]
      obtain ⟨last, hlast, hlater⟩ := ih (w := w.setRegistry registry) ⟨calm.due, calm.waiters⟩
      exact ⟨last, hlast, hleads.trans hlater⟩

/-- With as many rounds as there can be the same holds. -/
theorem settle_of_calm (parser : Parser) (calm : w.Calm) :
    ∃ registry, w.settle parser = w.setRegistry registry ∧ w.services.registry.Leads registry :=
  settleFor_of_calm parser calm _

/-- After a wait there is nothing else to do either. -/
theorem afterWait_of_calm (parser : Parser) (calm : w.Calm) (language : String)
    (outcome : Except GrammarError Grammar) (waited : Bool) :
    ∃ registry, w.afterWait parser language outcome waited = w.setRegistry registry ∧
      w.services.registry.Leads registry := by
  unfold afterWait
  rw [resumeWaiters_of_unawaited calm.waiters]
  -- Whoever has waited lets everything settle; without a wait, nothing happens.
  cases waited with
  | true => exact settle_of_calm parser calm
  | false => exact ⟨w.services.registry, rfl, .refl _⟩

/-- A task that is due runs, and if all is calm afterwards nothing else does. -/
theorem settle_of_due {task : Task} (due : w.dueTask? = some task)
    (calm : (w.runTask parser task).Calm) :
    ∃ registry, w.settle parser = (w.runTask parser task).setRegistry registry ∧
      (w.runTask parser task).services.registry.Leads registry := by
  -- The first step runs the task, and all others find nothing that is due.
  have hrun : w.runDue parser = w.runTask parser task := by
    obtain ⟨steps, hsteps⟩ : ∃ steps, w.budget = steps + 1 := by
      refine Nat.exists_eq_succ_of_ne_zero (Nat.ne_of_gt ?_)
      exact Nat.mul_pos (Nat.succ_pos _) (Nat.succ_pos _)
    unfold runDue
    rw [hsteps]
    unfold drain
    rw [due]
    exact drain_of_not_due calm.due steps
  unfold settle settleFor
  rw [hrun]
  dsimp only
  split
  · exact ⟨_, rfl, .refl _⟩
  · obtain ⟨registry, heq, hleads⟩ := foldl_finishLoad_of_unawaited calm.waiters
      ((w.runTask parser task).services.registry.attempts.map (·.id))
    rw [heq]
    obtain ⟨last, hlast, hlater⟩ := settleFor_of_calm parser
      (w := (w.runTask parser task).setRegistry registry) ⟨calm.due, calm.waiters⟩ _
    exact ⟨last, hlast, hleads.trans hlater⟩

/-! ## Time -/

/-- Before the next deadline, time passes calmly. -/
theorem advance_of_calm (parser : Parser) (calm : w.Calm) {ms : Nat}
    (before : ∀ deadline, w.nextDeadline? = some deadline → w.services.clock + ms < deadline) :
    ∃ registry, w.advance parser ms =
        (w.setRegistry registry).setClock (w.services.clock + ms) ∧
      w.services.registry.Leads registry := by
  -- Everything settles at first, and then there is no deadline on the way.
  obtain ⟨registry, hsettle, hleads⟩ := settle_of_calm parser calm
  refine ⟨registry, ?_, hleads⟩
  unfold advance advanceTo
  rw [hsettle]
  have hnext : (w.setRegistry registry).nextDeadline? = w.nextDeadline? := rfl
  dsimp only
  rw [hnext]
  cases hdeadline : w.nextDeadline? with
  | none => rfl
  | some deadline => exact if_neg (Nat.not_le.2 (before deadline hdeadline))

section OneTask

variable {task : Task}

/-- The only task is the one that is due, if its time has come. -/
theorem dueTask?_of_single (h : w.services.tasks = [task]) :
    w.dueTask? = if task.deadline ≤ w.services.clock then some task else none := by
  unfold dueTask?
  rw [h]
  simp

/-- And its deadline is the next one. -/
theorem nextDeadline?_of_single (h : w.services.tasks = [task]) :
    w.nextDeadline? = some task.deadline := by
  unfold nextDeadline?
  rw [h]
  rfl

/-- The only task runs at its time, and leaves nothing to do. -/
def RunsDry (parser : Parser) (w : Workspace) (task : Task) : Prop :=
  (w.runTask parser task).services.tasks = [] ∧ (w.runTask parser task).services.waiters = []

/-- A last task that is due runs, and then time passes up to the target. -/
theorem advanceTo_of_due (single : w.services.tasks = [task])
    (due : task.deadline ≤ w.services.clock) (dry : RunsDry parser w task) (target steps : Nat) :
    ∃ registry, advanceTo parser target (steps + 1) w =
        ((w.runTask parser task).setRegistry registry).setClock target ∧
      (w.runTask parser task).services.registry.Leads registry := by
  obtain ⟨htasks, hwaiters⟩ := dry
  have hnothing : (w.runTask parser task).dueTask? = none := by
    unfold dueTask?
    rw [htasks]
    rfl
  obtain ⟨registry, hsettle, hleads⟩ :=
    settle_of_due ((dueTask?_of_single single).trans (if_pos due)) ⟨hnothing, hwaiters⟩
  refine ⟨registry, ?_, hleads⟩
  -- With the task gone there is no deadline left, so the clock goes to the target.
  have hnext : ((w.runTask parser task).setRegistry registry).nextDeadline? = none := by
    unfold nextDeadline?
    rw [show ((w.runTask parser task).setRegistry registry).services.tasks = [] from htasks]
    rfl
  unfold advanceTo
  rw [hsettle]
  dsimp only
  rw [hnext]

/-- Time passes through the deadline of the only task: calmly until then, and calmly from then on. -/
theorem advance_of_task (single : w.services.tasks = [task]) (waiters : w.services.waiters = [])
    (coming : w.services.clock ≤ task.deadline) {ms : Nat}
    (past : task.deadline ≤ w.services.clock + ms)
    (dry : ∀ registry, w.services.registry.Leads registry →
      RunsDry parser ((w.setRegistry registry).setClock task.deadline) task) :
    ∃ before after, w.services.registry.Leads before ∧
      (((w.setRegistry before).setClock task.deadline).runTask parser task).services.registry.Leads
        after ∧
      w.advance parser ms =
        ((((w.setRegistry before).setClock task.deadline).runTask parser task).setRegistry
          after).setClock (w.services.clock + ms) := by
  rcases Nat.eq_or_lt_of_le coming with hnow | hlater
  · -- The task is due at once.
    have hclock : (w.setRegistry w.services.registry).setClock task.deadline = w := by
      unfold setClock
      rw [← hnow]
      rfl
    have hdry := dry w.services.registry (.refl _)
    rw [hclock] at hdry
    obtain ⟨after, heq, hleads⟩ := advanceTo_of_due single (Nat.le_of_eq hnow.symm) hdry
      (w.services.clock + ms) ms
    refine ⟨w.services.registry, after, .refl _, ?_, ?_⟩
    · rw [hclock]; exact hleads
    · rw [hclock]; exact heq
  · have hcalm : w.Calm :=
      ⟨(dueTask?_of_single single).trans (if_neg (Nat.not_le.2 hlater)), waiters⟩
    obtain ⟨before, hsettle, hbefore⟩ := settle_of_calm parser hcalm
    -- The clock has moved, so there was a step to spare.
    obtain ⟨steps, rfl⟩ : ∃ steps, ms = steps + 1 := ⟨ms - 1, by omega⟩
    obtain ⟨after, heq, hafter⟩ := advanceTo_of_due
      (w := (w.setRegistry before).setClock task.deadline) single (Nat.le_refl _)
      (dry before hbefore) (w.services.clock + (steps + 1)) steps
    refine ⟨before, after, hbefore, hafter, ?_⟩
    -- It is at its deadline that time stops first.
    have hnext : (w.setRegistry before).nextDeadline? = some task.deadline :=
      nextDeadline?_of_single single
    have hmax : max (w.setRegistry before).services.clock task.deadline = task.deadline :=
      Nat.max_eq_right coming
    rw [← heq]
    unfold advance
    rw [advanceTo, hsettle, hnext]
    dsimp only
    rw [if_pos past, hmax]

end OneTask

end LiveTree.Workspace
