import LiveTree.Proofs.Turns

/-!
# What an operation does to timers and tasks

The operations of the services set and cancel the timer of the one entry they are handed.  A timer
waits for a task; the tasks of all entries stand in one queue.  The lemmas of this file say what an
operation on one entry does to the queue: it may drop the task that its own timer waits for and it may
add tasks, but it leaves alone whatever else is there.

## Key results

- `Services.Queued`: tasks have names of their own, and `Services.Armed`: the task that a timer waits
  for is there and will wake it
- `Services.Schedules` and `Services.Governs`: a relation that holds of all that operations are made of,
  without cancellations and with them, and so of every operation: `Schedules.reparse`,
  `Schedules.fire`, `Governs.treeNow` and so on
- `Services.Tends`: what an operation on one entry leaves alone, and `tends_governs`: every operation
  does
-/

namespace LiveTree

namespace Registry

/-- Loading on the spot neither starts nor ends an attempt. -/
theorem loadBlocking_steady (registry : Registry) (libraries : Libraries) (language : String) :
    (registry.loadBlocking libraries language).1.languages = registry.languages ∧
      (registry.loadBlocking libraries language).1.attempts = registry.attempts ∧
      ∀ other, (registry.loadBlocking libraries language).1.isLoading other =
        registry.isLoading other := by
  unfold loadBlocking
  -- Only an empty slot of a registered language is tried, and only a success fills it.
  split
  · exact ⟨rfl, rfl, fun _ => rfl⟩
  · exact ⟨rfl, rfl, fun _ => rfl⟩
  · next vacant =>
    split
    · exact ⟨rfl, rfl, fun _ => rfl⟩
    · next config _ =>
      have hslots : (registry.find libraries config).1.slots = registry.slots := rfl
      split
      · next found grammar h =>
        obtain rfl : (registry.find libraries config).1 = found := by rw [h]
        refine ⟨rfl, rfl, fun other => ?_⟩
        unfold isLoading
        dsimp only
        rw [hslots, Table.find?_insert]
        -- The slot that is filled was empty, so it was not being loaded.
        split
        · next heq => rw [heq, vacant]; rfl
        · rfl
      · next found error h =>
        obtain rfl : (registry.find libraries config).1 = found := by rw [h]
        exact ⟨rfl, rfl, fun _ => rfl⟩

end Registry

namespace Services

/-- Tasks have names of their own, all of which have been given out. -/
structure Queued (s : Services) : Prop where
  distinct : ∀ a ∈ s.tasks, ∀ b ∈ s.tasks, a.id = b.id → a = b
  given : ∀ task ∈ s.tasks, task.id < s.nextTask

/-- The task that a timer waits for is there, and it is one that will wake the timer. -/
def Armed (s : Services) (uri : String) (timer : Timer) : Prop :=
  ∀ id, timer.handle = some id →
    ∃ deadline, (⟨id, deadline, .reparse uri timer.generation⟩ : Task) ∈ s.tasks

/-- A timer that waits for nothing is in order. -/
theorem armed_of_none (s : Services) (uri : String) {timer : Timer} (h : timer.handle = none) :
    s.Armed uri timer := by
  intro id hid
  exact nomatch h.symm.trans hid

/-- An armed timer is pending if it waits for anything. -/
theorem isPending_of_armed {s : Services} {uri : String} {entry : Entry}
    (armed : s.Armed uri entry.timer) :
    s.isPending entry = true ↔ entry.timer.handle ≠ none := by
  unfold isPending
  cases hhandle : entry.timer.handle with
  | none => simp
  | some id =>
    -- The task is in the queue, so the handle is found there.
    obtain ⟨deadline, hmem⟩ := armed id hhandle
    simp only [Option.any_some, List.any_eq_true, ne_eq, reduceCtorEq, not_false_eq_true, iff_true]
    exact ⟨_, hmem, beq_self_eq_true id⟩

/-- Of what is not about tasks, an operation on an entry changes nothing that others rely on. -/
structure Steady (s later : Services) : Prop where
  config : later.config = s.config
  runtime : later.runtime = s.runtime
  waiters : later.waiters = s.waiters
  languages : later.registry.languages = s.registry.languages
  attempts : later.registry.attempts = s.registry.attempts
  loading : ∀ language, later.registry.isLoading language = s.registry.isLoading language

/-- Nothing done is steady. -/
theorem Steady.refl (s : Services) : s.Steady s := ⟨rfl, rfl, rfl, rfl, rfl, fun _ => rfl⟩

/-- What two operations leave alone is left alone by both. -/
theorem Steady.trans {a b c : Services} (hab : a.Steady b) (hbc : b.Steady c) : a.Steady c where
  config := hbc.config.trans hab.config
  runtime := hbc.runtime.trans hab.runtime
  waiters := hbc.waiters.trans hab.waiters
  languages := hbc.languages.trans hab.languages
  attempts := hbc.attempts.trans hab.attempts
  loading language := (hbc.loading language).trans (hab.loading language)

/-- What an operation on the entry of a uri does to tasks.  `timer` is the timer of the entry before it
    and `next` the one after it. -/
structure Tends (s : Services) (uri : String) (timer : Timer) (later : Services) (next : Timer) :
    Prop extends Steady s later where
  /-- Names are given out, never taken back. -/
  issued : s.nextTask ≤ later.nextTask
  queued : s.Queued → later.Queued
  armed : s.Queued → s.Armed uri timer → later.Armed uri next
  /-- Only the task that the timer waits for may be dropped. -/
  spared : s.Queued → ∀ task ∈ s.tasks, timer.handle ≠ some task.id → task ∈ later.tasks
  /-- If the timer waits for another task, that task is a new one. -/
  handle : next.handle = timer.handle ∨ next.handle = none ∨
    ∃ id, s.nextTask ≤ id ∧ next.handle = some id

namespace Tends

variable {s later : Services} {uri : String} {timer next : Timer}

/-- An operation that has nothing to do with tasks. -/
theorem of_tasks (steady : s.Steady later) (tasks : later.tasks = s.tasks)
    (nextTask : later.nextTask = s.nextTask) : s.Tends uri timer later timer where
  toSteady := steady
  issued := Nat.le_of_eq nextTask.symm
  -- The queue is the same, and so are the names that have been given out.
  queued queued := ⟨by rw [tasks]; exact queued.distinct, by rw [tasks, nextTask]; exact queued.given⟩
  armed _ armed := by
    unfold Armed
    rw [tasks]
    exact armed
  spared _ task htask _ := by rw [tasks]; exact htask
  handle := .inl rfl

/-- Nothing done leaves everything alone. -/
theorem refl (s : Services) (uri : String) (timer : Timer) : s.Tends uri timer s timer :=
  .of_tasks (.refl s) rfl rfl

/-- A timer that no longer waits has nothing to do with tasks. -/
theorem of_none (s : Services) (uri : String) (timer : Timer) (h : next.handle = none) :
    s.Tends uri timer s next :=
  { Tends.refl s uri timer with
    armed := fun _ _ => armed_of_none s uri h
    handle := .inr (.inl h) }

/-- What is left alone by one operation and then by another is left alone by both. -/
theorem trans {last : Services} {final : Timer} (h : s.Tends uri timer later next)
    (h' : later.Tends uri next last final) : s.Tends uri timer last final where
  toSteady := h.toSteady.trans h'.toSteady
  issued := Nat.le_trans h.issued h'.issued
  queued queued := h'.queued (h.queued queued)
  armed queued armed := h'.armed (h.queued queued) (h.armed queued armed)
  spared queued task htask hother := by
    refine h'.spared (h.queued queued) task (h.spared queued task htask hother) ?_
    have hlt := queued.given task htask
    have hnew := h.handle
    -- A task that the timer has come to wait for is newer than the one at hand.
    rcases hnew with hsame | hnone | ⟨id, hid, hnew⟩
    · rw [hsame]; exact hother
    · rw [hnone]; simp
    · rw [hnew]
      intro heq
      obtain rfl := Option.some.inj heq
      exact Nat.lt_irrefl _ (Nat.lt_of_lt_of_le hlt hid)
  handle := by
    have hissued := h.issued
    rcases h'.handle with hsame | hnone | ⟨id, hid, hnew⟩
    -- Wherever the later operation leaves the timer as it is, the earlier one decides.
    · rw [hsame]; exact h.handle
    · exact .inr (.inl hnone)
    · exact .inr (.inr ⟨id, Nat.le_trans hissued hid, hnew⟩)

end Tends

/-! ## Tasks -/

/-- The meters are nobody's timers. -/
theorem measure_steady (s : Services) (f : Metrics → Metrics) : s.Steady (s.measure f) :=
  ⟨rfl, rfl, rfl, rfl, rfl, fun _ => rfl⟩

/-- A task that is dropped leaves the others in order. -/
theorem Queued.abort {s : Services} (queued : s.Queued) (id : TaskId) : (s.abort id).Queued where
  distinct a ha b hb := queued.distinct a (List.mem_filter.1 ha).1 b (List.mem_filter.1 hb).1
  given task htask := queued.given task (List.mem_filter.1 htask).1

/-- A task is left in the queue if it is another than the one dropped. -/
theorem mem_abort {s : Services} {id : TaskId} {task : Task} :
    task ∈ (s.abort id).tasks ↔ task ∈ s.tasks ∧ task.id ≠ id := by
  simp [abort]

/-- A new task has a name of its own. -/
theorem Queued.spawn {s : Services} (queued : s.Queued) (delay : Nat) (work : Work) :
    (s.spawn delay work).1.Queued := by
  constructor
  · intro a ha b hb hid
    -- Each of the two tasks is an old one or the new one, whose name was not given out before.
    rcases List.mem_append.1 ha with ha | ha <;> rcases List.mem_append.1 hb with hb | hb
    · exact queued.distinct a ha b hb hid
    · obtain rfl := List.mem_singleton.1 hb
      exact absurd hid (Nat.ne_of_lt (queued.given a ha))
    · obtain rfl := List.mem_singleton.1 ha
      exact absurd hid.symm (Nat.ne_of_lt (queued.given b hb))
    · exact (List.mem_singleton.1 ha).trans (List.mem_singleton.1 hb).symm
  · intro task htask
    rcases List.mem_append.1 htask with htask | htask
    · exact Nat.lt_succ_of_lt (queued.given task htask)
    · obtain rfl := List.mem_singleton.1 htask
      exact Nat.lt_succ_self _

/-- A new task stands behind the others. -/
theorem mem_spawn_of_mem {s : Services} {task : Task} (h : task ∈ s.tasks) (delay : Nat)
    (work : Work) : task ∈ (s.spawn delay work).1.tasks :=
  List.mem_append_left _ h

/-- The new task is in the queue, under the next name. -/
theorem mem_spawn (s : Services) (delay : Nat) (work : Work) :
    ∃ deadline, (⟨s.nextTask, deadline, work⟩ : Task) ∈ (s.spawn delay work).1.tasks :=
  ⟨_, List.mem_append_right _ List.mem_cons_self⟩

/-- Spawning a task concerns no timer. -/
theorem spawn_tends (s : Services) (uri : String) (timer : Timer) (delay : Nat) (work : Work) :
    s.Tends uri timer (s.spawn delay work).1 timer where
  toSteady := ⟨rfl, rfl, rfl, rfl, rfl, fun _ => rfl⟩
  issued := Nat.le_succ _
  queued queued := queued.spawn delay work
  armed _ armed id hid := by
    obtain ⟨deadline, hmem⟩ := armed id hid
    exact ⟨deadline, mem_spawn_of_mem hmem delay work⟩
  spared _ task htask _ := mem_spawn_of_mem htask delay work
  handle := .inl rfl

/-- A timer that waits for nothing comes to wait for a task that will wake it. -/
theorem spawn_arms (s : Services) (uri : String) (timer : Timer) (delay : Nat) :
    s.Tends uri timer (s.spawn delay (.reparse uri (timer.generation + 1))).1
      (timer.armed s.nextTask) where
  toSteady := ⟨rfl, rfl, rfl, rfl, rfl, fun _ => rfl⟩
  issued := Nat.le_succ _
  queued queued := queued.spawn delay _
  armed _ _ id hid := by
    -- The handle is the name of the task that was just queued.
    obtain rfl := Option.some.inj hid
    exact s.mem_spawn delay _
  spared _ task htask _ := mem_spawn_of_mem htask delay _
  handle := .inr (.inr ⟨s.nextTask, Nat.le_refl _, rfl⟩)

/-- The task that a timer waits for may be dropped if the timer no longer waits for it. -/
theorem abort_tends (s : Services) (uri : String) {timer next : Timer} {id : TaskId}
    (h : timer.handle = some id) (hnone : next.handle = none) :
    s.Tends uri timer (s.abort id) next where
  toSteady := ⟨rfl, rfl, rfl, rfl, rfl, fun _ => rfl⟩
  issued := Nat.le_refl _
  queued queued := queued.abort id
  armed _ _ := armed_of_none _ uri hnone
  -- A task of another name is not dropped.
  spared _ task htask hother := by
    refine mem_abort.2 ⟨htask, fun heq => ?_⟩
    rw [h, heq] at hother
    exact hother rfl
  handle := .inr (.inl hnone)

/-! ## Timers -/

/-- Cancelling drops at most the task that the timer waits for. -/
theorem cancelTimer_tends (s : Services) (uri : String) (entry : Entry) :
    s.Tends uri entry.timer (s.cancelTimer entry).1 (s.cancelTimer entry).2.1.timer := by
  unfold cancelTimer
  split
  · next task hhandle => exact s.abort_tends uri hhandle rfl
  · exact .of_none s uri entry.timer rfl

/-! ## What operations are made of -/

/-- Looking for a grammar may load it on the spot, which starts no attempt. -/
theorem grammarNow_steady (s : Services) (language : String) :
    s.Steady (s.grammarNow language).1 := by
  unfold grammarNow
  split
  · exact .refl s
  · split
    · obtain ⟨hlanguages, hattempts, hloading⟩ :=
        s.registry.loadBlocking_steady s.libraries language
      exact ⟨rfl, rfl, rfl, hlanguages, hattempts, hloading⟩
    · exact .refl s

/-- Looking for a grammar queues nothing and drops nothing. -/
theorem grammarNow_tasks (s : Services) (language : String) :
    (s.grammarNow language).1.tasks = s.tasks ∧
      (s.grammarNow language).1.nextTask = s.nextTask := by
  unfold grammarNow
  split
  · exact ⟨rfl, rfl⟩
  · split <;> exact ⟨rfl, rfl⟩

/-- A report to the kept tree leaves the timer as it was. -/
theorem applyChanges_timer (entry : Entry) (changes : List Change) (version : Int) :
    (entry.applyChanges changes version).1.timer = entry.timer := by
  unfold Entry.applyChanges
  split
  · rfl
  · split
    · rfl
    · split <;> rfl

/-- A relation between the services and the timer of the entry of a uri before an operation and after it,
    which holds of what has nothing to do with tasks, of a new setting, and of a load that is
    started. -/
structure Schedules (uri : String) (relation : Services → Timer → Services → Timer → Prop) :
    Prop where
  /-- What has nothing to do with tasks. -/
  quiet : ∀ {s later : Services} (timer : Timer), s.Steady later → later.tasks = s.tasks →
    later.nextTask = s.nextTask → relation s timer later timer
  /-- One operation after another. -/
  trans : ∀ {a b c : Services} {timer next final : Timer}, relation a timer b next →
    relation b next c final → relation a timer c final
  /-- A new setting of the timer. -/
  schedule : ∀ (s : Services) (entry : Entry) (delay : Nat), relation s entry.timer
    (s.schedule uri entry delay).1 (s.schedule uri entry delay).2.timer
  /-- A load that is started for the document. -/
  load : ∀ (s : Services) (timer : Timer) (language : String),
    relation s timer (s.spawn 0 (.load uri language)).1 timer

namespace Schedules

variable {uri : String} {relation : Services → Timer → Services → Timer → Prop}

/-- Nothing done is quiet. -/
theorem refl (h : Schedules uri relation) (s : Services) (timer : Timer) :
    relation s timer s timer :=
  h.quiet timer (.refl s) rfl rfl

/-- Metering is quiet. -/
theorem measure (h : Schedules uri relation) (s : Services) (timer : Timer)
    (f : Metrics → Metrics) : relation s timer (s.measure f) timer :=
  h.quiet timer (s.measure_steady f) rfl rfl

/-- Looking for a grammar is quiet. -/
theorem grammarNow (h : Schedules uri relation) (s : Services) (timer : Timer)
    (language : String) : relation s timer (s.grammarNow language).1 timer :=
  h.quiet timer (s.grammarNow_steady language) (s.grammarNow_tasks language).1
    (s.grammarNow_tasks language).2

/-- A parse has nothing to do with tasks, however it ends. -/
theorem parseEntry (h : Schedules uri relation) (s : Services) (parser : Parser) (doc : Document)
    (entry : Entry) (grammar : Grammar) :
    relation s entry.timer (s.parseEntry parser doc entry grammar).1
      (s.parseEntry parser doc entry grammar).2.1.timer := by
  unfold Services.parseEntry
  dsimp only
  split <;> exact h.quiet entry.timer ⟨rfl, rfl, rfl, rfl, rfl, fun _ => rfl⟩ rfl rfl

/-- The scheduled path may set the timer anew or start a load. -/
theorem reparse {doc : Document} (h : Schedules doc.uri relation) (s : Services) (parser : Parser)
    (entry : Entry) :
    relation s entry.timer (s.reparse parser doc entry).1
      (s.reparse parser doc entry).2.1.timer := by
  have hends := s.reparse_ends parser doc entry
  generalize s.reparse parser doc entry = ending at hends ⊢
  cases hends with
  | current _ => exact h.refl s entry.timer
  | parsed _ _ => exact h.parseEntry s parser doc entry _
  | waiting _ _ _ _ => exact h.schedule s entry s.config.debounceMs
  | loading _ _ _ _ _ => exact h.load s entry.timer _
  | resting _ _ _ => exact h.refl s entry.timer

/-- A timer that fires in its own generation no longer waits, and goes the scheduled path. -/
theorem fire {doc : Document} (h : Schedules doc.uri relation) (s : Services) (parser : Parser)
    (entry : Entry) :
    relation s { entry.timer with handle := none }
      (s.fire parser doc entry entry.timer.generation).1
      (s.fire parser doc entry entry.timer.generation).2.timer := by
  -- The claimed timer goes the scheduled path, with the fire counted first.
  have hreparse := h.trans (h.measure s _ Metrics.recordScheduledFire)
    (h.reparse _ parser { entry with timer := { entry.timer with handle := none } })
  unfold Services.fire Timer.claim?
  rw [if_pos rfl]
  dsimp only
  split
  · next heq => rw [heq] at hreparse; exact hreparse
  · next later failed error heq =>
    rw [heq] at hreparse
    -- A failure schedules the entry once more, or gives up.
    split
    · exact h.trans hreparse (h.schedule later
        { failed with consecutiveFailures := failed.consecutiveFailures + 1 } _)
    · exact hreparse

/-- A report sets the timer anew if it is applied and edits schedule a reparse. -/
theorem report (h : Schedules uri relation) (s : Services) (entry : Entry) (version : Int)
    (changes : List Change) :
    relation s entry.timer (s.report uri entry version changes).1
      (s.report uri entry version changes).2.1.timer := by
  have htimer := applyChanges_timer entry changes version
  have hends := s.report_ends uri entry version changes
  generalize s.report uri entry version changes = ending at hends ⊢
  cases hends with
  -- Of the outcomes only a report that was applied can set the timer.
  | @scheduled changed count applied _ =>
    rw [applied] at htimer
    have hmeasure := h.measure s changed.timer (·.recordEditsApplied count)
    rw [← htimer]
    exact h.trans hmeasure (h.schedule _ changed _)
  | @applied changed count applied _ =>
    rw [applied] at htimer
    rw [← htimer]
    exact h.measure s changed.timer (·.recordEditsApplied count)
  | @dropped changed count dropped =>
    rw [dropped] at htimer
    rw [← htimer]
    exact h.measure s changed.timer (·.recordEditsDropped count)
  | stopped stopped =>
    rw [stopped] at htimer
    rw [← htimer]
    exact h.refl s _

end Schedules

/-- A relation that holds of a cancellation, too, and of a timer that comes to wait for a new task: of
    everything that operations on the entry are made of. -/
structure Governs (uri : String) (relation : Services → Timer → Services → Timer → Prop) :
    Prop where
  /-- What has nothing to do with tasks. -/
  quiet : ∀ {s later : Services} (timer : Timer), s.Steady later → later.tasks = s.tasks →
    later.nextTask = s.nextTask → relation s timer later timer
  /-- One operation after another. -/
  trans : ∀ {a b c : Services} {timer next final : Timer}, relation a timer b next →
    relation b next c final → relation a timer c final
  /-- The timer is cancelled. -/
  cancel : ∀ (s : Services) (entry : Entry),
    relation s entry.timer (s.cancelTimer entry).1 (s.cancelTimer entry).2.1.timer
  /-- The timer comes to wait for a new task, in its next generation. -/
  arm : ∀ (s : Services) (timer : Timer) (delay : Nat), relation s timer
    (s.spawn delay (.reparse uri (timer.generation + 1))).1 (timer.armed s.nextTask)
  /-- A load that is started for the document. -/
  load : ∀ (s : Services) (timer : Timer) (language : String),
    relation s timer (s.spawn 0 (.load uri language)).1 timer

namespace Governs

variable {uri : String} {relation : Services → Timer → Services → Timer → Prop}

/-- Scheduling cancels whatever the timer waits for and makes it wait for a new task. -/
theorem schedules (h : Governs uri relation) : Schedules uri relation where
  quiet := h.quiet
  trans := h.trans
  schedule s entry delay := by
    unfold Services.schedule
    split
    · refine h.trans (h.cancel s entry) ?_
      dsimp only
      -- A timer that is replaced is counted before the new one is set.
      split
      · exact h.trans (h.quiet _ (Services.measure_steady _ _) rfl rfl) (h.arm _ _ delay)
      · exact h.arm _ _ delay
    · exact h.quiet entry.timer (.refl s) rfl rfl
  load := h.load

/-- A look at the tree cancels the timer, unless the tree is current. -/
theorem treeNow (h : Governs uri relation) (s : Services) (parser : Parser) (doc : Document)
    (entry : Entry) :
    relation s entry.timer (s.treeNow parser doc entry).1
      (s.treeNow parser doc entry).2.1.timer := by
  cases hcurrent : entry.currentTree? doc.version with
  | some tree => rw [treeNow_of_current parser hcurrent]; exact h.schedules.refl s entry.timer
  | none =>
    rw [treeNow_of_outdated parser hcurrent]
    -- The timer is cancelled before the grammar is looked for.
    have hgrammar := h.trans (h.cancel s entry) (h.schedules.grammarNow _ _ doc.language)
    split
    · next later error heq => rw [heq] at hgrammar; exact hgrammar
    · next later grammar heq =>
      rw [heq] at hgrammar
      exact h.trans hgrammar (h.schedules.parseEntry later parser doc _ grammar)

/-- A verification looks at the tree, and the second parse concerns no timer. -/
theorem verify (h : Governs uri relation) (s : Services) (parser : Parser) (doc : Document)
    (entry : Entry) :
    relation s entry.timer (s.verify parser doc entry).1
      (s.verify parser doc entry).2.1.timer := by
  have htree := h.treeNow s parser doc entry
  unfold Services.verify
  -- A verification may end early, each time with the timer as the look has left it.
  split
  · next heq => rw [heq] at htree; exact htree
  · next later changed tree heq =>
    rw [heq] at htree
    have hgrammar := h.trans htree (h.schedules.grammarNow later changed.timer tree.language)
    split
    · next heq => rw [heq] at hgrammar; exact hgrammar
    · next last grammar heq =>
      rw [heq] at hgrammar
      have hparse : relation last changed.timer (last.parseText parser grammar doc.text none).1
          changed.timer :=
        h.quiet changed.timer ⟨rfl, rfl, rfl, rfl, rfl, fun _ => rfl⟩ rfl rfl
      split
      · next heq => rw [heq] at hparse; exact h.trans hgrammar hparse
      · next final source heq =>
        rw [heq] at hparse
        have hmeasure := h.schedules.measure final changed.timer Metrics.recordVerification
        dsimp only
        split <;> exact h.trans hgrammar (h.trans hparse hmeasure)

end Governs

/-! ## What operations leave alone -/

/-- Every operation leaves alone what is not its own. -/
theorem tends_governs (uri : String) :
    Governs uri fun s timer later next => s.Tends uri timer later next where
  quiet _ steady tasks nextTask := .of_tasks steady tasks nextTask
  trans first second := first.trans second
  cancel s entry := s.cancelTimer_tends uri entry
  arm s timer delay := s.spawn_arms uri timer delay
  load s timer language := s.spawn_tends uri timer 0 (.load uri language)

/-- Scheduling an entry leaves the other timers alone. -/
theorem schedule_tends (s : Services) (uri : String) (entry : Entry) (delay : Nat) :
    s.Tends uri entry.timer (s.schedule uri entry delay).1
      (s.schedule uri entry delay).2.timer :=
  (tends_governs uri).schedules.schedule s entry delay

/-- A tree on demand leaves the other timers alone. -/
theorem treeNow_tends (s : Services) (parser : Parser) (doc : Document) (entry : Entry)
    (uri : String) :
    s.Tends uri entry.timer (s.treeNow parser doc entry).1
      (s.treeNow parser doc entry).2.1.timer :=
  (tends_governs uri).treeNow s parser doc entry

/-- The scheduled path leaves the other timers alone. -/
theorem reparse_tends (s : Services) (parser : Parser) (doc : Document) (entry : Entry) :
    s.Tends doc.uri entry.timer (s.reparse parser doc entry).1
      (s.reparse parser doc entry).2.1.timer :=
  (tends_governs doc.uri).schedules.reparse s parser entry

/-- A timer that fires in a generation that is over does nothing.  In its own generation it no longer
    waits, and goes the scheduled path. -/
theorem fire_tends (s : Services) (parser : Parser) (doc : Document) (entry : Entry)
    (generation : Nat) :
    (entry.timer.generation ≠ generation ∧
      s.fire parser doc entry generation = (s, entry)) ∨
    (entry.timer.generation = generation ∧
      s.Tends doc.uri { entry.timer with handle := none } (s.fire parser doc entry generation).1
        (s.fire parser doc entry generation).2.timer) := by
  by_cases hgeneration : entry.timer.generation = generation
  · subst hgeneration
    exact .inr ⟨rfl, (tends_governs doc.uri).schedules.fire s parser entry⟩
  · refine .inl ⟨hgeneration, ?_⟩
    unfold fire Timer.claim?
    rw [if_neg hgeneration]

/-- A report leaves the other timers alone. -/
theorem report_tends (s : Services) (uri : String) (entry : Entry) (version : Int)
    (changes : List Change) :
    s.Tends uri entry.timer (s.report uri entry version changes).1
      (s.report uri entry version changes).2.1.timer :=
  (tends_governs uri).schedules.report s entry version changes

/-- A verification leaves the other timers alone. -/
theorem verify_tends (s : Services) (parser : Parser) (doc : Document) (entry : Entry)
    (uri : String) :
    s.Tends uri entry.timer (s.verify parser doc entry).1
      (s.verify parser doc entry).2.1.timer :=
  (tends_governs uri).verify s parser doc entry

/-! ## What operations leave to be done -/

/-- With a runtime, an entry that is scheduled waits for a new task. -/
theorem schedule_handle {s : Services} (runtime : s.runtime = true) (uri : String) (entry : Entry)
    (delay : Nat) :
    ∃ id, s.nextTask ≤ id ∧ (s.schedule uri entry delay).2.timer.handle = some id := by
  -- The name of the new task is given out after the cancellation.
  have hissued := (s.cancelTimer_tends uri entry).issued
  unfold schedule
  rw [if_pos runtime]
  dsimp only
  split
  · exact ⟨_, hissued, rfl⟩
  · exact ⟨_, hissued, rfl⟩

/-- With a runtime, the scheduled path of a supported language never just drops a document: unless the
    parse fails, its tree is current afterwards, its timer waits for a new task, or a load that was
    started for it is to run. -/
theorem reparse_leaves {s : Services} (runtime : s.runtime = true) (parser : Parser)
    {doc : Document} (supported : s.registry.isSupported doc.language = true) (entry : Entry) :
    (∃ error, (s.reparse parser doc entry).2.2 = .error error) ∨
      ((s.reparse parser doc entry).2.1.currentTree? doc.version).isSome = true ∨
      (∃ id, s.nextTask ≤ id ∧ (s.reparse parser doc entry).2.1.timer.handle = some id) ∨
      ∃ task ∈ (s.reparse parser doc entry).1.tasks, task.work = .load doc.uri doc.language := by
  have hends := s.reparse_ends parser doc entry
  generalize s.reparse parser doc entry = ending at hends ⊢
  cases hends with
  | current current => exact .inr (.inl (by rw [current]; rfl))
  | @parsed grammar _ _ =>
    cases hparse : (s.parseEntry parser doc entry grammar).2.2 with
    | error error => exact .inl ⟨error, rfl⟩
    | ok tree =>
      rw [currentTree?_of_parseEntry hparse]
      exact .inr (.inl rfl)
  -- Somebody else's load is waited for by timer, and otherwise one is started.
  | waiting _ _ _ _ => exact .inr (.inr (.inl (schedule_handle runtime doc.uri entry _)))
  | loading _ _ _ _ _ =>
    obtain ⟨deadline, hmem⟩ := s.mem_spawn 0 (.load doc.uri doc.language)
    exact .inr (.inr (.inr ⟨_, hmem, rfl⟩))
  | resting _ _ why =>
    rcases why with hunknown | ⟨-, hnone⟩
    · exact nomatch supported.symm.trans hunknown
    · exact nomatch runtime.symm.trans hnone

/-- With a runtime, a timer that fires in its own generation never just drops a document of a supported
    language: its tree is current afterwards, its timer waits for a new task, a load that was started
    for it is to run, or it has failed too often. -/
theorem fire_leaves {s : Services} (runtime : s.runtime = true) (parser : Parser)
    {doc : Document} (supported : s.registry.isSupported doc.language = true) (entry : Entry) :
    ((s.fire parser doc entry entry.timer.generation).2.currentTree? doc.version).isSome = true ∨
      (∃ id, s.nextTask ≤ id ∧
        (s.fire parser doc entry entry.timer.generation).2.timer.handle = some id) ∨
      (∃ task ∈ (s.fire parser doc entry entry.timer.generation).1.tasks,
        task.work = .load doc.uri doc.language) ∨
      s.config.maxParseRetries <
        (s.fire parser doc entry entry.timer.generation).2.consecutiveFailures := by
  unfold fire Timer.claim?
  rw [if_pos rfl]
  dsimp only
  have hleaves := reparse_leaves (s := s.measure Metrics.recordScheduledFire) runtime parser
    supported { entry with timer := { entry.timer with handle := none } }
  have htends := reparse_tends (s.measure Metrics.recordScheduledFire) parser doc
    { entry with timer := { entry.timer with handle := none } }
  split
  · next h =>
    -- Without an error the scheduled path has seen to the document.
    rw [h] at hleaves
    rcases hleaves with ⟨error, herror⟩ | hcurrent | hhandle | hload
    · exact nomatch herror
    · exact .inl hcurrent
    · exact .inr (.inl hhandle)
    · exact .inr (.inr (.inl hload))
  · next later failed error h =>
    rw [h] at htends
    have hissued : s.nextTask ≤ later.nextTask := htends.issued
    have hconfig : later.config = s.config := htends.config
    -- A failure is tried again, or it was one too many.
    split
    · have hruntime : later.runtime = true := htends.runtime.trans runtime
      obtain ⟨id, hid, hhandle⟩ := schedule_handle hruntime doc.uri
        { failed with consecutiveFailures := failed.consecutiveFailures + 1 } later.config.debounceMs
      exact .inr (.inl ⟨id, Nat.le_trans hissued hid, hhandle⟩)
    · next hmany =>
      rw [hconfig] at hmany
      exact .inr (.inr (.inr (Nat.lt_of_not_le hmany)))

/-- With a runtime, a report that is applied schedules its document. -/
theorem report_handle {s : Services} (runtime : s.runtime = true)
    (onEdit : s.config.scheduleOnEdit = true) (uri : String) {entry changed : Entry} {version : Int}
    {changes : List Change} {count : Nat}
    (h : entry.applyChanges changes version = (changed, .applied count)) :
    ∃ id, s.nextTask ≤ id ∧ (s.report uri entry version changes).2.1.timer.handle = some id := by
  have honEdit : (s.measure (·.recordEditsApplied count)).config.scheduleOnEdit = true := onEdit
  unfold report
  rw [h]
  dsimp only
  rw [if_pos honEdit]
  exact schedule_handle (s := s.measure (·.recordEditsApplied count)) runtime uri changed _

/-- A report that is not applied leaves all of an entry as it is but the changes in its kept tree. -/
theorem applyChanges_of_not_applied {entry : Entry} {version : Int} {changes : List Change}
    (h : ∀ count, (entry.applyChanges changes version).2 ≠ .applied count) :
    ∃ previous, (entry.applyChanges changes version).1 = { entry with previous := previous } := by
  -- The report was dropped, at the kept tree or at its version, or it was stopped halfway.
  unfold Entry.applyChanges at h ⊢
  cases hprevious : entry.previous with
  | none => exact ⟨entry.previous, rfl⟩
  | some previous =>
    rw [hprevious] at h
    dsimp only at h ⊢
    split
    · exact ⟨entry.previous, rfl⟩
    · next hnewer =>
      rw [if_neg hnewer] at h
      split
      · exact ⟨_, rfl⟩
      · next hfits =>
        rw [if_neg hfits] at h
        exact absurd rfl (h _)

/-- A report that is not applied queues nothing. -/
theorem report_of_not_applied (s : Services) (uri : String) {entry : Entry} {version : Int}
    {changes : List Change}
    (h : ∀ count, (entry.applyChanges changes version).2 ≠ .applied count) :
    (s.report uri entry version changes).1.tasks = s.tasks ∧
      (s.report uri entry version changes).2.1 = (entry.applyChanges changes version).1 := by
  have hends := s.report_ends uri entry version changes
  generalize s.report uri entry version changes = ending at hends ⊢
  cases hends with
  | scheduled applied _ => exact absurd (congrArg Prod.snd applied) (h _)
  | applied applied _ => exact absurd (congrArg Prod.snd applied) (h _)
  | dropped dropped => rw [dropped]; exact ⟨rfl, rfl⟩
  | stopped stopped => rw [stopped]; exact ⟨rfl, rfl⟩

end Services

end LiveTree
