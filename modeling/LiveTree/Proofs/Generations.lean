import LiveTree.Proofs.Alarms

/-!
# Generations

Every cancellation of a timer and every new setting starts a new generation, and a task that is to wake
the timer carries the generation in which it was spawned.  The lemmas of this file say how the two stand
to each other: an operation on one entry only raises the generation of its timer, and what it adds to
the queue is for a generation that the timer has come to in it, the last one exactly if the timer waits
for the new task.  Nothing is assumed about the tasks that are queued before.

Which timer a move cancels is said without looking at generations, by `Workspace.cancels?`.  A timer
that waits for nothing after a move is in a new generation only if the move has cancelled it.

## Key results

- `Services.Ages`: what an operation does to the generations of a timer and of the tasks that are to
  wake it, and `Services.ages_governs`: every operation does
- `Workspace.cancels?`: the uri whose timer a move cancels
- `Workspace.move_ages`: the same for every move but an opening, a closing and a timer that fires
- `Workspace.Carries`: what all of these come to for one uri, with `openDocument_carries`,
  `close_carries` and `timerFired_carries`
-/

namespace LiveTree

/-- What a task that has woken up says: which task it is, and the timer of which uri is to fire, in
    which generation. -/
structure Wakeup where
  sender : TaskId
  uri : String
  generation : Nat
  deriving DecidableEq, Repr

/-- What a task will say when it wakes up, if it is to wake a timer. -/
def Task.wakeup? (task : Task) : Option Wakeup :=
  match task.work with
  | .reparse uri generation => some ⟨task.id, uri, generation⟩
  | .load _ _ => none

/-- The message of a task is signed with the task's own name. -/
theorem Task.sender_of_wakeup? {task : Task} {wakeup : Wakeup} (h : task.wakeup? = some wakeup) :
    wakeup.sender = task.id := by
  unfold Task.wakeup? at h
  split at h
  · rw [← Option.some.inj h]
  · exact nomatch h

namespace Services

/-- What the queued tasks will say. -/
def wakeups (s : Services) : List Wakeup := s.tasks.filterMap Task.wakeup?

variable {s later last : Services} {uri : String} {timer next final : Timer}

/-- What will be said is said by a task in the queue. -/
theorem mem_wakeups {wakeup : Wakeup} :
    wakeup ∈ s.wakeups ↔ ∃ task ∈ s.tasks, task.wakeup? = some wakeup := List.mem_filterMap

/-- Dropping a task adds nothing to what will be said. -/
theorem wakeups_abort_subset (s : Services) (id : TaskId) : (s.abort id).wakeups ⊆ s.wakeups := by
  intro wakeup hwakeup
  obtain ⟨task, htask, hsays⟩ := mem_wakeups.1 hwakeup
  exact mem_wakeups.2 ⟨task, (mem_abort.1 htask).1, hsays⟩

/-- A task that is dropped says nothing any more. -/
theorem sender_ne_of_abort {id : TaskId} {wakeup : Wakeup} (h : wakeup ∈ (s.abort id).wakeups) :
    wakeup.sender ≠ id := by
  obtain ⟨task, htask, hsays⟩ := mem_wakeups.1 h
  rw [Task.sender_of_wakeup? hsays]
  exact (mem_abort.1 htask).2

/-- Whoever has something to say has been named. -/
theorem Queued.sender_lt (queued : s.Queued) {wakeup : Wakeup} (h : wakeup ∈ s.wakeups) :
    wakeup.sender < s.nextTask := by
  obtain ⟨task, htask, hsays⟩ := mem_wakeups.1 h
  rw [Task.sender_of_wakeup? hsays]
  exact queued.given task htask

/-- A task that is spawned may have something to say, behind all others. -/
theorem wakeups_spawn (s : Services) (delay : Nat) (work : Work) :
    (s.spawn delay work).1.wakeups = s.wakeups ++
      (Task.wakeup? ⟨s.nextTask, s.clock + min delay longestDelay, work⟩).toList := by
  show (s.tasks ++ [_]).filterMap _ = _
  rw [List.filterMap_append]
  cases hsays : Task.wakeup? ⟨s.nextTask, s.clock + min delay longestDelay, work⟩ with
  | none => rw [List.filterMap_cons_none hsays]; rfl
  | some wakeup => rw [List.filterMap_cons_some hsays]; rfl

/-! ## Generations -/

/-- The message is sent by a task that was spawned in an operation, for a generation that the timer has
    come to in it.  It is for the generation that the timer is in afterwards if and only if the timer
    waits for its sender. -/
structure SetAnew (s : Services) (timer : Timer) (later : Services) (next : Timer)
    (wakeup : Wakeup) : Prop where
  issued : s.nextTask ≤ wakeup.sender
  given : wakeup.sender < later.nextTask
  newer : timer.generation < wakeup.generation
  reached : wakeup.generation ≤ next.generation
  awaited : wakeup.generation = next.generation ↔ next.handle = some wakeup.sender

/-- What an operation does to the generations of the timer of a uri and of the messages for it.
    `timer` is the timer before it and `next` the one after it. -/
structure Ages (s : Services) (uri : String) (timer : Timer) (later : Services) (next : Timer) :
    Prop where
  issued : s.nextTask ≤ later.nextTask
  generation : timer.generation ≤ next.generation
  /-- Without a new generation the timer waits for the same task. -/
  idle : next.generation = timer.generation → next.handle = timer.handle
  /-- In a new generation the timer waits for a new task, if for any. -/
  fresh : timer.generation < next.generation → ∀ id, next.handle = some id →
    s.nextTask ≤ id ∧ id < later.nextTask
  wakeups : ∀ wakeup ∈ later.wakeups, wakeup.uri = uri →
    wakeup ∈ s.wakeups ∨ SetAnew s timer later next wakeup

namespace Ages

/-- An operation that sends nothing new. -/
theorem of_subset (nextTask : s.nextTask ≤ later.nextTask) (sub : later.wakeups ⊆ s.wakeups)
    (uri : String) (timer : Timer) : s.Ages uri timer later timer where
  issued := nextTask
  generation := Nat.le_refl _
  idle _ := rfl
  fresh hlt := absurd hlt (Nat.lt_irrefl _)
  wakeups _ hwakeup _ := .inl (sub hwakeup)

/-- Operations on the timer of the same uri, one after the other. -/
theorem trans (first : s.Ages uri timer later next) (second : later.Ages uri next last final) :
    s.Ages uri timer last final where
  issued := Nat.le_trans first.issued second.issued
  generation := Nat.le_trans first.generation second.generation
  idle heq := by
    -- Neither of the two has started a generation, since none has been taken back.
    have hle := first.generation
    have hle' := second.generation
    rw [second.idle (by omega), first.idle (by omega)]
  fresh hlt id hid := by
    -- If the second has not started a generation, the timer still waits for what the first has left
    -- it.
    rcases Nat.lt_or_eq_of_le second.generation with hgrown | hsame
    · obtain ⟨hnew, hgiven⟩ := second.fresh hgrown id hid
      exact ⟨Nat.le_trans first.issued hnew, hgiven⟩
    · rw [second.idle hsame.symm] at hid
      obtain ⟨hnew, hgiven⟩ := first.fresh (by omega) id hid
      exact ⟨hnew, Nat.lt_of_lt_of_le hgiven second.issued⟩
  wakeups wakeup hwakeup huri := by
    have hle := first.generation
    have hle' := second.generation
    rcases second.wakeups wakeup hwakeup huri with hlater | hnew
    · rcases first.wakeups wakeup hlater huri with hold | hset
      · exact .inl hold
      · -- It was sent in the first operation; the second may have moved the timer on.
        refine .inr ⟨hset.issued, Nat.lt_of_lt_of_le hset.given second.issued, hset.newer,
          Nat.le_trans hset.reached hle', ?_⟩
        rcases Nat.lt_or_eq_of_le hle' with hgrown | hsame
        · refine iff_of_false (Nat.ne_of_lt (Nat.lt_of_le_of_lt hset.reached hgrown)) fun hid => ?_
          obtain ⟨hnew, -⟩ := second.fresh hgrown _ hid
          exact Nat.lt_irrefl _ (Nat.lt_of_lt_of_le hset.given hnew)
        · rw [second.idle hsame.symm, ← hsame]
          exact hset.awaited
    -- It was sent in the second operation, for a generation that is newer still.
    · exact .inr ⟨Nat.le_trans first.issued hnew.issued, hnew.given,
        Nat.lt_of_le_of_lt hle hnew.newer, hnew.reached, hnew.awaited⟩

/-- A timer waits only for a task that has been named. -/
theorem given (h : s.Ages uri timer later next)
    (given : ∀ id, timer.handle = some id → id < s.nextTask) {id : TaskId}
    (hid : next.handle = some id) : id < later.nextTask := by
  rcases Nat.lt_or_eq_of_le h.generation with hgrown | hsame
  · exact (h.fresh hgrown id hid).2
  · rw [h.idle hsame.symm] at hid
    exact Nat.lt_of_lt_of_le (given id hid) h.issued

end Ages

/-- What is added to the queue is new. -/
structure Grows (s later : Services) : Prop where
  issued : s.nextTask ≤ later.nextTask
  queued : s.Queued → later.Queued
  /-- Whatever is said was to be said before, or its sender is new. -/
  wakeups : ∀ wakeup ∈ later.wakeups, wakeup ∈ s.wakeups ∨ s.nextTask ≤ wakeup.sender

/-- What is added in two steps is new after either. -/
theorem Grows.trans (first : s.Grows later) (second : later.Grows last) : s.Grows last where
  issued := Nat.le_trans first.issued second.issued
  queued queued := second.queued (first.queued queued)
  wakeups wakeup hwakeup := by
    rcases second.wakeups wakeup hwakeup with hlater | hnew
    · exact first.wakeups wakeup hlater
    · exact .inr (Nat.le_trans first.issued hnew)

/-- An operation on the entry of a uri: nothing is sent for any other. -/
structure AgesOnly (s : Services) (uri : String) (timer : Timer) (later : Services) (next : Timer) :
    Prop extends Ages s uri timer later next where
  queued : s.Queued → later.Queued
  others : ∀ other, other ≠ uri → ∀ timer, s.Ages other timer later timer

namespace AgesOnly

/-- An operation that has nothing to do with tasks. -/
theorem of_tasks (tasks : later.tasks = s.tasks) (nextTask : later.nextTask = s.nextTask) :
    s.AgesOnly uri timer later timer := by
  have hsub : later.wakeups ⊆ s.wakeups := by
    unfold wakeups
    rw [tasks]
    exact List.Subset.refl _
  have hages (other : String) (timer : Timer) : s.Ages other timer later timer :=
    .of_subset (Nat.le_of_eq nextTask.symm) hsub other timer
  -- As no task has come or gone, nothing is said that was not to be said before.
  refine ⟨hages uri timer, fun queued => ⟨?_, ?_⟩, fun other _ timer => hages other timer⟩
  · rw [tasks]
    exact queued.distinct
  · rw [tasks, nextTask]
    exact queued.given

/-- Nothing at all may happen. -/
theorem refl (s : Services) (uri : String) (timer : Timer) : s.AgesOnly uri timer s timer :=
  .of_tasks rfl rfl

/-- Operations on the entry of one uri, one after the other. -/
theorem trans (first : s.AgesOnly uri timer later next)
    (second : later.AgesOnly uri next last final) : s.AgesOnly uri timer last final where
  toAges := first.toAges.trans second.toAges
  queued queued := second.queued (first.queued queued)
  others other hne timer := (first.others other hne timer).trans (second.others other hne timer)

/-- Whatever uri a message is for, its sender is new unless the message was to be sent before. -/
theorem grows (h : s.AgesOnly uri timer later next) : s.Grows later where
  issued := h.issued
  queued := h.queued
  wakeups wakeup hwakeup := by
    by_cases heq : wakeup.uri = uri
    · exact (h.wakeups wakeup hwakeup heq).imp_right SetAnew.issued
    · exact ((h.others _ heq {}).wakeups wakeup hwakeup rfl).imp_right SetAnew.issued

end AgesOnly

/-! ## Timers -/

/-- A cancellation drops a task at most. -/
theorem cancelTimer_subset (s : Services) (entry : Entry) :
    (s.cancelTimer entry).1.wakeups ⊆ s.wakeups ∧
      (s.cancelTimer entry).1.nextTask = s.nextTask := by
  unfold cancelTimer
  split
  · exact ⟨s.wakeups_abort_subset _, rfl⟩
  · exact ⟨List.Subset.refl _, rfl⟩

/-- A cancellation as an operation on the entry: there is a new generation, for which nothing is
    sent. -/
theorem cancelTimer_ages (s : Services) (uri : String) (entry : Entry) :
    s.AgesOnly uri entry.timer (s.cancelTimer entry).1 (s.cancelTimer entry).2.1.timer := by
  obtain ⟨hsub, hnext⟩ := s.cancelTimer_subset entry
  rw [cancelTimer_timer]
  exact
    { issued := Nat.le_of_eq hnext.symm
      generation := Nat.le_succ _
      idle := fun heq => absurd heq (Nat.succ_ne_self _)
      fresh := fun _ _ hid => nomatch hid
      wakeups := fun _ hwakeup _ => .inl (hsub hwakeup)
      queued := (s.cancelTimer_tends uri entry).queued
      others := fun other _ timer => .of_subset (Nat.le_of_eq hnext.symm) hsub other timer }

/-- A load that is spawned wakes no timer. -/
theorem spawn_load_ages (s : Services) (uri : String) (timer : Timer) (delay : Nat)
    (own language : String) :
    s.AgesOnly uri timer (s.spawn delay (.load own language)).1 timer := by
  have hsub : (s.spawn delay (.load own language)).1.wakeups ⊆ s.wakeups := by
    rw [wakeups_spawn]
    simp [Task.wakeup?]
  exact
    { toAges := .of_subset (Nat.le_succ _) hsub uri timer
      queued := fun queued => queued.spawn delay _
      others := fun other _ timer => .of_subset (Nat.le_succ _) hsub other timer }

/-- A timer comes to wait for a new task, in a new generation. -/
theorem spawn_armed_ages (s : Services) (uri : String) (timer : Timer) (delay : Nat) :
    s.AgesOnly uri timer (s.spawn delay (.reparse uri (timer.generation + 1))).1
      (timer.armed s.nextTask) := by
  have hmem (wakeup : Wakeup)
      (h : wakeup ∈ (s.spawn delay (.reparse uri (timer.generation + 1))).1.wakeups) :
      wakeup ∈ s.wakeups ∨ wakeup = ⟨s.nextTask, uri, timer.generation + 1⟩ := by
    rw [wakeups_spawn] at h
    simpa [Task.wakeup?] using h
  -- The new message is for this uri and for the new generation; for other uris nothing is new.
  refine ⟨⟨Nat.le_succ _, Nat.le_succ _, fun heq => absurd heq (Nat.succ_ne_self _), ?_, ?_⟩,
    fun queued => queued.spawn delay _, fun other hne timer' => ?_⟩
  · rintro - id hid
    obtain rfl := Option.some.inj hid
    exact ⟨Nat.le_refl _, Nat.lt_succ_self _⟩
  -- The message that is new is for the generation that has just started, and its sender is waited
  -- for.
  · intro wakeup hwakeup _
    rcases hmem wakeup hwakeup with hold | rfl
    · exact .inl hold
    · exact .inr ⟨Nat.le_refl _, Nat.lt_succ_self _, Nat.lt_succ_self _, Nat.le_refl _,
        iff_of_true rfl rfl⟩
  · refine ⟨Nat.le_succ _, Nat.le_refl _, fun _ => rfl, fun hlt => absurd hlt (Nat.lt_irrefl _), ?_⟩
    intro wakeup hwakeup huri
    rcases hmem wakeup hwakeup with hold | rfl
    · exact .inl hold
    · exact absurd huri.symm hne

/-- Every operation on an entry is made of these, so generations grow in all of them. -/
theorem ages_governs (uri : String) :
    Governs uri fun s timer later next => s.AgesOnly uri timer later next where
  quiet _ _ tasks nextTask := .of_tasks tasks nextTask
  trans first second := first.trans second
  cancel s entry := s.cancelTimer_ages uri entry
  arm s timer delay := s.spawn_armed_ages uri timer delay
  load s timer language := s.spawn_load_ages uri timer 0 uri language

/-! ## Cancellations -/

/-- An operation that cancels the timer at most to set it anew: if the timer waits for nothing
    afterwards, it has been left alone. -/
structure Renews (s : Services) (uri : String) (timer : Timer) (later : Services) (next : Timer) :
    Prop extends AgesOnly s uri timer later next where
  unmoved : next.handle = none → next = timer

/-- Scheduling without a runtime sets nothing, and with one the timer waits afterwards. -/
theorem schedule_unmoved (s : Services) (uri : String) (entry : Entry) (delay : Nat)
    (h : (s.schedule uri entry delay).2.timer.handle = none) :
    (s.schedule uri entry delay).2.timer = entry.timer := by
  unfold schedule at h ⊢
  split
  · next runtime => rw [if_pos runtime] at h; exact nomatch h
  · rfl

/-- Reports and the scheduled path set the timer at most, and do not just cancel it. -/
theorem renews_schedules (uri : String) :
    Schedules uri fun s timer later next => s.Renews uri timer later next where
  quiet timer _ tasks nextTask := ⟨.of_tasks tasks nextTask, fun _ => rfl⟩
  trans first second := by
    refine ⟨first.toAgesOnly.trans second.toAgesOnly, fun hnone => ?_⟩
    -- What waits for nothing in the end waited for nothing in between, either.
    have hlast := second.unmoved hnone
    rw [hlast] at hnone ⊢
    exact first.unmoved hnone
  schedule s entry delay :=
    ⟨(ages_governs uri).schedules.schedule s entry delay, s.schedule_unmoved uri entry delay⟩
  load s timer language := ⟨s.spawn_load_ages uri timer 0 uri language, fun _ => rfl⟩

/-- A parse has nothing to do with the timer. -/
theorem parseEntry_timer (s : Services) (parser : Parser) (doc : Document) (entry : Entry)
    (grammar : Grammar) : (s.parseEntry parser doc entry grammar).2.1.timer = entry.timer := by
  unfold parseEntry
  dsimp only
  split <;> rfl

/-- A look at the tree cancels the timer unless the tree is current, and does not set it. -/
theorem treeNow_timer (s : Services) (parser : Parser) (doc : Document) (entry : Entry) :
    (s.treeNow parser doc entry).2.1.timer =
      if (entry.currentTree? doc.version).isNone then entry.timer.cancelled else entry.timer := by
  cases hcurrent : entry.currentTree? doc.version with
  | some tree => rw [treeNow_of_current parser hcurrent]; rfl
  | none =>
    rw [treeNow_of_outdated parser hcurrent]
    split
    · exact s.cancelTimer_timer entry
    · next later grammar _ =>
      exact (parseEntry_timer later parser doc _ grammar).trans (s.cancelTimer_timer entry)

/-- A verification begins with a look, and its second parse does not concern the timer. -/
theorem verify_timer (s : Services) (parser : Parser) (doc : Document) (entry : Entry) :
    (s.verify parser doc entry).2.1.timer =
      if (entry.currentTree? doc.version).isNone then entry.timer.cancelled else entry.timer := by
  rw [(s.verify_after_treeNow parser doc entry).2, treeNow_timer]

end Services

/-! ## Workspaces -/

namespace Workspace

variable {parser : Parser} {w later last : Workspace} {uri : String} {cancelled : Option String}

/-- The uri whose timer a look at its tree cancels: it does unless the tree is current. -/
def lookCancels? (w : Workspace) (uri : String) : Option String :=
  if (w.open? uri).any fun found => (found.1.currentTree? found.2.version).isNone then some uri
  else none

/-- What part of a workspace's life does to the generations of all timers, if nothing is opened or
    closed and no timer fires in it.  `cancelled` is the uri whose timer is cancelled in it, other than
    to be set anew. -/
structure Ages (w : Workspace) (cancelled : Option String) (later : Workspace) : Prop where
  queued : w.services.Queued → later.services.Queued
  contains : ∀ uri, later.entries.contains uri = w.entries.contains uri
  ages : ∀ uri, w.services.Ages uri (w.timer uri) later.services (later.timer uri)
  /-- The timer that is cancelled comes into a new generation. -/
  drops : ∀ uri, cancelled = some uri → (w.timer uri).generation < (later.timer uri).generation
  /-- A timer that is not set is in a new generation only if it has been cancelled. -/
  unset : ∀ uri, (later.timer uri).handle = none →
    (w.timer uri).generation < (later.timer uri).generation → cancelled = some uri

namespace Ages

/-- What has nothing to do with timers and tasks. -/
theorem of_tasks (entries : later.entries = w.entries)
    (tasks : later.services.tasks = w.services.tasks)
    (nextTask : later.services.nextTask = w.services.nextTask) : w.Ages none later where
  queued queued :=
    ⟨by rw [tasks]; exact queued.distinct, by rw [tasks, nextTask]; exact queued.given⟩
  contains uri := by rw [entries]
  ages uri := by
    unfold timer
    rw [entries]
    exact (Services.AgesOnly.of_tasks tasks nextTask).toAges
  drops _ heq := nomatch heq
  unset uri _ := by
    unfold timer
    rw [entries]
    exact fun hlt => absurd hlt (Nat.lt_irrefl _)

/-- Nothing at all may happen. -/
theorem refl (w : Workspace) : w.Ages none w := .of_tasks rfl rfl rfl

/-- A timer that is not set after a time without cancellations has stood still in it. -/
theorem generation_eq (h : w.Ages none later) (hnone : (later.timer uri).handle = none) :
    (later.timer uri).generation = (w.timer uri).generation :=
  Nat.le_antisymm (Nat.le_of_not_lt fun hlt => nomatch h.unset uri hnone hlt)
    (h.ages uri).generation

/-- What cancels no timer may follow anything. -/
theorem trans (first : w.Ages cancelled later) (second : later.Ages none last) :
    w.Ages cancelled last where
  queued queued := second.queued (first.queued queued)
  contains uri := (second.contains uri).trans (first.contains uri)
  ages uri := (first.ages uri).trans (second.ages uri)
  drops uri heq := Nat.lt_of_lt_of_le (first.drops uri heq) (second.ages uri).generation
  -- The second part has left the timer alone, so the first one has left it unset.
  unset uri hnone := by
    have hsame := second.generation_eq hnone
    rw [hsame]
    exact first.unset uri (((second.ages uri).idle hsame).symm.trans hnone)

/-- What has nothing to do with timers and tasks may come before anything. -/
theorem of_tasks_trans (entries : later.entries = w.entries)
    (tasks : later.services.tasks = w.services.tasks)
    (nextTask : later.services.nextTask = w.services.nextTask)
    (second : later.Ages cancelled last) : w.Ages cancelled last := by
  have first : w.Ages none later := .of_tasks entries tasks nextTask
  have htimer (uri : String) : later.timer uri = w.timer uri := by unfold timer; rw [entries]
  exact
    { queued := fun queued => second.queued (first.queued queued)
      contains := fun uri => (second.contains uri).trans (first.contains uri)
      ages := fun uri => (first.ages uri).trans (second.ages uri)
      drops := fun uri => by rw [← htimer]; exact second.drops uri
      unset := fun uri => by rw [← htimer]; exact second.unset uri }

/-- In particular, all that is said anew comes from new tasks. -/
theorem grows (h : w.Ages cancelled later) : w.services.Grows later.services where
  issued := (h.ages "").issued
  queued := h.queued
  wakeups wakeup hwakeup :=
    ((h.ages wakeup.uri).wakeups wakeup hwakeup rfl).imp_right Services.SetAnew.issued

end Ages

/-- Putting an entry back changes the timer of its own uri only. -/
theorem timer_put (w : Workspace) (uri other : String) (s : Services) (entry : Entry) :
    (w.put uri s entry).timer other = if other = uri then entry.timer else w.timer other := by
  show (((w.entries.insert uri entry).find? other).map _).getD _ = _
  rw [Table.find?_insert]
  split <;> rfl

/-- An operation on the entry of a uri cancels no other timer. -/
theorem ages_put {entry next : Entry} (found : w.entries.find? uri = some entry) {s : Services}
    (h : w.services.AgesOnly uri entry.timer s next.timer)
    (drops : ∀ other, cancelled = some other →
      other = uri ∧ entry.timer.generation < next.timer.generation)
    (unset : next.timer.handle = none → entry.timer.generation < next.timer.generation →
      cancelled = some uri) :
    w.Ages cancelled (w.put uri s next) where
  queued := h.queued
  contains other := by
    unfold Table.contains
    show ((w.entries.insert uri next).find? other).isSome = _
    rw [Table.find?_insert]
    split
    · next heq => rw [heq, found]; rfl
    · rfl
  -- The timer of the uri is the one that was operated on, and all others are as they were.
  ages other := by
    rw [timer_put]
    split
    · next heq => rw [heq, timer_of_find? found]; exact h.toAges
    · next hne => exact h.others other hne _
  drops other hcancelled := by
    obtain ⟨rfl, hgrown⟩ := drops other hcancelled
    rw [timer_put, if_pos rfl, timer_of_find? found]
    exact hgrown
  unset other hnone := by
    rw [timer_put] at hnone ⊢
    split
    · next heq =>
      subst heq
      rw [if_pos rfl] at hnone
      rw [timer_of_find? found]
      exact unset hnone
    · exact fun hlt => absurd hlt (Nat.lt_irrefl _)

/-- An operation that sets the timer at most cancels none. -/
theorem renews_put {entry next : Entry} (found : w.entries.find? uri = some entry) {s : Services}
    (h : w.services.Renews uri entry.timer s next.timer) : w.Ages none (w.put uri s next) := by
  refine ages_put found h.toAgesOnly (fun _ heq => nomatch heq) fun hnone hlt => ?_
  rw [h.unmoved hnone] at hlt
  exact absurd hlt (Nat.lt_irrefl _)

/-- On a document that is not open nothing is done. -/
theorem onEntry_ages {α : Type}
    {operation : Services → Document → Entry → Services × Entry × Except EngineError α}
    (h : ∀ entry doc, w.open? uri = some (entry, doc) →
      w.services.Renews uri entry.timer (operation w.services doc entry).1
        (operation w.services doc entry).2.1.timer) :
    w.Ages none (w.onEntry uri operation).1 := by
  unfold onEntry
  cases hopen : w.open? uri with
  | none => exact .refl w
  | some found =>
    obtain ⟨entry, doc⟩ := found
    exact renews_put (open?_eq_some.1 hopen).1 (h entry doc hopen)

/-- An operation that begins with a look at the tree. -/
theorem look_ages {α : Type}
    {operation : Services → Document → Entry → Services × Entry × Except EngineError α}
    (ages : ∀ entry doc, w.services.AgesOnly uri entry.timer (operation w.services doc entry).1
      (operation w.services doc entry).2.1.timer)
    (timer : ∀ entry doc, (operation w.services doc entry).2.1.timer =
      if (entry.currentTree? doc.version).isNone then entry.timer.cancelled else entry.timer) :
    w.Ages (w.lookCancels? uri) (w.onEntry uri operation).1 := by
  unfold onEntry lookCancels?
  cases hopen : w.open? uri with
  | none => exact .refl w
  | some found =>
    obtain ⟨entry, doc⟩ := found
    have hnext := timer entry doc
    -- The generation moves on exactly if the tree is out of date.
    cases houtdated : (entry.currentTree? doc.version).isNone with
    | true =>
      rw [houtdated, if_pos rfl] at hnext
      refine ages_put (open?_eq_some.1 hopen).1 (ages entry doc) (fun other heq => ?_) fun _ _ => ?_
      · rw [Option.any_some, houtdated, if_pos rfl] at heq
        obtain rfl := Option.some.inj heq
        rw [hnext]
        exact ⟨rfl, Nat.lt_succ_self _⟩
      · rw [Option.any_some, houtdated, if_pos rfl]
    | false =>
      rw [houtdated, if_neg Bool.false_ne_true] at hnext
      have hnone : (if (some (entry, doc)).any fun found =>
          (found.1.currentTree? found.2.version).isNone then some uri else none) = none := by
        rw [Option.any_some, houtdated, if_neg Bool.false_ne_true]
      rw [hnone]
      exact renews_put (open?_eq_some.1 hopen).1 ⟨ages entry doc, fun _ => hnext⟩

/-- A look at the tree cancels the timer if it finds the tree out of date. -/
theorem treeNow_ages (w : Workspace) (parser : Parser) (uri : String) :
    w.Ages (w.lookCancels? uri) (w.treeNow parser uri).1 :=
  look_ages (fun entry doc => (Services.ages_governs uri).treeNow w.services parser doc entry)
    fun entry doc => w.services.treeNow_timer parser doc entry

/-- A verification cancels the timer if its look does. -/
theorem verify_ages (w : Workspace) (parser : Parser) (uri : String) :
    w.Ages (w.lookCancels? uri) (w.verify parser uri).1 :=
  look_ages (fun entry doc => (Services.ages_governs uri).verify w.services parser doc entry)
    fun entry doc => w.services.verify_timer parser doc entry

/-- Going the scheduled path at once cancels the timer of a document that is open. -/
theorem reparseNow_ages (coherent : w.AllCoherent) (parser : Parser) (uri : String) :
    w.Ages (if (w.open? uri).isSome then some uri else none) (w.reparseNow parser uri).1 := by
  unfold reparseNow onEntry
  cases hopen : w.open? uri with
  | none => exact .refl w
  | some found =>
    obtain ⟨entry, doc⟩ := found
    obtain rfl := coherent.uri_eq hopen
    have hcancel := w.services.cancelTimer_ages doc.uri entry
    have hreparse := (Services.renews_schedules doc.uri).reparse (w.services.cancelTimer entry).1
      parser (w.services.cancelTimer entry).2.1
    refine ages_put (open?_eq_some.1 hopen).1 (hcancel.trans hreparse.toAgesOnly)
      (fun other heq => ⟨(Option.some.inj heq).symm, ?_⟩) fun _ _ => rfl
    -- The cancellation has started a generation, and none is ever taken back.
    refine Nat.lt_of_lt_of_le ?_ hreparse.generation
    rw [Services.cancelTimer_timer]
    exact Nat.lt_succ_self _

/-- A report sets the timer at most. -/
theorem report_ages (coherent : w.AllCoherent) (uri : String) (version : Int)
    (changes : List Change) : w.Ages none (w.report uri version changes).1 := by
  refine onEntry_ages fun entry doc hopen => ?_
  rw [coherent.uri_eq hopen]
  exact (Services.renews_schedules uri).report w.services entry version changes

/-- Scheduling sets the timer. -/
theorem scheduleIfOpen_ages (w : Workspace) (uri : String) (delay : Nat) :
    w.Ages none (w.scheduleIfOpen uri delay) := by
  unfold scheduleIfOpen
  split
  · exact .refl w
  · next entry found =>
    exact renews_put found ((Services.renews_schedules uri).schedule w.services entry delay)

/-- Asking for a grammar concerns no timer. -/
theorem requestGrammar_ages (w : Workspace) (language : String) :
    w.Ages none (w.requestGrammar language).1 := .of_tasks rfl rfl rfl

/-- A load in the background schedules the document if the grammar is there. -/
theorem backgroundLoad_ages (w : Workspace) (own language : String) :
    w.Ages none (w.backgroundLoad own language) := by
  have hrequest := w.requestGrammar_ages language
  unfold backgroundLoad
  split
  · next asked _ h => rw [h] at hrequest; exact hrequest.trans (asked.scheduleIfOpen_ages own 0)
  · next h => rw [h] at hrequest; exact hrequest
  · next h => rw [h] at hrequest; exact hrequest.trans (.of_tasks rfl rfl rfl)

/-- All that have waited for the grammar are scheduled, so their timers are set. -/
theorem resumeWaiters_ages (w : Workspace) (language : String)
    (outcome : Except GrammarError Grammar) : w.Ages none (w.resumeWaiters language outcome) := by
  have hfold (waiters : List Waiter) (w : Workspace) :
      w.Ages none (waiters.foldl (fun w waiter => w.scheduleIfOpen waiter.uri 0) w) := by
    -- On those that wait, one after the other.
    induction waiters generalizing w with
    | nil => exact .refl w
    | cons first rest ih => exact (w.scheduleIfOpen_ages first.uri 0).trans (ih _)
  have hdismissed : w.Ages none { w with services := { w.services with
      waiters := w.services.waiters.filter (·.language ≠ language) } } := .of_tasks rfl rfl rfl
  unfold resumeWaiters
  dsimp only
  split
  · exact hdismissed.trans (hfold _ _)
  · exact hdismissed

/-- The uri whose timer is cancelled when the attempt at a language ends: the caller takes a look if
    the grammar has come. -/
def finishCancels? (w : Workspace) (language : String) (caller : Option String) : Option String :=
  match (w.completeLoad language).2 with
  | some (.ok _) => caller.bind w.lookCancels?
  | _ => none

/-- A caller that has waited takes a look if the grammar has come, and that may cancel its timer. -/
theorem lookAfter_ages (w : Workspace) (parser : Parser) (outcome : Except GrammarError Grammar)
    (caller : Option String) :
    w.Ages (match outcome with | .ok _ => caller.bind w.lookCancels? | .error _ => none)
      (w.lookAfter parser outcome caller) := by
  unfold lookAfter
  cases caller with
  | none => cases outcome <;> exact .refl w
  | some uri =>
    cases outcome with
    | ok grammar => exact w.treeNow_ages parser uri
    | error error => exact .refl w

/-- The end of an attempt cancels the timer of the caller at most; all other timers are set at most.
    -/
theorem finish_ages (w : Workspace) (parser : Parser) (language : String)
    (caller : Option String) :
    w.Ages (w.finishCancels? language caller) (w.finish parser language caller) := by
  have hentries : (w.completeLoad language).1.entries = w.entries := rfl
  have htasks : (w.completeLoad language).1.services.tasks = w.services.tasks := rfl
  have hnext : (w.completeLoad language).1.services.nextTask = w.services.nextTask := rfl
  have hlooks : (w.completeLoad language).1.lookCancels? = w.lookCancels? := rfl
  unfold finish finishCancels?
  cases hload : w.completeLoad language with
  | mk ended outcome =>
    rw [hload] at hentries htasks hnext hlooks
    -- Crossing off the attempt concerns no timer, so all that counts is the look and what comes
    -- after it.
    refine .of_tasks_trans hentries htasks hnext ?_
    cases outcome with
    | none => exact ended.resumeWaiters_ages language _
    | some outcome =>
      have hlook := ended.lookAfter_ages parser outcome caller
      rw [show ended.lookCancels? = w.lookCancels? from hlooks] at hlook
      cases outcome with
      | ok grammar => exact hlook.trans (resumeWaiters_ages _ language (.ok grammar))
      | error error => exact hlook.trans (resumeWaiters_ages _ language (.error error))

/-- A task that runs and wakes no timer is gone, and nothing else. -/
theorem abort_ages (w : Workspace) (id : TaskId) :
    w.Ages none { w with services := w.services.abort id } where
  queued queued := queued.abort id
  contains _ := rfl
  drops _ heq := nomatch heq
  unset _ _ hlt := absurd hlt (Nat.lt_irrefl _)
  ages uri := by
    have hsame : w.services.nextTask ≤ (w.services.abort id).nextTask := Nat.le_refl _
    exact .of_subset hsame (w.services.wakeups_abort_subset id) uri (w.timer uri)

end Workspace

/-- Whether a timer fires in a move. -/
def Move.firesTimer : Move → Bool
  | .wake _ _ => true
  | .run task => task.wakeup?.isSome
  | _ => false

/-- The uri under which a document is opened in a move. -/
def Workspace.opens? (w : Workspace) : Move → Option String
  | .openDocument id => (w.documents[id]?).map (·.uri)
  | _ => none

/-- The uri whose timer is cancelled in a move.  Here a cancellation that comes only before a new
    setting does not count. -/
def Workspace.cancels? (w : Workspace) : Move → Option String
  -- The timer of the entry that is replaced is cancelled.
  | .openDocument id => (w.documents[id]?).map (·.uri)
  | .close uri => some uri
  | .reparseNow uri => if (w.open? uri).isSome then some uri else none
  | .treeNow uri => w.lookCancels? uri
  | .verify uri => w.lookCancels? uri
  | .finish language caller => w.finishCancels? language caller
  | _ => none

namespace Workspace

variable {parser : Parser} {w later : Workspace} {uri : String} {cancelled : Option String}

/-- A task that wakes no timer is a load in the background. -/
theorem run_ages {task : Task} (hload : Move.firesTimer (.run task) = false) (w : Workspace)
    (parser : Parser) : w.Ages none (w.move parser (.run task)) := by
  show w.Ages none (if task ∈ w.services.tasks then w.runTask parser task else w)
  split
  · obtain ⟨id, deadline, work⟩ := task
    cases work with
    | reparse uri generation => exact nomatch hload
    | load own language => exact (w.abort_ages id).trans (backgroundLoad_ages _ own language)
  · exact .refl w

/-- In every move but an opening, a closing and a timer that fires, generations only grow. -/
theorem move_ages (coherent : w.AllCoherent) (parser : Parser) {move : Move}
    (hfires : move.firesTimer = false) (hopens : ∀ id, move ≠ .openDocument id)
    (hcloses : ∀ uri, move ≠ .close uri) : w.Ages (w.cancels? move) (w.move parser move) := by
  cases move with
  | create uri language text => exact .of_tasks rfl rfl rfl
  | alter id alteration =>
    show w.Ages none (w.alter id alteration)
    unfold alter
    split
    · exact .refl w
    · exact .of_tasks rfl rfl rfl
  | revise id alteration =>
    show w.Ages none (w.revise id alteration)
    unfold revise
    split
    · exact .refl w
    · next next changes haltered =>
      obtain ⟨doc, hdoc, halter⟩ := Option.bind_eq_some_iff.1 haltered
      have hset : w.Ages none { w with documents := w.documents.set id next } := .of_tasks rfl rfl rfl
      -- Replacing the text concerns no timer; the report may set it.
      exact hset.trans (report_ages (coherent.set hdoc (Document.revision_of_alter? halter))
        next.uri next.version changes)
  | openDocument id => exact absurd rfl (hopens id)
  | close uri => exact absurd rfl (hcloses uri)
  | report uri version changes => exact report_ages coherent uri version changes
  | treeNow uri => exact w.treeNow_ages parser uri
  | reparseNow uri => exact reparseNow_ages coherent parser uri
  | verify uri => exact w.verify_ages parser uri
  | activate uri =>
    refine onEntry_ages fun entry doc hopen => ?_
    obtain rfl := coherent.uri_eq hopen
    dsimp only
    split
    -- A document whose tree is current is not scheduled.
    · exact (Services.renews_schedules doc.uri).refl _ _
    · exact (Services.renews_schedules doc.uri).schedule w.services entry 0
  | scheduleReparse uri =>
    refine onEntry_ages fun entry doc hopen => ?_
    obtain rfl := coherent.uri_eq hopen
    exact (Services.renews_schedules doc.uri).schedule w.services entry _
  | loadBlocking language => exact .of_tasks rfl rfl rfl
  | request language => exact w.requestGrammar_ages language
  | wake uri generation => exact nomatch hfires
  | backgroundLoad uri language => exact w.backgroundLoad_ages uri language
  | run task => exact run_ages hfires w parser
  | finish language caller => exact w.finish_ages parser language caller
  | aside aside =>
    obtain ⟨heq, -, htasks, hnext⟩ := w.doAside_services aside
    have hentries : (w.doAside aside).entries = w.entries := by rw [heq]
    exact .of_tasks hentries htasks hnext

/-! ## One uri -/

/-- What a uri goes through in a step.  An entry that is open afterwards was open before, and its
    generation has not fallen; one that is not open afterwards was cancelled if it was open before.
    What the timer has waited for meanwhile is left open, as it may have fired. -/
structure Carries (w : Workspace) (cancelled : Option String) (later : Workspace) (uri : String) :
    Prop where
  closed : later.entries.find? uri = none → w.entries.find? uri = none ∨ cancelled = some uri
  kept : ∀ next, later.entries.find? uri = some next →
    ∃ entry, w.entries.find? uri = some entry ∧
      ∃ timer, timer.generation = entry.timer.generation ∧
        (∀ id, timer.handle = some id → entry.timer.handle = some id) ∧
        w.services.Ages uri timer later.services next.timer ∧
        (cancelled = some uri → timer.generation < next.timer.generation) ∧
        (next.timer.handle = none → timer.generation < next.timer.generation →
          cancelled = some uri)

/-- A part of a workspace's life in which nothing is opened or closed, seen from one uri. -/
theorem Ages.carries (h : w.Ages cancelled later) (uri : String) : w.Carries cancelled later uri := by
  have hopen := h.contains uri
  unfold Table.contains at hopen
  constructor
  · intro hclosed
    rw [hclosed, Option.isSome_none] at hopen
    exact .inl (Option.not_isSome_iff_eq_none.1 (Bool.eq_false_iff.1 hopen.symm))
  · intro next hnext
    have hages := h.ages uri
    have hdrops := h.drops uri
    have hunset := h.unset uri
    rw [hnext, Option.isSome_some] at hopen
    obtain ⟨entry, hentry⟩ := Option.isSome_iff_exists.1 hopen.symm
    rw [timer_of_find? hnext, timer_of_find? hentry] at hages hdrops hunset
    exact ⟨entry, hentry, entry.timer, rfl, fun _ hid => hid, hages, hdrops, hunset⟩

/-- An entry that is left alone while nothing is sent for its timer. -/
theorem carries_of_find? (entries : later.entries.find? uri = w.entries.find? uri)
    (ages : ∀ timer, w.services.Ages uri timer later.services timer) (other : cancelled ≠ some uri) :
    w.Carries cancelled later uri where
  closed hclosed := .inl (entries.symm.trans hclosed)
  kept next hnext := ⟨next, entries.symm.trans hnext, next.timer, rfl, fun _ hid => hid,
    ages next.timer, fun heq => absurd heq other, fun _ hlt => absurd hlt (Nat.lt_irrefl _)⟩

/-- A document that is opened is opened under its uri, with a timer that has never been set before, and
    nothing is sent for other timers. -/
theorem openDocument_carries (w : Workspace) {id : DocumentId} {doc : Document}
    (found : w.documents[id]? = some doc) :
    w.services.Grows (w.openDocument id).services ∧
      w.services.Ages doc.uri {} (w.openDocument id).services
        ((w.openDocument id).timer doc.uri) ∧
      ∀ other, other ≠ doc.uri →
        w.Carries (some doc.uri) (w.openDocument id) other := by
  -- Of what was open there, only the timer is cancelled.
  obtain ⟨s, hopen, hgrows, hsub, hnext⟩ : ∃ s,
      w.openDocument id = w.put doc.uri (s.schedule doc.uri { document := id } 0).1
        (s.schedule doc.uri { document := id } 0).2 ∧
      w.services.Grows s ∧ s.wakeups ⊆ w.services.wakeups ∧
      s.nextTask = w.services.nextTask := by
    unfold openDocument
    rw [found]
    dsimp only
    split
    -- The one that is replaced was the only one to wait for its task.
    · next previous _ =>
      obtain ⟨hsub, hnext⟩ := w.services.cancelTimer_subset previous
      exact ⟨_, rfl, (w.services.cancelTimer_ages doc.uri previous).grows, hsub, hnext⟩
    · exact ⟨_, rfl, (Services.AgesOnly.refl w.services doc.uri {}).grows, List.Subset.refl _, rfl⟩
  have hschedule := (Services.ages_governs doc.uri).schedules.schedule s { document := id } 0
  have hcancel (uri : String) (timer : Timer) : w.services.Ages uri timer s timer :=
    .of_subset (Nat.le_of_eq hnext.symm) hsub uri timer
  rw [hopen]
  refine ⟨hgrows.trans hschedule.grows, ?_, fun other hne =>
    carries_of_find? ?_ (fun timer => ?_) fun heq => hne (Option.some.inj heq).symm⟩
  · rw [timer_put, if_pos rfl]
    exact (hcancel doc.uri {}).trans hschedule.toAges
  · show (w.entries.insert doc.uri _).find? other = _
    rw [Table.find?_insert, if_neg hne]
  · exact (hcancel other timer).trans (hschedule.others other hne timer)

/-- Closing a document cancels its timer; to other uris nothing happens. -/
theorem close_carries (w : Workspace) (uri : String) :
    w.services.Grows (w.close uri).1.services ∧
      ∀ other, w.Carries (some uri) (w.close uri).1 other := by
  unfold close
  cases hfound : w.entries.find? uri with
  | none =>
    have hrest := Ages.refl w
    refine ⟨hrest.grows, fun other => ?_⟩
    by_cases heq : other = uri
    -- Under this uri nothing is open afterwards, so there is no timer to speak of.
    · subst heq
      exact ⟨fun _ => .inr rfl, fun next hnext => nomatch hfound.symm.trans hnext⟩
    · exact carries_of_find? rfl (fun timer => .of_subset (Nat.le_refl _) (List.Subset.refl _) _ timer)
        fun hsame => heq (Option.some.inj hsame).symm
  | some entry =>
    have hcancel := w.services.cancelTimer_ages uri entry
    refine ⟨hcancel.grows, fun other => ?_⟩
    by_cases heq : other = uri
    · subst heq
      have hclosed := Table.find?_erase_self w.entries other
      exact ⟨fun _ => .inr rfl, fun next hnext => nomatch hclosed.symm.trans hnext⟩
    · refine carries_of_find? ?_ (hcancel.others other heq) fun hsame =>
        heq (Option.some.inj hsame).symm
      show (w.entries.erase uri).find? other = _
      rw [Table.find?_erase, if_neg heq]

/-- Whether a timer that fires in a generation counts. -/
def claims (w : Workspace) (uri : String) (generation : Nat) : Bool :=
  (w.open? uri).any fun found => (found.1.timer.claim? generation).isSome

/-- A timer counts in its own generation and in no other. -/
theorem claims_iff {entry : Entry} {doc : Document} (found : w.open? uri = some (entry, doc))
    (generation : Nat) : w.claims uri generation = true ↔ entry.timer.generation = generation := by
  unfold claims Timer.claim?
  rw [found]
  simp

/-- A timer that fires and does not count changes nothing. -/
theorem timerFired_of_not_claims {generation : Nat} (h : w.claims uri generation = false)
    (parser : Parser) :
    (w.timerFired parser uri generation).documents = w.documents ∧
      (w.timerFired parser uri generation).services = w.services ∧
      ∀ other, (w.timerFired parser uri generation).entries.find? other =
        w.entries.find? other := by
  unfold timerFired
  cases hopen : w.open? uri with
  | none => exact ⟨rfl, rfl, fun _ => rfl⟩
  | some found =>
    obtain ⟨entry, doc⟩ := found
    -- The generation is over, so the entry is put back as it was.
    have hother : entry.timer.generation ≠ generation := fun heq =>
      Bool.false_ne_true (h.symm.trans ((claims_iff hopen generation).2 heq))
    have hrest : w.services.fire parser doc entry generation = (w.services, entry) := by
      rcases w.services.fire_tends parser doc entry generation with ⟨-, heq⟩ | ⟨hown, -⟩
      · exact heq
      · exact absurd hown hother
    dsimp only
    rw [hrest]
    refine ⟨rfl, rfl, fun other => ?_⟩
    show (w.entries.insert uri entry).find? other = _
    rw [Table.find?_insert]
    split
    · next heq => rw [heq, (open?_eq_some.1 hopen).1]
    · rfl

/-- A timer that fires cancels none, whether or not it counts. -/
theorem timerFired_carries (coherent : w.AllCoherent) (parser : Parser) (uri : String)
    (generation : Nat) :
    w.services.Grows (w.timerFired parser uri generation).services ∧
      ∀ other, w.Carries none (w.timerFired parser uri generation) other := by
  cases hclaims : w.claims uri generation with
  | false =>
    obtain ⟨-, hservices, hentries⟩ := timerFired_of_not_claims hclaims parser
    have hrest := Services.AgesOnly.refl w.services uri {}
    refine ⟨by rw [hservices]; exact hrest.grows, fun other =>
      carries_of_find? (hentries other) ?_ fun heq => nomatch heq⟩
    rw [hservices]
    exact .of_subset (Nat.le_refl _) (List.Subset.refl _) other
  | true =>
    -- It counts, so the entry has a timer in this very generation, which is claimed and then set at
    -- most.
    obtain ⟨⟨entry, doc⟩, hopen, -⟩ := (Option.any_eq_true _ _).1 hclaims
    obtain rfl := (claims_iff hopen generation).1 hclaims
    obtain rfl := coherent.uri_eq hopen
    have hfire := (Services.renews_schedules doc.uri).fire w.services parser entry
    have hfired : w.timerFired parser doc.uri entry.timer.generation =
        w.put doc.uri (w.services.fire parser doc entry entry.timer.generation).1
          (w.services.fire parser doc entry entry.timer.generation).2 := by
      unfold timerFired
      rw [hopen]
    rw [hfired]
    refine ⟨hfire.grows, fun other => ?_⟩
    by_cases heq : other = doc.uri
    · subst heq
      have hfound := Table.find?_insert_self w.entries doc.uri
        (w.services.fire parser doc entry entry.timer.generation).2
      refine ⟨fun hclosed => (nomatch hfound.symm.trans hclosed), fun next hnext => ?_⟩
      obtain rfl := Option.some.inj (hfound.symm.trans hnext)
      refine ⟨entry, (open?_eq_some.1 hopen).1, { entry.timer with handle := none }, rfl,
        fun _ hid => (nomatch hid), hfire.toAges, fun heq => (nomatch heq), fun hnone hlt => ?_⟩
      -- A timer that fires is not cancelled: it keeps its generation unless it is set anew.
      rw [hfire.unmoved hnone] at hlt
      exact absurd hlt (Nat.lt_irrefl _)
    · refine carries_of_find? ?_ (hfire.others other heq) fun heq => nomatch heq
      show (w.entries.insert doc.uri _).find? other = _
      rw [Table.find?_insert, if_neg heq]

end Workspace

end LiveTree
