import LiveTree.Parser.Recorded
import LiveTree.Proofs.Reparses

/-!
# Timers are neither lost nor doubled

A timer of an open document waits for a task, which will wake it.  Every path that sets, replaces,
claims or drops a timer has to keep three things in agreement: what the timer waits for, its
generation, and the tasks that are queued.  Then books can be kept: each timer that is ever set fires,
is replaced, is cancelled, or is still pending.

A task may run at any time, whether or not it is due, and in any order.  The one thing that is assumed
is that a task that was dropped never runs.

## Key results

- `Services.Holds`: the tasks that would wake a timer are the one that it waits for
- `Services.Accounts`: what an operation on one entry does to its timer, in numbers, and one lemma for
  each operation
- `move_accounts`: the same for every move of a workspace
- `timers_conserved`: the books are balanced after every sequence of moves
-/

namespace LiveTree

/-- Whether a task will wake the timer of a uri. -/
def Task.wakes (task : Task) (uri : String) : Bool :=
  match task.work with
  | .reparse other _ => other == uri
  | .load _ _ => false

/-- The uri that work is done for. -/
def Work.uri : Work → String
  | .reparse uri _ | .load uri _ => uri

/-- A task wakes a timer if its work is to reparse that uri. -/
theorem Task.wakes_iff {task : Task} {uri : String} :
    task.wakes uri = true ↔ ∃ generation, task.work = .reparse uri generation := by
  unfold Task.wakes
  cases task.work with
  | reparse other generation => simp
  | load other language => simp

/-- A task that wakes one timer wakes no other. -/
theorem Task.wakes_unique {task : Task} {uri other : String} (h : task.wakes uri = true)
    (h' : task.wakes other = true) : other = uri := by
  obtain ⟨generation, hwork⟩ := Task.wakes_iff.1 h
  obtain ⟨generation', hwork'⟩ := Task.wakes_iff.1 h'
  injection hwork'.symm.trans hwork

/-- What has been done to timers: how often one was to be set, how many have fired, and how many were
    cancelled. -/
structure Tally where
  scheduled : Nat := 0
  fired : Nat := 0
  cancelled : Nat := 0
  deriving DecidableEq, Repr

namespace Tally

/-- Tallies of steps one after the other add up, number by number. -/
instance : Add Tally where
  add a b := ⟨a.scheduled + b.scheduled, a.fired + b.fired, a.cancelled + b.cancelled⟩

/-- Calls to set a timer add up. -/
@[simp] theorem scheduled_add (a b : Tally) : (a + b).scheduled = a.scheduled + b.scheduled := rfl

/-- Timers that fired add up. -/
@[simp] theorem fired_add (a b : Tally) : (a + b).fired = a.fired + b.fired := rfl

/-- Cancelled timers add up. -/
@[simp] theorem cancelled_add (a b : Tally) : (a + b).cancelled = a.cancelled + b.cancelled := rfl

/-- Nothing done yet adds nothing. -/
theorem empty_add (tally : Tally) : {} + tally = tally := by
  show Tally.mk (0 + _) (0 + _) (0 + _) = tally
  rw [Nat.zero_add, Nat.zero_add, Nat.zero_add]

/-- The first call for a timer. -/
theorem add_scheduled {tally : Tally} (h : tally.scheduled = 0) (calls : Nat) :
    tally + { scheduled := calls } = { tally with scheduled := calls } := by
  show Tally.mk (tally.scheduled + calls) tally.fired tally.cancelled = _
  rw [h, Nat.zero_add]

end Tally

namespace Table

variable {α : Type}

/-- Taking out a key takes away what its value counted for, as a key comes once. By induction on the
    pairs. -/
private theorem countP_filter_ne (p : α → Bool) (key : String) (entries : List (String × α))
    (nodup : (entries.map (·.1)).Nodup) :
    ((entries.filter (·.1 ≠ key)).map (·.2)).countP p + ((entries.lookup key).any p).toNat =
      (entries.map (·.2)).countP p := by
  induction entries with
  | nil => rfl
  | cons entry rest ih =>
    obtain ⟨k, v⟩ := entry
    rw [List.map_cons, List.nodup_cons] at nodup
    by_cases hk : k = key
    · subst hk
      -- The key does not come again.
      have hrest : rest.filter (·.1 ≠ k) = rest := by
        refine List.filter_eq_self.2 fun other hother => ?_
        have hne : other.1 ≠ k := fun heq => nodup.1 (List.mem_map.2 ⟨other, hother, heq⟩)
        simpa using hne
      rw [List.filter_cons_of_neg (by simp), hrest, List.lookup_cons_self, List.map_cons,
        List.countP_cons, Option.any_some]
      cases p v <;> simp
    -- Another key stays, and so does what is found under `key`.
    · have hlookup : ((k, v) :: rest).lookup key = rest.lookup key := by
        rw [List.lookup_cons, beq_eq_false_iff_ne.2 (Ne.symm hk)]
      have hrest := ih nodup.2
      rw [List.filter_cons_of_pos (by simpa using hk), hlookup, List.map_cons, List.map_cons,
        List.countP_cons, List.countP_cons]
      omega

/-- A key that is removed takes away its own value from what is counted. -/
theorem countP_erase (table : Table α) (key : String) (p : α → Bool) :
    (table.erase key).values.countP p + ((table.find? key).any p).toNat = table.values.countP p :=
  countP_filter_ne p key table.entries table.nodup

/-- A key that is given a value trades its old value for it. -/
theorem countP_insert (table : Table α) (key : String) (value : α) (p : α → Bool) :
    (table.insert key value).values.countP p + ((table.find? key).any p).toNat =
      table.values.countP p + (p value).toNat := by
  have herase := table.countP_erase key p
  have hcons : (table.insert key value).values.countP p =
      (table.erase key).values.countP p + (p value).toNat := by
    -- The new pair stands in front of those that are left.
    show ((value :: (table.erase key).values).countP p) = _
    rw [List.countP_cons]
    cases p value <;> rfl
  omega

end Table

namespace Services

/-- The tasks that will wake the timer of a uri. -/
def alarms (s : Services) (uri : String) : List Task := s.tasks.filter (·.wakes uri)

/-- The alarms of a uri are the queued tasks that wake its timer. -/
theorem mem_alarms {s : Services} {uri : String} {task : Task} :
    task ∈ s.alarms uri ↔ task ∈ s.tasks ∧ task.wakes uri = true := List.mem_filter

/-- Dropping a task drops it from the alarms. -/
theorem alarms_abort (s : Services) (id : TaskId) (uri : String) :
    (s.abort id).alarms uri = (s.alarms uri).filter (·.id ≠ id) := by
  unfold alarms abort
  rw [List.filter_filter, List.filter_filter]
  simp only [Bool.and_comm]

/-- A new task is an alarm of the uri that it is to reparse. -/
theorem alarms_spawn (s : Services) (delay : Nat) (work : Work) (uri : String) :
    (s.spawn delay work).1.alarms uri = s.alarms uri ++
      [⟨s.nextTask, s.clock + min delay longestDelay, work⟩].filter (·.wakes uri) :=
  List.filter_append _ _

/-- The tasks that will wake the timer of a uri are the one that the timer waits for, and that one
    belongs to the generation that the timer is in. -/
structure Holds (s : Services) (uri : String) (timer : Timer) : Prop where
  queued : s.Queued
  alarms : (s.alarms uri).map (fun task => (task.id, task.work)) =
    timer.handle.toList.map fun id => (id, .reparse uri timer.generation)

variable {s later : Services} {uri : String} {timer next : Timer} {tally : Tally}

/-- A timer that waits for nothing is woken by nothing. -/
theorem Holds.alarms_of_none (h : s.Holds uri timer) (hnone : timer.handle = none) :
    s.alarms uri = [] := by
  have halarms := h.alarms
  rw [hnone] at halarms
  exact List.map_eq_nil_iff.1 halarms

/-- Where no task wakes a timer, the timer may wait for nothing. -/
theorem holds_of_none (queued : s.Queued) (alarms : s.alarms uri = []) (hnone : next.handle = none) :
    s.Holds uri next := by
  refine ⟨queued, ?_⟩
  rw [alarms, hnone]
  rfl

/-- The one task that will wake a timer. -/
theorem Holds.alarms_of_some (h : s.Holds uri timer) {id : TaskId} (handle : timer.handle = some id) :
    ∃ deadline, s.alarms uri = [⟨id, deadline, .reparse uri timer.generation⟩] := by
  have halarms := h.alarms
  rw [handle] at halarms
  obtain ⟨task, htask, hpair⟩ := List.map_eq_singleton_iff.1 halarms
  obtain ⟨hid, hwork⟩ := Prod.mk.inj hpair
  refine ⟨task.deadline, ?_⟩
  rw [htask, ← hid, ← hwork]

/-- A timer that holds its task is armed. -/
theorem Holds.armed (h : s.Holds uri timer) : s.Armed uri timer := by
  intro id hhandle
  obtain ⟨deadline, halarms⟩ := h.alarms_of_some hhandle
  have hmem : (⟨id, deadline, .reparse uri timer.generation⟩ : Task) ∈ s.alarms uri := by
    rw [halarms]
    exact List.mem_cons_self
  exact ⟨deadline, (mem_alarms.1 hmem).1⟩

/-- A task that would wake the timer is the one that it waits for. -/
theorem Holds.handle_of_mem (h : s.Holds uri timer) {task : Task} (htask : task ∈ s.tasks)
    {generation : Nat} (hwork : task.work = .reparse uri generation) :
    timer = ⟨some task.id, generation⟩ := by
  have hmem : task ∈ s.alarms uri := mem_alarms.2 ⟨htask, Task.wakes_iff.2 ⟨generation, hwork⟩⟩
  -- A timer that waits for nothing has no alarms, and this task is one.
  cases hhandle : timer.handle with
  | none =>
    rw [h.alarms_of_none hhandle] at hmem
    exact nomatch hmem
  | some id =>
    obtain ⟨deadline, halarms⟩ := h.alarms_of_some hhandle
    rw [halarms] at hmem
    obtain rfl := List.mem_singleton.1 hmem
    injection hwork with _ hgeneration
    obtain ⟨handle, own⟩ := timer
    obtain rfl : handle = some id := hhandle
    obtain rfl : own = generation := hgeneration
    rfl

/-- Dropping the task of a timer leaves none that would wake it, and those of all other timers. -/
theorem Holds.alarms_abort (h : s.Holds uri timer) {id : TaskId} (handle : timer.handle = some id) :
    (s.abort id).alarms uri = [] ∧
      ∀ other, other ≠ uri → (s.abort id).alarms other = s.alarms other := by
  obtain ⟨deadline, halarms⟩ := h.alarms_of_some handle
  have hown : (⟨id, deadline, .reparse uri timer.generation⟩ : Task) ∈ s.alarms uri := by
    rw [halarms]
    exact List.mem_cons_self
  refine ⟨?_, fun other hne => ?_⟩
  · rw [Services.alarms_abort, halarms]
    simp
  · rw [Services.alarms_abort, List.filter_eq_self]
    intro task htask
    rw [decide_eq_true_eq]
    -- Tasks have names of their own, so a task of that name would wake both timers.
    intro hid
    obtain ⟨hmem, hwakes⟩ := mem_alarms.1 htask
    obtain ⟨hmem', hwakes'⟩ := mem_alarms.1 hown
    obtain rfl := h.queued.distinct task hmem _ hmem' hid
    exact hne (Task.wakes_unique hwakes' hwakes)

/-- The balances of two operations add up: replaced timers count along with the tally, in a counter of
    64 bits. -/
theorem balance_trans {resets resetsLater resetsLast : UInt64} {armed armedLater armedLast rate : Nat}
    {more : Tally}
    (first : ∃ replaced, resetsLater = resets + UInt64.ofNat replaced ∧
      armedLater + tally.fired + replaced + tally.cancelled = armed + rate * tally.scheduled)
    (second : ∃ replaced, resetsLast = resetsLater + UInt64.ofNat replaced ∧
      armedLast + more.fired + replaced + more.cancelled = armedLater + rate * more.scheduled) :
    ∃ replaced, resetsLast = resets + UInt64.ofNat replaced ∧
      armedLast + (tally + more).fired + replaced + (tally + more).cancelled =
        armed + rate * (tally + more).scheduled := by
  obtain ⟨replaced, hresets, hfirst⟩ := first
  obtain ⟨again, hagain, hsecond⟩ := second
  refine ⟨replaced + again, ?_, ?_⟩
  · rw [hagain, hresets, UInt64.ofNat_add, UInt64.add_assoc]
  · rw [Tally.fired_add, Tally.cancelled_add, Tally.scheduled_add, Nat.mul_add]
    omega

/-- What an operation on the entry of a uri does to its timer.  `timer` is the timer of the entry before
    it and `next` the one after it.  A timer can only be set where there is a runtime. -/
structure Accounts (s : Services) (uri : String) (timer : Timer) (tally : Tally) (later : Services)
    (next : Timer) : Prop where
  runtime : later.runtime = s.runtime
  clock : later.clock = s.clock
  holds : later.Holds uri next
  others : ∀ other, other ≠ uri → later.alarms other = s.alarms other
  fires : later.metrics.counters.scheduledFires =
    s.metrics.counters.scheduledFires + UInt64.ofNat tally.fired
  /-- Of the timer that there was and those that were set, each has fired, has been replaced, has been
      cancelled or is pending. -/
  balance : ∃ replaced,
    later.metrics.counters.debounceResets =
      s.metrics.counters.debounceResets + UInt64.ofNat replaced ∧
    next.handle.isSome.toNat + tally.fired + replaced + tally.cancelled =
      timer.handle.isSome.toNat + s.runtime.toNat * tally.scheduled

namespace Accounts

/-- An operation that has nothing to do with timers. -/
theorem of_tasks (h : s.Holds uri timer) (runtime : later.runtime = s.runtime)
    (clock : later.clock = s.clock) (tasks : later.tasks = s.tasks)
    (nextTask : later.nextTask = s.nextTask)
    (fires : later.metrics.counters.scheduledFires = s.metrics.counters.scheduledFires)
    (resets : later.metrics.counters.debounceResets = s.metrics.counters.debounceResets) :
    s.Accounts uri timer {} later timer where
  runtime := runtime
  clock := clock
  -- The same tasks in the queue are the same alarms.
  holds := by
    refine ⟨⟨by rw [tasks]; exact h.queued.distinct, by rw [tasks, nextTask]; exact h.queued.given⟩, ?_⟩
    unfold Services.alarms
    rw [tasks]
    exact h.alarms
  others other _ := by
    unfold Services.alarms
    rw [tasks]
  fires := by rw [fires]; exact (UInt64.add_zero _).symm
  balance := ⟨0, by rw [resets]; exact (UInt64.add_zero _).symm, rfl⟩

/-- Nothing done needs no accounting. -/
theorem refl (h : s.Holds uri timer) : s.Accounts uri timer {} s timer :=
  .of_tasks h rfl rfl rfl rfl rfl rfl

/-- What two operations did adds up. -/
theorem trans {last : Services} {final : Timer} {more : Tally}
    (first : s.Accounts uri timer tally later next)
    (second : later.Accounts uri next more last final) :
    s.Accounts uri timer (tally + more) last final where
  runtime := second.runtime.trans first.runtime
  clock := second.clock.trans first.clock
  holds := second.holds
  others other hne := (second.others other hne).trans (first.others other hne)
  fires := by
    rw [second.fires, first.fires, Tally.fired_add, UInt64.ofNat_add, UInt64.add_assoc]
  balance := balance_trans first.balance (by rw [← first.runtime]; exact second.balance)

/-- A timer that waits for nothing may give way to another such. -/
theorem renew {final : Timer} (h : s.Accounts uri timer tally later next)
    (hnext : next.handle = none) (hfinal : final.handle = none) :
    s.Accounts uri timer tally later final where
  runtime := h.runtime
  clock := h.clock
  holds := holds_of_none h.holds.queued (h.holds.alarms_of_none hnext) hfinal
  others := h.others
  fires := h.fires
  -- Neither timer waits, so both count for nothing.
  balance := by
    rw [hfinal, ← hnext]
    exact h.balance

end Accounts

/-! ## Timers -/

/-- The task of a timer is dropped: the timer has fired, is being replaced or is cancelled. -/
theorem Holds.dropped (h : s.Holds uri timer) {id : TaskId} (handle : timer.handle = some id)
    (hnone : next.handle = none) {metrics : Metrics}
    (fires : metrics.counters.scheduledFires =
      s.metrics.counters.scheduledFires + UInt64.ofNat tally.fired) (replaced : Nat)
    (resets : metrics.counters.debounceResets =
      s.metrics.counters.debounceResets + UInt64.ofNat replaced)
    (once : tally.fired + replaced + tally.cancelled = 1) (scheduled : tally.scheduled = 0) :
    s.Accounts uri timer tally { s.abort id with metrics := metrics } next where
  runtime := rfl
  clock := rfl
  holds := by
    have hqueued := h.queued.abort id
    exact holds_of_none ⟨hqueued.distinct, hqueued.given⟩ (h.alarms_abort handle).1 hnone
  others := (h.alarms_abort handle).2
  fires := fires
  balance := by
    -- One timer was waiting and none is: it has fired, was replaced or was cancelled.
    refine ⟨replaced, resets, ?_⟩
    rw [hnone, handle, scheduled, Option.isSome_none, Option.isSome_some, Bool.toNat_false,
      Bool.toNat_true]
    omega

/-- Cancelling a timer accounts for the one that was waiting, if there was one. -/
theorem cancelTimer_accounts {entry : Entry} (h : s.Holds uri entry.timer) :
    s.Accounts uri entry.timer { cancelled := entry.timer.handle.isSome.toNat }
      (s.cancelTimer entry).1 (s.cancelTimer entry).2.1.timer := by
  unfold cancelTimer
  cases hhandle : entry.timer.handle with
  | none => exact (Accounts.refl h).renew hhandle rfl
  | some id =>
    exact h.dropped hhandle rfl (UInt64.add_zero _).symm 0 (UInt64.add_zero _).symm rfl rfl

/-- A timer that waits for nothing is set. -/
theorem spawn_accounts (h : s.Holds uri timer) (runtime : s.runtime = true)
    (hnone : timer.handle = none) (delay : Nat) :
    s.Accounts uri timer { scheduled := 1 }
      (s.spawn delay (.reparse uri (timer.generation + 1))).1 (timer.armed s.nextTask) where
  runtime := rfl
  clock := rfl
  holds := by
    refine ⟨h.queued.spawn delay _, ?_⟩
    -- The new task becomes the one alarm of its uri.
    rw [alarms_spawn, h.alarms_of_none hnone]
    simp [Task.wakes, Timer.armed]
  others other hne := by
    rw [alarms_spawn]
    simp [Task.wakes, Ne.symm hne]
  fires := (UInt64.add_zero _).symm
  balance := by
    refine ⟨0, (UInt64.add_zero _).symm, ?_⟩
    show 1 + 0 + 0 + 0 = timer.handle.isSome.toNat + s.runtime.toNat * 1
    rw [hnone, runtime]
    rfl

/-- Setting a timer replaces what it waits for, and counts that. -/
theorem schedule_accounts {entry : Entry} (h : s.Holds uri entry.timer) (delay : Nat) :
    s.Accounts uri entry.timer { scheduled := 1 } (s.schedule uri entry delay).1
      (s.schedule uri entry delay).2.timer := by
  unfold schedule
  -- The old timer is replaced first, and what is then set waits for a task of its own.
  by_cases hruntime : s.runtime = true
  · rw [if_pos hruntime]
    unfold cancelTimer
    cases hhandle : entry.timer.handle with
    | none =>
      have hcancelled : s.Accounts uri entry.timer {} s entry.timer.cancelled :=
        (Accounts.refl h).renew hhandle rfl
      exact hcancelled.trans (spawn_accounts hcancelled.holds hruntime rfl delay)
    | some id =>
      have hreplaced : s.Accounts uri entry.timer {}
          ((s.abort id).measure Metrics.recordDebounceReset) entry.timer.cancelled :=
        h.dropped hhandle rfl (UInt64.add_zero _).symm 1 rfl rfl rfl
      exact hreplaced.trans (spawn_accounts hreplaced.holds hruntime rfl delay)
  · rw [if_neg hruntime]
    -- Without a runtime nothing is set, and nothing counts.
    have hrest := Accounts.refl h
    refine ⟨rfl, rfl, h, hrest.others, hrest.fires, 0, (UInt64.add_zero _).symm, ?_⟩
    rw [Bool.eq_false_iff.2 hruntime]
    rfl

/-! ## Operations on one entry -/

section Entries

variable {doc : Document} {entry : Entry}

/-- How many timers are cancelled by a look at the tree of an entry. -/
def lookCancels (doc : Document) (entry : Entry) : Nat :=
  if (entry.currentTree? doc.version).isSome then 0 else entry.timer.handle.isSome.toNat

/-- How often the scheduled path sets a timer: once if it has to wait for somebody else's load. -/
def reparseCalls (s : Services) (doc : Document) (entry : Entry) : Nat :=
  if (entry.currentTree? doc.version).isNone && (s.registry.loaded? doc.language).isNone &&
      s.registry.isSupported doc.language && s.registry.isLoading doc.language then 1
  else 0

/-- An entry that has taken note that the time of its timer has come. -/
def claimed (entry : Entry) : Entry := { entry with timer := { entry.timer with handle := none } }

/-- How often a timer is set when one fires in its own generation: by the scheduled path, or to try
    again after a failure. -/
def fireCalls (s : Services) (parser : Parser) (doc : Document) (entry : Entry) : Nat :=
  let s := s.measure Metrics.recordScheduledFire
  match (s.reparse parser doc (claimed entry)).2.2 with
  | .ok _ => s.reparseCalls doc entry
  | .error _ => if entry.consecutiveFailures + 1 ≤ s.config.maxParseRetries then 1 else 0

/-- How often a report of changes sets a timer. -/
def reportCalls (s : Services) (entry : Entry) (version : Int) (changes : List Change) : Nat :=
  match (entry.applyChanges changes version).2 with
  | .applied _ => s.config.scheduleOnEdit.toNat
  | _ => 0

/-- Looking for a grammar changes nothing but the registry. -/
theorem grammarNow_eq (s : Services) (language : String) :
    (s.grammarNow language).1 = { s with registry := (s.grammarNow language).1.registry } := by
  unfold grammarNow
  split
  · rfl
  · split <;> rfl

/-- Looking for a grammar does nothing to timers. -/
theorem grammarNow_accounts (h : s.Holds uri timer) (language : String) :
    s.Accounts uri timer {} (s.grammarNow language).1 timer := by
  rw [grammarNow_eq]
  exact .of_tasks h rfl rfl rfl rfl rfl rfl

/-- A parse does nothing to timers. -/
theorem parseEntry_accounts (h : s.Holds uri entry.timer) (parser : Parser) (doc : Document)
    (grammar : Grammar) :
    s.Accounts uri entry.timer {} (s.parseEntry parser doc entry grammar).1
      (s.parseEntry parser doc entry grammar).2.1.timer := by
  unfold parseEntry
  dsimp only
  split
  -- What is metered depends on whether there was a kept tree, but it is no count of timers.
  · next source _ =>
    refine .of_tasks h rfl rfl rfl rfl ?_ ?_ <;>
      cases hprevious : (entry.beginParse doc.version).2 <;> rfl
  · exact .of_tasks h rfl rfl rfl rfl rfl rfl

/-- A look at a tree that is out of date cancels the timer, and nothing else. -/
theorem treeNow_accounts (h : s.Holds uri entry.timer) (parser : Parser) (doc : Document) :
    s.Accounts uri entry.timer { cancelled := lookCancels doc entry }
      (s.treeNow parser doc entry).1 (s.treeNow parser doc entry).2.1.timer := by
  unfold lookCancels
  cases hcurrent : entry.currentTree? doc.version with
  | some tree => rw [treeNow_of_current parser hcurrent]; exact .refl h
  | none =>
    rw [treeNow_of_outdated parser hcurrent]
    have hcancel := cancelTimer_accounts h
    have hgrammar := hcancel.trans (grammarNow_accounts hcancel.holds doc.language)
    rw [Option.isSome_none, if_neg Bool.false_ne_true]
    split
    · next heq => rw [heq] at hgrammar; exact hgrammar
    · next later grammar heq =>
      rw [heq] at hgrammar
      exact hgrammar.trans (parseEntry_accounts hgrammar.holds parser doc grammar)

/-- A load that is started wakes no timer. -/
theorem spawn_load_accounts (h : s.Holds uri timer) (delay : Nat) (own language : String) :
    s.Accounts uri timer {} (s.spawn delay (.load own language)).1 timer where
  runtime := rfl
  clock := rfl
  holds := by
    refine ⟨h.queued.spawn delay _, ?_⟩
    rw [alarms_spawn]
    simpa [Task.wakes] using h.alarms
  others other _ := by
    rw [alarms_spawn]
    simp [Task.wakes]
  fires := (UInt64.add_zero _).symm
  balance := ⟨0, (UInt64.add_zero _).symm, rfl⟩

/-- The scheduled path sets a timer only to wait for a load. -/
theorem reparse_accounts (h : s.Holds doc.uri entry.timer) (parser : Parser) :
    s.Accounts doc.uri entry.timer { scheduled := s.reparseCalls doc entry }
      (s.reparse parser doc entry).1 (s.reparse parser doc entry).2.1.timer := by
  have hends := s.reparse_ends parser doc entry
  unfold reparseCalls
  generalize s.reparse parser doc entry = ending at hends ⊢
  cases hends with
  | current current => simpa [current] using Accounts.refl h
  | @parsed grammar outdated loaded =>
    simpa [loaded] using parseEntry_accounts h parser doc grammar
  | waiting outdated missing supported loading =>
    simpa [outdated, missing, supported, loading] using schedule_accounts h s.config.debounceMs
  | loading _ _ _ idle _ => simpa [idle] using spawn_load_accounts h 0 doc.uri doc.language
  | resting _ _ why =>
    rcases why with hunknown | ⟨hidle, -⟩
    · simpa [hunknown] using Accounts.refl h
    · simpa [hidle] using Accounts.refl h

/-- A timer that fires in its own generation goes the scheduled path, and is set again after a failure
    unless there have been too many. -/
theorem fire_of_own (s : Services) (parser : Parser) (doc : Document) (entry : Entry) :
    s.fire parser doc entry entry.timer.generation =
      match (s.measure Metrics.recordScheduledFire).reparse parser doc (claimed entry) with
      | (later, next, .ok _) => (later, next)
      | (later, next, .error _) =>
        if next.consecutiveFailures + 1 ≤ later.config.maxParseRetries then
          later.schedule doc.uri { next with consecutiveFailures := next.consecutiveFailures + 1 }
            later.config.debounceMs
        else (later, { next with consecutiveFailures := next.consecutiveFailures + 1 }) := by
  unfold fire Timer.claim?
  rw [if_pos rfl]
  rfl

/-- A timer whose task has run fires. -/
theorem fire_accounts (h : s.Holds doc.uri entry.timer) {id : TaskId}
    (handle : entry.timer.handle = some id) (parser : Parser) :
    s.Accounts doc.uri entry.timer
      { scheduled := (s.abort id).fireCalls parser doc entry, fired := 1 }
      ((s.abort id).fire parser doc entry entry.timer.generation).1
      ((s.abort id).fire parser doc entry entry.timer.generation).2.timer := by
  -- The wake-up is claimed first: that is the one timer that fired.
  have hclaimed : s.Accounts doc.uri entry.timer { fired := 1 }
      ((s.abort id).measure Metrics.recordScheduledFire) (claimed entry).timer :=
    h.dropped handle rfl rfl 0 (UInt64.add_zero _).symm rfl rfl
  have hreparse := hclaimed.trans (reparse_accounts hclaimed.holds parser)
  have hleads := reparse_leads ((s.abort id).measure Metrics.recordScheduledFire) parser doc
    (claimed entry)
  rw [fire_of_own]
  unfold fireCalls
  dsimp only
  cases hresult : ((s.abort id).measure Metrics.recordScheduledFire).reparse parser doc
    (claimed entry) with
  | mk later rest =>
  obtain ⟨next, _ | _⟩ := rest
  · -- Only a parse fails, and then no load is waited for.
    obtain ⟨grammar, failure, -, loaded, -, hnext⟩ := reparse_of_error (by rw [hresult])
    have hcalls : ((s.abort id).measure Metrics.recordScheduledFire).reparseCalls doc
        (claimed entry) = 0 := by
      unfold reparseCalls
      rw [loaded]
      simp
    rw [hresult] at hreparse hleads hnext
    rw [hcalls] at hreparse
    dsimp only at hnext hreparse ⊢
    have hfailures : next.consecutiveFailures = entry.consecutiveFailures := by rw [hnext]; rfl
    rw [hfailures, hleads.config]
    split
    · have hholds : later.Holds doc.uri
          ({ next with consecutiveFailures := entry.consecutiveFailures + 1 } : Entry).timer :=
        hreparse.holds
      exact hreparse.trans (schedule_accounts hholds _)
    · exact hreparse
  · rw [hresult] at hreparse
    -- Whether the timer is claimed has no bearing on the way through the scheduled path.
    have hcalls : ((s.abort id).measure Metrics.recordScheduledFire).reparseCalls doc
        (claimed entry) = ((s.abort id).measure Metrics.recordScheduledFire).reparseCalls doc entry :=
      rfl
    rw [hcalls] at hreparse
    rw [Tally.add_scheduled rfl] at hreparse
    exact hreparse

/-- A report sets a timer if its changes were applied and edits are to schedule parses. -/
theorem report_accounts (h : s.Holds uri entry.timer) (version : Int) (changes : List Change) :
    s.Accounts uri entry.timer { scheduled := s.reportCalls entry version changes }
      (s.report uri entry version changes).1 (s.report uri entry version changes).2.1.timer := by
  -- A report to the kept tree leaves the timer to be handled afterwards.
  have htimer := applyChanges_timer entry changes version
  unfold report reportCalls
  cases hchanged : entry.applyChanges changes version with
  | mk changed outcome =>
  rw [hchanged] at htimer
  rw [← htimer] at h ⊢
  cases outcome with
  | applied count =>
    have hmeasure : s.Accounts uri changed.timer {} (s.measure (·.recordEditsApplied count))
        changed.timer := .of_tasks h rfl rfl rfl rfl rfl rfl
    have hconfig : (s.measure (·.recordEditsApplied count)).config = s.config := rfl
    dsimp only
    rw [hconfig]
    cases s.config.scheduleOnEdit with
    | true => exact hmeasure.trans (schedule_accounts hmeasure.holds _)
    | false => exact hmeasure
  | dropped count => exact .of_tasks h rfl rfl rfl rfl rfl rfl
  | stopped => exact .refl h

/-- A verification cancels what its look at the tree cancels. -/
theorem verify_accounts (h : s.Holds uri entry.timer) (parser : Parser) (doc : Document) :
    s.Accounts uri entry.timer { cancelled := lookCancels doc entry }
      (s.verify parser doc entry).1 (s.verify parser doc entry).2.1.timer := by
  have htree := treeNow_accounts h parser doc
  -- Each further step of a verification leaves the timers as they are.
  unfold verify
  split
  · next heq => rw [heq] at htree; exact htree
  · next later changed tree heq =>
    rw [heq] at htree
    have hgrammar := htree.trans (grammarNow_accounts htree.holds tree.language)
    split
    · next heq => rw [heq] at hgrammar; exact hgrammar
    · next last grammar heq =>
      rw [heq] at hgrammar
      have hparse : last.Accounts uri changed.timer {}
          (last.parseText parser grammar doc.text none).1 changed.timer :=
        .of_tasks hgrammar.holds rfl rfl rfl rfl rfl rfl
      split
      · next heq => rw [heq] at hparse; exact hgrammar.trans hparse
      · next final source heq =>
        rw [heq] at hparse
        have hmeasure : final.Accounts uri changed.timer {}
            (final.measure Metrics.recordVerification) changed.timer :=
          .of_tasks hparse.holds rfl rfl rfl rfl rfl rfl
        dsimp only
        split <;> exact hgrammar.trans (hparse.trans hmeasure)

end Entries

end Services

namespace Workspace

/-! ## Workspaces -/

/-- The timer of a uri; one that was never set if nothing is open there. -/
def timer (w : Workspace) (uri : String) : Timer := ((w.entries.find? uri).map (·.timer)).getD {}

/-- Every timer holds its task, and no task would wake the timer of a uri that is closed. -/
def Tidy (w : Workspace) : Prop := ∀ uri, w.services.Holds uri (w.timer uri)

/-- How many timers wait for a task. -/
def armedTimers (w : Workspace) : Nat := w.entries.values.countP (·.timer.handle.isSome)

/-- What part of a workspace's life does to timers.  It may reach the entries of the uris in `touched`,
    and no others. -/
structure Accounts (w : Workspace) (touched : List String) (tally : Tally) (later : Workspace) :
    Prop where
  /-- Timers and tasks agree afterwards. -/
  tidy : later.Tidy
  runtime : later.services.runtime = w.services.runtime
  clock : later.services.clock = w.services.clock
  /-- What was not touched has its entry and its alarms still. -/
  spared : ∀ uri, uri ∉ touched → later.entries.find? uri = w.entries.find? uri ∧
    later.services.alarms uri = w.services.alarms uri
  fires : later.services.metrics.counters.scheduledFires =
    w.services.metrics.counters.scheduledFires + UInt64.ofNat tally.fired
  balance : ∃ replaced,
    later.services.metrics.counters.debounceResets =
      w.services.metrics.counters.debounceResets + UInt64.ofNat replaced ∧
    later.armedTimers + tally.fired + replaced + tally.cancelled =
      w.armedTimers + w.services.runtime.toNat * tally.scheduled

variable {w later : Workspace} {uri : String} {touched : List String} {tally : Tally}

/-- The timer of an open uri is the one in its entry. -/
theorem timer_of_find? {entry : Entry} (found : w.entries.find? uri = some entry) :
    w.timer uri = entry.timer := by
  unfold timer
  rw [found]
  rfl

/-- A closed uri has a timer that was never set. -/
theorem timer_of_closed (closed : w.entries.find? uri = none) : w.timer uri = {} := by
  unfold timer
  rw [closed]
  rfl

/-- The timer of an open uri holds its task. -/
theorem Tidy.holds (tidy : w.Tidy) {entry : Entry} (found : w.entries.find? uri = some entry) :
    w.services.Holds uri entry.timer := by
  rw [← timer_of_find? found]
  exact tidy uri

/-- Whether a timer waits is told by the entry, if there is one. -/
theorem timer_isSome (w : Workspace) (uri : String) :
    (w.timer uri).handle.isSome = (w.entries.find? uri).any (·.timer.handle.isSome) := by
  unfold timer
  cases w.entries.find? uri <;> rfl

/-- Entries and tasks that stay keep the workspace tidy. -/
theorem Tidy.of_tasks (tidy : w.Tidy) (entries : later.entries = w.entries)
    (tasks : later.services.tasks = w.services.tasks)
    (nextTask : later.services.nextTask = w.services.nextTask) : later.Tidy := by
  intro uri
  have htimer : later.timer uri = w.timer uri := by unfold timer; rw [entries]
  obtain ⟨hqueued, halarms⟩ := tidy uri
  rw [htimer]
  refine ⟨⟨by rw [tasks]; exact hqueued.distinct, by rw [tasks, nextTask]; exact hqueued.given⟩, ?_⟩
  unfold Services.alarms
  rw [tasks]
  exact halarms

namespace Accounts

/-- What has nothing to do with entries and tasks. -/
theorem of_tasks (tidy : w.Tidy) (entries : later.entries = w.entries)
    (tasks : later.services.tasks = w.services.tasks)
    (nextTask : later.services.nextTask = w.services.nextTask)
    (runtime : later.services.runtime = w.services.runtime)
    (clock : later.services.clock = w.services.clock)
    (counters : later.services.metrics.counters = w.services.metrics.counters) :
    w.Accounts [] {} later where
  tidy := tidy.of_tasks entries tasks nextTask
  runtime := runtime
  clock := clock
  spared uri _ := by
    unfold Services.alarms
    rw [entries, tasks]
    exact ⟨rfl, rfl⟩
  fires := by rw [counters]; exact (UInt64.add_zero _).symm
  balance := by
    refine ⟨0, by rw [counters]; exact (UInt64.add_zero _).symm, ?_⟩
    unfold armedTimers
    rw [entries]
    rfl

/-- Nothing done needs no accounting. -/
theorem refl (tidy : w.Tidy) : w.Accounts [] {} w := .of_tasks tidy rfl rfl rfl rfl rfl rfl

/-- More uris may be named as touched. -/
theorem mono {more : List String} (h : w.Accounts touched tally later) (sub : touched ⊆ more) :
    w.Accounts more tally later :=
  { h with spared := fun uri hmem => h.spared uri fun htouched => hmem (sub htouched) }

/-- What two parts of a life did adds up, and what either touched is touched. -/
theorem trans {last : Workspace} {others : List String} {more : Tally}
    (first : w.Accounts touched tally later) (second : later.Accounts others more last) :
    w.Accounts (touched ++ others) (tally + more) last where
  tidy := second.tidy
  runtime := second.runtime.trans first.runtime
  clock := second.clock.trans first.clock
  spared uri hmem := by
    rw [List.mem_append, not_or] at hmem
    obtain ⟨hentry, halarms⟩ := first.spared uri hmem.1
    obtain ⟨hentry', halarms'⟩ := second.spared uri hmem.2
    exact ⟨hentry'.trans hentry, halarms'.trans halarms⟩
  fires := by
    rw [second.fires, first.fires, Tally.fired_add, UInt64.ofNat_add, UInt64.add_assoc]
  balance := Services.balance_trans first.balance (by rw [← first.runtime]; exact second.balance)

end Accounts

/-- The timers of other uris hold their tasks, whatever an operation does to one entry. -/
theorem Tidy.holds_elsewhere (tidy : w.Tidy) {s : Services} {next : Timer}
    (h : w.services.Accounts uri (w.timer uri) tally s next) {other : String} (hne : other ≠ uri) :
    s.Holds other (w.timer other) := by
  refine ⟨h.holds.queued, ?_⟩
  rw [h.others other hne]
  exact (tidy other).alarms

/-- An operation on the entry of a uri, which has another entry afterwards or none.  The count of
    armed timers follows that of the uri. -/
theorem Tidy.replace (tidy : w.Tidy) {s : Services} {entries : Table Entry} {next : Timer}
    (h : w.services.Accounts uri (w.timer uri) tally s next)
    (own : s.Holds uri (timer { w with services := s, entries := entries } uri))
    (elsewhere : ∀ other, other ≠ uri → entries.find? other = w.entries.find? other)
    (count : entries.values.countP (·.timer.handle.isSome) + (w.timer uri).handle.isSome.toNat =
      w.armedTimers + next.handle.isSome.toNat) :
    w.Accounts [uri] tally { w with services := s, entries := entries } where
  tidy other := by
    -- The uri itself has the timer that the operation accounts for, the others have their own.
    by_cases heq : other = uri
    · subst heq
      exact own
    · have htimer : timer { w with services := s, entries := entries } other = w.timer other := by
        show ((entries.find? other).map _).getD _ = _
        rw [elsewhere other heq]
        rfl
      rw [htimer]
      exact tidy.holds_elsewhere h heq
  runtime := h.runtime
  clock := h.clock
  spared other hmem := by
    have hne : other ≠ uri := fun heq => hmem (heq ▸ List.mem_cons_self)
    exact ⟨elsewhere other hne, h.others other hne⟩
  fires := h.fires
  balance := by
    obtain ⟨replaced, hresets, hbalance⟩ := h.balance
    refine ⟨replaced, hresets, ?_⟩
    show entries.values.countP (·.timer.handle.isSome) + _ + _ + _ = _
    omega

/-- An operation on the entry of a uri, which is put back. -/
theorem Tidy.put (tidy : w.Tidy) {s : Services} {next : Entry}
    (h : w.services.Accounts uri (w.timer uri) tally s next.timer) :
    w.Accounts [uri] tally (w.put uri s next) := by
  refine tidy.replace h ?_ (fun other hne => ?_) ?_
  · rw [timer_of_find? (Table.find?_insert_self w.entries uri next)]
    exact h.holds
  · rw [Table.find?_insert, if_neg hne]
  -- The entry that is put back trades its timer for the old one in the count.
  · rw [timer_isSome]
    exact w.entries.countP_insert uri next (·.timer.handle.isSome)

/-- A uri is closed, and its timer no longer waits for anything. -/
theorem Tidy.erase (tidy : w.Tidy) {s : Services} {next : Timer}
    (h : w.services.Accounts uri (w.timer uri) tally s next) (hnone : next.handle = none) :
    w.Accounts [uri] tally { w with services := s, entries := w.entries.erase uri } := by
  refine tidy.replace h ?_ (fun other hne => ?_) ?_
  -- Nothing is open at the uri now, and no task would wake it.
  · have hclosed : (w.entries.erase uri).find? uri = none := Table.find?_erase_self _ _
    rw [timer_of_closed hclosed]
    exact (h.renew hnone rfl).holds
  · rw [Table.find?_erase, if_neg hne]
  -- The entry takes its timer out of the count, and it was waiting for nothing.
  · rw [timer_isSome, hnone]
    exact w.entries.countP_erase uri (·.timer.handle.isSome)

end Workspace

end LiveTree
