import LiveTree.Proofs.Debounce
import LiveTree.Proofs.Setbacks
import LiveTree.Proofs.Sparing
import LiveTree.Proofs.Updates

/-!
# Failing parses are tried again, but not for ever

A timer that fires and whose parse fails sets itself again, as long as there have not been too many
failures in a row.  If nobody else cares for the document, and no parse of it succeeds, nothing else
happens to it: the timer fires as often as is left, each time after the debounce time, or after the
longest delay that a task can have if that is shorter; then it gives up, and the document has the trees
that it had.  A parse that is tried again may well succeed, if parsers have become faster meanwhile.

What the timer leaves behind each time is the same, but for one more failure: `Retrying` is that state.

## Key results

- `Services.fire_of_failing`: what a timer does whose parse fails
- `Retrying.move`: what a move does that leaves the document to its timer
- `retries_bounded`: how often and when the timer fires, and what is left
-/

namespace LiveTree

namespace Services

variable {s : Services} {parser : Parser} {doc : Document} {entry : Entry} {grammar : Grammar}
  {failure : ParseFailure}

/-- How often a timer fires that waits for an entry whose parses all fail. -/
def attemptsLeft (s : Services) (entry : Entry) : Nat :=
  max 1 (s.config.maxParseRetries + 1 - entry.consecutiveFailures)

/-- How many attempts are left is a matter of the settings and of the entry. -/
theorem attemptsLeft_congr {later : Services} (h : later.config = s.config) (entry : Entry) :
    later.attemptsLeft entry = s.attemptsLeft entry := by
  unfold attemptsLeft
  rw [h]

/-- A timer that waits for nothing is set. -/
theorem schedule_of_none (runtime : s.runtime = true) (uri : String) (entry : Entry)
    (hnone : entry.timer.handle = none) (delay : Nat) :
    s.schedule uri entry delay =
      ({ s with
          tasks := s.tasks ++ [⟨s.nextTask, s.clock + min delay longestDelay,
            .reparse uri (entry.timer.generation + 2)⟩]
          nextTask := s.nextTask + 1 },
        { entry with timer := ⟨some s.nextTask, entry.timer.generation + 2⟩ }) := by
  have htasks : s.tasks.filter (fun task => (none : Option TaskId) ≠ some task.id) = s.tasks :=
    List.filter_eq_self.2 fun _ _ => rfl
  -- A timer that waits for nothing has no task to be dropped.
  rw [schedule_eq runtime, hnone, htasks]
  rfl

/-- A parse that fails is counted, and leaves the entry with its trees. -/
theorem parseEntry_of_failing
    (failed : Pool.attempt (parser.paced s.pace) grammar doc.text (entry.beginParse doc.version).2
      s.config.parseTimeoutMs = .error failure) :
    ∃ pool metrics, s.parseEntry parser doc entry grammar =
        ({ s with pool := pool, metrics := metrics }, (entry.beginParse doc.version).1.fail,
          .error (failure.toError doc.uri)) ∧
      metrics.counters.parseFailures = s.metrics.counters.parseFailures + 1 := by
  unfold parseEntry parseText Pool.parse
  dsimp only
  rw [failed]
  exact ⟨_, _, rfl, rfl⟩

/-- A timer whose parse fails counts the failure, and is set again unless there were too many. -/
theorem fire_of_failing (runtime : s.runtime = true)
    (outdated : entry.currentTree? doc.version = none)
    (loaded : s.registry.loaded? doc.language = some grammar)
    (failed : Pool.attempt (parser.paced s.pace) grammar doc.text (entry.previousFor? doc.version)
      s.config.parseTimeoutMs = .error failure) :
    ∃ later timer,
      s.fire parser doc entry entry.timer.generation =
        (later, { entry.fail with
          timer := timer
          consecutiveFailures := entry.consecutiveFailures + 1 }) ∧
      later.config = s.config ∧ later.registry = s.registry ∧ later.runtime = s.runtime ∧
      later.metrics.counters.parseFailures = s.metrics.counters.parseFailures + 1 ∧
      (timer.handle.isSome = true ↔
        entry.consecutiveFailures + 1 ≤ s.config.maxParseRetries) ∧
      ∀ task ∈ later.tasks, task ∈ s.tasks ∨ task.deadline = s.clock + s.debounce := by
  have houtdated : (claimed entry).currentTree? doc.version = none := outdated
  have hloaded : (s.measure Metrics.recordScheduledFire).registry.loaded? doc.language =
      some grammar := loaded
  have hfailed : Pool.attempt (parser.paced (s.measure Metrics.recordScheduledFire).pace) grammar
      doc.text ((claimed entry).beginParse doc.version).2
      (s.measure Metrics.recordScheduledFire).config.parseTimeoutMs = .error failure := failed
  obtain ⟨pool, metrics, hparse, hcounters⟩ := parseEntry_of_failing hfailed
  rw [fire_of_own, reparse_of_loaded parser houtdated hloaded, hparse]
  show ∃ later timer, (if entry.consecutiveFailures + 1 ≤ s.config.maxParseRetries then _ else _) =
    _ ∧ _
  by_cases hagain : entry.consecutiveFailures + 1 ≤ s.config.maxParseRetries
  · -- The timer has just been claimed, so it waits for nothing when it is set.
    have hset := schedule_of_none (s := { s with pool := pool, metrics := metrics }) runtime doc.uri
      { entry.fail with
        timer := (claimed entry).timer
        consecutiveFailures := entry.consecutiveFailures + 1 } rfl s.config.debounceMs
    rw [if_pos hagain]
    refine ⟨_, _, hset, rfl, rfl, rfl, hcounters, by simp [hagain], fun task htask => ?_⟩
    rcases List.mem_append.1 htask with hold | hnew
    · exact .inl hold
    · rw [List.mem_singleton.1 hnew]
      exact .inr rfl
  · rw [if_neg hagain]
    refine ⟨_, _, rfl, rfl, rfl, rfl, hcounters, ?_, fun task htask => .inl htask⟩
    exact ⟨fun hsome => (nomatch hsome), fun hle => absurd hle hagain⟩

end Services

namespace Workspace

variable {parser : Parser} {w later : Workspace} {uri : String} {begun entry : Entry}
  {doc : Document} {grammar : Grammar} {fired time : Nat}

/-- A parse of the document would fail now. -/
def ParsesInVain (w : Workspace) (parser : Parser) (uri : String) : Prop :=
  ∀ entry doc grammar, w.open? uri = some (entry, doc) →
    w.services.registry.loaded? doc.language = some grammar →
    ∃ failure, Pool.attempt (parser.paced w.services.pace) grammar doc.text
      (entry.previousFor? doc.version) w.services.config.parseTimeoutMs = .error failure

/-- Whether a parse would fail now can be tried out, on the one document that is open. -/
instance : Decidable (w.ParsesInVain parser uri) :=
  decidable_of_iff _ (forall_attempt_iff fun outcome => ∃ failure, outcome = .error failure).symm

/-! ## A document whose parses fail -/

/-- A document is left to its timer, whose parses have failed a number of times since the entry was
    `begun`.  The timer waits as long as there are attempts left. -/
structure Retrying (begun : Entry) (w : Workspace) (uri : String) (entry : Entry) (doc : Document)
    (grammar : Grammar) (fired : Nat) : Prop where
  kept : w.WellKept
  runtime : w.services.runtime = true
  found : w.open? uri = some (entry, doc)
  same : begun.SameTrees entry
  outdated : entry.currentTree? doc.version = none
  loaded : w.services.registry.loaded? doc.language = some grammar
  failures : entry.consecutiveFailures = begun.consecutiveFailures + fired
  within : fired ≤ w.services.attemptsLeft begun
  waiting : entry.timer.handle.isSome = true ↔ fired < w.services.attemptsLeft begun

/-- The timer of the entry holds what is queued for it. -/
theorem Retrying.holds (h : Retrying begun w uri entry doc grammar fired) :
    w.services.Holds uri entry.timer :=
  h.kept.tidy.holds (open?_eq_some.1 h.found).1

/-- The timer is pending exactly as long as there are attempts left. -/
theorem Retrying.pending_iff (h : Retrying begun w uri entry doc grammar fired) :
    w.hasPendingReparse uri = true ↔ fired < w.services.attemptsLeft begun := by
  unfold hasPendingReparse
  rw [← h.waiting, Option.isSome_iff_ne_none, (open?_eq_some.1 h.found).1, Option.any_some]
  exact Services.isPending_of_armed h.holds.armed

/-- While the timer waits, there is one task for it. -/
theorem Retrying.alarms (h : Retrying begun w uri entry doc grammar fired)
    (left : fired < w.services.attemptsLeft begun) : ∃ task, w.services.alarms uri = [task] := by
  obtain ⟨id, hhandle⟩ := Option.isSome_iff_exists.1 (h.waiting.2 left)
  obtain ⟨deadline, halarms⟩ := h.holds.alarms_of_some hhandle
  exact ⟨_, halarms⟩

/-- While the timer waits, the clock is not past the time at which it is due. -/
theorem Retrying.clock_le (h : Retrying begun w uri entry doc grammar fired)
    (left : fired < w.services.attemptsLeft begun) (due : w.DueAt uri time) :
    w.services.clock ≤ time := by
  obtain ⟨task, halarms⟩ := h.alarms left
  exact due.clock_le (by rw [halarms]; exact List.mem_cons_self)

/-- What leaves the entry and the document alone changes nothing. -/
theorem Retrying.of_untouched (h : Retrying begun w uri entry doc grammar fired)
    {move : Move} (lawful : w.Lawful move) (spares : w.Spares uri move)
    (untouched : uri ∉ w.touched move) :
    Retrying begun (w.move parser move) uri entry doc grammar fired := by
  have hbooked := move_booked h.kept.tidy h.kept.coherent lawful parser
  obtain ⟨trace, run, -⟩ := w.move_reaches parser move
  have hleads := run.leads
  have hleft := Services.attemptsLeft_congr hleads.config begun
  exact
    { kept := h.kept.move lawful parser
      runtime := hbooked.runtime.trans h.runtime
      found := spares.open? h.found hbooked untouched
      same := h.same
      outdated := h.outdated
      loaded := hleads.registry.loaded _ _ h.loaded
      failures := h.failures
      within := by rw [hleft]; exact h.within
      waiting := by rw [hleft]; exact h.waiting }

/-- The timer fires: there is one more failure, and the timer waits again if any attempt is left. -/
theorem Retrying.runTask (h : Retrying begun w uri entry doc grammar fired) {task : Task}
    (htask : task ∈ w.services.alarms uri) (failing : w.ParsesInVain parser uri) :
    (∃ next, Retrying begun (w.move parser (.run task)) uri next doc grammar (fired + 1)) ∧
      (∃ version, w.firing? parser uri (.run task) = some ⟨w.services.clock, 1, version⟩) ∧
      ∀ alarm ∈ (w.move parser (.run task)).services.alarms uri,
        alarm.deadline = w.services.clock + w.services.debounce := by
  obtain ⟨hentry, hdoc⟩ := open?_eq_some.1 h.found
  obtain rfl := h.kept.coherent.uri_eq h.found
  obtain ⟨hmem, hwakes⟩ := Services.mem_alarms.1 htask
  obtain ⟨generation, hwork⟩ := Task.wakes_iff.1 hwakes
  have hholds := h.holds
  have htimer := hholds.handle_of_mem hmem hwork
  have hhandle : entry.timer.handle = some task.id := by rw [htimer]
  have hrun := runTask_of_reparse h.found hwork htimer parser
  have hmove : w.move parser (.run task) = w.runTask parser task := if_pos hmem
  have hkept := h.kept.move (show w.Lawful (.run task) from trivial) parser
  -- The timer waits for this attempt, so it was not the last one that has been made.
  have hleft : fired < w.services.attemptsLeft begun := h.waiting.1 (by rw [hhandle]; rfl)
  -- It is this attempt that fails, for the tree that is handed out does not depend on the timer.
  obtain ⟨failure, hfailed⟩ := failing entry doc grammar h.found h.loaded
  obtain ⟨last, timer, hfire, hconfig, hregistry, hruntime, hcount, hset, htasks⟩ :=
    Services.fire_of_failing (s := w.services.abort task.id) h.runtime h.outdated h.loaded hfailed
  rw [hfire] at hrun
  rw [hmove, hrun] at hkept
  have hattempts : last.attemptsLeft begun = w.services.attemptsLeft begun :=
    Services.attemptsLeft_congr hconfig begun
  have hfound := Table.find?_insert_self w.entries doc.uri { entry.fail with
    timer := timer
    consecutiveFailures := entry.consecutiveFailures + 1 }
  refine ⟨⟨{ entry.fail with
      timer := timer
      consecutiveFailures := entry.consecutiveFailures + 1 }, ?_⟩, ?_, fun alarm halarm => ?_⟩
  · rw [hmove, hrun]
    have hfailures := h.failures
    exact
      { kept := hkept
        runtime := hruntime.trans h.runtime
        found := open?_eq_some.2 ⟨hfound, hdoc⟩
        same := h.same.trans ⟨rfl, rfl, rfl, rfl, rfl⟩
        outdated := Entry.currentTree?_of_fail entry doc.version
        loaded := (congrArg (·.loaded? doc.language) hregistry).trans h.loaded
        failures := by
          show entry.consecutiveFailures + 1 = _
          omega
        within := by
          show fired + 1 ≤ last.attemptsLeft begun
          omega
        waiting := by
          show timer.handle.isSome = true ↔ fired + 1 < last.attemptsLeft begun
          rw [hset, hattempts]
          show entry.consecutiveFailures + 1 ≤ w.services.config.maxParseRetries ↔ _
          unfold Services.attemptsLeft at hleft ⊢
          omega }
  -- In words the difference of the counts is one, even if they have wrapped around.
  · have hcounted : (w.runTask parser task).services.metrics.counters.parseFailures -
        w.services.metrics.counters.parseFailures = 1 := by
      rw [hrun]
      show last.metrics.counters.parseFailures - _ = 1
      rw [hcount]
      show w.services.metrics.counters.parseFailures + 1 -
        w.services.metrics.counters.parseFailures = 1
      rw [UInt64.add_comm, UInt64.add_sub_cancel]
    refine ⟨((w.runTask parser task).lastTree? doc.uri).map (·.version), ?_⟩
    rw [firing?_run htask, hcounted]
  · rw [hmove, hrun] at halarm
    obtain ⟨hqueued, halarms⟩ := Services.mem_alarms.1 halarm
    -- The task that has run is gone, so the timer waits for a new one.
    rcases htasks alarm hqueued with hold | hnew
    · have hmem : alarm ∈ (w.services.abort task.id).alarms doc.uri :=
        Services.mem_alarms.2 ⟨hold, halarms⟩
      rw [(hholds.alarms_abort hhandle).1] at hmem
      exact nomatch hmem
    · exact hnew

/-- One move: nothing happens to the document, or its timer fires once.  A timer that fires on time does
    so when it is due, and is due again after the debounce time. -/
theorem Retrying.move (h : Retrying begun w uri entry doc grammar fired)
    {move : Move} (lawful : w.Lawful move) (spares : w.Spares uri move)
    (failing : (w.firing? parser uri move).isSome = true → w.ParsesInVain parser uri) :
    ∃ next more,
      Retrying begun (w.move parser move) uri next doc grammar (fired + more) ∧
      (w.firing? parser uri move).toList.map (·.failures) = List.replicate more 1 ∧
      ∀ first, w.DueAt uri (first + fired * w.services.debounce) → w.Prompt uri move →
        (w.move parser move).DueAt uri (first + (fired + more) * w.services.debounce) ∧
        (w.firing? parser uri move).toList.map (·.time) =
          (List.range' fired more).map fun k => first + k * w.services.debounce := by
  rcases spares.cases parser with ⟨task, rfl, halarm⟩ | ⟨hnone, hstill⟩
  · obtain ⟨⟨next, hnext⟩, ⟨version, hfiring⟩, hdeadline⟩ :=
      h.runTask halarm (failing (by rw [firing?_run halarm]; rfl))
    have hclock := (move_booked h.kept.tidy h.kept.coherent lawful parser).clock
      fun time heq => nomatch heq
    refine ⟨next, 1, hnext, by rw [hfiring]; rfl, fun first hdue hprompt => ?_⟩
    -- The timer was due just now.
    have hnow := hdue task halarm
    have hearly := hprompt halarm
    have htime : w.services.clock = first + fired * w.services.debounce := by omega
    refine ⟨fun alarm hmem => ?_, ?_⟩
    · rw [hdeadline alarm hmem, hclock, Nat.add_mul, Nat.one_mul]
      omega
    · rw [hfiring]
      show [w.services.clock] = [first + fired * w.services.debounce]
      rw [htime]
  · refine ⟨entry, 0, ?_, by rw [hnone]; rfl, fun first hdue hprompt => ⟨?_, by rw [hnone]; rfl⟩⟩
    all_goals rcases hstill with hstill | huntouched
    · rw [hstill]
      exact h
    · exact h.of_untouched lawful spares huntouched
    · rw [hstill]
      exact hdue
    · exact hdue.of_untouched (move_booked h.kept.tidy h.kept.coherent lawful parser) huntouched
        hprompt

/-- A sequence of moves that leave the document to its timer. -/
theorem Retrying.play (h : Retrying begun w uri entry doc grammar fired) {moves : List Move}
    (lawful : w.LawfulAlong parser moves) (spares : w.SparesAlong parser uri moves)
    (failing : w.WheneverFired parser uri (·.ParsesInVain parser uri) moves) :
    ∃ next more,
      Retrying begun (w.play parser moves) uri next doc grammar (fired + more) ∧
      (w.firings parser uri moves).map (·.failures) = List.replicate more 1 ∧
      ∀ first, w.DueAt uri (first + fired * w.services.debounce) → w.PromptAlong parser uri moves →
        (w.play parser moves).DueAt uri (first + (fired + more) * w.services.debounce) ∧
        (w.firings parser uri moves).map (·.time) =
          (List.range' fired more).map fun k => first + k * w.services.debounce := by
  -- By induction on the moves, with the number of attempts so far free.
  induction moves generalizing w entry fired with
  | nil => exact ⟨entry, 0, h, rfl, fun first hdue _ => ⟨hdue, rfl⟩⟩
  | cons move rest ih =>
    obtain ⟨hlawful, hlawfuls⟩ := lawful
    obtain ⟨hspares, hsparess⟩ := spares
    obtain ⟨hfailing, hfailings⟩ := failing
    obtain ⟨next, more, hnext, hfailures, htimes⟩ := h.move hlawful hspares hfailing
    obtain ⟨last, again, hlast, hfailures', htimes'⟩ := ih hnext hlawfuls hsparess hfailings
    have hdebounce := w.move_debounce parser move
    rw [Nat.add_assoc] at hlast
    refine ⟨last, more + again, hlast, ?_, fun first hdue hprompt => ?_⟩
    · rw [firings, List.map_append, hfailures, hfailures', List.replicate_append_replicate]
    · obtain ⟨hdue', htimes⟩ := htimes first hdue hprompt.1
      rw [hdebounce] at htimes'
      obtain ⟨hdue', htimes'⟩ := htimes' first hdue' hprompt.2
      rw [Nat.add_assoc] at hdue'
      refine ⟨hdue', ?_⟩
      rw [firings, List.map_append, htimes, htimes', ← List.map_append, List.range'_append_1]

/-! ## The end of it -/

/-- A pending timer has all its attempts before it. -/
theorem WellKept.retrying (kept : w.WellKept) (runtime : w.services.runtime = true)
    (found : w.open? uri = some (entry, doc))
    (loaded : w.services.registry.loaded? doc.language = some grammar)
    (outdated : entry.currentTree? doc.version = none)
    (pending : w.hasPendingReparse uri = true) :
    Retrying entry w uri entry doc grammar 0 := by
  have hentry := (open?_eq_some.1 found).1
  unfold hasPendingReparse at pending
  rw [hentry, Option.any_some, Services.isPending_of_armed (kept.tidy.holds hentry).armed] at pending
  -- There is always at least one attempt.
  have hleft : 0 < w.services.attemptsLeft entry := by
    unfold Services.attemptsLeft
    omega
  exact
    { kept, runtime, found, outdated, loaded
      same := .refl entry
      failures := rfl
      within := Nat.zero_le _
      waiting := ⟨fun _ => hleft, fun _ => Option.isSome_iff_ne_none.2 pending⟩ }

/-- Failing parses are tried again, but not for ever.  Take a document whose timer is pending, whose
    grammar is at hand and whose tree is not current, in any workspace with a runtime that can come
    about.  Then its timer is to fire at some time, and whatever happens that leaves the document to its
    timer, if the parse fails whenever the timer fires:

    - the timer has fired no more often than there were attempts left, and is pending exactly as long
      as it has fired less often; every time, one failed parse was counted;
    - the document has the trees that it had, at the same versions and with the same edits pending;
    - if the timer fires on time, the firings are one debounce time apart, or the longest delay of a
      task if that is shorter; and once the time of the last is over, all have happened. -/
theorem retries_bounded (parser : Parser) (config : Config) (dataHome : String)
    (libraries : Libraries) {moves : List Move}
    (lawful : (create config dataHome libraries true).LawfulAlong parser moves)
    {w : Workspace} (reached : (create config dataHome libraries true).play parser moves = w)
    {uri : String} {entry : Entry} {doc : Document} {grammar : Grammar}
    (found : w.open? uri = some (entry, doc))
    (loaded : w.services.registry.loaded? doc.language = some grammar)
    (outdated : entry.currentTree? doc.version = none)
    (pending : w.hasPendingReparse uri = true) :
    ∃ first, (∃ task ∈ w.services.alarms uri, first = max w.services.clock task.deadline) ∧
      ∀ after, w.LawfulAlong parser after → w.SparesAlong parser uri after →
        w.WheneverFired parser uri (·.ParsesInVain parser uri) after →
        let later := w.play parser after
        let fires := w.firings parser uri after
        let total := max 1 (w.services.config.maxParseRetries + 1 - entry.consecutiveFailures)
        fires.length ≤ total ∧ (∀ fire ∈ fires, fire.failures = 1) ∧
        (later.hasPendingReparse uri = true ↔ fires.length < total) ∧
        (∃ next, later.open? uri = some (next, doc) ∧ entry.SameTrees next) ∧
        (w.PromptAlong parser uri after →
          fires.map (·.time) =
            (List.range fires.length).map (fun k => first + k * w.services.debounce) ∧
          (first + (total - 1) * w.services.debounce < later.services.clock →
            fires.length = total)) := by
  obtain ⟨hkept, hruntime, -⟩ := play_booked (create_wellKept config dataHome libraries true) lawful
  rw [reached] at hkept hruntime
  have hretrying := hkept.retrying hruntime found loaded outdated pending
  obtain ⟨task, halarms⟩ := hretrying.alarms (hretrying.pending_iff.1 pending)
  refine ⟨max w.services.clock task.deadline, ⟨task, by rw [halarms]; exact List.mem_cons_self, rfl⟩,
    fun after hlawful hspares hfailing => ?_⟩
  intro later fires total
  obtain ⟨next, fired, hlater, hfailures, htimes⟩ := hretrying.play hlawful hspares hfailing
  rw [Nat.zero_add] at hlater
  have hlength : fires.length = fired := by
    have hcount := congrArg List.length hfailures
    rw [List.length_map, List.length_replicate] at hcount
    exact hcount
  have htotal : later.services.attemptsLeft entry = total := by
    obtain ⟨trace, run, -⟩ := play_reaches parser w after
    exact Services.attemptsLeft_congr run.leads.config entry
  have hwithin := hlater.within
  have hpending := hlater.pending_iff
  rw [htotal] at hwithin hpending
  rw [hlength]
  refine ⟨hwithin, fun fire hfire => ?_, hpending, ⟨next, hlater.found, hlater.same⟩,
    fun hprompt => ?_⟩
  · have hmem : fire.failures ∈ List.replicate fired 1 := by
      rw [← hfailures]
      exact List.mem_map_of_mem hfire
    exact List.eq_of_mem_replicate hmem
  · have hdue : w.DueAt uri (max w.services.clock task.deadline + 0 * w.services.debounce) := by
      intro alarm halarm
      rw [halarms] at halarm
      rw [List.mem_singleton.1 halarm, Nat.zero_mul, Nat.add_zero]
    obtain ⟨hdue', htimes⟩ := htimes _ hdue hprompt
    rw [List.range_eq_range']
    refine ⟨htimes, fun hpast => ?_⟩
    by_contra hless
    -- If there were an attempt left, the timer would still be waiting, and the clock before its
    -- time.
    have hclock : later.services.clock ≤ _ := hlater.clock_le (by rw [htotal]; omega) hdue'
    have hle : (0 + fired) * w.services.debounce ≤ (total - 1) * w.services.debounce :=
      Nat.mul_le_mul_right _ (by omega)
    omega

/-- A document is opened whose text is too long to be parsed in time, and its grammar is loaded. -/
def tooLong : List Move := [
  .create "file:///a.js" "javascript" ['a', ';'],
  .openDocument 0,
  .loadBlocking "javascript"]

/-- The timer of the document fires every second. -/
def everySecond : List Move := [
  .run ⟨0, 0, .reparse "file:///a.js" 2⟩,
  .aside (.setClock 1000),
  .run ⟨1, 1000, .reparse "file:///a.js" 4⟩,
  .aside (.setClock 2000),
  .run ⟨2, 2000, .reparse "file:///a.js" 6⟩,
  .aside (.setClock 3000),
  .run ⟨3, 3000, .reparse "file:///a.js" 8⟩,
  .aside (.setClock 3001)]

/-- By default there are four attempts. -/
theorem retries_bounded_four :
    let parser := Parser.ofRecordings [] (some 1)
    let w := (create {} "/home" {} true).play parser tooLong
    w.hasPendingReparse "file:///a.js" = true ∧
      (w.firings parser "file:///a.js" everySecond).length = 4 ∧
      (w.firings parser "file:///a.js" everySecond).map (·.time) = [0, 1000, 2000, 3000] ∧
      (w.play parser everySecond).hasPendingReparse "file:///a.js" = false := by
  intro parser w
  have hlawful : (create {} "/home" {} true).LawfulAlong parser tooLong :=
    ⟨trivial, trivial, trivial, trivial⟩
  have hfound : w.open? "file:///a.js" = some (_, _) := rfl
  have hpending : w.hasPendingReparse "file:///a.js" = true := by decide
  obtain ⟨first, ⟨task, htask, hfirst⟩, hall⟩ := retries_bounded parser {} "/home" {} hlawful rfl
    hfound rfl rfl hpending
  have hspares : w.SparesAlong parser "file:///a.js" everySecond := by decide +kernel
  have hprompt : w.PromptAlong parser "file:///a.js" everySecond := by decide +kernel
  -- At no time is there a limit that the text is short enough for.
  have hfailing : w.WheneverFired parser "file:///a.js" (·.ParsesInVain parser "file:///a.js")
      everySecond := by
    decide +kernel
  obtain ⟨-, -, hend, -, htimes⟩ := hall everySecond (by decide +kernel) hspares hfailing
  obtain ⟨htimes, hdone⟩ := htimes hprompt
  have hzero : first = 0 := by
    rw [hfirst, show task = ⟨0, 0, .reparse "file:///a.js" 2⟩ from List.mem_singleton.1 htask]
    rfl
  subst hzero
  have hfour := hdone (by decide)
  rw [hfour] at htimes
  have hsteps : (List.range 4).map (fun k => 0 + k * w.services.debounce) =
      [0, 1000, 2000, 3000] := by decide
  refine ⟨hpending, hfour, htimes.trans hsteps, ?_⟩
  rw [← Bool.not_eq_true, hend, hfour]
  decide

/-- A parse that was late is in time when it is tried again, once parsers have become faster. -/
example :
    (((create {} "/home" {} true).play (.ofRecordings [] none) (tooLong ++ [
      .aside (.setPace fun _ _ _ _ => false),
      .run ⟨0, 0, .reparse "file:///a.js" 2⟩,
      .aside (.setPace .steady),
      .aside (.setClock 1000),
      .run ⟨1, 1000, .reparse "file:///a.js" 4⟩])).lastTree? "file:///a.js").map (·.version) =
      some 0 := by
  decide +kernel

/-- The timer fires at once, and again as late as a task can. -/
def thirtyYearsLater : List Move := [
  .run ⟨0, 0, .reparse "file:///a.js" 2⟩,
  .aside (.setClock 946080000000),
  .run ⟨1, 946080000000, .reparse "file:///a.js" 4⟩]

/-- The firings are not always the configured time apart: no task waits longer than the longest
    delay. -/
theorem retries_not_as_configured :
    let parser := Parser.ofRecordings [] (some 1)
    let w := (create { debounceMs := 1000000000000 } "/home" {} true).play parser tooLong
    (∃ entry doc grammar, w.open? "file:///a.js" = some (entry, doc) ∧
      w.services.registry.loaded? doc.language = some grammar ∧
      entry.currentTree? doc.version = none ∧ w.hasPendingReparse "file:///a.js" = true) ∧
    w.services.config.debounceMs = 1000000000000 ∧
    w.SparesAlong parser "file:///a.js" thirtyYearsLater ∧
    w.WheneverFired parser "file:///a.js" (·.ParsesInVain parser "file:///a.js")
      thirtyYearsLater ∧
    w.PromptAlong parser "file:///a.js" thirtyYearsLater ∧
    (w.firings parser "file:///a.js" thirtyYearsLater).map (·.time) = [0, 946080000000] := by
  intro parser w
  exact ⟨⟨_, _, _, rfl, rfl, rfl, by decide⟩, rfl, by decide +kernel, by decide +kernel,
    by decide +kernel, by decide +kernel⟩

end Workspace

end LiveTree
