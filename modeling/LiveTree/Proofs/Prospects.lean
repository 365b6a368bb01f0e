import LiveTree.Proofs.Commits
import LiveTree.Proofs.Generations
import LiveTree.Proofs.Reparses

/-!
# Whether a reparse is queued

A reparse of a document is queued if its timer waits for a task, or if a background load is under way
that schedules it when the grammar has come.  Two calls of the host decide about it.  A look at the tree
takes the place of what the timer waits for, so one that fails leaves no timer; it does not touch loads,
nor what is queued for other documents.  A report queues a reparse if it is applied, and it is applied
if the kept tree is of an earlier version; a report that is dropped leaves the queue as it is.

## Key results

- `failed_look_cancels`: what is still queued after a look at a tree that fails
- `report_restarts`: when a report queues a reparse, and that an edit which is reported at once does so
  wherever there is a tree
-/

namespace LiveTree

/-- The kept tree of an entry is of an earlier version. -/
def Entry.Behind (entry : Entry) (version : Int) : Prop :=
  ∃ kept, entry.previousVersion = some kept ∧ kept < version

/-- Where there is a tree and no report was ahead of the document, the kept tree is behind every version
    that is yet to come. -/
theorem Entry.Punctual.behind {entry : Entry} {doc : Document} (punctual : entry.Punctual doc)
    (tree : entry.state ≠ .noTree) {version : Int} (future : doc.version < version) :
    entry.Behind version := by
  cases hkept : entry.previousVersion with
  | none =>
    -- Without a kept tree there is no committed one, and then the state says so.
    have hnone := punctual.committed_iff.2 (punctual.previous_iff.2 hkept)
    exact absurd (punctual.state_iff.2 hnone) tree
  | some kept =>
    have hle := punctual.kept kept hkept
    exact ⟨kept, hkept, by omega⟩

namespace Services

variable {s : Services} {parser : Parser} {doc : Document} {entry : Entry}

/-- Every background load that waits for its turn was already waiting. -/
def StartsNoLoad (s later : Services) : Prop :=
  ∀ task ∈ later.tasks, ∀ uri language, task.work = .load uri language → task ∈ s.tasks

/-- To cancel a timer takes a task away at most. -/
theorem cancelTimer_tasks_subset (s : Services) (entry : Entry) :
    (s.cancelTimer entry).1.tasks ⊆ s.tasks := by
  unfold cancelTimer
  split
  · exact fun task htask => (List.mem_filter.1 htask).1
  · exact List.Subset.refl _

/-- A look that fails has cancelled the timer and has nothing else to do with tasks. -/
theorem treeNow_of_error {error : EngineError}
    (h : (s.treeNow parser doc entry).2.2 = .error error) :
    (s.treeNow parser doc entry).1.tasks = (s.cancelTimer entry).1.tasks ∧
      (s.treeNow parser doc entry).2.1.timer = entry.timer.cancelled := by
  cases hcurrent : entry.currentTree? doc.version with
  | some tree => rw [treeNow_of_current parser hcurrent] at h; exact nomatch h
  | none =>
    rw [treeNow_of_outdated parser hcurrent]
    -- The grammar is looked up when the timer has been cancelled, and no task comes of that either.
    have htasks := ((s.cancelTimer entry).1.grammarNow_tasks doc.language).1
    split
    · next heq =>
      rw [heq] at htasks
      exact ⟨htasks, s.cancelTimer_timer entry⟩
    · next later grammar heq =>
      rw [heq] at htasks
      unfold parseEntry
      dsimp only
      split <;> exact ⟨htasks, s.cancelTimer_timer entry⟩

/-- To schedule a reparse queues a timer, which is no load. -/
theorem schedule_startsNoLoad (s : Services) (uri : String) (entry : Entry) (delay : Nat) :
    s.StartsNoLoad (s.schedule uri entry delay).1 := by
  intro task htask other language hload
  unfold schedule at htask
  split at htask
  · dsimp only at htask
    -- The one task that is new wakes a timer.
    rcases List.mem_append.1 htask with hbefore | hnew
    · refine s.cancelTimer_tasks_subset entry ?_
      split at hbefore <;> exact hbefore
    · obtain rfl := List.mem_singleton.1 hnew
      exact nomatch hload
  · exact htask

/-- So a report starts no load, whether it is applied, dropped or stopped. -/
theorem report_startsNoLoad (s : Services) (uri : String) (entry : Entry) (version : Int)
    (changes : List Change) : s.StartsNoLoad (s.report uri entry version changes).1 := by
  have hends := s.report_ends uri entry version changes
  generalize s.report uri entry version changes = ending at hends ⊢
  cases hends with
  | @scheduled changed count _ _ =>
    exact (s.measure (·.recordEditsApplied count)).schedule_startsNoLoad uri changed _
  | applied _ _ => exact fun task htask _ _ _ => htask
  | dropped _ => exact fun task htask _ _ _ => htask
  | stopped _ => exact fun task htask _ _ _ => htask

end Services

namespace Workspace

variable {w : Workspace} {parser : Parser} {uri other : String} {entry : Entry}
  {doc : Document}

/-- A reparse of a uri is queued: its timer waits for a task, or a background load is under way that
    schedules it. -/
def Expects (w : Workspace) (uri : String) : Prop :=
  w.hasPendingReparse uri = true ∨ w.services.LoadUnderWay uri

/-- In an attended workspace a reparse is pending exactly if the timer of the entry waits for
    anything. -/
theorem Attended.pending_iff (attended : w.Attended) :
    w.hasPendingReparse uri = true ↔
      ∃ entry, w.entries.find? uri = some entry ∧ entry.timer.handle ≠ none := by
  unfold hasPendingReparse
  cases found : w.entries.find? uri with
  | none => simp
  | some entry =>
    rw [Option.any_some, Services.isPending_of_armed (attended.armed found)]
    simp

/-! ## Operations on one entry -/

/-- An operation on an open entry puts back what it makes of the entry. -/
theorem onEntry_eq_put {α : Type} (found : w.open? uri = some (entry, doc))
    (operation : Services → Document → Entry → Services × Entry × Except EngineError α) :
    (w.onEntry uri operation).1 =
      w.put uri (operation w.services doc entry).1 (operation w.services doc entry).2.1 := by
  unfold onEntry
  rw [found]

section Entries

variable {timer : Timer} {s : Services} {next : Entry}

/-- An operation on one entry that starts no load leaves all loads under way. -/
theorem loadUnderWay_iff (attended : w.Attended) (own : w.services.Armed uri timer)
    (tends : w.services.Tends uri timer s next.timer) (noLoad : w.services.StartsNoLoad s) :
    s.LoadUnderWay other ↔ w.services.LoadUnderWay other := by
  constructor
  -- A load after the operation was under way before it: nothing that could be one is new.
  · intro load
    refine load.mono ?_ ?_ ?_
    · exact fun task htask language hwork => noLoad task htask other language hwork
    · exact fun waiter hwaiter => by rw [tends.waiters] at hwaiter; exact hwaiter
    · exact fun attempt hattempt => by rw [tends.attempts] at hattempt; exact hattempt
  -- And one that was under way still is: the operation has taken away its own timer at most.
  · intro load
    refine load.mono ?_ ?_ ?_
    · exact fun task htask language hwork => attended.load_spared own tends htask hwork
    · exact fun waiter hwaiter => by rw [tends.waiters]; exact hwaiter
    · exact fun attempt hattempt => by rw [tends.attempts]; exact hattempt

/-- After an operation on its entry, a reparse of a uri is pending if the timer waits for anything. -/
theorem pending_put_iff (attended : w.Attended) (own : w.services.Armed uri timer)
    (tends : w.services.Tends uri timer s next.timer) :
    (w.put uri s next).hasPendingReparse uri = true ↔ next.timer.handle ≠ none := by
  rw [(attended.put own tends).pending_iff]
  show (∃ entry, (w.entries.insert uri next).find? uri = some entry ∧ _) ↔ _
  rw [Table.find?_insert_self]
  simp

/-- It leaves queued what was queued for the others, and queues nothing for them. -/
theorem expects_put_iff (attended : w.Attended) (own : w.services.Armed uri timer)
    (tends : w.services.Tends uri timer s next.timer) (noLoad : w.services.StartsNoLoad s)
    (elsewhere : other ≠ uri) : (w.put uri s next).Expects other ↔ w.Expects other := by
  have same : (w.put uri s next).entries.find? other = w.entries.find? other := by
    show (w.entries.insert uri next).find? other = _
    rw [Table.find?_insert, if_neg elsewhere]
  unfold Expects
  rw [(attended.put own tends).pending_iff, attended.pending_iff, same]
  exact or_congr_right (loadUnderWay_iff attended own tends noLoad)

end Entries

/-! ## Looks that fail -/

/-- A look at a tree that fails takes the place of the reparse that the timer of its document waits for:
    no timer is left.  A reparse is still queued exactly if a background load was under way that
    schedules it.  Nothing that is queued for other documents is lost. -/
theorem failed_look_cancels {config : Config} {dataHome : String} {libraries : Libraries}
    {moves : List Move} (reached : (create config dataHome libraries true).play parser moves = w)
    (found : w.open? uri = some (entry, doc)) {error : EngineError}
    (failed : (w.treeNow parser uri).2 = .error error) :
    (w.treeNow parser uri).1.hasPendingReparse uri = false ∧
      ((w.treeNow parser uri).1.Expects uri ↔ w.services.LoadUnderWay uri) ∧
      ∀ other, other ≠ uri → ((w.treeNow parser uri).1.Expects other ↔ w.Expects other) := by
  have kempt : w.Kempt := by
    rw [← reached]
    exact ((create_kempt config dataHome libraries).play parser moves).1
  have attended := kempt.attended
  have own := attended.armed (open?_eq_some.1 found).1
  have tends := w.services.treeNow_tends parser doc entry uri
  have error : (w.services.treeNow parser doc entry).2.2 = .error error := by
    rw [← failed, treeNow, onEntry_answer found]
  -- What a failed look leaves waiting is what the cancelled timer left, so no load is new.
  obtain ⟨htasks, htimer⟩ := Services.treeNow_of_error error
  have noLoad : w.services.StartsNoLoad (w.services.treeNow parser doc entry).1 := by
    intro task htask _ _ _
    rw [htasks] at htask
    exact w.services.cancelTimer_tasks_subset entry htask
  have after : (w.treeNow parser uri).1 = w.put uri _ _ := onEntry_eq_put found _
  rw [after]
  have quiet : (w.put uri (w.services.treeNow parser doc entry).1
      (w.services.treeNow parser doc entry).2.1).hasPendingReparse uri = false := by
    rw [Bool.eq_false_iff, Ne, pending_put_iff attended own tends, htimer]
    exact fun waits => waits rfl
  refine ⟨quiet, ?_, fun other => expects_put_iff attended own tends noLoad⟩
  unfold Expects
  rw [quiet, or_iff_right Bool.false_ne_true]
  exact loadUnderWay_iff attended own tends noLoad

/-- A document is opened whose text takes too long to parse. -/
def slowOpening : List Move := [
  .create "file:///a.js" "javascript" ['a', ';', 'b'],
  .openDocument 0]

/-- The look fails as the parse takes too long, and the reparse that was pending is gone. -/
theorem failed_look_cancels_slow :
    ∃ w entry doc error,
      (create {} "/home" {} true).play (.ofRecordings [] (some 2)) slowOpening = w ∧
      w.open? "file:///a.js" = some (entry, doc) ∧
      w.hasPendingReparse "file:///a.js" = true ∧
      (w.treeNow (.ofRecordings [] (some 2)) "file:///a.js").2 = .error error ∧
      (w.treeNow (.ofRecordings [] (some 2)) "file:///a.js").1.hasPendingReparse "file:///a.js" =
        false := by
  have hfound : ((create {} "/home" {} true).play (.ofRecordings [] (some 2)) slowOpening).open?
      "file:///a.js" = some (_, _) := rfl
  have hfailed : (((create {} "/home" {} true).play (.ofRecordings [] (some 2)) slowOpening).treeNow
      (.ofRecordings [] (some 2)) "file:///a.js").2 = .error _ := rfl
  -- That the look cancels is the theorem; all that is special here is found by running it.
  exact ⟨_, _, _, _, rfl, hfound, by decide, hfailed, (failed_look_cancels rfl hfound hfailed).1⟩

/-- A language with a grammar that is read from disk. -/
def libraryLanguage : Config := { languages := [{ id := "my_json" }] }

/-- The grammar of a language is asked for, and before it has come a document is opened. -/
def openedWhileLoading : List Move := [
  .create "file:///a.my" "my_json" ['1'],
  .request "my_json",
  .openDocument 0]

/-- A look at a tree while the grammar is being loaded leaves nothing queued: the load was not started
    for the document, and the timer that would have looked again is gone. -/
theorem failed_look_leaves_nothing :
    ∃ w, (create libraryLanguage "/home" {} true).play (.ofRecordings [] none)
        openedWhileLoading = w ∧
      w.services.registry.isSupported "my_json" = true ∧
      w.hasPendingReparse "file:///a.my" = true ∧
      (w.treeNow (.ofRecordings [] none) "file:///a.my").2 = .error (.grammarNotReady "my_json") ∧
      ¬ (w.treeNow (.ofRecordings [] none) "file:///a.my").1.Expects "file:///a.my" := by
  refine ⟨_, rfl, by decide, by decide, rfl, ?_⟩
  -- There are three ways in which a reparse could still be expected, and none of them is the case.
  rintro (hpending | ⟨task, htask, -⟩ | ⟨waiter, hwaiter, -⟩)
  · exact absurd hpending (by decide)
  · exact nomatch htask
  · exact nomatch hwaiter

/-! ## Reports -/

/-- What a report does that is applied: its document will be parsed, with all attempts before it. -/
structure Restarted (w : Workspace) (uri : String) : Prop where
  pending : w.hasPendingReparse uri = true
  afresh : ∃ entry, w.entries.find? uri = some entry ∧ entry.consecutiveFailures = 0

/-- The answer of a report is to the uri under which the entry is found. -/
theorem report_eq_put (found : w.open? uri = some (entry, doc)) (key : doc.uri = uri)
    (version : Int) (changes : List Change) :
    (w.report uri version changes).1 =
      w.put uri (w.services.report uri entry version changes).1
        (w.services.report uri entry version changes).2.1 := by
  unfold report
  rw [onEntry_eq_put found, key]

/-- A report of a later version than that of the kept tree restarts the scheduler. -/
theorem Kempt.report_of_behind (kempt : w.Kempt) (onEdit : w.services.config.scheduleOnEdit = true)
    (found : w.open? uri = some (entry, doc)) {version : Int} (behind : entry.Behind version)
    {changes : List Change} (fits : ∀ change ∈ changes, change.Fits) :
    (w.report uri version changes).1.Restarted uri := by
  obtain ⟨kept, hkept, hlt⟩ := behind
  have own := kempt.attended.armed (open?_eq_some.1 found).1
  have tends := w.services.report_tends uri entry version changes
  -- A kept tree has a version, so there is a tree that the changes are applied to.
  cases hprevious : entry.previous with
  | none =>
    rw [(kempt.coherent.coherent found).previous_iff.1 hprevious] at hkept
    exact nomatch hkept
  | some previous =>
    have happlied := Entry.applyChanges_of_newer hprevious hkept (Int.not_le.2 hlt) fits
    obtain ⟨id, -, hhandle⟩ := Services.report_handle kempt.runtime onEdit uri happlied
    have hfailures : (w.services.report uri entry version changes).2.1.consecutiveFailures = 0 := by
      have huntimed := w.services.report_untimed uri entry version changes
      rw [happlied] at huntimed
      exact congrArg Entry.consecutiveFailures huntimed
    rw [report_eq_put found (kempt.coherent.uri_eq found)]
    refine ⟨?_, _, Table.find?_insert_self _ _ _, hfailures⟩
    rw [pending_put_iff kempt.attended own tends, hhandle]
    exact Option.some_ne_none id

/-- A report that is dropped leaves queued what was queued. -/
theorem Kempt.report_of_not_behind (kempt : w.Kempt) (found : w.open? uri = some (entry, doc))
    {version : Int} (reached : ¬ entry.Behind version) (changes : List Change) :
    (w.report uri version changes).1.Expects uri ↔ w.Expects uri := by
  have own := kempt.attended.armed (open?_eq_some.1 found).1
  have tends := w.services.report_tends uri entry version changes
  -- It is dropped for lack of a tree, or because the kept tree includes it.
  have dropped : entry.applyChanges changes version = (entry, .dropped changes.length) := by
    cases hkept : entry.previousVersion with
    | none =>
      exact entry.applyChanges_of_none changes version
        ((kempt.coherent.coherent found).previous_iff.2 hkept)
    | some kept =>
      refine entry.applyChanges_of_reached changes hkept (Int.not_lt.1 fun hlt => ?_)
      exact reached ⟨kept, hkept, hlt⟩
  have same : (w.services.report uri entry version changes).2.1 = entry := by
    unfold Services.report
    rw [dropped]
  rw [report_eq_put found (kempt.coherent.uri_eq found)]
  unfold Expects
  rw [pending_put_iff kempt.attended own tends, kempt.attended.pending_iff, same,
    (open?_eq_some.1 found).1]
  refine or_congr (by simp) (loadUnderWay_iff kempt.attended own tends ?_)
  exact w.services.report_startsNoLoad uri entry version changes

/-- After a report a reparse is queued if the report was applied, or if one was queued before. -/
theorem Kempt.report_expects_iff (kempt : w.Kempt)
    (onEdit : w.services.config.scheduleOnEdit = true) (found : w.open? uri = some (entry, doc))
    (version : Int) {changes : List Change} (fits : ∀ change ∈ changes, change.Fits) :
    (w.report uri version changes).1.Expects uri ↔ entry.Behind version ∨ w.Expects uri := by
  by_cases behind : entry.Behind version
  · have restarted := kempt.report_of_behind onEdit found behind fits
    exact ⟨fun _ => .inl behind, fun _ => .inl restarted.pending⟩
  · rw [kempt.report_of_not_behind found behind, or_iff_right behind]

/-- A revision is an alteration and then its report. -/
theorem revise_eq_report (found : w.open? uri = some (entry, doc)) {alteration : Alteration}
    {next : Document} {changes : List Change}
    (altered : doc.alter? alteration = some (next, changes)) :
    w.revise entry.document alteration =
        ((w.alter entry.document alteration).report next.uri next.version changes).1 ∧
      (w.alter entry.document alteration).open? uri = some (entry, next) := by
  obtain ⟨hentry, hdoc⟩ := open?_eq_some.1 found
  have halter : w.alter entry.document alteration =
      { w with documents := w.documents.set entry.document next } := by
    unfold alter
    rw [hdoc, Option.bind_some, altered]
  refine ⟨?_, ?_⟩
  · rw [halter]
    unfold revise
    rw [hdoc, Option.bind_some, altered]
  · rw [halter]
    exact open?_eq_some.2 ⟨hentry, List.getElem?_set_self (List.getElem?_eq_some_iff.1 hdoc).1⟩

/-- An edit that is reported at once restarts the scheduler if the kept tree is of an earlier version,
    and otherwise leaves queued what was queued. -/
theorem Kempt.revise_expects_iff (kempt : w.Kempt) (parser : Parser)
    (onEdit : w.services.config.scheduleOnEdit = true) (found : w.open? uri = some (entry, doc))
    {alteration : Alteration} {next : Document} {changes : List Change}
    (altered : doc.alter? alteration = some (next, changes)) (small : doc.text.SmallAlong changes) :
    ((w.revise entry.document alteration).Expects uri ↔
        entry.Behind next.version ∨ w.Expects uri) ∧
      (entry.Behind next.version → (w.revise entry.document alteration).Restarted uri) := by
  have fits := (Document.revision_of_alter? altered).fits small
  obtain ⟨hrevise, hopen⟩ := revise_eq_report found altered
  have halter : (w.alter entry.document alteration).Kempt :=
    kempt.move parser (.alter entry.document alteration)
  have hservices : (w.alter entry.document alteration).services = w.services := by
    unfold alter
    split <;> rfl
  have honEdit : (w.alter entry.document alteration).services.config.scheduleOnEdit = true := by
    rw [hservices]
    exact onEdit
  -- The alteration by itself queues nothing.
  have hsame : (w.alter entry.document alteration).Expects uri ↔ w.Expects uri := by
    unfold Expects hasPendingReparse
    rw [hservices, (open?_eq_some.1 hopen).1, (open?_eq_some.1 found).1]
  rw [hrevise, halter.coherent.uri_eq hopen]
  refine ⟨?_, fun behind => halter.report_of_behind honEdit hopen behind fits⟩
  rw [halter.report_expects_iff honEdit hopen next.version fits, hsame]

/-- As long as no report is ahead of its document, all entries are punctual. -/
theorem play_punctual {config : Config} {dataHome : String} {libraries : Libraries}
    {runtime : Bool} {moves : List Move}
    (timely : Ledger.Along Ledger.Timely {}
      ((create config dataHome libraries runtime).playDoings parser moves)) :
    ((create config dataHome libraries runtime).play parser moves).AllPunctual := by
  obtain ⟨trace, run, hdoings⟩ :=
    play_reaches parser (create config dataHome libraries runtime) moves
  refine (run.punctual ?_).2.2
  -- What the engine does by itself is always timely, so only what the host does matters.
  rw [Ledger.along_iff_doings (fun _ => trivial) fun _ _ _ _ => trivial, hdoings]
  exact timely

/-- A report with the version of its document restarts the scheduler if the kept tree is of an earlier
    version.  Any other report leaves queued what was queued, and nothing more.  So an edit that is
    reported at once restarts the scheduler, even one that has given up, as long as there is a tree and
    no report was ahead of the document. -/
theorem report_restarts {config : Config} (onEdit : config.scheduleOnEdit = true)
    {dataHome : String} {libraries : Libraries} {moves : List Move}
    (reached : (create config dataHome libraries true).play parser moves = w)
    (found : w.open? uri = some (entry, doc)) :
    (∀ changes : List Change, (∀ change ∈ changes, change.Fits) →
      ((w.report uri doc.version changes).1.Expects uri ↔
        entry.Behind doc.version ∨ w.Expects uri) ∧
      (entry.Behind doc.version → (w.report uri doc.version changes).1.Restarted uri)) ∧
    ∀ alteration next changes, doc.alter? alteration = some (next, changes) →
      doc.text.SmallAlong changes →
      ((w.revise entry.document alteration).Expects uri ↔
        entry.Behind next.version ∨ w.Expects uri) ∧
      (Ledger.Along Ledger.Timely {}
          ((create config dataHome libraries true).playDoings parser moves) →
        entry.state ≠ .noTree → (w.revise entry.document alteration).Restarted uri) := by
  obtain ⟨kempt, hconfig, -⟩ := (create_kempt config dataHome libraries).play parser moves
  rw [reached] at kempt hconfig
  have honEdit : w.services.config.scheduleOnEdit = true := by
    rw [hconfig]
    exact onEdit
  constructor
  · intro changes fits
    exact ⟨kempt.report_expects_iff honEdit found doc.version fits,
      fun behind => kempt.report_of_behind honEdit found behind fits⟩
  · intro alteration next changes altered small
    obtain ⟨hexpects, hrestarted⟩ := kempt.revise_expects_iff parser honEdit found altered small
    refine ⟨hexpects, fun timely tree => hrestarted ?_⟩
    have hpunctual : w.AllPunctual := by
      rw [← reached]
      exact play_punctual timely
    have hversion := (Document.revision_of_alter? altered).version
    exact (hpunctual.punctual found).behind tree (by omega)

/-- Settings under which one failure is enough. -/
def noRetries : Config := { maxParseRetries := 0 }

/-- A document has a tree and is then edited, and the scheduler gives up on the longer text. -/
def givenUpStale : List Move := [
  .create "file:///a.js" "javascript" ['a', ';'],
  .openDocument 0,
  .treeNow "file:///a.js",
  .revise 0 (.edits [.insert 0 ['b']]),
  .run ⟨1, 1000, .reparse "file:///a.js" 5⟩]

/-- After the scheduler has given up on a document with a tree, an edit that is reported restarts
    it. -/
theorem report_restarts_stale :
    ∃ w entry doc,
      (create noRetries "/home" {} true).play (.ofRecordings [] (some 2)) givenUpStale = w ∧
      w.open? "file:///a.js" = some (entry, doc) ∧
      noRetries.maxParseRetries < entry.consecutiveFailures ∧
      w.hasPendingReparse "file:///a.js" = false ∧
      (w.revise entry.document (.edits [.insert 0 ['c']])).Restarted "file:///a.js" := by
  have hfound : ((create noRetries "/home" {} true).play (.ofRecordings [] (some 2))
      givenUpStale).open? "file:///a.js" = some (_, _) := rfl
  refine ⟨_, _, _, rfl, hfound, by decide, by decide, ?_⟩
  refine ((report_restarts rfl rfl hfound).2 (.edits [.insert 0 ['c']]) _ _ rfl ?_).2 ?_ ?_
  · exact ⟨by decide, (by decide : _ < _)⟩
  · refine ⟨trivial, trivial, trivial, ?_, trivial⟩
    rintro place ⟨⟩
    decide
  · decide

/-- The scheduler gives up on a document that never had a tree. -/
def givenUpTreeless : List Move := [
  .create "file:///a.js" "javascript" ['a', ';', 'b'],
  .loadBlocking "javascript",
  .openDocument 0,
  .run ⟨0, 0, .reparse "file:///a.js" 2⟩]

/-- An edit of a document without a tree does not restart the scheduler. -/
theorem treeless_edit_queues_nothing :
    ∃ w, (create noRetries "/home" {} true).play (.ofRecordings [] (some 2)) givenUpTreeless = w ∧
      w.services.config.scheduleOnEdit = true ∧
      w.services.registry.isSupported "javascript" = true ∧
      ((w.revise 0 (.edits [.insert 0 ['c']])).open? "file:///a.js").map (·.2.version) = some 1 ∧
      ¬ (w.revise 0 (.edits [.insert 0 ['c']])).Expects "file:///a.js" := by
  refine ⟨_, rfl, by decide, by decide, by decide, ?_⟩
  rintro (hpending | ⟨task, htask, -⟩ | ⟨waiter, hwaiter, -⟩)
  · exact absurd hpending (by decide)
  · exact nomatch htask
  · exact nomatch hwaiter

end Workspace

end LiveTree
