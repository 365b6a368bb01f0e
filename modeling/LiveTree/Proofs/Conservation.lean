import LiveTree.Proofs.Alarms

/-!
# The books of all timers

`Workspace.tally` says of every move how often it calls for a timer to be set, whether a timer fires in
it, and how many timers it cancels.  Whatever is done in whatever order, the calls that were ever made
are the timers that have fired, those that were replaced, those that were cancelled, and those that are
pending now.

Tasks may run at any time, due or not, and in any order.  The one thing that is assumed is that a task
that was dropped never runs: a timer wakes up by its task alone, or else in a generation that is over.

## Key results

- `Workspace.move_booked`: one move keeps the books, and does not reach what it does not touch
- `Workspace.play_booked`: a sequence of moves keeps them
- `timers_conserved`: every queued timer is the one of an open document, and the books are balanced
-/

namespace LiveTree.Workspace

variable {parser : Parser} {w later : Workspace} {uri : String}

/-- The tally of an operation on the open entry of a uri. -/
def tallyOn (w : Workspace) (uri : String) (tally : Entry → Document → Tally) : Tally :=
  match w.open? uri with
  | none => {}
  | some (entry, doc) => tally entry doc

/-- A report calls for a timer as its entry tells. -/
def tallyOfReport (w : Workspace) (uri : String) (version : Int) (changes : List Change) : Tally :=
  w.tallyOn uri fun entry _ => { scheduled := w.services.reportCalls entry version changes }

/-- A revision that is reported calls for a timer as its report does, in the document that it leads
    to. -/
def tallyOfRevise (w : Workspace) (id : DocumentId) (alteration : Alteration) : Tally :=
  match (w.documents[id]?).bind (·.alter? alteration) with
  | none => {}
  | some (next, changes) =>
    { w with documents := w.documents.set id next }.tallyOfReport next.uri next.version changes

/-- An opening cancels the timer of what was open there. -/
def tallyOfOpen (w : Workspace) (id : DocumentId) : Tally :=
  match w.documents[id]? with
  | none => {}
  | some doc => { scheduled := 1, cancelled := (w.timer doc.uri).handle.isSome.toNat }

/-- A look at a tree that is out of date cancels the timer. -/
def tallyOfLook (w : Workspace) (uri : String) : Tally :=
  w.tallyOn uri fun entry doc => { cancelled := Services.lookCancels doc entry }

/-- A background load schedules its document if the grammar is there. -/
def tallyOfLoad (w : Workspace) (uri language : String) : Tally :=
  match (w.requestGrammar language).2 with
  | .ready _ => { scheduled := (w.entries.contains uri).toNat }
  | _ => {}

/-- A task that is queued wakes its timer or loads its grammar; one that is not does nothing. -/
def tallyOfRun (parser : Parser) (w : Workspace) (task : Task) : Tally :=
  if task ∈ w.services.tasks then
    match task.work with
    | .reparse uri _ =>
      { w.tallyOn uri fun entry doc =>
          { scheduled := (w.services.abort task.id).fireCalls parser doc entry } with
        fired := 1 }
    | .load uri language => w.tallyOfLoad uri language
  else {}

/-- When an attempt ends well, a caller looks at its tree, and all documents are scheduled that have
    waited in the background and are still open. -/
def tallyOfFinish (w : Workspace) (language : String) (caller : Option String) : Tally :=
  match (w.completeLoad language).2 with
  | some (.ok _) =>
    caller.elim {} w.tallyOfLook +
      { scheduled := (w.services.waiters.filter (·.language == language)).countP
          fun waiter => w.entries.contains waiter.uri }
  | _ => {}

/-- What a move does to timers. -/
def tally (parser : Parser) (w : Workspace) : Move → Tally
  | .openDocument id => w.tallyOfOpen id
  | .close uri => { cancelled := (w.timer uri).handle.isSome.toNat }
  | .report uri version changes => w.tallyOfReport uri version changes
  | .revise id alteration => w.tallyOfRevise id alteration
  | .treeNow uri | .verify uri => w.tallyOfLook uri
  | .reparseNow uri =>
    w.tallyOn uri fun entry doc =>
      { scheduled := w.services.reparseCalls doc entry
        cancelled := entry.timer.handle.isSome.toNat }
  | .activate uri =>
    w.tallyOn uri fun entry doc => { scheduled := (entry.currentTree? doc.version).isNone.toNat }
  | .scheduleReparse uri => w.tallyOn uri fun _ _ => { scheduled := 1 }
  | .backgroundLoad uri language => w.tallyOfLoad uri language
  | .run task => w.tallyOfRun parser task
  | .finish language caller => w.tallyOfFinish language caller
  | .create _ _ _ | .alter _ _ | .loadBlocking _ | .request _ | .wake _ _ | .aside _ => {}

/-- The uris whose entries a move may reach. -/
def touched (w : Workspace) : Move → List String
  | .openDocument id | .revise id _ => ((w.documents[id]?).map (·.uri)).toList
  | .close uri | .report uri _ _ | .treeNow uri | .reparseNow uri | .verify uri | .activate uri
  | .scheduleReparse uri | .wake uri _ | .backgroundLoad uri _ => [uri]
  | .run task => [task.work.uri]
  | .finish language caller =>
    caller.toList ++ (w.services.waiters.filter (·.language == language)).map (·.uri)
  | .create _ _ _ | .alter _ _ | .loadBlocking _ | .request _ | .aside _ => []

/-- A timer does not wake up by itself in the generation that it is in: only the task that it waits for
    wakes it. -/
def Lawful (w : Workspace) : Move → Prop
  | .wake uri generation =>
    ∀ entry, w.entries.find? uri = some entry → entry.timer.generation ≠ generation
  | _ => True

/-! ## Operations on one entry -/

/-- An operation on the open entry of a uri; if nothing is open there, nothing happens. -/
theorem Tidy.onEntry {α : Type} (tidy : w.Tidy) {tally : Entry → Document → Tally}
    {operation : Services → Document → Entry → Services × Entry × Except EngineError α}
    (h : ∀ entry doc, w.open? uri = some (entry, doc) → w.services.Holds uri entry.timer →
      w.services.Accounts uri entry.timer (tally entry doc) (operation w.services doc entry).1
        (operation w.services doc entry).2.1.timer) :
    w.Accounts [uri] (w.tallyOn uri tally) (w.onEntry uri operation).1 := by
  unfold Workspace.onEntry tallyOn
  cases hopen : w.open? uri with
  | none => exact (Accounts.refl tidy).mono (List.nil_subset _)
  | some found =>
    obtain ⟨entry, doc⟩ := found
    -- The entry that is found is the one whose timer the books are about.
    have hfound := (open?_eq_some.1 hopen).1
    refine tidy.put ?_
    rw [timer_of_find? hfound]
    exact h entry doc hopen (tidy.holds hfound)

/-- A tree on demand accounts for its look. -/
theorem treeNow_accounts (tidy : w.Tidy) (parser : Parser) (uri : String) :
    w.Accounts [uri] (w.tallyOfLook uri) (w.treeNow parser uri).1 :=
  tidy.onEntry fun _ doc _ holds => Services.treeNow_accounts holds parser doc

/-- A report accounts for the timer that it calls for. -/
theorem report_accounts (tidy : w.Tidy) (coherent : w.AllCoherent) (uri : String) (version : Int)
    (changes : List Change) :
    w.Accounts [uri] (w.tallyOfReport uri version changes) (w.report uri version changes).1 := by
  refine tidy.onEntry fun entry doc hopen holds => ?_
  rw [coherent.uri_eq hopen]
  exact Services.report_accounts holds version changes

/-- A reparse on demand cancels first, and accounts for both. -/
theorem reparseNow_accounts (tidy : w.Tidy) (coherent : w.AllCoherent) (parser : Parser)
    (uri : String) :
    w.Accounts [uri] (w.tally parser (.reparseNow uri)) (w.reparseNow parser uri).1 := by
  refine tidy.onEntry fun entry doc hopen holds => ?_
  -- The document is the one under this uri, so the scheduled path sets the same timer.
  obtain rfl := coherent.uri_eq hopen
  have hcancel := Services.cancelTimer_accounts holds
  have hreparse := hcancel.trans (Services.reparse_accounts hcancel.holds parser)
  -- Whether a load is under way does not depend on the timer.
  have hcalls : (w.services.cancelTimer entry).1.reparseCalls doc
      (w.services.cancelTimer entry).2.1 = w.services.reparseCalls doc entry := by
    unfold Services.cancelTimer
    split <;> rfl
  rw [hcalls] at hreparse
  rw [Tally.add_scheduled rfl] at hreparse
  exact hreparse

/-- Activating a uri accounts for a timer if the tree is out of date. -/
theorem activate_accounts (tidy : w.Tidy) (coherent : w.AllCoherent) (uri : String) :
    w.Accounts [uri]
      (w.tallyOn uri fun entry doc => { scheduled := (entry.currentTree? doc.version).isNone.toNat })
      (w.activate uri).1 := by
  refine tidy.onEntry fun entry doc hopen holds => ?_
  rw [coherent.uri_eq hopen]
  cases entry.currentTree? doc.version with
  | some tree => exact .refl holds
  | none => exact Services.schedule_accounts holds 0

/-- Asking for a reparse later accounts for one timer. -/
theorem scheduleReparse_accounts (tidy : w.Tidy) (coherent : w.AllCoherent) (uri : String) :
    w.Accounts [uri] (w.tallyOn uri fun _ _ => { scheduled := 1 }) (w.scheduleReparse uri).1 := by
  refine tidy.onEntry fun entry doc hopen holds => ?_
  rw [coherent.uri_eq hopen]
  exact Services.schedule_accounts holds _

/-- Scheduling what is open accounts for one timer, if the uri is open. -/
theorem scheduleIfOpen_accounts (tidy : w.Tidy) (uri : String) (delay : Nat) :
    w.Accounts [uri] { scheduled := (w.entries.contains uri).toNat } (w.scheduleIfOpen uri delay) := by
  unfold scheduleIfOpen Table.contains
  cases hfound : w.entries.find? uri with
  | none => exact (Accounts.refl tidy).mono (List.nil_subset _)
  | some entry =>
    refine tidy.put ?_
    rw [timer_of_find? hfound]
    exact Services.schedule_accounts (tidy.holds hfound) delay

/-! ## Opening and closing -/

/-- Opening accounts for one timer, and for cancelling the one that was there. -/
theorem openDocument_accounts (tidy : w.Tidy) (id : DocumentId) :
    w.Accounts (w.touched (.openDocument id)) (w.tallyOfOpen id) (w.openDocument id) := by
  unfold openDocument tallyOfOpen
  cases hdoc : w.documents[id]? with
  | none => exact (Accounts.refl tidy).mono (List.nil_subset _)
  | some doc =>
    have htouched : w.touched (.openDocument id) = [doc.uri] := by
      show ((w.documents[id]?).map _).toList = _
      rw [hdoc]
      rfl
    rw [htouched]
    dsimp only
    cases hfound : w.entries.find? doc.uri with
    | none =>
      refine tidy.put ?_
      -- A closed uri has a timer that was never set, as the new entry has.
      have hholds := tidy doc.uri
      rw [timer_of_closed hfound] at hholds ⊢
      exact Services.schedule_accounts
        (show w.services.Holds doc.uri ({ document := id } : Entry).timer from hholds) 0
    | some previous =>
      refine tidy.put ?_
      rw [timer_of_find? hfound]
      -- The timer of the new entry has never waited for anything.
      have hnone : (w.services.cancelTimer previous).2.1.timer.handle = none := by
        rw [Services.cancelTimer_timer]
        rfl
      have hcancel := (Services.cancelTimer_accounts (tidy.holds hfound)).renew hnone
        (show ({} : Timer).handle = none from rfl)
      have hschedule := hcancel.trans (Services.schedule_accounts
        (show Services.Holds _ doc.uri ({ document := id } : Entry).timer from hcancel.holds) 0)
      exact hschedule

/-- Closing accounts for cancelling the timer, if one was waiting. -/
theorem close_accounts (tidy : w.Tidy) (uri : String) :
    w.Accounts [uri] { cancelled := (w.timer uri).handle.isSome.toNat } (w.close uri).1 := by
  unfold close
  cases hfound : w.entries.find? uri with
  | none =>
    rw [timer_of_closed hfound]
    exact (Accounts.refl tidy).mono (List.nil_subset _)
  | some entry =>
    -- Cancelled or not, the timer waits for nothing when its entry goes.
    have hnone : (w.services.cancelTimer entry).2.1.timer.handle = none := by
      rw [Services.cancelTimer_timer]
      rfl
    have hcancel := Services.cancelTimer_accounts (tidy.holds hfound)
    rw [← timer_of_find? hfound] at hcancel
    exact tidy.erase hcancel hnone

/-! ## Loads and tasks -/

/-- Asking for a grammar does nothing to timers. -/
theorem requestGrammar_accounts (tidy : w.Tidy) (language : String) :
    w.Accounts [] {} (w.requestGrammar language).1 :=
  .of_tasks tidy rfl rfl rfl rfl rfl rfl

/-- A background load accounts for one timer if the grammar is at hand. -/
theorem backgroundLoad_accounts (tidy : w.Tidy) (uri language : String) :
    w.Accounts [uri] (w.tallyOfLoad uri language) (w.backgroundLoad uri language) := by
  have hrequest := requestGrammar_accounts tidy language
  have hentries : (w.requestGrammar language).1.entries = w.entries := rfl
  unfold backgroundLoad tallyOfLoad
  cases hreply : w.requestGrammar language with
  | mk asked reply =>
  rw [hreply] at hrequest hentries
  cases reply with
  -- The grammar is at hand, so the document is scheduled if it is open.
  | ready grammar =>
    have hschedule := hrequest.trans (scheduleIfOpen_accounts hrequest.tidy uri 0)
    rw [hentries] at hschedule
    rw [Tally.empty_add] at hschedule
    exact hschedule
  | failed error => exact hrequest.mono (List.nil_subset _)
  | waiting =>
    have hwait : asked.Accounts [] {} { asked with
        services := { asked.services with waiters := asked.services.waiters ++ [⟨language, uri⟩] } } :=
      .of_tasks hrequest.tidy rfl rfl rfl rfl rfl rfl
    exact (hrequest.trans hwait).mono (List.nil_subset _)

/-- A load that runs was to wake no timer. -/
theorem abort_accounts (tidy : w.Tidy) {task : Task} (htask : task ∈ w.services.tasks)
    {language : String} (hwork : task.work = .load uri language) :
    w.Accounts [] {} { w with services := w.services.abort task.id } := by
  -- No alarm has the name of the task, since alarms reparse.
  have halarms (other : String) :
      (w.services.abort task.id).alarms other = w.services.alarms other := by
    rw [Services.alarms_abort, List.filter_eq_self]
    intro alarm halarm
    obtain ⟨hmem, hwakes⟩ := Services.mem_alarms.1 halarm
    obtain ⟨generation, hreparse⟩ := Task.wakes_iff.1 hwakes
    rw [decide_eq_true_eq]
    intro hid
    obtain rfl := (tidy other).queued.distinct alarm hmem task htask hid
    exact nomatch hwork.symm.trans hreparse
  refine ⟨fun other => ⟨(tidy other).queued.abort task.id, ?_⟩, rfl, rfl, fun other _ => ?_,
    (UInt64.add_zero _).symm, 0, (UInt64.add_zero _).symm, rfl⟩
  · rw [halarms]
    exact (tidy other).alarms
  · exact ⟨rfl, halarms other⟩

/-- Every task that would wake a timer belongs to an open document, whose timer waits for it. -/
theorem Tidy.open?_of_task (tidy : w.Tidy) (coherent : w.AllCoherent) {task : Task}
    (htask : task ∈ w.services.tasks) {generation : Nat}
    (hwork : task.work = .reparse uri generation) :
    ∃ entry doc, w.open? uri = some (entry, doc) ∧ doc.uri = uri ∧
      entry.timer = ⟨some task.id, generation⟩ := by
  -- The task is the one that the timer of the uri waits for, so the uri has a timer.
  have htimer := (tidy uri).handle_of_mem htask hwork
  cases hfound : w.entries.find? uri with
  | none =>
    rw [timer_of_closed hfound] at htimer
    exact nomatch congrArg Timer.handle htimer
  | some entry =>
    rw [timer_of_find? hfound] at htimer
    obtain ⟨doc, hdoc, huri, -⟩ := coherent uri entry hfound
    exact ⟨entry, doc, open?_eq_some.2 ⟨hfound, hdoc⟩, huri, htimer⟩

/-- A timer that is woken by its task is claimed. -/
theorem runTask_of_reparse {task : Task} {entry : Entry} {doc : Document} {generation : Nat}
    (found : w.open? uri = some (entry, doc)) (hwork : task.work = .reparse uri generation)
    (htimer : entry.timer = ⟨some task.id, generation⟩) (parser : Parser) :
    w.runTask parser task =
      w.put uri ((w.services.abort task.id).fire parser doc entry entry.timer.generation).1
        ((w.services.abort task.id).fire parser doc entry entry.timer.generation).2 := by
  have hopen : open? { w with services := w.services.abort task.id } uri = some (entry, doc) := found
  unfold runTask timerFired
  dsimp only
  rw [hwork]
  dsimp only
  rw [hopen, htimer]
  rfl

/-- A task that runs accounts for a timer that fires, or for a load. -/
theorem run_accounts (tidy : w.Tidy) (coherent : w.AllCoherent) (parser : Parser) (task : Task) :
    w.Accounts [task.work.uri] (w.tallyOfRun parser task) (w.move parser (.run task)) := by
  show w.Accounts _ _ (if task ∈ w.services.tasks then w.runTask parser task else w)
  unfold tallyOfRun
  by_cases htask : task ∈ w.services.tasks
  · rw [if_pos htask, if_pos htask]
    cases hwork : task.work with
    | reparse uri generation =>
      -- The timer waits for this very task, so the wake-up is in its generation.
      obtain ⟨entry, doc, found, rfl, htimer⟩ := tidy.open?_of_task coherent htask hwork
      have hentry := (open?_eq_some.1 found).1
      rw [runTask_of_reparse found hwork htimer]
      have htally : w.tallyOn doc.uri (fun entry doc =>
          { scheduled := (w.services.abort task.id).fireCalls parser doc entry }) =
          { scheduled := (w.services.abort task.id).fireCalls parser doc entry } := by
        unfold tallyOn
        rw [found]
      dsimp only
      rw [htally]
      refine tidy.put ?_
      show w.services.Accounts doc.uri (w.timer doc.uri) _ _ _
      rw [timer_of_find? hentry]
      exact Services.fire_accounts (tidy.holds hentry) (by rw [htimer]) parser
    | load uri language =>
      -- The load is dropped from the queue before it is done.
      have habort := abort_accounts tidy htask hwork
      have hload := habort.trans (backgroundLoad_accounts habort.tidy uri language)
      unfold runTask
      rw [hwork]
      rw [Tally.empty_add] at hload
      exact hload
  · rw [if_neg htask, if_neg htask]
    exact (Accounts.refl tidy).mono (List.nil_subset _)


/-! ## Attempts that end -/

/-- Scheduling neither opens nor closes anything. -/
theorem scheduleIfOpen_contains (w : Workspace) (uri other : String) (delay : Nat) :
    (w.scheduleIfOpen uri delay).entries.contains other = w.entries.contains other := by
  unfold scheduleIfOpen Table.contains
  cases hfound : w.entries.find? uri with
  | none => rfl
  | some entry =>
    show ((w.entries.insert uri _).find? other).isSome = _
    rw [Table.find?_insert]
    split
    · next heq => rw [heq, hfound]; rfl
    · rfl

/-- All documents that have waited and are open are scheduled, one after the other. -/
theorem foldl_schedule_accounts (tidy : w.Tidy) (waiters : List Waiter) :
    w.Accounts (waiters.map (·.uri))
      { scheduled := waiters.countP fun waiter => w.entries.contains waiter.uri }
      (waiters.foldl (fun w waiter => w.scheduleIfOpen waiter.uri 0) w) := by
  induction waiters generalizing w with
  | nil => exact .refl tidy
  | cons first rest ih =>
    have hfirst := scheduleIfOpen_accounts tidy first.uri 0
    have hall := hfirst.trans (ih hfirst.tidy)
    -- Scheduling one document neither opens nor closes another.
    simp only [scheduleIfOpen_contains] at hall
    rw [List.countP_cons, Nat.add_comm]
    cases hopen : w.entries.contains first.uri with
    | true => rw [hopen] at hall; exact hall
    | false => rw [hopen] at hall; exact hall

/-- Those that wait for a language are scheduled if its grammar has come. -/
theorem resumeWaiters_accounts (tidy : w.Tidy) (language : String)
    (outcome : Except GrammarError Grammar) :
    w.Accounts ((w.services.waiters.filter (·.language == language)).map (·.uri))
      (match outcome with
      | .ok _ =>
        { scheduled := (w.services.waiters.filter (·.language == language)).countP
            fun waiter => w.entries.contains waiter.uri }
      | .error _ => {})
      (w.resumeWaiters language outcome) := by
  -- They no longer wait, whatever the outcome.
  have hdismissed : w.Accounts [] {} { w with services := { w.services with
      waiters := w.services.waiters.filter (·.language ≠ language) } } :=
    .of_tasks tidy rfl rfl rfl rfl rfl rfl
  unfold resumeWaiters
  cases outcome with
  | ok grammar =>
    have hall := hdismissed.trans (foldl_schedule_accounts hdismissed.tidy
      (w.services.waiters.filter (·.language == language)))
    rw [Tally.empty_add] at hall
    exact hall
  | error error => exact hdismissed.mono (List.nil_subset _)

/-- A look at a tree opens and closes nothing, and nobody waits for it. -/
theorem treeNow_contains (w : Workspace) (parser : Parser) (uri other : String) :
    (w.treeNow parser uri).1.entries.contains other = w.entries.contains other := by
  unfold treeNow onEntry Table.contains
  cases hopen : w.open? uri with
  | none => rfl
  | some found =>
    show ((w.entries.insert uri _).find? other).isSome = _
    rw [Table.find?_insert]
    split
    · next heq => rw [heq, (open?_eq_some.1 hopen).1]; rfl
    · rfl

/-- The end of an attempt accounts for the look of its caller and for those that wait. -/
theorem finish_accounts (tidy : w.Tidy) (parser : Parser) (language : String)
    (caller : Option String) :
    w.Accounts (w.touched (.finish language caller)) (w.tallyOfFinish language caller)
      (w.finish parser language caller) := by
  have hcomplete : w.Accounts [] {} (w.completeLoad language).1 :=
    .of_tasks tidy rfl rfl rfl rfl rfl rfl
  -- Completing an attempt touches neither entries nor waiters.
  have hopen (uri : String) : (w.completeLoad language).1.open? uri = w.open? uri := rfl
  have hentries : (w.completeLoad language).1.entries = w.entries := rfl
  have hwaiters : (w.completeLoad language).1.services.waiters = w.services.waiters := rfl
  show w.Accounts (caller.toList ++ _) _ _
  unfold finish tallyOfFinish
  cases hended : w.completeLoad language with
  | mk ended outcome =>
  rw [hended] at hcomplete hopen hentries hwaiters
  dsimp only at hcomplete hopen hentries hwaiters ⊢
  have hresume (outcome : Except GrammarError Grammar) :=
    hcomplete.trans (resumeWaiters_accounts hcomplete.tidy language outcome)
  rw [hwaiters, hentries] at hresume
  match outcome with
  | none => exact (hresume (.error (.pending language))).mono (List.subset_append_right _ _)
  | some (.error error) =>
    -- A caller is told of the failure and does not look.
    have hlook : ended.lookAfter parser (.error error) caller = ended := by cases caller <;> rfl
    dsimp only
    rw [hlook]
    exact (hresume (.error error)).mono (List.subset_append_right _ _)
  | some (.ok grammar) =>
    have hlook : ended.Accounts caller.toList (caller.elim {} w.tallyOfLook)
        (ended.lookAfter parser (.ok grammar) caller) := by
      cases caller with
      | none => exact .refl hcomplete.tidy
      | some uri =>
        have hlook := treeNow_accounts hcomplete.tidy parser uri
        unfold tallyOfLook tallyOn at hlook
        rw [hopen] at hlook
        exact hlook
    -- Looking opens and closes nothing, and those that wait do so still.
    have hcontains (uri : String) : (ended.lookAfter parser (.ok grammar) caller).entries.contains
        uri = w.entries.contains uri := by
      rw [← hentries]
      cases caller with
      | none => rfl
      | some own => exact ended.treeNow_contains parser own uri
    have hwaiting : (ended.lookAfter parser (.ok grammar) caller).services.waiters =
        w.services.waiters := by
      rw [← hwaiters]
      cases caller with
      | none => rfl
      | some own =>
        exact (onEntry_steady fun entry doc =>
          (ended.services.treeNow_tends parser doc entry own).toSteady).waiters
    have hall := hlook.trans (resumeWaiters_accounts hlook.tidy language (.ok grammar))
    simp only [hcontains, hwaiting] at hall
    have hfinish := hcomplete.trans hall
    rw [Tally.empty_add] at hfinish
    exact hfinish

/-! ## Moves -/

/-- What one move does to the books.  A reset of the metrics is not one of the timers' doings, and the
    clock moves by itself alone. -/
structure Booked (parser : Parser) (w : Workspace) (move : Move) : Prop where
  tidy : (w.move parser move).Tidy
  runtime : (w.move parser move).services.runtime = w.services.runtime
  clock : (∀ time, move ≠ .aside (.setClock time)) →
    (w.move parser move).services.clock = w.services.clock
  spared : ∀ uri, uri ∉ w.touched move →
    (w.move parser move).entries.find? uri = w.entries.find? uri ∧
      (w.move parser move).services.alarms uri = w.services.alarms uri
  balance : ∃ replaced,
    (move ≠ .aside .resetMetrics →
      (w.move parser move).services.metrics.counters.scheduledFires =
        w.services.metrics.counters.scheduledFires + UInt64.ofNat (w.tally parser move).fired ∧
      (w.move parser move).services.metrics.counters.debounceResets =
        w.services.metrics.counters.debounceResets + UInt64.ofNat replaced) ∧
    (w.move parser move).armedTimers + (w.tally parser move).fired + replaced +
        (w.tally parser move).cancelled =
      w.armedTimers + w.services.runtime.toNat * (w.tally parser move).scheduled

/-- What is accounted for is booked. -/
theorem Accounts.booked {move : Move}
    (h : w.Accounts (w.touched move) (w.tally parser move) (w.move parser move)) :
    Booked parser w move where
  tidy := h.tidy
  runtime := h.runtime
  clock _ := h.clock
  spared := h.spared
  balance := by
    obtain ⟨replaced, hresets, hbalance⟩ := h.balance
    exact ⟨replaced, fun _ => ⟨h.fires, hresets⟩, hbalance⟩

/-- Altering a document without a report does nothing to timers. -/
theorem alter_accounts (tidy : w.Tidy) (id : DocumentId) (alteration : Alteration) :
    w.Accounts [] {} (w.alter id alteration) := by
  unfold alter
  split
  · exact .refl tidy
  · exact .of_tasks tidy rfl rfl rfl rfl rfl rfl

/-- A revision that is reported accounts for what its report calls for. -/
theorem revise_accounts (tidy : w.Tidy) (coherent : w.AllCoherent) (id : DocumentId)
    (alteration : Alteration) :
    w.Accounts (w.touched (.revise id alteration)) (w.tallyOfRevise id alteration)
      (w.revise id alteration) := by
  unfold revise tallyOfRevise
  cases haltered : (w.documents[id]?).bind (·.alter? alteration) with
  | none => exact (Accounts.refl tidy).mono (List.nil_subset _)
  | some altered =>
    obtain ⟨next, changes⟩ := altered
    obtain ⟨doc, hdoc, halter⟩ := Option.bind_eq_some_iff.1 haltered
    have hrevision := Document.revision_of_alter? halter
    -- The revised document is under the uri that it was under.
    have htouched : w.touched (.revise id alteration) = [next.uri] := by
      show ((w.documents[id]?).map _).toList = _
      rw [hdoc, hrevision.uri]
      rfl
    have hset : w.Accounts [] {} { w with documents := w.documents.set id next } :=
      .of_tasks tidy rfl rfl rfl rfl rfl rfl
    have hall := hset.trans (report_accounts hset.tidy (coherent.set hdoc hrevision) next.uri
      next.version changes)
    rw [Tally.empty_add] at hall
    rw [htouched]
    exact hall

/-- A wake-up in a generation that is over does nothing. -/
theorem wake_accounts (tidy : w.Tidy) (parser : Parser) {generation : Nat}
    (lawful : w.Lawful (.wake uri generation)) :
    w.Accounts [uri] {} (w.timerFired parser uri generation) := by
  unfold timerFired
  cases hopen : w.open? uri with
  | none => exact (Accounts.refl tidy).mono (List.nil_subset _)
  | some found =>
    obtain ⟨entry, doc⟩ := found
    have hentry := (open?_eq_some.1 hopen).1
    -- The entry is in another generation, so nothing is claimed.
    have hrest : w.services.fire parser doc entry generation = (w.services, entry) := by
      rcases w.services.fire_tends parser doc entry generation with ⟨-, heq⟩ | ⟨hown, -⟩
      · exact heq
      · exact absurd hown (lawful entry hentry)
    dsimp only
    rw [hrest]
    refine tidy.put ?_
    rw [timer_of_find? hentry]
    exact .refl (tidy.holds hentry)

/-- What is done aside sets no timer, but it may move the clock or reset the counters. -/
theorem doAside_booked (tidy : w.Tidy) (parser : Parser) (aside : Aside) :
    Booked parser w (.aside aside) := by
  obtain ⟨heq, hsteady, htasks, hnext⟩ := w.doAside_services aside
  have hentries : (w.doAside aside).entries = w.entries := by rw [heq]
  refine ⟨tidy.of_tasks hentries htasks hnext, hsteady.runtime, ?_, fun uri _ => ?_, 0, ?_, ?_⟩
  -- Only setting the clock moves it.
  · intro hclock
    cases aside with
    | setClock time => exact absurd rfl (hclock time)
    | _ => rfl
  · refine ⟨by rw [← hentries]; rfl, ?_⟩
    unfold Services.alarms
    rw [← htasks]
    rfl
  -- Only resetting the counters takes back what was counted.
  · intro hreset
    cases aside with
    | resetMetrics => exact absurd rfl hreset
    | _ => exact ⟨(UInt64.add_zero _).symm, (UInt64.add_zero _).symm⟩
  · show (w.doAside aside).armedTimers + 0 + 0 + 0 = w.armedTimers + w.services.runtime.toNat * 0
    unfold armedTimers
    rw [hentries]
    rfl

/-- Every move keeps the books. -/
theorem move_booked (tidy : w.Tidy) (coherent : w.AllCoherent) {move : Move}
    (lawful : w.Lawful move) (parser : Parser) : Booked parser w move := by
  cases move with
  | create uri language text =>
    exact Accounts.booked (.of_tasks tidy rfl rfl rfl rfl rfl rfl)
  | alter id alteration => exact Accounts.booked (alter_accounts tidy id alteration)
  | revise id alteration => exact Accounts.booked (revise_accounts tidy coherent id alteration)
  | openDocument id => exact Accounts.booked (openDocument_accounts tidy id)
  | close uri => exact Accounts.booked (close_accounts tidy uri)
  | report uri version changes =>
    exact Accounts.booked (report_accounts tidy coherent uri version changes)
  | treeNow uri => exact Accounts.booked (treeNow_accounts tidy parser uri)
  | reparseNow uri => exact Accounts.booked (reparseNow_accounts tidy coherent parser uri)
  | verify uri =>
    exact Accounts.booked (tidy.onEntry fun _ doc _ holds =>
      Services.verify_accounts holds parser doc)
  | activate uri => exact Accounts.booked (activate_accounts tidy coherent uri)
  | scheduleReparse uri => exact Accounts.booked (scheduleReparse_accounts tidy coherent uri)
  | loadBlocking language => exact Accounts.booked (.of_tasks tidy rfl rfl rfl rfl rfl rfl)
  | request language => exact Accounts.booked (requestGrammar_accounts tidy language)
  | wake uri generation => exact Accounts.booked (wake_accounts tidy parser lawful)
  | backgroundLoad uri language => exact Accounts.booked (backgroundLoad_accounts tidy uri language)
  | run task => exact Accounts.booked (run_accounts tidy coherent parser task)
  | finish language caller => exact Accounts.booked (finish_accounts tidy parser language caller)
  | aside aside => exact doAside_booked tidy parser aside

/-! ## Sequences of moves -/

/-- A sequence of moves in which no timer wakes up by itself in its own generation. -/
def LawfulAlong (parser : Parser) (w : Workspace) : List Move → Prop
  | [] => True
  | move :: rest => w.Lawful move ∧ (w.move parser move).LawfulAlong parser rest

/-- Whether a move wakes a timer in its own generation. -/
def wakesOwn (w : Workspace) : Move → Bool
  | .wake uri generation => (w.entries.find? uri).any fun entry => entry.timer.generation == generation
  | _ => false

/-- Whether a move is lawful can be tried out. -/
theorem lawful_iff (w : Workspace) (move : Move) : w.Lawful move ↔ w.wakesOwn move = false := by
  cases move with
  | wake uri generation => simp [Lawful, wakesOwn, Option.any_eq_false]
  | _ => simp [Lawful, wakesOwn]

/-- So it is decidable. -/
instance (w : Workspace) (move : Move) : Decidable (w.Lawful move) :=
  decidable_of_iff _ (lawful_iff w move).symm

/-- Whether all moves are lawful can be tried out, one after the other. -/
instance LawfulAlong.decidable {parser : Parser} :
    (w : Workspace) → (moves : List Move) → Decidable (w.LawfulAlong parser moves)
  | _, [] => .isTrue trivial
  | w, move :: rest =>
    have := @decidable parser (w.move parser move) rest
    inferInstanceAs (Decidable (_ ∧ _))

/-- What a sequence of moves does to timers. -/
def tallyAlong (parser : Parser) (w : Workspace) : List Move → Tally
  | [] => {}
  | move :: rest => w.tally parser move + (w.move parser move).tallyAlong parser rest

/-- All timers hold their tasks, grammars stand in their own slots, and entries are coherent. -/
structure WellKept (w : Workspace) : Prop where
  tidy : w.Tidy
  sound : w.services.registry.Sound
  coherent : w.AllCoherent

/-- A new workspace is well kept, as it has no tasks, no grammars and no entries. -/
theorem create_wellKept (config : Config) (dataHome : String) (libraries : Libraries)
    (runtime : Bool) : (create config dataHome libraries runtime).WellKept where
  tidy _ := ⟨⟨fun _ hmem => (nomatch hmem), fun _ hmem => (nomatch hmem)⟩, rfl⟩
  sound := Registry.ofConfig_sound config dataHome
  coherent _ _ found := nomatch found

/-- A lawful move keeps a workspace well kept: its timers by the books, the rest as every run does.
    -/
theorem WellKept.move (kept : w.WellKept) {move : Move} (lawful : w.Lawful move)
    (parser : Parser) : (w.move parser move).WellKept := by
  obtain ⟨trace, run, -⟩ := w.move_reaches parser move
  obtain ⟨hsound, hcoherent⟩ :=
    run.maintains (Entry.Coherent.kept parser) kept.sound kept.coherent
  exact ⟨(move_booked kept.tidy kept.coherent lawful parser).tidy, hsound, hcoherent⟩

/-- A sequence of moves keeps the books. -/
theorem play_booked (kept : w.WellKept) {moves : List Move} (lawful : w.LawfulAlong parser moves) :
    (w.play parser moves).WellKept ∧
      (w.play parser moves).services.runtime = w.services.runtime ∧
      ∃ replaced,
        (.aside .resetMetrics ∉ moves →
          (w.play parser moves).services.metrics.counters.scheduledFires =
            w.services.metrics.counters.scheduledFires +
              UInt64.ofNat (w.tallyAlong parser moves).fired ∧
          (w.play parser moves).services.metrics.counters.debounceResets =
            w.services.metrics.counters.debounceResets + UInt64.ofNat replaced) ∧
        (w.play parser moves).armedTimers + (w.tallyAlong parser moves).fired + replaced +
            (w.tallyAlong parser moves).cancelled =
          w.armedTimers + w.services.runtime.toNat * (w.tallyAlong parser moves).scheduled := by
  -- By induction on the moves, over all workspaces; each move is booked before the rest are.
  induction moves generalizing w with
  | nil =>
    exact ⟨kept, rfl, 0, fun _ => ⟨(UInt64.add_zero _).symm, (UInt64.add_zero _).symm⟩, rfl⟩
  | cons move rest ih =>
    obtain ⟨hlawful, hrest⟩ := lawful
    have hbooked := move_booked kept.tidy kept.coherent hlawful parser
    obtain ⟨replaced, hcounters, hbalance⟩ := hbooked.balance
    obtain ⟨hkept, hruntime, again, hcounters', hbalance'⟩ := ih (kept.move hlawful parser) hrest
    refine ⟨hkept, hruntime.trans hbooked.runtime, replaced + again, fun hreset => ?_, ?_⟩
    -- Without a reset, what the rest counts comes on top of what this move counted.
    · rw [List.mem_cons, not_or] at hreset
      obtain ⟨hfires, hresets⟩ := hcounters (Ne.symm hreset.1)
      obtain ⟨hfires', hresets'⟩ := hcounters' hreset.2
      refine ⟨hfires'.trans ?_, hresets'.trans ?_⟩
      · rw [hfires, tallyAlong, Tally.fired_add, UInt64.ofNat_add, UInt64.add_assoc]
      · rw [hresets, UInt64.ofNat_add, UInt64.add_assoc]
    · rw [hbooked.runtime] at hbalance'
      have hplay : w.play parser (move :: rest) = (w.move parser move).play parser rest := rfl
      rw [hplay, tallyAlong, Tally.fired_add, Tally.cancelled_add, Tally.scheduled_add, Nat.mul_add]
      omega

/-- Without a runtime no timer is ever set, and nothing is counted. -/
theorem play_unarmed (kept : w.WellKept) (runtime : w.services.runtime = false)
    (unarmed : w.armedTimers = 0) (fires : w.services.metrics.counters.scheduledFires = 0)
    (resets : w.services.metrics.counters.debounceResets = 0) {moves : List Move}
    (lawful : w.LawfulAlong parser moves) :
    (w.play parser moves).armedTimers = 0 ∧
      (w.play parser moves).services.metrics.counters.scheduledFires = 0 ∧
      (w.play parser moves).services.metrics.counters.debounceResets = 0 := by
  induction moves generalizing w with
  | nil => exact ⟨unarmed, fires, resets⟩
  | cons move rest ih =>
    obtain ⟨hlawful, hrest⟩ := lawful
    have hbooked := move_booked kept.tidy kept.coherent hlawful parser
    obtain ⟨replaced, hcounters, hbalance⟩ := hbooked.balance
    -- Nothing could be set, so nothing fired and nothing was replaced.
    rw [unarmed, runtime, Bool.toNat_false, Nat.zero_mul] at hbalance
    have hfired : (w.tally parser move).fired = 0 := by omega
    have hreplaced : replaced = 0 := by omega
    rw [hfired, hreplaced, fires, resets] at hcounters
    refine ih (kept.move hlawful parser) (hbooked.runtime.trans runtime) (by omega) ?_ ?_ hrest
    -- A reset leaves both counters at zero as well.
    · by_cases hreset : move = .aside .resetMetrics
      · rw [hreset]; rfl
      · exact (hcounters hreset).1
    · by_cases hreset : move = .aside .resetMetrics
      · rw [hreset]; rfl
      · exact (hcounters hreset).2

/-! ## Pending timers -/

/-- How many open documents wait for a reparse. -/
def pendingTimers (w : Workspace) : Nat := w.entries.values.countP w.services.isPending

/-- The timers that wait are those that are pending. -/
theorem Tidy.pendingTimers_eq (tidy : w.Tidy) : w.pendingTimers = w.armedTimers := by
  unfold pendingTimers armedTimers
  refine List.countP_congr fun entry hentry => ?_
  obtain ⟨⟨uri, _⟩, hmem, rfl⟩ := List.mem_map.1 hentry
  have hfound := Table.find?_of_mem hmem
  -- Every timer waits for a task that is queued, so waiting and pending are the same.
  rw [Services.isPending_of_armed (tidy.holds hfound).armed, Option.isSome_iff_ne_none]

/-- Where no timer waits, no task would wake one. -/
theorem Tidy.alarms_of_unarmed (tidy : w.Tidy) (unarmed : w.armedTimers = 0) (uri : String) :
    w.services.alarms uri = [] := by
  refine (tidy uri).alarms_of_none ?_
  cases hfound : w.entries.find? uri with
  | none => rw [timer_of_closed hfound]
  | some entry =>
    -- No value of the table counts, and the entry is one of them.
    have hcount := List.countP_eq_zero.1 unarmed entry (Table.mem_values_of_find? hfound)
    rw [timer_of_find? hfound]
    simpa using hcount

/-- The tasks that would wake the timer of a uri are those that the entry's timer waits for. -/
theorem Tidy.alarms_eq (tidy : w.Tidy) (uri : String) :
    (w.services.alarms uri).map (fun task => (task.id, task.work)) =
      match w.entries.find? uri with
      | none => []
      | some entry =>
        entry.timer.handle.toList.map fun id => (id, .reparse uri entry.timer.generation) := by
  -- The timer of a uri is that of its entry, or one that was never set.
  have halarms := (tidy uri).alarms
  cases hfound : w.entries.find? uri with
  | none =>
    rw [timer_of_closed hfound] at halarms
    exact halarms
  | some entry =>
    rw [timer_of_find? hfound] at halarms
    exact halarms

/-- A task that wakes a timer finds the document open and the timer waiting, and is counted. -/
theorem WellKept.wakes (kept : w.WellKept) {task : Task} (queued : task ∈ w.services.tasks)
    {uri : String} {generation : Nat} (hwork : task.work = .reparse uri generation)
    (parser : Parser) :
    ∃ entry doc, w.open? uri = some (entry, doc) ∧ entry.timer.handle = some task.id ∧
      (entry.timer.claim? generation).isSome = true ∧
      (w.runTask parser task).services.metrics.counters.scheduledFires =
        w.services.metrics.counters.scheduledFires + 1 := by
  obtain ⟨entry, doc, hopen, rfl, htimer⟩ := kept.tidy.open?_of_task kept.coherent queued hwork
  have hhandle : entry.timer.handle = some task.id := by rw [htimer]
  have hholds := kept.tidy.holds (open?_eq_some.1 hopen).1
  refine ⟨entry, doc, hopen, hhandle, by rw [htimer]; simp [Timer.claim?], ?_⟩
  rw [runTask_of_reparse hopen hwork htimer]
  exact (Services.fire_accounts hholds hhandle parser).fires

/-- Timers are conserved.  After every sequence of moves, in which dropped tasks never run:

    - the tasks that would wake the timer of an open document are the one that its timer waits for, in
      the generation of the timer, and nothing would wake the timer of a document that is closed;
    - so every task that wakes a timer finds the document open and the timer waiting for it, and is
      counted;
    - with a runtime, the calls for a timer that were ever made are the timers that have fired, those
      that were replaced, those that were cancelled, and those that are pending, where the first two
      are what has been counted, unless the counters were reset;
    - without a runtime there never is a timer, and nothing is counted. -/
theorem timers_conserved (parser : Parser) (config : Config) (dataHome : String)
    (libraries : Libraries) (runtime : Bool) {moves : List Move}
    (lawful : (create config dataHome libraries runtime).LawfulAlong parser moves) :
    let start := create config dataHome libraries runtime
    let w := start.play parser moves
    let tally := start.tallyAlong parser moves
    (∀ uri, (w.services.alarms uri).map (fun task => (task.id, task.work)) =
      match w.entries.find? uri with
      | none => []
      | some entry =>
        entry.timer.handle.toList.map fun id => (id, .reparse uri entry.timer.generation)) ∧
    (∀ task ∈ w.services.tasks, ∀ uri generation, task.work = .reparse uri generation →
      ∃ entry doc, w.open? uri = some (entry, doc) ∧ entry.timer.handle = some task.id ∧
        (entry.timer.claim? generation).isSome = true ∧
        (w.runTask parser task).services.metrics.counters.scheduledFires =
          w.services.metrics.counters.scheduledFires + 1) ∧
    (.aside .resetMetrics ∉ moves →
      w.services.metrics.counters.scheduledFires = UInt64.ofNat tally.fired ∧
      ∃ replaced, w.services.metrics.counters.debounceResets = UInt64.ofNat replaced ∧
        (runtime = true →
          tally.scheduled = tally.fired + replaced + tally.cancelled + w.pendingTimers)) ∧
    (runtime = false →
      (∀ uri, w.services.alarms uri = []) ∧ w.pendingTimers = 0 ∧
      w.services.metrics.counters.scheduledFires = 0 ∧
      w.services.metrics.counters.debounceResets = 0) := by
  intro start w tally
  have hstart : start.WellKept := create_wellKept config dataHome libraries runtime
  -- A new workspace has no timers and has counted nothing, so the books of the moves are all there
  -- is.
  obtain ⟨hkept, -, replaced, hcounters, hbalance⟩ := play_booked hstart lawful
  have hpending := hkept.tidy.pendingTimers_eq
  refine ⟨hkept.tidy.alarms_eq, fun task queued uri generation hwork => ?_, fun hreset => ?_,
    fun hruntime => ?_⟩
  · exact hkept.wakes queued hwork parser
  · obtain ⟨hfires, hresets⟩ := hcounters hreset
    refine ⟨hfires.trans (UInt64.zero_add _), replaced, hresets.trans (UInt64.zero_add _), ?_⟩
    rintro rfl
    have hnone : start.armedTimers = 0 := rfl
    have hruntime : start.services.runtime.toNat = 1 := rfl
    rw [hnone, hruntime] at hbalance
    show (start.tallyAlong parser moves).scheduled = (start.tallyAlong parser moves).fired + replaced +
      (start.tallyAlong parser moves).cancelled + (start.play parser moves).pendingTimers
    omega
  · obtain ⟨hunarmed, hfires, hresets⟩ := play_unarmed hstart hruntime rfl rfl rfl lawful
    exact ⟨hkept.tidy.alarms_of_unarmed hunarmed, hpending.trans hunarmed, hfires, hresets⟩

/-- A timer is set by an opening and cancelled by a look, set again, replaced, and fires; a timer of an
    earlier generation wakes up in vain, and one more is set. -/
def setAndFired : List Move := [
  .create "file:///a.js" "javascript" ['a', ';'],
  .openDocument 0,
  .treeNow "file:///a.js",
  .scheduleReparse "file:///a.js",
  .scheduleReparse "file:///a.js",
  .wake "file:///a.js" 5,
  .run ⟨2, 1000, .reparse "file:///a.js" 7⟩,
  .scheduleReparse "file:///a.js"]

/-- Of four timers one has fired, one was replaced, one was cancelled and one is pending. -/
theorem timers_conserved_four :
    (create {} "/home" {} true).LawfulAlong (.ofRecordings [] none) setAndFired ∧
      ((create {} "/home" {} true).tallyAlong (.ofRecordings [] none) setAndFired) = ⟨4, 1, 1⟩ ∧
      ∃ replaced, UInt64.ofNat replaced = 1 ∧ 4 = 1 + replaced + 1 + 1 := by
  have hlawful : (create {} "/home" {} true).LawfulAlong (.ofRecordings [] none) setAndFired := by
    refine ⟨trivial, trivial, trivial, trivial, trivial, ?_, trivial, trivial, trivial⟩
    intro entry found
    obtain rfl := Option.some.inj found
    decide
  have htally : (create {} "/home" {} true).tallyAlong (.ofRecordings [] none) setAndFired =
      ⟨4, 1, 1⟩ := by decide
  obtain ⟨-, -, hbooks, -⟩ := timers_conserved (.ofRecordings [] none) {} "/home" {} true hlawful
  obtain ⟨-, replaced, hreplaced, hbalance⟩ := hbooks (by simp [setAndFired])
  refine ⟨hlawful, htally, replaced, hreplaced.symm.trans (by decide), ?_⟩
  have hfour := hbalance rfl
  rw [htally] at hfour
  exact hfour

end LiveTree.Workspace
