import LiveTree.Proofs.Attempts
import LiveTree.Proofs.Coherence
import LiveTree.Proofs.Moves
import LiveTree.Proofs.Replay

/-!
# What sees to it that a document gets its tree

A document that is not up to date is tended if something will bring it up to date: a timer that waits
for its task, or a background load that will schedule it.  One that is current needs nothing, and one
that has failed too often is given up.  This file goes through the operations of a workspace one by one
and says what each may lose: a document that was tended and is so no longer.

What carries all of it is that a task belongs to one timer or to one load, so that an operation on one
document cannot take away what another one relies on.

## Key results

- `Services.Tended`: what sees to a document, and `Attended`: the invariant of timers and attempts
- `Upholds`: an operation keeps the invariant and loses nothing but what it is said to lose
- `revise_upholds`: a revision that is reported at once loses nothing
- `treeNow_upholds`, `runTask_upholds`, `finish_upholds`: what is lost by calls that return an error,
  by loads that fail and by attempts that end
-/

namespace LiveTree

namespace Services

/-- A background load that was started for a uri is under way: its task is still to run, or it waits
    for an attempt at its grammar. -/
def LoadUnderWay (s : Services) (uri : String) : Prop :=
  (∃ task ∈ s.tasks, ∃ language, task.work = .load uri language) ∨
    ∃ waiter ∈ s.waiters, waiter.uri = uri ∧
      ∃ attempt ∈ s.registry.attempts, attempt.id = waiter.language

/-- Something sees to it that a document gets its tree, unless it has it or has failed too often. -/
def Tended (s : Services) (uri : String) (entry : Entry) (doc : Document) : Prop :=
  (entry.currentTree? doc.version).isSome = true ∨ s.isPending entry = true ∨ s.LoadUnderWay uri ∨
    s.config.maxParseRetries < entry.consecutiveFailures

variable {s later : Services} {uri : String} {entry : Entry} {doc : Document}

/-- A document whose tree is current needs nothing more. -/
theorem Tended.of_current {tree : SyntaxTree} (h : entry.currentTree? doc.version = some tree) :
    s.Tended uri entry doc := by
  left
  rw [h]
  rfl

/-- An entry whose timer waits for a task is tended. -/
theorem Tended.of_armed {id : TaskId} (armed : s.Armed uri entry.timer)
    (h : entry.timer.handle = some id) : s.Tended uri entry doc := by
  right; left
  rw [isPending_of_armed armed, h]
  simp

/-- A document whose load is queued is tended. -/
theorem Tended.of_load {task : Task} {language : String} (htask : task ∈ s.tasks)
    (hwork : task.work = .load uri language) : s.Tended uri entry doc :=
  .inr (.inr (.inl (.inl ⟨task, htask, language, hwork⟩)))

/-- A load goes on as long as its task or what it waits for is there. -/
theorem LoadUnderWay.mono (h : s.LoadUnderWay uri)
    (tasks : ∀ task ∈ s.tasks, ∀ language, task.work = .load uri language → task ∈ later.tasks)
    (waiters : ∀ waiter ∈ s.waiters, waiter ∈ later.waiters)
    (attempts : ∀ attempt ∈ s.registry.attempts, attempt ∈ later.registry.attempts) :
    later.LoadUnderWay uri := by
  -- A load is either a task in the queue, or a waiter whose attempt is under way.
  rcases h with ⟨task, htask, language, hwork⟩ | ⟨waiter, hwaiter, huri, attempt, hattempt, hid⟩
  · exact .inl ⟨task, tasks task htask language hwork, language, hwork⟩
  · exact .inr ⟨waiter, waiters waiter hwaiter, huri, attempt, attempts attempt hattempt, hid⟩

/-- An entry stays tended as long as the task that its timer waits for is there, and its load. -/
theorem Tended.mono (h : s.Tended uri entry doc) (config : later.config = s.config)
    (timer : ∀ task ∈ s.tasks, entry.timer.handle = some task.id → task ∈ later.tasks)
    (load : s.LoadUnderWay uri → later.LoadUnderWay uri) : later.Tended uri entry doc := by
  rcases h with hcurrent | hpending | hload | hgaveUp
  · exact .inl hcurrent
  · refine .inr (.inl ?_)
    unfold isPending at hpending ⊢
    cases hhandle : entry.timer.handle with
    | none => rw [hhandle] at hpending; exact nomatch hpending
    | some id =>
      -- The timer waits for a task that is in the queue, and that task is in the later queue too.
      rw [hhandle, Option.any_some, List.any_eq_true] at hpending
      obtain ⟨task, htask, hid⟩ := hpending
      obtain rfl := eq_of_beq hid
      rw [Option.any_some, List.any_eq_true]
      exact ⟨task, timer task htask hhandle, hid⟩
  · exact .inr (.inr (.inl (load hload)))
  -- The limit is a setting, so who has given up has given up still.
  · rw [← config] at hgaveUp
    exact .inr (.inr (.inr hgaveUp))

/-- The same where the entry has changed, but neither its tree nor its timer nor its failures. -/
theorem Tended.congr {next : Entry} (h : s.Tended uri entry doc)
    (committed : next.committed = entry.committed) (state : next.state = entry.state)
    (timer : next.timer = entry.timer)
    (failures : next.consecutiveFailures = entry.consecutiveFailures) :
    s.Tended uri next doc := by
  unfold Tended isPending Entry.currentTree? at h ⊢
  rw [committed, state, timer, failures]
  exact h

end Services

namespace Workspace

/-- The tasks of a workspace have names of their own, every timer waits for a task that will wake it,
    and every slot that is being loaded has an attempt under way. -/
structure Attended (w : Workspace) : Prop where
  queued : w.services.Queued
  armed : ∀ {uri : String} {entry : Entry}, w.entries.find? uri = some entry →
    w.services.Armed uri entry.timer
  loading : w.services.registry.Attended

/-- All that wait in the background wait for an attempt that is under way. -/
def Awaited (w : Workspace) : Prop :=
  ∀ waiter ∈ w.services.waiters, ∃ attempt ∈ w.services.registry.attempts,
    attempt.id = waiter.language

/-- One workspace has come from another, in which nothing that was tended has been lost, but perhaps
    what is `lost`.  What was open and not tended before does not count. -/
structure Upholds (w later : Workspace) (lost : String → Prop) : Prop where
  attended : later.Attended
  config : later.services.config = w.services.config
  runtime : later.services.runtime = w.services.runtime
  languages : later.services.registry.languages = w.services.registry.languages
  tended : ∀ {uri : String} {entry : Entry} {doc : Document},
    later.open? uri = some (entry, doc) →
    w.services.registry.isSupported doc.language = true →
    later.services.Tended uri entry doc ∨ lost uri ∨
      ∃ earlier before, w.open? uri = some (earlier, before) ∧ before.language = doc.language ∧
        ¬ w.services.Tended uri earlier before

variable {w later : Workspace} {lost : String → Prop}

/-- Which languages are supported depends on what is registered, not on what is loaded. -/
theorem isSupported_congr (h : later.services.registry.languages = w.services.registry.languages)
    (language : String) :
    later.services.registry.isSupported language = w.services.registry.isSupported language := by
  unfold Registry.isSupported Registry.config?
  rw [h]

/-- Nothing done loses nothing. -/
theorem Upholds.refl (attended : w.Attended) (lost : String → Prop) : Upholds w w lost where
  attended := attended
  config := rfl
  runtime := rfl
  languages := rfl
  tended {uri entry doc} found _ := by
    by_cases h : w.services.Tended uri entry doc
    · exact .inl h
    · exact .inr (.inr ⟨entry, doc, found, rfl, h⟩)

/-- What two parts of a life lose is what either loses. -/
theorem Upholds.trans {last : Workspace} {more : String → Prop} (h : Upholds w later lost)
    (h' : Upholds later last more) : Upholds w last (fun uri => lost uri ∨ more uri) where
  attended := h'.attended
  config := h'.config.trans h.config
  runtime := h'.runtime.trans h.runtime
  languages := h'.languages.trans h.languages
  tended {uri entry doc} found supported := by
    rw [← isSupported_congr h.languages] at supported
    -- A document that the later part found untended was untended before, or lost by the earlier
    -- part.
    rcases h'.tended found supported with htended | hmore | ⟨middle, between, hmiddle, hsame, hnot⟩
    · exact .inl htended
    · exact .inr (.inl (.inr hmore))
    · rw [isSupported_congr h.languages, ← hsame] at supported
      rcases h.tended hmiddle supported with htended | hlost | ⟨earlier, before, hbefore, hlang, hun⟩
      · exact absurd htended hnot
      · exact .inr (.inl (.inl hlost))
      · exact .inr (.inr ⟨earlier, before, hbefore, hlang.trans hsame, hun⟩)

/-- More may be named as lost. -/
theorem Upholds.weaken {more : String → Prop} (h : Upholds w later lost)
    (hmore : ∀ uri, lost uri → more uri) : Upholds w later more where
  attended := h.attended
  config := h.config
  runtime := h.runtime
  languages := h.languages
  tended {uri entry doc} found supported := by
    rcases h.tended found supported with htended | hlost | huntended
    · exact .inl htended
    · exact .inr (.inl (hmore uri hlost))
    · exact .inr (.inr huntended)

/-! ## Operations on one entry -/

section Entries

variable {uri : String} {timer : Timer} {s : Services}

/-- No timer waits for the task of a load. -/
theorem Attended.load_spared (attended : w.Attended) (own : w.services.Armed uri timer)
    {next : Timer} (tends : w.services.Tends uri timer s next) {task : Task} {other language : String}
    (htask : task ∈ w.services.tasks) (hwork : task.work = .load other language) :
    task ∈ s.tasks := by
  refine tends.spared attended.queued task htask ?_
  intro hhandle
  -- The task that the timer waits for reparses, so it is not one that loads.
  obtain ⟨deadline, hmem⟩ := own task.id hhandle
  have hsame := attended.queued.distinct task htask _ hmem rfl
  rw [hsame] at hwork
  exact nomatch hwork

/-- No two timers wait for the same task. -/
theorem Attended.timer_spared (attended : w.Attended) (own : w.services.Armed uri timer)
    {next : Timer} (tends : w.services.Tends uri timer s next) {other : String} {entry : Entry}
    (found : w.entries.find? other = some entry) (hne : other ≠ uri) {task : Task}
    (htask : task ∈ w.services.tasks) (hhandle : entry.timer.handle = some task.id) :
    task ∈ s.tasks := by
  refine tends.spared attended.queued task htask ?_
  intro hown
  obtain ⟨deadline, hmem⟩ := own task.id hown
  obtain ⟨deadline', hmem'⟩ := attended.armed found task.id hhandle
  have hsame := attended.queued.distinct _ hmem _ hmem' rfl
  -- The two timers would wait for one task, and a task wakes the timer of one uri only.
  injection hsame with _ _ hwork
  injection hwork with huri
  exact hne huri.symm

/-- An operation on one entry keeps all timers in order. -/
theorem Attended.put (attended : w.Attended) (own : w.services.Armed uri timer) {next : Entry}
    (tends : w.services.Tends uri timer s next.timer) : (w.put uri s next).Attended where
  queued := tends.queued attended.queued
  armed {other entry} found := by
    -- Under the uri is the new entry, under all others what was there.
    change (w.entries.insert uri next).find? other = some entry at found
    rw [Table.find?_insert] at found
    by_cases heq : other = uri
    · rw [if_pos heq] at found
      obtain rfl := Option.some.inj found
      rw [heq]
      exact tends.armed attended.queued own
    · rw [if_neg heq] at found
      intro id hhandle
      obtain ⟨deadline, hmem⟩ := attended.armed found id hhandle
      exact ⟨deadline, attended.timer_spared own tends found heq hmem hhandle⟩
  loading language hloading := by
    change s.registry.isLoading language = true at hloading
    rw [tends.loading] at hloading
    obtain ⟨attempt, hattempt, hid⟩ := attended.loading language hloading
    refine ⟨attempt, ?_, hid⟩
    show attempt ∈ s.registry.attempts
    rw [tends.attempts]
    exact hattempt

/-- An operation on one entry leaves the others tended. -/
theorem Attended.tended_elsewhere (attended : w.Attended) (own : w.services.Armed uri timer)
    {next : Timer} (tends : w.services.Tends uri timer s next) {other : String} {entry : Entry}
    {doc : Document} (found : w.entries.find? other = some entry) (hne : other ≠ uri)
    (h : w.services.Tended other entry doc) : s.Tended other entry doc := by
  -- Neither the timer of another entry nor any load is in the way of the operation.
  refine h.mono tends.config (fun task htask hhandle => ?_) (fun hload => hload.mono ?_ ?_ ?_)
  · exact attended.timer_spared own tends found hne htask hhandle
  · exact fun task htask language hwork => attended.load_spared own tends htask hwork
  · exact fun waiter hwaiter => by rw [tends.waiters]; exact hwaiter
  · exact fun attempt hattempt => by rw [tends.attempts]; exact hattempt

/-- An operation on one entry loses nothing if it does not lose that entry. -/
theorem upholds_put (attended : w.Attended) (own : w.services.Armed uri timer) {next : Entry}
    (tends : w.services.Tends uri timer s next.timer)
    (here : ∀ doc, (w.put uri s next).open? uri = some (next, doc) →
      w.services.registry.isSupported doc.language = true →
      s.Tended uri next doc ∨ lost uri ∨
        ∃ earlier before, w.open? uri = some (earlier, before) ∧ before.language = doc.language ∧
          ¬ w.services.Tended uri earlier before) :
    Upholds w (w.put uri s next) lost where
  attended := attended.put own tends
  config := tends.config
  runtime := tends.runtime
  languages := tends.languages
  tended {other entry doc} found supported := by
    by_cases heq : other = uri
    · subst heq
      -- The entry found under the uri is the one that was put there.
      obtain ⟨hentry, -⟩ := open?_eq_some.1 found
      obtain rfl : next = entry := Option.some.inj ((Table.find?_insert_self _ _ _).symm.trans hentry)
      exact here doc found supported
    · have hbefore : w.open? other = some (entry, doc) := by
        obtain ⟨hentry, hdoc⟩ := open?_eq_some.1 found
        refine open?_eq_some.2 ⟨?_, hdoc⟩
        rw [← hentry]
        exact ((Table.find?_insert _ _ _ _).trans (if_neg heq)).symm
      by_cases h : w.services.Tended other entry doc
      · exact .inl (attended.tended_elsewhere own tends (open?_eq_some.1 hbefore).1 heq h)
      · exact .inr (.inr ⟨entry, doc, hbefore, rfl, h⟩)

/-- An operation leaves its entry open, with its document. -/
theorem onEntry_open? {α : Type} {entry : Entry} {doc : Document}
    (found : w.open? uri = some (entry, doc))
    {operation : Services → Document → Entry → Services × Entry × Except EngineError α}
    (document : (operation w.services doc entry).2.1.document = entry.document) :
    (w.onEntry uri operation).1.open? uri = some ((operation w.services doc entry).2.1, doc) := by
  unfold onEntry
  rw [found]
  refine open?_eq_some.2 ⟨Table.find?_insert_self _ _ _, ?_⟩
  rw [document]
  exact (open?_eq_some.1 found).2

/-- An operation on the open entry of a uri loses nothing if it does not lose that entry. -/
theorem upholds_onEntry {α : Type}
    {operation : Services → Document → Entry → Services × Entry × Except EngineError α}
    (attended : w.Attended)
    (tends : ∀ entry doc, w.open? uri = some (entry, doc) →
      w.services.Tends uri entry.timer (operation w.services doc entry).1
        (operation w.services doc entry).2.1.timer)
    (document : ∀ entry doc, (operation w.services doc entry).2.1.document = entry.document)
    (here : ∀ entry doc, w.open? uri = some (entry, doc) →
      w.services.registry.isSupported doc.language = true →
      (operation w.services doc entry).1.Armed uri (operation w.services doc entry).2.1.timer →
      w.services.Tended uri entry doc →
      (operation w.services doc entry).1.Tended uri (operation w.services doc entry).2.1 doc ∨
        lost uri) :
    Upholds w (w.onEntry uri operation).1 lost := by
  unfold onEntry
  cases found : w.open? uri with
  | none => exact .refl attended lost
  | some opened =>
    obtain ⟨entry, doc⟩ := opened
    have hown := attended.armed (open?_eq_some.1 found).1
    have htends := tends entry doc found
    refine upholds_put attended hown htends ?_
    intro after hafter supported
    -- The document is the one that was open.
    obtain rfl : doc = after := by
      have hdoc := (open?_eq_some.1 hafter).2
      rw [document] at hdoc
      exact Option.some.inj ((open?_eq_some.1 found).2.symm.trans hdoc)
    -- An entry that was not tended before the operation does not count.
    by_cases h : w.services.Tended uri entry doc
    · have harmed := htends.armed attended.queued hown
      rcases here entry doc found supported harmed h with htended | hlost
      · exact .inl htended
      · exact .inr (.inl hlost)
    · exact .inr (.inr ⟨entry, doc, found, rfl, h⟩)

/-- What was lost under a uri because a call there has returned an error. -/
def Failed {α : Type} (uri : String) (answer : Except EngineError α) (other : String) : Prop :=
  other = uri ∧ ∃ error, answer = .error error

variable {parser : Parser}

/-- A tree on demand loses a document only by returning an error. -/
theorem treeNow_upholds (attended : w.Attended) (parser : Parser) (uri : String) :
    Upholds w (w.treeNow parser uri).1 (Failed uri (w.treeNow parser uri).2) := by
  refine upholds_onEntry attended
    (fun entry doc _ => w.services.treeNow_tends parser doc entry uri)
    (fun entry doc => (w.services.treeNow_turn parser doc entry).document)
    (fun entry doc found _ _ _ => ?_)
  cases hresult : (w.services.treeNow parser doc entry).2.2 with
  | ok tree => exact .inl (.of_current (Services.currentTree?_of_treeNow hresult))
  | error error => exact .inr ⟨rfl, error, (onEntry_answer found _).trans hresult⟩

/-- A verification loses a document only by returning an error. -/
theorem verify_upholds (attended : w.Attended) (parser : Parser) (uri : String) :
    Upholds w (w.verify parser uri).1 (Failed uri (w.verify parser uri).2) := by
  refine upholds_onEntry attended
    (fun entry doc _ => w.services.verify_tends parser doc entry uri)
    (fun entry doc => (w.services.verify_turn parser doc entry).document)
    (fun entry doc found _ _ _ => ?_)
  -- Once there is a tree it is current, whatever the comparison comes to.
  cases hresult : (w.services.treeNow parser doc entry).2.2 with
  | ok tree =>
    rw [(w.services.verify_after_treeNow parser doc entry).2]
    exact .inl (.of_current (Services.currentTree?_of_treeNow hresult))
  | error error =>
    exact .inr ⟨rfl, error, (onEntry_answer found _).trans (Services.verify_of_error hresult)⟩

/-- The entries of a workspace stand under the uris of their documents, and are coherent. -/
abbrev AllCoherent (w : Workspace) : Prop :=
  EntriesHold (fun _ doc entry => entry.Coherent doc) w

/-- What is open under a uri has that uri. -/
theorem AllCoherent.uri_eq (coherent : w.AllCoherent) {entry : Entry} {doc : Document}
    (found : w.open? uri = some (entry, doc)) : doc.uri = uri := by
  obtain ⟨hentry, hdoc⟩ := open?_eq_some.1 found
  obtain ⟨own, hown, huri, -⟩ := coherent uri entry hentry
  obtain rfl := Option.some.inj (hown.symm.trans hdoc)
  exact huri

/-- What is open under a uri is coherent with its document. -/
theorem AllCoherent.coherent (coherent : w.AllCoherent) {entry : Entry} {doc : Document}
    (found : w.open? uri = some (entry, doc)) : entry.Coherent doc := by
  obtain ⟨hentry, hdoc⟩ := open?_eq_some.1 found
  obtain ⟨own, hown, -, hcoherent⟩ := coherent uri entry hentry
  obtain rfl := Option.some.inj (hown.symm.trans hdoc)
  exact hcoherent

/-- A reparse on demand loses a document only by returning an error. -/
theorem reparseNow_upholds (attended : w.Attended) (coherent : w.AllCoherent)
    (runtime : w.services.runtime = true) (parser : Parser) (uri : String) :
    Upholds w (w.reparseNow parser uri).1 (Failed uri (w.reparseNow parser uri).2) := by
  have htends (entry : Entry) (doc : Document) := (w.services.cancelTimer_tends doc.uri entry).trans
    (Services.reparse_tends _ parser doc (w.services.cancelTimer entry).2.1)
  refine upholds_onEntry attended (fun entry doc found => ?_)
    (fun entry doc => (w.services.cancelTimer_reparse_turn parser doc entry).document)
    (fun entry doc found supported harmed _ => ?_)
  · have huri := coherent.uri_eq found
    rw [← huri]
    exact htends entry doc
  · have huri := coherent.uri_eq found
    have hcancel := w.services.cancelTimer_tends uri entry
    have hsupported : (w.services.cancelTimer entry).1.registry.isSupported doc.language = true := by
      unfold Registry.isSupported Registry.config? at supported ⊢
      rw [hcancel.languages]
      exact supported
    -- The timer was cancelled, so the four ways in which the scheduled path can end have to tend
    -- the document.
    rcases Services.reparse_leaves (hcancel.runtime.trans runtime) parser hsupported
      (w.services.cancelTimer entry).2.1 with
      ⟨error, herror⟩ | hcurrent | ⟨id, -, hhandle⟩ | ⟨task, htask, hwork⟩
    · exact .inr ⟨rfl, error, (onEntry_answer found _).trans herror⟩
    · exact .inl (.inl hcurrent)
    · exact .inl (.of_armed harmed hhandle)
    · rw [huri] at hwork
      exact .inl (.of_load htask hwork)

/-- Scheduling a document tends it. -/
theorem schedule_upholds (attended : w.Attended) (runtime : w.services.runtime = true)
    {entry : Entry} (found : w.entries.find? uri = some entry) (delay : Nat)
    (lost : String → Prop) :
    Upholds w (w.put uri (w.services.schedule uri entry delay).1
      (w.services.schedule uri entry delay).2) lost := by
  have hown := attended.armed found
  have htends := w.services.schedule_tends uri entry delay
  refine upholds_put attended hown htends (fun doc _ _ => .inl ?_)
  obtain ⟨id, -, hhandle⟩ := Services.schedule_handle runtime uri entry delay
  exact .of_armed (htends.armed attended.queued hown) hhandle

/-- Scheduling what is open loses nothing. -/
theorem scheduleIfOpen_upholds (attended : w.Attended) (runtime : w.services.runtime = true)
    (uri : String) (delay : Nat) (lost : String → Prop) :
    Upholds w (w.scheduleIfOpen uri delay) lost := by
  unfold scheduleIfOpen
  split
  · exact .refl attended lost
  · next entry found => exact schedule_upholds attended runtime found delay lost

/-- Asking for a reparse later loses nothing. -/
theorem scheduleReparse_upholds (attended : w.Attended) (coherent : w.AllCoherent)
    (runtime : w.services.runtime = true) (uri : String) (lost : String → Prop) :
    Upholds w (w.scheduleReparse uri).1 lost := by
  unfold scheduleReparse onEntry
  split
  · exact .refl attended lost
  · next entry doc found =>
    dsimp only
    rw [coherent.uri_eq found]
    exact schedule_upholds attended runtime (open?_eq_some.1 found).1 _ lost

/-- Activating a uri loses nothing: a tree that is out of date is scheduled. -/
theorem activate_upholds (attended : w.Attended) (coherent : w.AllCoherent)
    (runtime : w.services.runtime = true) (uri : String) (lost : String → Prop) :
    Upholds w (w.activate uri).1 lost := by
  unfold activate onEntry
  split
  · exact .refl attended lost
  · next entry doc found =>
    have hentry := (open?_eq_some.1 found).1
    dsimp only
    split
    · next hcurrent =>
      exact upholds_put attended (attended.armed hentry) (.refl _ _ _) fun after hafter _ => by
        obtain rfl : doc = after := Option.some.inj
          ((open?_eq_some.1 found).2.symm.trans (open?_eq_some.1 hafter).2)
        exact .inl (.inl hcurrent)
    · rw [coherent.uri_eq found]
      exact schedule_upholds attended runtime hentry 0 lost

/-- A report that is applied schedules its document; any other leaves the document as it is. -/
theorem report_tended {s : Services} (queued : s.Queued) (runtime : s.runtime = true)
    (onEdit : s.config.scheduleOnEdit = true) {entry : Entry} (own : s.Armed uri entry.timer)
    {version : Int} {changes : List Change} {doc : Document}
    (h : (∃ count, (entry.applyChanges changes version).2 = .applied count) ∨
      s.Tended uri entry doc) :
    (s.report uri entry version changes).1.Tended uri (s.report uri entry version changes).2.1
      doc := by
  have htends := s.report_tends uri entry version changes
  by_cases happlied : ∃ count, (entry.applyChanges changes version).2 = .applied count
  · obtain ⟨count, hcount⟩ := happlied
    obtain ⟨id, -, hhandle⟩ := Services.report_handle runtime onEdit uri
      (show entry.applyChanges changes version = (_, .applied count) by rw [← hcount])
    -- The new task is what the timer waits for.
    exact .of_armed (htends.armed queued own) hhandle
  · have hnot : ∀ count, (entry.applyChanges changes version).2 ≠ .applied count :=
      fun count hcount => happlied ⟨count, hcount⟩
    -- Nothing was scheduled, but nothing was dropped either, and the tree is as current as it was.
    obtain ⟨htasks, hentry⟩ := s.report_of_not_applied uri hnot
    obtain ⟨previous, hprevious⟩ := Services.applyChanges_of_not_applied hnot
    have hbefore := h.resolve_left happlied
    rw [hentry, hprevious]
    refine (?_ : Services.Tended _ uri entry doc).congr rfl rfl rfl rfl
    refine hbefore.mono htends.config (fun task htask _ => ?_) (fun hload => hload.mono ?_ ?_ ?_)
    · rw [htasks]; exact htask
    · intro task htask _ _
      rw [htasks]; exact htask
    · exact fun waiter hwaiter => by rw [htends.waiters]; exact hwaiter
    · exact fun attempt hattempt => by rw [htends.attempts]; exact hattempt

/-- Where edits schedule parses, a report loses nothing. -/
theorem report_upholds (attended : w.Attended) (coherent : w.AllCoherent)
    (runtime : w.services.runtime = true) (onEdit : w.services.config.scheduleOnEdit = true)
    (uri : String) (version : Int) (changes : List Change) (lost : String → Prop) :
    Upholds w (w.report uri version changes).1 lost := by
  refine upholds_onEntry attended (fun entry doc found => ?_) (fun entry doc => ?_)
    (fun entry doc found _ _ htended => ?_)
  · rw [coherent.uri_eq found]
    exact w.services.report_tends uri entry version changes
  · exact w.services.report_document doc.uri entry version changes
  · rw [coherent.uri_eq found]
    exact .inl (report_tended attended.queued runtime onEdit
      (attended.armed (open?_eq_some.1 found).1) (.inr htended))

/-- Where edits schedule nothing, a report loses at most its own document. -/
theorem report_upholds_elsewhere (attended : w.Attended) (coherent : w.AllCoherent) (uri : String)
    (version : Int) (changes : List Change) :
    Upholds w (w.report uri version changes).1 (· = uri) := by
  refine upholds_onEntry attended (fun entry doc found => ?_) (fun entry doc => ?_)
    -- The entry of the uri itself may be lost, so there is nothing to show for it.
    (fun _ _ _ _ _ _ => .inr rfl)
  · rw [coherent.uri_eq found]
    exact w.services.report_tends uri entry version changes
  · exact w.services.report_document doc.uri entry version changes

/-! ## Documents -/

/-- Documents do not matter to timers. -/
theorem Attended.documents (attended : w.Attended) (documents : List Document) :
    Attended { w with documents := documents } :=
  ⟨attended.queued, attended.armed, attended.loading⟩

/-- A change of documents matters only to the entries whose documents it changes. -/
theorem upholds_documents (attended : w.Attended) (documents : List Document) :
    Upholds w { w with documents := documents } (fun uri => ∃ entry,
      w.entries.find? uri = some entry ∧
        documents[entry.document]? ≠ w.documents[entry.document]?) where
  attended := attended.documents documents
  config := rfl
  runtime := rfl
  languages := rfl
  tended {uri entry doc} found _ := by
    obtain ⟨hentry, hdoc⟩ := open?_eq_some.1 found
    by_cases hsame : documents[entry.document]? = w.documents[entry.document]?
    -- The entry has the document that it had, so it is tended if it was.
    · by_cases h : w.services.Tended uri entry doc
      · exact .inl h
      · exact .inr (.inr ⟨entry, doc, open?_eq_some.2 ⟨hentry, hsame.symm.trans hdoc⟩, rfl, h⟩)
    · exact .inr (.inl ⟨entry, hentry, hsame⟩)

/-- A new document is not open anywhere, so nothing is lost by it. -/
theorem createDocument_upholds (attended : w.Attended) (coherent : w.AllCoherent)
    (uri language : String) (text : Text) (lost : String → Prop) :
    Upholds w (w.createDocument uri language text).1 lost := by
  refine (upholds_documents attended _).weaken ?_
  rintro other ⟨entry, hentry, hdifferent⟩
  obtain ⟨doc, hdoc, -⟩ := coherent other entry hentry
  -- Documents are never dropped, so those of open entries keep their places.
  exact absurd (List.getElem?_append_left (List.getElem?_eq_some_iff.1 hdoc).1) hdifferent

/-- A document that is not open can be altered without losing anything. -/
theorem alter_upholds (attended : w.Attended) {id : DocumentId} (alteration : Alteration)
    (unopened : ∀ uri entry, w.entries.find? uri = some entry → entry.document ≠ id)
    (lost : String → Prop) : Upholds w (w.alter id alteration) lost := by
  unfold alter
  split
  · exact .refl attended lost
  · refine (upholds_documents attended _).weaken ?_
    rintro other ⟨entry, hentry, hdifferent⟩
    exact absurd (List.getElem?_set_ne (Ne.symm (unopened other entry hentry))) hdifferent

/-- A revision keeps all entries coherent, that of its own document included. -/
theorem AllCoherent.set (coherent : w.AllCoherent) {id : DocumentId} {doc next : Document}
    {changes : List Change} (found : w.documents[id]? = some doc)
    (revision : doc.Revision next changes) :
    AllCoherent { w with documents := w.documents.set id next } := by
  intro uri entry hentry
  obtain ⟨own, hown, huri, hcoherent⟩ := coherent uri entry hentry
  by_cases heq : id = entry.document
  · subst heq
    obtain rfl := Option.some.inj (found.symm.trans hown)
    exact ⟨next, List.getElem?_set_self (List.getElem?_eq_some_iff.1 found).1,
      revision.uri.trans huri, hcoherent.revised revision⟩
  · exact ⟨own, (List.getElem?_set_ne heq).trans hown, huri, hcoherent⟩

/-- The report of a revision is applied if the tree was current before. -/
theorem applied_of_current {entry : Entry} {doc next : Document} {changes : List Change}
    (coherent : entry.Coherent doc) (revision : doc.Revision next changes)
    (small : doc.text.SmallAlong changes)
    (current : (entry.currentTree? doc.version).isSome = true) :
    ∃ count, (entry.applyChanges changes next.version).2 = .applied count := by
  obtain ⟨tree, htree⟩ := Option.isSome_iff_exists.1 current
  obtain ⟨hcommitted, hstate, hversion⟩ := currentTree?_eq_some htree
  -- Nothing is pending, so the kept tree is at the version before the revision.
  have hkept := (coherent.upToDate hstate).1
  rw [hcommitted, Option.map_some, hversion] at hkept
  cases hprevious : entry.previous with
  | none =>
    rw [coherent.previous_iff.1 hprevious] at hkept
    exact nomatch hkept
  | some previous =>
    -- The revision is one version later, and its changes are few enough to be counted.
    have hnext := revision.version
    rw [Entry.applyChanges_of_newer hprevious hkept (by omega) (revision.fits small)]
    exact ⟨_, rfl⟩

/-- A revision that is reported at once loses nothing: where it makes the tree of its document
    outdated, its report schedules the document. -/
theorem revise_upholds (attended : w.Attended) (coherent : w.AllCoherent)
    (runtime : w.services.runtime = true) (onEdit : w.services.config.scheduleOnEdit = true)
    {id : DocumentId} {alteration : Alteration}
    (small : ∀ doc next changes, w.documents[id]? = some doc →
      doc.alter? alteration = some (next, changes) → doc.text.SmallAlong changes)
    (lost : String → Prop) : Upholds w (w.revise id alteration) lost := by
  unfold revise
  split
  · exact .refl attended lost
  · next next changes haltered =>
    obtain ⟨doc, found, halter⟩ := Option.bind_eq_some_iff.1 haltered
    have hrevision := Document.revision_of_alter? halter
    have hset := coherent.set found hrevision
    have hreport := report_upholds (attended.documents _) hset runtime onEdit next.uri next.version
      changes lost
    have hboth := (upholds_documents attended _).trans hreport
    -- Together they lose what the revision alone would lose, and for that the report makes up.
    refine { hboth with tended := fun {uri entry after} hafter supported => ?_ }
    rcases hboth.tended hafter supported with htended | (⟨earlier, hearlier, hdifferent⟩ | hlost) | h
    · exact .inl htended
    · -- The entry is the one whose document was revised.
      obtain rfl : id = earlier.document := by
        refine Decidable.byContradiction fun hne => hdifferent ?_
        exact List.getElem?_set_ne hne
      have hbefore : w.open? uri = some (earlier, doc) := open?_eq_some.2 ⟨hearlier, found⟩
      have huri : next.uri = uri := hrevision.uri.trans (coherent.uri_eq hbefore)
      have hnow : open? { w with documents := w.documents.set earlier.document next } uri =
          some (earlier, next) :=
        open?_eq_some.2 ⟨hearlier, List.getElem?_set_self (List.getElem?_eq_some_iff.1 found).1⟩
      rw [huri] at hafter ⊢
      -- The report leaves the revised document open under its uri.
      have hdocument := w.services.report_document next.uri earlier next.version changes
      obtain ⟨rfl, rfl⟩ := Prod.mk.inj (Option.some.inj
        (hafter.symm.trans (onEntry_open? hnow hdocument)))
      by_cases htended : w.services.Tended uri earlier doc
      · left
        -- A document that was current is rescheduled by its report; any other is tended as before.
        have happlied : (∃ count, (earlier.applyChanges changes after.version).2 = .applied count) ∨
            w.services.Tended uri earlier after := by
          rcases htended with hcurrent | hrest
          · exact .inl (applied_of_current (coherent.coherent hbefore) hrevision
              (small doc after changes found halter) hcurrent)
          · exact .inr (.inr hrest)
        have hreported := report_tended attended.queued runtime onEdit (attended.armed hearlier)
          happlied
        unfold report
        rw [onEntry_services hnow, huri]
        exact hreported
      · exact .inr (.inr ⟨earlier, doc, hbefore, hrevision.language.symm, htended⟩)
    · exact .inr (.inl hlost)
    · exact .inr (.inr h)

/-! ## Opening and closing -/

/-- A document that is opened is scheduled, in place of what was open under its uri. -/
theorem openDocument_upholds (attended : w.Attended) (runtime : w.services.runtime = true)
    (id : DocumentId) (lost : String → Prop) : Upholds w (w.openDocument id) lost := by
  unfold openDocument
  split
  · exact .refl attended lost
  · next doc found =>
    dsimp only
    cases hprevious : w.entries.find? doc.uri with
    -- The entry is a new one, and its timer is the first under this uri.
    | none =>
      have hown : w.services.Armed doc.uri {} := Services.armed_of_none _ _ rfl
      have htends := w.services.schedule_tends doc.uri { document := id } 0
      refine upholds_put attended hown htends (fun _ _ _ => .inl ?_)
      obtain ⟨task, -, hhandle⟩ := Services.schedule_handle runtime doc.uri { document := id } 0
      exact .of_armed (htends.armed attended.queued hown) hhandle
    | some previous =>
      -- The timer of the entry that was open is cancelled before the new one is set.
      have hown := attended.armed hprevious
      have hcancel := w.services.cancelTimer_tends doc.uri previous
      have htends := hcancel.trans ((Services.Tends.of_none _ doc.uri _ rfl).trans
        (Services.schedule_tends _ doc.uri { document := id } 0))
      refine upholds_put attended hown htends (fun _ _ _ => .inl ?_)
      obtain ⟨task, -, hhandle⟩ := Services.schedule_handle (hcancel.runtime.trans runtime) doc.uri
        { document := id } 0
      exact .of_armed (htends.armed attended.queued hown) hhandle

/-- Closing a uri loses nothing that is still open. -/
theorem close_upholds (attended : w.Attended) (uri : String) (lost : String → Prop) :
    Upholds w (w.close uri).1 lost := by
  unfold close
  split
  · exact .refl attended lost
  · next entry found =>
    have hown := attended.armed found
    have htends := w.services.cancelTimer_tends uri entry
    have hput := attended.put hown htends
    -- Whatever is still open was open elsewhere.
    have helse {other : String} {kept : Entry} (hkept : (w.entries.erase uri).find? other = some kept) :
        other ≠ uri ∧ w.entries.find? other = some kept := by
      rw [Table.find?_erase] at hkept
      split at hkept
      · exact nomatch hkept
      · next hne => exact ⟨hne, hkept⟩
    refine
      { attended := ⟨hput.queued, fun {other kept} hkept => ?_, hput.loading⟩
        config := htends.config, runtime := htends.runtime, languages := htends.languages
        tended := fun {other kept doc} hafter _ => ?_ }
    -- What is still open has its timer, and the task that it waits for.
    · obtain ⟨hne, hbefore⟩ := helse hkept
      have hstill : (w.put uri (w.services.cancelTimer entry).1
          (w.services.cancelTimer entry).2.1).entries.find? other = some kept :=
        (Table.find?_insert _ _ _ _).trans ((if_neg hne).trans hbefore)
      exact hput.armed hstill
    · obtain ⟨hkept, hdoc⟩ := open?_eq_some.1 hafter
      obtain ⟨hne, hbefore⟩ := helse hkept
      by_cases h : w.services.Tended other kept doc
      · exact .inl (attended.tended_elsewhere hown htends hbefore hne h)
      · exact .inr (.inr ⟨kept, doc, open?_eq_some.2 ⟨hbefore, hdoc⟩, rfl, h⟩)

/-! ## Timers that fire -/

/-- A timer that fires in its own generation leaves its document tended. -/
theorem fire_upholds (attended : w.Attended) (runtime : w.services.runtime = true) {entry : Entry}
    {doc : Document} (found : w.open? uri = some (entry, doc)) (key : doc.uri = uri)
    (own : w.services.Armed uri timer)
    (claims : w.services.Tends uri timer s { entry.timer with handle := none })
    (parser : Parser) (lost : String → Prop) :
    Upholds w (w.put uri (s.fire parser doc entry entry.timer.generation).1
      (s.fire parser doc entry entry.timer.generation).2) lost := by
  have hfire : s.Tends uri { entry.timer with handle := none }
      (s.fire parser doc entry entry.timer.generation).1
      (s.fire parser doc entry entry.timer.generation).2.timer := by
    -- The generation is the entry's own, so the wake-up is not superseded.
    rcases s.fire_tends parser doc entry entry.timer.generation with ⟨hne, -⟩ | ⟨-, htends⟩
    · exact absurd rfl hne
    · rw [key] at htends
      exact htends
  have htends := claims.trans hfire
  refine upholds_put attended own htends (fun after hafter supported => .inl ?_)
  obtain rfl : doc = after := by
    have hdoc := (open?_eq_some.1 hafter).2
    rw [(s.fire_turn parser doc entry entry.timer.generation).document] at hdoc
    exact Option.some.inj ((open?_eq_some.1 found).2.symm.trans hdoc)
  -- Which languages are supported does not change when a timer is claimed.
  have hsupported : s.registry.isSupported doc.language = true := by
    unfold Registry.isSupported Registry.config? at supported ⊢
    rw [claims.languages]
    exact supported
  -- The four ways in which a timer that fires can leave its entry.
  rcases Services.fire_leaves (claims.runtime.trans runtime) parser hsupported entry with
    hcurrent | ⟨id, -, hhandle⟩ | ⟨task, htask, hwork⟩ | hgaveUp
  · exact .inl hcurrent
  · exact .of_armed (htends.armed attended.queued own) hhandle
  · rw [key] at hwork
    exact .of_load htask hwork
  · refine .inr (.inr (.inr ?_))
    rw [hfire.config]
    exact hgaveUp

/-- A timer that fires loses nothing, be it in its generation or superseded. -/
theorem timerFired_upholds (attended : w.Attended) (coherent : w.AllCoherent)
    (runtime : w.services.runtime = true) (parser : Parser) (uri : String) (generation : Nat)
    (lost : String → Prop) : Upholds w (w.timerFired parser uri generation) lost := by
  unfold timerFired
  split
  · exact .refl attended lost
  · next entry doc found =>
    -- A wake-up of another generation changes nothing.
    by_cases hgeneration : entry.timer.generation = generation
    · rw [← hgeneration]
      exact fire_upholds attended runtime found (coherent.uri_eq found)
        (Services.armed_of_none _ uri rfl) (.refl _ uri { entry.timer with handle := none }) parser
        lost
    · rcases w.services.fire_tends parser doc entry generation with ⟨-, heq⟩ | ⟨hsame, -⟩
      · rw [heq]
        refine upholds_put attended (attended.armed (open?_eq_some.1 found).1) (.refl _ uri _) ?_
        intro after hafter _
        obtain rfl : doc = after := Option.some.inj
          ((open?_eq_some.1 found).2.symm.trans (open?_eq_some.1 hafter).2)
        by_cases h : w.services.Tended uri entry doc
        · exact .inl h
        · exact .inr (.inr ⟨entry, doc, found, rfl, h⟩)
      · exact absurd hsame hgeneration

end Entries

/-! ## Operations on the services alone -/

/-- What happens to the services loses nothing as long as the tasks that timers wait for are there, and
    the loads. -/
theorem upholds_services (attended : w.Attended) {s : Services}
    (config : s.config = w.services.config) (runtime : s.runtime = w.services.runtime)
    (languages : s.registry.languages = w.services.registry.languages) (queued : s.Queued)
    (loading : s.registry.Attended)
    (timers : ∀ uri entry, w.entries.find? uri = some entry → ∀ task ∈ w.services.tasks,
      entry.timer.handle = some task.id → task ∈ s.tasks)
    (loads : ∀ uri, w.services.LoadUnderWay uri → s.LoadUnderWay uri ∨ lost uri) :
    Upholds w { w with services := s } lost where
  attended := by
    refine ⟨queued, fun {uri entry} found id hhandle => ?_, loading⟩
    obtain ⟨deadline, hmem⟩ := attended.armed found id hhandle
    exact ⟨deadline, timers uri entry found _ hmem hhandle⟩
  config := config
  runtime := runtime
  languages := languages
  tended {uri entry doc} found _ := by
    -- The entry is as it was, so it is tended still if its task and its load are.
    by_cases h : w.services.Tended uri entry doc
    · by_cases hlost : lost uri
      · exact .inr (.inl hlost)
      · refine .inl (h.mono config (timers uri entry (open?_eq_some.1 found).1) fun hload => ?_)
        exact (loads uri hload).resolve_right hlost
    · exact .inr (.inr ⟨entry, doc, found, rfl, h⟩)

/-- What has to do neither with tasks nor with attempts loses nothing. -/
theorem upholds_steady (attended : w.Attended) {s : Services} (steady : w.services.Steady s)
    (tasks : s.tasks = w.services.tasks) (nextTask : s.nextTask = w.services.nextTask)
    (lost : String → Prop) : Upholds w { w with services := s } lost := by
  -- No timer is touched, so any uri will do.
  have htends : w.services.Tends "" {} s {} := .of_tasks steady tasks nextTask
  refine upholds_services attended steady.config steady.runtime steady.languages
    (htends.queued attended.queued) ?_ ?_ ?_
  · intro language hloading
    rw [steady.loading] at hloading
    rw [steady.attempts]
    exact attended.loading language hloading
  · intro uri entry _ task htask _
    rw [tasks]
    exact htask
  · refine fun uri hload => .inl (hload.mono ?_ ?_ ?_)
    · exact fun task htask _ _ => by rw [tasks]; exact htask
    · exact fun waiter hwaiter => by rw [steady.waiters]; exact hwaiter
    · exact fun attempt hattempt => by rw [steady.attempts]; exact hattempt

/-- Loading a grammar on the spot loses nothing. -/
theorem loadBlocking_upholds (attended : w.Attended) (language : String) (lost : String → Prop) :
    Upholds w (w.loadBlocking language).1 lost := by
  obtain ⟨hlanguages, hattempts, hloading⟩ :=
    w.services.registry.loadBlocking_steady w.services.libraries language
  exact upholds_steady attended (s := (w.loadBlocking language).1.services)
    ⟨rfl, rfl, rfl, hlanguages, hattempts, hloading⟩ rfl rfl lost

/-- What is done aside has to do neither with tasks nor with attempts. -/
theorem doAside_services (w : Workspace) (aside : Aside) :
    w.doAside aside = { w with services := (w.doAside aside).services } ∧
      w.services.Steady (w.doAside aside).services ∧
      (w.doAside aside).services.tasks = w.services.tasks ∧
      (w.doAside aside).services.nextTask = w.services.nextTask := by
  cases aside <;> exact ⟨rfl, ⟨rfl, rfl, rfl, rfl, rfl, fun _ => rfl⟩, rfl, rfl⟩

/-- What is done aside loses nothing. -/
theorem doAside_upholds (attended : w.Attended) (aside : Aside) (lost : String → Prop) :
    Upholds w (w.doAside aside) lost := by
  obtain ⟨heq, hsteady, htasks, hnext⟩ := w.doAside_services aside
  rw [heq]
  exact upholds_steady attended hsteady htasks hnext lost

/-- Asking for a grammar loses nothing: an attempt that is under way stays. -/
theorem requestGrammar_upholds (attended : w.Attended) (language : String)
    (lost : String → Prop) : Upholds w (w.requestGrammar language).1 lost := by
  refine upholds_services attended (s := (w.requestGrammar language).1.services) rfl rfl
    (w.services.registry.request_languages w.services.libraries language)
    ⟨attended.queued.distinct, attended.queued.given⟩
    (attended.loading.request w.services.libraries language) ?_ ?_
  · exact fun _ _ _ _ htask _ => htask
  · refine fun uri hload => .inl (hload.mono ?_ ?_ ?_)
    · exact fun _ htask _ _ => htask
    · exact fun _ hwaiter => hwaiter
    · exact fun _ hattempt => Registry.mem_attempts_request hattempt _ language

/-! ## Loads -/

/-- A document that is scheduled is tended if it is open. -/
theorem scheduleIfOpen_tended (attended : w.Attended) (runtime : w.services.runtime = true)
    {uri : String} {delay : Nat} {entry : Entry} {doc : Document}
    (found : (w.scheduleIfOpen uri delay).open? uri = some (entry, doc)) :
    (w.scheduleIfOpen uri delay).services.Tended uri entry doc := by
  have hattended := (scheduleIfOpen_upholds attended runtime uri delay fun _ => False).attended
  obtain ⟨hentry, -⟩ := open?_eq_some.1 found
  have harmed := hattended.armed hentry
  -- The entry that is open is the one that was scheduled.
  unfold scheduleIfOpen at hentry harmed ⊢
  cases hbefore : w.entries.find? uri with
  | none =>
    rw [hbefore] at hentry
    exact nomatch hbefore.symm.trans hentry
  | some earlier =>
    rw [hbefore] at hentry harmed
    obtain rfl := Option.some.inj ((Table.find?_insert_self _ _ _).symm.trans hentry)
    obtain ⟨id, -, hhandle⟩ := Services.schedule_handle runtime uri earlier delay
    exact .of_armed harmed hhandle

/-- One more document may wait in the background. -/
theorem addWaiter_upholds (attended : w.Attended) (waiter : Waiter) (lost : String → Prop) :
    Upholds w { w with services := { w.services with
      waiters := w.services.waiters ++ [waiter] } } lost := by
  refine upholds_services attended
    (s := { w.services with waiters := w.services.waiters ++ [waiter] }) rfl rfl rfl
    ⟨attended.queued.distinct, attended.queued.given⟩ attended.loading ?_ ?_
  · exact fun _ _ _ _ htask _ => htask
  -- The waiters only become more.
  · refine fun other hload => .inl (hload.mono ?_ ?_ ?_)
    · exact fun _ htask _ _ => htask
    · exact fun _ hwaiter => List.mem_append_left _ hwaiter
    · exact fun _ hattempt => hattempt

/-- A load in the background loses nothing but its own task, whatever the registry replies. -/
theorem backgroundLoad_upholds (attended : w.Attended) (runtime : w.services.runtime = true)
    (uri language : String) (lost : String → Prop) :
    Upholds w (w.backgroundLoad uri language) lost := by
  have hrequest := requestGrammar_upholds attended language lost
  unfold backgroundLoad
  -- A grammar at hand schedules the document, and a waiting reply lets it wait.
  split
  · next later _ h =>
    rw [h] at hrequest
    refine (hrequest.trans (scheduleIfOpen_upholds hrequest.attended
      (hrequest.runtime.trans runtime) uri 0 lost)).weaken fun _ hlost => ?_
    exact hlost.elim id id
  · next h => rw [h] at hrequest; exact hrequest
  · next later h =>
    rw [h] at hrequest
    refine (hrequest.trans (addWaiter_upholds hrequest.attended ⟨language, uri⟩ lost)).weaken
      fun _ hlost => ?_
    exact hlost.elim id id

/-- A load that does not fail leaves its document tended: the document is scheduled, or waits for the
    grammar. -/
theorem backgroundLoad_tended (attended : w.Attended) (runtime : w.services.runtime = true)
    {uri language : String} (h : ∀ error, (w.requestGrammar language).2 ≠ .failed error)
    {entry : Entry} {doc : Document}
    (found : (w.backgroundLoad uri language).open? uri = some (entry, doc)) :
    (w.backgroundLoad uri language).services.Tended uri entry doc := by
  have hrequest := requestGrammar_upholds attended language fun _ => False
  have hwaiting : (w.services.registry.request w.services.libraries language).2 = .waiting → _ :=
    attended.loading.waiting
  -- The registry's reply is the workspace's.
  unfold backgroundLoad at found ⊢
  cases hreply : w.requestGrammar language with
  | mk later reply =>
    rw [hreply] at hrequest h found
    have hregistry : (w.services.registry.request w.services.libraries language).1 =
        later.services.registry := congrArg (fun pair => pair.1.services.registry) hreply
    have hsame : (w.services.registry.request w.services.libraries language).2 = reply :=
      congrArg Prod.snd hreply
    cases reply with
    | ready grammar =>
      exact scheduleIfOpen_tended hrequest.attended (hrequest.runtime.trans runtime) found
    | failed error => exact absurd rfl (h error)
    | waiting =>
      -- The attempt that the reply speaks of is under way, and the document waits for it.
      obtain ⟨attempt, hattempt, hid⟩ := hwaiting hsame
      rw [hregistry] at hattempt
      exact .inr (.inr (.inl (.inr ⟨⟨language, uri⟩, List.mem_append_right _ List.mem_cons_self, rfl,
        attempt, hattempt, hid⟩)))

/-- What is lost when a task runs: the document of a load that fails. -/
def LoadFailed (w : Workspace) (task : Task) (uri : String) : Prop :=
  ∃ language, task.work = .load uri language ∧
    ∃ error, (w.requestGrammar language).2 = .failed error

/-- A task that no timer waits for may be dropped, but for the load that it may be. -/
theorem abort_upholds (attended : w.Attended) {task : Task} (htask : task ∈ w.services.tasks)
    (unused : ∀ uri entry, w.entries.find? uri = some entry →
      entry.timer.handle ≠ some task.id) :
    Upholds w { w with services := w.services.abort task.id }
      (fun uri => ∃ language, task.work = .load uri language) := by
  refine upholds_services attended rfl rfl rfl (attended.queued.abort task.id) attended.loading ?_ ?_
  · intro uri entry found other hother hhandle
    refine Services.mem_abort.2 ⟨hother, fun heq => ?_⟩
    rw [heq] at hhandle
    exact unused uri entry found hhandle
  -- A load that is dropped is the one whose task this is.
  · rintro uri (⟨other, hother, language, hwork⟩ | hwaits)
    · by_cases heq : other.id = task.id
      · obtain rfl := attended.queued.distinct other hother task htask heq
        exact .inr ⟨language, hwork⟩
      · exact .inl (.inl ⟨other, Services.mem_abort.2 ⟨hother, heq⟩, language, hwork⟩)
    · exact .inl (.inr hwaits)

/-- A task that runs loses nothing but the document of a load that fails. -/
theorem runTask_upholds (attended : w.Attended) (coherent : w.AllCoherent)
    (runtime : w.services.runtime = true) (parser : Parser) {task : Task}
    (htask : task ∈ w.services.tasks) :
    Upholds w (w.runTask parser task) (LoadFailed w task) := by
  by_cases hused : ∃ uri entry, w.entries.find? uri = some entry ∧
      entry.timer.handle = some task.id
  · -- Some timer waits for the task, so the task is there to wake it.
    obtain ⟨uri, entry, hentry, hhandle⟩ := hused
    obtain ⟨deadline, hmem⟩ := attended.armed hentry task.id hhandle
    have hwork : task.work = .reparse uri entry.timer.generation :=
      congrArg Task.work (attended.queued.distinct task htask _ hmem rfl)
    obtain ⟨doc, hdoc, huri, -⟩ := coherent uri entry hentry
    have hfound : w.open? uri = some (entry, doc) := open?_eq_some.2 ⟨hentry, hdoc⟩
    have hafter : open? { w with services := w.services.abort task.id } uri = some (entry, doc) :=
      hfound
    unfold runTask timerFired
    dsimp only
    rw [hwork]
    dsimp only
    rw [hafter]
    exact fire_upholds attended runtime hfound huri (attended.armed hentry)
      (w.services.abort_tends uri hhandle rfl) parser _
  -- No timer waits for the task, so dropping it loses at most a load.
  · have habort := abort_upholds attended htask
      (fun uri entry hentry hhandle => hused ⟨uri, entry, hentry, hhandle⟩)
    unfold runTask
    dsimp only
    cases hwork : task.work with
    | reparse uri generation =>
      refine (habort.trans (timerFired_upholds habort.attended coherent runtime parser uri
        generation (fun _ => False))).weaken ?_
      rintro other (⟨language, hload⟩ | hfalse)
      · exact nomatch hwork.symm.trans hload
      · exact hfalse.elim
    | load uri language =>
      have hboth := habort.trans (backgroundLoad_upholds habort.attended runtime uri language
        fun _ => False)
      refine { hboth with tended := fun {other entry doc} found supported => ?_ }
      -- Either the document of the load is meant, or nothing is lost.
      rcases hboth.tended found supported with htended | (⟨_, hload⟩ | hfalse) | huntended
      · exact .inl htended
      · -- The load has come to an end, or its document waits for the grammar.
        rw [hwork] at hload
        injection hload with huri hlanguage
        subst huri
        by_cases hfailed : ∃ error, (w.requestGrammar language).2 = .failed error
        · exact .inr (.inl ⟨language, hwork, hfailed⟩)
        · exact .inl (backgroundLoad_tended habort.attended runtime
            (fun error herror => hfailed ⟨error, herror⟩) found)
      · exact hfalse.elim
      · exact .inr (.inr huntended)

/-! ## The end of an attempt -/

/-- Scheduling all that have waited tends them, and loses nothing else. -/
theorem foldl_schedule_upholds (attended : w.Attended) (runtime : w.services.runtime = true)
    (resumed : List Waiter) (lost : String → Prop) :
    Upholds w (resumed.foldl (fun w waiter => w.scheduleIfOpen waiter.uri 0) w) lost ∧
      ∀ waiter ∈ resumed, ∀ entry doc,
        (resumed.foldl (fun w waiter => w.scheduleIfOpen waiter.uri 0) w).open? waiter.uri =
          some (entry, doc) →
        w.services.registry.isSupported doc.language = true →
        (resumed.foldl (fun w waiter => w.scheduleIfOpen waiter.uri 0) w).services.Tended waiter.uri
          entry doc ∨ lost waiter.uri := by
  -- By induction on those that wait, over all workspaces: the first is scheduled, then the rest.
  induction resumed generalizing w with
  | nil => exact ⟨.refl attended lost, fun waiter hwaiter => nomatch hwaiter⟩
  | cons first rest ih =>
    have hfirst := scheduleIfOpen_upholds attended runtime first.uri 0 lost
    obtain ⟨hrest, htended⟩ := ih hfirst.attended (hfirst.runtime.trans runtime)
    refine ⟨(hfirst.trans hrest).weaken fun _ hlost => hlost.elim id id, ?_⟩
    intro waiter hwaiter entry doc found supported
    rw [← isSupported_congr hfirst.languages] at supported
    rcases List.mem_cons.1 hwaiter with rfl | hwaiter
    · -- What is tended when it is scheduled stays so while the others are.
      rcases hrest.tended found supported with htended | hlost | ⟨earlier, before, hbefore, -, hnot⟩
      · exact .inl htended
      · exact .inr hlost
      · exact absurd (scheduleIfOpen_tended attended runtime hbefore) hnot
    · exact htended waiter hwaiter entry doc found supported

/-- Some document under a uri waits in the background for a language. -/
def WaitsFor (w : Workspace) (language uri : String) : Prop :=
  ∃ waiter ∈ w.services.waiters, waiter.language = language ∧ waiter.uri = uri

/-- When the attempt at a language ends, all that have waited for it are dismissed. -/
theorem dismiss_upholds (attended : w.Attended) (language : String) :
    Upholds w { w with services := { w.services with
      waiters := w.services.waiters.filter (·.language ≠ language) } } (w.WaitsFor language) := by
  refine upholds_services attended
    (s := { w.services with waiters := w.services.waiters.filter (·.language ≠ language) })
    rfl rfl rfl ⟨attended.queued.distinct, attended.queued.given⟩ attended.loading ?_ ?_
  · exact fun _ _ _ _ htask _ => htask
  -- A load whose task is queued goes on; one that waits for this language is lost here.
  · rintro uri (htask | ⟨waiter, hwaiter, huri, hattempt⟩)
    · exact .inl (.inl htask)
    · by_cases heq : waiter.language = language
      · exact .inr ⟨waiter, hwaiter, heq, huri⟩
      · exact .inl (.inr ⟨waiter, List.mem_filter.2 ⟨hwaiter, decide_eq_true heq⟩, huri, hattempt⟩)

/-- When an attempt completes, those that have waited for its language have nothing left to wait
    for. -/
theorem completeLoad_upholds (attended : w.Attended) (language : String) :
    Upholds w (w.completeLoad language).1 (w.WaitsFor language) := by
  refine upholds_services attended (s := (w.completeLoad language).1.services) rfl rfl
    (w.services.registry.complete_languages w.services.libraries language)
    ⟨attended.queued.distinct, attended.queued.given⟩
    (attended.loading.complete w.services.libraries language) ?_ ?_
  · exact fun _ _ _ _ htask _ => htask
  -- An attempt at another language is under way still.
  · rintro uri (htask | ⟨waiter, hwaiter, huri, attempt, hattempt, hid⟩)
    · exact .inl (.inl htask)
    · by_cases heq : waiter.language = language
      · exact .inr ⟨waiter, hwaiter, heq, huri⟩
      · refine .inl (.inr ⟨waiter, hwaiter, huri, attempt, ?_, hid⟩)
        exact Registry.mem_attempts_complete hattempt (by rw [hid]; exact heq)

/-- All that have waited for a language go on: they are scheduled if the grammar has come, and
    otherwise lost. -/
theorem resumeWaiters_upholds (attended : w.Attended) (runtime : w.services.runtime = true)
    (language : String) (outcome : Except GrammarError Grammar) :
    Upholds w (w.resumeWaiters language outcome) (w.WaitsFor language) ∧
      ∀ grammar, outcome = .ok grammar → ∀ uri entry doc, w.WaitsFor language uri →
        (w.resumeWaiters language outcome).open? uri = some (entry, doc) →
        w.services.registry.isSupported doc.language = true →
        (w.resumeWaiters language outcome).services.Tended uri entry doc := by
  have hdismiss := dismiss_upholds attended language
  unfold resumeWaiters
  -- Only a grammar that has come lets them be scheduled.
  cases outcome with
  | error error => exact ⟨hdismiss, fun _ h => nomatch h⟩
  | ok grammar =>
    dsimp only
    obtain ⟨hschedule, htended⟩ := foldl_schedule_upholds hdismiss.attended runtime
      (w.services.waiters.filter (·.language == language)) (fun _ => False)
    refine ⟨(hdismiss.trans hschedule).weaken fun _ hlost => ?_, ?_⟩
    · exact hlost.elim id False.elim
    · rintro _ _ uri entry doc ⟨waiter, hwaiter, hlanguage, rfl⟩ found supported
      have hresumed : waiter ∈ w.services.waiters.filter (·.language == language) :=
        List.mem_filter.2 ⟨hwaiter, beq_iff_eq.2 hlanguage⟩
      exact (htended waiter hresumed entry doc found supported).resolve_right id

/-- What is lost when an attempt at a language ends: those that have waited for it, if it has failed,
    and otherwise what a caller has looked at in vain. -/
def AttemptFailed (w : Workspace) (parser : Parser) (language : String) (caller : Option String)
    (uri : String) : Prop :=
  match (w.completeLoad language).2 with
  | none => False
  | some (.error _) => w.WaitsFor language uri
  | some (.ok _) => caller = some uri ∧
      ∃ error, ((w.completeLoad language).1.treeNow parser uri).2 = .error error

/-- A caller that looks at a tree loses it only if there is none. -/
theorem lookAfter_upholds (attended : w.Attended) (parser : Parser) (grammar : Grammar)
    (caller : Option String) :
    Upholds w (w.lookAfter parser (.ok grammar) caller) (fun uri => caller = some uri ∧
      ∃ error, (w.treeNow parser uri).2 = .error error) ∧
      (w.lookAfter parser (.ok grammar) caller).services.waiters = w.services.waiters := by
  cases caller with
  | none => exact ⟨.refl attended _, rfl⟩
  | some uri =>
    refine ⟨(treeNow_upholds attended parser uri).weaken ?_, ?_⟩
    · rintro _ ⟨rfl, herror⟩
      exact ⟨rfl, herror⟩
    · show ((w.treeNow parser uri).1).services.waiters = w.services.waiters
      unfold treeNow onEntry
      split
      · rfl
      -- A tree on demand lets nobody wait.
      · next entry doc _ => exact (w.services.treeNow_tends parser doc entry uri).waiters

/-- At the end of an attempt those that waited for it are scheduled, if it has succeeded. -/
theorem finish_upholds (attended : w.Attended) (awaited : w.Awaited)
    (runtime : w.services.runtime = true) (parser : Parser) (language : String)
    (caller : Option String) :
    Upholds w (w.finish parser language caller) (AttemptFailed w parser language caller) := by
  -- The three parts of the end: the attempt completes, the caller looks, the waiters are resumed.
  have hcomplete := completeLoad_upholds attended language
  have hwaits (later : Workspace) (h : later.services.waiters = w.services.waiters) (uri : String) :
      later.WaitsFor language uri → w.WaitsFor language uri := by
    unfold WaitsFor
    rw [h]
    exact id
  have hnone : (w.services.registry.complete w.services.libraries language).2 = none → _ :=
    Registry.complete_eq_none
  unfold finish AttemptFailed
  cases hended : w.completeLoad language with
  | mk ended outcome =>
    have hwaiters : ended.services.waiters = w.services.waiters :=
      congrArg (fun pair => pair.1.services.waiters) hended.symm
    have houtcome : (w.services.registry.complete w.services.libraries language).2 = outcome :=
      congrArg Prod.snd hended
    rw [hended] at hcomplete
    -- Those that wait are resumed with the outcome, whatever it is.
    have hresume (outcome : Except GrammarError Grammar) := resumeWaiters_upholds
      hcomplete.attended (hcomplete.runtime.trans runtime) language outcome
    cases outcome with
    | none =>
      -- Nobody waits for an attempt that is not under way.
      refine (hcomplete.trans (hresume _).1).weaken fun uri hlost => ?_
      have hwaiting : w.WaitsFor language uri := hlost.elim id (hwaits ended hwaiters uri)
      obtain ⟨waiter, hwaiter, hlanguage, -⟩ := hwaiting
      obtain ⟨attempt, hattempt, hid⟩ := awaited waiter hwaiter
      exact (hnone houtcome).2 attempt hattempt (hid.trans hlanguage)
    | some outcome =>
      cases outcome with
      -- A caller is told of a failure without looking at its tree.
      | error error =>
        have hlook : ended.lookAfter parser (.error error) caller = ended := by
          cases caller <;> rfl
        dsimp only
        rw [hlook]
        refine (hcomplete.trans (hresume _).1).weaken fun uri hlost => ?_
        exact hlost.elim id (hwaits ended hwaiters uri)
      | ok grammar =>
        obtain ⟨hlook, hsame⟩ := lookAfter_upholds hcomplete.attended parser grammar caller
        have hruntime := hlook.runtime.trans (hcomplete.runtime.trans runtime)
        have hlanguages := hlook.languages.trans hcomplete.languages
        obtain ⟨hresumed, htended⟩ := resumeWaiters_upholds hlook.attended hruntime language
          (.ok grammar)
        have hall := hcomplete.trans (hlook.trans hresumed)
        dsimp only
        refine { hall with tended := fun {uri entry doc} found supported => ?_ }
        -- Those that have waited are scheduled now, whatever became of them before.
        have hscheduled (h : w.WaitsFor language uri) : _ :=
          htended grammar rfl uri entry doc
            (by unfold WaitsFor at h ⊢; rw [hsame, hwaiters]; exact h) found
            (by rw [isSupported_congr hlanguages]; exact supported)
        -- Lost by the completion, by the caller's look or by the dismissal: the first and the last
        -- were waiting.
        rcases hall.tended found supported with h | (hwait | hlost | hwait) | huntended
        · exact .inl h
        · exact .inl (hscheduled hwait)
        · exact .inr (.inl hlost)
        · exact .inl (hscheduled (hwaits _ (hsame.trans hwaiters) uri hwait))
        · exact .inr (.inr huntended)

end Workspace

end LiveTree
