import LiveTree.Proofs.Currency
import LiveTree.Proofs.Moves

/-!
# What subscribers are told

A tree that is committed is published, and nothing else is.  A `Broadcast` is a run together with the
updates that were published in it, oldest first: one for every parse that commits a tree, and none for
anything else that can happen.

An operation after a tree publishes at most one update.  Which one can be read off its entry: the
current tree afterwards, if there was none before.

## Key results

- `Services.treeNow_informs`, `Services.fire_informs` and so on: what each operation publishes
- `Broadcast.uris`: there is one update for every commit, in the same order
- `undergo_broadcasts`: every sequence of events is a broadcast, in which the host does the same
-/

namespace LiveTree

/-- The update that is due when an entry has become another one: its tree, if it is current and the
    entry had no current one before. -/
def Entry.news (entry : Entry) (doc : Document) (next : Entry) : List Update :=
  match entry.currentTree? doc.version, next.currentTree? doc.version with
  | none, some tree => [⟨doc.uri, tree⟩]
  | _, _ => []

namespace Entry

variable {entry next : Entry} {doc : Document}

/-- Whether a tree is current does not depend on the timer. -/
theorem currentTree?_of_untimed (h : next.untimed = entry.untimed) (version : Int) :
    next.currentTree? version = entry.currentTree? version := by
  have hcommitted := congrArg Entry.committed h
  have hstate := congrArg Entry.state h
  unfold currentTree?
  rw [show next.committed = entry.committed from hcommitted,
    show next.state = entry.state from hstate]

/-- A parse that fails leaves no current tree. -/
theorem currentTree?_of_fail (entry : Entry) (version : Int) :
    entry.fail.currentTree? version = none := by
  unfold currentTree? fail
  dsimp only
  split
  -- The state after a failure is either that there is no tree or that the tree is stale.
  · next hstate => split at hstate <;> exact nomatch hstate
  · rfl

/-- While a tree is current, nothing is news. -/
theorem news_of_current {tree : SyntaxTree} (h : entry.currentTree? doc.version = some tree)
    (next : Entry) : entry.news doc next = [] := by
  unfold news
  rw [h]

/-- Without a current tree afterwards, there is nothing to tell. -/
theorem news_of_outdated (h : next.currentTree? doc.version = none) : entry.news doc next = [] := by
  unfold news
  rw [h]
  cases entry.currentTree? doc.version <;> rfl

/-- A current tree where there was none is news. -/
theorem news_of_tree {tree : SyntaxTree} (outdated : entry.currentTree? doc.version = none)
    (h : next.currentTree? doc.version = some tree) : entry.news doc next = [⟨doc.uri, tree⟩] := by
  unfold news
  rw [outdated, h]

/-- Setting a timer is no news. -/
theorem news_of_untimed (h : next.untimed = entry.untimed) : entry.news doc next = [] := by
  cases hcurrent : entry.currentTree? doc.version with
  | some tree => exact news_of_current hcurrent next
  | none =>
    refine news_of_outdated ?_
    rw [currentTree?_of_untimed h, hcurrent]

/-- Timers do not matter to the news. -/
theorem news_congr {earlier later : Entry} (before : earlier.untimed = entry.untimed)
    (after : later.untimed = next.untimed) : earlier.news doc later = entry.news doc next := by
  unfold news
  rw [currentTree?_of_untimed before, currentTree?_of_untimed after]

end Entry

namespace Services

/-- An operation on an entry has published what was due, and nothing else. -/
def Informs (s : Services) (doc : Document) (entry : Entry) (later : Services) (next : Entry) :
    Prop :=
  later.events = (entry.news doc next).foldl Channel.publish s.events

variable {s later : Services} {doc : Document} {entry next : Entry}

/-- An operation that lets the entry rest publishes nothing. -/
theorem Informs.of_untimed (same : next.untimed = entry.untimed) (events : later.events = s.events) :
    s.Informs doc entry later next := by
  unfold Informs
  rw [Entry.news_of_untimed same]
  exact events

/-- Timers do not matter, nor what else happens to the services. -/
theorem Informs.congr {start finish : Services} {earlier last : Entry}
    (h : s.Informs doc entry later next) (start_events : s.events = start.events)
    (before : earlier.untimed = entry.untimed) (finish_events : finish.events = later.events)
    (after : last.untimed = next.untimed) : start.Informs doc earlier finish last := by
  unfold Informs at h ⊢
  rw [Entry.news_congr before after, ← start_events, finish_events]
  exact h

/-! ## Operations -/

/-- Cancelling a timer is told to nobody. -/
theorem cancelTimer_events (s : Services) (entry : Entry) :
    (s.cancelTimer entry).1.events = s.events := by
  unfold cancelTimer
  split <;> rfl

/-- Nor is setting one. -/
theorem schedule_events (s : Services) (uri : String) (entry : Entry) (delay : Nat) :
    (s.schedule uri entry delay).1.events = s.events := by
  unfold schedule
  split
  · refine Eq.trans ?_ (s.cancelTimer_events entry)
    dsimp only
    split <;> rfl
  · rfl

/-- Fetching a grammar is told to nobody. -/
theorem grammarNow_events (s : Services) (language : String) :
    (s.grammarNow language).1.events = s.events := by
  unfold grammarNow
  split
  · rfl
  · split <;> rfl

/-- A report is told to nobody, even one that is applied. -/
theorem report_events (s : Services) (uri : String) (entry : Entry) (version : Int)
    (changes : List Change) : (s.report uri entry version changes).1.events = s.events := by
  have hends := s.report_ends uri entry version changes
  generalize s.report uri entry version changes = ending at hends ⊢
  cases hends with
  | scheduled _ _ => exact schedule_events _ uri _ _
  | applied _ _ => rfl
  | dropped _ => rfl
  | stopped _ => rfl

/-- A parse publishes the tree that it commits, and nothing if it fails. -/
theorem parseEntry_informs (s : Services) (parser : Parser)
    (outdated : entry.currentTree? doc.version = none) (grammar : Grammar) :
    s.Informs doc entry (s.parseEntry parser doc entry grammar).1
      (s.parseEntry parser doc entry grammar).2.1 := by
  unfold Informs
  cases hattempt : Pool.attempt (parser.paced s.pace) grammar doc.text
      (entry.beginParse doc.version).2 s.config.parseTimeoutMs with
  | ok source =>
    have hcurrent : (s.parseEntry parser doc entry grammar).2.1.currentTree? doc.version =
        some (.ofParse grammar.language doc.version source) :=
      currentTree?_of_parseEntry (by rw [parseEntry_of_ok hattempt])
    -- The tree that the parse has committed is current, and before there was none.
    rw [Entry.news_of_tree outdated hcurrent]
    unfold parseEntry parseText Pool.parse
    dsimp only
    rw [hattempt]
    rfl
  | error failure =>
    have hnone : (s.parseEntry parser doc entry grammar).2.1.currentTree? doc.version = none := by
      rw [parseEntry_of_error hattempt]
      exact Entry.currentTree?_of_fail _ doc.version
    rw [Entry.news_of_outdated hnone]
    unfold parseEntry parseText Pool.parse
    dsimp only
    rw [hattempt]
    rfl

/-- A look at the tree publishes the tree that it has parsed, if it had to. -/
theorem treeNow_informs (s : Services) (parser : Parser) (doc : Document) (entry : Entry) :
    s.Informs doc entry (s.treeNow parser doc entry).1 (s.treeNow parser doc entry).2.1 := by
  cases hcurrent : entry.currentTree? doc.version with
  | some tree => rw [treeNow_of_current parser hcurrent]; exact .of_untimed rfl rfl
  | none =>
    rw [treeNow_of_outdated parser hcurrent]
    -- Neither the cancellation nor the grammar is told to anybody, so the parse publishes all there
    -- is.
    have hgrammar := ((s.cancelTimer entry).1.grammarNow_events doc.language).trans
      (s.cancelTimer_events entry)
    split
    · next later error h =>
      rw [h] at hgrammar
      exact .of_untimed (s.cancelTimer_untimed entry) hgrammar
    · next later grammar h =>
      rw [h] at hgrammar
      have hsame := s.cancelTimer_untimed entry
      have hparse := later.parseEntry_informs parser
        ((Entry.currentTree?_of_untimed hsame doc.version).trans hcurrent) grammar
      exact hparse.congr hgrammar hsame.symm rfl rfl

/-- So does the scheduled path. -/
theorem reparse_informs (s : Services) (parser : Parser) (doc : Document) (entry : Entry) :
    s.Informs doc entry (s.reparse parser doc entry).1 (s.reparse parser doc entry).2.1 := by
  have hends := s.reparse_ends parser doc entry
  generalize s.reparse parser doc entry = ending at hends ⊢
  cases hends with
  | current _ => exact .of_untimed rfl rfl
  | @parsed grammar outdated _ => exact s.parseEntry_informs parser outdated grammar
  -- Without a grammar there is at most a timer to set or a load to start.
  | waiting _ _ _ _ =>
    exact .of_untimed (s.schedule_untimed doc.uri entry _) (s.schedule_events doc.uri entry _)
  | loading _ _ _ _ _ => exact .of_untimed rfl rfl
  | resting _ _ _ => exact .of_untimed rfl rfl

/-- The scheduled path, after whatever timer there was has been cancelled. -/
theorem cancelTimer_reparse_informs (s : Services) (parser : Parser) (doc : Document)
    (entry : Entry) :
    s.Informs doc entry ((s.cancelTimer entry).1.reparse parser doc (s.cancelTimer entry).2.1).1
      ((s.cancelTimer entry).1.reparse parser doc (s.cancelTimer entry).2.1).2.1 :=
  (reparse_informs _ parser doc _).congr (s.cancelTimer_events entry)
    (s.cancelTimer_untimed entry).symm rfl rfl

/-- A timer that fires goes the scheduled path, and what it does besides is no news. -/
theorem fire_informs (s : Services) (parser : Parser) (doc : Document) (entry : Entry)
    (generation : Nat) :
    s.Informs doc entry (s.fire parser doc entry generation).1
      (s.fire parser doc entry generation).2 := by
  unfold fire
  split
  · exact .of_untimed rfl rfl
  · next timer _ =>
    dsimp only
    have hreparse := reparse_informs (s.measure Metrics.recordScheduledFire) parser doc
      { entry with timer := timer }
    split
    · next h =>
      rw [h] at hreparse
      -- The fire is counted, and that is told to nobody.
      exact hreparse.congr rfl rfl rfl rfl
    · next later failed error h =>
      rw [h] at hreparse
      -- Failures do not matter to what is current.
      have hcounted : s.Informs doc entry later
          { failed with consecutiveFailures := failed.consecutiveFailures + 1 } := hreparse
      split
      · exact hcounted.congr rfl rfl (later.schedule_events _ _ _) (later.schedule_untimed _ _ _)
      · exact hcounted

/-- A verification publishes what the look at the tree publishes; its second parse is told to
    nobody. -/
theorem verify_informs (s : Services) (parser : Parser) (doc : Document) (entry : Entry) :
    s.Informs doc entry (s.verify parser doc entry).1 (s.verify parser doc entry).2.1 := by
  have htree := s.treeNow_informs parser doc entry
  unfold verify
  split
  -- The look has failed, so there is no second parse.
  · next h => rw [h] at htree; exact htree
  · next later changed tree h =>
    rw [h] at htree
    have hgrammar := later.grammarNow_events tree.language
    split
    · next h => rw [h] at hgrammar; exact htree.congr rfl rfl hgrammar rfl
    · next last grammar h =>
      rw [h] at hgrammar
      -- From here on nothing is committed, so the channel stays as the look has left it.
      have hparse : (last.parseText parser grammar doc.text none).1.events = later.events := hgrammar
      split
      · next h => rw [h] at hparse; exact htree.congr rfl rfl hparse rfl
      · next final source h =>
        rw [h] at hparse
        dsimp only
        split <;> exact htree.congr rfl rfl hparse rfl

end Services

/-- The uri whose document gets a new tree. -/
def Happening.committed? : Happening → Option String
  | parsed uri _ true => some uri
  | _ => none

namespace Workspace

/-- What is published in a step: the tree that is committed, and nothing in any other step. -/
inductive Tells (w later : Workspace) : Happening → List Update → Prop where
  | nothing {happening : Happening} (uncommitted : happening.committed? = none)
      (sent : later.services.events.sent = w.services.events.sent) : Tells w later happening []
  | tree {uri : String} {previous : Option PreviousTree} {entry : Entry} {doc : Document}
      {tree : SyntaxTree} (found : later.open? uri = some (entry, doc))
      (committed : entry.committed = some tree)
      (events : later.services.events = w.services.events.publish ⟨doc.uri, tree⟩) :
      Tells w later (.parsed uri previous true) [⟨doc.uri, tree⟩]

/-- Runs from a workspace with the updates published in them, oldest first. -/
inductive Broadcast (parser : Parser) (w : Workspace) :
    List Happening → List Update → Workspace → Prop where
  | nil : Broadcast parser w [] [] w
  | snoc {trace : List Happening} {updates news : List Update} {happening : Happening}
      {next later : Workspace} (earlier : Broadcast parser w trace updates next)
      (step : Step parser next happening later) (tells : next.Tells later happening news) :
      Broadcast parser w (trace ++ [happening]) (updates ++ news) later

section Broadcasting

variable {parser : Parser} {w later : Workspace} {trace : List Happening} {updates : List Update}

/-- A broadcast is a run, with the updates written down. -/
theorem Broadcast.run (h : Broadcast parser w trace updates later) : Run parser w trace later := by
  induction h with
  | nil => exact .nil
  | snoc _ step _ ih => exact ih.snoc step

/-- Broadcasts in sequence are a broadcast, with the updates of the one before those of the other.
    -/
theorem Broadcast.append {last : Workspace} {trace' : List Happening} {updates' : List Update}
    (h : Broadcast parser w trace updates later)
    (h' : Broadcast parser later trace' updates' last) :
    Broadcast parser w (trace ++ trace') (updates ++ updates') last := by
  induction h' with
  | nil => rw [List.append_nil, List.append_nil]; exact h
  | snoc _ step tells ih =>
    rw [← List.append_assoc, ← List.append_assoc]
    exact ih.snoc step tells

/-- What has been sent meanwhile are updates that were published, in that order; those are missing that
    were published while nobody was subscribed. -/
theorem Broadcast.sent (h : Broadcast parser w trace updates later) :
    ∃ heard, heard.Sublist updates ∧
      later.services.events.sent = w.services.events.sent ++ heard := by
  -- On the steps: a step sends nothing, or it publishes a tree.
  induction h with
  | nil => exact ⟨[], .refl _, (List.append_nil _).symm⟩
  | snoc _ _ tells ih =>
    obtain ⟨heard, hsub, hsent⟩ := ih
    cases tells with
    | nothing uncommitted sent =>
      rw [List.append_nil, sent]
      exact ⟨heard, hsub, hsent⟩
    | tree found committed events =>
      rw [events]
      unfold Channel.publish
      -- An update that nobody is subscribed to is published but not heard.
      split
      · exact ⟨heard, hsub.trans (List.sublist_append_left _ _), hsent⟩
      · exact ⟨heard ++ _, hsub.append (.refl _), by rw [hsent, List.append_assoc]⟩

/-- There is one update for every commit, in the same order and under the same uri. -/
theorem Broadcast.uris {config : Config} {dataHome : String} {libraries : Libraries} {runtime : Bool}
    {before : List Happening} (run : Run parser (create config dataHome libraries runtime) before w)
    (h : Broadcast parser w trace updates later) :
    updates.map Update.uri = trace.filterMap Happening.committed? := by
  induction h with
  | nil => rfl
  | snoc earlier step tells ih =>
    rw [List.map_append, List.filterMap_append, ih]
    cases tells with
    | nothing uncommitted sent => rw [List.filterMap_cons_none uncommitted]; rfl
    | @tree uri _ entry doc _ found committed events =>
      -- What is open under a uri is a document of that uri.
      have hrun := (run.append earlier.run).snoc step
      obtain ⟨hentry, hdoc⟩ := open?_eq_some.1 found
      obtain ⟨own, hown, huri, -⟩ := hrun.entriesHold (Committed.kept parser) uri entry hentry
      obtain rfl := Option.some.inj (hown.symm.trans hdoc)
      exact congrArg (_ ++ [·]) huri

end Broadcasting

/-- Some broadcast leads from one workspace to another, in which the host does the given things. -/
def Broadcasts (parser : Parser) (w : Workspace) (doings : List Happening) (later : Workspace) :
    Prop :=
  ∃ trace updates, Broadcast parser w trace updates later ∧
    trace.filter Happening.byHost = doings

section Moving

variable {parser : Parser} {w : Workspace} {uri : String}

/-- Nothing has to happen in a broadcast. -/
theorem Broadcasts.refl (parser : Parser) (w : Workspace) : Broadcasts parser w [] w :=
  ⟨[], [], .nil, rfl⟩

/-- Broadcasts in sequence, in which the host does first the one and then the other. -/
theorem Broadcasts.trans {a b c : Workspace} {before after : List Happening}
    (hab : Broadcasts parser a before b) (hbc : Broadcasts parser b after c) :
    Broadcasts parser a (before ++ after) c := by
  obtain ⟨first, _, hab, rfl⟩ := hab
  obtain ⟨second, _, hbc, rfl⟩ := hbc
  exact ⟨first ++ second, _, hab.append hbc, List.filter_append _ _⟩

/-- A single step. -/
theorem Step.broadcasts {later : Workspace} {happening : Happening} {news : List Update}
    (step : Step parser w happening later) (tells : w.Tells later happening news) :
    Broadcasts parser w ([happening].filter Happening.byHost) later :=
  ⟨[] ++ [happening], [] ++ news, Broadcast.nil.snoc step tells, rfl⟩

/-- Services that lead on and publish nothing. -/
theorem quiet_broadcasts {later : Workspace} (documents : later.documents = w.documents)
    (entries : later.entries = w.entries) (services : w.services.Leads later.services)
    (sent : later.services.events.sent = w.services.events.sent) :
    Broadcasts parser w [] later :=
  Step.broadcasts (.quiet ⟨documents, fun _ => by rw [entries], services⟩) (.nothing rfl sent)

/-- An entry that is put back with another timer. -/
theorem put_quiet_broadcasts {s : Services} {entry later : Entry}
    (found : w.entries.find? uri = some entry) (same : later.untimed = entry.untimed)
    (leads : w.services.Leads s) (events : s.events = w.services.events) :
    Broadcasts parser w [] (w.put uri s later) :=
  Step.broadcasts (.quiet (put_untimed_becomes found same leads))
    (.nothing rfl (congrArg Channel.sent events))

/-- An operation that lets its entry rest or parses its document is a broadcast, if it publishes what is
    due. -/
theorem put_turn_broadcasts {s : Services} {entry later : Entry} {doc : Document}
    (found : w.open? uri = some (entry, doc)) (leads : w.services.Leads s)
    (turn : Turn parser s doc entry later) (informs : w.services.Informs doc entry s later) :
    Broadcasts parser w [] (w.put uri s later) := by
  unfold Services.Informs at informs
  cases turn with
  -- Nothing is current that was not before.
  | rest same =>
    rw [Entry.news_of_untimed same] at informs
    exact put_quiet_broadcasts (open?_eq_some.1 found).1 same leads informs
  | parse parse =>
    have hstep : Step parser w _ (w.put uri s later) := .parse found parse (put_becomes rfl leads)
    have hopen : (w.put uri s later).open? uri = some (later, doc) :=
      open?_eq_some.2 ⟨Table.find?_insert_self _ _ _, by
        rw [parse.document]; exact (open?_eq_some.1 found).2⟩
    cases parse with
    | @commit grammar source _ _ outdated loaded parsed same =>
      -- The tree that was committed is the one that is current now, so it is the one that was
      -- published.
      have hcommitted : later.committed = some (.ofParse grammar.language doc.version source) := by
        have := congrArg Entry.committed same
        exact this
      have hcurrent : later.currentTree? doc.version =
          some (.ofParse grammar.language doc.version source) := by
        rw [Entry.currentTree?_of_untimed same]
        exact if_pos rfl
      rw [Entry.news_of_tree outdated hcurrent] at informs
      exact hstep.broadcasts (.tree hopen hcommitted informs)
    | fail counted outdated loaded failed same =>
      have hsame : later.untimed = Entry.untimed { (entry.beginParse doc.version).1.fail with
          consecutiveFailures := entry.consecutiveFailures + counted } := same
      -- After a failure no tree is current, so there is no news.
      have hnone : later.currentTree? doc.version = none :=
        (Entry.currentTree?_of_untimed hsame doc.version).trans
          ((entry.beginParse doc.version).1.currentTree?_of_fail doc.version)
      rw [Entry.news_of_outdated hnone] at informs
      exact hstep.broadcasts (.nothing rfl (congrArg Channel.sent informs))

/-- An operation on one entry is a broadcast, if it lets the entry rest or parses, and publishes
    what is due. -/
theorem onEntry_broadcasts {α : Type}
    {operation : Services → Document → Entry → Services × Entry × Except EngineError α}
    (leads : ∀ (s : Services) doc entry, s.Leads (operation s doc entry).1)
    (turn : ∀ s doc entry, Turn parser (operation s doc entry).1 doc entry
      (operation s doc entry).2.1)
    (informs : ∀ (s : Services) doc entry, s.Informs doc entry (operation s doc entry).1
      (operation s doc entry).2.1) :
    Broadcasts parser w [] (w.onEntry uri operation).1 := by
  unfold onEntry
  split
  · exact .refl parser w
  · next entry doc found =>
    exact put_turn_broadcasts found (leads _ doc entry) (turn _ doc entry) (informs _ doc entry)

/-! ## Moves -/

/-- A look at the tree is a broadcast. -/
theorem treeNow_broadcasts (w : Workspace) (parser : Parser) (uri : String) :
    Broadcasts parser w [] (w.treeNow parser uri).1 :=
  onEntry_broadcasts (fun s doc entry => s.treeNow_leads parser doc entry)
    (fun s doc entry => s.treeNow_turn parser doc entry)
    (fun s doc entry => s.treeNow_informs parser doc entry)

/-- Going the scheduled path at once is a broadcast. -/
theorem reparseNow_broadcasts (w : Workspace) (parser : Parser) (uri : String) :
    Broadcasts parser w [] (w.reparseNow parser uri).1 := by
  refine onEntry_broadcasts (fun s doc entry => ?_)
    (fun s doc entry => s.cancelTimer_reparse_turn parser doc entry)
    (fun s doc entry => s.cancelTimer_reparse_informs parser doc entry)
  exact (s.cancelTimer_leads entry).trans (Services.reparse_leads _ parser doc _)

/-- A verification is a broadcast, whose second parse is no part of it. -/
theorem verify_broadcasts (w : Workspace) (parser : Parser) (uri : String) :
    Broadcasts parser w [] (w.verify parser uri).1 :=
  onEntry_broadcasts (fun s doc entry => s.verify_leads parser doc entry)
    (fun s doc entry => s.verify_turn parser doc entry)
    (fun s doc entry => s.verify_informs parser doc entry)

/-- Setting a timer is a broadcast in which nothing is published. -/
theorem schedule_broadcasts {entry : Entry} (found : w.entries.find? uri = some entry)
    (key : String) (delay : Nat) :
    Broadcasts parser w [] (w.put uri (w.services.schedule key entry delay).1
      (w.services.schedule key entry delay).2) :=
  put_quiet_broadcasts found (w.services.schedule_untimed key entry delay)
    (w.services.schedule_leads key entry delay) (w.services.schedule_events key entry delay)

/-- So it is when nothing is open under the uri. -/
theorem scheduleIfOpen_broadcasts (w : Workspace) (parser : Parser) (uri : String) (delay : Nat) :
    Broadcasts parser w [] (w.scheduleIfOpen uri delay) := by
  unfold scheduleIfOpen
  split
  · exact .refl parser w
  · next entry found => exact schedule_broadcasts found uri delay

/-- Scheduling on demand is a broadcast. -/
theorem scheduleReparse_broadcasts (w : Workspace) (parser : Parser) (uri : String) :
    Broadcasts parser w [] (w.scheduleReparse uri).1 := by
  unfold scheduleReparse onEntry
  split
  · exact .refl parser w
  · next entry doc found => exact schedule_broadcasts (open?_eq_some.1 found).1 doc.uri _

/-- Showing a document is a broadcast: it schedules at most. -/
theorem activate_broadcasts (w : Workspace) (parser : Parser) (uri : String) :
    Broadcasts parser w [] (w.activate uri).1 := by
  unfold activate onEntry
  split
  · exact .refl parser w
  · next entry doc found =>
    have hentry := (open?_eq_some.1 found).1
    dsimp only
    split
    · exact put_quiet_broadcasts hentry rfl (.refl _) rfl
    · exact schedule_broadcasts hentry doc.uri 0

/-- A timer that fires is a broadcast, whether or not it counts. -/
theorem timerFired_broadcasts (w : Workspace) (parser : Parser) (uri : String)
    (generation : Nat) : Broadcasts parser w [] (w.timerFired parser uri generation) := by
  unfold timerFired
  split
  · exact .refl parser w
  · next entry doc found =>
    exact put_turn_broadcasts found (w.services.fire_leads parser doc entry generation)
      (w.services.fire_turn parser doc entry generation)
      (w.services.fire_informs parser doc entry generation)

/-- A change of the registry is a broadcast in which nothing is published. -/
theorem setRegistry_broadcasts (w : Workspace) {registry : Registry}
    (leads : w.services.registry.Leads registry) :
    Broadcasts parser w [] (w.setRegistry registry) :=
  quiet_broadcasts rfl rfl ⟨rfl, leads⟩ rfl

/-- A load in the background is a broadcast. -/
theorem backgroundLoad_broadcasts (w : Workspace) (parser : Parser) (uri language : String) :
    Broadcasts parser w [] (w.backgroundLoad uri language) := by
  have hrequest : Broadcasts parser w [] (w.requestGrammar language).1 :=
    w.setRegistry_broadcasts (w.services.registry.request_leads w.services.libraries language)
  unfold backgroundLoad
  split
  · next later _ h =>
    rw [h] at hrequest
    exact hrequest.trans (later.scheduleIfOpen_broadcasts parser uri 0)
  · next h => rw [h] at hrequest; exact hrequest
  -- The load has failed, or it has to be waited for.
  · next h =>
    rw [h] at hrequest
    exact hrequest.trans (quiet_broadcasts rfl rfl (.of_eq rfl rfl) rfl)

/-- A task that runs is a broadcast. -/
theorem runTask_broadcasts (w : Workspace) (parser : Parser) (task : Task) :
    Broadcasts parser w [] (w.runTask parser task) := by
  have habort : Broadcasts parser w [] { w with services := w.services.abort task.id } :=
    quiet_broadcasts rfl rfl (.of_eq rfl rfl) rfl
  unfold runTask
  refine habort.trans ?_
  dsimp only
  split
  · exact timerFired_broadcasts _ parser _ _
  · exact backgroundLoad_broadcasts _ parser _ _

/-- Whatever has waited for a grammar goes on in a broadcast. -/
theorem resumeWaiters_broadcasts (w : Workspace) (parser : Parser) (language : String)
    (outcome : Except GrammarError Grammar) :
    Broadcasts parser w [] (w.resumeWaiters language outcome) := by
  -- On those that wait: each is scheduled in its turn.
  have hfold (resumed : List Waiter) (w : Workspace) : Broadcasts parser w []
      (resumed.foldl (fun w waiter => w.scheduleIfOpen waiter.uri 0) w) := by
    induction resumed generalizing w with
    | nil => exact .refl parser w
    | cons first rest ih => exact (w.scheduleIfOpen_broadcasts parser first.uri 0).trans (ih _)
  have hwaiters : Broadcasts parser w [] { w with services := { w.services with
      waiters := w.services.waiters.filter (·.language ≠ language) } } :=
    quiet_broadcasts rfl rfl (.of_eq rfl rfl) rfl
  unfold resumeWaiters
  refine hwaiters.trans ?_
  dsimp only
  split
  · exact hfold _ _
  · exact .refl parser _

/-- The end of an attempt is a broadcast, in which the caller may look at a tree. -/
theorem finish_broadcasts (w : Workspace) (parser : Parser) (language : String)
    (caller : Option String) : Broadcasts parser w [] (w.finish parser language caller) := by
  have hcomplete : Broadcasts parser w [] (w.completeLoad language).1 :=
    w.setRegistry_broadcasts (w.services.registry.complete_leads w.services.libraries language)
  have hlook (w : Workspace) (outcome : Except GrammarError Grammar) :
      Broadcasts parser w [] (w.lookAfter parser outcome caller) := by
    unfold lookAfter
    split
    · exact .refl parser w
    · split
      · exact w.treeNow_broadcasts parser _
      · exact .refl parser w
  unfold finish
  split
  · next later outcome h =>
    rw [h] at hcomplete
    exact hcomplete.trans ((hlook later outcome).trans
      (resumeWaiters_broadcasts _ parser language outcome))
  · next later h =>
    rw [h] at hcomplete
    exact hcomplete.trans (resumeWaiters_broadcasts later parser language _)

/-- Opening a document is a broadcast, in which it is opened. -/
theorem openDocument_broadcasts (w : Workspace) (parser : Parser) (id : DocumentId) :
    Broadcasts parser w (w.doingsOfOpen id) (w.openDocument id) := by
  unfold openDocument doingsOfOpen
  cases found : w.documents[id]? with
  | none => exact .refl parser w
  | some doc =>
    -- The new entry is scheduled whatever the services are that the old one has left.
    have hopen (s : Services) (leads : w.services.Leads s) (events : s.events = w.services.events) :
        Broadcasts parser w [.opened id doc.uri] (w.put doc.uri
          (s.schedule doc.uri { document := id } 0).1
          (s.schedule doc.uri { document := id } 0).2) := by
      have hstep : Step parser w (.opened id doc.uri) (w.put doc.uri
          (s.schedule doc.uri { document := id } 0).1
          (s.schedule doc.uri { document := id } 0).2) :=
        .openDocument found (put_becomes (s.schedule_untimed doc.uri _ 0)
          (leads.trans (s.schedule_leads doc.uri _ 0)))
      have hevents := (s.schedule_events doc.uri { document := id } 0).trans events
      exact hstep.broadcasts (.nothing rfl (congrArg Channel.sent hevents))
    -- The timer of an entry that is replaced matters neither to trees nor to subscribers.
    refine hopen _ ?_ ?_
    · split
      · exact w.services.cancelTimer_leads _
      · exact .refl _
    · split
      · exact w.services.cancelTimer_events _
      · rfl

/-- Closing a document is a broadcast, in which it is closed if it was open. -/
theorem close_broadcasts (w : Workspace) (parser : Parser) (uri : String) :
    Broadcasts parser w (w.doingsOfClose uri) (w.close uri).1 := by
  unfold close doingsOfClose Table.contains
  cases found : w.entries.find? uri with
  | none => exact .refl parser w
  | some entry =>
    have hstep : Step parser w (.closed uri) { w with
        services := (w.services.cancelTimer entry).1, entries := w.entries.erase uri } :=
      .close ⟨rfl, fun _ => rfl, w.services.cancelTimer_leads entry⟩
    exact hstep.broadcasts
      (.nothing rfl (congrArg Channel.sent (w.services.cancelTimer_events entry)))

/-- A report is a broadcast, in which it is reported if the document is open. -/
theorem report_broadcasts (w : Workspace) (parser : Parser) (uri : String) (version : Int)
    (changes : List Change) :
    Broadcasts parser w (w.doingsOfReport uri version changes)
      (w.report uri version changes).1 := by
  unfold report onEntry doingsOfReport
  cases found : w.open? uri with
  | none => exact .refl parser w
  | some opened =>
    obtain ⟨entry, doc⟩ := opened
    have hstep : Step parser w _ (w.put uri (w.services.report doc.uri entry version changes).1
        (w.services.report doc.uri entry version changes).2.1) :=
      .report version changes (open?_eq_some.1 found).1
        (put_becomes (w.services.report_untimed doc.uri entry version changes)
          (w.services.report_leads doc.uri entry version changes))
    have hevents := w.services.report_events doc.uri entry version changes
    exact hstep.broadcasts (.nothing rfl (congrArg Channel.sent hevents))

/-- A revision that is not reported is a broadcast. -/
theorem alter_broadcasts (w : Workspace) (parser : Parser) (id : DocumentId)
    (alteration : Alteration) :
    Broadcasts parser w (w.doingsOfAlter id alteration) (w.alter id alteration) := by
  unfold alter doingsOfAlter
  cases haltered : (w.documents[id]?).bind (·.alter? alteration) with
  | none => exact .refl parser w
  | some altered =>
    obtain ⟨doc, found, hdoc⟩ := Option.bind_eq_some_iff.1 haltered
    have hstep : Step parser w _ { w with documents := w.documents.set id altered.1 } :=
      .revise found (Document.revision_of_alter? hdoc) ⟨rfl, fun _ => rfl, .refl _⟩
    exact hstep.broadcasts (.nothing rfl rfl)

/-- A revision that is reported at once is a broadcast, too. -/
theorem revise_broadcasts (w : Workspace) (parser : Parser) (id : DocumentId)
    (alteration : Alteration) :
    Broadcasts parser w (w.doingsOfRevise id alteration) (w.revise id alteration) := by
  -- It begins like one that is not reported.
  have halter := w.alter_broadcasts parser id alteration
  unfold alter doingsOfAlter at halter
  unfold revise doingsOfRevise
  cases haltered : (w.documents[id]?).bind (·.alter? alteration) with
  | none => exact .refl parser w
  | some altered =>
    rw [haltered] at halter
    exact halter.trans (report_broadcasts _ parser _ _ _)

/-- What is done aside is a broadcast in which nothing is published. -/
theorem doAside_broadcasts (w : Workspace) (parser : Parser) (aside : Aside) :
    Broadcasts parser w [] (w.doAside aside) := by
  cases aside with
  | receive number =>
    refine quiet_broadcasts rfl rfl (.of_eq rfl rfl) ?_
    -- What a subscriber takes from its own queue has been sent before.
    show (w.services.events.receive number).1.sent = _
    unfold Channel.receive
    split <;> rfl
  | time operation => exact quiet_broadcasts rfl rfl (.of_eq rfl rfl) rfl
  | resetMetrics => exact quiet_broadcasts rfl rfl (.of_eq rfl rfl) rfl
  | subscribe => exact quiet_broadcasts rfl rfl (.of_eq rfl rfl) rfl
  | unsubscribe number => exact quiet_broadcasts rfl rfl (.of_eq rfl rfl) rfl
  | putLibrary path file => exact quiet_broadcasts rfl rfl (.of_eq rfl rfl) rfl
  | setClock time => exact quiet_broadcasts rfl rfl (.of_eq rfl rfl) rfl
  | setPace pace => exact quiet_broadcasts rfl rfl (.of_eq rfl rfl) rfl

/-- Every move is a broadcast in which the host does what it does in the move. -/
theorem move_broadcasts (w : Workspace) (parser : Parser) (move : Move) :
    Broadcasts parser w (w.moveDoings move) (w.move parser move) := by
  cases move with
  | create uri language text =>
    have hstep : Step parser w (.created text) (w.createDocument uri language text).1 :=
      .create uri language text ⟨rfl, fun _ => rfl, .refl _⟩
    exact hstep.broadcasts (.nothing rfl rfl)
  | alter id alteration => exact w.alter_broadcasts parser id alteration
  | revise id alteration => exact w.revise_broadcasts parser id alteration
  | openDocument id => exact w.openDocument_broadcasts parser id
  | close uri => exact w.close_broadcasts parser uri
  | report uri version changes => exact w.report_broadcasts parser uri version changes
  | treeNow uri => exact w.treeNow_broadcasts parser uri
  | reparseNow uri => exact w.reparseNow_broadcasts parser uri
  | verify uri => exact w.verify_broadcasts parser uri
  | activate uri => exact w.activate_broadcasts parser uri
  | scheduleReparse uri => exact w.scheduleReparse_broadcasts parser uri
  | loadBlocking language =>
    exact w.setRegistry_broadcasts
      (w.services.registry.loadBlocking_leads w.services.libraries language)
  | request language =>
    exact w.setRegistry_broadcasts
      (w.services.registry.request_leads w.services.libraries language)
  | wake uri generation => exact w.timerFired_broadcasts parser uri generation
  | backgroundLoad uri language => exact w.backgroundLoad_broadcasts parser uri language
  -- Only a task that is still in the queue runs.
  | run task =>
    show Broadcasts parser w [] (if task ∈ w.services.tasks then w.runTask parser task else w)
    split
    · exact w.runTask_broadcasts parser task
    · exact .refl parser w
  | finish language caller => exact w.finish_broadcasts parser language caller
  | aside aside => exact w.doAside_broadcasts parser aside

/-- Every sequence of moves is a broadcast in which the host does what it does in the moves. -/
theorem play_broadcasts (parser : Parser) (w : Workspace) (moves : List Move) :
    -- On the moves: what the host does in the first comes before what it does in the rest.
    Broadcasts parser w (w.playDoings parser moves) (w.play parser moves) := by
  induction moves generalizing w with
  | nil => exact .refl parser w
  | cons move rest ih => exact (w.move_broadcasts parser move).trans (ih _)

/-- Every sequence of events is a broadcast, in which the host does the same. -/
theorem undergo_broadcasts (parser : Parser) (w : Workspace) (events : List Event) :
    Broadcasts parser w (w.doingsAlong parser events) (w.undergo parser events) := by
  obtain ⟨moves, hplay, hdoings⟩ := undergo_plays parser w events
  rw [← hplay, ← hdoings]
  exact play_broadcasts parser w moves

end Moving

end Workspace

end LiveTree
