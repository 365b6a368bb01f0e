import LiveTree.Proofs.Loads
import LiveTree.Proofs.Metering
import LiveTree.Proofs.Retries

/-!
# The first tree of a document

A document that has just been opened waits for its first parse, and a look at its tree takes the place
of what its timer waits for.  If the grammar has to come from a library, the timer may fire while it is
being loaded, but then it only looks again later.  So however the grammar comes, the document has been
parsed exactly once when its tree is there, and nothing is left to be done.

## Key results

- `Services.treeNow_of_parsed`, `Services.treeNow_of_unparsed`: a look at an outdated tree parses once, and
  commits the tree or fails
- `Workspace.Shows`: a document whose tree is current, with the parses that it took
- `Unparsed.drain`: nothing is parsed while a grammar is being loaded
- `Unparsed.treeAfterLoad_firstLook`: what becomes of the first look at a document
-/

namespace LiveTree

/-! ## Counts -/

/-- How often a text was parsed in full and with the help of the tree before, and never in vain. -/
structure Metrics.Parsed (metrics : Metrics) (full incremental : Nat) : Prop where
  full : metrics.counters.fullParses = .ofNat full
  incremental : metrics.counters.incrementalParses = .ofNat incremental
  failures : metrics.counters.parseFailures = 0

/-- Parses that give trees are counted by whether they had help. -/
theorem Services.Meters.parsed {s later : Services} {attempts : List ParseAttempt}
    {applied dropped full incremental : Nat} (h : s.Meters attempts applied dropped later)
    (succeeded : attempts.countP (·.failed) = 0) (parsed : s.metrics.Parsed full incremental) :
    later.metrics.Parsed (full + attempts.countP (·.isFull))
      (incremental + attempts.countP (·.isIncremental)) where
  full := by
    have hfull : later.metrics.counters.fullParses =
        s.metrics.counters.fullParses + .ofNat (attempts.countP (·.isFull)) :=
      congrArg Account.full h.account
    rw [hfull, parsed.full, UInt64.ofNat_add]
  incremental := by
    have hincremental : later.metrics.counters.incrementalParses =
        s.metrics.counters.incrementalParses + .ofNat (attempts.countP (·.isIncremental)) :=
      congrArg Account.incremental h.account
    rw [hincremental, parsed.incremental, UInt64.ofNat_add]
  failures := by
    have hfailures : later.metrics.counters.parseFailures =
        s.metrics.counters.parseFailures + .ofNat (attempts.countP (·.failed)) :=
      congrArg Account.failures h.account
    rw [hfailures, parsed.failures, succeeded]
    rfl

/-- Where nothing was parsed the counts stay as they are. -/
theorem Services.Meters.parsed_of_quiet {s later : Services} {applied dropped full incremental : Nat}
    (h : s.Meters [] applied dropped later) (parsed : s.metrics.Parsed full incremental) :
    later.metrics.Parsed full incremental :=
  h.parsed rfl parsed

/-- A parse that gives a tree counts once, by whether it had help. -/
theorem Services.Meters.parsed_of_ok {s later : Services} {attempt : ParseAttempt}
    {source : ParseTree} {full incremental : Nat} (h : s.Meters [attempt] 0 0 later)
    (succeeded : attempt.outcome = .ok source) (parsed : s.metrics.Parsed full incremental) :
    later.metrics.Parsed (full + attempt.previous.isNone.toNat)
      (incremental + attempt.previous.isSome.toNat) := by
  have hfailed : [attempt].countP (·.failed) = 0 := by
    simp [ParseAttempt.failed, succeeded, Except.toBool]
  have hfull : [attempt].countP (·.isFull) = attempt.previous.isNone.toNat := by
    cases hprevious : attempt.previous <;>
      simp [ParseAttempt.isFull, succeeded, Except.toBool, hprevious]
  have hincremental : [attempt].countP (·.isIncremental) = attempt.previous.isSome.toNat := by
    cases hprevious : attempt.previous <;>
      simp [ParseAttempt.isIncremental, succeeded, Except.toBool, hprevious]
  rw [← hfull, ← hincremental]
  exact h.parsed hfailed parsed

/-- A grammar that an attempt has ended with is in its slot. -/
theorem Registry.loaded?_of_complete {registry : Registry} {libraries : Libraries} {language : String}
    {grammar : Grammar} (loading : registry.isLoading language = true)
    (h : (registry.complete libraries language).2 = some (.ok grammar)) :
    (registry.complete libraries language).1.loaded? language = some grammar := by
  -- An attempt that has ended was under way.
  cases hfound : registry.attempts.find? (·.id == language) with
  | none =>
    unfold complete at h
    rw [hfound] at h
    exact nomatch h
  | some config =>
    rw [complete_of_attempt hfound] at h ⊢
    have houtcome : (registry.find libraries config).2 = .ok grammar := Option.some.inj h
    have hloading : (registry.find libraries config).1.isLoading language = true := loading
    rw [loaded?, slot_conclude hloading, if_pos rfl, houtcome]
    rfl

/-! ## A look at a tree -/

/-- The entry of a document when a parse has just been committed. -/
def Entry.ofCommit (id : DocumentId) (doc : Document) (grammar : Grammar) (source : ParseTree) :
    Entry :=
  (Entry.commit { document := id } grammar.language doc.version doc.text source).1

namespace Services

variable {s : Services} {parser : Parser} {doc : Document} {entry : Entry} {grammar : Grammar}

/-- With its grammar at hand a look at an outdated tree parses, after the timer has been cancelled. -/
theorem treeNow_of_loaded (outdated : entry.currentTree? doc.version = none)
    (loaded : s.registry.loaded? doc.language = some grammar) :
    s.treeNow parser doc entry =
      (s.cancelTimer entry).1.parseEntry parser doc (s.cancelTimer entry).2.1 grammar := by
  have hloaded := (s.cancelTimer_leads entry).registry.loaded _ _ loaded
  rw [treeNow_of_outdated parser outdated, grammarNow_of_loaded hloaded]

/-- A parse has ended with a tree, which is committed and counted. -/
structure Commits (s : Services) (doc : Document) (entry : Entry) (grammar : Grammar)
    (source : ParseTree) (later : Services) (next : Entry) : Prop where
  leads : s.Leads later
  pace : later.pace = s.pace
  committed : next.untimed = .ofCommit entry.document doc grammar source
  counts : ∀ {full incremental}, s.metrics.Parsed full incremental →
    later.metrics.Parsed (full + (entry.previousFor? doc.version).isNone.toNat)
      (incremental + (entry.previousFor? doc.version).isSome.toNat)

/-- A look at an outdated tree parses the document once.  If the parse gives a tree, it is committed
    and served. -/
theorem treeNow_of_parsed (outdated : entry.currentTree? doc.version = none)
    (loaded : s.registry.loaded? doc.language = some grammar) {source : ParseTree}
    -- Three facts hold of every look, and are read off for this one when it is known what it does.
    (parsed : (s.attempt parser doc entry grammar).outcome = .ok source) :
    s.Commits doc entry grammar source (s.treeNow parser doc entry).1
        (s.treeNow parser doc entry).2.1 ∧
      ∃ tree, (s.treeNow parser doc entry).2.2 = .ok tree := by
  have hleads := s.treeNow_leads parser doc entry
  have hpace := s.treeNow_pace parser doc entry
  have hmeters : s.Meters [s.attempt parser doc entry grammar] 0 0
      (s.treeNow parser doc entry).1 := by
    have hmeters := s.treeNow_meters parser doc entry
    rwa [attemptsOnDemand, outdated, grammarNow_of_loaded loaded] at hmeters
  have hconfig := (s.cancelTimer_leads entry).config
  have hcancel := s.cancelTimer_pace entry
  -- The timer does not matter to what is handed out for the parse.
  have hattempt : Pool.attempt (parser.paced (s.cancelTimer entry).1.pace) grammar doc.text
      (({ entry with timer := entry.timer.cancelled } : Entry).beginParse doc.version).2
      (s.cancelTimer entry).1.config.parseTimeoutMs = .ok source := by
    rw [hconfig, hcancel]
    exact parsed
  rw [treeNow_of_loaded outdated loaded, s.cancelTimer_entry entry] at hleads hpace hmeters ⊢
  rw [parseEntry_of_ok hattempt]
  exact ⟨⟨hleads, hpace, rfl, hmeters.parsed_of_ok parsed⟩, _, rfl⟩

/-- If the parse fails, so does the look. -/
theorem treeNow_of_unparsed (outdated : entry.currentTree? doc.version = none)
    (loaded : s.registry.loaded? doc.language = some grammar) {failure : ParseFailure}
    (failed : (s.attempt parser doc entry grammar).outcome = .error failure) :
    (s.treeNow parser doc entry).2.2 = .error (failure.toError doc.uri) := by
  have hattempt : Pool.attempt (parser.paced (s.cancelTimer entry).1.pace) grammar doc.text
      (({ entry with timer := entry.timer.cancelled } : Entry).beginParse doc.version).2
      (s.cancelTimer entry).1.config.parseTimeoutMs = .error failure := by
    rw [(s.cancelTimer_leads entry).config, s.cancelTimer_pace entry]
    exact failed
  rw [treeNow_of_loaded outdated loaded, s.cancelTimer_entry entry, parseEntry_of_error hattempt]

/-- While a grammar is being loaded, a timer that fires is only set again. -/
theorem fire_of_loading (runtime : s.runtime = true) (parser : Parser) (entry : Entry)
    (supported : s.registry.isSupported doc.language = true)
    (loading : s.registry.isLoading doc.language = true)
    (outdated : entry.currentTree? doc.version = none) :
    s.fire parser doc entry entry.timer.generation =
      ({ s with
          metrics := s.metrics.recordScheduledFire
          tasks := s.tasks ++ [⟨s.nextTask, s.clock + s.debounce,
            .reparse doc.uri (entry.timer.generation + 2)⟩]
          nextTask := s.nextTask + 1 },
        { entry with timer := ⟨some s.nextTask, entry.timer.generation + 2⟩ }) := by
  have hclaimed : (claimed entry).currentTree? doc.version = none := outdated
  have hset := schedule_of_none (s := s.measure Metrics.recordScheduledFire) runtime doc.uri
    (claimed entry) rfl s.config.debounceMs
  have hreparse : (s.measure Metrics.recordScheduledFire).reparse parser doc (claimed entry) =
      (((s.measure Metrics.recordScheduledFire).schedule doc.uri (claimed entry)
          s.config.debounceMs).1,
        ((s.measure Metrics.recordScheduledFire).schedule doc.uri (claimed entry)
          s.config.debounceMs).2, .ok none) := by
    have hmissing : s.registry.loaded? doc.language = none := by
      rw [Registry.loaded?, Registry.slot_of_isLoading loading]
    -- The grammar is not there, but it may come: so the reparse is put off.
    unfold reparse
    simp only [hclaimed, measure, hmissing, supported, loading, Bool.not_true, Bool.false_eq_true,
      if_false, if_true]
  rw [fire_of_own, hreparse, hset]
  rfl

/-- A look at an outdated tree drops the task that its timer waits for. -/
theorem treeNow_tasks_of_alone (parser : Parser) (outdated : entry.currentTree? doc.version = none)
    (loaded : s.registry.loaded? doc.language = some grammar) {task : Task}
    (alone : s.tasks = [task]) (handle : entry.timer.handle = some task.id) :
    (s.treeNow parser doc entry).1.tasks = [] := by
  -- Cancelling the timer drops the only task there is.
  have hcancel : (s.cancelTimer entry).1.tasks = [] := by
    unfold cancelTimer
    rw [handle]
    show s.tasks.filter (·.id ≠ task.id) = []
    rw [alone]
    simp
  -- The parse itself has nothing to do with tasks.
  have hparse : ∀ (s : Services) (entry : Entry),
      (s.parseEntry parser doc entry grammar).1.tasks = s.tasks := by
    intro s entry
    unfold parseEntry
    dsimp only
    split <;> rfl
  rw [treeNow_of_loaded outdated loaded, hparse, hcancel]

end Services

namespace Workspace

variable {parser : Parser} {w later : Workspace} {config : Config} {id : DocumentId} {doc : Document}
  {grammar : Grammar} {source : ParseTree} {registry : Registry} {helped : Nat}

/-- A document is open and its tree is current, which came of a parse.  The document was parsed in full
    once, and then `helped` times with the help of the tree before. -/
structure Shows (w : Workspace) (config : Config) (id : DocumentId) (doc : Document)
    (grammar : Grammar) (source : ParseTree) (helped : Nat) : Prop where
  config : w.services.config = config
  pace : w.services.pace = .steady
  document : w.documents[id]? = some doc
  entry : ∃ entry, w.entries.find? doc.uri = some entry ∧
    entry.untimed = .ofCommit id doc grammar source
  loaded : w.services.registry.loaded? doc.language = some grammar
  parsed : w.services.metrics.Parsed 1 helped

/-- A document is shown in the same way when the grammars have been attended to. -/
theorem Shows.setRegistry (h : w.Shows config id doc grammar source helped)
    (leads : w.services.registry.Leads registry) :
    (w.setRegistry registry).Shows config id doc grammar source helped :=
  ⟨h.config, h.pace, h.document, h.entry, leads.loaded _ _ h.loaded, h.parsed⟩

/-- A look at the tree of an open document answers and leaves what its services make of the entry.
    -/
theorem treeNow_of_open {entry : Entry} (parser : Parser) {uri : String}
    (found : w.open? uri = some (entry, doc)) :
    w.treeNow parser uri =
      (w.put uri (w.services.treeNow parser doc entry).1 (w.services.treeNow parser doc entry).2.1,
        (w.services.treeNow parser doc entry).2.2) := by
  unfold treeNow onEntry
  rw [found]

/-- A look at the outdated tree of a document parses it, in full unless there is a tree that helps. -/
theorem shows_of_treeNow {entry : Entry} {full incremental : Nat}
    (settings : w.services.config = config) (steady : w.services.pace = .steady)
    (document : w.documents[id]? = some doc) (found : w.entries.find? doc.uri = some entry)
    (own : entry.document = id) (outdated : entry.currentTree? doc.version = none)
    (loaded : w.services.registry.loaded? doc.language = some grammar)
    (metrics : w.services.metrics.Parsed full incremental)
    (once : full + (entry.previousFor? doc.version).isNone.toNat = 1)
    (parsed : Pool.attempt parser grammar doc.text (entry.previousFor? doc.version)
      config.parseTimeoutMs = .ok source) :
    (w.treeNow parser doc.uri).1.Shows config id doc grammar source
        (incremental + (entry.previousFor? doc.version).isSome.toNat) ∧
      ∃ tree, (w.treeNow parser doc.uri).2 = .ok tree := by
  subst own settings
  -- The pace is steady, so the parser works as it is.
  rw [← Parser.paced_steady parser, ← steady] at parsed
  obtain ⟨⟨hleads, hpace, hsame, hcounts⟩, htree⟩ := Services.treeNow_of_parsed outdated loaded parsed
  have hcounted := hcounts metrics
  rw [once] at hcounted
  rw [treeNow_of_open parser (open?_eq_some.2 ⟨found, document⟩)]
  exact ⟨⟨hleads.config, hpace.trans steady, document, ⟨_, Table.find?_insert_self _ _ _, hsame⟩,
    hleads.registry.loaded _ _ loaded, hcounted⟩, htree⟩

/-- A look at the outdated tree of a document fails with the parse. -/
theorem treeNow_of_failed {entry : Entry} {failure : ParseFailure}
    (settings : w.services.config = config) (steady : w.services.pace = .steady)
    (document : w.documents[id]? = some doc) (found : w.entries.find? doc.uri = some entry)
    (own : entry.document = id) (outdated : entry.currentTree? doc.version = none)
    (loaded : w.services.registry.loaded? doc.language = some grammar)
    (failed : Pool.attempt parser grammar doc.text (entry.previousFor? doc.version)
      config.parseTimeoutMs = .error failure) :
    (w.treeNow parser doc.uri).2 = .error (failure.toError doc.uri) := by
  subst own settings
  rw [← Parser.paced_steady parser, ← steady] at failed
  rw [treeNow_of_open parser (open?_eq_some.2 ⟨found, document⟩)]
  exact Services.treeNow_of_unparsed outdated loaded failed

/-- A document has been opened and nothing else has happened.  Its timer waits for the only task. -/
structure Unparsed (w : Workspace) (config : Config) (id : DocumentId) (doc : Document)
    (registry : Registry) : Prop where
  config : w.services.config = config
  pace : w.services.pace = .steady
  registry : w.services.registry = registry
  runtime : w.services.runtime = true
  waiters : w.services.waiters = []
  document : w.documents[id]? = some doc
  entry : ∃ task deadline generation,
    w.services.tasks = [⟨task, deadline, .reparse doc.uri generation⟩] ∧
      w.entries.find? doc.uri = some { document := id, timer := ⟨some task, generation⟩ }
  parsed : w.services.metrics.Parsed 0 0

namespace Unparsed

/-- What the grammars come to does not matter to a document that has not been parsed. -/
theorem setRegistry (h : w.Unparsed config id doc registry) (other : Registry) :
    (w.setRegistry other).Unparsed config id doc other :=
  ⟨h.config, h.pace, rfl, h.runtime, h.waiters, h.document, h.entry, h.parsed⟩

/-- A timer that fires while the grammar is being loaded does not parse anything. -/
theorem runTask (h : w.Unparsed config id doc registry)
    (supported : registry.isSupported doc.language = true)
    (loading : registry.isLoading doc.language = true) (parser : Parser) {task : Task}
    (among : task ∈ w.services.tasks) : (w.runTask parser task).Unparsed config id doc registry := by
  obtain ⟨number, deadline, generation, htasks, hentry⟩ := h.entry
  rw [htasks] at among
  -- There is one task only, so it is the one that is run.
  obtain rfl := List.mem_singleton.1 among
  have hfire := Services.fire_of_loading (s := w.services.abort number) h.runtime parser
    { document := id, timer := ⟨some number, generation⟩ }
    (by rw [← h.registry] at supported; exact supported)
    (by rw [← h.registry] at loading; exact loading) rfl
  have hopen : open? { w with services := w.services.abort number } doc.uri =
      some ({ document := id, timer := ⟨some number, generation⟩ }, doc) :=
    open?_eq_some.2 ⟨hentry, h.document⟩
  have hrun : w.runTask parser ⟨number, deadline, .reparse doc.uri generation⟩ =
      put { w with services := w.services.abort number } doc.uri
        ((w.services.abort number).fire parser doc
          { document := id, timer := ⟨some number, generation⟩ } generation).1
        ((w.services.abort number).fire parser doc
          { document := id, timer := ⟨some number, generation⟩ } generation).2 := by
    unfold Workspace.runTask timerFired
    dsimp only
    rw [hopen]
  have hidle : (w.services.abort number).tasks = [] := by
    show w.services.tasks.filter (·.id ≠ number) = []
    rw [htasks]
    simp
  -- The task that is run is gone, so the one that is queued now is alone.
  rw [hidle, List.nil_append] at hfire
  rw [hrun, hfire]
  exact ⟨h.config, h.pace, h.registry, h.runtime, h.waiters, h.document,
    ⟨_, _, _, rfl, Table.find?_insert_self _ _ _⟩,
    ⟨h.parsed.full, h.parsed.incremental, h.parsed.failures⟩⟩

/-- Nor do all the timers that fire parse anything, as long as the grammar is being loaded. -/
theorem drain (h : w.Unparsed config id doc registry)
    (supported : registry.isSupported doc.language = true)
    (loading : registry.isLoading doc.language = true) (parser : Parser) (steps : Nat) :
    (drain parser steps w).Unparsed config id doc registry := by
  -- By induction on the steps: each of them leaves the document as it was for the next one.
  induction steps generalizing w with
  | zero => exact h
  | succ steps ih =>
    unfold Workspace.drain
    split
    · exact h
    · next task due => exact ih (h.runTask supported loading parser (mem_of_dueTask? due))

/-- What becomes of the first look at a document, with the grammar that it has waited for: its tree is
    there, or there is no grammar, or the parse of the document fails. -/
inductive FirstLook (parser : Parser) (config : Config) (id : DocumentId) (doc : Document) :
    Except GrammarError Grammar → Workspace → Except EngineError SyntaxTree → Prop where
  | parsed {grammar : Grammar} {source : ParseTree} {later : Workspace}
      (parsed : Pool.attempt parser grammar doc.text none config.parseTimeoutMs = .ok source)
      (shows : later.Shows config id doc grammar source 0) (tree : SyntaxTree) :
      FirstLook parser config id doc (.ok grammar) later (.ok tree)
  | missing (error : GrammarError) (later : Workspace) :
      FirstLook parser config id doc (.error error) later (.error (.grammar error))
  | failed {grammar : Grammar} {failure : ParseFailure} (later : Workspace)
      (failed : Pool.attempt parser grammar doc.text none config.parseTimeoutMs = .error failure) :
      FirstLook parser config id doc (.ok grammar) later (.error (failure.toError doc.uri))

/-- A look at the tree when its grammar is there parses the document for the first time, and leaves
    nothing to be done. -/
theorem treeNow_firstLook (h : w.Unparsed config id doc registry) (parser : Parser)
    (loaded : registry.loaded? doc.language = some grammar) :
    FirstLook parser config id doc (.ok grammar) (w.treeNow parser doc.uri).1
        (w.treeNow parser doc.uri).2 ∧
      (w.treeNow parser doc.uri).1.Calm := by
  obtain ⟨number, deadline, generation, htasks, hentry⟩ := h.entry
  have hloaded : w.services.registry.loaded? doc.language = some grammar := by
    rw [h.registry]
    exact loaded
  have hcalm : (w.treeNow parser doc.uri).1.Calm := by
    have hhandle : (Entry.timer { document := id, timer := ⟨some number, generation⟩ }).handle =
        some number := rfl
    have htasks := Services.treeNow_tasks_of_alone parser rfl hloaded htasks hhandle
    have hwaiters := (w.services.treeNow_tends parser doc
      { document := id, timer := ⟨some number, generation⟩ } doc.uri).waiters
    rw [treeNow_of_open parser (open?_eq_some.2 ⟨hentry, h.document⟩)]
    refine ⟨?_, hwaiters.trans h.waiters⟩
    unfold dueTask?
    simp only [put, htasks]
    rfl
  refine ⟨?_, hcalm⟩
  -- A new entry has no tree to help with.
  have hfresh : Entry.previousFor? { document := id, timer := ⟨some number, generation⟩ }
      doc.version = none := ite_self _
  cases hattempt : Pool.attempt parser grammar doc.text none config.parseTimeoutMs with
  | ok source =>
    have hlook := shows_of_treeNow h.config h.pace h.document hentry rfl rfl hloaded h.parsed
      (by rw [hfresh]; rfl) (by rw [hfresh]; exact hattempt)
    rw [hfresh] at hlook
    obtain ⟨hshows, tree, htree⟩ := hlook
    rw [htree]
    exact .parsed hattempt hshows tree
  | error failure =>
    rw [treeNow_of_failed h.config h.pace h.document hentry rfl rfl hloaded
      (by rw [hfresh]; exact hattempt)]
    exact .failed _ hattempt

/-- If the grammar is there at once, it is waited for no longer, and the look follows. -/
theorem treeAfterLoad_of_ready
    (requested : w.requestGrammar doc.language = (later, .ready grammar)) (parser : Parser)
    (h : later.Unparsed config id doc registry)
    (loaded : registry.loaded? doc.language = some grammar) :
    FirstLook parser config id doc (w.awaitGrammar parser doc.language).2.1
      (w.treeAfterLoad parser doc.uri doc.language).1
      (w.treeAfterLoad parser doc.uri doc.language).2 := by
  have hawait : w.awaitGrammar parser doc.language = (later, .ok grammar, false) := by
    unfold awaitGrammar
    rw [requested]
  have hafter : w.treeAfterLoad parser doc.uri doc.language = later.treeNow parser doc.uri := by
    unfold treeAfterLoad
    rw [hawait]
    rfl
  rw [hafter, hawait]
  exact (h.treeNow_firstLook parser loaded).1

/-- When its grammar has come, a document still has to be parsed. -/
theorem completeLoad (h : w.Unparsed config id doc registry)
    (loading : registry.isLoading doc.language = true) {ended : Workspace}
    (completed : w.completeLoad doc.language = (ended, some (.ok grammar))) :
    ∃ last, ended.Unparsed config id doc last ∧ last.loaded? doc.language = some grammar := by
  rw [← h.registry] at loading
  obtain ⟨rfl, houtcome⟩ := Prod.mk.inj completed
  exact ⟨_, h.setRegistry _, Registry.loaded?_of_complete loading houtcome⟩

/-- If the grammar has to be waited for, timers fire, the attempt ends, and the look follows. -/
theorem treeAfterLoad_of_waiting (requested : w.requestGrammar doc.language = (later, .waiting))
    (parser : Parser) (h : later.Unparsed config id doc registry)
    (supported : registry.isSupported doc.language = true)
    (loading : registry.isLoading doc.language = true) :
    FirstLook parser config id doc (w.awaitGrammar parser doc.language).2.1
      (w.treeAfterLoad parser doc.uri doc.language).1
      (w.treeAfterLoad parser doc.uri doc.language).2 := by
  have hdrained : (later.runDue parser).Unparsed config id doc registry :=
    h.drain supported loading parser later.budget
  unfold treeAfterLoad awaitGrammar
  rw [requested]
  dsimp only
  -- The attempt may have gone, or found no grammar, or found one.
  rcases hcompleted : (later.runDue parser).completeLoad doc.language with
    ⟨ended, _ | error | grammar⟩
  · exact .missing _ _
  · exact .missing error _
  · obtain ⟨last, hended, hloaded⟩ := hdrained.completeLoad loading hcompleted
    obtain ⟨hlook, hcalm⟩ := hended.treeNow_firstLook parser hloaded
    dsimp only
    generalize ended.treeNow parser doc.uri = looked at hlook hcalm ⊢
    obtain ⟨shown, answer⟩ := looked
    -- What goes on after the wait leaves the tree alone.
    cases hlook with
    | parsed hparsed hshows tree =>
      obtain ⟨settled, hafter, hleads⟩ :=
        afterWait_of_calm parser hcalm doc.language (.ok grammar) true
      dsimp only
      rw [hafter]
      exact .parsed hparsed (hshows.setRegistry hleads) tree
    | failed _ hfailed => exact .failed _ hfailed

/-- The first look at a document whose grammar has not been asked for. -/
theorem treeAfterLoad_firstLook (h : w.Unparsed config id doc registry) (parser : Parser)
    {language : LanguageConfig} (vacant : registry.slots.find? doc.language = none)
    (configured : registry.config? doc.language = some language) (idle : registry.attempts = []) :
    FirstLook parser config id doc (w.awaitGrammar parser doc.language).2.1
      (w.treeAfterLoad parser doc.uri doc.language).1
      (w.treeAfterLoad parser doc.uri doc.language).2 := by
  have hlanguage : language.id = doc.language := Registry.config?_id configured
  have hrequested : w.requestGrammar doc.language =
      (w.setRegistry (registry.start w.services.libraries language).1,
        (registry.start w.services.libraries language).2) := by
    unfold requestGrammar
    rw [h.registry, Registry.request_of_vacant vacant configured]
  have hloading : (registry.launch language).isLoading doc.language = true := by
    have hslot : (registry.launch language).slots.find? doc.language = some .loading := by
      rw [← hlanguage]
      exact Table.find?_insert_self _ _ _
    unfold Registry.isLoading
    rw [hslot]
    rfl
  -- A grammar from disk is waited for; a builtin one is there or is known to be missing.
  cases hkind : language.kind with
  | library =>
    rw [Registry.start_library hkind] at hrequested
    have hsupported : (registry.launch language).isSupported doc.language = true :=
      Option.isSome_of_eq_some configured
    exact treeAfterLoad_of_waiting hrequested parser (h.setRegistry _) hsupported hloading
  | builtin =>
    obtain ⟨hregistry, hreply⟩ := Registry.start_builtin hkind
      (by rw [idle]; exact fun attempt among => nomatch among) w.services.libraries
    rw [hregistry, hlanguage] at hrequested
    rw [hlanguage] at hreply
    cases hanswer : (registry.start w.services.libraries language).2 with
    | ready grammar =>
      rw [hanswer] at hrequested hreply
      have hloaded := Registry.loaded?_of_complete hloading hreply.symm
      exact treeAfterLoad_of_ready hrequested parser (h.setRegistry _) hloaded
    | failed error =>
      rw [hanswer] at hrequested
      unfold treeAfterLoad awaitGrammar
      rw [hrequested]
      exact .missing error _
    | waiting =>
      -- A builtin grammar is answered for at once.
      unfold Registry.start at hanswer
      rw [hkind] at hanswer
      dsimp only at hanswer
      split at hanswer <;> exact nomatch hanswer

end Unparsed

end Workspace

end LiveTree
