import LiveTree.Channel
import LiveTree.Duration
import LiveTree.Engine.Entry
import LiveTree.Grammar.Registry
import LiveTree.Metrics
import LiveTree.Pool
import LiveTree.Query
import LiveTree.Tree.Compare

/-!
# What all entries share

The settings, the grammars, the parser pool and its pace, the update channel, the metrics, and the
tasks that wait for their time on a virtual clock.  The operations here work on these and on a single entry; they are
handed the entry's document and return the entry changed.
-/

namespace LiveTree

/-- Why the engine has no answer about a document. -/
inductive EngineError where
  | unsupportedLanguage (language : String)
  | grammarNotReady (language : String)
  | grammar (error : GrammarError)
  | documentNotOpen (uri : String)
  | parseTimeout (uri : String) (limit : Nat)
  | parseFailed (uri reason : String)
  | query (error : QueryError)
  | edit (error : EditError)
  deriving DecidableEq, Repr

/-- The wording of an engine error. -/
def EngineError.message : EngineError → String
  | unsupportedLanguage language => s!"language '{language}' has no grammar"
  | grammarNotReady language => s!"grammar for '{language}' is still loading"
  | grammar error => error.message
  | documentNotOpen uri => s!"document {uri} is not open"
  | parseTimeout uri limit => s!"parsing {uri} exceeded {Duration.render limit}"
  | parseFailed uri reason => s!"parsing {uri} failed: {reason}"
  | query error => error.message
  | edit error => error.message

/-- The error of a parse without a tree. -/
def ParseFailure.toError (uri : String) : ParseFailure → EngineError
  | rejected error => .parseFailed uri error.message
  | timedOut limit => .parseTimeout uri limit

/-- A tree that became current, as subscribers are told. -/
structure Update where
  uri : String
  tree : SyntaxTree

/-- What a task does when its time has come. -/
inductive Work where
  | reparse (uri : String) (generation : Nat)
  | load (uri language : String)
  deriving DecidableEq, Repr

/-- Work to be done at or after a time in milliseconds. -/
structure Task where
  id : TaskId
  deadline : Nat
  work : Work
  deriving DecidableEq, Repr

/-- A document that waits in the background for the attempt at its language to end. -/
structure Waiter where
  language : String
  uri : String
  deriving DecidableEq, Repr

/-- What all entries share.  Without a runtime no task is ever spawned.  Tasks stand in the order in
    which they were spawned. -/
structure Services where
  config : Config
  registry : Registry
  libraries : Libraries := {}
  pool : Pool := {}
  pace : Pace := .steady
  events : Channel Update
  metrics : Metrics := {}
  runtime : Bool
  clock : Nat := 0
  tasks : List Task := []
  nextTask : TaskId := 0
  waiters : List Waiter := []

namespace Services

/-- The services of a new engine. -/
def create (config : Config) (dataHome : String) (libraries : Libraries) (runtime : Bool) :
    Services where
  config := config
  registry := .ofConfig config dataHome
  libraries := libraries
  events := .create config.eventCapacity
  runtime := runtime

/-- Changes the metrics. -/
def measure (s : Services) (f : Metrics → Metrics) : Services := { s with metrics := f s.metrics }

/-- The longest delay of a task: thirty years. -/
def longestDelay : Nat := 30 * 365 * 24 * 60 * 60 * 1000

/-- Spawns a task that is due after a delay, or after the longest one if that is earlier. -/
def spawn (s : Services) (delay : Nat) (work : Work) : Services × TaskId :=
  ({ s with
      tasks := s.tasks ++ [⟨s.nextTask, s.clock + min delay longestDelay, work⟩]
      nextTask := s.nextTask + 1 },
    s.nextTask)

/-- Drops a task that has not run. -/
def abort (s : Services) (task : TaskId) : Services :=
  { s with tasks := s.tasks.filter (·.id ≠ task) }

/-- Cancels an entry's timer and tells whether there was one. -/
def cancelTimer (s : Services) (entry : Entry) : Services × Entry × Bool :=
  match entry.timer.handle with
  | some task => (s.abort task, { entry with timer := entry.timer.cancelled }, true)
  | none => (s, { entry with timer := entry.timer.cancelled }, false)

/-- Whether an entry's timer waits for a task that has not run. -/
def isPending (s : Services) (entry : Entry) : Bool :=
  entry.timer.handle.any fun task => s.tasks.any (·.id == task)

/-- Arms an entry's timer in place of the one it may have. -/
def schedule (s : Services) (uri : String) (entry : Entry) (delay : Nat) : Services × Entry :=
  if s.runtime then
    let (s, entry, replaced) := s.cancelTimer entry
    let s := if replaced then s.measure Metrics.recordDebounceReset else s
    let (s, task) := s.spawn delay (.reparse uri (entry.timer.generation + 1))
    (s, { entry with timer := entry.timer.armed task })
  else (s, entry)

/-- The grammar of a language, opened on the spot if need be. -/
def grammarNow (s : Services) (language : String) : Services × Except EngineError Grammar :=
  match s.registry.loaded? language with
  | some grammar => (s, .ok grammar)
  | none =>
    if s.registry.isSupported language then
      let (registry, result) := s.registry.loadBlocking s.libraries language
      ({ s with registry := registry },
        match result with
        | .ok grammar => .ok grammar
        | .error (.pending language) => .error (.grammarNotReady language)
        | .error error => .error (.grammar error))
    else (s, .error (.unsupportedLanguage language))

/-- Parses a document's text with a parser of the pool, at the present pace. -/
def parseText (s : Services) (parser : Parser) (grammar : Grammar) (text : Text)
    (previous : Option PreviousTree) : Services × Except ParseFailure ParseTree :=
  let (pool, result) :=
    s.pool.parse (parser.paced s.pace) grammar text previous s.config.parseTimeoutMs
  ({ s with pool := pool }, result)

/-- Makes a tree current: counts it and tells the subscribers. -/
def announce (s : Services) (uri : String) (tree : SyntaxTree) (incremental : Bool) : Services :=
  { s with
    metrics := (s.metrics.recordParse incremental).recordTreeUpdate
    events := s.events.publish ⟨uri, tree⟩ }

/-- Parses the document of an entry and commits the tree. -/
def parseEntry (s : Services) (parser : Parser) (doc : Document) (entry : Entry)
    (grammar : Grammar) : Services × Entry × Except EngineError SyntaxTree :=
  let (entry, previous) := entry.beginParse doc.version
  let (s, result) := s.parseText parser grammar doc.text previous
  let s := s.measure (·.recordTiming "parse" 0)
  match result with
  | .ok parse =>
    let (entry, tree) := entry.commit grammar.language doc.version doc.text parse
    (s.announce doc.uri tree previous.isSome, entry, .ok tree)
  | .error failure =>
    let timedOut := match failure with
      | .timedOut _ => true
      | .rejected _ => false
    (s.measure (·.recordParseFailure timedOut), entry.fail, .error (failure.toError doc.uri))

/-- The current tree of an entry, parsed on the spot if need be. -/
def treeNow (s : Services) (parser : Parser) (doc : Document) (entry : Entry) :
    Services × Entry × Except EngineError SyntaxTree :=
  match entry.currentTree? doc.version with
  | some tree => (s, entry, .ok tree)
  | none =>
    -- A parse on demand takes the place of the one that is scheduled.
    let (s, entry, _) := s.cancelTimer entry
    match s.grammarNow doc.language with
    | (s, .error error) => (s, entry, .error error)
    | (s, .ok grammar) => s.parseEntry parser doc entry grammar

/-- Brings an entry up to date without waiting for a grammar.  One that is being loaded makes it try
    again after the debounce time; one that was never asked for is loaded in the background. -/
def reparse (s : Services) (parser : Parser) (doc : Document) (entry : Entry) :
    Services × Entry × Except EngineError (Option SyntaxTree) :=
  match entry.currentTree? doc.version with
  | some tree => (s, entry, .ok (some tree))
  | none =>
    match s.registry.loaded? doc.language with
    | some grammar =>
      let (s, entry, result) := s.parseEntry parser doc entry grammar
      (s, entry, result.map some)
    | none =>
      if !s.registry.isSupported doc.language then (s, entry, .ok none)
      else if s.registry.isLoading doc.language then
        -- Somebody else's load is under way; look again later.
        let (s, entry) := s.schedule doc.uri entry s.config.debounceMs
        (s, entry, .ok none)
      else if s.runtime then
        -- The load schedules the entry again when it succeeds.
        ((s.spawn 0 (.load doc.uri doc.language)).1, entry, .ok none)
      else (s, entry, .ok none)

/-- The timer of an entry has fired in one of its generations.  If that generation is not over, the
    entry is brought up to date; a failure is tried again after the debounce time, up to the
    configured number of times. -/
def fire (s : Services) (parser : Parser) (doc : Document) (entry : Entry) (generation : Nat) :
    Services × Entry :=
  match entry.timer.claim? generation with
  | none => (s, entry) -- cancelled or replaced in the meantime
  | some timer =>
    let s := s.measure Metrics.recordScheduledFire
    match s.reparse parser doc { entry with timer := timer } with
    | (s, entry, .ok _) => (s, entry)
    | (s, entry, .error _) =>
      let entry := { entry with consecutiveFailures := entry.consecutiveFailures + 1 }
      if entry.consecutiveFailures ≤ s.config.maxParseRetries then
        s.schedule doc.uri entry s.config.debounceMs
      else (s, entry)

/-- Takes a report of changes that led to a version, and tells how many were applied; `none` if the
    report was stopped. -/
def report (s : Services) (uri : String) (entry : Entry) (version : Int) (changes : List Change) :
    Services × Entry × Option Nat :=
  match entry.applyChanges changes version with
  | (entry, .applied count) =>
    let s := s.measure (·.recordEditsApplied count)
    if s.config.scheduleOnEdit then
      let (s, entry) := s.schedule uri entry s.config.debounceMs
      (s, entry, some count)
    else (s, entry, some count)
  | (entry, .dropped count) => (s.measure (·.recordEditsDropped count), entry, some 0)
  | (entry, .stopped) => (s, entry, none)

/-- What a verification found. -/
inductive Verdict where
  | agrees
  | diverges (version : Int) (mismatch : Mismatch)
  deriving DecidableEq, Repr

/-- Compares the current tree of an entry with a parse from scratch. -/
def verify (s : Services) (parser : Parser) (doc : Document) (entry : Entry) :
    Services × Entry × Except EngineError Verdict :=
  match s.treeNow parser doc entry with
  | (s, entry, .error error) => (s, entry, .error error)
  | (s, entry, .ok tree) =>
    match s.grammarNow tree.language with
    | (s, .error error) => (s, entry, .error error)
    | (s, .ok grammar) =>
      -- The second parse bypasses the entry, which keeps its tree whatever comes out.
      match s.parseText parser grammar doc.text none with
      | (s, .error failure) => (s, entry, .error (failure.toError doc.uri))
      | (s, .ok parse) =>
        let full := SyntaxTree.ofParse grammar.language doc.version parse
        let s := s.measure Metrics.recordVerification
        match full.firstDifference? tree with
        | none => (s, entry, .ok .agrees)
        | some mismatch => (s, entry, .ok (.diverges doc.version mismatch))

end Services

/-- The wording of a divergence of a document's tree from its parse from scratch. -/
def Services.Verdict.message (uri : String) : Services.Verdict → String
  | agrees => "verified"
  | diverges version mismatch =>
    s!"incremental tree of {uri} at version {version} diverged from a full parse {mismatch.message}"

end LiveTree
