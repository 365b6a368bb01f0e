import LiveTree.Workspace

/-!
# Virtual time

Tasks run in the order of their deadlines, and among equal deadlines in the order in which they were
spawned.  The clock moves only in `Workspace.advance`, from deadline to deadline.  A library load
under way ends only when nothing else is due; then everything that waited for it goes on.
-/

namespace LiveTree.Workspace

/-- The task to run next: of those that are due the one with the earliest deadline, and of several
    the one spawned first. -/
def dueTask? (w : Workspace) : Option Task :=
  w.services.tasks.foldl
    (fun best task =>
      if task.deadline ≤ w.services.clock && best.all (task.deadline < ·.deadline) then some task
      else best)
    none

/-- The earliest deadline of all tasks. -/
def nextDeadline? (w : Workspace) : Option Nat :=
  (w.services.tasks.map (·.deadline)).min?

/-- A reparse timer fires. -/
def timerFired (w : Workspace) (parser : Parser) (uri : String) (generation : Nat) : Workspace :=
  match w.open? uri with
  | none => w
  | some (entry, doc) =>
    let (services, entry) := w.services.fire parser doc entry generation
    w.put uri services entry

/-- A background load runs: once the grammar is there, its document is reparsed. -/
def backgroundLoad (w : Workspace) (uri language : String) : Workspace :=
  match w.requestGrammar language with
  | (w, .ready _) => w.scheduleIfOpen uri 0
  | (w, .failed _) => w
  | (w, .waiting) =>
    { w with services := { w.services with waiters := w.services.waiters ++ [⟨language, uri⟩] } }

/-- Runs a task. -/
def runTask (w : Workspace) (parser : Parser) (task : Task) : Workspace :=
  -- A task that runs is no longer waiting, so it cannot be cancelled from within.
  let w := { w with services := w.services.abort task.id }
  match task.work with
  | .reparse uri generation => w.timerFired parser uri generation
  | .load uri language => w.backgroundLoad uri language

/-- Runs due tasks, those that become due meanwhile included, at most `steps` of them. -/
def drain (parser : Parser) : Nat → Workspace → Workspace
  | 0, w => w
  | steps + 1, w =>
    match w.dueTask? with
    | none => w
    | some task => drain parser steps (w.runTask parser task)

/-- How many tasks can run without the clock moving: a timer may start a load, the load a new timer,
    and that one may be tried again as often as configured. -/
def budget (w : Workspace) : Nat :=
  (w.services.tasks.length + w.services.waiters.length + 1) * (w.services.config.maxParseRetries + 4)

/-- Runs everything that is due now. -/
def runDue (w : Workspace) (parser : Parser) : Workspace := drain parser w.budget w

/-- Lets everything that waited in the background for a language go on. -/
def resumeWaiters (w : Workspace) (language : String) (outcome : Except GrammarError Grammar) :
    Workspace :=
  let resumed := w.services.waiters.filter (·.language == language)
  let waiting := w.services.waiters.filter (·.language ≠ language)
  let w := { w with services := { w.services with waiters := waiting } }
  match outcome with
  | .ok _ => resumed.foldl (fun w waiter => w.scheduleIfOpen waiter.uri 0) w
  | .error _ => w

/-- Ends the attempt at a language, if one is under way. -/
def completeLoad (w : Workspace) (language : String) :
    Workspace × Option (Except GrammarError Grammar) :=
  let (registry, outcome) := w.services.registry.complete w.services.libraries language
  (w.setRegistry registry, outcome)

/-- Ends the attempt at a language and lets what waited for it go on. -/
def finishLoad (w : Workspace) (language : String) : Workspace :=
  match w.completeLoad language with
  | (w, some outcome) => w.resumeWaiters language outcome
  | (w, none) => w

/-- Runs everything that is due, ends every attempt under way, and so on until nothing is left to do
    now, at most `rounds` times. -/
def settleFor (parser : Parser) : Nat → Workspace → Workspace
  | 0, w => w
  | rounds + 1, w =>
    let w := w.runDue parser
    match w.services.registry.attempts.map (·.id) with
    | [] => w
    | languages => settleFor parser rounds (languages.foldl finishLoad w)

/-- Runs everything there is to do now.  An attempt can follow another only through a task that was
    due, so there are no more rounds than tasks and attempts, and one to see that nothing is left. -/
def settle (w : Workspace) (parser : Parser) : Workspace :=
  settleFor parser (w.services.tasks.length + w.services.registry.attempts.length + 2) w

/-- Moves the clock. -/
def setClock (w : Workspace) (time : Nat) : Workspace :=
  { w with services := { w.services with clock := time } }

/-- Makes parses slower or faster from now on. -/
def setPace (w : Workspace) (pace : Pace) : Workspace :=
  { w with services := { w.services with pace := pace } }

/-- Moves the clock from deadline to deadline up to a time, at most `steps` times. -/
def advanceTo (parser : Parser) (target : Nat) : Nat → Workspace → Workspace
  | 0, w => w.setClock target
  | steps + 1, w =>
    let w := w.settle parser
    match w.nextDeadline? with
    | none => w.setClock target
    | some deadline =>
      if deadline ≤ target then
        advanceTo parser target steps (w.setClock (max w.services.clock deadline))
      else w.setClock target

/-- Lets time pass.  After everything due now has run, the clock moves by at least a millisecond at a
    time. -/
def advance (w : Workspace) (parser : Parser) (ms : Nat) : Workspace :=
  advanceTo parser (w.services.clock + ms) (ms + 1) w

/-- Asks for a grammar and waits for it; also tells whether that took any waiting.  While it waits,
    everything that is due runs. -/
def awaitGrammar (w : Workspace) (parser : Parser) (language : String) :
    Workspace × Except GrammarError Grammar × Bool :=
  match w.requestGrammar language with
  | (w, .ready grammar) => (w, .ok grammar, false)
  | (w, .failed error) => (w, .error error, false)
  | (w, .waiting) =>
    match (w.runDue parser).completeLoad language with
    | (w, some outcome) => (w, outcome, true)
    | (w, none) => (w, .error (.pending language), true)

/-- After a wait, lets everything else that waited go on. -/
def afterWait (w : Workspace) (parser : Parser) (language : String)
    (outcome : Except GrammarError Grammar) (waited : Bool) : Workspace :=
  if waited then (w.resumeWaiters language outcome).settle parser else w

/-- Loads a grammar, waiting for it if need be; `none` if that takes a runtime and there is none. -/
def load (w : Workspace) (parser : Parser) (language : String) :
    Workspace × Option (Except GrammarError Grammar) :=
  if w.isStranded language then (w, none)
  else
    let (w, outcome, waited) := w.awaitGrammar parser language
    (w.afterWait parser language outcome waited, some outcome)

/-- The tree of a document of a supported language, after waiting for its grammar if need be. -/
def treeAfterLoad (w : Workspace) (parser : Parser) (uri language : String) :
    Workspace × Except EngineError SyntaxTree :=
  let (w, outcome, waited) := w.awaitGrammar parser language
  match outcome with
  | .error error => (w.afterWait parser language outcome waited, .error (.grammar error))
  | .ok _ =>
    -- The caller goes on before anything else that waited for the load.
    let (w, result) := w.treeNow parser uri
    (w.afterWait parser language outcome waited, result)

/-- The current tree of a document, after waiting for its grammar if need be; `none` if that takes a
    runtime and there is none. -/
def tree (w : Workspace) (parser : Parser) (uri : String) :
    Workspace × Option (Except EngineError SyntaxTree) :=
  match w.open? uri with
  | none => (w, some (.error (.documentNotOpen uri)))
  | some (_, doc) =>
    if w.isStranded doc.language then (w, none)
    else
      let (w, result) :=
        if w.services.registry.isSupported doc.language then
          w.treeAfterLoad parser uri doc.language
        else w.treeNow parser uri
      (w, some result)

end LiveTree.Workspace
