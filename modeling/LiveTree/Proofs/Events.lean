import LiveTree.Proofs.Runs

/-!
# Everything that happens is a run

The host acts, and the engine's own tasks come when they come.  An `Event` is either: an action of a
history, or a task out of the order that the virtual clock would give it, such as a timer that fires
late or after it was cancelled, or a load that ends while the host is at work.  And parses become
slower or faster at any time, so that one that was late once may be in time when it is tried again.

## Key results

- `undergo_reaches`: every sequence of events is a run, in which the host does what it does in the
  events
-/

namespace LiveTree

/-- Something that happens in a workspace: an action, a task that comes at any time, or a change of
    pace. -/
inductive Event where
  | action (action : Action)
  /-- A timer of some generation wakes up, whether or not that generation is over. -/
  | timer (uri : String) (generation : Nat)
  /-- A background load that was started for a document runs. -/
  | backgroundLoad (uri language : String)
  /-- The attempt at a language ends, if one is under way. -/
  | finishLoad (language : String)
  /-- From now on, parses are in time as a pace has it. -/
  | pace (pace : Pace)

/-- An exchange is made by edits. -/
theorem Document.revision_of_swap {doc next : Document} {a b : Span} {swap : Swap}
    (h : doc.swap a b = .ok (next, swap)) : doc.Revision next swap.changes := by
  unfold Document.swap at h
  simp only [bind, Except.bind, pure, Except.pure, throw, throwThe, MonadExceptOf.throw] at h
  generalize (if a.start ≤ b.start then a else b) = left at h
  generalize (if a.start ≤ b.start then b else a) = right at h
  -- All tests and both readings have to pass before anything is replaced.
  split at h
  · exact nomatch h
  split at h
  · exact nomatch h
  split at h
  · exact nomatch h
  split at h
  · exact nomatch h
  split at h
  · exact nomatch h
  -- What is left is the case in which the two replacements are made, and they are edits like any
  -- other.
  next leftText _ _ rightText _ =>
    cases hedits : doc.applyEdits [⟨right, leftText⟩, ⟨left, rightText⟩] with
    | error error => rw [hedits] at h; exact nomatch h
    | ok edited =>
      rw [hedits] at h
      obtain ⟨rfl, rfl⟩ := Prod.mk.inj (Except.ok.inj h)
      exact .edits hedits

namespace Workspace

/-- What an event makes of a workspace. -/
def occur (parser : Parser) (w : Workspace) : Event → Workspace
  | .action action => w.act parser action
  | .timer uri generation => w.timerFired parser uri generation
  | .backgroundLoad uri language => w.backgroundLoad uri language
  | .finishLoad language => w.finishLoad language
  | .pace pace => w.setPace pace

/-- What a sequence of events makes of a workspace. -/
def undergo (parser : Parser) (w : Workspace) (events : List Event) : Workspace :=
  events.foldl (occur parser) w

variable {parser : Parser}

/-- What the engine does by itself, time and again, it does by itself. -/
theorem foldl_reaches {α : Type} {f : Workspace → α → Workspace}
    (step : ∀ w a, Reaches parser w [] (f w a)) (as : List α) (w : Workspace) :
    Reaches parser w [] (as.foldl f w) := by
  -- The induction is on the list: what has been done so far is where the rest starts.
  induction as generalizing w with
  | nil => exact .refl parser w
  | cons a rest ih => exact (step w a).trans (ih (f w a))

/-! ## Queries and exchanges -/

/-- Taking the time is all the services' own affair. -/
theorem time_reaches (w : Workspace) (operation : String) :
    Reaches parser w [] (w.time operation) :=
  quiet_of_leads rfl rfl (w.services.measure_leads (·.recordTiming operation 0))

/-- A query for a node takes a look at the tree and, if that succeeds, the time. -/
theorem containingNode_reaches (w : Workspace) (parser : Parser) (uri : String) (span : Span) :
    Reaches parser w [] (w.containingNode parser uri span).1 := by
  have htree := w.treeNow_reaches parser uri
  unfold containingNode
  split
  · next h => rw [h] at htree; exact htree
  · next later _ h => rw [h] at htree; exact htree.trans (later.time_reaches _)

/-- A query for a list takes a look at the tree, fetches the grammar once more, and takes the time.
    -/
theorem bracketingChildren_reaches (w : Workspace) (parser : Parser) (uri : String) (span : Span) :
    Reaches parser w [] (w.bracketingChildren parser uri span).1 := by
  have htree := w.treeNow_reaches parser uri
  unfold bracketingChildren
  split
  · next h => rw [h] at htree; exact htree
  · next later tree h =>
    -- The grammar of a tree is loaded already, so fetching it changes nothing that counts.
    rw [h] at htree
    have hgrammar : Reaches parser later []
        { later with services := (later.services.grammarNow tree.language).1 } :=
      quiet_of_leads rfl rfl (later.services.grammarNow_leads tree.language)
    refine htree.trans (hgrammar.trans ?_)
    dsimp only
    split
    · exact .refl parser _
    · exact time_reaches _ _

/-- What the host does by an exchange: it revises the document and reports the changes at once. -/
def doingsOfSwap (w : Workspace) (id : DocumentId) (a b : Span) : List Happening :=
  match w.documents[id]? with
  | none => []
  | some doc =>
    match doc.swap a b with
    | .error _ => []
    | .ok (next, swap) =>
      .revised id next.text swap.changes ::
        { w with documents := w.documents.set id next }.doingsOfReport next.uri next.version
          swap.changes

/-- After an exchange, its report is followed by a look at the tree at most. -/
theorem swapSiblings_reaches (w : Workspace) (parser : Parser) (id : DocumentId) (a b : Span) :
    Reaches parser w (w.doingsOfSwap id a b) (w.swapSiblings parser id a b).1 := by
  unfold swapSiblings doingsOfSwap
  cases found : w.documents[id]? with
  | none => exact .refl parser w
  | some doc =>
    have htime : Reaches parser w [] (w.time "swap_siblings") := w.time_reaches "swap_siblings"
    dsimp only
    cases hswap : doc.swap a b with
    | error error => exact htime
    | ok result =>
      obtain ⟨next, swap⟩ := result
      have hrevised : Reaches parser (w.time "swap_siblings")
          [.revised id next.text swap.changes]
          { w.time "swap_siblings" with
            documents := (w.time "swap_siblings").documents.set id next } :=
        Step.noted (.revise found (Document.revision_of_swap hswap) ⟨rfl, fun _ => rfl, .refl _⟩)
          rfl
      -- The time that was taken does not matter to what is open.
      show Reaches parser w ([] ++ ([.revised id next.text swap.changes] ++
        { w.time "swap_siblings" with
          documents := (w.time "swap_siblings").documents.set id next }.doingsOfReport next.uri
            next.version swap.changes)) _
      refine htime.trans (hrevised.trans ?_)
      dsimp only
      -- From here on it does not matter how the workspace with the new text has come about.
      generalize Workspace.mk _ _ _ = exchanged
      have hreport := exchanged.report_reaches parser next.uri next.version swap.changes
      -- A report that finds the document closed or runs over ends the exchange; otherwise a look at
      -- the tree follows.
      split
      · next h => rw [h] at hreport; exact hreport
      · next h => rw [h] at hreport; exact hreport
      · next reported _ h =>
        rw [h] at hreport
        have htree := reported.treeNow_reaches parser next.uri
        -- The look adds nothing to what the host does, which the goal's list of happenings has to
        -- show first.
        rw [← List.append_nil (exchanged.doingsOfReport _ _ _)]
        split
        · next h => rw [h] at htree; exact hreport.trans htree
        · next h => rw [h] at htree; exact hreport.trans htree

/-- What the host does by an exchange of neighbours, once they are found in the tree. -/
def doingsOfSwapWithSibling (w : Workspace) (parser : Parser) (id : DocumentId) (span : Span)
    (direction : Direction) : List Happening :=
  match w.documents[id]? with
  | none => []
  | some doc =>
    match w.treeNow parser doc.uri with
    | (_, .error _) => []
    | (later, .ok tree) =>
      match tree.containing span with
      | .error _ => []
      | .ok node =>
        let sibling := tree.sibling node direction
        if sibling = node then []
        else later.doingsOfSwap id (tree.extent node).span (tree.extent sibling).span

/-- An exchange of neighbours takes a look at the tree, and exchanges if it finds two nodes. -/
theorem swapWithSibling_reaches (w : Workspace) (parser : Parser) (id : DocumentId) (span : Span)
    (direction : Direction) :
    Reaches parser w (w.doingsOfSwapWithSibling parser id span direction)
      (w.swapWithSibling parser id span direction).1 := by
  unfold swapWithSibling doingsOfSwapWithSibling
  cases w.documents[id]? with
  | none => exact .refl parser w
  | some doc =>
    have htree := w.treeNow_reaches parser doc.uri
    dsimp only
    -- The two definitions look at the same answer, which is all that they need to agree on.
    generalize w.treeNow parser doc.uri = access at htree ⊢
    obtain ⟨later, error | tree⟩ := access
    · exact htree
    · dsimp only
      cases tree.containing span with
      | error error => exact htree
      | ok node =>
        dsimp only
        split
        · exact htree
        · exact htree.trans (later.swapSiblings_reaches parser id _ _)

/-! ## Grammars -/

/-- A registry that leads on to another may take its place at any time. -/
theorem setRegistry_reaches (w : Workspace) {registry : Registry}
    (leads : w.services.registry.Leads registry) : Reaches parser w [] (w.setRegistry registry) :=
  quiet_of_leads rfl rfl ⟨rfl, leads⟩

/-- Asking for a grammar changes nothing but the registry. -/
theorem requestGrammar_reaches (w : Workspace) (language : String) :
    Reaches parser w [] (w.requestGrammar language).1 :=
  w.setRegistry_reaches (w.services.registry.request_leads w.services.libraries language)

/-- Ending an attempt changes nothing but the registry. -/
theorem completeLoad_reaches (w : Workspace) (language : String) :
    Reaches parser w [] (w.completeLoad language).1 :=
  w.setRegistry_reaches (w.services.registry.complete_leads w.services.libraries language)

/-- A load in the background asks for the grammar and either goes on at once or waits. -/
theorem backgroundLoad_reaches (w : Workspace) (uri language : String) :
    Reaches parser w [] (w.backgroundLoad uri language) := by
  have hrequest : Reaches parser w [] (w.requestGrammar language).1 :=
    w.requestGrammar_reaches language
  unfold backgroundLoad
  -- The grammar is there, it cannot be had, or it has to be waited for.
  split
  · next later _ h => rw [h] at hrequest; exact hrequest.trans (later.scheduleIfOpen_reaches _ uri 0)
  · next h => rw [h] at hrequest; exact hrequest
  · next h =>
    rw [h] at hrequest
    exact hrequest.trans (quiet_of_leads rfl rfl (.of_eq rfl rfl))

/-- Whatever has waited for a language is scheduled, if the grammar has come. -/
theorem resumeWaiters_reaches (w : Workspace) (language : String)
    (outcome : Except GrammarError Grammar) :
    Reaches parser w [] (w.resumeWaiters language outcome) := by
  -- First the list of those who wait is cleared, then they are scheduled one by one.
  have hwaiters : Reaches parser w [] { w with services := { w.services with
      waiters := w.services.waiters.filter (·.language ≠ language) } } :=
    quiet_of_leads rfl rfl (.of_eq rfl rfl)
  unfold resumeWaiters
  refine hwaiters.trans ?_
  dsimp only
  split
  · exact foldl_reaches (fun w (waiter : Waiter) => w.scheduleIfOpen_reaches parser waiter.uri 0) _ _
  · exact .refl parser _

/-- An attempt ends, and whatever has waited for it goes on. -/
theorem finishLoad_reaches (w : Workspace) (language : String) :
    Reaches parser w [] (w.finishLoad language) := by
  have hcomplete : Reaches parser w [] (w.completeLoad language).1 := w.completeLoad_reaches language
  unfold finishLoad
  split
  · next later outcome h =>
    rw [h] at hcomplete
    exact hcomplete.trans (later.resumeWaiters_reaches language outcome)
  · next h => rw [h] at hcomplete; exact hcomplete

/-! ## The passing of time -/

/-- A task that runs leaves the queue and then does its work. -/
theorem runTask_reaches (w : Workspace) (parser : Parser) (task : Task) :
    Reaches parser w [] (w.runTask parser task) := by
  have habort : Reaches parser w [] { w with services := w.services.abort task.id } :=
    quiet_of_leads rfl rfl (.of_eq rfl rfl)
  unfold runTask
  refine habort.trans ?_
  dsimp only
  split
  · exact timerFired_reaches _ parser _ _
  · exact backgroundLoad_reaches _ _ _

/-- Running what is due, up to a number of steps, is something the engine does by itself. -/
theorem drain_reaches (parser : Parser) (steps : Nat) (w : Workspace) :
    Reaches parser w [] (drain parser steps w) := by
  -- On the number of steps: each runs one task, and the rest are counted from there.
  induction steps generalizing w with
  | zero => exact .refl parser w
  | succ steps ih =>
    unfold drain
    split
    · exact .refl parser w
    · next task _ => exact (w.runTask_reaches parser task).trans (ih _)

/-- So is running all that is due. -/
theorem runDue_reaches (w : Workspace) (parser : Parser) : Reaches parser w [] (w.runDue parser) :=
  drain_reaches parser w.budget w

/-- Each round of settling runs what is due and ends the attempts that are under way then. -/
theorem settleFor_reaches (parser : Parser) (rounds : Nat) (w : Workspace) :
    Reaches parser w [] (settleFor parser rounds w) := by
  -- On the number of rounds, as they are counted down.
  induction rounds generalizing w with
  | zero => exact .refl parser w
  | succ rounds ih =>
    have hdue := w.runDue_reaches parser
    unfold settleFor
    dsimp only
    split
    · exact hdue
    · exact hdue.trans ((foldl_reaches finishLoad_reaches _ _).trans (ih _))

/-- So is settling. -/
theorem settle_reaches (w : Workspace) (parser : Parser) : Reaches parser w [] (w.settle parser) :=
  settleFor_reaches parser _ w

/-- Time may pass whenever it will. -/
theorem setClock_reaches (w : Workspace) (time : Nat) : Reaches parser w [] (w.setClock time) :=
  quiet_of_leads rfl rfl (.of_eq rfl rfl)

/-- Parses may become faster or slower whenever they will. -/
theorem setPace_reaches (w : Workspace) (pace : Pace) : Reaches parser w [] (w.setPace pace) :=
  quiet_of_leads rfl rfl (.of_eq rfl rfl)

/-- Time passes from one deadline to the next, and what is due is run at each. -/
theorem advanceTo_reaches (parser : Parser) (target steps : Nat) (w : Workspace) :
    Reaches parser w [] (advanceTo parser target steps w) := by
  -- On the number of stops: at each the engine settles before the clock moves on.
  induction steps generalizing w with
  | zero => exact w.setClock_reaches target
  | succ steps ih =>
    have hsettle := w.settle_reaches parser
    unfold advanceTo
    dsimp only
    split
    · exact hsettle.trans (setClock_reaches _ target)
    · split
      · exact hsettle.trans ((setClock_reaches _ _).trans (ih _))
      · exact hsettle.trans (setClock_reaches _ target)

/-- So is letting time pass. -/
theorem advance_reaches (w : Workspace) (parser : Parser) (ms : Nat) :
    Reaches parser w [] (w.advance parser ms) :=
  advanceTo_reaches parser _ _ w

/-! ## Waiting for grammars -/

/-- Waiting for a grammar runs what is due meanwhile and then ends the attempt. -/
theorem awaitGrammar_reaches (w : Workspace) (parser : Parser) (language : String) :
    Reaches parser w [] (w.awaitGrammar parser language).1 := by
  have hrequest : Reaches parser w [] (w.requestGrammar language).1 :=
    w.requestGrammar_reaches language
  unfold awaitGrammar
  -- Only a grammar that is being loaded is waited for.
  split
  · next h => rw [h] at hrequest; exact hrequest
  · next h => rw [h] at hrequest; exact hrequest
  · next later h =>
    rw [h] at hrequest
    have hdue := hrequest.trans (later.runDue_reaches parser)
    have hcomplete : Reaches parser (later.runDue parser) []
        ((later.runDue parser).completeLoad language).1 := completeLoad_reaches _ language
    split
    · next h => rw [h] at hcomplete; exact hdue.trans hcomplete
    · next h => rw [h] at hcomplete; exact hdue.trans hcomplete

/-- After the wait, others that have waited go on as well. -/
theorem afterWait_reaches (w : Workspace) (parser : Parser) (language : String)
    (outcome : Except GrammarError Grammar) (waited : Bool) :
    Reaches parser w [] (w.afterWait parser language outcome waited) := by
  unfold afterWait
  split
  · exact (w.resumeWaiters_reaches language outcome).trans (settle_reaches _ parser)
  · exact .refl parser w

/-- A host that loads a grammar waits for it and lets others go on. -/
theorem load_reaches (w : Workspace) (parser : Parser) (language : String) :
    Reaches parser w [] (w.load parser language).1 := by
  unfold load
  split
  · exact .refl parser w
  · exact (w.awaitGrammar_reaches parser language).trans (afterWait_reaches _ parser language _ _)

/-- A look at a tree that had to wait for the grammar comes before others go on. -/
theorem treeAfterLoad_reaches (w : Workspace) (parser : Parser) (uri language : String) :
    Reaches parser w [] (w.treeAfterLoad parser uri language).1 := by
  unfold treeAfterLoad
  refine (w.awaitGrammar_reaches parser language).trans ?_
  dsimp only
  split
  · exact afterWait_reaches _ parser language _ _
  · exact (treeNow_reaches _ parser uri).trans (afterWait_reaches _ parser language _ _)

/-- A look at a tree is taken at once, or after the grammar has been waited for. -/
theorem tree_reaches (w : Workspace) (parser : Parser) (uri : String) :
    Reaches parser w [] (w.tree parser uri).1 := by
  -- No document, nothing open, a grammar to wait for, or a look at once.
  unfold tree
  split
  · exact .refl parser w
  · split
    · exact .refl parser w
    · dsimp only
      split
      · exact w.treeAfterLoad_reaches parser uri _
      · exact w.treeNow_reaches parser uri

/-! ## All events -/

/-- What the host does in an action. -/
def doings (w : Workspace) (parser : Parser) : Action → List Happening
  | .create _ _ text => [.created text]
  | .edit id edits => w.doingsOfEdit id edits
  | .setText id text => w.doingsOfSetText id text
  | .openDocument id => w.doingsOfOpen id
  | .close uri => w.doingsOfClose uri
  | .report uri version changes => w.doingsOfReport uri version changes
  | .swapSiblings id a b => w.doingsOfSwap id a b
  | .swapWithSibling id span direction => w.doingsOfSwapWithSibling parser id span direction
  | _ => []

/-- Every action is a run in which the host does what it does in the action. -/
theorem act_reaches (w : Workspace) (parser : Parser) (action : Action) :
    Reaches parser w (w.doings parser action) (w.act parser action) := by
  cases action with
  | create uri language text => exact w.createDocument_reaches parser uri language text
  | edit id edits => exact w.editDocument_reaches parser id edits
  | setText id text => exact w.setText_reaches parser id text
  | openDocument id => exact w.openDocument_reaches parser id
  | close uri => exact w.close_reaches parser uri
  | report uri version changes => exact w.report_reaches parser uri version changes
  | treeNow uri => exact w.treeNow_reaches parser uri
  | tree uri => exact w.tree_reaches parser uri
  | reparseNow uri => exact w.reparseNow_reaches parser uri
  | verify uri => exact w.verify_reaches parser uri
  | containingNode uri span => exact w.containingNode_reaches parser uri span
  | bracketingChildren uri span => exact w.bracketingChildren_reaches parser uri span
  | swapSiblings id a b => exact w.swapSiblings_reaches parser id a b
  | swapWithSibling id span direction => exact w.swapWithSibling_reaches parser id span direction
  | activate uri => exact w.activate_reaches parser uri
  | scheduleReparse uri => exact w.scheduleReparse_reaches parser uri
  -- Listening, counters and libraries are of no concern to documents and entries.
  | subscribe => exact quiet_of_leads rfl rfl (.of_eq rfl rfl)
  | unsubscribe number => exact quiet_of_leads rfl rfl (.of_eq rfl rfl)
  | receive number => exact quiet_of_leads rfl rfl (.of_eq rfl rfl)
  | resetMetrics => exact quiet_of_leads rfl rfl (w.services.measure_leads Metrics.reset)
  | loadBlocking language =>
    exact w.setRegistry_reaches
      (w.services.registry.loadBlocking_leads w.services.libraries language)
  | beginLoad language =>
    show Reaches parser w [] (w.beginLoad language).1
    unfold beginLoad
    split
    · exact .refl parser w
    · exact w.requestGrammar_reaches language
  | load language => exact w.load_reaches parser language
  | putLibrary path file => exact quiet_of_leads rfl rfl (.of_eq rfl rfl)
  | advance ms => exact w.advance_reaches parser ms

/-- What the host does in a sequence of events. -/
def doingsAlong (parser : Parser) (w : Workspace) : List Event → List Happening
  | [] => []
  | .action action :: rest =>
    w.doings parser action ++ doingsAlong parser (w.act parser action) rest
  | event :: rest => doingsAlong parser (w.occur parser event) rest

/-- Every sequence of events is a run, in which the host does what it does in the events. -/
theorem undergo_reaches (parser : Parser) (w : Workspace) (events : List Event) :
    Reaches parser w (w.doingsAlong parser events) (w.undergo parser events) := by
  -- On the events: what the host does in the first of them comes before what it does in the rest.
  induction events generalizing w with
  | nil => exact .refl parser w
  | cons event rest ih =>
    cases event with
    | action action => exact (w.act_reaches parser action).trans (ih _)
    | timer uri generation => exact (w.timerFired_reaches parser uri generation).trans (ih _)
    | backgroundLoad uri language => exact (w.backgroundLoad_reaches uri language).trans (ih _)
    | finishLoad language => exact (w.finishLoad_reaches language).trans (ih _)
    | pace pace => exact (w.setPace_reaches pace).trans (ih _)

end Workspace

end LiveTree
