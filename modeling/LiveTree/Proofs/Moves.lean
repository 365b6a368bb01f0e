import LiveTree.Proofs.Events

/-!
# Moves

The actions of a history and the passing of time are made of smaller parts, and other things may happen
between two parts.  A `Move` is a part between which and the next one anything may happen: one call of
the host, one task that runs, one attempt at a grammar that ends.  What every move keeps is kept by
everything that happens, in whatever order the tasks may run.

## Key results

- `move_reaches`: every move is a run in which the host does what it does in the move
- `undergo_plays`: every sequence of events is a sequence of moves, in which the host does the same
-/

namespace LiveTree

/-- A way to bring a document to its next version: by edits, by a new text, or by an exchange of two
    pieces. -/
inductive Alteration where
  | edits (edits : List Edit)
  | text (text : Text)
  | exchange (a b : Span)

namespace Document

/-- The next version of a document and the changes that led to it; `none` if the alteration is
    invalid. -/
def alter? (doc : Document) : Alteration → Option (Document × List Change)
  | .edits edits => (doc.applyEdits edits).toOption
  | .text text => some ((doc.setText text).1, [(doc.setText text).2])
  | .exchange a b => (doc.swap a b).toOption.map fun exchanged => (exchanged.1, exchanged.2.changes)

/-- An alteration is a revision. -/
theorem revision_of_alter? {doc next : Document} {alteration : Alteration} {changes : List Change}
    (h : doc.alter? alteration = some (next, changes)) : doc.Revision next changes := by
  cases alteration with
  | edits edits =>
    change (doc.applyEdits edits).toOption = some (next, changes) at h
    cases hedits : doc.applyEdits edits with
    | error error => rw [hedits] at h; exact nomatch h
    | ok edited =>
      rw [hedits] at h
      obtain rfl : edited = (next, changes) := Option.some.inj h
      exact .edits hedits
  | text text =>
    obtain ⟨rfl, rfl⟩ := Prod.mk.inj (Option.some.inj h)
    exact .setText text
  | exchange a b =>
    change (doc.swap a b).toOption.map _ = some (next, changes) at h
    cases hswap : doc.swap a b with
    | error error => rw [hswap] at h; exact nomatch h
    | ok exchanged =>
      rw [hswap] at h
      obtain ⟨rfl, rfl⟩ := Prod.mk.inj (Option.some.inj h)
      exact revision_of_swap hswap

end Document

/-- What has nothing to do with texts and trees: the clock, the pace of parses, subscribers, metrics
    and what stands on disk. -/
inductive Aside where
  | time (operation : String)
  | resetMetrics
  | subscribe
  | unsubscribe (number : Nat)
  | receive (number : Nat)
  | putLibrary (path : String) (file : Option LibraryFile)
  | setClock (time : Nat)
  | setPace (pace : Pace)

/-- One part of what happens in a workspace. -/
inductive Move where
  | create (uri language : String) (text : Text)
  /-- A document is altered, and the changes are not reported. -/
  | alter (id : DocumentId) (alteration : Alteration)
  /-- A document is altered, and the changes are reported at once, with its version. -/
  | revise (id : DocumentId) (alteration : Alteration)
  | openDocument (id : DocumentId)
  | close (uri : String)
  | report (uri : String) (version : Int) (changes : List Change)
  | treeNow (uri : String)
  | reparseNow (uri : String)
  | verify (uri : String)
  | activate (uri : String)
  | scheduleReparse (uri : String)
  | loadBlocking (language : String)
  | request (language : String)
  /-- A timer of some generation wakes up, whether or not that generation is over. -/
  | wake (uri : String) (generation : Nat)
  | backgroundLoad (uri language : String)
  /-- A task runs, if it is there, whether or not it is due. -/
  | run (task : Task)
  /-- The attempt at a language ends.  A caller that has waited for it looks at a tree, and then
      everything goes on that has waited in the background. -/
  | finish (language : String) (caller : Option String)
  | aside (aside : Aside)

namespace Workspace

/-- Brings a document to its next version, if the alteration is valid. -/
def alter (w : Workspace) (id : DocumentId) (alteration : Alteration) : Workspace :=
  match (w.documents[id]?).bind (·.alter? alteration) with
  | none => w
  | some (next, _) => { w with documents := w.documents.set id next }

/-- Brings a document to its next version and reports the changes, if the alteration is valid. -/
def revise (w : Workspace) (id : DocumentId) (alteration : Alteration) : Workspace :=
  match (w.documents[id]?).bind (·.alter? alteration) with
  | none => w
  | some (next, changes) =>
    ({ w with documents := w.documents.set id next }.report next.uri next.version changes).1

/-- A caller that has waited for a grammar looks at a tree, if the grammar has come. -/
def lookAfter (w : Workspace) (parser : Parser) (outcome : Except GrammarError Grammar) :
    Option String → Workspace
  | none => w
  | some uri =>
    match outcome with
    | .ok _ => (w.treeNow parser uri).1
    | .error _ => w

/-- Ends the attempt at a language and lets go on what has waited for it, a caller first.  Whoever waits
    for an attempt that is not under way waits in vain. -/
def finish (w : Workspace) (parser : Parser) (language : String) (caller : Option String) :
    Workspace :=
  match w.completeLoad language with
  | (w, some outcome) => (w.lookAfter parser outcome caller).resumeWaiters language outcome
  | (w, none) => w.resumeWaiters language (.error (.pending language))

/-- What is done aside. -/
def doAside (w : Workspace) : Aside → Workspace
  | .time operation => w.time operation
  | .resetMetrics => w.resetMetrics
  | .subscribe => w.subscribe.1
  | .unsubscribe number => w.unsubscribe number
  | .receive number => (w.receive number).1
  | .putLibrary path file => w.putLibrary path file
  | .setClock time => w.setClock time
  | .setPace pace => w.setPace pace

/-- What a move makes of a workspace. -/
def move (parser : Parser) (w : Workspace) : Move → Workspace
  | .create uri language text => (w.createDocument uri language text).1
  | .alter id alteration => w.alter id alteration
  | .revise id alteration => w.revise id alteration
  | .openDocument id => w.openDocument id
  | .close uri => (w.close uri).1
  | .report uri version changes => (w.report uri version changes).1
  | .treeNow uri => (w.treeNow parser uri).1
  | .reparseNow uri => (w.reparseNow parser uri).1
  | .verify uri => (w.verify parser uri).1
  | .activate uri => (w.activate uri).1
  | .scheduleReparse uri => (w.scheduleReparse uri).1
  | .loadBlocking language => (w.loadBlocking language).1
  | .request language => (w.requestGrammar language).1
  | .wake uri generation => w.timerFired parser uri generation
  | .backgroundLoad uri language => w.backgroundLoad uri language
  | .run task => if task ∈ w.services.tasks then w.runTask parser task else w
  | .finish language caller => w.finish parser language caller
  | .aside aside => w.doAside aside

/-- What a sequence of moves makes of a workspace. -/
def play (parser : Parser) (w : Workspace) (moves : List Move) : Workspace :=
  moves.foldl (move parser) w

/-- What the host does by an alteration. -/
def doingsOfAlter (w : Workspace) (id : DocumentId) (alteration : Alteration) : List Happening :=
  match (w.documents[id]?).bind (·.alter? alteration) with
  | none => []
  | some (next, changes) => [.revised id next.text changes]

/-- What the host does by an alteration that it reports. -/
def doingsOfRevise (w : Workspace) (id : DocumentId) (alteration : Alteration) : List Happening :=
  match (w.documents[id]?).bind (·.alter? alteration) with
  | none => []
  | some (next, changes) =>
    .revised id next.text changes ::
      { w with documents := w.documents.set id next }.doingsOfReport next.uri next.version changes

/-- What the host does in a move. -/
def moveDoings (w : Workspace) : Move → List Happening
  | .create _ _ text => [.created text]
  | .alter id alteration => w.doingsOfAlter id alteration
  | .revise id alteration => w.doingsOfRevise id alteration
  | .openDocument id => w.doingsOfOpen id
  | .close uri => w.doingsOfClose uri
  | .report uri version changes => w.doingsOfReport uri version changes
  | _ => []

/-- What the host does in a sequence of moves. -/
def playDoings (parser : Parser) (w : Workspace) : List Move → List Happening
  | [] => []
  | move :: rest => w.moveDoings move ++ (w.move parser move).playDoings parser rest

/-- Some sequence of moves leads from one workspace to another, in which the host does the given
    things. -/
def Plays (parser : Parser) (w : Workspace) (doings : List Happening) (later : Workspace) : Prop :=
  ∃ moves, w.play parser moves = later ∧ w.playDoings parser moves = doings

variable {parser : Parser}

/-- Moves in sequence are played one part after the other. -/
theorem play_append (parser : Parser) (w : Workspace) (before after : List Move) :
    w.play parser (before ++ after) = (w.play parser before).play parser after :=
  List.foldl_append

/-- What the host does in two parts, it does in the one and then in the other. -/
theorem playDoings_append (parser : Parser) (w : Workspace) (before after : List Move) :
    w.playDoings parser (before ++ after) =
      w.playDoings parser before ++ (w.play parser before).playDoings parser after := by
  -- On the first part, with the second one fixed.
  induction before generalizing w with
  | nil => rfl
  | cons move rest ih =>
    show w.moveDoings move ++ (w.move parser move).playDoings parser (rest ++ after) = _
    rw [ih, ← List.append_assoc]
    rfl

/-- Nothing has to be played. -/
theorem Plays.refl (parser : Parser) (w : Workspace) : Plays parser w [] w := ⟨[], rfl, rfl⟩

/-- Two plays in sequence are a play. -/
theorem Plays.trans {a b c : Workspace} {before after : List Happening}
    (hab : Plays parser a before b) (hbc : Plays parser b after c) :
    Plays parser a (before ++ after) c := by
  obtain ⟨first, rfl, rfl⟩ := hab
  obtain ⟨second, rfl, rfl⟩ := hbc
  exact ⟨first ++ second, play_append parser a first second, playDoings_append parser a first second⟩

/-- A single move. -/
theorem move_plays (parser : Parser) (w : Workspace) (move : Move) :
    Plays parser w (w.moveDoings move) (w.move parser move) :=
  ⟨[move], rfl, List.append_nil _⟩

/-- A move in which the host does nothing. -/
theorem Plays.of_move {w later : Workspace} (move : Move) (h : w.move parser move = later)
    (engine : w.moveDoings move = []) : Plays parser w [] later := by
  rw [← h, ← engine]
  exact move_plays parser w move

/-! ## Moves are runs -/

/-- A revision that is not reported is a run, in which the document is revised. -/
theorem alter_reaches (w : Workspace) (parser : Parser) (id : DocumentId)
    (alteration : Alteration) :
    Reaches parser w (w.doingsOfAlter id alteration) (w.alter id alteration) := by
  unfold alter doingsOfAlter
  cases haltered : (w.documents[id]?).bind (·.alter? alteration) with
  | none => exact .refl parser w
  | some altered =>
    obtain ⟨doc, found, hdoc⟩ := Option.bind_eq_some_iff.1 haltered
    exact Step.noted (.revise found (Document.revision_of_alter? hdoc)
      ⟨rfl, fun _ => rfl, .refl _⟩) rfl

/-- A revision that is reported is a run, in which the document is revised and the changes are
    reported. -/
theorem revise_reaches (w : Workspace) (parser : Parser) (id : DocumentId)
    (alteration : Alteration) :
    Reaches parser w (w.doingsOfRevise id alteration) (w.revise id alteration) := by
  have halter := w.alter_reaches parser id alteration
  unfold alter doingsOfAlter at halter
  unfold revise doingsOfRevise
  cases haltered : (w.documents[id]?).bind (·.alter? alteration) with
  | none => exact .refl parser w
  | some altered =>
    -- It begins like a revision that is not reported.
    rw [haltered] at halter
    exact halter.trans (report_reaches _ parser _ _ _)

/-- A caller that has waited takes a look at the tree at most. -/
theorem lookAfter_reaches (w : Workspace) (parser : Parser)
    (outcome : Except GrammarError Grammar) (caller : Option String) :
    Reaches parser w [] (w.lookAfter parser outcome caller) := by
  unfold lookAfter
  split
  · exact .refl parser w
  · split
    · exact w.treeNow_reaches parser _
    · exact .refl parser w

/-- The end of an attempt is a run, in which the caller and all others that have waited go on. -/
theorem finish_reaches (w : Workspace) (parser : Parser) (language : String)
    (caller : Option String) : Reaches parser w [] (w.finish parser language caller) := by
  have hcomplete : Reaches parser w [] (w.completeLoad language).1 := w.completeLoad_reaches language
  unfold finish
  split
  · next later outcome h =>
    rw [h] at hcomplete
    exact hcomplete.trans ((later.lookAfter_reaches parser outcome caller).trans
      (resumeWaiters_reaches _ language outcome))
  -- No attempt was under way, so whoever has waited is told so.
  · next later h =>
    rw [h] at hcomplete
    exact hcomplete.trans (resumeWaiters_reaches later language _)

/-- What is done aside is a run in which documents and entries are left alone. -/
theorem doAside_reaches (w : Workspace) (parser : Parser) (aside : Aside) :
    Reaches parser w [] (w.doAside aside) := by
  cases aside with
  | time operation => exact w.time_reaches operation
  | resetMetrics => exact quiet_of_leads rfl rfl (w.services.measure_leads Metrics.reset)
  | subscribe => exact quiet_of_leads rfl rfl (.of_eq rfl rfl)
  | unsubscribe number => exact quiet_of_leads rfl rfl (.of_eq rfl rfl)
  | receive number => exact quiet_of_leads rfl rfl (.of_eq rfl rfl)
  | putLibrary path file => exact quiet_of_leads rfl rfl (.of_eq rfl rfl)
  | setClock time => exact w.setClock_reaches time
  | setPace pace => exact w.setPace_reaches pace

/-- Every move is a run in which the host does what it does in the move. -/
theorem move_reaches (w : Workspace) (parser : Parser) (move : Move) :
    Reaches parser w (w.moveDoings move) (w.move parser move) := by
  cases move with
  | create uri language text => exact w.createDocument_reaches parser uri language text
  | alter id alteration => exact w.alter_reaches parser id alteration
  | revise id alteration => exact w.revise_reaches parser id alteration
  | openDocument id => exact w.openDocument_reaches parser id
  | close uri => exact w.close_reaches parser uri
  | report uri version changes => exact w.report_reaches parser uri version changes
  | treeNow uri => exact w.treeNow_reaches parser uri
  | reparseNow uri => exact w.reparseNow_reaches parser uri
  | verify uri => exact w.verify_reaches parser uri
  | activate uri => exact w.activate_reaches parser uri
  | scheduleReparse uri => exact w.scheduleReparse_reaches parser uri
  | loadBlocking language =>
    exact w.setRegistry_reaches
      (w.services.registry.loadBlocking_leads w.services.libraries language)
  | request language => exact w.requestGrammar_reaches language
  | wake uri generation => exact w.timerFired_reaches parser uri generation
  | backgroundLoad uri language => exact w.backgroundLoad_reaches uri language
  -- Only a task that is still in the queue runs.
  | run task =>
    show Reaches parser w [] (if task ∈ w.services.tasks then w.runTask parser task else w)
    split
    · exact w.runTask_reaches parser task
    · exact .refl parser w
  | finish language caller => exact w.finish_reaches parser language caller
  | aside aside => exact w.doAside_reaches parser aside

/-- Every sequence of moves is a run in which the host does what it does in the moves. -/
theorem play_reaches (parser : Parser) (w : Workspace) (moves : List Move) :
    Reaches parser w (w.playDoings parser moves) (w.play parser moves) := by
  -- On the moves, each starting from where the one before has led.
  induction moves generalizing w with
  | nil => exact .refl parser w
  | cons move rest ih => exact (w.move_reaches parser move).trans (ih _)

/-! ## Calls of the host -/

/-- What the engine does by itself, time and again, are moves. -/
theorem foldl_plays {α : Type} {f : Workspace → α → Workspace}
    (step : ∀ w a, Plays parser w [] (f w a)) (as : List α) (w : Workspace) :
    Plays parser w [] (as.foldl f w) := by
  -- On the list, each time being made of moves.
  induction as generalizing w with
  | nil => exact .refl parser w
  | cons a rest ih => exact (step w a).trans (ih (f w a))

/-- Edits that are not reported are one move, unless they are refused. -/
theorem editDocument_plays (w : Workspace) (parser : Parser) (id : DocumentId)
    (edits : List Edit) :
    Plays parser w (w.doingsOfEdit id edits) (w.editDocument id edits).1 := by
  have halter : Plays parser w (w.doingsOfAlter id (.edits edits)) (w.alter id (.edits edits)) :=
    move_plays parser w (.alter id (.edits edits))
  unfold doingsOfAlter alter Document.alter? at halter
  unfold doingsOfEdit editDocument
  cases found : w.documents[id]? with
  | none => exact .refl parser w
  | some doc =>
    rw [found] at halter
    dsimp only [Option.bind_some] at halter ⊢
    cases hedits : doc.applyEdits edits with
    | error error => exact .refl parser w
    -- Edits that are accepted are what the move does.
    | ok edited => rw [hedits] at halter; exact halter

/-- So is a whole replacement. -/
theorem setText_plays (w : Workspace) (parser : Parser) (id : DocumentId) (text : Text) :
    Plays parser w (w.doingsOfSetText id text) (w.setText id text).1 := by
  have halter : Plays parser w (w.doingsOfAlter id (.text text)) (w.alter id (.text text)) :=
    move_plays parser w (.alter id (.text text))
  unfold doingsOfAlter alter at halter
  unfold doingsOfSetText setText
  cases found : w.documents[id]? with
  | none => exact .refl parser w
  | some doc => rw [found] at halter; exact halter

/-- Taking the time is a move aside. -/
theorem time_plays (w : Workspace) (operation : String) : Plays parser w [] (w.time operation) :=
  .of_move (.aside (.time operation)) rfl rfl

/-- A look at the tree is a move. -/
theorem treeNow_plays (w : Workspace) (parser : Parser) (uri : String) :
    Plays parser w [] (w.treeNow parser uri).1 :=
  .of_move (.treeNow uri) rfl rfl

/-- A query for a node is a look and, if there is a tree, the time. -/
theorem containingNode_plays (w : Workspace) (parser : Parser) (uri : String) (span : Span) :
    Plays parser w [] (w.containingNode parser uri span).1 := by
  have htree := w.treeNow_plays parser uri
  unfold containingNode
  split
  · next h => rw [h] at htree; exact htree
  · next later _ h => rw [h] at htree; exact htree.trans (later.time_plays _)

/-- Looking for a grammar does to the registry what loading it on the spot does. -/
theorem grammarNow_eq_loadBlocking (w : Workspace) (language : String) :
    { w with services := (w.services.grammarNow language).1 } = (w.loadBlocking language).1 := by
  unfold loadBlocking Services.grammarNow Registry.loaded? Registry.loadBlocking
    Registry.isSupported
  -- The two differ in what they answer while the grammar is being loaded, and not in what they do.
  cases w.services.registry.slots.find? language with
  | some slot =>
    cases slot with
    | loaded grammar => rfl
    | loading =>
      cases hconfig : w.services.registry.config? language with
      | none => rfl
      | some config => rfl
  | none =>
    cases hconfig : w.services.registry.config? language with
    | none => rfl
    | some config => rfl

/-- A query for a list is a look, a grammar that is fetched once more, and the time. -/
theorem bracketingChildren_plays (w : Workspace) (parser : Parser) (uri : String) (span : Span) :
    Plays parser w [] (w.bracketingChildren parser uri span).1 := by
  have htree := w.treeNow_plays parser uri
  unfold bracketingChildren
  split
  · next h => rw [h] at htree; exact htree
  · next later tree h =>
    rw [h] at htree
    have hgrammar : Plays parser later []
        { later with services := (later.services.grammarNow tree.language).1 } :=
      .of_move (.loadBlocking tree.language) (later.grammarNow_eq_loadBlocking tree.language).symm
        rfl
    refine htree.trans (hgrammar.trans ?_)
    dsimp only
    split
    · exact .refl parser _
    · exact time_plays _ _

/-- An exchange takes the time, revises the document and takes a look. -/
theorem swapSiblings_plays (w : Workspace) (parser : Parser) (id : DocumentId) (a b : Span) :
    Plays parser w (w.doingsOfSwap id a b) (w.swapSiblings parser id a b).1 := by
  unfold swapSiblings doingsOfSwap
  cases found : w.documents[id]? with
  | none => exact .refl parser w
  | some doc =>
    have htime : Plays parser w [] (w.time "swap_siblings") := w.time_plays "swap_siblings"
    have hrevise : Plays parser (w.time "swap_siblings")
        ((w.time "swap_siblings").doingsOfRevise id (.exchange a b))
        ((w.time "swap_siblings").revise id (.exchange a b)) :=
      move_plays parser (w.time "swap_siblings") (.revise id (.exchange a b))
    unfold doingsOfRevise revise Document.alter? at hrevise
    have hfound : (w.time "swap_siblings").documents[id]? = some doc := found
    rw [hfound] at hrevise
    dsimp only [Option.bind_some] at hrevise ⊢
    -- If the exchange is refused, only the time has been taken.
    cases hswap : doc.swap a b with
    | error error => exact htime
    | ok exchanged =>
      obtain ⟨next, swap⟩ := exchanged
      rw [hswap] at hrevise
      dsimp only [Except.toOption, Option.map_some] at hrevise ⊢
      have hreport := htime.trans hrevise
      -- The report is followed by a look at the tree, unless nobody hears it.
      split
      · next h => rw [h] at hreport; exact hreport
      · next h => rw [h] at hreport; exact hreport
      · next reported _ h =>
        rw [h] at hreport
        have htree := reported.treeNow_plays parser next.uri
        have hboth := hreport.trans htree
        rw [List.append_nil] at hboth
        split
        · next h => rw [h] at hboth; exact hboth
        · next h => rw [h] at hboth; exact hboth

/-- An exchange of neighbours looks for them in the tree first. -/
theorem swapWithSibling_plays (w : Workspace) (parser : Parser) (id : DocumentId) (span : Span)
    (direction : Direction) :
    Plays parser w (w.doingsOfSwapWithSibling parser id span direction)
      (w.swapWithSibling parser id span direction).1 := by
  unfold swapWithSibling doingsOfSwapWithSibling
  cases w.documents[id]? with
  | none => exact .refl parser w
  | some doc =>
    have htree := w.treeNow_plays parser doc.uri
    dsimp only
    generalize w.treeNow parser doc.uri = access at htree ⊢
    obtain ⟨later, error | tree⟩ := access
    · exact htree
    · dsimp only
      -- Only when a node and its neighbour have been found, something is exchanged.
      cases tree.containing span with
      | error error => exact htree
      | ok node =>
        dsimp only
        split
        · exact htree
        · exact htree.trans (later.swapSiblings_plays parser id _ _)

/-! ## The passing of time -/

/-- The end of an attempt without a caller is a move, if there is an attempt. -/
theorem finishLoad_plays (w : Workspace) (language : String) :
    Plays parser w [] (w.finishLoad language) := by
  have hfinish : Plays parser w [] (w.finish parser language none) :=
    .of_move (.finish language none) rfl rfl
  unfold finish at hfinish
  unfold finishLoad
  cases hcomplete : w.completeLoad language with
  | mk later outcome =>
    cases outcome with
    | some outcome => rw [hcomplete] at hfinish; exact hfinish
    | none =>
      -- Without an attempt under way nothing happens.
      obtain rfl : later = w := by
        unfold completeLoad Registry.complete at hcomplete
        split at hcomplete
        next registry attempt h =>
          split at h
          · obtain ⟨rfl, rfl⟩ := Prod.mk.inj h
            exact (Prod.mk.inj hcomplete).1.symm
          · obtain ⟨rfl, rfl⟩ := Prod.mk.inj h
            exact nomatch (Prod.mk.inj hcomplete).2
      exact .refl parser later

/-- What a search comes up with was there at its start, or it has passed it. -/
private theorem mem_of_foldl_pick {α : Type} {better : Option α → α → Bool} {found : α}
    (as : List α) {best : Option α}
    (h : as.foldl (fun best a => if better best a then some a else best) best = some found) :
    best = some found ∨ found ∈ as := by
  -- On the list: each is taken or left, and then the search goes on.
  induction as generalizing best with
  | nil => exact .inl h
  | cons first rest ih =>
    rcases ih h with hbest | hmem
    · dsimp only at hbest
      split at hbest
      · obtain rfl := Option.some.inj hbest
        exact .inr List.mem_cons_self
      · exact .inl hbest
    · exact .inr (List.mem_cons_of_mem first hmem)

/-- A task that is due is one of those that wait. -/
theorem mem_of_dueTask? {w : Workspace} {task : Task} (h : w.dueTask? = some task) :
    task ∈ w.services.tasks := by
  rcases mem_of_foldl_pick w.services.tasks h with hnone | hmem
  · exact nomatch hnone
  · exact hmem

/-- Running what is due is one move for each task. -/
theorem drain_plays (parser : Parser) (steps : Nat) (w : Workspace) :
    Plays parser w [] (drain parser steps w) := by
  -- On the number of steps.
  induction steps generalizing w with
  | zero => exact .refl parser w
  | succ steps ih =>
    unfold drain
    split
    · exact .refl parser w
    -- The task that is picked is in the queue, so the move that runs it does so.
    · next task hdue =>
      have hrun : Plays parser w [] (w.runTask parser task) :=
        .of_move (.run task) (if_pos (mem_of_dueTask? hdue)) rfl
      exact hrun.trans (ih _)

/-- Running all that is due is made of moves. -/
theorem runDue_plays (w : Workspace) (parser : Parser) : Plays parser w [] (w.runDue parser) :=
  drain_plays parser w.budget w

/-- Settling runs what is due and ends attempts, round by round. -/
theorem settleFor_plays (parser : Parser) (rounds : Nat) (w : Workspace) :
    Plays parser w [] (settleFor parser rounds w) := by
  -- On the number of rounds.
  induction rounds generalizing w with
  | zero => exact .refl parser w
  | succ rounds ih =>
    have hdue := w.runDue_plays parser
    unfold settleFor
    dsimp only
    split
    · exact hdue
    · exact hdue.trans ((foldl_plays finishLoad_plays _ _).trans (ih _))

/-- Settling is made of moves. -/
theorem settle_plays (w : Workspace) (parser : Parser) : Plays parser w [] (w.settle parser) :=
  settleFor_plays parser _ w

/-- The clock is set aside. -/
theorem setClock_plays (w : Workspace) (time : Nat) : Plays parser w [] (w.setClock time) :=
  .of_move (.aside (.setClock time)) rfl rfl

/-- Time passes by moves: the engine settles, the clock is set, and so on. -/
theorem advanceTo_plays (parser : Parser) (target steps : Nat) (w : Workspace) :
    Plays parser w [] (advanceTo parser target steps w) := by
  -- On the number of stops on the way.
  induction steps generalizing w with
  | zero => exact w.setClock_plays target
  | succ steps ih =>
    have hsettle := w.settle_plays parser
    unfold advanceTo
    dsimp only
    split
    · exact hsettle.trans (setClock_plays _ target)
    · split
      · exact hsettle.trans ((setClock_plays _ _).trans (ih _))
      · exact hsettle.trans (setClock_plays _ target)

/-! ## Waiting for grammars -/

/-- Asking for a grammar is a move. -/
theorem requestGrammar_plays (w : Workspace) (language : String) :
    Plays parser w [] (w.requestGrammar language).1 :=
  .of_move (.request language) rfl rfl

/-- A wait for a grammar, what the caller does after it, and what else goes on then. -/
theorem awaited_plays (w : Workspace) (parser : Parser) (language : String)
    (caller : Option String) :
    Plays parser w []
      (((w.awaitGrammar parser language).1.lookAfter parser (w.awaitGrammar parser language).2.1
          caller).afterWait parser language (w.awaitGrammar parser language).2.1
        (w.awaitGrammar parser language).2.2) := by
  have hlook (w : Workspace) (outcome : Except GrammarError Grammar) :
      Plays parser w [] (w.lookAfter parser outcome caller) := by
    unfold lookAfter
    split
    · exact .refl parser w
    · split
      · exact w.treeNow_plays parser _
      · exact .refl parser w
  have hrequest : Plays parser w [] (w.requestGrammar language).1 := w.requestGrammar_plays language
  unfold awaitGrammar
  split
  · next later grammar h => rw [h] at hrequest; exact hrequest.trans (hlook later (.ok grammar))
  · next later error h => rw [h] at hrequest; exact hrequest.trans (hlook later (.error error))
  · next later h =>
    rw [h] at hrequest
    refine hrequest.trans ((later.runDue_plays parser).trans ?_)
    -- What was due has been run; from here on it does not matter how.
    generalize later.runDue parser = w
    have hfinish : Plays parser w [] (w.finish parser language caller) :=
      .of_move (.finish language caller) rfl rfl
    unfold finish at hfinish
    unfold afterWait
    cases hcomplete : w.completeLoad language with
    | mk ended outcome =>
      rw [hcomplete] at hfinish
      cases outcome with
      | some outcome => exact hfinish.trans (settle_plays _ parser)
      | none =>
        -- There is nothing to look at for a caller that has waited in vain.
        have hnone : ended.lookAfter parser (.error (.pending language)) caller = ended := by
          cases caller <;> rfl
        dsimp only
        rw [hnone]
        exact hfinish.trans (settle_plays _ parser)

/-- A host that loads a grammar waits for it, and no caller looks at a tree then. -/
theorem load_plays (w : Workspace) (parser : Parser) (language : String) :
    Plays parser w [] (w.load parser language).1 := by
  unfold load
  split
  · exact .refl parser w
  · exact w.awaited_plays parser language none

/-- A look at a tree that had to wait is the caller's part in the end of the attempt. -/
theorem treeAfterLoad_plays (w : Workspace) (parser : Parser) (uri language : String) :
    Plays parser w [] (w.treeAfterLoad parser uri language).1 := by
  have hawaited := w.awaited_plays parser language (some uri)
  unfold treeAfterLoad
  unfold lookAfter at hawaited
  dsimp only at hawaited ⊢
  split
  · next error h => rw [h] at hawaited ⊢; exact hawaited
  · next grammar h => rw [h] at hawaited ⊢; exact hawaited

/-- A look at a tree is taken at once or after a wait. -/
theorem tree_plays (w : Workspace) (parser : Parser) (uri : String) :
    Plays parser w [] (w.tree parser uri).1 := by
  unfold tree
  split
  · exact .refl parser w
  · split
    · exact .refl parser w
    · dsimp only
      split
      · exact w.treeAfterLoad_plays parser uri _
      · exact w.treeNow_plays parser uri

/-! ## All events -/

/-- Every action is made of moves, in which the host does what it does in the action. -/
theorem act_plays (w : Workspace) (parser : Parser) (action : Action) :
    Plays parser w (w.doings parser action) (w.act parser action) := by
  cases action with
  | create uri language text => exact move_plays parser w (.create uri language text)
  | edit id edits => exact w.editDocument_plays parser id edits
  | setText id text => exact w.setText_plays parser id text
  | openDocument id => exact move_plays parser w (.openDocument id)
  | close uri => exact move_plays parser w (.close uri)
  | report uri version changes => exact move_plays parser w (.report uri version changes)
  | treeNow uri => exact w.treeNow_plays parser uri
  | tree uri => exact w.tree_plays parser uri
  | reparseNow uri => exact move_plays parser w (.reparseNow uri)
  | verify uri => exact move_plays parser w (.verify uri)
  | containingNode uri span => exact w.containingNode_plays parser uri span
  | bracketingChildren uri span => exact w.bracketingChildren_plays parser uri span
  | swapSiblings id a b => exact w.swapSiblings_plays parser id a b
  | swapWithSibling id span direction => exact w.swapWithSibling_plays parser id span direction
  | activate uri => exact move_plays parser w (.activate uri)
  | scheduleReparse uri => exact move_plays parser w (.scheduleReparse uri)
  | subscribe => exact move_plays parser w (.aside .subscribe)
  | unsubscribe number => exact move_plays parser w (.aside (.unsubscribe number))
  | receive number => exact move_plays parser w (.aside (.receive number))
  | resetMetrics => exact move_plays parser w (.aside .resetMetrics)
  | loadBlocking language => exact move_plays parser w (.loadBlocking language)
  -- A load that has begun already is not begun again.
  | beginLoad language =>
    show Plays parser w [] (w.beginLoad language).1
    unfold beginLoad
    split
    · exact .refl parser w
    · exact w.requestGrammar_plays language
  | load language => exact w.load_plays parser language
  | putLibrary path file => exact move_plays parser w (.aside (.putLibrary path file))
  | advance ms => exact advanceTo_plays parser _ _ w

/-- Every sequence of events is a sequence of moves, in which the host does the same. -/
theorem undergo_plays (parser : Parser) (w : Workspace) (events : List Event) :
    Plays parser w (w.doingsAlong parser events) (w.undergo parser events) := by
  -- On the events; each is a move or made of moves.
  induction events generalizing w with
  | nil => exact .refl parser w
  | cons event rest ih =>
    cases event with
    | action action => exact (w.act_plays parser action).trans (ih _)
    | timer uri generation =>
      exact (move_plays parser w (.wake uri generation)).trans (ih _)
    | backgroundLoad uri language =>
      exact (move_plays parser w (.backgroundLoad uri language)).trans (ih _)
    | finishLoad language => exact (w.finishLoad_plays language).trans (ih _)
    | pace pace => exact (move_plays parser w (.aside (.setPace pace))).trans (ih _)

end Workspace

end LiveTree
