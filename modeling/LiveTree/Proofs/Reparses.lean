import LiveTree.Parser.Recorded
import LiveTree.Proofs.Tending

/-!
# No reparse is lost

In a workspace with a runtime, a host that reports whatever it alters in an open document at once need
not ask for trees: they come by themselves.  Whatever happens, in whatever order tasks may run, every
open document of a supported language is tended, unless something has failed under its uri since it was
last scheduled: a call of the host, or a background load.

## Key results

- `move_upholds`: every move of a diligent host loses nothing but what fails in it
- `no_reparse_lost`: after any sequence of such moves, every open document is current, or will be
  brought up to date, or has failed
-/

namespace LiveTree.Workspace

variable {parser : Parser} {w later : Workspace}

/-! ## Whoever waits is told -/

/-- Steady services change neither those that wait nor the attempts. -/
theorem Awaited.of_steady (h : w.Awaited) (steady : w.services.Steady later.services) :
    later.Awaited := by
  intro waiter hwaiter
  rw [steady.waiters] at hwaiter
  rw [steady.attempts]
  exact h waiter hwaiter

/-- An operation on an entry that leaves the services steady does so in a workspace. -/
theorem onEntry_steady {α : Type} {uri : String}
    {operation : Services → Document → Entry → Services × Entry × Except EngineError α}
    (steady : ∀ entry doc, w.services.Steady (operation w.services doc entry).1) :
    w.services.Steady (w.onEntry uri operation).1.services := by
  unfold onEntry
  split
  · exact .refl w.services
  · next entry doc _ => exact steady entry doc

/-- Scheduling what is open leaves the services steady. -/
theorem scheduleIfOpen_steady (w : Workspace) (uri : String) (delay : Nat) :
    w.services.Steady (w.scheduleIfOpen uri delay).services := by
  unfold scheduleIfOpen
  split
  · exact .refl w.services
  · next entry _ => exact (w.services.schedule_tends uri entry delay).toSteady

/-- A timer that fires leaves the services steady, in whatever generation. -/
theorem timerFired_steady (w : Workspace) (parser : Parser) (uri : String) (generation : Nat) :
    w.services.Steady (w.timerFired parser uri generation).services := by
  unfold timerFired
  split
  · exact .refl w.services
  · next entry doc _ =>
    rcases w.services.fire_tends parser doc entry generation with ⟨-, heq⟩ | ⟨-, htends⟩
    · rw [heq]; exact .refl w.services
    · exact htends.toSteady

/-- Opening a document leaves the services steady. -/
theorem openDocument_steady (w : Workspace) (id : DocumentId) :
    w.services.Steady (w.openDocument id).services := by
  unfold openDocument
  split
  · exact .refl w.services
  · next doc _ =>
    refine .trans ?_ (Services.schedule_tends _ doc.uri { document := id } 0).toSteady
    split
    · next previous _ => exact (w.services.cancelTimer_tends doc.uri previous).toSteady
    · exact .refl w.services

/-- A request starts the attempt that is waited for. -/
theorem Awaited.request (h : w.Awaited) (language : String) :
    (w.requestGrammar language).1.Awaited := by
  intro waiter hwaiter
  obtain ⟨attempt, hattempt, hid⟩ := h waiter hwaiter
  exact ⟨attempt, Registry.mem_attempts_request hattempt _ language, hid⟩

/-- A background load lets its document wait only for an attempt that is under way. -/
theorem Awaited.backgroundLoad (h : w.Awaited) (loading : w.services.registry.Attended)
    (uri language : String) : (w.backgroundLoad uri language).Awaited := by
  have hrequest := h.request language
  have hwaiting : (w.services.registry.request w.services.libraries language).2 = .waiting → _ :=
    loading.waiting
  unfold Workspace.backgroundLoad
  cases hreply : w.requestGrammar language with
  | mk later reply =>
    rw [hreply] at hrequest
    have hregistry : (w.services.registry.request w.services.libraries language).1 =
        later.services.registry := congrArg (fun pair => pair.1.services.registry) hreply
    cases reply with
    | ready grammar => exact hrequest.of_steady (later.scheduleIfOpen_steady uri 0)
    | failed error => exact hrequest
    -- The attempt was started by the request, or was under way already.
    | waiting =>
      intro waiter hwaiter
      rcases List.mem_append.1 hwaiter with hwaiter | hwaiter
      · exact hrequest waiter hwaiter
      · obtain rfl := List.mem_singleton.1 hwaiter
        rw [hregistry] at hwaiting
        exact hwaiting (congrArg Prod.snd hreply)

/-- A task that runs lets nobody wait in vain. -/
theorem Awaited.runTask (h : w.Awaited) (loading : w.services.registry.Attended) (parser : Parser)
    (task : Task) : (w.runTask parser task).Awaited := by
  have habort : Awaited { w with services := w.services.abort task.id } := h
  unfold Workspace.runTask
  dsimp only
  split
  · next uri generation _ => exact habort.of_steady (timerFired_steady _ parser uri generation)
  · next uri language _ => exact habort.backgroundLoad loading uri language

/-- All that have waited for a language are dismissed, and the attempts go on. -/
theorem resumeWaiters_waiters (w : Workspace) (language : String)
    (outcome : Except GrammarError Grammar) :
    (w.resumeWaiters language outcome).services.waiters =
        w.services.waiters.filter (·.language ≠ language) ∧
      (w.resumeWaiters language outcome).services.registry.attempts =
        w.services.registry.attempts := by
  -- Scheduling one after the other leaves the services steady, as each of them does.
  have hfold (resumed : List Waiter) (w : Workspace) : w.services.Steady
      (resumed.foldl (fun w waiter => w.scheduleIfOpen waiter.uri 0) w).services := by
    induction resumed generalizing w with
    | nil => exact .refl w.services
    | cons first rest ih => exact (w.scheduleIfOpen_steady first.uri 0).trans (ih _)
  unfold resumeWaiters
  dsimp only
  split
  · exact ⟨(hfold _ _).waiters, (hfold _ _).attempts⟩
  · exact ⟨rfl, rfl⟩

/-- The end of an attempt leaves those waiting that wait for another one. -/
theorem Awaited.finish (h : w.Awaited) (parser : Parser) (language : String)
    (caller : Option String) : (w.finish parser language caller).Awaited := by
  -- Up to the dismissal, nothing has happened to those that wait but the end of the attempt.
  obtain ⟨ended, outcome, hfinish, hwaiters, hattempts⟩ : ∃ ended outcome,
      w.finish parser language caller = resumeWaiters ended language outcome ∧
        ended.services.waiters = w.services.waiters ∧
        ended.services.registry.attempts =
          (w.services.registry.complete w.services.libraries language).1.attempts := by
    unfold Workspace.finish
    split
    · next ended outcome hended =>
      have hwaiters : ended.services.waiters = w.services.waiters :=
        congrArg (fun pair => pair.1.services.waiters) hended.symm
      have hattempts : ended.services.registry.attempts =
          (w.services.registry.complete w.services.libraries language).1.attempts :=
        congrArg (fun pair => pair.1.services.registry.attempts) hended.symm
      have hlook : ended.services.Steady (ended.lookAfter parser outcome caller).services := by
        unfold lookAfter
        split
        · exact .refl _
        · split
          · exact onEntry_steady fun entry doc =>
              (ended.services.treeNow_tends parser doc entry doc.uri).toSteady
          · exact .refl _
      exact ⟨_, outcome, rfl, hlook.waiters.trans hwaiters, hlook.attempts.trans hattempts⟩
    · next ended hended =>
      exact ⟨ended, _, rfl, congrArg (fun pair => pair.1.services.waiters) hended.symm,
        congrArg (fun pair => pair.1.services.registry.attempts) hended.symm⟩
  obtain ⟨hleft, hsame⟩ := ended.resumeWaiters_waiters language outcome
  intro waiter hwaiter
  -- Whoever waits now has waited before, and for another language.
  rw [hfinish, hleft, hwaiters] at hwaiter
  obtain ⟨hbefore, hother⟩ := List.mem_filter.1 hwaiter
  obtain ⟨attempt, hattempt, hid⟩ := h waiter hbefore
  refine ⟨attempt, ?_, hid⟩
  rw [hfinish, hsame, hattempts]
  exact Registry.mem_attempts_complete hattempt (by rw [hid]; exact of_decide_eq_true hother)

/-- Every move leaves all that wait with an attempt to wait for. -/
theorem Awaited.move (h : w.Awaited) (attended : w.Attended) (parser : Parser) (move : Move) :
    (w.move parser move).Awaited := by
  -- One case for each move; most of them leave the services steady.
  cases move with
  | create uri language text => exact h
  | alter id alteration =>
    show (w.alter id alteration).Awaited
    unfold alter
    split <;> exact h
  | revise id alteration =>
    show (w.revise id alteration).Awaited
    unfold revise
    split
    · exact h
    · next next changes _ =>
      exact h.of_steady (onEntry_steady (w := { w with documents := w.documents.set id next })
        fun entry doc => (w.services.report_tends doc.uri entry next.version changes).toSteady)
  | openDocument id => exact h.of_steady (w.openDocument_steady id)
  | close uri =>
    show (w.close uri).1.Awaited
    unfold close
    split
    · exact h
    · next entry _ => exact h.of_steady (w.services.cancelTimer_tends uri entry).toSteady
  | report uri version changes =>
    exact h.of_steady (onEntry_steady fun entry doc =>
      (w.services.report_tends doc.uri entry version changes).toSteady)
  | treeNow uri =>
    exact h.of_steady (onEntry_steady fun entry doc =>
      (w.services.treeNow_tends parser doc entry uri).toSteady)
  | reparseNow uri =>
    exact h.of_steady (onEntry_steady fun entry doc =>
      ((w.services.cancelTimer_tends doc.uri entry).trans
        (Services.reparse_tends _ parser doc _)).toSteady)
  | verify uri =>
    exact h.of_steady (onEntry_steady fun entry doc =>
      (w.services.verify_tends parser doc entry uri).toSteady)
  | activate uri =>
    refine h.of_steady (onEntry_steady fun entry doc => ?_)
    split
    · exact .refl w.services
    · exact (w.services.schedule_tends doc.uri entry 0).toSteady
  | scheduleReparse uri =>
    exact h.of_steady (onEntry_steady fun entry doc =>
      (w.services.schedule_tends doc.uri entry w.services.config.debounceMs).toSteady)
  | loadBlocking language =>
    obtain ⟨hlanguages, hattempts, hloading⟩ :=
      w.services.registry.loadBlocking_steady w.services.libraries language
    have hsteady : w.services.Steady (w.loadBlocking language).1.services :=
      ⟨rfl, rfl, rfl, hlanguages, hattempts, hloading⟩
    exact h.of_steady hsteady
  | request language => exact h.request language
  | wake uri generation => exact h.of_steady (w.timerFired_steady parser uri generation)
  | backgroundLoad uri language => exact h.backgroundLoad attended.loading uri language
  | run task =>
    show (if task ∈ w.services.tasks then w.runTask parser task else w).Awaited
    split
    · exact h.runTask attended.loading parser task
    · exact h
  | finish language caller => exact h.finish parser language caller
  | aside aside => exact h.of_steady (w.doAside_services aside).2.1

/-! ## What a move may lose -/

/-- A host is diligent in a move if it reports what it alters in an open document, in changes that can
    be told in words. -/
def Diligent (w : Workspace) : Move → Prop
  | .alter id _ => ∀ uri entry, w.entries.find? uri = some entry → entry.document ≠ id
  | .revise id alteration => ∀ doc next changes, w.documents[id]? = some doc →
      doc.alter? alteration = some (next, changes) → doc.text.SmallAlong changes
  | _ => True

/-- What fails in a move: a call of the host for the tree of a uri, the background load that was started
    for it, or the attempt that this load waits for. -/
def Fails (parser : Parser) (w : Workspace) : Move → String → Prop
  | .treeNow uri => Failed uri (w.treeNow parser uri).2
  | .reparseNow uri => Failed uri (w.reparseNow parser uri).2
  | .verify uri => Failed uri (w.verify parser uri).2
  | .run task => fun uri => task ∈ w.services.tasks ∧ LoadFailed w task uri
  | .finish language caller => AttemptFailed w parser language caller
  | _ => fun _ => False

/-- What all moves keep in a workspace with a runtime, whatever its settings: the order of entries,
    timers and attempts. -/
structure Kempt (w : Workspace) : Prop where
  runtime : w.services.runtime = true
  sound : w.services.registry.Sound
  coherent : w.AllCoherent
  attended : w.Attended
  awaited : w.Awaited

/-- What all moves of a diligent host keep: the settings that make edits schedule a reparse, and the
    order of entries, timers and attempts. -/
structure Minded (w : Workspace) : Prop where
  runtime : w.services.runtime = true
  onEdit : w.services.config.scheduleOnEdit = true
  sound : w.services.registry.Sound
  coherent : w.AllCoherent
  attended : w.Attended
  awaited : w.Awaited

/-- Who minds the host's reports is in order. -/
theorem Minded.kempt (minded : w.Minded) : w.Kempt :=
  ⟨minded.runtime, minded.sound, minded.coherent, minded.attended, minded.awaited⟩

/-- A new workspace with a runtime is in order, as there is nothing in it. -/
theorem create_kempt (config : Config) (dataHome : String) (libraries : Libraries) :
    (create config dataHome libraries true).Kempt where
  runtime := rfl
  sound := Registry.ofConfig_sound config dataHome
  coherent _ _ found := nomatch found
  attended :=
    { queued := ⟨fun _ h => (nomatch h), fun _ h => (nomatch h)⟩
      armed := fun found => nomatch found
      loading := Registry.ofConfig_attended config dataHome }
  awaited _ h := nomatch h

/-- If edits schedule a reparse, a new workspace minds them. -/
theorem create_minded {config : Config} (onEdit : config.scheduleOnEdit = true) (dataHome : String)
    (libraries : Libraries) : (create config dataHome libraries true).Minded :=
  { create_kempt config dataHome libraries with onEdit := onEdit }

/-- The host tells of changes in a move. -/
def Notifies : Move → Prop
  | .revise _ _ => True
  | .report _ _ _ => True
  | _ => False

/-- Every move without a report loses nothing but what fails in it, if what it alters is not open. -/
theorem silent_upholds (kempt : w.Kempt) {move : Move} (diligent : w.Diligent move)
    (silent : ¬ Notifies move) (parser : Parser) :
    Upholds w (w.move parser move) (Fails parser w move) := by
  obtain ⟨runtime, -, coherent, attended, awaited⟩ := kempt
  -- One case for each move; those that alter an open document are shut out.
  cases move with
  | create uri language text => exact createDocument_upholds attended coherent uri language text _
  | alter id alteration => exact alter_upholds attended alteration diligent _
  | revise id alteration => exact absurd trivial silent
  | openDocument id => exact openDocument_upholds attended runtime id _
  | close uri => exact close_upholds attended uri _
  | report uri version changes => exact absurd trivial silent
  | treeNow uri => exact treeNow_upholds attended parser uri
  | reparseNow uri => exact reparseNow_upholds attended coherent runtime parser uri
  | verify uri => exact verify_upholds attended parser uri
  | activate uri => exact activate_upholds attended coherent runtime uri _
  | scheduleReparse uri => exact scheduleReparse_upholds attended coherent runtime uri _
  | loadBlocking language => exact loadBlocking_upholds attended language _
  | request language => exact requestGrammar_upholds attended language _
  | wake uri generation =>
    exact timerFired_upholds attended coherent runtime parser uri generation _
  | backgroundLoad uri language => exact backgroundLoad_upholds attended runtime uri language _
  | run task =>
    show Upholds w (if task ∈ w.services.tasks then w.runTask parser task else w) _
    split
    · next htask =>
      exact (runTask_upholds attended coherent runtime parser htask).weaken
        fun _ hfailed => ⟨htask, hfailed⟩
    · exact .refl attended _
  | finish language caller => exact finish_upholds attended awaited runtime parser language caller
  | aside aside => exact doAside_upholds attended aside _

/-- Every move of a diligent host loses nothing but what fails in it. -/
theorem move_upholds (minded : w.Minded) {move : Move} (diligent : w.Diligent move)
    (parser : Parser) : Upholds w (w.move parser move) (Fails parser w move) := by
  cases move with
  | revise id alteration =>
    exact revise_upholds minded.attended minded.coherent minded.runtime minded.onEdit diligent _
  | report uri version changes =>
    exact report_upholds minded.attended minded.coherent minded.runtime minded.onEdit uri version
      changes _
  | _ => exact silent_upholds minded.kempt diligent id parser

/-- Whatever the host does, timers and attempts stay in order. -/
theorem exists_move_upholds (kempt : w.Kempt) (parser : Parser) (move : Move) :
    ∃ lost, Upholds w (w.move parser move) lost := by
  -- Only moves that change a document may lose one that is open.
  cases move with
  | alter id alteration =>
    show ∃ lost, Upholds w (w.alter id alteration) lost
    unfold alter
    split
    · exact ⟨_, .refl kempt.attended fun _ => False⟩
    · exact ⟨_, upholds_documents kempt.attended _⟩
  | revise id alteration =>
    show ∃ lost, Upholds w (w.revise id alteration) lost
    unfold revise
    split
    · exact ⟨_, .refl kempt.attended fun _ => False⟩
    · next next changes haltered =>
      obtain ⟨doc, found, halter⟩ := Option.bind_eq_some_iff.1 haltered
      have hset := kempt.coherent.set found (Document.revision_of_alter? halter)
      have hreport := report_upholds_elsewhere (kempt.attended.documents _) hset next.uri
        next.version changes
      -- The revised document is lost, whatever becomes of its report.
      exact ⟨_, (upholds_documents kempt.attended _).trans hreport⟩
  | report uri version changes =>
    exact ⟨_, report_upholds_elsewhere kempt.attended kempt.coherent uri version changes⟩
  | _ =>
    refine ⟨_, silent_upholds kempt ?_ id parser⟩
    trivial

/-- A move keeps everything in order, whatever the host does. -/
theorem Kempt.move (kempt : w.Kempt) (parser : Parser) (move : Move) :
    (w.move parser move).Kempt := by
  obtain ⟨lost, hupholds⟩ := exists_move_upholds kempt parser move
  obtain ⟨trace, run, -⟩ := w.move_reaches parser move
  -- Every move is a run, and runs keep what concerns entries and grammars.
  obtain ⟨hsound, hcoherent⟩ :=
    run.maintains (Entry.Coherent.kept parser) kempt.sound kempt.coherent
  exact
    { runtime := hupholds.runtime.trans kempt.runtime
      sound := hsound
      coherent := hcoherent
      attended := hupholds.attended
      awaited := kempt.awaited.move kempt.attended parser move }

/-- A move does not change the settings either. -/
theorem Minded.move (minded : w.Minded) (parser : Parser) (move : Move) :
    (w.move parser move).Minded := by
  obtain ⟨lost, hupholds⟩ := exists_move_upholds minded.kempt parser move
  refine { minded.kempt.move parser move with onEdit := ?_ }
  rw [hupholds.config]
  exact minded.onEdit

/-! ## What a sequence of moves may lose -/

/-- A host is diligent along a sequence of moves. -/
def DiligentAlong (parser : Parser) (w : Workspace) : List Move → Prop
  | [] => True
  | move :: rest => w.Diligent move ∧ (w.move parser move).DiligentAlong parser rest

/-- Moves change neither the settings nor what languages there are, and keep everything in order. -/
theorem Kempt.play (kempt : w.Kempt) (parser : Parser) (moves : List Move) :
    (w.play parser moves).Kempt ∧
      (w.play parser moves).services.config = w.services.config ∧
      (w.play parser moves).services.registry.languages = w.services.registry.languages := by
  -- By induction on the moves, over all workspaces.
  induction moves generalizing w with
  | nil => exact ⟨kempt, rfl, rfl⟩
  | cons move rest ih =>
    obtain ⟨lost, hupholds⟩ := exists_move_upholds kempt parser move
    obtain ⟨hkempt, hconfig, hlanguages⟩ := ih (kempt.move parser move)
    exact ⟨hkempt, hconfig.trans hupholds.config, hlanguages.trans hupholds.languages⟩

/-- A sequence of moves keeps what each of them keeps. -/
theorem Minded.play (minded : w.Minded) (parser : Parser) (moves : List Move) :
    (w.play parser moves).Minded ∧
      (w.play parser moves).services.config = w.services.config ∧
      (w.play parser moves).services.registry.languages = w.services.registry.languages := by
  obtain ⟨hkempt, hconfig, hlanguages⟩ := minded.kempt.play parser moves
  refine ⟨{ hkempt with onEdit := ?_ }, hconfig, hlanguages⟩
  rw [hconfig]
  exact minded.onEdit

/-- In between, the entry of a uri was scheduled: its timer waits for a task that is new. -/
def Rearmed (w later : Workspace) (uri : String) : Prop :=
  ∃ entry id, later.entries.find? uri = some entry ∧ entry.timer.handle = some id ∧
    w.services.nextTask ≤ id

/-- The entry of a uri is scheduled in some of the moves. -/
def ScheduledAlong (parser : Parser) (w : Workspace) : List Move → String → Prop
  | [], _ => False
  | move :: rest, uri => Rearmed w (w.move parser move) uri ∨
      (w.move parser move).ScheduledAlong parser rest uri

/-- Something fails under a uri in some of the moves, and its entry is not scheduled any more from
    then on. -/
def FailsLast (parser : Parser) (w : Workspace) : List Move → String → Prop
  | [], _ => False
  | move :: rest, uri =>
      (Fails parser w move uri ∧ ¬ w.ScheduledAlong parser (move :: rest) uri) ∨
        (w.move parser move).FailsLast parser rest uri

/-- What has just been scheduled is tended. -/
theorem Attended.tended_of_rearmed (attended : later.Attended) {uri : String} {entry : Entry}
    {doc : Document} (found : later.open? uri = some (entry, doc)) (h : Rearmed w later uri) :
    later.services.Tended uri entry doc := by
  obtain ⟨same, id, hsame, hhandle, -⟩ := h
  obtain ⟨hentry, -⟩ := open?_eq_some.1 found
  obtain rfl := Option.some.inj (hsame.symm.trans hentry)
  exact .of_armed (attended.armed hentry) hhandle

/-- After any moves of a diligent host, an open document is tended, unless something has failed since it
    was scheduled, or it was not tended from the start and has not been scheduled. -/
theorem play_tended (minded : w.Minded) (parser : Parser) {moves : List Move}
    (diligent : w.DiligentAlong parser moves) {uri : String} {entry : Entry} {doc : Document}
    (found : (w.play parser moves).open? uri = some (entry, doc))
    (supported : w.services.registry.isSupported doc.language = true) :
    (w.play parser moves).services.Tended uri entry doc ∨ w.FailsLast parser moves uri ∨
      (¬ w.ScheduledAlong parser moves uri ∧
        ∃ earlier before, w.open? uri = some (earlier, before) ∧ before.language = doc.language ∧
          ¬ w.services.Tended uri earlier before) := by
  -- By induction on the moves, over all workspaces: the first one, and what the others make of it.
  induction moves generalizing w with
  | nil =>
    by_cases h : w.services.Tended uri entry doc
    · exact .inl h
    · exact .inr (.inr ⟨id, entry, doc, found, rfl, h⟩)
  | cons move rest ih =>
    obtain ⟨hmove, hrest⟩ := diligent
    have hupholds := move_upholds minded hmove parser
    have hsupported : (w.move parser move).services.registry.isSupported doc.language = true := by
      rw [isSupported_congr hupholds.languages]
      exact supported
    rcases ih (minded.move parser move) hrest found hsupported with
      htended | hfails | ⟨hunscheduled, middle, between, hmiddle, hsame, hnot⟩
    · exact .inl htended
    · exact .inr (.inl (.inr hfails))
    · -- The document is not tended after the first move, so it was not scheduled there either.
      have hnever : ¬ w.ScheduledAlong parser (move :: rest) uri := by
        rintro (hrearmed | hlater)
        · exact hnot (hupholds.attended.tended_of_rearmed hmiddle hrearmed)
        · exact hunscheduled hlater
      rw [← hsame] at supported
      -- Before the first move it was untended already, or something failed in that move.
      rcases hupholds.tended hmiddle supported with
        htended | hfails | ⟨earlier, before, hbefore, hlanguage, huntended⟩
      · exact absurd htended hnot
      · exact .inr (.inl (.inl ⟨hfails, hnever⟩))
      · exact .inr (.inr ⟨hnever, earlier, before, hbefore, hlanguage.trans hsame, huntended⟩)

/-- No reparse is lost.  In a workspace with a runtime whose edits schedule a reparse, and whose host
    reports what it alters in an open document at once, every open document of a supported language is
    current, or its timer is pending, or a background load that will schedule it is under way, or it
    has failed too often, or something has failed under its uri since it was last scheduled. -/
theorem no_reparse_lost (parser : Parser) {config : Config}
    (onEdit : config.scheduleOnEdit = true) (dataHome : String) (libraries : Libraries)
    {moves : List Move}
    (diligent : (create config dataHome libraries true).DiligentAlong parser moves)
    {w : Workspace} (reached : (create config dataHome libraries true).play parser moves = w)
    {uri : String} {entry : Entry} {doc : Document} (found : w.open? uri = some (entry, doc))
    (supported : w.services.registry.isSupported doc.language = true) :
    (entry.currentTree? doc.version).isSome = true ∨
      w.hasPendingReparse uri = true ∨
      w.services.LoadUnderWay uri ∨
      config.maxParseRetries < entry.consecutiveFailures ∨
      (create config dataHome libraries true).FailsLast parser moves uri := by
  -- A new workspace has no open document, so nothing was untended from the start.
  subst reached
  have hminded := create_minded onEdit dataHome libraries
  obtain ⟨-, hconfig, hlanguages⟩ := hminded.play parser moves
  rw [isSupported_congr hlanguages] at supported
  rcases play_tended hminded parser diligent found supported with
    (hcurrent | hpending | hload | hgaveUp) | hfails | ⟨-, earlier, before, hbefore, -⟩
  · exact .inl hcurrent
  · refine .inr (.inl ?_)
    unfold hasPendingReparse
    rw [(open?_eq_some.1 found).1]
    exact hpending
  · exact .inr (.inr (.inl hload))
  · rw [hconfig] at hgaveUp
    exact .inr (.inr (.inr (.inl hgaveUp)))
  · exact .inr (.inr (.inr (.inr hfails)))
  · exact nomatch hbefore

/-- A document is altered and scheduled, and before its time has come a look at its tree fails. -/
def failedLook : List Move := [
  .create "file:///a.js" "javascript" ['a', ';'],
  .openDocument 0,
  .treeNow "file:///a.js",
  .revise 0 (.edits [.insert 0 ['b']]),
  .treeNow "file:///a.js"]

/-- A look that fails takes the place of the reparse that was scheduled: nothing else is left that
    would bring the document up to date. -/
theorem no_reparse_lost_failed_look :
    ∃ w entry doc,
      (create {} "/home" {} true).play (.ofRecordings [] (some 2)) failedLook = w ∧
      (create {} "/home" {} true).DiligentAlong (.ofRecordings [] (some 2)) failedLook ∧
      w.open? "file:///a.js" = some (entry, doc) ∧
      w.services.registry.isSupported doc.language = true ∧
      (entry.currentTree? doc.version).isSome = false ∧
      w.hasPendingReparse "file:///a.js" = false ∧ w.services.tasks = [] ∧ w.services.waiters = [] ∧
      entry.consecutiveFailures = 0 ∧
      (create {} "/home" {} true).FailsLast (.ofRecordings [] (some 2)) failedLook "file:///a.js" := by
  -- The look fails with a timeout, as the text has three bytes by then.
  have hdiligent : (create {} "/home" {} true).DiligentAlong (.ofRecordings [] (some 2))
      failedLook := by
    refine ⟨trivial, trivial, trivial, ?_, trivial, trivial⟩
    rintro doc next changes ⟨⟩ ⟨⟩
    exact ⟨by decide, (by decide : _ < _)⟩
  have hfound : ((create {} "/home" {} true).play (.ofRecordings [] (some 2)) failedLook).open?
      "file:///a.js" = some (_, _) := rfl
  refine ⟨_, _, _, rfl, hdiligent, hfound, by decide, by decide, by decide, by decide, by decide,
    by decide, ?_⟩
  rcases no_reparse_lost (.ofRecordings [] (some 2)) rfl "/home" {} hdiligent rfl hfound
    (by decide) with
    hcurrent | hpending | hload | hgaveUp | hfails
  · exact absurd hcurrent (by decide)
  · exact absurd hpending (by decide)
  · rcases hload with ⟨task, htask, -⟩ | ⟨waiter, hwaiter, -⟩
    · exact nomatch htask
    · exact nomatch hwaiter
  · exact absurd hgaveUp (by decide)
  · exact hfails

end LiveTree.Workspace
