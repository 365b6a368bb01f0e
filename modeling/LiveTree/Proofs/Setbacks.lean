import LiveTree.Parser.Recorded
import LiveTree.Proofs.Moves

/-!
# Failures keep the trees

A parse that fails has already taken its entry into the state of being parsed and handed out the kept
tree; a grammar may be missing before, and a timer or a load in the background may fail with nobody
looking.  None of it does any harm: documents, trees and what is known of them stay, and nobody is told
of a tree.

`Services.Setback` says so of an operation on one entry, with the number of parses that have failed in
it.  Such operations compose, and an operation without a tree is made of parts that are setbacks.

## Key results

- `Services.treeNow_setback`, `Services.reparse_setback`, `Services.fire_setback`: an operation that
  gets no tree is a setback
- `Access`: all that is after a tree or a grammar, and `Access.Fails`: that it gets none
- `failures_keep_trees`: what a failed access leaves as it was
-/

namespace LiveTree

/-- An entry has the trees of another, at the same versions and with the same edits pending. -/
structure Entry.SameTrees (entry later : Entry) : Prop where
  document : later.document = entry.document
  committed : later.committed = entry.committed
  previous : later.previous = entry.previous
  previousVersion : later.previousVersion = entry.previousVersion
  pendingEdits : later.pendingEdits = entry.pendingEdits

/-- An entry has its own trees. -/
theorem Entry.SameTrees.refl (entry : Entry) : entry.SameTrees entry := ⟨rfl, rfl, rfl, rfl, rfl⟩

/-- What has the same trees as what has the same trees. -/
theorem Entry.SameTrees.trans {a b c : Entry} (hab : a.SameTrees b) (hbc : b.SameTrees c) :
    a.SameTrees c where
  document := hbc.document.trans hab.document
  committed := hbc.committed.trans hab.committed
  previous := hbc.previous.trans hab.previous
  previousVersion := hbc.previousVersion.trans hab.previousVersion
  pendingEdits := hbc.pendingEdits.trans hab.pendingEdits

/-- The state of an entry after some parses of it have failed. -/
def Entry.stateAfter (entry : Entry) (failures : Nat) : SyncState :=
  if failures = 0 then entry.state else if entry.committed.isSome then .stale else .noTree

namespace Services

/-- In an operation on an entry some parses have failed, none has succeeded, and nobody has been told
    of a tree. -/
structure Setback (s : Services) (entry : Entry) (failures : Nat) (later : Services) (next : Entry) :
    Prop extends entry.SameTrees next where
  /-- Nobody is told of a tree. -/
  events : later.events = s.events
  updates : later.metrics.counters.treeUpdates = s.metrics.counters.treeUpdates
  /-- Each parse that failed was counted. -/
  failed : later.metrics.counters.parseFailures =
    s.metrics.counters.parseFailures + UInt64.ofNat failures
  state : next.state = entry.stateAfter failures

namespace Setback

variable {s later last : Services} {entry next final : Entry} {failures more : Nat}

/-- Nothing has been parsed. -/
theorem of_eq (same : entry.SameTrees next) (state : next.state = entry.state)
    (events : later.events = s.events)
    (updates : later.metrics.counters.treeUpdates = s.metrics.counters.treeUpdates)
    (failed : later.metrics.counters.parseFailures = s.metrics.counters.parseFailures) :
    s.Setback entry 0 later next where
  toSameTrees := same
  events := events
  updates := updates
  failed := failed.trans (UInt64.add_zero _).symm
  state := state

/-- Nothing done is a setback without a parse. -/
theorem refl (s : Services) (entry : Entry) : s.Setback entry 0 s entry :=
  .of_eq (.refl entry) rfl rfl rfl rfl

/-- One setback after another, with the parses that failed in both. -/
theorem trans (first : s.Setback entry failures later next)
    (second : later.Setback next more last final) : s.Setback entry (failures + more) last final where
  toSameTrees := first.toSameTrees.trans second.toSameTrees
  events := second.events.trans first.events
  updates := second.updates.trans first.updates
  failed := by rw [second.failed, first.failed, UInt64.ofNat_add, UInt64.add_assoc]
  state := by
    rw [second.state]
    -- Either the later one has no failed parse, or the state has been forgotten by then anyway.
    by_cases hmore : more = 0
    · subst hmore
      exact first.state
    · have hboth : failures + more ≠ 0 := by omega
      unfold Entry.stateAfter
      rw [if_neg hmore, if_neg hboth, first.committed]

end Setback

/-! ## What parses nothing -/

/-- Cancelling a timer parses nothing. -/
theorem cancelTimer_setback (s : Services) (entry : Entry) :
    s.Setback entry 0 (s.cancelTimer entry).1 (s.cancelTimer entry).2.1 := by
  unfold cancelTimer
  split <;> exact .of_eq ⟨rfl, rfl, rfl, rfl, rfl⟩ rfl rfl rfl rfl

/-- Scheduling parses nothing. -/
theorem schedule_setback (s : Services) (uri : String) (entry : Entry) (delay : Nat) :
    s.Setback entry 0 (s.schedule uri entry delay).1 (s.schedule uri entry delay).2 := by
  unfold schedule
  split
  · have hcancel := s.cancelTimer_setback entry
    show s.Setback entry (0 + 0) _ _
    dsimp only
    split <;> exact hcancel.trans (.of_eq ⟨rfl, rfl, rfl, rfl, rfl⟩ rfl rfl rfl rfl)
  · exact .refl s entry

/-- Looking for a grammar parses nothing. -/
theorem grammarNow_setback (s : Services) (entry : Entry) (language : String) :
    s.Setback entry 0 (s.grammarNow language).1 entry := by
  unfold grammarNow
  split
  · exact .refl s entry
  · split <;> exact .of_eq (.refl entry) rfl rfl rfl rfl

/-! ## What gets no tree -/

variable {s : Services} {parser : Parser} {doc : Document} {entry : Entry}

/-- A parse without an answer is one failed parse. -/
theorem parseEntry_setback {grammar : Grammar} {error : EngineError}
    (h : (s.parseEntry parser doc entry grammar).2.2 = .error error) :
    s.Setback entry 1 (s.parseEntry parser doc entry grammar).1
      (s.parseEntry parser doc entry grammar).2.1 := by
  unfold parseEntry at h ⊢
  dsimp only at h ⊢
  -- The state in which the entry was while it was parsed is forgotten.
  split
  · next hparsed => rw [hparsed] at h; exact nomatch h
  · next failure _ =>
    cases failure <;> exact ⟨⟨rfl, rfl, rfl, rfl, rfl⟩, rfl, rfl, rfl, rfl⟩

/-- A tree on demand that ends with an error is a setback, with or without a parse. -/
theorem treeNow_setback {error : EngineError} (h : (s.treeNow parser doc entry).2.2 = .error error) :
    ∃ failures ≤ 1, s.Setback entry failures (s.treeNow parser doc entry).1
      (s.treeNow parser doc entry).2.1 := by
  cases hcurrent : entry.currentTree? doc.version with
  | some tree => rw [treeNow_of_current parser hcurrent] at h; exact nomatch h
  | none =>
    rw [treeNow_of_outdated parser hcurrent] at h ⊢
    -- The timer is cancelled and the grammar looked for before anything is parsed.
    have hgrammar := (s.cancelTimer_setback entry).trans
      (grammarNow_setback (s.cancelTimer entry).1 (s.cancelTimer entry).2.1 doc.language)
    split
    · next heq => rw [heq] at hgrammar; exact ⟨0, Nat.zero_le 1, hgrammar⟩
    · next later grammar heq =>
      rw [heq] at h hgrammar
      exact ⟨1, Nat.le_refl 1, hgrammar.trans (parseEntry_setback h)⟩

/-- The scheduled path without a tree is a setback, with or without a parse. -/
theorem reparse_setback (h : ∀ tree, (s.reparse parser doc entry).2.2 ≠ .ok (some tree)) :
    ∃ failures ≤ 1, s.Setback entry failures (s.reparse parser doc entry).1
      (s.reparse parser doc entry).2.1 := by
  have hends := s.reparse_ends parser doc entry
  generalize s.reparse parser doc entry = ending at h hends ⊢
  cases hends with
  | @current tree _ => exact absurd rfl (h tree)
  | @parsed grammar _ _ =>
    cases hparse : (s.parseEntry parser doc entry grammar).2.2 with
    -- The one parse has failed.
    | error error => exact ⟨1, Nat.le_refl 1, parseEntry_setback hparse⟩
    | ok tree =>
      rw [hparse] at h
      exact absurd rfl (h tree)
  -- Without a grammar, at most a timer is set or a load is started.
  | waiting _ _ _ _ => exact ⟨0, Nat.zero_le 1, s.schedule_setback doc.uri entry _⟩
  | loading _ _ _ _ _ => exact ⟨0, Nat.zero_le 1, .of_eq (.refl entry) rfl rfl rfl rfl⟩
  | resting _ _ _ => exact ⟨0, Nat.zero_le 1, .refl s entry⟩

/-- A timer that has fired and has brought no tree. -/
theorem fire_setback {generation : Nat}
    (h : (s.fire parser doc entry generation).2.currentTree? doc.version = none) :
    ∃ failures ≤ 1, s.Setback entry failures (s.fire parser doc entry generation).1
      (s.fire parser doc entry generation).2 := by
  unfold fire at h ⊢
  cases hclaim : entry.timer.claim? generation with
  | none => exact ⟨0, Nat.zero_le 1, .refl s entry⟩
  | some timer =>
    rw [hclaim] at h
    dsimp only at h ⊢
    -- Claiming the timer and counting the fire parses nothing.
    have hclaimed : s.Setback entry 0 (s.measure Metrics.recordScheduledFire)
        { entry with timer := timer } := .of_eq ⟨rfl, rfl, rfl, rfl, rfl⟩ rfl rfl rfl rfl
    cases hresult : (s.measure Metrics.recordScheduledFire).reparse parser doc
      { entry with timer := timer } with
    | mk later rest =>
    obtain ⟨next, answer⟩ := rest
    -- Had there been a tree, it would be current.
    have hnone : ∀ tree, ((s.measure Metrics.recordScheduledFire).reparse parser doc
        { entry with timer := timer }).2.2 ≠ .ok (some tree) := by
      intro tree hok
      have hcurrent := currentTree?_of_reparse hok
      rw [hresult] at h hok hcurrent
      obtain rfl : answer = .ok (some tree) := hok
      exact nomatch h.symm.trans hcurrent
    obtain ⟨failures, hle, hreparse⟩ := reparse_setback hnone
    rw [hresult] at h hreparse
    have hfired := hclaimed.trans hreparse
    rw [Nat.zero_add] at hfired
    refine ⟨failures, hle, ?_⟩
    cases answer with
    | ok tree => exact hfired
    | error error =>
      -- The failure is counted at the entry, and it may be scheduled again.
      have hcounted : later.Setback next 0 later
          { next with consecutiveFailures := next.consecutiveFailures + 1 } :=
        .of_eq ⟨rfl, rfl, rfl, rfl, rfl⟩ rfl rfl rfl rfl
      dsimp only
      split
      · exact hfired.trans (hcounted.trans (later.schedule_setback doc.uri _ _))
      · exact hfired.trans hcounted

end Services

namespace Workspace

/-! ## Accesses -/

/-- All that is after the tree of a document or after a grammar for it. -/
inductive Access where
  | treeNow (uri : String)
  | reparseNow (uri : String)
  | containingNode (uri : String) (span : Span)
  | bracketingChildren (uri : String) (span : Span)
  | verify (uri : String)
  | timer (uri : String) (generation : Nat)
  | backgroundLoad (uri language : String)
  /-- A timer or a background load that is queued. -/
  | run (task : Task)
  | finishLoad (language : String)

namespace Access

/-- What an access makes of a workspace. -/
def perform (parser : Parser) (w : Workspace) : Access → Workspace
  | treeNow uri => (w.treeNow parser uri).1
  | reparseNow uri => (w.reparseNow parser uri).1
  | containingNode uri span => (w.containingNode parser uri span).1
  | bracketingChildren uri span => (w.bracketingChildren parser uri span).1
  | verify uri => (w.verify parser uri).1
  | timer uri generation => w.timerFired parser uri generation
  | backgroundLoad uri language => w.backgroundLoad uri language
  | run task => w.runTask parser task
  | finishLoad language => w.finishLoad language

/-- The uri whose entry is accessed.  Loads access none. -/
def uri? : Access → Option String
  | treeNow uri | reparseNow uri | containingNode uri _ | bracketingChildren uri _ | verify uri
  | timer uri _ => some uri
  | run ⟨_, _, .reparse uri _⟩ => some uri
  | run ⟨_, _, .load _ _⟩ | backgroundLoad _ _ | finishLoad _ => none

/-- What is open under a uri has no current tree. -/
def isTreeless (w : Workspace) (uri : String) : Bool :=
  (w.open? uri).all fun (entry, doc) => (entry.currentTree? doc.version).isNone

/-- An access gets no grammar, or it gets no tree from a parse. -/
def Fails (parser : Parser) (w : Workspace) : Access → Prop
  | treeNow uri | containingNode uri _ | bracketingChildren uri _ | verify uri =>
    ∃ error, (w.treeNow parser uri).2 = .error error
  | reparseNow uri => ∀ tree, (w.reparseNow parser uri).2 ≠ .ok (some tree)
  | timer uri generation => isTreeless (w.timerFired parser uri generation) uri = true
  | backgroundLoad _ language => ∃ error, (w.requestGrammar language).2 = .failed error
  | run task =>
    match task.work with
    | .reparse uri _ => isTreeless (w.runTask parser task) uri = true
    | .load _ language => ∃ error, (w.requestGrammar language).2 = .failed error
  | finishLoad language => ∃ error, (w.completeLoad language).2 = some (.error error)

end Access

/-- Some parses of the document of a uri have failed, and otherwise nothing has happened that concerns
    a document or a tree.  Without a uri, there was no parse. -/
structure Setback (w : Workspace) (uri? : Option String) (failures : Nat) (later : Workspace) :
    Prop where
  documents : later.documents = w.documents
  events : later.services.events = w.services.events
  updates : later.services.metrics.counters.treeUpdates =
    w.services.metrics.counters.treeUpdates
  failed : later.services.metrics.counters.parseFailures =
    w.services.metrics.counters.parseFailures + UInt64.ofNat failures
  /-- No entry but that of the uri has changed at all, and none was opened or closed. -/
  others : ∀ other, some other ≠ uri? → later.entries.find? other = w.entries.find? other
  closed : ∀ uri, w.entries.find? uri = none → later.entries.find? uri = none
  kept : ∀ uri entry, w.entries.find? uri = some entry → ∃ next,
    later.entries.find? uri = some next ∧ entry.SameTrees next ∧
      (some uri = uri? → next.state = entry.stateAfter failures)

variable {w later : Workspace} {parser : Parser} {uri : String} {uri? : Option String}
  {failures : Nat}

/-- Nothing has happened to entries. -/
theorem Setback.of_entries (uri? : Option String) (documents : later.documents = w.documents)
    (entries : later.entries = w.entries) (events : later.services.events = w.services.events)
    (counters : later.services.metrics.counters = w.services.metrics.counters) :
    w.Setback uri? 0 later where
  documents := documents
  events := events
  updates := by rw [counters]
  -- No counter has moved, so no parse has failed.
  failed := by rw [counters]; exact (UInt64.add_zero _).symm
  others _ _ := by rw [entries]
  closed uri hclosed := by rw [entries]; exact hclosed
  kept uri entry found := ⟨entry, by rw [entries]; exact found, .refl entry, fun _ => rfl⟩

/-- An operation on the entry of a uri. -/
theorem setback_put {entry next : Entry} (found : w.entries.find? uri = some entry) {s : Services}
    (h : w.services.Setback entry failures s next) :
    w.Setback (some uri) failures (w.put uri s next) where
  documents := rfl
  events := h.events
  updates := h.updates
  failed := h.failed
  others other hne := by
    show (w.entries.insert uri next).find? other = _
    -- Another uri finds what was there.
    rw [Table.find?_insert, if_neg fun heq => hne (congrArg some heq)]
  closed other hclosed := by
    show (w.entries.insert uri next).find? other = _
    rw [Table.find?_insert, if_neg, hclosed]
    rintro rfl
    exact nomatch hclosed.symm.trans found
  kept other earlier hearlier := by
    show ∃ later, (w.entries.insert uri next).find? other = some later ∧ _
    rw [Table.find?_insert]
    by_cases heq : other = uri
    · rw [if_pos heq]
      rw [heq, found] at hearlier
      -- The entry of the uri has the same trees as before.
      obtain rfl := Option.some.inj hearlier
      exact ⟨next, rfl, h.toSameTrees, fun _ => h.state⟩
    · rw [if_neg heq]
      exact ⟨earlier, hearlier, .refl earlier, fun hown => absurd (Option.some.inj hown) heq⟩

/-- An operation on an entry is a setback of the workspace as it is one of the services. -/
theorem setback_onEntry {α : Type}
    {operation : Services → Document → Entry → Services × Entry × Except EngineError α}
    (h : ∀ entry doc, w.open? uri = some (entry, doc) → ∃ failures ≤ 1,
      w.services.Setback entry failures (operation w.services doc entry).1
        (operation w.services doc entry).2.1) :
    ∃ failures ≤ 1, w.Setback (some uri) failures (w.onEntry uri operation).1 := by
  unfold onEntry
  cases hopen : w.open? uri with
  | none => exact ⟨0, Nat.zero_le 1, .of_entries _ rfl rfl rfl rfl⟩
  | some found =>
    obtain ⟨entry, doc⟩ := found
    obtain ⟨failures, hle, hsetback⟩ := h entry doc hopen
    exact ⟨failures, hle, setback_put (open?_eq_some.1 hopen).1 hsetback⟩

/-! ## Accesses that fail -/

/-- A tree on demand that ends with an error is a setback. -/
theorem treeNow_setback {error : EngineError} (h : (w.treeNow parser uri).2 = .error error) :
    ∃ failures ≤ 1, w.Setback (some uri) failures (w.treeNow parser uri).1 := by
  refine setback_onEntry fun entry doc hopen => ?_
  have herror : (w.services.treeNow parser doc entry).2.2 = .error error := by
    rw [← h, treeNow, onEntry_answer hopen]
  exact Services.treeNow_setback herror

/-- A reparse on demand without a tree is a setback. -/
theorem reparseNow_setback (h : ∀ tree, (w.reparseNow parser uri).2 ≠ .ok (some tree)) :
    ∃ failures ≤ 1, w.Setback (some uri) failures (w.reparseNow parser uri).1 := by
  refine setback_onEntry fun entry doc hopen => ?_
  -- No answer of the workspace is a tree, so none of the services was.
  have hnone : ∀ tree, ((w.services.cancelTimer entry).1.reparse parser doc
      (w.services.cancelTimer entry).2.1).2.2 ≠ .ok (some tree) := by
    intro tree hok
    refine h tree ?_
    rw [reparseNow, onEntry_answer hopen]
    exact hok
  obtain ⟨failures, hle, hreparse⟩ := Services.reparse_setback hnone
  have hall := (w.services.cancelTimer_setback entry).trans hreparse
  rw [Nat.zero_add] at hall
  exact ⟨failures, hle, hall⟩

/-- A timer that fires and leaves the document without a current tree is a setback. -/
theorem timerFired_setback {generation : Nat}
    (h : Access.isTreeless (w.timerFired parser uri generation) uri = true) :
    ∃ failures ≤ 1, w.Setback (some uri) failures (w.timerFired parser uri generation) := by
  unfold timerFired at h ⊢
  cases hopen : w.open? uri with
  | none => exact ⟨0, Nat.zero_le 1, .of_entries _ rfl rfl rfl rfl⟩
  | some found =>
    obtain ⟨entry, doc⟩ := found
    obtain ⟨hentry, hdoc⟩ := open?_eq_some.1 hopen
    rw [hopen] at h
    dsimp only at h ⊢
    have hdocument := (w.services.fire_turn parser doc entry generation).document
    -- The document is open still, so what it lacks is the tree of its entry.
    have hafter : (w.put uri (w.services.fire parser doc entry generation).1
        (w.services.fire parser doc entry generation).2).open? uri =
          some ((w.services.fire parser doc entry generation).2, doc) :=
      open?_eq_some.2 ⟨Table.find?_insert_self _ _ _, by rw [hdocument]; exact hdoc⟩
    unfold Access.isTreeless at h
    rw [hafter] at h
    obtain ⟨failures, hle, hsetback⟩ := Services.fire_setback (Option.isNone_iff_eq_none.1 h)
    exact ⟨failures, hle, setback_put hentry hsetback⟩

/-- A background load whose grammar is refused touches no entry. -/
theorem backgroundLoad_setback {language : String} {error : GrammarError}
    (h : (w.requestGrammar language).2 = .failed error) (uri : String) :
    w.Setback none 0 (w.backgroundLoad uri language) := by
  -- Asking the registry touches no entry, whatever it replies.
  have hrequest : w.Setback none 0 (w.requestGrammar language).1 := .of_entries _ rfl rfl rfl rfl
  unfold backgroundLoad
  split
  · next hready => rw [hready] at h; exact nomatch h
  · next hfailed => rw [hfailed] at hrequest; exact hrequest
  · next hwaiting => rw [hwaiting] at h; exact nomatch h

/-- Whoever has waited for an attempt that failed is dismissed. -/
theorem finishLoad_setback {language : String} {error : GrammarError}
    (h : (w.completeLoad language).2 = some (.error error)) :
    w.Setback none 0 (w.finishLoad language) := by
  have hcomplete : w.Setback none 0 ((w.completeLoad language).1.resumeWaiters language
      (.error error)) := .of_entries _ rfl rfl rfl rfl
  unfold finishLoad
  split
  · next outcome heq =>
    rw [heq] at h hcomplete
    obtain rfl : outcome = .error error := Option.some.inj h
    exact hcomplete
  · next heq => rw [heq] at h; exact nomatch h

/-- There is nothing more to a query that gets no tree than the look at the tree. -/
theorem Access.perform_of_error {error : EngineError} (h : (w.treeNow parser uri).2 = .error error)
    {access : Access}
    (query : (∃ span, access = .containingNode uri span) ∨
      (∃ span, access = .bracketingChildren uri span) ∨ access = .verify uri) :
    access.perform parser w = (w.treeNow parser uri).1 := by
  obtain ⟨span, rfl⟩ | ⟨span, rfl⟩ | rfl := query
  · show (w.containingNode parser uri span).1 = _
    unfold Workspace.containingNode
    split
    · next heq => rw [heq]
    · next heq => rw [heq] at h; exact nomatch h
  · show (w.bracketingChildren parser uri span).1 = _
    unfold Workspace.bracketingChildren
    split
    · next heq => rw [heq]
    · next heq => rw [heq] at h; exact nomatch h
  · show (w.verify parser uri).1 = _
    -- A verification looks at the tree of the entry itself, so the entry has to be opened up.
    cases hopen : w.open? uri with
    | none =>
      unfold Workspace.verify Workspace.treeNow onEntry
      rw [hopen]
    | some found =>
      obtain ⟨entry, doc⟩ := found
      have herror : (w.services.treeNow parser doc entry).2.2 = .error error := by
        rw [← h, Workspace.treeNow, onEntry_answer hopen]
      unfold Workspace.verify Workspace.treeNow onEntry
      rw [hopen]
      dsimp only
      unfold Services.verify
      split
      · next heq => rw [heq]
      · next heq => rw [heq] at herror; exact nomatch herror

/-- Every access that fails is a setback, with at most one parse. -/
theorem Access.setback {access : Access} (fails : access.Fails parser w) :
    ∃ failures ≤ 1, w.Setback access.uri? failures (access.perform parser w) := by
  cases access with
  | treeNow uri =>
    obtain ⟨error, herror⟩ := fails
    exact treeNow_setback herror
  | reparseNow uri => exact reparseNow_setback fails
  | containingNode uri span =>
    obtain ⟨error, herror⟩ := fails
    rw [perform_of_error herror (.inl ⟨span, rfl⟩)]
    exact treeNow_setback herror
  | bracketingChildren uri span =>
    obtain ⟨error, herror⟩ := fails
    rw [perform_of_error herror (.inr (.inl ⟨span, rfl⟩))]
    exact treeNow_setback herror
  | verify uri =>
    obtain ⟨error, herror⟩ := fails
    rw [perform_of_error herror (.inr (.inr rfl))]
    exact treeNow_setback herror
  | timer uri generation => exact timerFired_setback fails
  | backgroundLoad uri language =>
    obtain ⟨error, herror⟩ := fails
    exact ⟨0, Nat.zero_le 1, backgroundLoad_setback herror uri⟩
  | run task =>
    -- Only the queue is different when a task has been taken from it.
    obtain ⟨id, deadline, work⟩ := task
    cases work with
    | reparse uri generation =>
      have hfired : Access.isTreeless
          (timerFired { w with services := w.services.abort id } parser uri generation) uri = true :=
        fails
      obtain ⟨failures, hle, hsetback⟩ := timerFired_setback hfired
      exact ⟨failures, hle, { hsetback with }⟩
    | load uri language =>
      obtain ⟨error, herror⟩ := fails
      have hfailed : (requestGrammar { w with services := w.services.abort id } language).2 =
          .failed error := herror
      exact ⟨0, Nat.zero_le 1, { backgroundLoad_setback hfailed uri with }⟩
  | finishLoad language =>
    obtain ⟨error, herror⟩ := fails
    exact ⟨0, Nat.zero_le 1, finishLoad_setback herror⟩

/-- A uri has the last tree that it had. -/
theorem Setback.lastTree?_eq (h : w.Setback uri? failures later) (uri : String) :
    later.lastTree? uri = w.lastTree? uri := by
  unfold lastTree?
  -- The last tree of a uri is the committed one of its entry.
  cases hfound : w.entries.find? uri with
  | none => rw [h.closed uri hfound]
  | some entry =>
    obtain ⟨next, hnext, hsame, -⟩ := h.kept uri entry hfound
    rw [hnext]
    exact hsame.committed

/-- Failures keep the trees.  An access that gets no grammar, or no tree from a parse, changes no
    document and tells nobody of a tree; every entry keeps its trees, the versions they are at and the
    edits that are pending; and at most one parse of the accessed entry has failed, which makes it
    stale if it has a tree.  Without such a parse its state is what it was.  All other entries are what
    they were, and every uri has the last tree that it had. -/
theorem failures_keep_trees (parser : Parser) (w : Workspace) {access : Access}
    (fails : access.Fails parser w) :
    (∃ failures ≤ 1, w.Setback access.uri? failures (access.perform parser w)) ∧
      ∀ uri, (access.perform parser w).lastTree? uri = w.lastTree? uri := by
  obtain ⟨failures, hle, hsetback⟩ := access.setback fails
  exact ⟨⟨failures, hle, hsetback⟩, hsetback.lastTree?_eq⟩

/-- A document of one byte is parsed, and then it grows. -/
def outgrown : List Move := [
  .create "file:///a.js" "javascript" ['a'],
  .openDocument 0,
  .treeNow "file:///a.js",
  .revise 0 (.edits [.insert 0 ['b']])]

/-- The timer of the edit finds a text that is too long to be parsed in time: the tree of the text
    before the edit is still there, and is stale. -/
theorem failures_keep_trees_outgrown :
    let parser := Parser.ofRecordings [] (some 1)
    let w := (create {} "/home" {} true).play parser outgrown
    let access := Access.run ⟨1, 1000, .reparse "file:///a.js" 5⟩
    access.Fails parser w ∧
      ((access.perform parser w).lastTree? "file:///a.js").map (·.version) = some 0 ∧
      (access.perform parser w).services.metrics.counters.parseFailures = 1 ∧
      ((access.perform parser w).entries.find? "file:///a.js").map (·.state) = some .stale := by
  intro parser w access
  have hfails : access.Fails parser w := by
    show Access.isTreeless (access.perform parser w) "file:///a.js" = true
    decide
  have hlast : (w.lastTree? "file:///a.js").map (·.version) = some 0 := by decide
  refine ⟨hfails, ?_, by decide, by decide⟩
  rw [(failures_keep_trees parser w hfails).2]
  exact hlast

end Workspace

end LiveTree
