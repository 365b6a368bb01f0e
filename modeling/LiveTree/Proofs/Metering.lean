import LiveTree.Parser.Recorded
import LiveTree.Proofs.Coherence
import LiveTree.Proofs.Moves
import Mathlib.Algebra.GroupWithZero.Nat

/-!
# Metrics account for everything

The counters of an engine are bumped in many places: where a parse ends with a tree and where it ends
without one, where a report is applied and where it is dropped.  Here it is told once, without looking
at any counter, which parses every move attempts; the counters are then shown to say neither more nor
less than that.

What the counters say is an `Account`, and attempts and changes are charged to it.  Every operation
charges what it has done, so that the account of a run is the sum of its moves.

## Key results

- `Services.treeNow_meters`, `Services.fire_meters` and so on: what each operation charges
- `Workspace.move_meters`: every move charges the parses that it attempts and the changes that are
  reported in it
- `Workspace.play_events`: what becomes of the channel is what the moves do with it
- `metrics_account_for_everything`: the counters after a run, against what has happened in it
-/

namespace LiveTree

/-- A parse of a document, made with the help of a kept tree if there is one, and how it ended. -/
structure ParseAttempt where
  doc : Document
  grammar : Grammar
  previous : Option PreviousTree
  outcome : Except ParseFailure ParseTree

namespace ParseAttempt

/-- It gave a tree, from scratch. -/
def isFull (attempt : ParseAttempt) : Bool :=
  attempt.outcome.toBool && attempt.previous.isNone

/-- It gave a tree, with the help of an old one. -/
def isIncremental (attempt : ParseAttempt) : Bool :=
  attempt.outcome.toBool && attempt.previous.isSome

/-- It gave no tree. -/
def failed (attempt : ParseAttempt) : Bool := !attempt.outcome.toBool

/-- It gave no tree because it took too long. -/
def timedOut (attempt : ParseAttempt) : Bool :=
  match attempt.outcome with
  | .error (.timedOut _) => true
  | _ => false

/-- What subscribers are told of it: its tree, if it gave one. -/
def update? (attempt : ParseAttempt) : Option Update :=
  attempt.outcome.toOption.map fun source =>
    ⟨attempt.doc.uri, .ofParse attempt.grammar.language attempt.doc.version source⟩

/-- An attempt gives a tree, from scratch or not, or fails; and one that has timed out has failed. -/
theorem count_outcomes (attempts : List ParseAttempt) :
    attempts.countP (·.isFull) + attempts.countP (·.isIncremental) =
        (attempts.filterMap (·.update?)).length ∧
      (attempts.filterMap (·.update?)).length + attempts.countP (·.failed) = attempts.length ∧
      attempts.countP (·.timedOut) ≤ attempts.countP (·.failed) := by
  -- On the attempts: each has one of the outcomes, and with a tree it is of one of the two kinds.
  induction attempts with
  | nil => exact ⟨rfl, rfl, Nat.le_refl _⟩
  | cons attempt rest ih =>
    obtain ⟨doc, grammar, previous, outcome⟩ := attempt
    rcases outcome with failure | source
    · cases failure <;>
        simp [update?, isFull, isIncremental, failed, timedOut, Except.toBool,
          Except.toOption] at ih ⊢ <;>
        omega
    · cases previous <;>
        simp [update?, isFull, isIncremental, failed, timedOut, Except.toBool,
          Except.toOption] at ih ⊢ <;>
        omega

/-- A parse with a tree is told to subscribers. -/
theorem update?_of_ok {attempt : ParseAttempt} {source : ParseTree}
    (h : attempt.outcome = .ok source) :
    attempt.update? = some
      ⟨attempt.doc.uri, .ofParse attempt.grammar.language attempt.doc.version source⟩ := by
  unfold update?
  rw [h]
  rfl

/-- A parse without a tree is told to nobody. -/
theorem update?_of_error {attempt : ParseAttempt} {failure : ParseFailure}
    (h : attempt.outcome = .error failure) : attempt.update? = none := by
  unfold update?
  rw [h]
  rfl

end ParseAttempt

/-- A report is applied or dropped as a whole, unless it is stopped by a change that cannot be told in
    words. -/
theorem Entry.applyChanges_outcome (entry : Entry) (changes : List Change) (version : Int) :
    (entry.applyChanges changes version).2 = .applied changes.length ∨
      (entry.applyChanges changes version).2 = .dropped changes.length ∨
      (entry.applyChanges changes version).2 = .stopped ∧ ∃ change ∈ changes, ¬ change.Fits := by
  unfold applyChanges
  split
  -- Without a tree, or with one that includes the version already, nothing can be applied.
  · exact .inr (.inl rfl)
  · split
    · exact .inr (.inl rfl)
    · split
      -- Of the changes that stop a report, one does not fit.
      · next hstopped =>
        obtain ⟨change, hmem, hfits⟩ := List.any_eq_true.1 hstopped
        exact .inr (.inr ⟨rfl, change, hmem, of_decide_eq_true hfits⟩)
      · exact .inl rfl

/-- How many changes are applied to a kept tree. -/
def Happening.applied : Happening → Nat
  | reported _ _ changes (.applied _) => changes.length
  | _ => 0

/-- How many changes are reported in vain. -/
def Happening.dropped : Happening → Nat
  | reported _ _ changes (.dropped _) => changes.length
  | _ => 0

/-- How many changes are reported to an open document. -/
def Happening.reportedChanges : Happening → Nat
  | reported _ _ changes _ => changes.length
  | _ => 0

/-- How many changes are reported to an open document, if the report is not stopped. -/
def Happening.told : Happening → Nat
  | reported _ _ changes outcome => if outcome = .stopped then 0 else changes.length
  | _ => 0

/-- What is done with a channel: a message is sent, or a receiver comes, goes or takes what there is. -/
inductive Channel.Use (α : Type) where
  | publish (message : α)
  | subscribe
  | unsubscribe (number : Nat)
  | receive (number : Nat)

/-- What a use makes of a channel. -/
def Channel.use {α : Type} (channel : Channel α) : Use α → Channel α
  | .publish message => channel.publish message
  | .subscribe => channel.subscribe.1
  | .unsubscribe number => channel.unsubscribe number
  | .receive number => (channel.receive number).1

/-- The message that a use sends. -/
def Channel.Use.sent? {α : Type} : Use α → Option α
  | .publish message => some message
  | _ => none

/-- Messages that are sent one after another are all that is sent. -/
theorem Channel.Use.filterMap_sent?_publish {α : Type} (messages : List α) :
    (messages.map Use.publish).filterMap sent? = messages := by
  rw [List.filterMap_map]
  exact List.filterMap_some

/-- What is done aside with the channel. -/
def Aside.uses : Aside → List (Channel.Use Update)
  | .subscribe => [.subscribe]
  | .unsubscribe number => [.unsubscribe number]
  | .receive number => [.receive number]
  | _ => []

/-! ## Accounts -/

/-- What the metrics say of parses and of reported changes. -/
@[ext] structure Account where
  full : UInt64
  incremental : UInt64
  failures : UInt64
  timeouts : UInt64
  updates : UInt64
  applied : UInt64
  dropped : UInt64
  /-- How many parses were timed. -/
  timed : Nat

/-- The account that the metrics of an engine give. -/
def Metrics.account (metrics : Metrics) : Account where
  full := metrics.counters.fullParses
  incremental := metrics.counters.incrementalParses
  failures := metrics.counters.parseFailures
  timeouts := metrics.counters.parseTimeouts
  updates := metrics.counters.treeUpdates
  applied := metrics.counters.editsApplied
  dropped := metrics.counters.editsDropped
  timed := (metrics.durations "parse").length

/-- An account to which attempts at parses and changes that were applied or dropped are charged. -/
def Account.charge (account : Account) (attempts : List ParseAttempt) (applied dropped : Nat) :
    Account where
  full := account.full + .ofNat (attempts.countP (·.isFull))
  incremental := account.incremental + .ofNat (attempts.countP (·.isIncremental))
  failures := account.failures + .ofNat (attempts.countP (·.failed))
  timeouts := account.timeouts + .ofNat (attempts.countP (·.timedOut))
  updates := account.updates + .ofNat (attempts.filterMap (·.update?)).length
  applied := account.applied + .ofNat applied
  dropped := account.dropped + .ofNat dropped
  timed := account.timed + attempts.length

/-- Without attempts and changes nothing is charged. -/
theorem Account.charge_nil (account : Account) : account.charge [] 0 0 = account := by
  simp [charge]

/-- What is charged in two bills may be charged in one. -/
theorem Account.charge_charge (account : Account) (first second : List ParseAttempt)
    (applied dropped applied' dropped' : Nat) :
    (account.charge first applied dropped).charge second applied' dropped' =
      account.charge (first ++ second) (applied + applied') (dropped + dropped') := by
  simp only [charge, List.countP_append, List.filterMap_append, List.length_append,
    UInt64.ofNat_add, UInt64.add_assoc, Nat.add_assoc]

/-- A parse with a tree is charged to one counter or the other, and its tree is counted. -/
theorem Account.charge_of_ok (account : Account) {attempt : ParseAttempt} {source : ParseTree}
    (h : attempt.outcome = .ok source) :
    account.charge [attempt] 0 0 =
      { account with
        full := if attempt.previous.isSome then account.full else account.full + 1
        incremental :=
          if attempt.previous.isSome then account.incremental + 1 else account.incremental
        updates := account.updates + 1
        timed := account.timed + 1 } := by
  -- The tree is the one update there is to count.
  have hupdate : [attempt].filterMap (·.update?) = [_] :=
    List.filterMap_cons_some (ParseAttempt.update?_of_ok h)
  unfold charge
  rw [hupdate]
  cases hprevious : attempt.previous <;>
    simp [ParseAttempt.isFull, ParseAttempt.isIncremental, ParseAttempt.failed,
      ParseAttempt.timedOut, Except.toBool, h, hprevious]

/-- A parse without a tree is charged to the failures, and perhaps to the timeouts among them. -/
theorem Account.charge_of_error (account : Account) {attempt : ParseAttempt}
    {failure : ParseFailure} (h : attempt.outcome = .error failure) :
    account.charge [attempt] 0 0 =
      { account with
        failures := account.failures + 1
        timeouts := if attempt.timedOut then account.timeouts + 1 else account.timeouts
        timed := account.timed + 1 } := by
  -- There is no update to count.
  have hupdate : [attempt].filterMap (·.update?) = [] :=
    List.filterMap_cons_none (ParseAttempt.update?_of_error h)
  unfold charge
  rw [hupdate]
  cases htimeout : attempt.timedOut <;>
    simp [ParseAttempt.isFull, ParseAttempt.isIncremental, ParseAttempt.failed, Except.toBool, h,
      htimeout]

namespace Metrics

/-- What is recorded of a parse with a tree. -/
theorem account_of_tree (metrics : Metrics) (incremental : Bool) :
    (((metrics.recordTiming "parse" 0).recordParse incremental).recordTreeUpdate).account =
      { metrics.account with
        full := if incremental then metrics.account.full else metrics.account.full + 1
        incremental :=
          if incremental then metrics.account.incremental + 1 else metrics.account.incremental
        updates := metrics.account.updates + 1
        timed := metrics.account.timed + 1 } := by
  -- Timing the parse adds one more duration, and the counters do not look at it.
  cases incremental <;>
    simp [account, recordParse, recordTreeUpdate, count, recordTiming, durations]

/-- What is recorded of a parse without a tree. -/
theorem account_of_failure (metrics : Metrics) (timedOut : Bool) :
    ((metrics.recordTiming "parse" 0).recordParseFailure timedOut).account =
      { metrics.account with
        failures := metrics.account.failures + 1
        timeouts := if timedOut then metrics.account.timeouts + 1 else metrics.account.timeouts
        timed := metrics.account.timed + 1 } := by
  cases timedOut <;> simp [account, recordParseFailure, count, recordTiming, durations]

/-- Timings of other operations are not those of parses. -/
theorem account_recordTiming {operation : String} (h : operation ≠ "parse") (metrics : Metrics)
    (nanos : Nat) : (metrics.recordTiming operation nanos).account = metrics.account := by
  simp [account, recordTiming, durations, h]

end Metrics

namespace Services

/-- Services have charged attempts and changes to their account and published the trees of the
    attempts. -/
structure Meters (s : Services) (attempts : List ParseAttempt) (applied dropped : Nat)
    (later : Services) : Prop where
  account : later.metrics.account = s.metrics.account.charge attempts applied dropped
  events : later.events = (attempts.filterMap (·.update?)).foldl Channel.publish s.events

variable {s later last : Services} {first second : List ParseAttempt}
  {applied dropped applied' dropped' : Nat}

/-- Nothing is charged and nothing is told. -/
theorem Meters.quiet (account : later.metrics.account = s.metrics.account)
    (events : later.events = s.events) : s.Meters [] 0 0 later :=
  ⟨by rw [Account.charge_nil]; exact account, events⟩

/-- Nothing at all may happen. -/
theorem Meters.refl (s : Services) : s.Meters [] 0 0 s := .quiet rfl rfl

/-- What is charged and told in two steps is charged and told. -/
theorem Meters.trans (h : s.Meters first applied dropped later)
    (h' : later.Meters second applied' dropped' last) :
    s.Meters (first ++ second) (applied + applied') (dropped + dropped') last where
  account := by rw [h'.account, h.account, Account.charge_charge]
  events := by rw [h'.events, h.events, List.filterMap_append, List.foldl_append]

/-- What happens quietly before does not matter. -/
theorem Meters.after (h : later.Meters first applied dropped last) (quiet : s.Meters [] 0 0 later) :
    s.Meters first applied dropped last := by
  simpa using quiet.trans h

/-- What happens quietly afterwards does not matter. -/
theorem Meters.before (h : s.Meters first applied dropped later)
    (quiet : later.Meters [] 0 0 last) : s.Meters first applied dropped last := by
  simpa using h.trans quiet

/-! ## What operations attempt -/

/-- The parse of an entry's document with a grammar. -/
def attempt (s : Services) (parser : Parser) (doc : Document) (entry : Entry) (grammar : Grammar) :
    ParseAttempt where
  doc := doc
  grammar := grammar
  previous := entry.previousFor? doc.version
  outcome :=
    Pool.attempt (parser.paced s.pace) grammar doc.text (entry.previousFor? doc.version)
      s.config.parseTimeoutMs

/-- What is parsed for a tree on demand: nothing if there is a current tree, or if no grammar can be
    had for the document's language. -/
def attemptsOnDemand (parser : Parser) (s : Services) (doc : Document) (entry : Entry) :
    List ParseAttempt :=
  match entry.currentTree? doc.version, (s.grammarNow doc.language).2 with
  | none, .ok grammar => [s.attempt parser doc entry grammar]
  | _, _ => []

/-- What is parsed on the scheduled path: nothing if there is a current tree, or if the grammar of the
    document's language has not been loaded. -/
def attemptsIfLoaded (parser : Parser) (s : Services) (doc : Document) (entry : Entry) :
    List ParseAttempt :=
  match entry.currentTree? doc.version, s.registry.loaded? doc.language with
  | none, some grammar => [s.attempt parser doc entry grammar]
  | _, _ => []

/-- What is parsed when a timer wakes up: nothing if it has been superseded. -/
def attemptsOnWaking (parser : Parser) (generation : Nat) (s : Services) (doc : Document)
    (entry : Entry) : List ParseAttempt :=
  if (entry.timer.claim? generation).isSome then s.attemptsIfLoaded parser doc entry else []

/-! ## What operations charge -/

/-- Cancelling a timer charges nothing. -/
theorem cancelTimer_meters (s : Services) (entry : Entry) :
    s.Meters [] 0 0 (s.cancelTimer entry).1 := by
  unfold cancelTimer
  split <;> exact .quiet rfl rfl

/-- Setting a timer charges nothing: a timer that is set anew counts elsewhere. -/
theorem schedule_meters (s : Services) (uri : String) (entry : Entry) (delay : Nat) :
    s.Meters [] 0 0 (s.schedule uri entry delay).1 := by
  unfold schedule
  split
  · refine Meters.after ?_ (s.cancelTimer_meters entry)
    dsimp only
    split <;> exact .quiet rfl rfl
  · exact .refl s

/-- Fetching a grammar charges nothing. -/
theorem grammarNow_meters (s : Services) (language : String) :
    s.Meters [] 0 0 (s.grammarNow language).1 := by
  unfold grammarNow
  split
  · exact .refl s
  · split <;> exact .quiet rfl rfl

/-- A parse is charged to one of three counters and timed; its tree, if it gives one, is counted and
    published. -/
theorem parseEntry_meters (s : Services) (parser : Parser) (doc : Document) (entry : Entry)
    (grammar : Grammar) :
    s.Meters [s.attempt parser doc entry grammar] 0 0
      (s.parseEntry parser doc entry grammar).1 := by
  unfold parseEntry parseText Pool.parse Entry.beginParse
  dsimp only
  -- The counters are charged when the outcome is known, and the tree is published before the entry
  -- is put back.
  cases hattempt : Pool.attempt (parser.paced s.pace) grammar doc.text
      (entry.previousFor? doc.version) s.config.parseTimeoutMs with
  | ok source =>
    have houtcome : (s.attempt parser doc entry grammar).outcome = .ok source := hattempt
    refine ⟨?_, ?_⟩
    · rw [Account.charge_of_ok _ houtcome]
      exact s.metrics.account_of_tree _
    · rw [List.filterMap_cons_some (ParseAttempt.update?_of_ok houtcome)]
      rfl
  | error failure =>
    have houtcome : (s.attempt parser doc entry grammar).outcome = .error failure := hattempt
    refine ⟨?_, ?_⟩
    · rw [Account.charge_of_error _ houtcome]
      unfold ParseAttempt.timedOut
      rw [houtcome]
      -- Only a parse that timed out is counted twice, as a failure and as a timeout.
      cases failure <;> exact s.metrics.account_of_failure _
    · rw [List.filterMap_cons_none (ParseAttempt.update?_of_error houtcome)]
      rfl

/-- Cancelling a timer does not matter to grammars. -/
theorem cancelTimer_grammarNow (s : Services) (entry : Entry) (language : String) :
    ((s.cancelTimer entry).1.grammarNow language).2 = (s.grammarNow language).2 := by
  -- Tasks are no part of what a grammar is fetched from.
  have habort (task : TaskId) : ((s.abort task).grammarNow language).2 = (s.grammarNow language).2 := by
    unfold grammarNow abort
    dsimp only
    split
    · rfl
    · split <;> rfl
  unfold cancelTimer
  split
  · exact habort _
  · rfl

/-- A parse depends on the pace and on the limit of its time, and not on timers. -/
theorem attempt_congr {doc : Document} {entry next : Entry} (config : later.config = s.config)
    (pace : later.pace = s.pace) (same : next.untimed = entry.untimed) (parser : Parser)
    (grammar : Grammar) :
    later.attempt parser doc next grammar = s.attempt parser doc entry grammar := by
  have hprevious := congrArg (Entry.previousFor? · doc.version) same
  have hsame : next.previousFor? doc.version = entry.previousFor? doc.version := hprevious
  unfold attempt
  rw [config, pace, hsame]

/-- A look at the tree charges the parse that it makes, if it makes one. -/
theorem treeNow_meters (s : Services) (parser : Parser) (doc : Document) (entry : Entry) :
    s.Meters (s.attemptsOnDemand parser doc entry) 0 0 (s.treeNow parser doc entry).1 := by
  unfold attemptsOnDemand
  cases hcurrent : entry.currentTree? doc.version with
  | some tree => rw [treeNow_of_current parser hcurrent]; exact .refl s
  | none =>
    rw [treeNow_of_outdated parser hcurrent, ← s.cancelTimer_grammarNow entry]
    have hsame := s.cancelTimer_untimed entry
    have hgrammar := ((s.cancelTimer entry).1.grammarNow_meters doc.language).after
      (s.cancelTimer_meters entry)
    have hleads := (s.cancelTimer_leads entry).trans
      ((s.cancelTimer entry).1.grammarNow_leads doc.language)
    have hpace := ((s.cancelTimer entry).1.grammarNow_pace doc.language).trans
      (s.cancelTimer_pace entry)
    -- The grammar comes in its own services, in which nothing has been charged so far.
    generalize (s.cancelTimer entry).1.grammarNow doc.language = found at hgrammar hleads hpace ⊢
    obtain ⟨later, error | grammar⟩ := found
    · exact hgrammar
    · show s.Meters [s.attempt parser doc entry grammar] 0 0 _
      -- The parse that is made there is the one that is foreseen here.
      rw [← attempt_congr hleads.config hpace hsame]
      exact (later.parseEntry_meters parser doc _ grammar).after hgrammar

/-- So does the scheduled path. -/
theorem reparse_meters (s : Services) (parser : Parser) (doc : Document) (entry : Entry) :
    s.Meters (s.attemptsIfLoaded parser doc entry) 0 0 (s.reparse parser doc entry).1 := by
  unfold attemptsIfLoaded
  have hends := s.reparse_ends parser doc entry
  generalize s.reparse parser doc entry = ending at hends ⊢
  cases hends with
  | current current => rw [current]; exact .refl s
  | @parsed grammar outdated loaded =>
    rw [outdated, loaded]
    exact s.parseEntry_meters parser doc entry grammar
  -- Without a grammar there is at most a timer to set or a load to start.
  | waiting outdated missing _ _ =>
    rw [outdated, missing]
    exact s.schedule_meters doc.uri entry _
  | loading outdated missing _ _ _ =>
    rw [outdated, missing]
    exact .quiet rfl rfl
  | resting outdated missing _ =>
    rw [outdated, missing]
    exact .refl s

/-- What is parsed on the scheduled path does not depend on timers. -/
theorem attemptsIfLoaded_congr {doc : Document} {entry next : Entry}
    (config : later.config = s.config) (registry : later.registry = s.registry)
    (pace : later.pace = s.pace) (same : next.untimed = entry.untimed) (parser : Parser) :
    later.attemptsIfLoaded parser doc next = s.attemptsIfLoaded parser doc entry := by
  have hcurrent := congrArg (Entry.currentTree? · doc.version) same
  have hsame : next.currentTree? doc.version = entry.currentTree? doc.version := hcurrent
  unfold attemptsIfLoaded
  rw [registry, hsame]
  split
  · rw [attempt_congr config pace same]
  · rfl

/-- Cancelling the timer first changes neither what is parsed nor what is charged. -/
theorem cancelTimer_reparse_meters (s : Services) (parser : Parser) (doc : Document)
    (entry : Entry) :
    s.Meters (s.attemptsIfLoaded parser doc entry) 0 0
      ((s.cancelTimer entry).1.reparse parser doc (s.cancelTimer entry).2.1).1 := by
  have hregistry : (s.cancelTimer entry).1.registry = s.registry := by
    unfold cancelTimer
    split <;> rfl
  rw [← attemptsIfLoaded_congr (s.cancelTimer_leads entry).config hregistry
    (s.cancelTimer_pace entry) (s.cancelTimer_untimed entry)]
  exact (reparse_meters _ parser doc _).after (s.cancelTimer_meters entry)

/-- A timer that fires charges what is parsed on its way. -/
theorem fire_meters (s : Services) (parser : Parser) (doc : Document) (entry : Entry)
    (generation : Nat) :
    s.Meters (s.attemptsOnWaking parser generation doc entry) 0 0
      (s.fire parser doc entry generation).1 := by
  unfold fire attemptsOnWaking
  cases hclaim : entry.timer.claim? generation with
  | none => exact .refl s
  | some timer =>
    have hfired : s.Meters [] 0 0 (s.measure Metrics.recordScheduledFire) := .quiet rfl rfl
    have hreparse := (reparse_meters (s.measure Metrics.recordScheduledFire) parser doc
      { entry with timer := timer }).after hfired
    -- The fire itself is counted, but that is not part of the account.
    rw [attemptsIfLoaded_congr rfl rfl rfl rfl] at hreparse
    show s.Meters (s.attemptsIfLoaded parser doc entry) 0 0 _
    dsimp only
    split
    · next h => rw [h] at hreparse; exact hreparse
    · next later failed error h =>
      rw [h] at hreparse
      split
      -- A failure is charged already; what follows it is a new timer at most.
      · exact hreparse.before (later.schedule_meters _ _ _)
      · exact hreparse

/-- The second parse of a verification is charged to nobody. -/
theorem verify_meters (s : Services) (parser : Parser) (doc : Document) (entry : Entry) :
    s.Meters (s.attemptsOnDemand parser doc entry) 0 0 (s.verify parser doc entry).1 := by
  have htree := s.treeNow_meters parser doc entry
  unfold verify
  -- Without a tree the verification is over.
  split
  · next h => rw [h] at htree; exact htree
  · next later changed tree h =>
    rw [h] at htree
    have hgrammar := htree.before (later.grammarNow_meters tree.language)
    split
    · next h => rw [h] at hgrammar; exact hgrammar
    · next last grammar h =>
      rw [h] at hgrammar
      -- The second parse has its own outcome and leaves the metrics alone.
      have hparse : last.Meters [] 0 0 (last.parseText parser grammar doc.text none).1 :=
        .quiet rfl rfl
      split
      · next h => rw [h] at hparse; exact hgrammar.before hparse
      · next final source h =>
        rw [h] at hparse
        have hcounted : final.Meters [] 0 0 (final.measure Metrics.recordVerification) :=
          .quiet rfl rfl
        dsimp only
        split <;> exact hgrammar.before (hparse.before hcounted)

/-- The changes of a report are charged as it comes out: a report that is stopped is not charged. -/
theorem report_meters (s : Services) (key uri : String) (entry : Entry) (version : Int)
    (changes : List Change) :
    s.Meters []
      (Happening.applied (.reported uri version changes (entry.applyChanges changes version).2))
      (Happening.dropped (.reported uri version changes (entry.applyChanges changes version).2))
      (s.report key entry version changes).1 := by
  unfold report
  have houtcome := entry.applyChanges_outcome changes version
  generalize entry.applyChanges changes version = reported at houtcome ⊢
  obtain ⟨changed, outcome⟩ := reported
  -- All of the changes are applied, all are dropped, or the report is stopped.
  rcases houtcome with rfl | rfl | ⟨rfl, -⟩
  · have hcharged : s.Meters [] changes.length 0
        (s.measure (·.recordEditsApplied changes.length)) := by
      refine ⟨?_, rfl⟩
      simp [Account.charge, Metrics.account, measure, Metrics.recordEditsApplied, Metrics.count,
        Metrics.durations]
    dsimp only
    split
    · exact hcharged.before (schedule_meters _ key changed _)
    · exact hcharged
  · refine ⟨?_, rfl⟩
    simp [Account.charge, Metrics.account, measure, Metrics.recordEditsDropped, Metrics.count,
      Metrics.durations, Happening.applied, Happening.dropped]
  · exact .refl s

end Services

namespace Workspace

/-! ## What moves attempt -/

/-- What is parsed by an operation on the open entry of a uri. -/
def attemptsAt (w : Workspace) (uri : String)
    (attempts : Services → Document → Entry → List ParseAttempt) : List ParseAttempt :=
  match w.open? uri with
  | none => []
  | some (entry, doc) => attempts w.services doc entry

/-- What is parsed by a caller who has waited for a grammar. -/
def attemptsAfter (w : Workspace) (parser : Parser) :
    Option (Except GrammarError Grammar) → Option String → List ParseAttempt
  | some (.ok _), some uri => w.attemptsAt uri (Services.attemptsOnDemand parser)
  | _, _ => []

/-- What is parsed when a task runs. -/
def attemptsBy (w : Workspace) (parser : Parser) : Work → List ParseAttempt
  | .reparse uri generation => w.attemptsAt uri (Services.attemptsOnWaking parser generation)
  | .load _ _ => []

/-- The parses that a move attempts. -/
def attempts (parser : Parser) (w : Workspace) : Move → List ParseAttempt
  | .treeNow uri | .verify uri => w.attemptsAt uri (Services.attemptsOnDemand parser)
  | .reparseNow uri => w.attemptsAt uri (Services.attemptsIfLoaded parser)
  | .wake uri generation => w.attemptsAt uri (Services.attemptsOnWaking parser generation)
  | .run task => if task ∈ w.services.tasks then w.attemptsBy parser task.work else []
  | .finish language caller =>
    (w.completeLoad language).1.attemptsAfter parser (w.completeLoad language).2 caller
  | _ => []

/-- The parses that a sequence of moves attempts. -/
def attemptsAlong (parser : Parser) (w : Workspace) : List Move → List ParseAttempt
  | [] => []
  | move :: rest => w.attempts parser move ++ (w.move parser move).attemptsAlong parser rest

/-- What a move does with the channel: it sends the trees of the parses that it attempts, unless it is
    the host who has to do with receivers. -/
def uses (parser : Parser) (w : Workspace) : Move → List (Channel.Use Update)
  | .aside aside => aside.uses
  | move => ((w.attempts parser move).filterMap (·.update?)).map .publish

/-- What a sequence of moves does with the channel. -/
def usesAlong (parser : Parser) (w : Workspace) : List Move → List (Channel.Use Update)
  | [] => []
  | move :: rest => w.uses parser move ++ (w.move parser move).usesAlong parser rest

/-! ## What moves charge -/

section Moving

variable {w : Workspace} {uri : String}

/-- An operation on one entry charges what is charged on its services; on a closed document nothing
    is done. -/
theorem onEntry_meters {α : Type}
    {operation : Services → Document → Entry → Services × Entry × Except EngineError α}
    {attempts : Services → Document → Entry → List ParseAttempt}
    (meters : ∀ (s : Services) doc entry,
      s.Meters (attempts s doc entry) 0 0 (operation s doc entry).1) :
    w.services.Meters (w.attemptsAt uri attempts) 0 0 (w.onEntry uri operation).1.services := by
  unfold onEntry attemptsAt
  cases w.open? uri with
  | none => exact .refl _
  | some opened => exact meters _ opened.2 opened.1

/-- A look at the tree charges its parse. -/
theorem treeNow_meters (w : Workspace) (parser : Parser) (uri : String) :
    w.services.Meters (w.attemptsAt uri (Services.attemptsOnDemand parser)) 0 0
      (w.treeNow parser uri).1.services :=
  onEntry_meters fun s doc entry => s.treeNow_meters parser doc entry

/-- A timer that fires charges the parse on its way. -/
theorem timerFired_meters (w : Workspace) (parser : Parser) (uri : String) (generation : Nat) :
    w.services.Meters (w.attemptsAt uri (Services.attemptsOnWaking parser generation)) 0 0
      (w.timerFired parser uri generation).services := by
  unfold timerFired attemptsAt
  cases w.open? uri with
  | none => exact .refl _
  | some opened => exact w.services.fire_meters parser opened.2 opened.1 generation

/-- Scheduling charges nothing. -/
theorem scheduleIfOpen_meters (w : Workspace) (uri : String) (delay : Nat) :
    w.services.Meters [] 0 0 (w.scheduleIfOpen uri delay).services := by
  unfold scheduleIfOpen
  split
  · exact .refl _
  · exact w.services.schedule_meters uri _ delay

/-- Nor does scheduling on demand. -/
theorem scheduleReparse_meters (w : Workspace) (uri : String) :
    w.services.Meters [] 0 0 (w.scheduleReparse uri).1.services := by
  unfold scheduleReparse onEntry
  split
  · exact .refl _
  · next entry doc _ => exact w.services.schedule_meters doc.uri entry _

/-- Nor does showing a document. -/
theorem activate_meters (w : Workspace) (uri : String) :
    w.services.Meters [] 0 0 (w.activate uri).1.services := by
  unfold activate onEntry
  split
  · exact .refl _
  · next entry doc _ =>
    dsimp only
    split
    · exact .refl _
    · exact w.services.schedule_meters doc.uri entry 0

/-- Nor does a load in the background. -/
theorem backgroundLoad_meters (w : Workspace) (uri language : String) :
    w.services.Meters [] 0 0 (w.backgroundLoad uri language).services := by
  have hrequest : w.services.Meters [] 0 0 (w.requestGrammar language).1.services := .quiet rfl rfl
  unfold backgroundLoad
  split
  · next later _ h =>
    rw [h] at hrequest
    exact hrequest.before (later.scheduleIfOpen_meters uri 0)
  · next h => rw [h] at hrequest; exact hrequest
  · next h => rw [h] at hrequest; exact hrequest.before (.quiet rfl rfl)

/-- A task that runs charges what its work charges. -/
theorem runTask_meters (w : Workspace) (parser : Parser) (task : Task) :
    w.services.Meters (w.attemptsBy parser task.work) 0 0 (w.runTask parser task).services := by
  have habort : w.services.Meters [] 0 0
      { w with services := w.services.abort task.id }.services := .quiet rfl rfl
  unfold runTask
  cases task.work with
  | reparse uri generation =>
    -- The task that runs is not looked at by what it wakes.
    exact (timerFired_meters { w with services := w.services.abort task.id } parser uri
      generation).after habort
  | load uri language => exact (backgroundLoad_meters _ uri language).after habort

/-- Letting those that have waited go on charges nothing. -/
theorem resumeWaiters_meters (w : Workspace) (language : String)
    (outcome : Except GrammarError Grammar) :
    w.services.Meters [] 0 0 (w.resumeWaiters language outcome).services := by
  have hfold (resumed : List Waiter) (w : Workspace) : w.services.Meters [] 0 0
      (resumed.foldl (fun w waiter => w.scheduleIfOpen waiter.uri 0) w).services := by
    -- On those that wait: each is scheduled, which charges nothing.
    induction resumed generalizing w with
    | nil => exact .refl _
    | cons first rest ih => exact (w.scheduleIfOpen_meters first.uri 0).before (ih _)
  unfold resumeWaiters
  dsimp only
  split
  · exact (hfold _ _).after (.quiet rfl rfl)
  · exact .quiet rfl rfl

/-- The end of an attempt charges the parse of the caller's look, if there is one. -/
theorem finish_meters (w : Workspace) (parser : Parser) (language : String)
    (caller : Option String) :
    w.services.Meters (w.attempts parser (.finish language caller)) 0 0
      (w.finish parser language caller).services := by
  have hcomplete : w.services.Meters [] 0 0 (w.completeLoad language).1.services := .quiet rfl rfl
  show w.services.Meters
    ((w.completeLoad language).1.attemptsAfter parser (w.completeLoad language).2 caller) 0 0 _
  unfold finish
  generalize w.completeLoad language = completed at hcomplete ⊢
  -- The caller looks only if there is an outcome, and if that is a grammar.
  obtain ⟨later, _ | outcome⟩ := completed
  · exact hcomplete.before (later.resumeWaiters_meters language _)
  · have hlook : later.services.Meters (later.attemptsAfter parser (some outcome) caller) 0 0
        (later.lookAfter parser outcome caller).services := by
      cases caller with
      | none => cases outcome <;> exact .refl _
      | some uri =>
        cases outcome with
        | error error => exact .refl _
        | ok grammar => exact later.treeNow_meters parser uri
    exact (hlook.after hcomplete).before (resumeWaiters_meters _ language outcome)

/-- Opening a document charges nothing. -/
theorem openDocument_meters (w : Workspace) (id : DocumentId) :
    w.services.Meters [] 0 0 (w.openDocument id).services := by
  unfold openDocument
  split
  · exact .refl _
  · next doc _ =>
    refine (Services.schedule_meters _ doc.uri _ 0).after ?_
    split
    · exact w.services.cancelTimer_meters _
    · exact .refl _

/-- Nor does closing one. -/
theorem close_meters (w : Workspace) (uri : String) :
    w.services.Meters [] 0 0 (w.close uri).1.services := by
  unfold close
  split
  · exact .refl _
  · exact w.services.cancelTimer_meters _

/-- A report charges its changes, if its document is open. -/
theorem report_meters (w : Workspace) (uri : String) (version : Int) (changes : List Change) :
    w.services.Meters [] ((w.doingsOfReport uri version changes).map Happening.applied).sum
      ((w.doingsOfReport uri version changes).map Happening.dropped).sum
      (w.report uri version changes).1.services := by
  unfold report onEntry doingsOfReport
  cases w.open? uri with
  | none => exact .refl _
  | some opened =>
    simp only [List.map_cons, List.map_nil, List.sum_cons, List.sum_nil, Nat.add_zero]
    exact w.services.report_meters opened.2.uri uri opened.1 version changes

/-- A revision charges what its report charges. -/
theorem revise_meters (w : Workspace) (id : DocumentId) (alteration : Alteration) :
    w.services.Meters [] ((w.doingsOfRevise id alteration).map Happening.applied).sum
      ((w.doingsOfRevise id alteration).map Happening.dropped).sum
      (w.revise id alteration).services := by
  unfold revise doingsOfRevise
  split
  · exact .refl _
  · next next changes _ =>
    simp only [List.map_cons, List.sum_cons, Happening.applied, Happening.dropped, Nat.zero_add]
    exact report_meters { w with documents := w.documents.set id next } next.uri next.version changes

/-- A revision that is not reported charges nothing. -/
theorem alter_meters (w : Workspace) (id : DocumentId) (alteration : Alteration) :
    w.services.Meters [] ((w.doingsOfAlter id alteration).map Happening.applied).sum
      ((w.doingsOfAlter id alteration).map Happening.dropped).sum
      (w.alter id alteration).services := by
  unfold alter doingsOfAlter
  split <;> exact .refl _

/-- What is done aside charges nothing, unless it meddles with the metrics. -/
theorem doAside_account (w : Workspace) {aside : Aside} (unreset : aside ≠ .resetMetrics)
    (other : aside ≠ .time "parse") :
    (w.doAside aside).services.metrics.account = w.services.metrics.account := by
  cases aside with
  | time operation =>
    refine Metrics.account_recordTiming ?_ _ 0
    rintro rfl
    exact other rfl
  | resetMetrics => exact absurd rfl unreset
  | _ => rfl

/-- The host has to do with receivers alone. -/
theorem doAside_events (w : Workspace) (aside : Aside) :
    (w.doAside aside).services.events = aside.uses.foldl Channel.use w.services.events := by
  cases aside <;> rfl

/-- Every move that is not made aside charges the parses that it attempts and the changes that are
    reported in it. -/
theorem move_meters (w : Workspace) (parser : Parser) {move : Move}
    (engaged : ∀ aside, move ≠ .aside aside) :
    w.services.Meters (w.attempts parser move)
      ((w.moveDoings move).map Happening.applied).sum
      ((w.moveDoings move).map Happening.dropped).sum (w.move parser move).services := by
  cases move with
  | create uri language text => exact .refl _
  | alter id alteration => exact w.alter_meters id alteration
  | revise id alteration => exact w.revise_meters id alteration
  -- What the host does in these two is no report, so nothing is charged for it.
  | openDocument id =>
    have hopen := w.openDocument_meters id
    show w.services.Meters [] ((w.doingsOfOpen id).map Happening.applied).sum
      ((w.doingsOfOpen id).map Happening.dropped).sum _
    unfold doingsOfOpen
    split <;> exact hopen
  | close uri =>
    have hclose := w.close_meters uri
    show w.services.Meters [] ((w.doingsOfClose uri).map Happening.applied).sum
      ((w.doingsOfClose uri).map Happening.dropped).sum _
    unfold doingsOfClose
    split <;> exact hclose
  | report uri version changes => exact w.report_meters uri version changes
  | treeNow uri => exact w.treeNow_meters parser uri
  | reparseNow uri =>
    exact onEntry_meters fun s doc entry => s.cancelTimer_reparse_meters parser doc entry
  | verify uri => exact onEntry_meters fun s doc entry => s.verify_meters parser doc entry
  | activate uri => exact w.activate_meters uri
  | scheduleReparse uri => exact w.scheduleReparse_meters uri
  | loadBlocking language => exact .quiet rfl rfl
  | request language => exact .quiet rfl rfl
  | wake uri generation => exact w.timerFired_meters parser uri generation
  | backgroundLoad uri language => exact w.backgroundLoad_meters uri language
  -- A task that is no longer in the queue does nothing.
  | run task =>
    show w.services.Meters
      (if task ∈ w.services.tasks then w.attemptsBy parser task.work else []) 0 0
      (if task ∈ w.services.tasks then w.runTask parser task else w).services
    split
    · exact w.runTask_meters parser task
    · exact .refl _
  | finish language caller => exact w.finish_meters parser language caller
  | aside aside => exact absurd rfl (engaged aside)

/-- Every move charges the parses that it attempts and the changes that are reported in it, unless it
    meddles with the metrics. -/
theorem move_account (w : Workspace) (parser : Parser) {move : Move}
    (unreset : move ≠ .aside .resetMetrics) (other : move ≠ .aside (.time "parse")) :
    (w.move parser move).services.metrics.account =
      w.services.metrics.account.charge (w.attempts parser move)
        ((w.moveDoings move).map Happening.applied).sum
        ((w.moveDoings move).map Happening.dropped).sum := by
  cases move with
  -- Resetting and timing by the host are excluded; nothing else that is done aside touches the
  -- account.
  | aside aside =>
    have hunreset : aside ≠ .resetMetrics := fun h => unreset (congrArg Move.aside h)
    have hother : aside ≠ .time "parse" := fun h => other (congrArg Move.aside h)
    exact (w.doAside_account hunreset hother).trans (Account.charge_nil _).symm
  | _ => exact (w.move_meters parser (by rintro _ ⟨⟩)).account

/-- What a move makes of the channel is what it does with it. -/
theorem move_events (w : Workspace) (parser : Parser) (move : Move) :
    (w.move parser move).services.events =
      (w.uses parser move).foldl Channel.use w.services.events := by
  -- The trees that are sent are sent one after another.
  have hsent (move : Move) (engaged : ∀ aside, move ≠ .aside aside) :
      (w.move parser move).services.events =
        (((w.attempts parser move).filterMap (·.update?)).map Channel.Use.publish).foldl
          Channel.use w.services.events := by
    rw [List.foldl_map]
    exact (w.move_meters parser engaged).events
  cases move with
  | aside aside => exact w.doAside_events aside
  | _ => exact hsent _ (by rintro _ ⟨⟩)

/-- A move sends the trees of the parses that it attempts. -/
theorem filterMap_sent?_uses (w : Workspace) (parser : Parser) (move : Move) :
    (w.uses parser move).filterMap (·.sent?) =
      (w.attempts parser move).filterMap (·.update?) := by
  cases move with
  | aside aside => cases aside <;> rfl
  | _ => exact Channel.Use.filterMap_sent?_publish _

/-- A sequence of moves charges what its moves charge. -/
theorem play_account (w : Workspace) (parser : Parser) {moves : List Move}
    (unreset : .aside .resetMetrics ∉ moves) (other : .aside (.time "parse") ∉ moves) :
    (w.play parser moves).services.metrics.account =
      w.services.metrics.account.charge (w.attemptsAlong parser moves)
        ((w.playDoings parser moves).map Happening.applied).sum
        ((w.playDoings parser moves).map Happening.dropped).sum := by
  -- On the moves: the account after the first is where the rest starts.
  induction moves generalizing w with
  | nil => exact (Account.charge_nil _).symm
  | cons move rest ih =>
    rw [List.mem_cons, not_or] at unreset other
    have hmove := w.move_account parser (Ne.symm unreset.1) (Ne.symm other.1)
    have hrest := ih (w.move parser move) unreset.2 other.2
    rw [playDoings, List.map_append, List.map_append, List.sum_append, List.sum_append, attemptsAlong,
      ← Account.charge_charge, ← hmove]
    exact hrest

/-- What a sequence of moves makes of the channel is what its moves do with it. -/
theorem play_events (w : Workspace) (parser : Parser) (moves : List Move) :
    (w.play parser moves).services.events =
      (w.usesAlong parser moves).foldl Channel.use w.services.events := by
  -- On the moves, with the channel as the first has left it.
  induction moves generalizing w with
  | nil => rfl
  | cons move rest ih =>
    rw [usesAlong, List.foldl_append, ← w.move_events parser move]
    exact ih _

/-- A sequence of moves sends the trees of all parses that are attempted in it, in their order. -/
theorem filterMap_sent?_usesAlong (w : Workspace) (parser : Parser) (moves : List Move) :
    (w.usesAlong parser moves).filterMap (·.sent?) =
      (w.attemptsAlong parser moves).filterMap (·.update?) := by
  -- On the moves, both lists being made move by move.
  induction moves generalizing w with
  | nil => rfl
  | cons move rest ih =>
    rw [usesAlong, attemptsAlong, List.filterMap_append, List.filterMap_append,
      w.filterMap_sent?_uses parser move, ih]

end Moving

/-! ## Changes that are reported -/

/-- What is told of a report that is not stopped is applied or dropped. -/
theorem told_eq (happening : Happening) :
    happening.told = happening.applied + happening.dropped := by
  cases happening with
  | reported uri version changes outcome =>
    cases outcome <;> simp [Happening.told, Happening.applied, Happening.dropped]
  | _ => rfl

/-- Changes that are told are applied or dropped. -/
theorem sum_told (doings : List Happening) :
    (doings.map Happening.told).sum =
      (doings.map Happening.applied).sum + (doings.map Happening.dropped).sum := by
  induction doings with
  | nil => rfl
  | cons happening rest ih =>
    simp only [List.map_cons, List.sum_cons, told_eq happening, ih]
    omega

/-- A report comes out as its changes do in the entry that it reaches. -/
theorem Step.outcome_eq {parser : Parser} {w later : Workspace} {happening : Happening}
    (step : Step parser w happening later) {uri : String} {version : Int} {changes : List Change}
    {outcome : EditOutcome} (h : happening = .reported uri version changes outcome) :
    ∃ entry : Entry, outcome = (entry.applyChanges changes version).2 := by
  cases step with
  | report version changes found after =>
    cases h
    exact ⟨_, rfl⟩
  | _ => exact nomatch h

/-- Only a change that cannot be told in words stops a report. -/
theorem Run.stopped {parser : Parser} {start w : Workspace} {trace : List Happening}
    (run : Run parser start trace w) {uri : String} {version : Int} {changes : List Change}
    (h : .reported uri version changes .stopped ∈ trace) : ∃ change ∈ changes, ¬ change.Fits := by
  induction run with
  | nil => exact nomatch h
  | @snoc trace happening next later _ step ih =>
    rcases List.mem_append.1 h with h | h
    · exact ih h
    · obtain ⟨entry, houtcome⟩ := step.outcome_eq (List.mem_singleton.1 h).symm
      rcases entry.applyChanges_outcome changes version with happlied | hdropped | ⟨-, hstopped⟩
      · exact nomatch houtcome.trans happlied
      · exact nomatch houtcome.trans hdropped
      · exact hstopped

/-- What happens to one document adds no more to the pending edits than is applied. -/
theorem countOn_applied_le (uri : String) (count : Nat) (happening : Happening) :
    countOn countedApplied uri count happening ≤ count + happening.applied := by
  cases happening with
  | opened id other => simp only [countOn]; split <;> omega
  | reported other version changes outcome =>
    -- The report adds its changes if it is applied to this document, and otherwise nothing.
    cases outcome with
    | applied n => simp only [countOn, countedApplied, Happening.applied]; split <;> omega
    | dropped n => simp only [countOn, countedApplied]; split <;> omega
    | stopped => simp only [countOn, countedApplied]; split <;> omega
  | parsed other previous committed =>
    cases committed with
    | true => simp only [countOn]; split <;> omega
    | false => exact Nat.le_add_right _ _
  | _ => exact Nat.le_add_right _ _

/-- The same for any number of documents: what happens, happens to one of them at most. -/
theorem sum_countOn_applied_le {uris : List String} (nodup : uris.Nodup) (count : String → Nat)
    (happening : Happening) :
    (uris.map fun uri => countOn countedApplied uri (count uri) happening).sum ≤
      (uris.map count).sum + happening.applied := by
  -- On the documents: if it happens to the first, then to none of the rest, and else to one of the
  -- rest at most.
  induction uris with
  | nil => exact Nat.zero_le _
  | cons uri rest ih =>
    obtain ⟨hnew, hrest⟩ := List.nodup_cons.1 nodup
    simp only [List.map_cons, List.sum_cons]
    by_cases hhere : happening.uri? = some uri
    · have helsewhere : (rest.map fun uri => countOn countedApplied uri (count uri) happening) =
          rest.map count := by
        refine List.map_congr_left fun other hother => ?_
        refine countOn_elsewhere _ _ fun heq => hnew ?_
        rw [Option.some.inj (hhere.symm.trans heq)]
        exact hother
      -- Here it adds what is applied, and elsewhere nothing.
      have hown := countOn_applied_le uri (count uri) happening
      rw [helsewhere]
      omega
    · have hrest := ih hrest
      rw [countOn_elsewhere _ _ hhere]
      omega

/-- The pending edits of any documents have been applied. -/
theorem Run.pendingEdits_le {parser : Parser} {start w : Workspace} {trace : List Happening}
    (run : Run parser start trace w) {uris : List String} (nodup : uris.Nodup) :
    (uris.map (changesApplied · trace)).sum ≤
      ((trace.filter Happening.byHost).map Happening.applied).sum := by
  -- On the run: what the last step adds to the pending edits, it adds to what is applied.
  induction run with
  | nil =>
    have hnone : uris.map (changesApplied · []) = uris.map fun _ => 0 := rfl
    rw [hnone, List.map_const', List.sum_replicate_nat, Nat.mul_zero]
    exact Nat.zero_le _
  | @snoc trace happening _ _ _ _ ih =>
    have hlast : (([happening].filter Happening.byHost).map Happening.applied).sum =
        happening.applied := by
      cases happening <;> rfl
    have hsum := sum_countOn_applied_le nodup (changesApplied · trace) happening
    simp only [changesApplied_snoc]
    rw [List.filter_append, List.map_append, List.sum_append, hlast]
    omega

/-! ## The account of a run -/

/-- How many edits are pending in all open entries. -/
def pendingEdits (w : Workspace) : Nat := (w.entries.values.map Entry.pendingEdits).sum

/-- The edits that are pending in all open entries have been applied at some time. -/
theorem Run.pendingEdits_le_applied {parser : Parser} {start w : Workspace}
    {trace : List Happening} (empty : start.entries = .empty) (run : Run parser start trace w) :
    w.pendingEdits ≤ ((trace.filter Happening.byHost).map Happening.applied).sum := by
  -- What is open under a uri has as many edits pending as the run has seen applied there.
  have hpending : w.entries.values.map Entry.pendingEdits =
      w.entries.keys.map (changesApplied · trace) := by
    unfold Table.values Table.keys
    rw [List.map_map, List.map_map]
    refine List.map_congr_left fun ⟨uri, entry⟩ hmem => ?_
    exact run.pendingEdits_eq empty (Table.find?_of_mem hmem)
  unfold pendingEdits
  rw [hpending]
  exact run.pendingEdits_le w.entries.nodup

/-- None of what a run has to count is more than its counter can hold. -/
structure InWords (attempts : List ParseAttempt) (doings : List Happening) : Prop where
  updates : (attempts.filterMap (·.update?)).length < 2 ^ 64
  failures : attempts.countP (·.failed) < 2 ^ 64
  applied : (doings.map Happening.applied).sum < 2 ^ 64
  dropped : (doings.map Happening.dropped).sum < 2 ^ 64

/-- What a counter holds that started at zero. -/
theorem toNat_zero_add_ofNat {n : Nat} (h : n < 2 ^ 64) : (0 + UInt64.ofNat n).toNat = n := by
  rw [UInt64.zero_add]
  exact UInt64.toNat_ofNat_of_lt' h

/-- What the metrics of an engine say of what has happened in it. -/
structure Counts (metrics : Metrics) (attempts : List ParseAttempt) (doings : List Happening) :
    Prop where
  full : metrics.counters.fullParses.toNat = attempts.countP (·.isFull)
  incremental : metrics.counters.incrementalParses.toNat = attempts.countP (·.isIncremental)
  failures : metrics.counters.parseFailures.toNat = attempts.countP (·.failed)
  timeouts : metrics.counters.parseTimeouts.toNat = attempts.countP (·.timedOut)
  updates : metrics.counters.treeUpdates.toNat = (attempts.filterMap (·.update?)).length
  applied : metrics.counters.editsApplied.toNat = (doings.map Happening.applied).sum
  dropped : metrics.counters.editsDropped.toNat = (doings.map Happening.dropped).sum
  timed : (metrics.durations "parse").length = attempts.length

/-- Counters that start at zero and do not wrap around hold what was charged to them. -/
theorem InWords.counts {attempts : List ParseAttempt} {doings : List Happening} {metrics : Metrics}
    (inWords : InWords attempts doings)
    (account : metrics.account = (Metrics.account {}).charge attempts
      (doings.map Happening.applied).sum (doings.map Happening.dropped).sum) :
    Counts metrics attempts doings := by
  obtain ⟨hupdates, hfailures, happlied, hdropped⟩ := inWords
  obtain ⟨htrees, -, htimeouts⟩ := ParseAttempt.count_outcomes attempts
  -- The other counters cannot get beyond these.
  have hfull : attempts.countP (·.isFull) < 2 ^ 64 := by omega
  have hincremental : attempts.countP (·.isIncremental) < 2 ^ 64 := by omega
  have htimedOut : attempts.countP (·.timedOut) < 2 ^ 64 := by omega
  exact
    { full := (congrArg (·.full.toNat) account).trans (toNat_zero_add_ofNat hfull)
      incremental :=
        (congrArg (·.incremental.toNat) account).trans (toNat_zero_add_ofNat hincremental)
      failures := (congrArg (·.failures.toNat) account).trans (toNat_zero_add_ofNat hfailures)
      timeouts := (congrArg (·.timeouts.toNat) account).trans (toNat_zero_add_ofNat htimedOut)
      updates := (congrArg (·.updates.toNat) account).trans (toNat_zero_add_ofNat hupdates)
      applied := (congrArg (·.applied.toNat) account).trans (toNat_zero_add_ofNat happlied)
      dropped := (congrArg (·.dropped.toNat) account).trans (toNat_zero_add_ofNat hdropped)
      timed := (congrArg (·.timed) account).trans (Nat.zero_add _) }

/-- Every parse is counted once: with a tree, which is an update, or as a failure. -/
theorem Counts.sums {attempts : List ParseAttempt} {doings : List Happening} {metrics : Metrics}
    (counts : Counts metrics attempts doings) :
    metrics.counters.fullParses.toNat + metrics.counters.incrementalParses.toNat =
        metrics.counters.treeUpdates.toNat ∧
      attempts.length = metrics.counters.fullParses.toNat +
        metrics.counters.incrementalParses.toNat + metrics.counters.parseFailures.toNat ∧
      metrics.counters.parseTimeouts.toNat ≤ metrics.counters.parseFailures.toNat := by
  -- From the counters to the attempts, where each attempt is of one kind, and back.
  obtain ⟨hfull, hincremental, hfailures, htimeouts, hupdates, -, -, -⟩ := counts
  obtain ⟨htrees, hlength, htimedOut⟩ := ParseAttempt.count_outcomes attempts
  omega

/-- The metrics account for everything that has happened since the engine was made, if they were not
    reset and no counter has wrapped around:

    - every parse with a tree, from scratch or with an old tree, is counted as such, and its tree is
      counted and sent on the channel, in the order of the parses; nothing else is sent, and besides
      that only receivers come, go and take what they are sent;
    - every parse is timed, and every one without a tree is a failure; timeouts are among the failures;
    - the changes of all reports that found their document open, those of an exchange included, are
      applied or dropped, unless a change that cannot be told in words has stopped the report;
    - all edits that are still pending have been applied. -/
theorem metrics_account_for_everything (parser : Parser) (config : Config) (dataHome : String)
    (libraries : Libraries) (runtime : Bool) {moves : List Move}
    (unreset : .aside .resetMetrics ∉ moves) (other : .aside (.time "parse") ∉ moves)
    (inWords : InWords ((create config dataHome libraries runtime).attemptsAlong parser moves)
      ((create config dataHome libraries runtime).playDoings parser moves)) :
    let start := create config dataHome libraries runtime
    let w := start.play parser moves
    let counters := w.services.metrics.counters
    let attempts := start.attemptsAlong parser moves
    let updates := attempts.filterMap (·.update?)
    let uses := start.usesAlong parser moves
    let doings := start.playDoings parser moves
    counters.fullParses.toNat + counters.incrementalParses.toNat = counters.treeUpdates.toNat ∧
    counters.treeUpdates.toNat = updates.length ∧
    w.services.events = uses.foldl Channel.use start.services.events ∧
    uses.filterMap (·.sent?) = updates ∧
    counters.incrementalParses.toNat = attempts.countP (·.isIncremental) ∧
    attempts.length = counters.fullParses.toNat + counters.incrementalParses.toNat +
      counters.parseFailures.toNat ∧
    (w.services.metrics.durations "parse").length = counters.fullParses.toNat +
      counters.incrementalParses.toNat + counters.parseFailures.toNat ∧
    counters.parseTimeouts.toNat ≤ counters.parseFailures.toNat ∧
    counters.editsApplied.toNat + counters.editsDropped.toNat = (doings.map Happening.told).sum ∧
    (∀ uri version changes, .reported uri version changes .stopped ∈ doings →
      ∃ change ∈ changes, ¬ change.Fits) ∧
    w.pendingEdits ≤ counters.editsApplied.toNat := by
  intro start w counters attempts updates uses doings
  have hcounts : Counts w.services.metrics attempts doings :=
    inWords.counts (start.play_account parser unreset other)
  obtain ⟨htrees, hsum, htimeouts⟩ := hcounts.sums
  -- What the host has done is read off the run that the moves make up.
  obtain ⟨trace, run, htrace⟩ := play_reaches parser start moves
  refine ⟨htrees, hcounts.updates, start.play_events parser moves,
    start.filterMap_sent?_usesAlong parser moves, hcounts.incremental, hsum, hcounts.timed.trans hsum,
    htimeouts, ?_, ?_, ?_⟩
  · rw [hcounts.applied, hcounts.dropped, sum_told]
  · intro uri version changes hstopped
    -- The host's part of the run is what the moves say the host does.
    have hmem : .reported uri version changes .stopped ∈ trace.filter Happening.byHost := by
      rw [htrace]
      exact hstopped
    exact run.stopped (List.mem_filter.1 hmem).1
  · have hpending := run.pendingEdits_le_applied rfl
    rw [htrace] at hpending
    rw [hcounts.applied]
    exact hpending

/-- A document is parsed from scratch, after a reported edit with the help of the old tree, and after
    one more, which makes it too long for the parser, in vain; one report is late. -/
def parsedThrice : List Move := [
  .create "file:///a.js" "javascript" ['a', ';'],
  .openDocument 0,
  .treeNow "file:///a.js",
  .revise 0 (.edits [.insert 0 ['b']]),
  .treeNow "file:///a.js",
  .revise 0 (.edits [.insert 0 ['c'], .insert 0 ['d']]),
  .treeNow "file:///a.js",
  .report "file:///a.js" 1 [⟨0, 0, ['b'], ⟨0, 0⟩, ⟨0, 0⟩⟩]]

/-- The account of three parses and four changes, two of which are pending. -/
theorem metrics_account_for_three_parses :
    let start := create {} "/home" {} false
    let w := start.play (.ofRecordings [] (some 4)) parsedThrice
    let counters := w.services.metrics.counters
    InWords (start.attemptsAlong (.ofRecordings [] (some 4)) parsedThrice)
        (start.playDoings (.ofRecordings [] (some 4)) parsedThrice) ∧
      counters.incrementalParses = 1 ∧ counters.parseTimeouts = 1 ∧ w.pendingEdits = 2 ∧
      (w.services.metrics.durations "parse").length = counters.fullParses.toNat +
        counters.incrementalParses.toNat + counters.parseFailures.toNat ∧
      counters.parseTimeouts.toNat ≤ counters.parseFailures.toNat ∧
      w.pendingEdits ≤ counters.editsApplied.toNat := by
  have inWords : InWords
      ((create {} "/home" {} false).attemptsAlong (.ofRecordings [] (some 4)) parsedThrice)
      ((create {} "/home" {} false).playDoings (.ofRecordings [] (some 4)) parsedThrice) :=
    ⟨by decide +kernel, by decide +kernel, by decide +kernel, by decide +kernel⟩
  -- The claims about numbers follow from the theorem; the numbers themselves are computed.
  obtain ⟨-, -, -, -, -, -, htimed, htimeouts, -, -, hpending⟩ :=
    metrics_account_for_everything (.ofRecordings [] (some 4)) {} "/home" {} false
      (by simp [parsedThrice]) (by simp [parsedThrice]) inWords
  refine ⟨inWords, ?_, ?_, ?_, htimed, htimeouts, hpending⟩
  · decide +kernel
  · decide +kernel
  · decide +kernel

/-- A change that cannot be told in words is reported of a document that has a tree. -/
def reportedBeyondWords : List Move := [
  .create "file:///a.js" "javascript" ['a', ';'],
  .openDocument 0,
  .treeNow "file:///a.js",
  .report "file:///a.js" 1 [⟨2 ^ 64 - 1, 1, ['b'], ⟨0, 1⟩, ⟨0, 1⟩⟩]]

/-- A report that is stopped has found its document open, and its change counts neither as applied nor
    as dropped. -/
theorem stopped_report_uncounted :
    let start := create {} "/home" {} false
    let counters :=
      (start.play (.ofRecordings [] none) reportedBeyondWords).services.metrics.counters
    let doings := start.playDoings (.ofRecordings [] none) reportedBeyondWords
    InWords (start.attemptsAlong (.ofRecordings [] none) reportedBeyondWords) doings ∧
      (doings.map Happening.reportedChanges).sum = 1 ∧
      counters.editsApplied.toNat + counters.editsDropped.toNat = 0 :=
  ⟨⟨by decide +kernel, by decide +kernel, by decide +kernel, by decide +kernel⟩, by decide +kernel,
    by decide +kernel⟩

end Workspace

end LiveTree
