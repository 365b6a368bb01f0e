import LiveTree.Parser.Recorded
import LiveTree.Proofs.Conservation
import LiveTree.Proofs.Settling
import Mathlib.Algebra.GroupWithZero.Nat
import Mathlib.Data.List.SplitBy

/-!
# Edits in quick succession are parsed together

Every edit that is reported sets the timer of its document anew.  So a run of edits with short pauses
in between leads to a single parse, some time after the last of them: the debounce time, or the longest
delay that a task can have if that is shorter.

A document that is typed in is in one of two states.  Either it has `Rested`, with a current tree and a
timer that waits for nothing; or it is `Lagging`, and its timer will fire.  An edit leads to the second
state and a firing back to the first, and `Progress` says what has been counted and published on the way.

If nothing else is under way in the engine, the document is `Idle` or `Waiting` in these states, and the
run of time itself can be followed: pauses and strokes lead from one to the other.

## Key results

- `endings`: the versions that a document has at the ends of runs of edits
- `Undisturbed.revise`, `Lagging.runTask`: what an edit does, and what a firing does
- `Idle.wait`, `Waiting.wait_short`, `Waiting.wait_long`: what pauses do
- `Idle.typed_wait`: at every moment, the document has been parsed once for every run that ended long
  enough ago
-/

namespace List

variable {α : Type} {r : α → α → Bool} {xs : List α} {x : α}

/-- An element that does not go with the last one starts a group of its own. -/
theorem splitBy_concat_of_break (h : ∀ last ∈ xs.getLast?, r last x = false) :
    (xs ++ [x]).splitBy r = xs.splitBy r ++ [[x]] :=
  splitBy_append_cons [] h

/-- An element that goes with the last one joins the last group. -/
theorem splitBy_concat_of_join {before : List (List α)} {group : List α}
    (groups : xs.splitBy r = before ++ [group]) (h : ∀ last ∈ xs.getLast?, r last x = true) :
    (xs ++ [x]).splitBy r = before ++ [group ++ [x]] := by
  -- A list is split as it should be if the groups are chains that break between one another.
  obtain ⟨hflatten, hnil, hchains, hbreaks⟩ := splitBy_eq_iff.1 groups
  have hgroup : group ≠ [] := by
    rintro rfl
    exact hnil (mem_append_right _ mem_cons_self)
  refine splitBy_eq_iff.2 ⟨?_, ?_, ?_, ?_⟩
  · rw [hflatten]
    simp
  · simp only [mem_append, mem_singleton, not_or] at hnil ⊢
    exact ⟨hnil.1, by simp⟩
  · intro chain hchain
    rcases mem_append.1 hchain with hchain | hchain
    · exact hchains chain (mem_append_left _ hchain)
    · obtain rfl := mem_singleton.1 hchain
      refine (hchains group (mem_append_right _ mem_cons_self)).append (.singleton _) ?_
      intro last hlast y hy
      obtain rfl := Option.some.inj hy
      -- The last element of the group is the last of all.
      refine h last ?_
      rw [hflatten, flatten_append, getLast?_append]
      simp only [flatten_cons, flatten_nil, append_nil]
      rw [hlast]
      rfl
  · -- The last group still starts with the element that it started with.
    rw [isChain_append] at hbreaks ⊢
    refine ⟨hbreaks.1, .singleton _, fun earlier hearlier y hy => ?_⟩
    obtain rfl := Option.some.inj hy
    obtain ⟨hne, _, hbreak⟩ := hbreaks.2.2 earlier hearlier group rfl
    refine ⟨hne, by simp, ?_⟩
    rw [head_append_of_ne_nil hgroup]
    exact hbreak

/-- The last group ends with the last element. -/
theorem exists_splitBy_eq (r : α → α → Bool) (h : xs ≠ []) :
    ∃ before group, xs.splitBy r = before ++ [group] ∧ group.getLast? = xs.getLast? := by
  have hgroups : xs.splitBy r ≠ [] := splitBy_ne_nil.2 h
  -- There is a last group, since there is an element.
  have heq := (dropLast_append_getLast hgroups).symm
  refine ⟨_, _, heq, ?_⟩
  obtain ⟨hflatten, hnil, -⟩ := splitBy_eq_iff.1 heq
  generalize (xs.splitBy r).getLast hgroups = group at hflatten hnil ⊢
  have hgroup : group ≠ [] := by
    rintro rfl
    exact hnil (mem_append_right _ mem_cons_self)
  -- All elements are those of the groups before the last one and of the last one.
  conv_rhs => rw [hflatten, flatten_append, getLast?_append]
  simp only [flatten_cons, flatten_nil, append_nil]
  rw [getLast?_eq_some_getLast hgroup]
  rfl

end List

namespace LiveTree

/-- The versions that a document has at the ends of runs of edits, each edit being a version. -/
def endings {α : Type} (version : Int) : List (List α) → List Int
  | [] => []
  | run :: rest => (version + run.length) :: endings (version + run.length) rest

section Endings

variable {α : Type}

/-- Later runs go on from the version that the earlier ones have come to. -/
theorem endings_append (version : Int) (before after : List (List α)) :
    endings version (before ++ after) =
      endings version before ++ endings (version + before.flatten.length) after := by
  -- By induction on the earlier runs, for every version to start from.
  induction before generalizing version with
  | nil => simp [endings]
  | cons run rest ih =>
    simp only [List.cons_append, endings, ih, List.flatten_cons, List.length_append]
    rw [Int.natCast_add, Int.add_assoc]

/-- The last run ends with the last edit. -/
theorem endings_splitBy (r : α → α → Bool) (version : Int) {xs : List α} (h : xs ≠ []) :
    endings version (xs.splitBy r) =
      (endings version (xs.splitBy r)).dropLast ++ [version + xs.length] := by
  obtain ⟨before, last, hgroups, -⟩ := List.exists_splitBy_eq r h
  have hflatten : xs = (xs.splitBy r).flatten := (List.flatten_splitBy _ _).symm
  -- The last run takes the count from where the earlier ones leave it to the number of all edits.
  have hlength : xs.length = before.flatten.length + last.length := by
    conv_lhs => rw [hflatten, hgroups]
    simp
  rw [hgroups, endings_append]
  simp only [endings, List.dropLast_concat, hlength]
  rw [Int.natCast_add, Int.add_assoc]

end Endings

/-- An alteration of a document that is made after a pause.  A pause is made of waits: none of them, and
    nothing gets to run before the alteration. -/
structure Stroke where
  /-- The waits before the alteration, in milliseconds. -/
  pause : List Nat
  /-- What is done to the document after the pause. -/
  alteration : Alteration

namespace Stroke

/-- A pause is long if there is any wait in it, and it is not below a limit. -/
def Long (limit : Nat) (pause : List Nat) : Prop := pause ≠ [] ∧ limit ≤ pause.sum

/-- Whether a pause is long can be tried out. -/
instance (limit : Nat) (pause : List Nat) : Decidable (Long limit pause) :=
  inferInstanceAs (Decidable (_ ∧ _))

/-- The longest runs of strokes without a long pause between two of them. -/
def runs (limit : Nat) (strokes : List Stroke) : List (List Stroke) :=
  strokes.splitBy fun _ next => decide (¬ Long limit next.pause)

/-- How many pauses between two strokes are not long. -/
def shortPauses (limit : Nat) (strokes : List Stroke) : Nat :=
  strokes.tail.countP fun stroke => ¬ Long limit stroke.pause

/-- The time that strokes take. -/
def time (strokes : List Stroke) : Nat := (strokes.map (·.pause.sum)).sum

variable {limit : Nat} {strokes : List Stroke} {stroke : Stroke}

/-- One more stroke takes the time of its pause. -/
theorem time_snoc : time (strokes ++ [stroke]) = time strokes + stroke.pause.sum := by
  simp [time]

/-- A stroke after a long pause starts a run of its own. -/
theorem runs_snoc_of_long (h : Long limit stroke.pause) :
    runs limit (strokes ++ [stroke]) = runs limit strokes ++ [[stroke]] :=
  List.splitBy_concat_of_break fun _ _ => by simpa using h

/-- The last run ends with the last stroke. -/
theorem endings_runs (version : Int) (h : strokes ≠ []) :
    endings version (runs limit strokes) =
      (endings version (runs limit strokes)).dropLast ++ [version + strokes.length] :=
  endings_splitBy _ version h

/-- While a run goes on, the ends of the earlier ones stay what they are. -/
theorem dropLast_endings_of_short (version : Int) (hne : strokes ≠ [])
    (h : ¬ Long limit stroke.pause) :
    (endings version (runs limit (strokes ++ [stroke]))).dropLast =
      (endings version (runs limit strokes)).dropLast := by
  -- The stroke joins the last run, so all others have their ends already.
  obtain ⟨before, last, hruns, -⟩ := List.exists_splitBy_eq _ hne
  have hsnoc : runs limit (strokes ++ [stroke]) = before ++ [last ++ [stroke]] :=
    List.splitBy_concat_of_join hruns fun _ _ => decide_eq_true h
  rw [hsnoc, show runs limit strokes = _ from hruns, endings_append, endings_append]
  simp [endings]

/-- After a long pause all runs have ended that there were. -/
theorem dropLast_endings_of_long (version : Int) (h : Long limit stroke.pause) :
    (endings version (runs limit (strokes ++ [stroke]))).dropLast =
      endings version (runs limit strokes) := by
  rw [runs_snoc_of_long h, endings_append]
  simp [endings]

/-- One more stroke after others adds a short pause, unless its pause is long. -/
theorem shortPauses_snoc (hne : strokes ≠ []) :
    shortPauses limit (strokes ++ [stroke]) =
      shortPauses limit strokes + if Long limit stroke.pause then 0 else 1 := by
  unfold shortPauses
  rw [List.tail_append_of_ne_nil hne, List.countP_append, List.countP_singleton]
  simp

end Stroke

/-- A document that strokes lead to from another, all of them valid and all texts on the way of fewer
    than 2^64 bytes. -/
inductive Document.Retyped (doc : Document) : List Stroke → Document → Prop where
  | nil : Retyped doc [] doc
  | snoc {strokes : List Stroke} {before after : Document} {changes : List Change}
      (retyped : Retyped doc strokes before) (stroke : Stroke)
      (altered : before.alter? stroke.alteration = some (after, changes))
      (small : before.text.SmallAlong changes) : Retyped doc (strokes ++ [stroke]) after

/-- Every stroke is a version. -/
theorem Document.Retyped.version {doc last : Document} {strokes : List Stroke}
    (h : doc.Retyped strokes last) : last.version = doc.version + strokes.length := by
  -- By induction on the strokes; each of them is one version.
  induction h with
  | nil => simp
  | snoc _ _ altered _ ih =>
    rw [(Document.revision_of_alter? altered).version, ih, List.length_append, Int.natCast_add,
      Int.add_assoc]
    rfl

/-- Without strokes the document is the one that it was. -/
theorem Document.Retyped.eq_of_nil {doc last : Document} (h : doc.Retyped [] last) : last = doc := by
  generalize hnil : [] = strokes at h
  cases h with
  | nil => rfl
  | snoc => simp at hnil

/-! ## Setting and firing timers -/

namespace Services

/-- The time from a report to the parse that it leads to, if no other report comes in between. -/
def debounce (s : Services) : Nat := min s.config.debounceMs longestDelay

variable {s : Services} {entry : Entry} {doc : Document}

/-- A timer is set in place of the one it may have. -/
theorem schedule_eq (runtime : s.runtime = true) (uri : String) (delay : Nat) :
    s.schedule uri entry delay =
      ({ s with
          metrics := if entry.timer.handle.isSome then s.metrics.recordDebounceReset else s.metrics
          tasks := s.tasks.filter (fun task => entry.timer.handle ≠ some task.id) ++
            [⟨s.nextTask, s.clock + min delay longestDelay,
              .reparse uri (entry.timer.generation + 2)⟩]
          nextTask := s.nextTask + 1 },
        { entry with timer := ⟨some s.nextTask, entry.timer.generation + 2⟩ }) := by
  unfold schedule cancelTimer
  rw [if_pos runtime]
  -- Only a timer that waits for a task has one to drop, and counts as replaced.
  cases hhandle : entry.timer.handle with
  | none =>
    have htasks : s.tasks.filter (fun task => (none : Option TaskId) ≠ some task.id) = s.tasks :=
      List.filter_eq_self.2 fun _ _ => rfl
    rw [htasks]
    rfl
  | some id =>
    have htasks : s.tasks.filter (fun task => some id ≠ some task.id) =
        s.tasks.filter (·.id ≠ id) := by
      refine List.filter_congr fun task _ => ?_
      rw [decide_eq_decide, Ne, Ne, Option.some.injEq, eq_comm]
    rw [htasks]
    rfl

/-- A report of changes since the kept tree is applied, and sets the timer. -/
theorem report_of_kept (runtime : s.runtime = true) (onEdit : s.config.scheduleOnEdit = true)
    {previous : PreviousTree} (found : entry.previous = some previous) {reached version : Int}
    (kept : entry.previousVersion = some reached) (newer : reached < version)
    {changes : List Change} (fits : ∀ change ∈ changes, change.Fits) (uri : String) :
    ∃ metrics, s.report uri entry version changes =
        ({ s with
            metrics := metrics
            tasks := s.tasks.filter (fun task => entry.timer.handle ≠ some task.id) ++
              [⟨s.nextTask, s.clock + s.debounce, .reparse uri (entry.timer.generation + 2)⟩]
            nextTask := s.nextTask + 1 },
          { (entry.applyChanges changes version).1 with
            timer := ⟨some s.nextTask, entry.timer.generation + 2⟩ },
          some changes.length) ∧
      metrics.counters = { s.metrics.counters with
        editsApplied := s.metrics.counters.editsApplied + UInt64.ofNat changes.length
        debounceResets := s.metrics.counters.debounceResets +
          UInt64.ofNat entry.timer.handle.isSome.toNat } := by
  have happlied := Entry.applyChanges_of_newer found kept (Int.not_le.2 newer) fits
  -- The entry with the changes applied, whose timer is still the old one.
  generalize hedited : (entry.applyChanges changes version).1 = edited
  have htimer : edited.timer = entry.timer := by rw [← hedited, happlied]
  have runtime' : (s.measure (·.recordEditsApplied changes.length)).runtime = true := runtime
  have hschedule := @schedule_eq _ edited runtime' uri s.config.debounceMs
  rw [htimer] at hschedule
  have hboth : entry.applyChanges changes version = (edited, .applied changes.length) := by
    rw [← hedited, happlied]
  refine ⟨if entry.timer.handle.isSome then
      (s.metrics.recordEditsApplied changes.length).recordDebounceReset
    else s.metrics.recordEditsApplied changes.length, ?_, ?_⟩
  · unfold report
    rw [hboth]
    dsimp only
    rw [if_pos (show (s.measure (·.recordEditsApplied changes.length)).config.scheduleOnEdit = true
      from onEdit)]
    rw [show (s.measure (·.recordEditsApplied changes.length)).config.debounceMs =
      s.config.debounceMs from rfl, hschedule]
    rfl
  -- A reset is counted if there was a timer to be reset.
  · cases entry.timer.handle with
    | none =>
      have hzero := UInt64.add_zero s.metrics.counters.debounceResets
      show _ = { s.metrics.counters with
        editsApplied := s.metrics.counters.editsApplied + UInt64.ofNat changes.length
        debounceResets := s.metrics.counters.debounceResets + 0 }
      rw [hzero]
      rfl
    | some id => rfl

/-- A parse with the help of a kept tree commits its result and publishes it. -/
theorem parseEntry_of_kept {parser : Parser} {grammar : Grammar} {previous : PreviousTree}
    {source : ParseTree} (handed : (entry.beginParse doc.version).2 = some previous)
    (parsed : Pool.attempt (parser.paced s.pace) grammar doc.text (some previous)
      s.config.parseTimeoutMs = .ok source) :
    ∃ pool metrics, s.parseEntry parser doc entry grammar =
        ({ s with
            pool := pool
            metrics := metrics
            events := s.events.publish ⟨doc.uri, .ofParse grammar.language doc.version source⟩ },
          (entry.commit grammar.language doc.version doc.text source).1,
          .ok (.ofParse grammar.language doc.version source)) ∧
      metrics.counters = { s.metrics.counters with
        incrementalParses := s.metrics.counters.incrementalParses + 1
        treeUpdates := s.metrics.counters.treeUpdates + 1 } := by
  unfold parseEntry parseText Pool.parse
  dsimp only
  -- The kept tree makes the parse an incremental one.
  rw [handed, parsed]
  exact ⟨_, _, rfl, rfl⟩

/-- A timer that fires for an entry that is not current, and whose kept tree is at the version of the
    document, parses with the help of that tree. -/
theorem fire_of_kept {parser : Parser} {grammar : Grammar} {previous : PreviousTree}
    {source : ParseTree} (outdated : entry.currentTree? doc.version = none)
    (loaded : s.registry.loaded? doc.language = some grammar)
    (handed : (entry.beginParse doc.version).2 = some previous)
    (parsed : Pool.attempt (parser.paced s.pace) grammar doc.text (some previous)
      s.config.parseTimeoutMs = .ok source) :
    ∃ pool metrics, s.fire parser doc entry entry.timer.generation =
        ({ s with
            pool := pool
            metrics := metrics
            events := s.events.publish ⟨doc.uri, .ofParse grammar.language doc.version source⟩ },
          { (entry.commit grammar.language doc.version doc.text source).1 with
            timer := { entry.timer with handle := none } }) ∧
      metrics.counters = { s.metrics.counters with
        incrementalParses := s.metrics.counters.incrementalParses + 1
        scheduledFires := s.metrics.counters.scheduledFires + 1
        treeUpdates := s.metrics.counters.treeUpdates + 1 } := by
  -- The entry once it has taken note that its time has come.
  generalize hclaimed : { entry with timer := { entry.timer with handle := none } } = claimed
  have houtdated : claimed.currentTree? doc.version = none := by rw [← hclaimed]; exact outdated
  have hhanded : (claimed.beginParse doc.version).2 = some previous := by
    rw [← hclaimed]; exact handed
  obtain ⟨pool, metrics, hparse, hcounters⟩ :=
    parseEntry_of_kept (s := s.measure Metrics.recordScheduledFire) hhanded parsed
  refine ⟨pool, metrics, ?_, hcounters⟩
  unfold fire Timer.claim?
  rw [if_pos rfl]
  dsimp only
  -- The document is not current and its grammar is at hand, so the scheduled path parses.
  rw [hclaimed, reparse_of_loaded (s := s.measure Metrics.recordScheduledFire) parser houtdated loaded,
    hparse, ← hclaimed]
  rfl

end Services

namespace Workspace

/-! ## What has been counted and published -/

/-- In some time, the timer of a document has fired and its tree has been committed once for each of
    some versions, every time with the help of the kept tree; and some timers have been replaced. -/
structure Progress (start later : Workspace) (uri : String) (time : Nat) (versions : List Int)
    (resets : Nat) : Prop where
  clock : later.services.clock = start.services.clock + time
  config : later.services.config = start.services.config
  fullParses : later.services.metrics.counters.fullParses =
    start.services.metrics.counters.fullParses
  incrementalParses : later.services.metrics.counters.incrementalParses =
    start.services.metrics.counters.incrementalParses + UInt64.ofNat versions.length
  scheduledFires : later.services.metrics.counters.scheduledFires =
    start.services.metrics.counters.scheduledFires + UInt64.ofNat versions.length
  treeUpdates : later.services.metrics.counters.treeUpdates =
    start.services.metrics.counters.treeUpdates + UInt64.ofNat versions.length
  debounceResets : later.services.metrics.counters.debounceResets =
    start.services.metrics.counters.debounceResets + UInt64.ofNat resets
  /-- The subscribers have been told of these versions, in this order. -/
  updates : ∃ updates : List Update,
    later.services.events = updates.foldl Channel.publish start.services.events ∧
      updates.map (fun update => (update.uri, update.tree.version)) = versions.map (uri, ·)
  /-- The last of these versions is served. -/
  committed : (later.lastTree? uri).map (·.version) =
    versions.getLast?.or ((start.lastTree? uri).map (·.version))

namespace Progress

variable {start w later : Workspace} {uri : String} {time after : Nat} {versions more : List Int}
  {resets others : Nat}

/-- What came of one time and then of another has come of both. -/
theorem trans (first : Progress start w uri time versions resets)
    (second : Progress w later uri after more others) :
    Progress start later uri (time + after) (versions ++ more) (resets + others) := by
  -- Versions in two lots count as one lot, also in a word of 64 bits.
  have hcount (count : UInt64) : count + UInt64.ofNat (versions ++ more).length =
      count + UInt64.ofNat versions.length + UInt64.ofNat more.length := by
    rw [List.length_append, UInt64.ofNat_add, UInt64.add_assoc]
  refine ⟨?_, ?_, ?_, ?_, ?_, ?_, ?_, ?_, ?_⟩
  · rw [second.clock, first.clock, Nat.add_assoc]
  · rw [second.config, first.config]
  · rw [second.fullParses, first.fullParses]
  · rw [second.incrementalParses, first.incrementalParses, hcount]
  · rw [second.scheduledFires, first.scheduledFires, hcount]
  · rw [second.treeUpdates, first.treeUpdates, hcount]
  · rw [second.debounceResets, first.debounceResets, UInt64.ofNat_add, UInt64.add_assoc]
  · obtain ⟨early, hearly, hversions⟩ := first.updates
    obtain ⟨late, hlate, hmore⟩ := second.updates
    refine ⟨early ++ late, ?_, ?_⟩
    · rw [hlate, hearly, List.foldl_append]
    · rw [List.map_append, List.map_append, hversions, hmore]
  · rw [second.committed, first.committed, List.getLast?_append, Option.or_assoc]

/-- Time passes, and some attempts at grammars end. -/
theorem elapse (w : Workspace) (uri : String) (registry : Registry) {clock : Nat}
    (h : clock = w.services.clock + time) :
    Progress w ((w.setRegistry registry).setClock clock) uri time [] 0 where
  clock := h
  config := rfl
  fullParses := rfl
  incrementalParses := (UInt64.add_zero _).symm
  scheduledFires := (UInt64.add_zero _).symm
  treeUpdates := (UInt64.add_zero _).symm
  debounceResets := (UInt64.add_zero _).symm
  updates := ⟨[], rfl, rfl⟩
  committed := rfl

/-- Nothing has come of no time. -/
theorem refl (w : Workspace) (uri : String) : Progress w w uri 0 [] 0 :=
  elapse w uri w.services.registry rfl

/-- A timer fires, and a tree is committed. -/
theorem fired (tree : SyntaxTree) (clock : later.services.clock = w.services.clock)
    (config : later.services.config = w.services.config)
    (counters : later.services.metrics.counters = { w.services.metrics.counters with
      incrementalParses := w.services.metrics.counters.incrementalParses + 1
      scheduledFires := w.services.metrics.counters.scheduledFires + 1
      treeUpdates := w.services.metrics.counters.treeUpdates + 1 })
    (events : later.services.events = w.services.events.publish ⟨uri, tree⟩)
    (committed : later.lastTree? uri = some tree) : Progress w later uri 0 [tree.version] 0 where
  clock := clock
  config := config
  fullParses := by rw [counters]
  incrementalParses := by rw [counters]; rfl
  scheduledFires := by rw [counters]; rfl
  treeUpdates := by rw [counters]; rfl
  debounceResets := by rw [counters]; exact (UInt64.add_zero _).symm
  updates := ⟨[⟨uri, tree⟩], events, rfl⟩
  committed := by rw [committed]; rfl

/-- Changes are applied, and a timer is set in place of as many others. -/
theorem revised (clock : later.services.clock = w.services.clock)
    (config : later.services.config = w.services.config) {count : UInt64}
    (counters : later.services.metrics.counters = { w.services.metrics.counters with
      editsApplied := w.services.metrics.counters.editsApplied + count
      debounceResets := w.services.metrics.counters.debounceResets + UInt64.ofNat resets })
    (events : later.services.events = w.services.events)
    (committed : later.lastTree? uri = w.lastTree? uri) : Progress w later uri 0 [] resets where
  clock := clock
  config := config
  fullParses := by rw [counters]
  incrementalParses := by rw [counters]; exact (UInt64.add_zero _).symm
  scheduledFires := by rw [counters]; exact (UInt64.add_zero _).symm
  treeUpdates := by rw [counters]; exact (UInt64.add_zero _).symm
  debounceResets := by rw [counters]
  updates := ⟨[], events, rfl⟩
  committed := by rw [committed]; rfl

/-- The debounce time stays, as the settings do. -/
theorem debounce (h : Progress start later uri time versions resets) :
    later.services.debounce = start.services.debounce := by
  unfold Services.debounce
  rw [h.config]

end Progress

/-! ## States of a document -/

/-- A document is open under its uri, with its grammar at hand and a kept tree at its version, in an
    engine whose edits schedule a reparse. -/
structure Undisturbed (w : Workspace) (uri : String) (entry : Entry) (doc : Document) : Prop where
  found : w.open? uri = some (entry, doc)
  key : doc.uri = uri
  runtime : w.services.runtime = true
  /-- Reports set the timer. -/
  onEdit : w.services.config.scheduleOnEdit = true
  loaded : ∃ grammar, w.services.registry.loaded? doc.language = some grammar
  coherent : entry.Coherent doc
  /-- The kept tree is at the version of the document. -/
  kept : entry.previousVersion = some doc.version

/-- The tree of the document is current, and its timer waits for nothing. -/
structure Rested (w : Workspace) (uri : String) (entry : Entry) (doc : Document) : Prop
    extends w.Undisturbed uri entry doc where
  /-- The timer waits for nothing. -/
  unarmed : entry.timer.handle = none
  current : (entry.currentTree? doc.version).isSome = true

/-- The tree of the document is outdated. -/
structure Lagging (w : Workspace) (uri : String) (entry : Entry) (doc : Document) : Prop
    extends w.Undisturbed uri entry doc where
  /-- Changes have been applied to the kept tree since the last commit. -/
  stale : entry.state = .stale

/-- The tree of the document is current, no task is left to run, and nobody waits in the background. -/
structure Idle (w : Workspace) (uri : String) (entry : Entry) (doc : Document) : Prop
    extends w.Rested uri entry doc where
  tasks : w.services.tasks = []
  waiters : w.services.waiters = []

/-- The tree of the document is outdated, the only task will wake its timer at a deadline, and nobody
    waits in the background. -/
structure Waiting (w : Workspace) (uri : String) (entry : Entry) (doc : Document) (deadline : Nat) :
    Prop extends w.Lagging uri entry doc where
  /-- The one task that is left will wake the timer. -/
  armed : ∃ id, entry.timer.handle = some id ∧
    w.services.tasks = [⟨id, deadline, .reparse uri entry.timer.generation⟩]
  /-- The deadline is not past. -/
  coming : w.services.clock ≤ deadline
  waiters : w.services.waiters = []

/-- A parse of the document would succeed now. -/
def Parses (w : Workspace) (parser : Parser) (uri : String) : Prop :=
  ∀ entry doc grammar, w.open? uri = some (entry, doc) →
    w.services.registry.loaded? doc.language = some grammar →
    ∃ source, Pool.attempt (parser.paced w.services.pace) grammar doc.text
      (entry.previousFor? doc.version) w.services.config.parseTimeoutMs = .ok source

variable {parser : Parser} {w : Workspace} {uri : String} {entry : Entry} {doc : Document}
  {deadline : Nat}

/-- What a parse of the document would come to now can be tried out. -/
theorem forall_attempt_iff (p : Except ParseFailure ParseTree → Prop) [DecidablePred p] :
    (∀ entry doc grammar, w.open? uri = some (entry, doc) →
      w.services.registry.loaded? doc.language = some grammar →
      p (Pool.attempt (parser.paced w.services.pace) grammar doc.text
        (entry.previousFor? doc.version) w.services.config.parseTimeoutMs)) ↔
    ((w.open? uri).all fun (entry, doc) =>
      (w.services.registry.loaded? doc.language).all fun grammar =>
        decide (p (Pool.attempt (parser.paced w.services.pace) grammar doc.text
          (entry.previousFor? doc.version) w.services.config.parseTimeoutMs))) = true := by
  simp only [Option.all_eq_true, Prod.forall, decide_eq_true_eq]
  exact ⟨fun h entry doc found grammar => h entry doc grammar found,
    fun h entry doc grammar found => h entry doc found grammar⟩

/-- Whether a computation has come to a value can be tried out. -/
instance {ε α : Type} : (outcome : Except ε α) → Decidable (∃ value, outcome = .ok value)
  | .ok value => .isTrue ⟨value, rfl⟩
  | .error _ => .isFalse nofun

/-- Whether it has come to an error can be tried out. -/
instance {ε α : Type} : (outcome : Except ε α) → Decidable (∃ error, outcome = .error error)
  | .ok _ => .isFalse nofun
  | .error error => .isTrue ⟨error, rfl⟩

/-- Whether a parse of the document would succeed now can be tried out. -/
instance : Decidable (w.Parses parser uri) :=
  decidable_of_iff _ (forall_attempt_iff fun outcome => ∃ source, outcome = .ok source).symm

/-- The last tree of an open uri is the committed one of its entry. -/
theorem lastTree?_eq (found : w.entries.find? uri = some entry) :
    w.lastTree? uri = entry.committed := by
  unfold lastTree?
  rw [found]
  rfl

/-- No move changes the debounce time. -/
theorem move_debounce (w : Workspace) (parser : Parser) (move : Move) :
    (w.move parser move).services.debounce = w.services.debounce := by
  obtain ⟨trace, run, -⟩ := w.move_reaches parser move
  unfold Services.debounce
  rw [run.leads.config]

/-- Nor does any sequence of moves. -/
theorem play_debounce (w : Workspace) (parser : Parser) (moves : List Move) :
    (w.play parser moves).services.debounce = w.services.debounce := by
  obtain ⟨trace, run, -⟩ := play_reaches parser w moves
  unfold Services.debounce
  rw [run.leads.config]

/-- A document whose tree is current has rested if its timer waits for nothing. -/
theorem Minded.rested (minded : w.Minded) (found : w.open? uri = some (entry, doc))
    (current : (entry.currentTree? doc.version).isSome = true)
    (loaded : ∃ grammar, w.services.registry.loaded? doc.language = some grammar)
    (unarmed : entry.timer.handle = none) : w.Rested uri entry doc := by
  have hcoherent := minded.coherent.coherent found
  -- The state is up to date, so the kept tree is at the version of the committed one.
  obtain ⟨tree, htree⟩ := Option.isSome_iff_exists.1 current
  obtain ⟨hcommitted, hstate, hversion⟩ := currentTree?_eq_some htree
  have hkept := (hcoherent.upToDate hstate).1
  rw [hcommitted, Option.map_some, hversion] at hkept
  exact
    { found := found, key := minded.coherent.uri_eq found, runtime := minded.runtime
      onEdit := minded.onEdit, loaded := loaded, coherent := hcoherent, kept := hkept
      unarmed := unarmed, current := current }

/-- It is idle if there is no task at all, and nobody waits. -/
theorem Minded.idle (minded : w.Minded) (found : w.open? uri = some (entry, doc))
    (current : (entry.currentTree? doc.version).isSome = true)
    (loaded : ∃ grammar, w.services.registry.loaded? doc.language = some grammar)
    (tasks : w.services.tasks = []) (waiters : w.services.waiters = []) :
    w.Idle uri entry doc := by
  -- A timer that waits has its task in the queue, which is empty.
  have hunarmed : entry.timer.handle = none := by
    refine Option.eq_none_iff_forall_ne_some.2 fun id hid => ?_
    obtain ⟨deadline, hqueued⟩ := minded.attended.armed (open?_eq_some.1 found).1 id hid
    rw [tasks] at hqueued
    exact nomatch hqueued
  exact { minded.rested found current loaded hunarmed with tasks := tasks, waiters := waiters }

/-- A document at whose version a tree is kept has a kept tree. -/
theorem Undisturbed.exists_previous (h : w.Undisturbed uri entry doc) :
    ∃ previous, entry.previous = some previous := by
  refine Option.ne_none_iff_exists'.1 fun hnone => ?_
  exact nomatch (h.coherent.previous_iff.1 hnone).symm.trans h.kept

/-- Of a document that waits, the timer is pending; of one that is idle it is not. -/
theorem Waiting.pending (h : w.Waiting uri entry doc deadline) : w.hasPendingReparse uri = true := by
  obtain ⟨id, hhandle, htasks⟩ := h.armed
  unfold hasPendingReparse Services.isPending
  rw [(open?_eq_some.1 h.found).1, Option.any_some, hhandle, htasks]
  simp

/-- Nothing is pending where the timer waits for nothing. -/
theorem Idle.not_pending (h : w.Idle uri entry doc) : ¬ w.hasPendingReparse uri = true := by
  unfold hasPendingReparse Services.isPending
  rw [(open?_eq_some.1 h.found).1, Option.any_some, h.unarmed]
  simp

/-! ## Time in the two states -/

section Elapse

variable {registry : Registry} (leads : w.services.registry.Leads registry) (time : Nat)
include leads

/-- Time and grammars that come do not disturb a document. -/
theorem Undisturbed.elapse (h : w.Undisturbed uri entry doc) :
    Undisturbed ((w.setRegistry registry).setClock time) uri entry doc := by
  obtain ⟨grammar, hloaded⟩ := h.loaded
  exact { h with loaded := ⟨grammar, leads.loaded doc.language grammar hloaded⟩ }

/-- An idle document stays so while time passes. -/
theorem Idle.elapse (h : w.Idle uri entry doc) :
    Idle ((w.setRegistry registry).setClock time) uri entry doc :=
  { h.toUndisturbed.elapse leads time with
    unarmed := h.unarmed, current := h.current, tasks := h.tasks, waiters := h.waiters }

/-- A waiting document stays so while time passes, up to its deadline. -/
theorem Waiting.elapse (h : w.Waiting uri entry doc deadline) (before : time ≤ deadline) :
    Waiting ((w.setRegistry registry).setClock time) uri entry doc deadline :=
  { h.toUndisturbed.elapse leads time with
    stale := h.stale, armed := h.armed, coming := before, waiters := h.waiters }

/-- A parse that would succeed now will succeed later. -/
theorem Undisturbed.parses_elapse (h : w.Undisturbed uri entry doc) (parses : w.Parses parser uri) :
    Parses ((w.setRegistry registry).setClock time) parser uri := by
  intro same its grammar hfound hloaded
  obtain ⟨rfl, rfl⟩ := Prod.mk.inj (Option.some.inj (h.found.symm.trans hfound))
  -- The grammar is still in its slot, so the parse is the same one.
  obtain ⟨earlier, hearlier⟩ := h.loaded
  obtain rfl := Option.some.inj ((leads.loaded doc.language earlier hearlier).symm.trans hloaded)
  exact parses entry doc earlier h.found hearlier

end Elapse

/-- Nothing happens to an idle document. -/
theorem Idle.advance (h : w.Idle uri entry doc) (parser : Parser) (ms : Nat) :
    (w.advance parser ms).Idle uri entry doc ∧ Progress w (w.advance parser ms) uri ms [] 0 := by
  -- Nothing is due and nobody waits, so time passes calmly.
  have hcalm : w.Calm := by
    refine ⟨?_, h.waiters⟩
    unfold dueTask?
    rw [h.tasks]
    rfl
  have hnever : ∀ deadline, w.nextDeadline? = some deadline → w.services.clock + ms < deadline := by
    intro deadline hdeadline
    unfold nextDeadline? at hdeadline
    rw [h.tasks] at hdeadline
    exact nomatch hdeadline
  obtain ⟨registry, heq, hleads⟩ := advance_of_calm parser hcalm hnever
  rw [heq]
  exact ⟨h.elapse hleads _, .elapse w uri registry rfl⟩

/-- Before its deadline, a document that waits lets time pass calmly. -/
theorem Waiting.advance_before (h : w.Waiting uri entry doc deadline) (parser : Parser) {ms : Nat}
    (before : w.services.clock + ms < deadline) :
    ∃ registry, w.services.registry.Leads registry ∧
      w.advance parser ms = (w.setRegistry registry).setClock (w.services.clock + ms) := by
  obtain ⟨id, hhandle, htasks⟩ := h.armed
  -- The only task is not due yet.
  have hcalm : w.Calm := by
    refine ⟨(dueTask?_of_single htasks).trans (if_neg ?_), h.waiters⟩
    dsimp only
    omega
  have hnext : ∀ next, w.nextDeadline? = some next → w.services.clock + ms < next := by
    intro next hnext
    rw [nextDeadline?_of_single htasks] at hnext
    obtain rfl := Option.some.inj hnext
    exact before
  obtain ⟨registry, heq, hleads⟩ := advance_of_calm parser hcalm hnext
  exact ⟨registry, hleads, heq⟩

/-- The task that the timer waits for parses an outdated document with the help of the kept tree, after
    which the document has rested. -/
theorem Lagging.runTask (h : w.Lagging uri entry doc) {task : Task} {generation : Nat}
    (hwork : task.work = .reparse uri generation) (htimer : entry.timer = ⟨some task.id, generation⟩)
    (parses : w.Parses parser uri) :
    ∃ next, (w.runTask parser task).Rested uri next doc ∧ next.document = entry.document ∧
      (w.runTask parser task).services.tasks = (w.services.abort task.id).tasks ∧
      (w.runTask parser task).services.waiters = w.services.waiters ∧
      Progress w (w.runTask parser task) uri 0 [doc.version] 0 := by
  obtain rfl := h.key
  obtain ⟨-, hdoc⟩ := open?_eq_some.1 h.found
  obtain ⟨grammar, hloaded⟩ := h.loaded
  obtain ⟨source, hsource⟩ := parses entry doc grammar h.found hloaded
  -- The kept tree is at the version of the document, so it is handed to the parser.
  have hhanded : entry.previousFor? doc.version = entry.previous := if_pos h.kept
  obtain ⟨previous, hprevious⟩ := h.exists_previous
  rw [hhanded, hprevious] at hsource
  have houtdated : entry.currentTree? doc.version = none := by
    unfold Entry.currentTree?
    rw [h.stale]
    cases entry.committed <;> rfl
  -- The timer fires in its own generation, and its parse is helped by the kept tree.
  obtain ⟨pool, metrics, hfire, hcounters⟩ := Services.fire_of_kept
    (s := w.services.abort task.id) houtdated hloaded (hhanded.trans hprevious) hsource
  have hrun := runTask_of_reparse h.found hwork htimer parser
  rw [hfire] at hrun
  rw [hrun]
  have hfound := Table.find?_insert_self w.entries doc.uri
    { (entry.commit grammar.language doc.version doc.text source).1 with
      timer := { entry.timer with handle := none } }
  refine ⟨{ (entry.commit grammar.language doc.version doc.text source).1 with
      timer := { entry.timer with handle := none } }, ?_, rfl, rfl, rfl, ?_⟩
  -- The committed tree is now current, and the timer waits for nothing.
  · exact
      { found := open?_eq_some.2 ⟨hfound, hdoc⟩, key := h.key, runtime := h.runtime
        onEdit := h.onEdit, loaded := ⟨grammar, hloaded⟩
        coherent := (Entry.Coherent.commit entry doc grammar.language source).of_untimed rfl
        kept := rfl, unarmed := rfl
        current := by simp [Entry.currentTree?, Entry.commit, SyntaxTree.ofParse] }
  · exact .fired (.ofParse grammar.language doc.version source) rfl rfl hcounters rfl
      (Eq.trans (lastTree?_eq hfound) rfl)

/-- If it was the only task, the document is idle then. -/
theorem Waiting.runTask (h : w.Waiting uri entry doc deadline) {id : TaskId}
    (tasks : w.services.tasks = [⟨id, deadline, .reparse uri entry.timer.generation⟩])
    (handle : entry.timer.handle = some id) (parses : w.Parses parser uri) :
    ∃ next,
      (w.runTask parser ⟨id, deadline, .reparse uri entry.timer.generation⟩).Idle uri next doc ∧
      next.document = entry.document ∧
      Progress w (w.runTask parser ⟨id, deadline, .reparse uri entry.timer.generation⟩) uri 0
        [doc.version] 0 := by
  have htimer : entry.timer = ⟨some id, entry.timer.generation⟩ := by rw [← handle]
  have hwork : (⟨id, deadline, .reparse uri entry.timer.generation⟩ : Task).work =
      .reparse uri entry.timer.generation := rfl
  obtain ⟨next, hrested, hdocument, htasks, hwaiters, hprogress⟩ :=
    h.toLagging.runTask hwork htimer parses
  -- The task was the only one, and it is gone.
  refine ⟨next, { hrested with tasks := ?_, waiters := hwaiters.trans h.waiters }, hdocument,
    hprogress⟩
  rw [htasks]
  unfold Services.abort
  rw [tasks]
  simp

/-- Through its deadline, a document that waits is parsed once. -/
theorem Waiting.advance_through (h : w.Waiting uri entry doc deadline)
    (parses : w.Parses parser uri) {ms : Nat} (past : deadline ≤ w.services.clock + ms) :
    ∃ next, (w.advance parser ms).Idle uri next doc ∧ next.document = entry.document ∧
      Progress w (w.advance parser ms) uri ms [doc.version] 0 := by
  obtain ⟨id, hhandle, htasks⟩ := h.armed
  -- Whatever grammars come before the deadline, the task parses the document at it.
  have hrun (registry : Registry) (leads : w.services.registry.Leads registry) :=
    (h.elapse leads deadline (Nat.le_refl _)).runTask htasks hhandle
      (h.parses_elapse leads deadline parses)
  have hdry (registry : Registry) (leads : w.services.registry.Leads registry) :
      RunsDry parser ((w.setRegistry registry).setClock deadline)
        ⟨id, deadline, .reparse uri entry.timer.generation⟩ := by
    obtain ⟨next, hidle, -⟩ := hrun registry leads
    exact ⟨hidle.tasks, hidle.waiters⟩
  obtain ⟨before, after, hbefore, hafter, heq⟩ :=
    advance_of_task htasks h.waiters h.coming past hdry
  obtain ⟨next, hidle, hdocument, hprogress⟩ := hrun before hbefore
  rw [heq]
  generalize Workspace.runTask _ parser _ = ran at hidle hafter hprogress ⊢
  refine ⟨next, hidle.elapse hafter _, hdocument, ?_⟩
  -- The time up to the deadline, the parse, and the rest of the time.
  have hcoming := h.coming
  have huntil : Progress w ((w.setRegistry before).setClock deadline) uri
      (deadline - w.services.clock) [] 0 := .elapse w uri before (by omega)
  have hparsed := huntil.trans hprogress
  have hclock : w.services.clock + ms =
      ran.services.clock + (w.services.clock + ms - deadline) := by
    rw [hparsed.clock]
    omega
  have hall := hparsed.trans (.elapse ran uri after hclock)
  have htime : deadline - w.services.clock + 0 + (w.services.clock + ms - deadline) = ms := by omega
  rw [htime] at hall
  exact hall

/-! ## Pauses -/

/-- Lets time pass, one wait after the other. -/
def wait (w : Workspace) (parser : Parser) (pause : List Nat) : Workspace :=
  pause.foldl (fun w ms => w.advance parser ms) w

/-- A pause leaves an idle document idle. By induction on its waits. -/
theorem Idle.wait (h : w.Idle uri entry doc) (parser : Parser) (pause : List Nat) :
    (w.wait parser pause).Idle uri entry doc ∧
      Progress w (w.wait parser pause) uri pause.sum [] 0 := by
  induction pause generalizing w with
  | nil => exact ⟨h, .refl w uri⟩
  | cons ms rest ih =>
    obtain ⟨hidle, hfirst⟩ := h.advance parser ms
    obtain ⟨hlater, hrest⟩ := ih hidle
    rw [List.sum_cons]
    exact ⟨hlater, hfirst.trans hrest⟩

/-- In a pause that is not long, nothing happens to a document that waits. -/
theorem Waiting.wait_short (h : w.Waiting uri entry doc deadline) (parser : Parser) {limit : Nat}
    (due : w.services.clock + limit = deadline) {pause : List Nat}
    (short : ¬ Stroke.Long limit pause) :
    (w.wait parser pause).Waiting uri entry doc deadline ∧
      Progress w (w.wait parser pause) uri pause.sum [] 0 := by
  induction pause generalizing w limit with
  | nil => exact ⟨h, .refl w uri⟩
  | cons ms rest ih =>
    have hbelow : ms + rest.sum < limit := by
      rw [← List.sum_cons]
      exact Nat.not_le.1 fun hle => short ⟨List.cons_ne_nil _ _, hle⟩
    -- The first wait ends before the deadline, and so do all others together.
    have hbefore : w.services.clock + ms < deadline := by omega
    obtain ⟨registry, hleads, heq⟩ := h.advance_before parser hbefore
    have hwaiting := h.elapse hleads _ (Nat.le_of_lt hbefore)
    have hfirst : Progress w _ uri ms [] 0 := .elapse w uri registry rfl
    rw [← heq] at hwaiting hfirst
    have hdue : (w.advance parser ms).services.clock + (limit - ms) = deadline := by
      rw [hfirst.clock]
      omega
    have hshort : ¬ Stroke.Long (limit - ms) rest := by
      rintro ⟨-, hle⟩
      omega
    obtain ⟨hlater, hrest⟩ := ih hwaiting hdue hshort
    rw [List.sum_cons]
    exact ⟨hlater, hfirst.trans hrest⟩

/-- In a long pause, a document that waits is parsed once. -/
theorem Waiting.wait_long (h : w.Waiting uri entry doc deadline) (parses : w.Parses parser uri)
    {limit : Nat} (due : w.services.clock + limit = deadline) {pause : List Nat}
    (long : Stroke.Long limit pause) :
    ∃ next, (w.wait parser pause).Idle uri next doc ∧ next.document = entry.document ∧
      Progress w (w.wait parser pause) uri pause.sum [doc.version] 0 := by
  -- By induction on the waits: the deadline comes in the first one or in a later one.
  obtain ⟨hne, hpast⟩ := long
  induction pause generalizing w limit with
  | nil => exact absurd rfl hne
  | cons ms rest ih =>
    rw [List.sum_cons] at hpast ⊢
    rcases Nat.lt_or_ge (w.services.clock + ms) deadline with hbefore | hthrough
    · -- The deadline comes in one of the other waits, so there is one.
      have hrest : rest ≠ [] := by
        rintro rfl
        rw [List.sum_nil] at hpast
        omega
      obtain ⟨registry, hleads, heq⟩ := h.advance_before parser hbefore
      have hwaiting := h.elapse hleads _ (Nat.le_of_lt hbefore)
      have hparses := h.parses_elapse hleads (w.services.clock + ms) parses
      have hfirst : Progress w _ uri ms [] 0 := .elapse w uri registry rfl
      rw [← heq] at hwaiting hparses hfirst
      have hdue : (w.advance parser ms).services.clock + (limit - ms) = deadline := by
        rw [hfirst.clock]
        omega
      obtain ⟨next, hidle, hdocument, hlater⟩ := ih hwaiting hparses hdue hrest (by omega)
      exact ⟨next, hidle, hdocument, hfirst.trans hlater⟩
    -- The deadline comes in the first wait, and the others find the document idle.
    · obtain ⟨next, hidle, hdocument, hfirst⟩ := h.advance_through parses hthrough
      obtain ⟨hlater, hrest⟩ := hidle.wait parser rest
      exact ⟨next, hlater, hdocument, hfirst.trans hrest⟩

/-! ## Strokes -/

/-- A report of an alteration sets the timer of its document, in place of the one that may wait. -/
theorem Undisturbed.revise (h : w.Undisturbed uri entry doc) {alteration : Alteration}
    {next : Document} {changes : List Change}
    (altered : doc.alter? alteration = some (next, changes))
    (small : doc.text.SmallAlong changes) :
    ∃ later, (w.revise entry.document alteration).Lagging uri later next ∧
      later.document = entry.document ∧ later.timer.handle = some w.services.nextTask ∧
      (w.revise entry.document alteration).services.tasks =
        w.services.tasks.filter (fun task => entry.timer.handle ≠ some task.id) ++
          [⟨w.services.nextTask, w.services.clock + w.services.debounce,
            .reparse uri later.timer.generation⟩] ∧
      (w.revise entry.document alteration).services.waiters = w.services.waiters ∧
      Progress w (w.revise entry.document alteration) uri 0 [] entry.timer.handle.isSome.toNat := by
  obtain rfl := h.key
  obtain ⟨hentry, hdoc⟩ := open?_eq_some.1 h.found
  have hrevision := Document.revision_of_alter? altered
  have hversion := hrevision.version
  obtain ⟨previous, hprevious⟩ := h.exists_previous
  -- The kept tree is at the version before the edit, so the report is applied to it.
  obtain ⟨metrics, hreport, hcounters⟩ := Services.report_of_kept h.runtime h.onEdit hprevious
    h.kept (show doc.version < next.version by omega) (hrevision.fits small) doc.uri
  have hset : (w.documents.set entry.document next)[entry.document]? = some next :=
    List.getElem?_set_self (List.getElem?_eq_some_iff.1 hdoc).1
  have hopen : open? { w with documents := w.documents.set entry.document next } doc.uri =
      some (entry, next) := open?_eq_some.2 ⟨hentry, hset⟩
  have happlied := Entry.applyChanges_of_newer hprevious h.kept
    (show ¬ next.version ≤ doc.version by omega) (hrevision.fits small)
  unfold Workspace.revise Workspace.report onEntry
  rw [hdoc, Option.bind_some, altered]
  dsimp only
  rw [hrevision.uri, hopen]
  dsimp only
  rw [hrevision.uri, hreport]
  -- The entry with the changes applied and the timer set.
  generalize hlater : { (entry.applyChanges changes next.version).1 with
    timer := ⟨some w.services.nextTask, entry.timer.generation + 2⟩ } = later
  have hfound := Table.find?_insert_self w.entries doc.uri later
  have hcoherent : later.Coherent next := by
    rw [← hlater]
    exact ((h.coherent.revised hrevision).reported changes next.version).of_untimed rfl
  rw [happlied] at hlater
  have hdocument : later.document = entry.document := by rw [← hlater]
  have hcommitted : later.committed = entry.committed := by rw [← hlater]
  refine ⟨later, ?_, hdocument, by rw [← hlater], by rw [← hlater]; rfl, rfl, ?_⟩
  · exact
      { found := open?_eq_some.2 ⟨hfound, by rw [hdocument]; exact hset⟩, key := hrevision.uri
        runtime := h.runtime, onEdit := h.onEdit
        loaded := by rw [hrevision.language]; exact h.loaded
        coherent := hcoherent, kept := by rw [← hlater], stale := by rw [← hlater] }
  · refine .revised rfl rfl hcounters rfl ?_
    rw [lastTree?_eq hentry, ← hcommitted]
    exact lastTree?_eq hfound

/-- If there is no other task, the document waits for the timer then. -/
theorem Undisturbed.revise_alone (h : w.Undisturbed uri entry doc)
    (alone : ∀ task ∈ w.services.tasks, entry.timer.handle = some task.id)
    (waiters : w.services.waiters = []) {alteration : Alteration} {next : Document}
    {changes : List Change} (altered : doc.alter? alteration = some (next, changes))
    (small : doc.text.SmallAlong changes) :
    ∃ later, (w.revise entry.document alteration).Waiting uri later next
        (w.services.clock + w.services.debounce) ∧
      later.document = entry.document ∧
      Progress w (w.revise entry.document alteration) uri 0 [] entry.timer.handle.isSome.toNat := by
  obtain ⟨later, hlagging, hdocument, hhandle, htasks, hwaiters, hprogress⟩ :=
    h.revise altered small
  have hnone : w.services.tasks.filter (fun task => entry.timer.handle ≠ some task.id) = [] :=
    -- The only task is the one that the edit replaces.
    List.filter_eq_nil_iff.2 fun task htask => by simp [alone task htask]
  rw [hnone, List.nil_append] at htasks
  refine ⟨later, ?_, hdocument, hprogress⟩
  exact
    { hlagging with
      armed := ⟨_, hhandle, htasks⟩
      coming := by rw [hprogress.clock]; omega
      waiters := hwaiters.trans waiters }

/-! ## Typing -/

/-- Makes strokes in a document, each reported when it is made. -/
def typed (w : Workspace) (parser : Parser) (id : DocumentId) (strokes : List Stroke) : Workspace :=
  strokes.foldl (fun w stroke => (w.wait parser stroke.pause).revise id stroke.alteration) w

/-- The last stroke is made in the workspace that the others lead to. -/
theorem typed_snoc (w : Workspace) (parser : Parser) (id : DocumentId) (strokes : List Stroke)
    (stroke : Stroke) :
    w.typed parser id (strokes ++ [stroke]) =
      ((w.typed parser id strokes).wait parser stroke.pause).revise id stroke.alteration := by
  unfold typed
  rw [List.foldl_append]
  rfl

/-- A stroke at the end of a progress: the document waits for the end of the debounce time. -/
theorem Progress.revise {start : Workspace} {time resets : Nat} {versions : List Int}
    (progress : Progress start w uri time versions resets) (h : w.Undisturbed uri entry doc)
    (alone : ∀ task ∈ w.services.tasks, entry.timer.handle = some task.id)
    (waiters : w.services.waiters = []) {alteration : Alteration} {next : Document} {changes : List Change}
    (altered : doc.alter? alteration = some (next, changes))
    (small : doc.text.SmallAlong changes) :
    ∃ later, (w.revise entry.document alteration).Waiting uri later next
        ((w.revise entry.document alteration).services.clock + start.services.debounce) ∧
      later.document = entry.document ∧
      Progress start (w.revise entry.document alteration) uri time versions
        (resets + entry.timer.handle.isSome.toNat) := by
  -- A stroke takes no time and commits nothing.
  obtain ⟨later, hwaiting, hdocument, hrevised⟩ := h.revise_alone alone waiters altered small
  have hall := progress.trans hrevised
  rw [List.append_nil, Nat.add_zero] at hall
  refine ⟨later, ?_, hdocument, hall⟩
  rw [hrevised.clock, Nat.add_zero, ← progress.debounce]
  exact hwaiting

/-- After some strokes, the document waits for the end of the debounce time, and has been parsed once
    for every run that was followed by a long pause. -/
theorem Idle.typed {last : Document} {strokes : List Stroke} (idle : w.Idle uri entry doc)
    (retyped : doc.Retyped strokes last)
    (parses : ∀ before stroke after, strokes = before ++ stroke :: after → before ≠ [] →
      Stroke.Long w.services.debounce stroke.pause →
      (w.typed parser entry.document before).Parses parser uri)
    (hne : strokes ≠ []) :
    ∃ next, (w.typed parser entry.document strokes).Waiting uri next last
        ((w.typed parser entry.document strokes).services.clock + w.services.debounce) ∧
      next.document = entry.document ∧
      Progress w (w.typed parser entry.document strokes) uri (Stroke.time strokes)
        (endings doc.version (Stroke.runs w.services.debounce strokes)).dropLast
        (Stroke.shortPauses w.services.debounce strokes) := by
  -- By induction on the strokes, the last one being dealt with after all others.
  induction retyped with
  | nil => exact absurd rfl hne
  | @snoc strokes before after changes retyped stroke altered small ih =>
    rw [typed_snoc, Stroke.time_snoc]
    by_cases hfirst : strokes = []
    · -- The first stroke finds the document idle.
      subst hfirst
      obtain rfl := retyped.eq_of_nil
      obtain ⟨hidle, hwait⟩ := idle.wait parser stroke.pause
      have hall := hwait.revise hidle.toUndisturbed (by rw [hidle.tasks]; simp) hidle.waiters
        altered small
      rw [hidle.unarmed] at hall
      rw [Stroke.time, List.map_nil, List.sum_nil, Nat.zero_add]
      exact hall
    -- What the strokes so far ask of the parser, the longer list asks, too.
    · have hearlier : ∀ before next after, strokes = before ++ next :: after → before ≠ [] →
          Stroke.Long w.services.debounce next.pause →
          (w.typed parser entry.document before).Parses parser uri := by
        rintro before next after rfl
        exact parses before next (after ++ [stroke]) (by simp)
      obtain ⟨now, hwaiting, hdocument, hprogress⟩ := ih hearlier hfirst
      by_cases hlong : Stroke.Long w.services.debounce stroke.pause
      -- A long pause ends the run before it, and the stroke starts another.
      · have hparses := parses strokes stroke [] rfl hfirst hlong
        obtain ⟨parsed, hidle, hsame, hwait⟩ := hwaiting.wait_long hparses rfl hlong
        obtain ⟨next, hnext, hkept, hall⟩ := (hprogress.trans hwait).revise hidle.toUndisturbed
          (by rw [hidle.tasks]; simp) hidle.waiters altered small
        rw [hsame, hdocument] at hnext hall hkept
        refine ⟨next, hnext, hkept, ?_⟩
        rw [Stroke.dropLast_endings_of_long _ hlong, Stroke.endings_runs _ hfirst,
          ← retyped.version, Stroke.shortPauses_snoc hfirst, if_pos hlong]
        rw [hidle.unarmed] at hall
        exact hall
      -- A short pause lets the run go on, and the stroke replaces its timer.
      · obtain ⟨hstill, hwait⟩ := hwaiting.wait_short parser rfl hlong
        obtain ⟨id, hhandle, htasks⟩ := hstill.armed
        obtain ⟨next, hnext, hkept, hall⟩ := (hprogress.trans hwait).revise hstill.toUndisturbed
          (by rw [hhandle, htasks]; simp) hstill.waiters altered small
        rw [hdocument] at hnext hall hkept
        refine ⟨next, hnext, hkept, ?_⟩
        rw [Stroke.dropLast_endings_of_short _ hfirst hlong, Stroke.shortPauses_snoc hfirst,
          if_neg hlong]
        rw [hhandle, List.append_nil] at hall
        exact hall

/-- The same for any time after the last stroke: the last run is parsed, too, if the time is long. -/
theorem Idle.typed_wait (idle : w.Idle uri entry doc) {strokes : List Stroke} {last : Document}
    (retyped : doc.Retyped strokes last) (rest : List Nat)
    (parses : ∀ before after, strokes = before ++ after → before ≠ [] →
      Stroke.Long w.services.debounce ((after.head?.map (·.pause)).getD rest) →
      (w.typed parser entry.document before).Parses parser uri) :
    let later := (w.typed parser entry.document strokes).wait parser rest
    let ended := endings doc.version (Stroke.runs w.services.debounce strokes)
    (∃ next, later.open? uri = some (next, last)) ∧
      Progress w later uri (Stroke.time strokes + rest.sum)
        (if Stroke.Long w.services.debounce rest then ended else ended.dropLast)
        (Stroke.shortPauses w.services.debounce strokes) ∧
      (later.hasPendingReparse uri = true ↔
        strokes ≠ [] ∧ ¬ Stroke.Long w.services.debounce rest) := by
  intro later ended
  -- Without strokes the document is idle all the time.
  by_cases hnone : strokes = []
  · subst hnone
    obtain rfl := retyped.eq_of_nil
    obtain ⟨hstill, hprogress⟩ := idle.wait parser rest
    refine ⟨⟨entry, hstill.found⟩, ?_, ?_⟩
    · have hended : (if Stroke.Long w.services.debounce rest then ended else ended.dropLast) = [] :=
        ite_self []
      rw [hended, Stroke.time, List.map_nil, List.sum_nil, Nat.zero_add]
      exact hprogress
    · exact ⟨fun hpending => absurd hpending hstill.not_pending, fun h => absurd rfl h.1⟩
  · have hparses : ∀ before stroke after, strokes = before ++ stroke :: after → before ≠ [] →
        Stroke.Long w.services.debounce stroke.pause →
        (w.typed parser entry.document before).Parses parser uri :=
      fun before stroke after heq => parses before (stroke :: after) heq
    obtain ⟨next, hwaiting, -, hprogress⟩ := idle.typed retyped hparses hnone
    -- A long rest ends the last run, too; otherwise it is still pending.
    by_cases hlong : Stroke.Long w.services.debounce rest
    · have hlast := parses strokes [] (List.append_nil _).symm hnone hlong
      obtain ⟨parsed, hstill, -, hwait⟩ := hwaiting.wait_long hlast rfl hlong
      refine ⟨⟨parsed, hstill.found⟩, ?_, ?_⟩
      · rw [if_pos hlong, show ended = _ from Stroke.endings_runs _ hnone, ← retyped.version]
        exact hprogress.trans hwait
      · exact ⟨fun hpending => absurd hpending hstill.not_pending, fun h => absurd hlong h.2⟩
    · obtain ⟨hstill, hwait⟩ := hwaiting.wait_short parser rfl hlong
      refine ⟨⟨next, hstill.found⟩, ?_, ?_⟩
      · have hall := hprogress.trans hwait
        rw [List.append_nil] at hall
        rw [if_neg hlong]
        exact hall
      · exact ⟨fun _ => ⟨hnone, hlong⟩, fun _ => hstill.pending⟩

end Workspace

end LiveTree
