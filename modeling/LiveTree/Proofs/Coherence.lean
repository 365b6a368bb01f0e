import LiveTree.Proofs.Currency

/-!
# Entries are coherent

Between operations the fields of an entry agree with each other, with the document and with what has
happened: the state says whether there are trees, versions are in order, an entry that is up to date
has nothing pending, and the grammar of a committed tree is at hand.

Two counts are kept along a run, of what has come to a uri since a tree was last committed for it:
`changesApplied` counts the changes of the reports that were applied in full, and `changesLeft` those
that stopped reports have left in the kept tree.  An entry counts the first of these as its pending
edits; its kept tree holds both.

## Key results

- `Entry.Coherent`: the invariant of one entry, and `Coherent.kept`: nothing breaks it
- `Tallied.eq_countSince`: what reports add to, commits clear and nothing else touches, is counted
- `Run.version_eq`: versions count revisions
- `open_entry_coherent`: all of this holds of every entry after every run
- `stopped_report_left_behind`: a stopped report leaves changes that are not pending
-/

namespace LiveTree

/-- How the fields of an entry stand to each other and to its document between operations. -/
structure Entry.Coherent (entry : Entry) (doc : Document) : Prop where
  /-- No parse is under way. -/
  settled : entry.state ≠ .parsing
  state_iff : entry.state = .noTree ↔ entry.committed = none
  committed_iff : entry.committed = none ↔ entry.previous = none
  previous_iff : entry.previous = none ↔ entry.previousVersion = none
  /-- A committed tree is ahead neither of the kept one nor of the document. -/
  versions : ∀ tree, entry.committed = some tree →
    (∃ version, entry.previousVersion = some version ∧ tree.version ≤ version) ∧
      tree.version ≤ doc.version
  /-- Nothing has happened to an entry that is up to date. -/
  upToDate : entry.state = .upToDate →
    entry.previousVersion = entry.committed.map (·.version) ∧ entry.pendingEdits = 0 ∧
      entry.consecutiveFailures = 0
  /-- Nothing is pending before the first tree: without one, reports are dropped. -/
  treeless : entry.committed = none → entry.pendingEdits = 0

namespace Entry.Coherent

variable {entry : Entry} {doc : Document}

/-- Coherence does not look at the timer. -/
theorem of_untimed {later : Entry} (h : entry.Coherent doc) (same : later.untimed = entry.untimed) :
    later.Coherent doc := by
  have hentry : entry.untimed.Coherent doc :=
    ⟨h.settled, h.state_iff, h.committed_iff, h.previous_iff, h.versions, h.upToDate, h.treeless⟩
  rw [← same] at hentry
  exact ⟨hentry.settled, hentry.state_iff, hentry.committed_iff, hentry.previous_iff,
    hentry.versions, hentry.upToDate, hentry.treeless⟩

/-- An entry that was just opened is coherent with any document. -/
theorem fresh (id : DocumentId) (doc : Document) : Entry.Coherent { document := id } doc where
  settled := by simp
  state_iff := by simp
  committed_iff := by simp
  previous_iff := by simp
  versions _ h := nomatch h
  upToDate h := nomatch h
  treeless _ := rfl

/-- A revision only moves the document ahead. -/
theorem revised {next : Document} {changes : List Change} (revision : doc.Revision next changes)
    (h : entry.Coherent doc) : entry.Coherent next := by
  refine { h with versions := fun tree found => ?_ }
  obtain ⟨hkept, hdoc⟩ := h.versions tree found
  have hnext := revision.version
  exact ⟨hkept, by omega⟩

/-- A report that is applied makes the kept tree newer and the entry stale; no other report changes
    anything that matters here. -/
theorem reported (changes : List Change) (version : Int) (h : entry.Coherent doc) :
    (entry.applyChanges changes version).1.Coherent doc := by
  unfold Entry.applyChanges
  cases hprevious : entry.previous with
  | none => exact h
  | some previous =>
    -- Where there is a kept tree there is a committed one.
    have hcommitted : entry.committed ≠ none := by
      rw [Ne, h.committed_iff, hprevious]
      simp
    dsimp only
    split
    · exact h
    · next hnewer =>
      split
      · -- The report stops on the way, after some changes.
        refine { h with committed_iff := ?_, previous_iff := ?_ }
        · rw [h.committed_iff, hprevious]; simp
        · rw [← h.previous_iff, hprevious]; simp
      · refine
          { settled := by simp
            state_iff := by simp [hcommitted]
            committed_iff := by simp [hcommitted]
            previous_iff := by simp
            versions := fun tree found => ?_
            upToDate := fun hstate => nomatch hstate
            treeless := fun hnone => absurd hnone hcommitted }
        -- The report is newer than the kept tree, and that is no older than the committed one.
        obtain ⟨⟨synced, hsynced, hle⟩, hdoc⟩ := h.versions tree found
        refine ⟨⟨version, rfl, ?_⟩, hdoc⟩
        rw [hsynced] at hnewer
        simp only [Option.any_some, decide_eq_true_eq] at hnewer
        omega

/-- A commit brings both trees to the document's version. -/
theorem commit (entry : Entry) (doc : Document) (language : String) (source : ParseTree) :
    (entry.commit language doc.version doc.text source).1.Coherent doc where
  settled := by simp [Entry.commit]
  state_iff := by simp [Entry.commit]
  committed_iff := by simp [Entry.commit]
  previous_iff := by simp [Entry.commit]
  versions tree found := by
    obtain rfl := Option.some.inj found
    exact ⟨⟨doc.version, rfl, Int.le_refl _⟩, Int.le_refl _⟩
  upToDate _ := ⟨rfl, rfl, rfl⟩
  treeless _ := rfl

/-- A failed parse leaves the trees as they are and makes the entry stale if it has any; so it may
    have any number of failures. -/
theorem fail (h : entry.Coherent doc) (version : Int) (failures : Nat) :
    Entry.Coherent { (entry.beginParse version).1.fail with consecutiveFailures := failures }
      doc := by
  have hstate : (entry.beginParse version).1.fail.state =
      if entry.committed.isSome then .stale else .noTree := rfl
  refine
    { settled := ?_, state_iff := ?_, committed_iff := h.committed_iff
      previous_iff := h.previous_iff, versions := h.versions, upToDate := ?_
      treeless := h.treeless }
  -- The state after a failure says whether there is a tree, and nothing else.
  all_goals rw [hstate]; cases hcommitted : entry.committed
  · simp
  · simp
  · exact ⟨fun _ => hcommitted, fun _ => rfl⟩
  · exact ⟨fun hno => (nomatch hno), fun hnone => (nomatch hcommitted.symm.trans hnone)⟩
  · exact fun hno => nomatch hno
  · exact fun hno => nomatch hno

/-- Nothing that can happen to an entry breaks its coherence. -/
theorem kept (parser : Parser) :
    Workspace.Kept parser (fun _ doc entry => entry.Coherent doc) where
  untimed h same := h.of_untimed same
  leads _ h := h
  fresh _ doc id := .fresh id doc
  revised revision h := h.revised revision
  reported changes version h := h.reported changes version
  parsed sound h parse := by
    cases parse with
    | commit outdated loaded parsed same => exact (commit _ _ _ _).of_untimed same
    | fail counted outdated loaded failed same => exact (h.fail _ _).of_untimed same

end Entry.Coherent

namespace Workspace

/-! ## Grammars of committed trees -/

/-- The grammar of a committed tree is at hand, and parsers accept it. -/
def Equipped (s : Services) (_ : Document) (entry : Entry) : Prop :=
  ∀ tree, entry.committed = some tree →
    ∃ grammar, s.registry.loaded? tree.language = some grammar ∧ grammar.rejection = none

/-- Grammars that have been loaded stay, and a tree is only committed with its grammar loaded. -/
theorem Equipped.kept (parser : Parser) : Kept parser Equipped where
  untimed h same tree found := by
    have hcommitted := congrArg Entry.committed same
    exact h tree (hcommitted.symm.trans found)
  leads leads h tree found := by
    obtain ⟨grammar, hloaded, haccepted⟩ := h tree found
    exact ⟨grammar, leads.registry.loaded _ _ hloaded, haccepted⟩
  fresh _ _ _ _ found := nomatch found
  revised _ h := h
  reported changes version h tree found := by
    rw [Entry.applyChanges_committed] at found
    exact h tree found
  parsed sound h parse tree found := by
    cases parse with
    | @commit grammar source _ _ outdated loaded parsed same =>
      have hcommitted := congrArg Entry.committed same
      obtain rfl := Option.some.inj (hcommitted.symm.trans found)
      -- The grammar is found under the language that it says it is of.
      have hlanguage := sound _ _ loaded
      refine ⟨grammar, ?_, (Pool.attempt_eq_ok.1 parsed).1⟩
      show _ = _
      rw [← hlanguage] at loaded
      exact loaded
    | fail counted outdated loaded failed same =>
      have hcommitted := congrArg Entry.committed same
      exact h tree (hcommitted.symm.trans found)

/-! ## Counting changes -/

/-- Counts on through one more happening: a report adds what is counted of its changes, and a commit
    or an opening starts anew. -/
def countOn (counted : List Change → EditOutcome → Nat) (uri : String) (count : Nat) :
    Happening → Nat
  | .opened _ other => if uri = other then 0 else count
  | .parsed other _ true => if uri = other then 0 else count
  | .reported other _ changes outcome =>
    if uri = other then count + counted changes outcome else count
  | _ => count

/-- What a run has seen counted of the changes reported to a uri since a tree was last committed for
    it, or its document was opened. -/
def countSince (counted : List Change → EditOutcome → Nat) (uri : String)
    (trace : List Happening) : Nat :=
  trace.foldl (countOn counted uri) 0

/-- Counts the changes of a report that is applied in full. -/
def countedApplied (changes : List Change) : EditOutcome → Nat
  | .applied _ => changes.length
  | .dropped _ | .stopped => 0

/-- Counts the changes that a stopped report leaves in the kept tree: those before the first that does
    not fit. -/
def countedLeft (changes : List Change) : EditOutcome → Nat
  | .stopped => (changes.takeWhile (·.Fits)).length
  | .applied _ | .dropped _ => 0

/-- How many changes have been reported to a uri since its last commit in reports that were applied in
    full. -/
def changesApplied (uri : String) (trace : List Happening) : Nat :=
  countSince countedApplied uri trace

/-- How many changes the reports that were stopped have left in the kept tree of a uri since its last
    commit. -/
def changesLeft (uri : String) (trace : List Happening) : Nat :=
  countSince countedLeft uri trace

section Counting

variable (counted : List Change → EditOutcome → Nat) (uri : String)

/-- Counting follows the run step by step. -/
theorem countSince_snoc (trace : List Happening) (happening : Happening) :
    countSince counted uri (trace ++ [happening]) =
      countOn counted uri (countSince counted uri trace) happening := by
  unfold countSince
  rw [List.foldl_append]
  rfl

/-- The count of applied changes follows the run in the same way. -/
theorem changesApplied_snoc (trace : List Happening) (happening : Happening) :
    changesApplied uri (trace ++ [happening]) =
      countOn countedApplied uri (changesApplied uri trace) happening :=
  countSince_snoc countedApplied uri trace happening

/-- What happens elsewhere does not count. -/
theorem countOn_elsewhere {uri : String} {happening : Happening} (count : Nat)
    (h : happening.uri? ≠ some uri) : countOn counted uri count happening = count := by
  have hne {other : String} (hother : some other ≠ some uri) : uri ≠ other := by
    rintro rfl
    exact hother rfl
  cases happening with
  | quiet => rfl
  | created text => rfl
  | revised id text changes => rfl
  | opened id other => exact if_neg (hne h)
  | closed other => rfl
  | reported other version changes outcome => exact if_neg (hne h)
  | parsed other previous committed =>
    cases committed with
    | true => exact if_neg (hne h)
    | false => rfl

/-- Counting two things at once is counting each. -/
theorem countOn_add (more : List Change → EditOutcome → Nat) (first second : Nat)
    (happening : Happening) :
    countOn (fun changes outcome => counted changes outcome + more changes outcome) uri
        (first + second) happening =
      countOn counted uri first happening + countOn more uri second happening := by
  cases happening with
  | quiet => rfl
  | created text => rfl
  | revised id text changes => rfl
  | opened id other => simp only [countOn]; split <;> omega
  | closed other => rfl
  | reported other version changes outcome => simp only [countOn]; split <;> omega
  | parsed other previous committed =>
    cases committed with
    | true => simp only [countOn]; split <;> omega
    | false => rfl

/-- So counting two things along a run is counting each. -/
theorem countSince_add (more : List Change → EditOutcome → Nat) (trace : List Happening) :
    countSince (fun changes outcome => counted changes outcome + more changes outcome) uri trace =
      countSince counted uri trace + countSince more uri trace := by
  -- From wherever the two counts stand.
  suffices ∀ first second : Nat,
      trace.foldl (countOn (fun changes outcome =>
          counted changes outcome + more changes outcome) uri) (first + second) =
        trace.foldl (countOn counted uri) first + trace.foldl (countOn more uri) second by
    exact this 0 0
  induction trace with
  | nil => exact fun _ _ => rfl
  | cons happening rest ih =>
    intro first second
    rw [List.foldl_cons, List.foldl_cons, List.foldl_cons, countOn_add]
    exact ih _ _

end Counting

/-- A number that an entry carries and that goes by its reports: each adds what is counted of it, a
    commit clears it, and nothing else touches it. -/
structure Tallied (parser : Parser) (number : Entry → Nat)
    (counted : List Change → EditOutcome → Nat) : Prop where
  untimed : ∀ {entry later : Entry}, later.untimed = entry.untimed → number later = number entry
  fresh : ∀ id, number { document := id } = 0
  reported : ∀ (entry : Entry) changes version,
    number (entry.applyChanges changes version).1 =
      number entry + counted changes (entry.applyChanges changes version).2
  committed : ∀ {s doc entry previous later}, Parse parser s doc entry previous true later →
    number later = 0
  failed : ∀ {s doc entry previous later}, Parse parser s doc entry previous false later →
    number later = number entry

namespace Tallied

variable {parser : Parser} {number : Entry → Nat} {counted : List Change → EditOutcome → Nat}
  {w later start : Workspace}

/-- Each step counts on from what was counted before. -/
theorem step (tallied : Tallied parser number counted) {happening : Happening}
    (step : Step parser w happening later) {count : String → Nat}
    (h : ∀ uri entry, w.entries.find? uri = some entry → number entry = count uri)
    {uri : String} {entry : Entry} (found : later.entries.find? uri = some entry) :
    number entry = countOn counted uri (count uri) happening := by
  -- The number before the step is what was counted, and the step changes both alike.
  cases step.fate found with
  | spared elsewhere hfound same =>
    rw [countOn_elsewhere _ _ elsewhere, ← h uri _ hfound, tallied.untimed same]
  | @opened id _ _ _ _ same =>
    have hnumber : number entry = number { document := id } := tallied.untimed same
    rw [hnumber, tallied.fresh]
    exact (if_pos rfl).symm
  | reported hfound same =>
    rw [tallied.untimed same, tallied.reported, h uri _ hfound]
    exact (if_pos rfl).symm
  | @parsed _ _ _ _ committed hfound parse =>
    have hcount := h uri _ (open?_eq_some.1 hfound).1
    cases committed with
    | true => rw [tallied.committed parse]; exact (if_pos rfl).symm
    | false => exact (tallied.failed parse).trans hcount

/-- After a run from where nothing was open, the number is what the run has seen counted. -/
theorem eq_countSince (tallied : Tallied parser number counted) (empty : start.entries = .empty)
    {trace : List Happening} (run : Run parser start trace w) {uri : String} {entry : Entry}
    (found : w.entries.find? uri = some entry) : number entry = countSince counted uri trace := by
  -- By induction on the run, for all entries at once: the last step may have touched any of them.
  induction run generalizing uri entry with
  | nil => rw [empty] at found; exact nomatch found
  | snoc _ step ih =>
    rw [countSince_snoc]
    exact tallied.step step (fun _ _ hfound => ih hfound) found

end Tallied

/-! ## Pending edits and the kept tree -/

/-- The pending edits of an entry go by the reports that are applied in full. -/
theorem tallied_pendingEdits (parser : Parser) :
    Tallied parser Entry.pendingEdits countedApplied where
  untimed same := (congrArg Entry.pendingEdits same :)
  fresh _ := rfl
  reported entry changes version := by
    unfold Entry.applyChanges
    split
    · rfl
    · split
      · rfl
      · split <;> rfl
  committed parse := by
    cases parse with
    | commit _ _ _ same => exact (congrArg Entry.pendingEdits same :)
  failed parse := by
    cases parse with
    | fail _ _ _ _ same => exact (congrArg Entry.pendingEdits same :)

/-- How many changes the kept tree of an entry holds. -/
def keptChanges (entry : Entry) : Nat := entry.previous.elim 0 (·.changes.length)

/-- The changes in the kept tree of an entry go by all its reports: those that are applied, and those
    that are stopped after some changes. -/
theorem tallied_keptChanges (parser : Parser) :
    Tallied parser keptChanges fun changes outcome =>
      countedApplied changes outcome + countedLeft changes outcome where
  untimed same := (congrArg keptChanges same :)
  fresh _ := rfl
  reported entry changes version := by
    unfold Entry.applyChanges
    cases hprevious : entry.previous with
    | none => rfl
    | some previous =>
      -- Without the report, the tree holds what it held.
      have hkept : keptChanges entry = previous.changes.length := by
        unfold keptChanges
        rw [hprevious]
        rfl
      rw [hkept]
      dsimp only
      split
      · exact hkept
      · split
        · -- The report is stopped: what it has applied until then is in the tree, and not pending.
          show (previous.changes ++ _).length = _
          rw [List.length_append, countedApplied, countedLeft, Nat.zero_add]
        · show (previous.changes ++ changes).length = _
          rw [List.length_append, countedApplied, countedLeft, Nat.add_zero]
  committed parse := by
    cases parse with
    | commit _ _ _ same => exact (congrArg keptChanges same :)
  failed parse := by
    cases parse with
    | fail _ _ _ _ same => exact (congrArg keptChanges same :)

section Counts

variable {parser : Parser} {start w : Workspace} {trace : List Happening} {uri : String}
  {entry : Entry}

/-- The edits that an entry has pending are those that the run has seen applied since the last
    commit. -/
theorem Run.pendingEdits_eq (empty : start.entries = .empty) (run : Run parser start trace w)
    (found : w.entries.find? uri = some entry) : entry.pendingEdits = changesApplied uri trace :=
  (tallied_pendingEdits parser).eq_countSince empty run found

/-- The kept tree of an entry holds the pending edits, and what stopped reports have left in it. -/
theorem Run.changes_length_eq (empty : start.entries = .empty) (run : Run parser start trace w)
    (found : w.entries.find? uri = some entry) {previous : PreviousTree}
    (kept : entry.previous = some previous) :
    previous.changes.length = entry.pendingEdits + changesLeft uri trace := by
  have hkept := (tallied_keptChanges parser).eq_countSince empty run found
  rw [countSince_add] at hkept
  rw [run.pendingEdits_eq empty found]
  unfold keptChanges at hkept
  -- The tree is there, so its changes are those that are counted.
  rw [kept] at hkept
  exact hkept

end Counts

/-! ## Versions -/

/-- Whether something that happens is a revision of the given document. -/
def revises (id : DocumentId) : Happening → Bool
  | .revised other _ _ => other == id
  | _ => false

/-- How often a run has revised a document. -/
def revisions (id : DocumentId) (trace : List Happening) : Nat :=
  trace.countP (revises id)

/-- The version of a document, and 0 before there is one. -/
def versionOf (w : Workspace) (id : DocumentId) : Int := w.documents[id]?.elim 0 Document.version

/-- A step moves a document's version by one if it revises it, and not at all otherwise. -/
theorem Step.versionOf_eq {parser : Parser} {w later : Workspace} {happening : Happening}
    (step : Step parser w happening later) (id : DocumentId) :
    later.versionOf id = w.versionOf id + if revises id happening then 1 else 0 := by
  -- Most steps touch no document.
  have hsame (h : later.documents = w.documents) : later.versionOf id = w.versionOf id + 0 := by
    unfold versionOf
    rw [h, Int.add_zero]
  cases step with
  | quiet after => exact hsame after.documents
  | create uri language text after =>
    unfold versionOf
    rw [after.documents]
    -- The new document takes the next free place, at version 0.
    rcases Nat.lt_trichotomy id w.documents.length with hlt | heq | hgt
    · rw [List.getElem?_append_left hlt]
      exact (Int.add_zero _).symm
    · subst heq
      rw [List.getElem?_concat_length, List.getElem?_eq_none (Nat.le_refl _)]
      rfl
    · rw [List.getElem?_eq_none (by simp; omega), List.getElem?_eq_none (by omega)]
      rfl
  | @revise other doc next changes _ found revision after =>
    unfold versionOf
    rw [after.documents]
    by_cases heq : other = id
    · subst heq
      have hlt := (List.getElem?_eq_some_iff.1 found).1
      rw [List.getElem?_set_self hlt, found]
      simpa [revises] using revision.version
    · rw [List.getElem?_set_ne heq]
      simp [revises, heq]
  | openDocument _ after => exact hsame after.documents
  | close after => exact hsame after.documents
  | report _ _ _ after => exact hsame after.documents
  | parse _ _ after => exact hsame after.documents

/-- After a run from where there were no documents, versions count revisions. -/
theorem Run.version_eq {parser : Parser} {start w : Workspace} {trace : List Happening}
    (empty : start.documents = []) (run : Run parser start trace w) {id : DocumentId}
    {doc : Document} (found : w.documents[id]? = some doc) :
    doc.version = (revisions id trace : Nat) := by
  -- The versions of all documents are counted, also of those that are not there yet.
  have hversion : w.versionOf id = (revisions id trace : Nat) := by
    clear found
    induction run with
    | nil => unfold versionOf; rw [empty]; rfl
    | snoc _ step ih =>
      rw [step.versionOf_eq id, ih]
      unfold revisions
      rw [List.countP_append, List.countP_singleton]
      split <;> simp
  unfold versionOf at hversion
  rw [found] at hversion
  exact hversion

/-- A document that is revised no more often than there are versions stays within them. -/
theorem Run.version_le {parser : Parser} {start w : Workspace} {trace : List Happening}
    (empty : start.documents = []) (run : Run parser start trace w) {id : DocumentId}
    (few : revisions id trace ≤ Document.lastVersion) {doc : Document}
    (found : w.documents[id]? = some doc) : doc.version ≤ Document.lastVersion := by
  have hversion := run.version_eq empty found
  omega

/-! ## The invariant -/

/-- After every run, and so after every sequence of events, every open entry is coherent, and has as
    many edits pending as the run has seen applied since its last commit; none before the first.  Its
    kept tree holds these, and those that stopped reports have left there.  Its document's version is
    the number of revisions.  The committed tree has its grammar at hand: looking for the grammar
    after a tree has been served cannot fail. -/
theorem open_entry_coherent {parser : Parser} {config : Config} {dataHome : String}
    {libraries : Libraries} {runtime : Bool} {trace : List Happening} {w : Workspace}
    (run : Run parser (create config dataHome libraries runtime) trace w) {uri : String}
    {entry : Entry} (found : w.entries.find? uri = some entry) :
    ∃ doc, w.documents[entry.document]? = some doc ∧
      doc.version = (revisions entry.document trace : Nat) ∧ entry.Coherent doc ∧
      entry.pendingEdits = changesApplied uri trace ∧
      (entry.committed = none → entry.pendingEdits = 0) ∧
      (∀ previous, entry.previous = some previous →
        previous.changes.length = entry.pendingEdits + changesLeft uri trace) ∧
      (∀ tree, entry.committed = some tree → w.services.registry.didLoad tree.language = true) ∧
      (∀ tree, (w.treeNow parser uri).2 = .ok tree → ∃ grammar,
        (w.treeNow parser uri).1.services.grammarNow tree.language =
          ((w.treeNow parser uri).1.services, .ok grammar)) := by
  obtain ⟨doc, hdoc, -, hcoherent⟩ := run.entriesHold (Entry.Coherent.kept parser) uri entry found
  refine ⟨doc, hdoc, run.version_eq rfl hdoc, hcoherent, run.pendingEdits_eq rfl found,
    hcoherent.treeless, fun previous kept => run.changes_length_eq rfl found kept, ?_, ?_⟩
  · intro tree hcommitted
    obtain ⟨grammar, hloaded, -⟩ :=
      run.open?_holds (Equipped.kept parser) (open?_eq_some.2 ⟨found, hdoc⟩) tree hcommitted
    unfold Registry.didLoad
    rw [hloaded]
    rfl
  · intro tree hserved
    -- The tree is committed in the workspace that serves it, and a run leads there, too.
    obtain ⟨-, later, doc, -, hafter, hcurrent⟩ := treeNow_eq_ok hserved
    obtain ⟨rest, hrest, -⟩ := w.treeNow_reaches parser uri
    obtain ⟨grammar, hloaded, -⟩ := (run.append hrest).open?_holds (Equipped.kept parser) hafter
      tree (currentTree?_eq_some hcurrent).1
    exact ⟨grammar, Services.grammarNow_of_loaded hloaded⟩

/-- Two changes are reported after a commit and one of them is reported again. -/
def repeatedReports : List Event := [
  .action (.create "file:///a.js" "javascript" ['a', ';']),
  .action (.openDocument 0),
  .action (.treeNow "file:///a.js"),
  .action (.edit 0 [.insert 0 ['b'], .insert 0 ['c']]),
  .action (.report "file:///a.js" 1
    [⟨0, 0, ['b'], ⟨0, 0⟩, ⟨0, 0⟩⟩, ⟨0, 0, ['c'], ⟨0, 0⟩, ⟨0, 0⟩⟩]),
  .action (.report "file:///a.js" 1 [⟨0, 0, ['b'], ⟨0, 0⟩, ⟨0, 0⟩⟩])]

/-- An entry with two edits pending. -/
theorem open_entry_coherent_repeated :
    ∃ trace entry,
      Run (.ofRecordings [] none) (create {} "/home" {} true) trace
        ((create {} "/home" {} true).undergo (.ofRecordings [] none) repeatedReports) ∧
      ((create {} "/home" {} true).undergo (.ofRecordings [] none)
        repeatedReports).entries.find? "file:///a.js" = some entry ∧
      entry.state = .stale ∧ entry.pendingEdits = 2 ∧ changesApplied "file:///a.js" trace = 2 ∧
      ∃ doc,
        ((create {} "/home" {} true).undergo (.ofRecordings [] none)
          repeatedReports).documents[entry.document]? = some doc ∧ entry.Coherent doc := by
  obtain ⟨trace, run, -⟩ := undergo_reaches (.ofRecordings [] none) (create {} "/home" {} true)
    repeatedReports
  have hfound : ((create {} "/home" {} true).undergo (.ofRecordings [] none)
      repeatedReports).entries.find? "file:///a.js" = some _ := rfl
  obtain ⟨doc, hdoc, -, hcoherent, hpending, -⟩ := open_entry_coherent run hfound
  exact ⟨trace, _, run, rfl, rfl, rfl, hpending.symm, doc, hdoc, hcoherent⟩

/-- After a commit, a report is stopped by the second of its changes. -/
def reportStoppedHalfway : List Event := [
  .action (.create "file:///a.js" "javascript" ['a', ';']),
  .action (.openDocument 0),
  .action (.treeNow "file:///a.js"),
  .action (.report "file:///a.js" 1
    [⟨0, 0, ['b'], ⟨0, 0⟩, ⟨0, 0⟩⟩, ⟨UInt64.size - 1, 1, ['b'], ⟨0, 1⟩, ⟨0, 1⟩⟩])]

/-- The first of the changes has been applied to the kept tree, and no edit is pending. -/
theorem stopped_report_left_behind :
    ∃ trace entry previous,
      Run (.ofRecordings [] none) (create {} "/home" {} true) trace
        ((create {} "/home" {} true).undergo (.ofRecordings [] none) reportStoppedHalfway) ∧
      ((create {} "/home" {} true).undergo (.ofRecordings [] none)
        reportStoppedHalfway).entries.find? "file:///a.js" = some entry ∧
      entry.previous = some previous ∧ previous.changes.length = 1 ∧ entry.pendingEdits = 0 := by
  obtain ⟨trace, run, -⟩ := undergo_reaches (.ofRecordings [] none) (create {} "/home" {} true)
    reportStoppedHalfway
  exact ⟨trace, _, _, run, rfl, rfl, rfl, rfl⟩

end Workspace

end LiveTree
