import LiveTree.Proofs.Coherence
import LiveTree.Proofs.Deliveries
import LiveTree.Proofs.Updates

/-!
# One commit for every version

As long as no report is of a version that its document has yet to reach, an entry knows by its own
versions whether its tree is current.  The kept tree is never ahead of the document, and an entry is
stale only when its committed tree is behind.  So every commit is of a later version than the one
before, and nothing is parsed twice: once there is a tree of the version of the document, nothing
happens to the entry any more until there is a new version.

## Key results

- `Entry.Punctual`: the invariant of an entry, and `Run.punctual`: it holds after every timely run
- `Broadcast.ascending`: the updates of an entry are of ascending versions
- `Broadcast.settled`: an entry that is current rests until its document is revised
- `one_commit_per_version`: all of this together
-/

namespace LiveTree

/-- An entry that has never heard of a version that is yet to come. -/
structure Entry.Punctual (entry : Entry) (doc : Document) : Prop extends entry.Coherent doc where
  /-- The kept tree is not ahead of the document. -/
  kept : ∀ version, entry.previousVersion = some version → version ≤ doc.version
  /-- The committed tree of a stale entry is behind. -/
  stale : entry.state = .stale → ∀ tree, entry.committed = some tree → tree.version < doc.version

namespace Entry.Punctual

variable {entry : Entry} {doc : Document}

/-- The timer of an entry says nothing about its trees. -/
theorem of_untimed {later : Entry} (h : entry.Punctual doc) (same : later.untimed = entry.untimed) :
    later.Punctual doc := by
  have hversion := congrArg Entry.previousVersion same
  have hstate := congrArg Entry.state same
  have hcommitted := congrArg Entry.committed same
  refine ⟨h.toCoherent.of_untimed same, fun version hkept => ?_, fun hstale tree htree => ?_⟩
  · exact h.kept version (hversion.symm.trans hkept)
  · exact h.stale (hstate.symm.trans hstale) tree (hcommitted.symm.trans htree)

/-- An entry that has just been made has heard of nothing. -/
theorem fresh (id : DocumentId) (doc : Document) : Entry.Punctual { document := id } doc where
  toCoherent := .fresh id doc
  kept _ h := nomatch h
  stale h := nomatch h

/-- A revision only moves the document further ahead. -/
theorem revised {next : Document} {changes : List Change} (h : entry.Punctual doc)
    (revision : doc.Revision next changes) : entry.Punctual next := by
  have hnext := revision.version
  refine ⟨h.toCoherent.revised revision, fun version hkept => ?_, fun hstale tree htree => ?_⟩
  · have := h.kept version hkept
    omega
  · have := h.stale hstale tree htree
    omega

/-- A report that is applied is of a version after the committed one, and makes the entry stale. -/
theorem reported {version : Int} (h : entry.Punctual doc) (timely : version ≤ doc.version)
    (changes : List Change) : (entry.applyChanges changes version).1.Punctual doc := by
  have hcoherent := h.toCoherent.reported changes version
  unfold Entry.applyChanges at hcoherent ⊢
  cases hprevious : entry.previous with
  -- Without a kept tree the report is dropped, and so it is when the kept tree has reached the
  -- version.
  | none => exact h
  | some previous =>
    rw [hprevious] at hcoherent
    dsimp only at hcoherent ⊢
    split
    · exact h
    · next hnewer =>
      rw [if_neg hnewer] at hcoherent
      split
      · next hstops =>
        rw [if_pos hstops] at hcoherent
        exact ⟨hcoherent, h.kept, h.stale⟩
      · next hfits =>
        rw [if_neg hfits] at hcoherent
        -- The kept tree is now at the version of the report, and the committed one was behind that.
        refine ⟨hcoherent, fun reached hreached => ?_, fun _ tree htree => ?_⟩
        · obtain rfl := Option.some.inj hreached
          exact timely
        · obtain ⟨⟨reached, hreached, hle⟩, -⟩ := h.versions tree htree
          rw [hreached] at hnewer
          simp only [Option.any_some, decide_eq_true_eq] at hnewer
          omega

/-- An entry is current if and only if its committed tree is of the version of the document. -/
theorem current_iff (h : entry.Punctual doc) :
    (entry.currentTree? doc.version).isSome = true ↔
      entry.committed.map (·.version) = some doc.version := by
  constructor
  · intro hcurrent
    obtain ⟨tree, htree⟩ := Option.isSome_iff_exists.1 hcurrent
    obtain ⟨hcommitted, -, hversion⟩ := Workspace.currentTree?_eq_some htree
    rw [hcommitted, Option.map_some, hversion]
  · intro hversion
    obtain ⟨tree, hcommitted, hsame⟩ := Option.map_eq_some_iff.1 hversion
    unfold Entry.currentTree?
    rw [hcommitted]
    -- Every other state is at odds with a tree that is not behind.
    cases hstate : entry.state with
    | noTree => exact nomatch hcommitted.symm.trans (h.state_iff.1 hstate)
    | parsing => exact absurd hstate h.settled
    | stale =>
      have := h.stale hstate tree hcommitted
      omega
    | upToDate =>
      dsimp only
      rw [if_pos hsame]
      rfl

/-- The committed tree of an entry that is not current is behind. -/
theorem lt_of_outdated (h : entry.Punctual doc) (outdated : entry.currentTree? doc.version = none)
    {tree : SyntaxTree} (committed : entry.committed = some tree) : tree.version < doc.version := by
  have hle := (h.versions tree committed).2
  have hne : tree.version ≠ doc.version := by
    intro heq
    have hcurrent := h.current_iff.2 (by rw [committed, Option.map_some, heq])
    rw [outdated] at hcurrent
    exact nomatch hcurrent
  omega

/-- A parse that commits brings everything to the version of the document; one that fails was of an
    entry that is behind. -/
theorem parsed {parser : Parser} {s : Services} {later : Entry} {previous : Option PreviousTree}
    {committed : Bool} (h : entry.Punctual doc) (sound : s.registry.Sound)
    (parse : Parse parser s doc entry previous committed later) : later.Punctual doc := by
  have hcoherent := (Entry.Coherent.kept parser).parsed sound h.toCoherent parse
  cases parse with
  | commit outdated loaded parsed same =>
    have hversion := congrArg Entry.previousVersion same
    have hstate := congrArg Entry.state same
    refine ⟨hcoherent, fun version hkept => ?_, fun hstale => ?_⟩
    · obtain rfl := Option.some.inj (hversion.symm.trans hkept)
      exact Int.le_refl _
    · exact nomatch hstate.symm.trans hstale
  | fail counted outdated loaded failed same =>
    have hversion := congrArg Entry.previousVersion same
    have hcommitted := congrArg Entry.committed same
    refine ⟨hcoherent, fun version hkept => ?_, fun _ tree htree => ?_⟩
    · exact h.kept version (hversion.symm.trans hkept)
    · exact h.lt_of_outdated outdated (hcommitted.symm.trans htree)

end Entry.Punctual

/-! ## Reports in time -/

namespace Ledger

/-- A report is in time if its document has reached the version. -/
def Timely (ledger : Ledger) : Happening → Prop
  | .reported uri version _ _ =>
    ∀ place, ledger.places.find? uri = some place → version ≤ ledger.versionOf place.document
  | _ => True

/-- A ledger knows the version of every document. -/
structure Tallies (ledger : Ledger) (w : Workspace) : Prop where
  length : ledger.journals.length = w.documents.length
  versions : ∀ {id : DocumentId} {doc : Document}, w.documents[id]? = some doc →
    doc.version = ledger.versionOf id

end Ledger

namespace Workspace

variable {parser : Parser} {ledger : Ledger} {w later : Workspace} {happening : Happening}
  {trace : List Happening} {uri : String}

/-- A ledger that knows the versions of a workspace knows those after a step too. -/
theorem Step.tallies (step : Step parser w happening later) (tallies : ledger.Tallies w) :
    (ledger.note happening).Tallies later := by
  obtain ⟨hlength, hentered⟩ := step.entered tallies.length
  refine ⟨hlength, fun {id doc} found => ?_⟩
  unfold Ledger.versionOf
  cases hentered found with
  | same hbefore hjournal =>
    rw [hjournal]
    exact tallies.versions hbefore
  | made uri language text hjournal => rw [hjournal]; rfl
  | @revised earlier _ changes hbefore revision told hjournal =>
    -- A document has a journal to push the revision to.
    have hlt : id < ledger.journals.length := by
      rw [tallies.length]
      exact (List.getElem?_eq_some_iff.1 hbefore).1
    have hversion := tallies.versions hbefore
    unfold Ledger.versionOf at hversion
    rw [List.getElem?_eq_getElem hlt] at hversion
    rw [hjournal, List.getElem?_eq_getElem hlt, revision.version, hversion]
    simp

/-- All entries are punctual, and stand under the uris of their documents. -/
abbrev AllPunctual (w : Workspace) : Prop :=
  EntriesHold (fun _ doc entry => entry.Punctual doc) w

/-- In a workspace of punctual entries an open one is so for its document. -/
theorem AllPunctual.punctual (h : w.AllPunctual) {entry : Entry} {doc : Document}
    (found : w.open? uri = some (entry, doc)) : entry.Punctual doc := by
  obtain ⟨hentry, hdoc⟩ := open?_eq_some.1 found
  obtain ⟨own, hown, -, hpunctual⟩ := h uri entry hentry
  obtain rfl := Option.some.inj (hown.symm.trans hdoc)
  exact hpunctual

/-- A step with no report ahead of time leaves all entries punctual. -/
theorem Step.allPunctual (step : Step parser w happening later)
    (sound : w.services.registry.Sound) (timely : ledger.Timely happening)
    (tallies : ledger.Tallies w) (knows : ledger.Knows w) (h : w.AllPunctual) :
    later.AllPunctual := by
  intro uri entry found
  obtain ⟨doc, hdoc, hkey, hpunctual⟩ : ∃ doc, w.documents[entry.document]? = some doc ∧
      doc.uri = uri ∧ entry.Punctual doc := by
    cases step.fate found with
    | spared elsewhere hfound same =>
      obtain ⟨doc, hdoc, hkey, hpunctual⟩ := h uri _ hfound
      rw [Entry.document_of_untimed same]
      exact ⟨doc, hdoc, hkey, hpunctual.of_untimed same⟩
    | @opened id _ doc hdoc key same =>
      have hid := congrArg Entry.document same
      rw [show entry.document = id from hid]
      exact ⟨doc, hdoc, key, (Entry.Punctual.fresh id doc).of_untimed same⟩
    | reported hfound same =>
      obtain ⟨doc, hdoc, hkey, hpunctual⟩ := h uri _ hfound
      obtain ⟨place, hplace, hdocument⟩ := knows hfound
      have hversion := timely place hplace
      rw [hdocument, ← tallies.versions hdoc] at hversion
      rw [Entry.document_of_untimed same, Entry.applyChanges_document]
      exact ⟨doc, hdoc, hkey, (hpunctual.reported hversion _).of_untimed same⟩
    | parsed hfound parse =>
      obtain ⟨hentry, hdoc⟩ := open?_eq_some.1 hfound
      obtain ⟨own, hown, hkey, -⟩ := h uri _ hentry
      obtain rfl := Option.some.inj (hown.symm.trans hdoc)
      rw [parse.document]
      exact ⟨own, hdoc, hkey,
        (h.punctual hfound).parsed (step.leads.registry.sound sound) parse⟩
  -- So far the document is the one from before the step, which may have revised it.
  obtain ⟨next, hnext, rfl | ⟨changes, -, revision⟩⟩ := step.document hdoc
  · exact ⟨next, hnext, hkey, hpunctual⟩
  · exact ⟨next, hnext, revision.uri.trans hkey, hpunctual.revised revision⟩

section Running

variable {config : Config} {dataHome : String} {libraries : Libraries} {runtime : Bool}

/-- After a run without reports ahead of time, all entries are punctual. -/
theorem Run.punctual (run : Run parser (create config dataHome libraries runtime) trace w)
    (timely : Ledger.Along Ledger.Timely {} trace) :
    (Ledger.after {} trace).Tallies w ∧ (Ledger.after {} trace).Knows w ∧ w.AllPunctual := by
  -- By induction on the run: the versions and places that the ledger knows tell which reports are
  -- in time.
  induction run with
  | nil =>
    exact ⟨⟨rfl, fun found => (nomatch found)⟩, fun found => (nomatch found),
      fun _ _ found => (nomatch found)⟩
  | snoc earlier step ih =>
    obtain ⟨hbefore, htimely⟩ := Ledger.along_snoc.1 timely
    obtain ⟨htallies, hknows, hpunctual⟩ := ih hbefore
    rw [Ledger.after_snoc]
    exact ⟨step.tallies htallies, step.knows hknows,
      step.allPunctual earlier.sound htimely htallies hknows hpunctual⟩

end Running

end Workspace

/-! ## From the opening of an entry to its end -/

/-- The uri whose entry is replaced or dropped. -/
def Happening.replaced? : Happening → Option String
  | opened _ uri | closed uri => some uri
  | _ => none

namespace Workspace

variable {parser : Parser} {w later : Workspace} {happening : Happening} {uri : String}

/-- An entry is open until it is closed or replaced. -/
theorem Step.still_open (step : Step parser w happening later) {entry : Entry}
    (found : w.entries.find? uri = some entry) (kept : happening.replaced? ≠ some uri) :
    ∃ next, later.entries.find? uri = some next := by
  -- What counts is that there is an entry, not which.
  have hopen {documents : List Document} {entries : Table Entry}
      (after : w.Becomes documents entries later) (h : (entries.find? uri).isSome = true) :
      ∃ next, later.entries.find? uri = some next := by
    have hsame := congrArg Option.isSome (after.entries uri)
    rw [Option.isSome_map, Option.isSome_map, h] at hsame
    exact Option.isSome_iff_exists.1 hsame
  have hbefore : (w.entries.find? uri).isSome = true := by rw [found]; rfl
  have hinsert (other : String) (next : Entry) :
      ((w.entries.insert other next).find? uri).isSome = true := by
    rw [Table.find?_insert]
    split
    · rfl
    · exact hbefore
  cases step with
  | quiet after => exact hopen after hbefore
  | create other language text after => exact hopen after hbefore
  | revise _ revision after => exact hopen after hbefore
  | openDocument _ after => exact hopen after (hinsert _ _)
  | @close other _ after =>
    refine hopen after ?_
    rw [Table.find?_erase, if_neg]
    · exact hbefore
    · rintro rfl
      exact kept rfl
  | report version changes _ after => exact hopen after (hinsert _ _)
  | parse _ parse after => exact hopen after (hinsert _ _)

/-- As long as it is open, the committed tree of an entry is only replaced by later ones. -/
theorem Step.committed_le (step : Step parser w happening later) (punctual : w.AllPunctual)
    (kept : happening.replaced? ≠ some uri) {entry : Entry} {tree : SyntaxTree}
    (found : w.entries.find? uri = some entry) (committed : entry.committed = some tree) :
    ∃ next newer, later.entries.find? uri = some next ∧ next.committed = some newer ∧
      tree.version ≤ newer.version := by
  obtain ⟨next, hnext⟩ := step.still_open found kept
  -- An entry that is open after the step was there before, unless the step has opened it.
  cases step.fate hnext with
  | spared elsewhere hfound same =>
    obtain rfl := Option.some.inj (found.symm.trans hfound)
    have hcommitted := congrArg Entry.committed same
    exact ⟨next, tree, hnext, hcommitted.trans committed, Int.le_refl _⟩
  | opened => exact absurd rfl kept
  | reported hfound same =>
    obtain rfl := Option.some.inj (found.symm.trans hfound)
    have hcommitted := congrArg Entry.committed same
    refine ⟨next, tree, hnext, ?_, Int.le_refl _⟩
    exact hcommitted.trans ((entry.applyChanges_committed _ _).trans committed)
  | parsed hfound parse =>
    obtain rfl := Option.some.inj (found.symm.trans (open?_eq_some.1 hfound).1)
    -- The committed tree is of no later version than the document is, which is what was parsed.
    have hle := ((punctual.punctual hfound).versions tree committed).2
    cases parse with
    | commit outdated loaded parsed same =>
      have hcommitted := congrArg Entry.committed same
      exact ⟨next, _, hnext, hcommitted, hle⟩
    | fail counted outdated loaded failed same =>
      have hcommitted := congrArg Entry.committed same
      exact ⟨next, tree, hnext, hcommitted.trans committed, Int.le_refl _⟩

/-- A tree that is committed is of a later version than the one before. -/
theorem Step.committed_lt {previous : Option PreviousTree}
    (step : Step parser w (.parsed uri previous true) later) (punctual : w.AllPunctual)
    {entry next : Entry} {tree newer : SyntaxTree} (found : w.entries.find? uri = some entry)
    (committed : entry.committed = some tree) (after : later.entries.find? uri = some next)
    (newly : next.committed = some newer) : tree.version < newer.version := by
  cases step.fate after with
  | spared elsewhere hfound same => exact absurd rfl elsewhere
  | parsed hfound parse =>
    obtain rfl := Option.some.inj (found.symm.trans (open?_eq_some.1 hfound).1)
    cases parse with
    | commit outdated loaded parsed same =>
      have hcommitted := congrArg Entry.committed same
      obtain rfl := Option.some.inj (hcommitted.symm.trans newly)
      exact (punctual.punctual hfound).lt_of_outdated outdated committed

/-- In a step that does not revise its document, a current entry at most has its timer set. -/
theorem Step.rests {ledger : Ledger} (step : Step parser w happening later)
    (timely : ledger.Timely happening) (tallies : ledger.Tallies w) (knows : ledger.Knows w)
    (kept : happening.replaced? ≠ some uri) {entry : Entry} {doc : Document} {tree : SyntaxTree}
    (found : w.open? uri = some (entry, doc)) (punctual : entry.Punctual doc)
    (current : entry.currentTree? doc.version = some tree)
    (unrevised : ∀ text changes, happening ≠ .revised entry.document text changes) :
    (∀ previous committed, happening ≠ .parsed uri previous committed) ∧
      ∃ next, later.open? uri = some (next, doc) ∧ next.untimed = entry.untimed := by
  obtain ⟨hentry, hdoc⟩ := open?_eq_some.1 found
  obtain ⟨next, hnext⟩ := step.still_open hentry kept
  have hstill : later.documents[entry.document]? = some doc := by
    obtain ⟨after, hafter, rfl | ⟨changes, hrevised, -⟩⟩ := step.document hdoc
    · exact hafter
    · exact absurd hrevised (unrevised _ _)
  have hopen (same : next.untimed = entry.untimed) : later.open? uri = some (next, doc) := by
    refine open?_eq_some.2 ⟨hnext, ?_⟩
    rw [Entry.document_of_untimed same]
    exact hstill
  -- In each case the entry is the one from before, up to its timer.
  cases step.fate hnext with
  | spared elsewhere hfound same =>
    obtain rfl := Option.some.inj (hentry.symm.trans hfound)
    refine ⟨fun previous committed h => elsewhere ?_, next, hopen same, same⟩
    rw [h]
    rfl
  | opened => exact absurd rfl kept
  | reported hfound same =>
    -- The kept tree has reached the version of the document, so the report is dropped.
    obtain rfl := Option.some.inj (hentry.symm.trans hfound)
    obtain ⟨hcommitted, hstate, hversion⟩ := currentTree?_eq_some current
    have hreached := (punctual.upToDate hstate).1
    rw [hcommitted, Option.map_some, hversion] at hreached
    obtain ⟨place, hplace, hdocument⟩ := knows hentry
    have hle := timely place hplace
    rw [hdocument, ← tallies.versions hdoc] at hle
    rw [Entry.applyChanges_of_reached _ hreached hle] at same
    exact ⟨fun previous committed h => (nomatch h), next, hopen same, same⟩
  | parsed hfound parse =>
    obtain ⟨rfl, rfl⟩ := Prod.mk.inj (Option.some.inj (found.symm.trans hfound))
    cases parse with
    | commit outdated => exact nomatch current.symm.trans outdated
    | fail counted outdated => exact nomatch current.symm.trans outdated

section Running

variable {config : Config} {dataHome : String} {libraries : Libraries} {runtime : Bool}
  {before trace : List Happening} {updates : List Update}

/-- The versions of the updates of a uri. -/
def versionsOf (uri : String) (updates : List Update) : List Int :=
  (updates.filter (·.uri = uri)).map (·.tree.version)

/-- The versions of further updates come after those of the updates before. -/
theorem versionsOf_append (uri : String) (updates news : List Update) :
    versionsOf uri (updates ++ news) = versionsOf uri updates ++ versionsOf uri news := by
  unfold versionsOf
  rw [List.filter_append, List.map_append]

/-- The updates of an entry are of ascending versions, none of which is ahead of its committed tree. -/
theorem Broadcast.ascending
    (run : Run parser (create config dataHome libraries runtime) before w)
    (life : Broadcast parser w trace updates later)
    (timely : Ledger.Along Ledger.Timely {} (before ++ trace))
    (kept : ∀ happening ∈ trace, happening.replaced? ≠ some uri) :
    (versionsOf uri updates).Pairwise (· < ·) ∧
      ∀ version ∈ versionsOf uri updates, ∃ entry tree, later.entries.find? uri = some entry ∧
        entry.committed = some tree ∧ version ≤ tree.version := by
  -- By induction on the events; the versions so far are bounded by the tree that is committed.
  induction life with
  | nil => exact ⟨.nil, fun _ h => nomatch h⟩
  | @snoc trace updates news happening next later earlier step tells ih =>
    rw [← List.append_assoc] at timely
    obtain ⟨hbefore, -⟩ := Ledger.along_snoc.1 timely
    obtain ⟨-, -, hpunctual⟩ := (run.append earlier.run).punctual hbefore
    obtain ⟨hascending, hbounded⟩ := ih hbefore
      fun happening h => kept happening (List.mem_append_left _ h)
    have hkept := kept happening (List.mem_append_right _ List.mem_cons_self)
    -- Whatever happens, the earlier versions stay behind.
    have hstill (version : Int) (h : version ∈ versionsOf uri updates) : ∃ entry tree,
        later.entries.find? uri = some entry ∧ entry.committed = some tree ∧
          version ≤ tree.version := by
      obtain ⟨entry, tree, hentry, hcommitted, hle⟩ := hbounded version h
      obtain ⟨after, newer, hafter, hnewer, hnot⟩ :=
        step.committed_le hpunctual hkept hentry hcommitted
      exact ⟨after, newer, hafter, hnewer, Int.le_trans hle hnot⟩
    rw [versionsOf_append]
    -- Either nothing was committed, and so nothing told, or the news is of the tree that was.
    cases tells with
    | nothing uncommitted sent =>
      rw [show versionsOf uri [] = [] from rfl, List.append_nil]
      exact ⟨hascending, hstill⟩
    | @tree other previous entry doc tree found committed events =>
      obtain ⟨hentry, hdoc⟩ := open?_eq_some.1 found
      obtain ⟨own, hown, hkey, -⟩ := ((run.append earlier.run).snoc step).entriesHold
        (Committed.kept parser) other entry hentry
      obtain rfl := Option.some.inj (hown.symm.trans hdoc)
      subst hkey
      by_cases heq : own.uri = uri
      · subst heq
        rw [show versionsOf own.uri [⟨own.uri, tree⟩] = [tree.version] by simp [versionsOf]]
        refine ⟨List.pairwise_append.2 ⟨hascending, List.pairwise_singleton _ _, ?_⟩, ?_⟩
        -- All versions before are of trees that were committed before, which are behind the new
        -- one.
        · intro version hversion last hlast
          obtain rfl := List.mem_singleton.1 hlast
          obtain ⟨older, old, holder, hold, hle⟩ := hbounded version hversion
          exact Int.lt_of_le_of_lt hle
            (step.committed_lt hpunctual holder hold hentry committed)
        · intro version hversion
          rcases List.mem_append.1 hversion with hversion | hversion
          · exact hstill version hversion
          · obtain rfl := List.mem_singleton.1 hversion
            exact ⟨entry, tree, hentry, committed, Int.le_refl _⟩
      -- The news is of another uri.
      · rw [show versionsOf uri [⟨own.uri, tree⟩] = [] by simp [versionsOf, heq],
          List.append_nil]
        exact ⟨hascending, hstill⟩

/-- An entry that is current rests, but for its timer, until its document is revised: whatever else
    happens, it is not parsed. -/
theorem Broadcast.settled
    (run : Run parser (create config dataHome libraries runtime) before w)
    (life : Broadcast parser w trace updates later)
    (timely : Ledger.Along Ledger.Timely {} (before ++ trace))
    (kept : ∀ happening ∈ trace, happening.replaced? ≠ some uri) {entry : Entry} {doc : Document}
    {tree : SyntaxTree} (found : w.open? uri = some (entry, doc))
    (current : entry.currentTree? doc.version = some tree)
    (unrevised : ∀ text changes, .revised entry.document text changes ∉ trace) :
    (∀ previous committed, .parsed uri previous committed ∉ trace) ∧
      ∃ next, later.open? uri = some (next, doc) ∧ next.untimed = entry.untimed := by
  -- By induction on the events: in each of them the entry rests, and so is still current for the
  -- next one.
  induction life with
  | nil => exact ⟨fun _ _ h => (nomatch h), entry, found, rfl⟩
  | @snoc trace updates news happening middle later earlier step tells ih =>
    rw [← List.append_assoc] at timely
    obtain ⟨hbefore, htimely⟩ := Ledger.along_snoc.1 timely
    obtain ⟨htallies, hknows, hpunctual⟩ := (run.append earlier.run).punctual hbefore
    obtain ⟨hunparsed, same, hsame, huntimed⟩ := ih hbefore
      (fun happening h => kept happening (List.mem_append_left _ h))
      (fun text changes h => unrevised text changes (List.mem_append_left _ h))
    have hkept := kept happening (List.mem_append_right _ List.mem_cons_self)
    have hcurrent : same.currentTree? doc.version = some tree :=
      (Entry.currentTree?_of_untimed huntimed doc.version).trans current
    obtain ⟨hnot, next, hnext, hagain⟩ := step.rests htimely htallies hknows hkept hsame
      (hpunctual.punctual hsame) hcurrent (fun text changes h => by
        rw [Entry.document_of_untimed huntimed] at h
        exact unrevised text changes (h ▸ List.mem_append_right _ List.mem_cons_self))
    refine ⟨fun previous committed h => ?_, next, hnext, hagain.trans huntimed⟩
    rcases List.mem_append.1 h with h | h
    · exact hunparsed previous committed h
    · exact hnot previous committed (List.mem_singleton.1 h).symm

/-- Whoever asks for a tree that is current is given it at once: nothing is parsed or published, and at
    most a timer is cancelled or its coming counted. -/
theorem idle_of_current {entry : Entry} {doc : Document} {tree : SyntaxTree}
    (found : w.open? uri = some (entry, doc))
    (current : entry.currentTree? doc.version = some tree) (parser : Parser) :
    (w.treeNow parser uri).1.services = w.services ∧
      (w.treeNow parser uri).2 = .ok tree ∧
      (w.reparseNow parser uri).1.services = (w.services.cancelTimer entry).1 ∧
      (w.reparseNow parser uri).2 = .ok (some tree) ∧
      ∀ generation, (w.timerFired parser uri generation).services = w.services ∨
        (w.timerFired parser uri generation).services =
          w.services.measure Metrics.recordScheduledFire := by
  -- A current entry hands out its tree, whatever its timer says.
  have htree := Services.treeNow_of_current (s := w.services) parser current
  have hreparse (s : Services) (timer : Timer) :
      s.reparse parser doc { entry with timer := timer } =
        (s, { entry with timer := timer }, .ok (some tree)) :=
    Services.reparse_of_current parser current
  have hcancelled := hreparse (w.services.cancelTimer entry).1 entry.timer.cancelled
  rw [← w.services.cancelTimer_entry entry] at hcancelled
  refine ⟨?_, ?_, ?_, ?_, fun generation => ?_⟩
  · exact (onEntry_services found _).trans (congrArg Prod.fst htree)
  · exact (onEntry_answer found _).trans (congrArg (·.2.2) htree)
  · exact (onEntry_services found _).trans (congrArg Prod.fst hcancelled)
  · exact (onEntry_answer found _).trans (congrArg (·.2.2) hcancelled)
  · unfold timerFired
    rw [found]
    show (w.services.fire parser doc entry generation).1 = _ ∨
      (w.services.fire parser doc entry generation).1 = _
    unfold Services.fire
    split
    · exact .inl rfl
    · dsimp only
      rw [hreparse]
      exact .inr rfl

end Running

/-- A document is opened before somebody who wants to be told. -/
def openedBefore : List Event := [
  .action (.create "file:///a.js" "javascript" ['a', ';']),
  .action .subscribe,
  .action (.openDocument 0)]

/-- Its tree is looked at twice, and after an edit twice again; the edit is reported late and once
    more. -/
def lookedAtTwice : List Event := [
  .action (.treeNow "file:///a.js"),
  .action (.reparseNow "file:///a.js"),
  .action (.edit 0 [.insert 0 ['b']]),
  .action (.treeNow "file:///a.js"),
  .action (.report "file:///a.js" 1 [⟨0, 0, ['b'], ⟨0, 0⟩, ⟨0, 0⟩⟩]),
  .action (.report "file:///a.js" 1 [⟨0, 0, ['b'], ⟨0, 0⟩, ⟨0, 0⟩⟩]),
  .action (.advance 1000),
  .action (.treeNow "file:///a.js")]

end Workspace

end LiveTree
