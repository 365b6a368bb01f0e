import LiveTree.Parser.Recorded
import LiveTree.Proofs.Events
import LiveTree.Proofs.Journal

/-!
# The kept tree is in step with the text

A parse that is helped by a kept tree relies on that tree: it must have been parsed from an earlier
text of the document and told all changes since, each once and in order.  The engine cannot see to
that alone; it compares one version number.  This file shows that the comparison suffices for an
orderly host: one that reports the changes of every version in order, however late, and perhaps time
and again.

The invariant is that the kept tree is at some version which all reports so far have reached, and is
never beyond what the document has gone through.

## Key results

- `Ledger.Tracks`: the invariant between a ledger and its workspace, and `Step.tracks`: each permitted
  step keeps it
- `kept_tree_in_step`: whenever a parse is handed a kept tree, the changes applied to that tree lead
  from the text it was parsed from to the text that is parsed
-/

namespace LiveTree

/-- The journal of a document is about the document as it is. -/
structure Journal.Describes (journal : Journal) (doc : Document) : Prop where
  version : doc.version = journal.version
  text : journal.text? journal.version = some doc.text
  sound : journal.Sound

/-- A kept tree was parsed from the text of version `u`, and the changes that led from there to version
    `v` have been applied to it. -/
structure Journal.InStep (journal : Journal) (previous : PreviousTree) (u v : Nat) : Prop where
  le : u ≤ v
  reached : v ≤ journal.version
  text : journal.text? u = some previous.text
  changes : previous.changes = journal.between u v

namespace Journal

/-- A document that was just made. -/
theorem describes_create (uri language : String) (text : Text) :
    Describes ⟨text, []⟩ (.create uri language text) where
  version := rfl
  text := rfl
  sound := sound_first text

/-- A revision whose texts fit into memory can be written down. -/
theorem Describes.push {journal : Journal} {doc next : Document} {changes : List Change}
    (h : journal.Describes doc) (revision : doc.Revision next changes)
    (small : doc.text.SmallAlong changes) :
    (journal.push ⟨changes, next.text⟩).Describes next where
  version := by
    rw [revision.version, h.version, version_push]
    rfl
  text := by
    rw [version_push]
    exact journal.text?_push_version _
  sound := h.sound.push h.text revision.replay (revision.fits small)

/-- A further revision leaves a kept tree in step up to its own version. -/
theorem InStep.push {journal : Journal} {previous : PreviousTree} {u v : Nat}
    (h : journal.InStep previous u v) (revision : Revised) :
    (journal.push revision).InStep previous u v where
  le := h.le
  reached := by
    rw [version_push]
    exact Nat.le_succ_of_le h.reached
  text := by
    rw [journal.text?_push revision (Nat.le_trans h.le h.reached)]
    exact h.text
  changes := by
    rw [journal.between_push revision u h.reached]
    exact h.changes

/-- The changes of the next revision bring the kept tree to the next version. -/
theorem InStep.edit {journal : Journal} {previous : PreviousTree} {u v : Nat} {revision : Revised}
    (h : journal.InStep previous u v) (found : journal.revisions[v]? = some revision) :
    journal.InStep (previous.edit revision.changes) u (v + 1) where
  le := Nat.le_succ_of_le h.le
  reached := (List.getElem?_eq_some_iff.1 found).1
  text := h.text
  changes := by
    rw [between_succ h.le found, ← h.changes]
    rfl

/-- A tree fresh from the parser is at the version it was parsed from. -/
theorem inStep_ofParse {journal : Journal} {doc : Document} (h : journal.Describes doc)
    (tree : ParseTree) :
    journal.InStep (.ofParse doc.text tree) journal.version journal.version where
  le := Nat.le_refl _
  reached := Nat.le_refl _
  text := h.text
  changes := (journal.between_self _).symm

/-- The changes applied to a kept tree lead to the text of its version. -/
theorem InStep.text?_eq {journal : Journal} {previous : PreviousTree} {u v : Nat} {text : Text}
    (h : journal.InStep previous u v) (sound : journal.Sound)
    (found : journal.text? v = some text) : previous.text? = some text := by
  rw [previous.text?_eq, h.changes]
  exact sound.replay_between h.le h.text found

end Journal

/-- An entry follows the journal of its document: its kept tree, if there is one, is at a version that
    all reports so far have reached. -/
structure Entry.Follows (entry : Entry) (journal : Journal) (place : Place) : Prop where
  document : place.document = entry.document
  reported : place.reported ≤ journal.version
  kept : ∀ previous, entry.previous = some previous → ∃ u v : Nat,
    entry.previousVersion = some (v : Int) ∧ place.reported ≤ v ∧ journal.InStep previous u v

namespace Entry.Follows

variable {entry : Entry} {journal : Journal} {place : Place}

/-- Only the document, the kept tree and its version matter for whether an entry follows a journal.
    -/
theorem congr {later : Entry} (h : entry.Follows journal place)
    (document : later.document = entry.document) (previous : later.previous = entry.previous)
    (version : later.previousVersion = entry.previousVersion) : later.Follows journal place := by
  refine ⟨by rw [h.document, document], h.reported, ?_⟩
  rw [previous, version]
  exact h.kept

/-- So the timer of an entry does not matter for it. -/
theorem of_untimed {later : Entry} (h : entry.Follows journal place)
    (same : later.untimed = entry.untimed) : later.Follows journal place := by
  have hprevious := congrArg Entry.previous same
  have hversion := congrArg Entry.previousVersion same
  exact h.congr (Entry.document_of_untimed same) hprevious hversion

/-- An entry follows a journal that is given one more revision. -/
theorem push (h : entry.Follows journal place) (revision : Revised) :
    entry.Follows (journal.push revision) place where
  document := h.document
  reported := by
    rw [Journal.version_push]
    exact Nat.le_succ_of_le h.reported
  kept previous found := by
    obtain ⟨u, v, hversion, hreported, hstep⟩ := h.kept previous found
    exact ⟨u, v, hversion, hreported, hstep.push revision⟩

/-- A fresh entry has no tree that could be out of step. -/
theorem fresh (id : DocumentId) (journal : Journal) :
    Entry.Follows { document := id } journal ⟨id, journal.version⟩ where
  document := rfl
  reported := Nat.le_refl _
  kept _ found := nomatch found

/-- A report that is permitted is dropped if the kept tree is beyond it; otherwise it is the next one
    and brings the tree to its version. -/
theorem applyChanges (h : entry.Follows journal place) (sound : journal.Sound) {v : Nat}
    {revision : Revised} (next : v ≤ place.reported)
    (found : journal.revisions[v]? = some revision) :
    (entry.applyChanges revision.changes (v + 1 : Nat)).1.Follows journal
      ⟨place.document, max place.reported (v + 1)⟩ := by
  have hreached : v < journal.version := (List.getElem?_eq_some_iff.1 found).1
  have hbound := h.reported
  refine ⟨by rw [Entry.applyChanges_document]; exact h.document, by dsimp only; omega, ?_⟩
  intro previous hprevious
  -- Without a kept tree there is nothing to be dropped from or applied to.
  cases hkept : entry.previous with
  | none =>
    rw [Entry.applyChanges_of_none _ _ hkept] at hprevious
    exact nomatch hkept.symm.trans hprevious
  | some kept =>
    obtain ⟨u, reached, hversion, hreported, hstep⟩ := h.kept kept hkept
    -- Either the kept tree has reached the version, or the report is the next one.
    by_cases hle : ((v + 1 : Nat) : Int) ≤ reached
    · rw [Entry.applyChanges_of_reached _ hversion hle] at hprevious ⊢
      obtain rfl := Option.some.inj (hkept.symm.trans hprevious)
      exact ⟨u, reached, hversion, by dsimp only; omega, hstep⟩
    · -- The kept tree is at the version just before the report.
      obtain rfl : reached = v := by omega
      have hfits := sound.fits revision (List.mem_of_getElem? found)
      rw [Entry.applyChanges_of_newer hkept hversion hle hfits] at hprevious ⊢
      obtain rfl := Option.some.inj hprevious
      exact ⟨u, reached + 1, rfl, by dsimp only; omega, hstep.edit found⟩

/-- A parse that commits puts the kept tree at the version of the document; one that fails leaves it
    where it is. -/
theorem parse {parser : Parser} {s : Services} {doc : Document} {later : Entry}
    {previous : Option PreviousTree} {committed : Bool} (h : entry.Follows journal place)
    (describes : journal.Describes doc)
    (parse : Parse parser s doc entry previous committed later) :
    later.Follows journal place := by
  cases parse with
  | commit _ _ _ same =>
    have hdocument := congrArg Entry.document same
    have hprevious := congrArg Entry.previous same
    have hversion := congrArg Entry.previousVersion same
    refine ⟨h.document.trans hdocument.symm, h.reported, ?_⟩
    intro fresh hfresh
    obtain rfl := Option.some.inj (hprevious.symm.trans hfresh)
    refine ⟨_, journal.version, ?_, h.reported, Journal.inStep_ofParse describes _⟩
    exact hversion.trans (congrArg some describes.version)
  | fail counted _ _ _ same =>
    have hdocument := congrArg Entry.document same
    have hprevious := congrArg Entry.previous same
    have hversion := congrArg Entry.previousVersion same
    exact h.congr hdocument hprevious hversion

end Entry.Follows

namespace Ledger

/-! ## What is written down -/

/-- A report is about what is open, not about the journals. -/
theorem note_reported_journals (ledger : Ledger) (uri : String) (version : Int)
    (changes : List Change) (outcome : EditOutcome) :
    (ledger.note (.reported uri version changes outcome)).journals = ledger.journals := by
  unfold note
  dsimp only
  split <;> rfl

/-- A report that is heard moves on what has been reported. -/
theorem note_reported_place {ledger : Ledger} {uri : String} {place : Place}
    (found : ledger.places.find? uri = some place) (version : Int) (changes : List Change)
    (outcome : EditOutcome) :
    (ledger.note (.reported uri version changes outcome)).places.find? uri =
      some ⟨place.document, max place.reported version.toNat⟩ := by
  unfold note
  dsimp only
  rw [found]
  exact Table.find?_insert_self _ _ _

/-- A journal stays as it is or is given one more revision. -/
theorem note_journal {ledger : Ledger} {id : DocumentId} {journal : Journal}
    (found : ledger.journals[id]? = some journal) (happening : Happening) :
    ∃ next, (ledger.note happening).journals[id]? = some next ∧
      (next = journal ∨ ∃ revision, next = journal.push revision) := by
  cases happening with
  | quiet => exact ⟨journal, found, .inl rfl⟩
  | parsed uri previous committed => exact ⟨journal, found, .inl rfl⟩
  | opened other uri => exact ⟨journal, found, .inl rfl⟩
  | closed uri => exact ⟨journal, found, .inl rfl⟩
  | reported uri version changes outcome =>
    exact ⟨journal, by rw [note_reported_journals]; exact found, .inl rfl⟩
  | created text =>
    have hlt := (List.getElem?_eq_some_iff.1 found).1
    exact ⟨journal, (List.getElem?_append_left hlt).trans found, .inl rfl⟩
  -- Only the journal of the document that was revised is given the revision.
  | revised other text changes =>
    show ∃ next, (ledger.journals.modify other (·.push ⟨changes, text⟩))[id]? = some next ∧ _
    by_cases heq : other = id
    · subst heq
      rw [List.getElem?_modify_eq, found]
      exact ⟨_, rfl, .inr ⟨_, rfl⟩⟩
    · rw [List.getElem?_modify_ne _ _ heq]
      exact ⟨journal, found, .inl rfl⟩

/-- What happens elsewhere leaves open what is open. -/
theorem note_place_elsewhere (ledger : Ledger) {uri : String} {happening : Happening}
    (h : happening.uri? ≠ some uri) :
    (ledger.note happening).places.find? uri = ledger.places.find? uri := by
  have hne {other : String} (hother : some other ≠ some uri) : ¬ uri = other := by
    rintro rfl
    exact hother rfl
  cases happening with
  | quiet => rfl
  | parsed other previous committed => rfl
  | created text => rfl
  | revised id text changes => rfl
  | opened id other => exact (Table.find?_insert _ _ _ _).trans (if_neg (hne h))
  | closed other => exact (Table.find?_erase _ _ _).trans (if_neg (hne h))
  | reported other version changes outcome =>
    unfold note
    dsimp only
    split
    · rfl
    · exact (Table.find?_insert _ _ _ _).trans (if_neg (hne h))

/-- There is room in memory for a revision of a document: all texts on the way are of fewer than 2^64
    bytes. -/
def RoomFor (ledger : Ledger) (id : DocumentId) (changes : List Change) : Prop :=
  ∀ journal (text : Text), ledger.journals[id]? = some journal →
    journal.text? journal.version = some text → text.SmallAlong changes

/-- A ledger has the records of a workspace: every document has its journal. -/
structure Records (ledger : Ledger) (w : Workspace) : Prop where
  length : ledger.journals.length = w.documents.length
  documents : ∀ {id : DocumentId} {doc : Document}, w.documents[id]? = some doc →
    ∃ journal : Journal, ledger.journals[id]? = some journal ∧ journal.Describes doc

/-- The empty ledger has the records of the empty workspace. -/
theorem records_create (config : Config) (dataHome : String) (libraries : Libraries)
    (runtime : Bool) : Records {} (.create config dataHome libraries runtime) where
  length := rfl
  documents found := nomatch found

/-- The journal of a document tells how its texts came about. -/
theorem Records.sound {ledger : Ledger} {w : Workspace} (records : ledger.Records w)
    {id : DocumentId} {journal : Journal} (found : ledger.journals[id]? = some journal) :
    journal.Sound := by
  have hlt : id < w.documents.length := by
    rw [← records.length]
    exact (List.getElem?_eq_some_iff.1 found).1
  obtain ⟨own, hown, hdescribes⟩ := records.documents (List.getElem?_eq_getElem hlt)
  obtain rfl := Option.some.inj (hown.symm.trans found)
  exact hdescribes.sound

/-- A ledger knows which document is open under each uri. -/
def Knows (ledger : Ledger) (w : Workspace) : Prop :=
  ∀ {uri : String} {entry : Entry}, w.entries.find? uri = some entry →
    ∃ place, ledger.places.find? uri = some place ∧ place.document = entry.document

/-- A ledger is about a workspace: every document has its journal, and every open entry follows the
    journal of its document. -/
structure Tracks (ledger : Ledger) (w : Workspace) : Prop extends Records ledger w where
  entries : ∀ {uri : String} {entry : Entry}, w.entries.find? uri = some entry → ∃ place journal,
    ledger.places.find? uri = some place ∧ ledger.journals[entry.document]? = some journal ∧
      entry.Follows journal place

end Ledger

namespace Workspace

variable {parser : Parser} {ledger : Ledger} {w later : Workspace} {happening : Happening}

/-- What has happened, in a step, to the document of a name and to its journal. -/
inductive Entered (ledger : Ledger) (w : Workspace) (happening : Happening) (id : DocumentId) :
    Document → Prop where
  | same {doc : Document} (found : w.documents[id]? = some doc)
      (journal : (ledger.note happening).journals[id]? = ledger.journals[id]?) :
      Entered ledger w happening id doc
  | made (uri language : String) (text : Text)
      (journal : (ledger.note happening).journals[id]? = some ⟨text, []⟩) :
      Entered ledger w happening id (.create uri language text)
  | revised {doc next : Document} {changes : List Change} (found : w.documents[id]? = some doc)
      (revision : doc.Revision next changes) (told : happening = .revised id next.text changes)
      (journal : (ledger.note happening).journals[id]? =
        (ledger.journals[id]?).map (·.push ⟨changes, next.text⟩)) :
      Entered ledger w happening id next

/-- The journals go with the documents, one by one. -/
theorem Step.entered (step : Step parser w happening later)
    (length : ledger.journals.length = w.documents.length) :
    (ledger.note happening).journals.length = later.documents.length ∧
      ∀ {id : DocumentId} {doc : Document}, later.documents[id]? = some doc →
        Entered ledger w happening id doc := by
  -- Most steps are about neither documents nor journals.
  have hsame (documents : later.documents = w.documents)
      (journals : (ledger.note happening).journals = ledger.journals) :
      (ledger.note happening).journals.length = later.documents.length ∧
        ∀ {id : DocumentId} {doc : Document}, later.documents[id]? = some doc →
          Entered ledger w happening id doc := by
    refine ⟨by rw [journals, documents, length], fun {id doc} found => ?_⟩
    rw [documents] at found
    exact .same found (by rw [journals])
  cases step with
  | quiet after => exact hsame after.documents rfl
  | openDocument found after => exact hsame after.documents rfl
  | close after => exact hsame after.documents rfl
  | parse found parse after => exact hsame after.documents rfl
  | report version changes found after =>
    exact hsame after.documents (ledger.note_reported_journals _ _ _ _)
  | create uri language text after =>
    have hjournals : (ledger.note (.created text)).journals = ledger.journals ++ [⟨text, []⟩] := rfl
    refine ⟨by rw [hjournals, after.documents]; simp [length], fun {id doc} found => ?_⟩
    rw [after.documents] at found
    -- The new document gets the next name, and so does its journal.
    by_cases hlt : id < w.documents.length
    · rw [List.getElem?_append_left hlt] at found
      exact .same found (by rw [hjournals, List.getElem?_append_left (by rw [length]; exact hlt)])
    · have hid := (List.getElem?_eq_some_iff.1 found).1
      rw [List.length_append, List.length_singleton] at hid
      obtain rfl : id = w.documents.length :=
        Nat.le_antisymm (Nat.le_of_lt_succ hid) (Nat.le_of_not_lt hlt)
      rw [List.getElem?_concat_length] at found
      obtain rfl := Option.some.inj found
      exact .made uri language text (by rw [hjournals, ← length, List.getElem?_concat_length])
  | @revise other doc next changes _ found revision after =>
    have hjournals : (ledger.note (.revised other next.text changes)).journals =
      ledger.journals.modify other (·.push ⟨changes, next.text⟩) := rfl
    refine ⟨by rw [hjournals, after.documents]; simp [length], fun {id own} hown => ?_⟩
    rw [after.documents] at hown
    -- The revision goes to its own document, and its journal with it.
    by_cases heq : other = id
    · subst heq
      rw [List.getElem?_set_self (List.getElem?_eq_some_iff.1 found).1] at hown
      obtain rfl := Option.some.inj hown
      exact .revised found revision rfl (by rw [hjournals, List.getElem?_modify_eq]; rfl)
    · rw [List.getElem?_set_ne heq] at hown
      exact .same hown (by rw [hjournals, List.getElem?_modify_ne _ _ heq])

/-- The journals go with the documents, as long as there is room for the revisions. -/
theorem Step.records (step : Step parser w happening later)
    (room : ∀ id text changes, happening = .revised id text changes → ledger.RoomFor id changes)
    (records : ledger.Records w) : (ledger.note happening).Records later := by
  obtain ⟨hlength, hentered⟩ := step.entered records.length
  refine ⟨hlength, fun found => ?_⟩
  cases hentered found with
  | same hbefore hjournal =>
    rw [hjournal]
    exact records.documents hbefore
  | made uri language text hjournal =>
    exact ⟨_, hjournal, Journal.describes_create uri language text⟩
  | @revised doc _ changes hbefore revision told hjournal =>
    -- The revised text is replayed from the text that the journal has last.
    obtain ⟨journal, hown, hdescribes⟩ := records.documents hbefore
    rw [hjournal, hown]
    exact ⟨_, rfl, hdescribes.push revision
      (room _ _ _ told journal doc.text hown hdescribes.text)⟩

/-- What is open goes with what is written down. -/
theorem Step.knows (step : Step parser w happening later) (knows : ledger.Knows w) :
    (ledger.note happening).Knows later := by
  intro uri entry found
  -- The entry was there before, or it has just been opened; in between it may have heard or been
  -- parsed.
  cases step.fate found with
  | spared elsewhere hfound same =>
    rw [ledger.note_place_elsewhere elsewhere, Entry.document_of_untimed same]
    exact knows hfound
  | @opened id _ doc hdoc key same =>
    have hdocument := congrArg Entry.document same
    exact ⟨⟨id, ledger.versionOf id⟩, Table.find?_insert_self _ _ _, hdocument.symm⟩
  | reported hfound same =>
    obtain ⟨place, hplace, hdocument⟩ := knows hfound
    refine ⟨_, Ledger.note_reported_place hplace _ _ _, ?_⟩
    rw [Entry.document_of_untimed same, Entry.applyChanges_document]
    exact hdocument
  | parsed hfound parse =>
    obtain ⟨place, hplace, hdocument⟩ := knows (open?_eq_some.1 hfound).1
    exact ⟨place, hplace, hdocument.trans parse.document.symm⟩

/-- The entries go with the reports that are permitted. -/
theorem Step.follows (step : Step parser w happening later) (permits : ledger.Permits happening)
    (tracks : ledger.Tracks w) {uri : String} {entry : Entry}
    (found : later.entries.find? uri = some entry) :
    ∃ place journal, (ledger.note happening).places.find? uri = some place ∧
      (ledger.note happening).journals[entry.document]? = some journal ∧
      entry.Follows journal place := by
  cases step.fate found with
  | spared elsewhere hfound same =>
    obtain ⟨place, journal, hplace, hjournal, hfollows⟩ := tracks.entries hfound
    obtain ⟨next, hnext, hgrown⟩ := Ledger.note_journal hjournal happening
    rw [ledger.note_place_elsewhere elsewhere, Entry.document_of_untimed same]
    refine ⟨place, next, hplace, hnext, ?_⟩
    -- Its document may have been revised, which is no news to the entry.
    rcases hgrown with rfl | ⟨revision, rfl⟩
    · exact hfollows.of_untimed same
    · exact (hfollows.push revision).of_untimed same
  | @opened id _ doc hdoc key same =>
    obtain ⟨journal, hjournal, -⟩ := tracks.documents hdoc
    have hversion : ledger.versionOf id = journal.version := by
      unfold Ledger.versionOf
      rw [hjournal]
      rfl
    have hdocument : entry.document = id := by
      have := congrArg Entry.document same
      exact this
    refine ⟨⟨id, ledger.versionOf id⟩, journal, Table.find?_insert_self _ _ _, ?_, ?_⟩
    · rw [hdocument]; exact hjournal
    · rw [hversion]; exact (Entry.Follows.fresh id journal).of_untimed same
  | @reported _ earlier version changes hfound same =>
    obtain ⟨place, journal, hplace, hjournal, hfollows⟩ := tracks.entries hfound
    -- What is reported is the next revision, or one that has been reported before.
    obtain ⟨v, revision, rfl, hnext, hrevision, rfl⟩ :=
      permits place journal hplace (by rw [hfollows.document]; exact hjournal)
    have hsound := tracks.sound hjournal
    refine ⟨_, journal, Ledger.note_reported_place hplace _ _ _, ?_, ?_⟩
    · rw [Ledger.note_reported_journals, Entry.document_of_untimed same,
        Entry.applyChanges_document]
      exact hjournal
    · exact (hfollows.applyChanges hsound hnext hrevision).of_untimed same
  | parsed hfound parse =>
    obtain ⟨hentry, hdoc⟩ := open?_eq_some.1 hfound
    obtain ⟨place, journal, hplace, hjournal, hfollows⟩ := tracks.entries hentry
    obtain ⟨own, hown, hdescribes⟩ := tracks.documents hdoc
    obtain rfl := Option.some.inj (hown.symm.trans hjournal)
    refine ⟨place, own, hplace, ?_, hfollows.parse hdescribes parse⟩
    -- The parse is of the document that the journal describes.
    rw [parse.document]
    exact hjournal

/-- Every step that is permitted keeps the ledger in line with the workspace. -/
theorem Step.tracks (step : Step parser w happening later) (permits : ledger.Permits happening)
    (tracks : ledger.Tracks w) : (ledger.note happening).Tracks later where
  toRecords := by
    refine step.records (fun id text changes heq => ?_) tracks.toRecords
    rw [heq] at permits
    exact permits
  entries := step.follows permits tracks

variable {config : Config} {dataHome : String} {libraries : Libraries} {runtime : Bool}
  {trace : List Happening}

/-- The ledger of an orderly run is about the workspace that the run has led to. -/
theorem Run.tracks (run : Run parser (create config dataHome libraries runtime) trace w)
    (orderly : Ledger.Orderly {} trace) : (Ledger.after {} trace).Tracks w := by
  -- By induction on the run, along with the ledger of what has happened so far.
  induction run with
  | nil =>
    refine ⟨Ledger.records_create config dataHome libraries runtime, fun found => ?_⟩
    exact nomatch found
  | snoc _ step ih =>
    obtain ⟨hbefore, hpermits⟩ := Ledger.orderly_snoc.1 orderly
    rw [Ledger.after_snoc]
    exact step.tracks hpermits (ih hbefore)

/-- A kept tree is what the parser answered to the text it was parsed from. -/
def Derived (parser : Parser) (s : Services) (doc : Document) (entry : Entry) : Prop :=
  ∀ previous, entry.previous = some previous → ∃ older,
    parser doc.language previous.text older s.config.parseTimeoutMs = some previous.tree

/-- Whatever happens to an entry, its kept tree came of the parser. -/
theorem Derived.kept (parser : Parser) : Kept parser (Derived parser) where
  untimed h same previous found := by
    have hprevious := congrArg Entry.previous same
    exact h previous (hprevious.symm.trans found)
  leads leads h previous found := by
    rw [leads.config]
    exact h previous found
  fresh _ _ _ _ found := nomatch found
  revised revision h previous found := by
    rw [revision.language]
    exact h previous found
  reported changes version h next found := by
    obtain ⟨previous, hprevious, htext, htree⟩ := Entry.applyChanges_previous found
    -- A report that is applied edits the tree, which was still parsed from the same text.
    rw [htext, htree]
    exact h previous hprevious
  parsed sound h parse previous found := by
    cases parse with
    | commit outdated loaded parsed same =>
      have hprevious := congrArg Entry.previous same
      obtain rfl := Option.some.inj (hprevious.symm.trans found)
      have hanswer := Parser.of_paced (Pool.attempt_eq_ok.1 parsed).2
      rw [sound _ _ loaded] at hanswer
      exact ⟨_, hanswer⟩
    | fail counted outdated loaded failed same =>
      have hprevious := congrArg Entry.previous same
      exact h previous (hprevious.symm.trans found)

/-- A parse is of the document that is open, and is handed what the entry has kept for its version. -/
theorem Step.handed {uri : String} {previous : Option PreviousTree} {committed : Bool}
    (step : Step parser w (.parsed uri previous committed) later) :
    ∃ entry doc, w.open? uri = some (entry, doc) ∧
      (entry.beginParse doc.version).2 = previous := by
  cases step with
  | parse found parse after => exact ⟨_, _, found, parse.previous_eq⟩

/-- A kept tree that is handed out is at the version to be parsed. -/
theorem beginParse_eq_some {entry : Entry} {version : Int} {previous : PreviousTree}
    (h : (entry.beginParse version).2 = some previous) :
    entry.previous = some previous ∧ entry.previousVersion = some version := by
  change entry.previousFor? version = some previous at h
  unfold Entry.previousFor? at h
  split at h
  · next hversion => exact ⟨h, hversion⟩
  · exact nomatch h

/-- After any run in which the host reports the changes of all versions in order, late or repeatedly,
    a parse that is handed a kept tree can rely on it.  The tree is what the parser answered to some
    earlier text of the document; the changes applied to it since are those between that version and
    the one that is parsed, each once and in order; and they lead to the very text that is parsed.
    This is so of whatever an entry would hand out, and a parse is handed nothing else. -/
theorem kept_tree_in_step (run : Run parser (create config dataHome libraries runtime) trace w)
    (orderly : Ledger.Orderly {} trace) (uri : String) (previous : PreviousTree) :
    (∀ entry doc, w.open? uri = some (entry, doc) →
      (entry.beginParse doc.version).2 = some previous →
      ∃ journal u, (Ledger.after {} trace).journals[entry.document]? = some journal ∧
        doc.version = journal.version ∧ journal.text? journal.version = some doc.text ∧
        u ≤ journal.version ∧ journal.text? u = some previous.text ∧
        (∃ older, parser doc.language previous.text older config.parseTimeoutMs =
          some previous.tree) ∧
        previous.changes = journal.between u journal.version ∧
        previous.text? = some doc.text) ∧
    (∀ committed later, Step parser w (.parsed uri (some previous) committed) later →
      ∃ entry doc, w.open? uri = some (entry, doc) ∧
        (entry.beginParse doc.version).2 = some previous) := by
  refine ⟨?_, fun committed later step => step.handed⟩
  intro entry doc found handed
  obtain ⟨hentry, hdoc⟩ := open?_eq_some.1 found
  have htracks := run.tracks orderly
  obtain ⟨place, journal, -, hjournal, hfollows⟩ := htracks.entries hentry
  obtain ⟨own, hown, hdescribes⟩ := htracks.documents hdoc
  obtain rfl := Option.some.inj (hown.symm.trans hjournal)
  -- The kept tree has been brought to the very version that is parsed.
  obtain ⟨hprevious, hversion⟩ := beginParse_eq_some handed
  obtain ⟨u, v, hreached, -, hstep⟩ := hfollows.kept previous hprevious
  obtain rfl : v = own.version := by
    have hsame := Option.some.inj (hversion.symm.trans hreached)
    have hdescribed := hdescribes.version
    omega
  obtain ⟨older, hanswer⟩ := run.open?_holds (Derived.kept parser) found previous hprevious
  rw [run.config_eq] at hanswer
  exact ⟨own, u, hjournal, hdescribes.version, hdescribes.text, hstep.le, hstep.text,
    ⟨older, hanswer⟩, hstep.changes, hstep.text?_eq hdescribes.sound hdescribes.text⟩

/-- Two versions are reached before either is reported, and the report of the first comes twice. -/
def lateReports : List Event := [
  .action (.create "file:///a.js" "javascript" ['a', ';']),
  .action (.openDocument 0),
  .action (.treeNow "file:///a.js"),
  .action (.edit 0 [.insert 0 ['b']]),
  .action (.edit 0 [.insert 1 ['c'], .delete ⟨0, 1⟩]),
  .action (.report "file:///a.js" 1 [⟨0, 0, ['b'], ⟨0, 0⟩, ⟨0, 0⟩⟩]),
  .action (.report "file:///a.js" 1 [⟨0, 0, ['b'], ⟨0, 0⟩, ⟨0, 0⟩⟩]),
  .action (.report "file:///a.js" 2
    [⟨1, 0, ['c'], ⟨0, 1⟩, ⟨0, 1⟩⟩, ⟨0, 1, [], ⟨0, 0⟩, ⟨0, 1⟩⟩])]

/-- What the host does here is in order. -/
theorem lateReports_orderly : Ledger.Orderly {}
    ((create {} "/home" {} false).doingsAlong (.ofRecordings [] none) lateReports) := by
  refine ⟨trivial, trivial, ?_, ?_, ?_, ?_, ?_, trivial⟩
  · rintro journal text ⟨⟩ ⟨⟩
    exact ⟨by decide, (by decide : _ < _)⟩
  · rintro journal text ⟨⟩ ⟨⟩
    exact ⟨by decide, by decide, (by decide : _ < _)⟩
  · rintro place journal ⟨⟩ ⟨⟩
    exact ⟨0, _, rfl, by decide, rfl, rfl⟩
  · rintro place journal ⟨⟩ ⟨⟩
    exact ⟨0, _, rfl, by decide, rfl, rfl⟩
  · rintro place journal ⟨⟩ ⟨⟩
    exact ⟨1, _, rfl, by decide, rfl, rfl⟩

/-- A parse after late reports starts from a tree with three changes in it. -/
theorem kept_tree_in_step_late :
    ∃ trace previous,
      Run (.ofRecordings [] none) (create {} "/home" {} false) trace
        ((create {} "/home" {} false).undergo (.ofRecordings [] none) lateReports) ∧
      Ledger.Orderly {} trace ∧
      Step (.ofRecordings [] none)
        ((create {} "/home" {} false).undergo (.ofRecordings [] none) lateReports)
        (.parsed "file:///a.js" (some previous) true)
        (((create {} "/home" {} false).undergo (.ofRecordings [] none) lateReports).treeNow
          (.ofRecordings [] none) "file:///a.js").1 ∧
      previous.text = ['a', ';'] ∧ previous.changes.length = 3 ∧
      ∃ entry doc,
        ((create {} "/home" {} false).undergo (.ofRecordings [] none) lateReports).open?
          "file:///a.js" = some (entry, doc) ∧
        doc.version = 2 ∧ previous.text? = some doc.text := by
  obtain ⟨trace, run, hdoings⟩ := undergo_reaches (.ofRecordings [] none)
    (create {} "/home" {} false) lateReports
  have horderly : Ledger.Orderly {} trace := by
    rw [Ledger.orderly_iff_doings, hdoings]
    exact lateReports_orderly
  have hstep : Step (.ofRecordings [] none)
      ((create {} "/home" {} false).undergo (.ofRecordings [] none) lateReports)
      (.parsed "file:///a.js" _ true)
      (((create {} "/home" {} false).undergo (.ofRecordings [] none) lateReports).treeNow
        (.ofRecordings [] none) "file:///a.js").1 :=
    .parse rfl (@Parse.commit _ _ _ _ _ _ _ .steady rfl rfl rfl rfl)
      (put_becomes rfl (.of_eq rfl rfl))
  obtain ⟨hrely, hhanded⟩ := kept_tree_in_step run horderly "file:///a.js" _
  obtain ⟨entry, doc, found, handed⟩ := hhanded _ _ hstep
  obtain ⟨journal, u, -, -, -, -, -, -, -, htext⟩ := hrely entry doc found handed
  refine ⟨trace, _, run, horderly, hstep, rfl, rfl, entry, doc, found, ?_, htext⟩
  obtain ⟨rfl, rfl⟩ := Prod.mk.inj (Option.some.inj found)
  rfl

end Workspace

end LiveTree
