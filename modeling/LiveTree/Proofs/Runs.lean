import LiveTree.Proofs.Turns
import LiveTree.Workspace.History

/-!
# Runs

Facts about all histories of a workspace are shown in two stages.  A `Step` is the least that can
happen to the texts and trees of a workspace: a document is made or revised, an entry is opened or
closed, a report of changes arrives, a document is parsed, or nothing of the kind happens.  A `Run` is
a sequence of steps with what an observer would note down of each.

The operations of a workspace are shown here to be runs, one after the other.  So whatever every step
keeps is kept by all operations.

## Key results

- `Step.fate`: all that a step can do to an open entry, and `Step.document`: to a document
- `Run.entriesHold`: what is kept by every step of an entry holds of all open entries after every run
- `treeNow_reaches`, `report_reaches` and so on: each operation is a run in which the host does what
  the operation is about, and nothing else
-/

namespace LiveTree

/-- What happens to the texts and trees of a workspace. -/
inductive Happening where
  /-- Nothing that concerns a text or a tree. -/
  | quiet
  /-- A document is made, with a text. -/
  | created (text : Text)
  /-- Changes lead a document to its next version, with a new text. -/
  | revised (id : DocumentId) (text : Text) (changes : List Change)
  /-- A document is opened under its uri, in place of what was open there. -/
  | opened (id : DocumentId) (uri : String)
  /-- Nothing is open any more under a uri. -/
  | closed (uri : String)
  /-- A report of changes reaches the entry of a uri. -/
  | reported (uri : String) (version : Int) (changes : List Change) (outcome : EditOutcome)
  /-- The document of a uri is parsed with the help of a kept tree, if there is one, and the tree is
      committed unless the parse fails. -/
  | parsed (uri : String) (previous : Option PreviousTree) (committed : Bool)

/-- The uri whose entry something happens to. -/
def Happening.uri? : Happening → Option String
  | opened _ uri | closed uri | reported uri _ _ _ | parsed uri _ _ => some uri
  | quiet | created _ | revised _ _ _ => none

/-- Whether something is the host's doing.  The engine parses when it likes. -/
def Happening.byHost : Happening → Bool
  | created _ | revised _ _ _ | opened _ _ | closed _ | reported _ _ _ _ => true
  | quiet | parsed _ _ _ => false

/-- The next version of a document, and the changes that its operation answers with. -/
inductive Document.Revision (doc : Document) : Document → List Change → Prop where
  | edits {edits : List Edit} {next : Document} {changes : List Change}
      (edited : doc.applyEdits edits = .ok (next, changes)) : Revision doc next changes
  | setText (text : Text) : Revision doc (doc.setText text).1 [(doc.setText text).2]

namespace Document.Revision

variable {doc next : Document} {changes : List Change}

/-- The edits of a revision, as they act on the text alone. -/
theorem applyEdits_eq_ok {edits : List Edit} (h : doc.applyEdits edits = .ok (next, changes)) :
    ∃ text, doc.text.applyEdits edits = .ok (text, changes) ∧
      next = ⟨doc.uri, doc.language, doc.version + 1, text⟩ := by
  unfold Document.applyEdits at h
  cases hedits : doc.text.applyEdits edits with
  | error error => rw [hedits] at h; exact nomatch h
  | ok edited =>
    rw [hedits] at h
    obtain ⟨rfl, rfl⟩ := Prod.mk.inj (Except.ok.inj h)
    exact ⟨edited.1, rfl, rfl⟩

/-- A revision leaves all of a document as it was but its version, which grows by one, and its
    text. -/
theorem eq (h : doc.Revision next changes) :
    next = { doc with version := doc.version + 1, text := next.text } := by
  -- Both ways to revise a document raise its version and leave its uri and language.
  cases h with
  | edits edited =>
    obtain ⟨text, -, rfl⟩ := applyEdits_eq_ok edited
    rfl
  | setText text => rfl

/-- A revision is of the document under the same uri. -/
theorem uri (h : doc.Revision next changes) : next.uri = doc.uri := by rw [h.eq]

/-- A revision is in the same language. -/
theorem language (h : doc.Revision next changes) : next.language = doc.language := by rw [h.eq]

/-- A revision is the next version. -/
theorem version (h : doc.Revision next changes) : next.version = doc.version + 1 := by rw [h.eq]

end Document.Revision

namespace Workspace

/-- A workspace has become one with the given documents and, but for timers, the given entries;
    meanwhile its services have moved on. -/
structure Becomes (w : Workspace) (documents : List Document) (entries : Table Entry)
    (later : Workspace) : Prop where
  /-- Timers are left out, as they say nothing about texts and trees. -/
  documents : later.documents = documents
  entries : ∀ uri,
    (later.entries.find? uri).map Entry.untimed = (entries.find? uri).map Entry.untimed
  services : w.services.Leads later.services

/-- A uri is open if there is an entry whose document there is. -/
theorem open?_eq_some {w : Workspace} {uri : String} {entry : Entry} {doc : Document} :
    w.open? uri = some (entry, doc) ↔
      w.entries.find? uri = some entry ∧ w.documents[entry.document]? = some doc := by
  unfold open?
  constructor
  · intro h
    cases hfound : w.entries.find? uri with
    | none => rw [hfound] at h; exact nomatch h
    | some found =>
      rw [hfound] at h
      cases hdoc : w.documents[found.document]? with
      | none => simp [hdoc] at h
      | some first =>
        simp only [hdoc, bind, Option.bind, pure, Option.some.injEq, Prod.mk.injEq] at h
        obtain ⟨rfl, rfl⟩ := h
        exact ⟨rfl, hdoc⟩
  · rintro ⟨hfound, hdoc⟩
    simp [hfound, hdoc]

/-- One step of a workspace. -/
inductive Step (parser : Parser) (w : Workspace) : Happening → Workspace → Prop where
  | quiet {later : Workspace} (after : w.Becomes w.documents w.entries later) :
      Step parser w .quiet later
  | create (uri language : String) (text : Text) {later : Workspace}
      (after : w.Becomes (w.documents ++ [.create uri language text]) w.entries later) :
      Step parser w (.created text) later
  | revise {id : DocumentId} {doc next : Document} {changes : List Change} {later : Workspace}
      (found : w.documents[id]? = some doc) (revision : doc.Revision next changes)
      (after : w.Becomes (w.documents.set id next) w.entries later) :
      Step parser w (.revised id next.text changes) later
  | openDocument {id : DocumentId} {doc : Document} {later : Workspace}
      (found : w.documents[id]? = some doc)
      (after : w.Becomes w.documents (w.entries.insert doc.uri { document := id }) later) :
      Step parser w (.opened id doc.uri) later
  | close {uri : String} {later : Workspace}
      (after : w.Becomes w.documents (w.entries.erase uri) later) :
      Step parser w (.closed uri) later
  | report {uri : String} {entry : Entry} (version : Int) (changes : List Change)
      {later : Workspace} (found : w.entries.find? uri = some entry)
      (after : w.Becomes w.documents
        (w.entries.insert uri (entry.applyChanges changes version).1) later) :
      Step parser w (.reported uri version changes (entry.applyChanges changes version).2) later
  | parse {uri : String} {entry next : Entry} {doc : Document} {previous : Option PreviousTree}
      {committed : Bool} {later : Workspace} (found : w.open? uri = some (entry, doc))
      (parse : Parse parser later.services doc entry previous committed next)
      (after : w.Becomes w.documents (w.entries.insert uri next) later) :
      Step parser w (.parsed uri previous committed) later

/-- Runs from a workspace: what happened, oldest first, and the workspace afterwards. -/
inductive Run (parser : Parser) (w : Workspace) : List Happening → Workspace → Prop where
  | nil : Run parser w [] w
  | snoc {trace : List Happening} {happening : Happening} {next later : Workspace}
      (run : Run parser w trace next) (step : Step parser next happening later) :
      Run parser w (trace ++ [happening]) later

/-- Runs can be put one after the other.  By induction on the later run. -/
theorem Run.append {parser : Parser} {a b c : Workspace} {before after : List Happening}
    (hab : Run parser a before b) (hbc : Run parser b after c) :
    Run parser a (before ++ after) c := by
  induction hbc with
  | nil => rw [List.append_nil]; exact hab
  | snoc _ step ih => rw [← List.append_assoc]; exact ih.snoc step

/-- Some run leads from one workspace to another, in which the host does the given things. -/
def Reaches (parser : Parser) (w : Workspace) (doings : List Happening) (later : Workspace) : Prop :=
  ∃ trace, Run parser w trace later ∧ trace.filter Happening.byHost = doings

/-- Nothing done leads nowhere. -/
theorem Reaches.refl (parser : Parser) (w : Workspace) : Reaches parser w [] w :=
  ⟨[], .nil, rfl⟩

/-- What leads from one workspace to the next leads on. -/
theorem Reaches.trans {parser : Parser} {a b c : Workspace} {before after : List Happening}
    (hab : Reaches parser a before b) (hbc : Reaches parser b after c) :
    Reaches parser a (before ++ after) c := by
  obtain ⟨first, hab, rfl⟩ := hab
  obtain ⟨second, hbc, rfl⟩ := hbc
  exact ⟨first ++ second, hab.append hbc, List.filter_append _ _⟩

/-- A step of the host, as a run. -/
theorem Step.noted {parser : Parser} {w later : Workspace} {happening : Happening}
    (step : Step parser w happening later) (host : happening.byHost = true) :
    Reaches parser w [happening] later :=
  -- A run of one step, which the host's doings keep.
  ⟨[] ++ [happening], Run.nil.snoc step, List.filter_cons_of_pos host⟩

/-- A step of the engine, as a run in which the host does nothing. -/
theorem Step.unnoted {parser : Parser} {w later : Workspace} {happening : Happening}
    (step : Step parser w happening later) (engine : happening.byHost = false) :
    Reaches parser w [] later :=
  ⟨[] ++ [happening], Run.nil.snoc step, List.filter_cons_of_neg (by simp [engine])⟩

/-! ## What a step can do -/

/-- An entry found afterwards was there, but for its timer. -/
theorem Becomes.find?_eq_some {w later : Workspace} {documents : List Document}
    {entries : Table Entry} (after : w.Becomes documents entries later) {uri : String}
    {entry : Entry} (found : later.entries.find? uri = some entry) :
    ∃ earlier, entries.find? uri = some earlier ∧ entry.untimed = earlier.untimed := by
  have h := after.entries uri
  -- The table agrees with the given one up to timers, so something was found there too.
  rw [found, Option.map_some] at h
  obtain ⟨earlier, hearlier, hsame⟩ := Option.map_eq_some_iff.1 h.symm
  exact ⟨earlier, hearlier, hsame.symm⟩

/-- The same where one entry has been put in: what is found is that one, or was there before. -/
theorem Becomes.find?_insert {w later : Workspace} {documents : List Document} {other : String}
    {next : Entry} (after : w.Becomes documents (w.entries.insert other next) later) {uri : String}
    {entry : Entry} (found : later.entries.find? uri = some entry) :
    uri = other ∧ entry.untimed = next.untimed ∨
      uri ≠ other ∧ ∃ earlier, w.entries.find? uri = some earlier ∧
        entry.untimed = earlier.untimed := by
  obtain ⟨earlier, hearlier, hsame⟩ := after.find?_eq_some found
  rw [Table.find?_insert] at hearlier
  -- Timers apart, the entry is the one that was put in if its uri is the same.
  by_cases heq : uri = other
  · rw [if_pos heq] at hearlier
    obtain rfl := Option.some.inj hearlier
    exact .inl ⟨heq, hsame⟩
  · rw [if_neg heq] at hearlier
    exact .inr ⟨heq, earlier, hearlier, hsame⟩

/-- What has happened, in a step, to the entry that is open under a uri after it. -/
inductive Fate (parser : Parser) (w : Workspace) (s : Services) (uri : String) :
    Happening → Entry → Prop where
  /-- At most its timer has been set, and whatever happened was elsewhere. -/
  | spared {happening : Happening} {entry earlier : Entry} (elsewhere : happening.uri? ≠ some uri)
      (found : w.entries.find? uri = some earlier) (same : entry.untimed = earlier.untimed) :
      Fate parser w s uri happening entry
  | opened {id : DocumentId} {entry : Entry} {doc : Document}
      (found : w.documents[id]? = some doc) (key : doc.uri = uri)
      (same : entry.untimed = { document := id }) : Fate parser w s uri (.opened id uri) entry
  | reported {entry earlier : Entry} {version : Int} {changes : List Change}
      (found : w.entries.find? uri = some earlier)
      (same : entry.untimed = (earlier.applyChanges changes version).1.untimed) :
      Fate parser w s uri
        (.reported uri version changes (earlier.applyChanges changes version).2) entry
  | parsed {entry earlier : Entry} {doc : Document} {previous : Option PreviousTree}
      {committed : Bool} (found : w.open? uri = some (earlier, doc))
      (parse : Parse parser s doc earlier previous committed entry) :
      Fate parser w s uri (.parsed uri previous committed) entry

section Stepping

variable {parser : Parser} {w later : Workspace} {happening : Happening}

/-- Every step leads the services on. -/
theorem Step.leads (step : Step parser w happening later) :
    w.services.Leads later.services := by
  cases step with
  | quiet after => exact after.services
  | create uri language text after => exact after.services
  | revise found revision after => exact after.services
  | openDocument found after => exact after.services
  | close after => exact after.services
  | report version changes found after => exact after.services
  | parse found parse after => exact after.services

/-- Every entry that is open after a step has met its fate. -/
theorem Step.fate (step : Step parser w happening later) {uri : String} {entry : Entry}
    (found : later.entries.find? uri = some entry) :
    Fate parser w later.services uri happening entry := by
  cases step with
  | quiet after =>
    obtain ⟨earlier, hearlier, hsame⟩ := after.find?_eq_some found
    exact .spared (by simp [Happening.uri?]) hearlier hsame
  | create _ language text after =>
    obtain ⟨earlier, hearlier, hsame⟩ := after.find?_eq_some found
    exact .spared (by simp [Happening.uri?]) hearlier hsame
  | revise _ revision after =>
    obtain ⟨earlier, hearlier, hsame⟩ := after.find?_eq_some found
    exact .spared (by simp [Happening.uri?]) hearlier hsame
  | openDocument hdoc after =>
    rcases after.find?_insert found with ⟨rfl, hsame⟩ | ⟨hne, earlier, hearlier, hsame⟩
    · exact .opened hdoc rfl hsame
    · exact .spared (by simpa [Happening.uri?] using hne.symm) hearlier hsame
  | close after =>
    obtain ⟨earlier, hearlier, hsame⟩ := after.find?_eq_some found
    rw [Table.find?_erase] at hearlier
    split at hearlier
    -- Nothing is found under the uri that was closed.
    · exact nomatch hearlier
    · next hne => exact .spared (by simpa [Happening.uri?] using Ne.symm hne) hearlier hsame
  | report version changes hreached after =>
    rcases after.find?_insert found with ⟨rfl, hsame⟩ | ⟨hne, earlier, hearlier, hsame⟩
    · exact .reported hreached hsame
    · exact .spared (by simpa [Happening.uri?] using hne.symm) hearlier hsame
  | parse hreached parse after =>
    rcases after.find?_insert found with ⟨rfl, hsame⟩ | ⟨hne, earlier, hearlier, hsame⟩
    · exact .parsed hreached (parse.of_untimed hsame)
    · exact .spared (by simpa [Happening.uri?] using hne.symm) hearlier hsame

/-- Every document is still there after a step, perhaps in its next version. -/
theorem Step.document (step : Step parser w happening later) {id : DocumentId} {doc : Document}
    (found : w.documents[id]? = some doc) :
    ∃ next, later.documents[id]? = some next ∧ (next = doc ∨ ∃ changes,
      happening = .revised id next.text changes ∧ doc.Revision next changes) := by
  -- Only a revision of this very document gives it another version.
  cases step with
  | quiet after => exact ⟨doc, by rw [after.documents]; exact found, .inl rfl⟩
  | create uri language text after =>
    refine ⟨doc, ?_, .inl rfl⟩
    rw [after.documents, List.getElem?_append_left (List.getElem?_eq_some_iff.1 found).1]
    exact found
  | @revise other revised next changes _ hrevised revision after =>
    rw [after.documents]
    by_cases heq : other = id
    · subst heq
      obtain rfl : revised = doc := Option.some.inj (hrevised.symm.trans found)
      have hlt := (List.getElem?_eq_some_iff.1 found).1
      exact ⟨next, List.getElem?_set_self hlt, .inr ⟨changes, rfl, revision⟩⟩
    · exact ⟨doc, by rw [List.getElem?_set_ne heq]; exact found, .inl rfl⟩
  | openDocument _ after => exact ⟨doc, by rw [after.documents]; exact found, .inl rfl⟩
  | close after => exact ⟨doc, by rw [after.documents]; exact found, .inl rfl⟩
  | report _ _ _ after => exact ⟨doc, by rw [after.documents]; exact found, .inl rfl⟩
  | parse _ _ after => exact ⟨doc, by rw [after.documents]; exact found, .inl rfl⟩

end Stepping

/-! ## What every step keeps -/

/-- A property of an open entry and its document that is kept by all that can happen to them. -/
structure Kept (parser : Parser) (holds : Services → Document → Entry → Prop) : Prop where
  /-- A timer says nothing about the property. -/
  untimed : ∀ {s doc entry later}, holds s doc entry → later.untimed = entry.untimed →
    holds s doc later
  /-- The services may lead on. -/
  leads : ∀ {s later : Services} {doc entry}, s.Leads later → holds s doc entry →
    holds later doc entry
  /-- An entry that was just opened has it. -/
  fresh : ∀ s doc id, holds s doc { document := id }
  revised : ∀ {s entry} {doc next : Document} {changes}, doc.Revision next changes →
    holds s doc entry → holds s next entry
  reported : ∀ {s doc} {entry : Entry} (changes version), holds s doc entry →
    holds s doc (entry.applyChanges changes version).1
  parsed : ∀ {s doc entry later previous committed}, s.registry.Sound → holds s doc entry →
    Parse parser s doc entry previous committed later → holds s doc later

/-- The entries of a workspace stand under the uris of their documents and have a property. -/
def EntriesHold (holds : Services → Document → Entry → Prop) (w : Workspace) : Prop :=
  ∀ uri entry, w.entries.find? uri = some entry →
    ∃ doc, w.documents[entry.document]? = some doc ∧ doc.uri = uri ∧ holds w.services doc entry

section Keeping

variable {parser : Parser} {holds : Services → Document → Entry → Prop} {w later : Workspace}

/-- What is kept by all that can happen to an entry is kept by its fate. -/
theorem Fate.entryHolds (kept : Kept parser holds) {s : Services} {uri : String}
    {happening : Happening} {entry : Entry} (fate : Fate parser w s uri happening entry)
    (leads : w.services.Leads s) (sound : s.registry.Sound) (h : EntriesHold holds w) :
    ∃ doc, w.documents[entry.document]? = some doc ∧ doc.uri = uri ∧ holds s doc entry := by
  -- One field of `kept` for each fate.
  cases fate with
  | spared elsewhere found same =>
    obtain ⟨doc, hdoc, hkey, hholds⟩ := h uri _ found
    rw [Entry.document_of_untimed same]
    exact ⟨doc, hdoc, hkey, kept.untimed (kept.leads leads hholds) same⟩
  | @opened id _ doc found key same =>
    have hid := congrArg Entry.document same
    rw [show entry.document = id from hid]
    exact ⟨doc, found, key, kept.untimed (kept.fresh s doc id) same⟩
  | reported found same =>
    obtain ⟨doc, hdoc, hkey, hholds⟩ := h uri _ found
    rw [Entry.document_of_untimed same, Entry.applyChanges_document]
    exact ⟨doc, hdoc, hkey, kept.untimed (kept.reported _ _ (kept.leads leads hholds)) same⟩
  | parsed found parse =>
    obtain ⟨hfound, hdoc⟩ := open?_eq_some.1 found
    obtain ⟨own, hown, hkey, hholds⟩ := h uri _ hfound
    -- The document that was parsed is the one that the property is about.
    obtain rfl := Option.some.inj (hown.symm.trans hdoc)
    rw [parse.document]
    exact ⟨own, hdoc, hkey, kept.parsed sound (kept.leads leads hholds) parse⟩

/-- What is kept by all that can happen to an entry and its document is kept by every step. -/
theorem Step.entriesHold (kept : Kept parser holds) {happening : Happening}
    (step : Step parser w happening later) (sound : w.services.registry.Sound)
    (h : EntriesHold holds w) : EntriesHold holds later := by
  intro uri entry found
  obtain ⟨doc, hdoc, hkey, hholds⟩ := (step.fate found).entryHolds kept step.leads
    (step.leads.registry.sound sound) h
  -- So far the document is the one from before the step, which may have revised it.
  obtain ⟨next, hnext, rfl | ⟨changes, -, revision⟩⟩ := step.document hdoc
  · exact ⟨next, hnext, hkey, hholds⟩
  · exact ⟨next, hnext, revision.uri.trans hkey, kept.revised revision hholds⟩

/-- Services lead on along a run. -/
theorem Run.leads {trace : List Happening} (run : Run parser w trace later) :
    w.services.Leads later.services := by
  induction run with
  | nil => exact .refl _
  | snoc _ step ih => exact ih.trans step.leads

/-- What is kept by all that can happen to an entry and its document is kept by every run. -/
theorem Run.maintains (kept : Kept parser holds) {trace : List Happening}
    (run : Run parser w trace later) (sound : w.services.registry.Sound) (h : EntriesHold holds w) :
    later.services.registry.Sound ∧ EntriesHold holds later := by
  induction run with
  | nil => exact ⟨sound, h⟩
  | snoc _ step ih =>
    obtain ⟨hsound, hholds⟩ := ih
    exact ⟨step.leads.registry.sound hsound, step.entriesHold kept hsound hholds⟩

variable {config : Config} {dataHome : String} {libraries : Libraries} {runtime : Bool}
  {trace : List Happening}

/-- The registry of a configuration is sound, and stays so along a run. -/
theorem Run.sound (run : Run parser (create config dataHome libraries runtime) trace w) :
    w.services.registry.Sound :=
  run.leads.registry.sound (Registry.ofConfig_sound config dataHome)

/-- No run changes the settings. -/
theorem Run.config_eq (run : Run parser (create config dataHome libraries runtime) trace w) :
    w.services.config = config :=
  run.leads.config

/-- What is kept by all that can happen to an entry holds of every entry after every run. -/
theorem Run.entriesHold (kept : Kept parser holds)
    (run : Run parser (create config dataHome libraries runtime) trace w) :
    EntriesHold holds w :=
  (run.maintains kept (Registry.ofConfig_sound config dataHome) fun _ _ found => nomatch found).2

/-- The same for an open entry and its document. -/
theorem Run.open?_holds (kept : Kept parser holds)
    (run : Run parser (create config dataHome libraries runtime) trace w) {uri : String}
    {entry : Entry} {doc : Document} (found : w.open? uri = some (entry, doc)) :
    holds w.services doc entry := by
  -- The document of an entry is found in one place only, so it is the one that the property is
  -- about.
  obtain ⟨hfound, hdoc⟩ := open?_eq_some.1 found
  obtain ⟨own, hown, -, hholds⟩ := run.entriesHold kept uri entry hfound
  obtain rfl : own = doc := Option.some.inj (hown.symm.trans hdoc)
  exact hholds

end Keeping

/-! ## Operations on an entry -/

variable {parser : Parser} {w : Workspace} {uri : String}

/-- Services that lead on do not matter to documents and entries. -/
theorem quiet_of_leads {later : Workspace} (documents : later.documents = w.documents)
    (entries : later.entries = w.entries) (services : w.services.Leads later.services) :
    Reaches parser w [] later :=
  Step.unnoted (.quiet ⟨documents, fun _ => by rw [entries], services⟩) rfl

/-- An entry that is put back with another timer at most counts as the one that was there. -/
theorem put_untimed_becomes {s : Services} {entry later : Entry}
    (found : w.entries.find? uri = some entry) (same : later.untimed = entry.untimed)
    (leads : w.services.Leads s) : w.Becomes w.documents w.entries (w.put uri s later) := by
  refine ⟨rfl, fun other => ?_, leads⟩
  simp only [put, Table.find?_insert]
  -- Under another uri nothing has changed.
  split
  · next h => rw [h, found, Option.map_some, Option.map_some, same]
  · rfl

/-- Putting back an entry that has changed in its timer at most. -/
theorem put_quiet {s : Services} {entry later : Entry} (found : w.entries.find? uri = some entry)
    (same : later.untimed = entry.untimed) (leads : w.services.Leads s) :
    Reaches parser w [] (w.put uri s later) :=
  Step.unnoted (.quiet (put_untimed_becomes found same leads)) rfl

/-- An entry that is put back counts, but for its timer, as the one to be put there. -/
theorem put_becomes {s : Services} {next later : Entry} (same : later.untimed = next.untimed)
    (leads : w.services.Leads s) :
    w.Becomes w.documents (w.entries.insert uri next) (w.put uri s later) := by
  refine ⟨rfl, fun other => ?_, leads⟩
  -- The uri finds what was put, all others what was there.
  simp only [put, Table.find?_insert]
  split
  · rw [Option.map_some, Option.map_some, same]
  · rfl

/-- An operation that lets its entry rest or parses its document is a run. -/
theorem put_turn {s : Services} {entry later : Entry} {doc : Document}
    (found : w.open? uri = some (entry, doc)) (leads : w.services.Leads s)
    (turn : Turn parser s doc entry later) : Reaches parser w [] (w.put uri s later) := by
  cases turn with
  | rest same => exact put_quiet (open?_eq_some.1 found).1 same leads
  | parse parse => exact Step.unnoted (.parse found parse (put_becomes rfl leads)) rfl

/-- An operation on an entry that leads on and takes a turn is a run without the host. -/
theorem onEntry_reaches {α : Type}
    {operation : Services → Document → Entry → Services × Entry × Except EngineError α}
    (leads : ∀ (s : Services) doc entry, s.Leads (operation s doc entry).1)
    (turn : ∀ s doc entry, Turn parser (operation s doc entry).1 doc entry
      (operation s doc entry).2.1) :
    Reaches parser w [] (w.onEntry uri operation).1 := by
  unfold onEntry
  split
  -- Where nothing is open, the operation is refused.
  · exact .refl parser w
  · next entry doc found => exact put_turn found (leads _ doc entry) (turn _ doc entry)

/-- What an operation on an open entry answers. -/
theorem onEntry_answer {α : Type} {entry : Entry} {doc : Document}
    (found : w.open? uri = some (entry, doc))
    (operation : Services → Document → Entry → Services × Entry × Except EngineError α) :
    (w.onEntry uri operation).2 = (operation w.services doc entry).2.2 := by
  unfold onEntry
  rw [found]

/-- An operation on an open entry leaves the services as it says. -/
theorem onEntry_services {α : Type} {entry : Entry} {doc : Document}
    (found : w.open? uri = some (entry, doc))
    (operation : Services → Document → Entry → Services × Entry × Except EngineError α) :
    (w.onEntry uri operation).1.services = (operation w.services doc entry).1 := by
  unfold onEntry
  rw [found]
  rfl

/-- An operation that answers has found an open entry, and leaves it open with its document. -/
theorem onEntry_eq_ok {α : Type}
    {operation : Services → Document → Entry → Services × Entry × Except EngineError α} {answer : α}
    (turn : ∀ s doc entry, Turn parser (operation s doc entry).1 doc entry
      (operation s doc entry).2.1)
    (h : (w.onEntry uri operation).2 = .ok answer) :
    ∃ entry doc, w.open? uri = some (entry, doc) ∧
      (operation w.services doc entry).2.2 = .ok answer ∧
      (w.onEntry uri operation).1.open? uri = some ((operation w.services doc entry).2.1, doc) := by
  unfold onEntry at h ⊢
  cases found : w.open? uri with
  | none => rw [found] at h; exact nomatch h
  | some pair =>
    obtain ⟨entry, doc⟩ := pair
    rw [found] at h
    -- A turn leaves the document of an entry, so the uri is open still.
    refine ⟨entry, doc, rfl, h, open?_eq_some.2 ⟨?_, ?_⟩⟩
    · exact Table.find?_insert_self _ _ _
    · rw [(turn w.services doc entry).document]
      exact (open?_eq_some.1 found).2

/-- A tree on demand is a run in which the host does nothing. -/
theorem treeNow_reaches (w : Workspace) (parser : Parser) (uri : String) :
    Reaches parser w [] (w.treeNow parser uri).1 :=
  onEntry_reaches (fun s doc entry => s.treeNow_leads parser doc entry)
    (fun s doc entry => s.treeNow_turn parser doc entry)

/-- A reparse on demand is a run in which the host does nothing. -/
theorem reparseNow_reaches (w : Workspace) (parser : Parser) (uri : String) :
    Reaches parser w [] (w.reparseNow parser uri).1 := by
  refine onEntry_reaches (fun s doc entry => ?_)
    (fun s doc entry => s.cancelTimer_reparse_turn parser doc entry)
  exact (s.cancelTimer_leads entry).trans (Services.reparse_leads _ parser doc _)

/-- A verification is a run in which the host does nothing. -/
theorem verify_reaches (w : Workspace) (parser : Parser) (uri : String) :
    Reaches parser w [] (w.verify parser uri).1 :=
  onEntry_reaches (fun s doc entry => s.verify_leads parser doc entry)
    (fun s doc entry => s.verify_turn parser doc entry)

/-- Activating a uri is a run in which the host does nothing. -/
theorem activate_reaches (w : Workspace) (parser : Parser) (uri : String) :
    Reaches parser w [] (w.activate uri).1 := by
  refine onEntry_reaches (fun s doc entry => ?_) (fun s doc entry => ?_)
  -- A current tree needs no timer; otherwise one is set that fires at once.
  · split
    · exact .refl s
    · exact s.schedule_leads doc.uri entry 0
  · split
    · exact .rest rfl
    · exact .rest (s.schedule_untimed doc.uri entry 0)

/-- Asking for a reparse later is a run in which the host does nothing. -/
theorem scheduleReparse_reaches (w : Workspace) (parser : Parser) (uri : String) :
    Reaches parser w [] (w.scheduleReparse uri).1 :=
  onEntry_reaches (fun s doc entry => s.schedule_leads doc.uri entry s.config.debounceMs)
    (fun s doc entry => .rest (s.schedule_untimed doc.uri entry s.config.debounceMs))

/-- Scheduling after a load is a run in which the host does nothing. -/
theorem scheduleIfOpen_reaches (w : Workspace) (parser : Parser) (uri : String) (delay : Nat) :
    Reaches parser w [] (w.scheduleIfOpen uri delay) := by
  unfold scheduleIfOpen
  split
  · exact .refl parser w
  · next entry found =>
    exact put_quiet found (w.services.schedule_untimed uri entry delay)
      (w.services.schedule_leads uri entry delay)

/-- A timer that fires is a run in which the host does nothing. -/
theorem timerFired_reaches (w : Workspace) (parser : Parser) (uri : String) (generation : Nat) :
    Reaches parser w [] (w.timerFired parser uri generation) := by
  unfold timerFired
  split
  · exact .refl parser w
  · next entry doc found =>
    exact put_turn found (w.services.fire_leads parser doc entry generation)
      (w.services.fire_turn parser doc entry generation)

/-! ## Doings of the host -/

/-- Making a document is a run of that one doing. -/
theorem createDocument_reaches (w : Workspace) (parser : Parser) (uri language : String)
    (text : Text) :
    Reaches parser w [.created text] (w.createDocument uri language text).1 :=
  Step.noted (.create uri language text ⟨rfl, fun _ => rfl, .refl _⟩) rfl

/-- What the host does by edits: nothing, if one of them is invalid. -/
def doingsOfEdit (w : Workspace) (id : DocumentId) (edits : List Edit) : List Happening :=
  match w.documents[id]? with
  | none => []
  | some doc =>
    match doc.applyEdits edits with
    | .error _ => []
    | .ok (next, changes) => [.revised id next.text changes]

/-- Editing is a run of one revision, or of none if an edit is invalid. -/
theorem editDocument_reaches (w : Workspace) (parser : Parser) (id : DocumentId)
    (edits : List Edit) :
    Reaches parser w (w.doingsOfEdit id edits) (w.editDocument id edits).1 := by
  unfold editDocument doingsOfEdit
  cases found : w.documents[id]? with
  | none => exact .refl parser w
  | some doc =>
    dsimp only
    cases edited : doc.applyEdits edits with
    | error error => exact .refl parser w
    | ok result =>
      exact Step.noted (.revise found (.edits edited) ⟨rfl, fun _ => rfl, .refl _⟩) rfl

/-- What the host does by giving a document a new text. -/
def doingsOfSetText (w : Workspace) (id : DocumentId) (text : Text) : List Happening :=
  match w.documents[id]? with
  | none => []
  | some doc => [.revised id text [(doc.setText text).2]]

/-- Giving a document a new text is a run of one revision. -/
theorem setText_reaches (w : Workspace) (parser : Parser) (id : DocumentId) (text : Text) :
    Reaches parser w (w.doingsOfSetText id text) (w.setText id text).1 := by
  unfold setText doingsOfSetText
  cases found : w.documents[id]? with
  | none => exact .refl parser w
  | some doc =>
    exact Step.noted (.revise found (.setText text) ⟨rfl, fun _ => rfl, .refl _⟩) rfl

/-- What the host does by opening a document. -/
def doingsOfOpen (w : Workspace) (id : DocumentId) : List Happening :=
  match w.documents[id]? with
  | none => []
  | some doc => [.opened id doc.uri]

/-- Opening a document is a run of that one doing. -/
theorem openDocument_reaches (w : Workspace) (parser : Parser) (id : DocumentId) :
    Reaches parser w (w.doingsOfOpen id) (w.openDocument id) := by
  unfold openDocument doingsOfOpen
  cases found : w.documents[id]? with
  | none => exact .refl parser w
  | some doc =>
    refine Step.noted (.openDocument found (put_becomes ?_ ?_)) rfl
    -- The timer of the entry that was open before is cancelled, and the new one is scheduled at
    -- once.
    · exact Services.schedule_untimed _ doc.uri _ 0
    · refine .trans ?_ (Services.schedule_leads _ doc.uri _ 0)
      split
      · exact w.services.cancelTimer_leads _
      · exact .refl _

/-- What the host does by closing a uri. -/
def doingsOfClose (w : Workspace) (uri : String) : List Happening :=
  if w.entries.contains uri then [.closed uri] else []

/-- Closing a uri is a run of that one doing, if it was open. -/
theorem close_reaches (w : Workspace) (parser : Parser) (uri : String) :
    Reaches parser w (w.doingsOfClose uri) (w.close uri).1 := by
  unfold close doingsOfClose Table.contains
  cases found : w.entries.find? uri with
  | none => exact .refl parser w
  | some entry =>
    exact Step.noted (.close ⟨rfl, fun _ => rfl, w.services.cancelTimer_leads entry⟩) rfl

/-- What the host does by a report: nothing, if there is no entry to hear it. -/
def doingsOfReport (w : Workspace) (uri : String) (version : Int) (changes : List Change) :
    List Happening :=
  match w.open? uri with
  | none => []
  | some (entry, _) => [.reported uri version changes (entry.applyChanges changes version).2]

/-- A report is a run of that one doing, if the uri is open. -/
theorem report_reaches (w : Workspace) (parser : Parser) (uri : String) (version : Int)
    (changes : List Change) :
    Reaches parser w (w.doingsOfReport uri version changes) (w.report uri version changes).1 := by
  unfold report onEntry doingsOfReport
  cases found : w.open? uri with
  | none => exact .refl parser w
  | some opened =>
    obtain ⟨entry, doc⟩ := opened
    refine Step.noted (.report version changes (open?_eq_some.1 found).1 (put_becomes ?_ ?_)) rfl
    · exact w.services.report_untimed doc.uri entry version changes
    · exact w.services.report_leads doc.uri entry version changes

end Workspace

end LiveTree
