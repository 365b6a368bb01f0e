import LiveTree.Command.Run
import LiveTree.Parser.Recorded
import LiveTree.Proofs.Openings
import LiveTree.Proofs.Pieces

/-!
# A file that is fed to a document

A file is verified by way of many edits: it is cut into pieces, and a document that was opened empty is
fed one piece after the other, with a parse after each.  The empty text is parsed in full, and every
piece with the help of the tree before it.

What the parser makes of the pieces can be told without any document: `Grammar.grow` hands it the empty
text and then each longer text together with the tree before.  A document is fed to the end exactly if
all these parses give trees, and if its versions can be counted.

## Key results

- `Opened.Fed`: what is known of a document that was fed some pieces
- `Opened.Fed.append_of_ok`, `Opened.Fed.append_of_error`, `Opened.Fed.append_of_full`: what becomes of
  one more piece, and `Opened.Fed.foldlM_append`: of many
- `verify_feeds_everything`: the pieces are all of the file, and the document is fed all of them
-/

namespace LiveTree

/-- The change that adds a piece to the end of a text. -/
def Text.appending (text piece : Text) : Change :=
  .ofSpan text ⟨text.byteLength, text.byteLength⟩ piece

/-! ## What a parser makes of the pieces -/

namespace Grammar

/-- The last tree of a text to which pieces are added one by one.  After each the text is parsed with
    the help of the tree before; the first parse that fails decides. -/
def regrow (grammar : Grammar) (parser : Parser) (limit : Nat) (text : Text) (source : ParseTree) :
    List Text → Except ParseFailure ParseTree
  | [] => .ok source
  | piece :: rest => do
    let next ← Pool.attempt parser grammar (text ++ piece)
      (some ⟨text, source, [text.appending piece]⟩) limit
    grammar.regrow parser limit (text ++ piece) next rest

/-- The same from the empty text on, which is parsed in full. -/
def grow (grammar : Grammar) (parser : Parser) (limit : Nat) (pieces : List Text) :
    Except ParseFailure ParseTree := do
  let source ← Pool.attempt parser grammar [] none limit
  grammar.regrow parser limit [] source pieces

end Grammar

namespace Opened

variable {parser : Parser} {opened : Opened} {config : Config} {uri language : String}
  {grammar : Grammar} {source : ParseTree} {fed : List Text}

/-- Waits for the tree of an opened file and feeds it the pieces. -/
def feed (opened : Opened) (parser : Parser) (pieces : List Text) : Except Ending Opened := do
  let (opened, _) ← opened.parsed parser
  pieces.foldlM (append parser) opened

/-- Verifies the tree of a document and prints how it was parsed. -/
def conclude (opened : Opened) (parser : Parser) (path : String) (edits : Nat) :
    Except Ending String := do
  let (w, verdict) := opened.workspace.verify parser opened.uri
  match ← Ending.expect verdict with
  | .agrees =>
    let counters := w.services.metrics.counters
    return s!"verified {path} after {edits} edits " ++
      s!"({counters.incrementalParses} incremental, {counters.fullParses} full parses)\n"
  | verdict => throw (.aborted (verdict.message opened.uri))

/-- A document is fed first and then verified. -/
theorem replay_eq (opened : Opened) (parser : Parser) (path : String) (pieces : List Text) :
    opened.replay parser path pieces =
      opened.feed parser pieces >>= fun opened => opened.conclude parser path pieces.length := by
  unfold replay feed
  cases opened.parsed parser with
  | error ending => rfl
  | ok parsed => rfl

/-- The grammar that the first look at an opened file waits for. -/
def awaited (opened : Opened) (parser : Parser) : Except GrammarError Grammar :=
  let language := (opened.workspace.documents[opened.document]?).elim "" (·.language)
  (opened.workspace.awaitGrammar parser language).2.1

/-- A document that was opened empty has been fed some pieces.  Its text is made of them, each of them
    is a version, and each was parsed once with the help of the tree before; `source` came of the last
    parse. -/
structure Fed (opened : Opened) (uri language : String) (config : Config) (grammar : Grammar)
    (source : ParseTree) (fed : List Text) : Prop where
  named : opened.uri = uri
  shows : opened.workspace.Shows config opened.document
    ⟨uri, language, fed.length, fed.flatten⟩ grammar source fed.length

/-- The text of a document that has been fed is made of all pieces so far. -/
theorem Fed.text_eq (h : opened.Fed uri language config grammar source fed) :
    opened.text = fed.flatten := by
  unfold text
  rw [h.shows.document]
  rfl

/-- Each piece of a document that has been fed is a version. -/
theorem Fed.version_eq (h : opened.Fed uri language config grammar source fed) :
    opened.version = fed.length := by
  unfold version
  rw [h.shows.document]
  rfl

end Opened

/-! ## One more version -/

namespace Document

/-- A document with a piece added to its end. -/
def appended (doc : Document) (piece : Text) : Document :=
  { doc with version := doc.version + 1, text := doc.text ++ piece }

/-- An insertion at the end of a text succeeds, with one change that tells of it. -/
theorem applyEdits_append (doc : Document) (piece : Text) :
    doc.text.applyEdits [.insert doc.text.byteLength piece] =
      .ok (doc.text ++ piece, [doc.text.appending piece]) := by
  have hedit := Text.applyEdit_append doc.text [] [] piece
  simp only [List.append_nil] at hedit
  unfold Edit.insert
  rw [Text.applyEdits_cons_of_ok hedit]
  rfl

/-- A document with a piece more is a revision of it, by that one insertion. -/
theorem revision_appended (doc : Document) (piece : Text) :
    doc.Revision (doc.appended piece) [doc.text.appending piece] :=
  .edits (applyEdits_of_ok (doc.applyEdits_append piece))

end Document

/-- The change of an insertion at the end fits into words if the longer text does. -/
theorem Text.appending_fits {text piece : Text} (small : (text ++ piece).byteLength < UInt64.size) :
    (text.appending piece).Fits := by
  rw [Text.byteLength_append] at small
  exact Change.fits_ofSpan _ (Nat.le_refl _) (Nat.lt_of_le_of_lt (Nat.le_add_right _ _) small) small

/-- A report of a later version is applied, and leaves a kept tree that can help with its parse. -/
theorem Services.report_of_newer (s : Services) {entry : Entry} {previous : PreviousTree}
    {version reached : Int} {changes : List Change} (kept : entry.previous = some previous)
    (before : entry.previousVersion = some reached) (newer : reached < version)
    (fits : ∀ change ∈ changes, change.Fits) (uri : String) :
    (s.report uri entry version changes).2.2 = some changes.length ∧
      (s.report uri entry version changes).2.1.currentTree? version = none ∧
      (s.report uri entry version changes).2.1.previousFor? version =
        some (previous.edit changes) := by
  have happlied := Entry.applyChanges_of_newer kept before (Int.not_le.2 newer) fits
  have hcount : (s.report uri entry version changes).2.2 = some changes.length := by
    unfold report
    rw [happlied]
    dsimp only
    split <;> rfl
  -- What the entry holds after the report is read off the applied changes: a report only sets a
  -- timer besides.
  have hsame := s.report_untimed uri entry version changes
  rw [happlied] at hsame
  generalize (s.report uri entry version changes).2.1 = next at hsame ⊢
  have hstate : next.state = .stale := congrArg Entry.state hsame
  have hprevious : next.previous = some (previous.edit changes) := congrArg Entry.previous hsame
  have hversion : next.previousVersion = some version := congrArg Entry.previousVersion hsame
  refine ⟨hcount, ?_, ?_⟩
  · unfold Entry.currentTree?
    rw [hstate]
    cases next.committed <;> rfl
  · rw [Entry.previousFor?, if_pos hversion, hprevious]

namespace Workspace

variable {w : Workspace} {config : Config} {id : DocumentId} {doc next : Document}
  {grammar : Grammar} {source : ParseTree} {helped : Nat} {changes : List Change}

/-- When a new version of a document has been reported, a look at its tree parses it with the help of
    the tree before, to which the changes have been applied. -/
theorem Shows.revise (shows : w.Shows config id doc grammar source helped) (parser : Parser)
    (revision : doc.Revision next changes) (fits : ∀ change ∈ changes, change.Fits) :
    ∃ later, { w with documents := w.documents.set id next }.report next.uri next.version changes =
        (later, .ok (some changes.length)) ∧
      match Pool.attempt parser grammar next.text (some ⟨doc.text, source, changes⟩)
        config.parseTimeoutMs with
      | .ok source =>
        (later.treeNow parser next.uri).1.Shows config id next grammar source (helped + 1) ∧
          ∃ tree, (later.treeNow parser next.uri).2 = .ok tree
      | .error failure => (later.treeNow parser next.uri).2 = .error (failure.toError next.uri) := by
  obtain ⟨entry, hfound, huntimed⟩ := shows.entry
  have hdocument : entry.document = id := congrArg Entry.document huntimed
  have hprevious : entry.previous = some (.ofParse doc.text source) :=
    congrArg Entry.previous huntimed
  have hreached : entry.previousVersion = some doc.version :=
    congrArg Entry.previousVersion huntimed
  have hlt : id < w.documents.length := (List.getElem?_eq_some_iff.1 shows.document).1
  have hset : (w.documents.set id next)[id]? = some next := List.getElem?_set_self hlt
  -- The entry is found by the same name as before, and its document is the new version.
  have hopen : open? { w with documents := w.documents.set id next } next.uri =
      some (entry, next) := by
    rw [revision.uri]
    exact open?_eq_some.2 ⟨hfound, by rw [hdocument]; exact hset⟩
  obtain ⟨hcount, houtdated, hkept⟩ := w.services.report_of_newer hprevious hreached
    (by rw [revision.version]; omega : doc.version < next.version) fits next.uri
  have hleads := w.services.report_leads next.uri entry next.version changes
  have hmeters := w.services.report_meters next.uri next.uri entry next.version changes
  have hsteady := (w.services.report_pace next.uri entry next.version changes).trans shows.pace
  have hsame := (w.services.report_document next.uri entry next.version changes).trans hdocument
  have hreport : { w with documents := w.documents.set id next }.report next.uri next.version
      changes = (put { w with documents := w.documents.set id next } next.uri
        (w.services.report next.uri entry next.version changes).1
        (w.services.report next.uri entry next.version changes).2.1,
        .ok (some changes.length)) := by
    unfold report onEntry
    rw [hopen]
    dsimp only
    rw [hcount]
  have hloaded : (w.services.report next.uri entry next.version changes).1.registry.loaded?
      next.language = some grammar := by
    rw [revision.language]
    exact hleads.registry.loaded _ _ shows.loaded
  have hconfig := hleads.config.trans shows.config
  refine ⟨_, hreport, ?_⟩
  -- The look finds the entry as the report left it, so the parse decides how it ends.
  cases hattempt : Pool.attempt parser grammar next.text (some ⟨doc.text, source, changes⟩)
      config.parseTimeoutMs with
  | ok source =>
    have hlook := shows_of_treeNow
      (w := put { w with documents := w.documents.set id next } next.uri
        (w.services.report next.uri entry next.version changes).1
        (w.services.report next.uri entry next.version changes).2.1)
      hconfig hsteady hset (Table.find?_insert_self _ _ _) hsame houtdated hloaded
      (hmeters.parsed_of_quiet shows.parsed) (by rw [hkept]; rfl) (by rw [hkept]; exact hattempt)
    rw [hkept] at hlook
    exact hlook
  | error failure =>
    exact treeNow_of_failed
      (w := put { w with documents := w.documents.set id next } next.uri
        (w.services.report next.uri entry next.version changes).1
        (w.services.report next.uri entry next.version changes).2.1)
      hconfig hsteady hset (Table.find?_insert_self _ _ _) hsame houtdated hloaded
      (by rw [hkept]; exact hattempt)

end Workspace

namespace Opened

variable {parser : Parser} {opened : Opened} {config : Config} {uri language : String}
  {grammar : Grammar} {source : ParseTree} {fed : List Text}

/-- A piece is added to a document, unless it has its last version. -/
theorem editDocument_append (piece : Text) {doc : Document}
    (found : opened.workspace.documents[opened.document]? = some doc) :
    opened.workspace.editDocument opened.document [.insert opened.text.byteLength piece] =
      ({ opened.workspace with
          documents := opened.workspace.documents.set opened.document (doc.appended piece) },
        some (.ok [doc.text.appending piece])) := by
  have htext : opened.text = doc.text := by
    unfold text
    rw [found]
    rfl
  rw [htext]
  exact Workspace.editDocument_of_ok found (doc.applyEdits_append piece)

/-- The version of an opened document is the one in the table of documents. -/
theorem version_of_found {doc : Document}
    (found : opened.workspace.documents[opened.document]? = some doc) :
    opened.version = doc.version := by
  unfold version
  rw [found]
  rfl

/-- A piece is added, reported and looked at. -/
theorem append_eq (parser : Parser) (piece : Text) {doc : Document} {later : Workspace}
    (found : opened.workspace.documents[opened.document]? = some doc)
    (room : doc.version ≠ Document.lastVersion)
    (reported : { opened.workspace with
        documents := opened.workspace.documents.set opened.document (doc.appended piece) }.report
      opened.uri (doc.appended piece).version [doc.text.appending piece] = (later, .ok (some 1))) :
    opened.append parser piece = do
      let _ ← Ending.expect (later.treeNow parser opened.uri).2
      return { opened with workspace := (later.treeNow parser opened.uri).1 } := by
  have hlt := (List.getElem?_eq_some_iff.1 found).1
  have hversion : version { opened with
      workspace := { opened.workspace with
        documents := opened.workspace.documents.set opened.document (doc.appended piece) } } =
      (doc.appended piece).version :=
    version_of_found (List.getElem?_set_self hlt)
  unfold append
  rw [editDocument_append piece found]
  dsimp only
  rw [version_of_found found, if_neg room, hversion, reported]
  rfl

/-- The version after the last one cannot be counted. -/
theorem Fed.append_of_full (h : opened.Fed uri language config grammar source fed)
    (full : fed.length = Document.lastVersion) (parser : Parser) (piece : Text) :
    opened.append parser piece = .error (.aborted "attempt to add with overflow") := by
  unfold append
  rw [editDocument_append piece h.shows.document]
  dsimp only
  rw [h.version_eq, full, if_pos rfl]
  rfl

/-- One more piece is a version of its own.  It is parsed with the help of the tree before, and nothing
    else can keep it from being fed. -/
theorem Fed.append_cases (h : opened.Fed uri language config grammar source fed)
    (room : fed.length < Document.lastVersion) (parser : Parser) {piece : Text}
    (small : Text.byteLength (fed ++ [piece]).flatten < UInt64.size) :
    match Pool.attempt parser grammar (fed.flatten ++ piece)
      (some ⟨fed.flatten, source, [Text.appending fed.flatten piece]⟩) config.parseTimeoutMs with
    | .ok next => ∃ later, opened.append parser piece = .ok later ∧
        later.Fed uri language config grammar next (fed ++ [piece])
    | .error failure =>
      opened.append parser piece = .error (.failed (.engine (failure.toError uri))) := by
  obtain rfl := h.named
  have hwhole : (fed ++ [piece]).flatten = fed.flatten ++ piece := by simp
  have hnext : Document.appended ⟨opened.uri, language, fed.length, fed.flatten⟩ piece =
      ⟨opened.uri, language, (fed ++ [piece]).length, (fed ++ [piece]).flatten⟩ := by
    rw [hwhole, List.length_append]
    rfl
  have hfits : ∀ change ∈ [Text.appending fed.flatten piece], change.Fits := by
    intro change hchange
    obtain rfl := List.mem_singleton.1 hchange
    rw [hwhole] at small
    exact Text.appending_fits small
  obtain ⟨later, hreport, hlook⟩ :=
    h.shows.revise parser (Document.revision_appended _ piece) hfits
  have hcount : fed.length + 1 = (fed ++ [piece]).length := by simp
  have hroom : ((fed.length : Nat) : Int) ≠ Document.lastVersion := by omega
  rw [append_eq parser piece h.shows.document hroom hreport]
  rw [hnext, hcount, hwhole] at hlook
  dsimp only at hlook
  -- Either the parse gives a tree, and the document shows it, or the look fails as the parse does.
  split <;> next heq =>
    rw [heq] at hlook
    first
    | obtain ⟨hshown, tree, htree⟩ := hlook
      rw [htree]
      exact ⟨_, rfl, rfl, by rw [hwhole]; exact hshown⟩
    | rw [hlook]
      rfl

/-- A document is fed piece by piece, until a parse fails or there are no more versions. -/
theorem Fed.foldlM_append (h : opened.Fed uri language config grammar source fed) (parser : Parser)
    (within : fed.length ≤ Document.lastVersion) (pieces : List Text)
    (small : Text.byteLength (fed ++ pieces).flatten < UInt64.size) :
    match grammar.regrow parser config.parseTimeoutMs fed.flatten source
      (pieces.take (Document.lastVersion - fed.length)) with
    | .error failure =>
      pieces.foldlM (append parser) opened = .error (.failed (.engine (failure.toError uri)))
    | .ok last =>
      if fed.length + pieces.length ≤ Document.lastVersion then
        ∃ later, pieces.foldlM (append parser) opened = .ok later ∧
          later.Fed uri language config grammar last (fed ++ pieces)
      else
        pieces.foldlM (append parser) opened =
          .error (.aborted "attempt to add with overflow") := by
  -- By induction on the pieces, with what has been fed so far free, as each step feeds one more.
  induction pieces generalizing opened fed source with
  | nil =>
    rw [List.take_nil, Grammar.regrow]
    dsimp only
    rw [if_pos (by simpa using within), List.append_nil]
    exact ⟨opened, rfl, h⟩
  | cons piece rest ih =>
    rw [List.foldlM_cons]
    -- Either the last version has been reached, and the next piece overflows, or there is room for
    -- it.
    rcases Nat.eq_or_lt_of_le within with hfull | hroom
    · rw [hfull, Nat.sub_self, List.take_zero, Grammar.regrow]
      dsimp only
      rw [if_neg (by rw [List.length_cons]; omega), h.append_of_full hfull]
      rfl
    · have hparts : fed ++ piece :: rest = fed ++ [piece] ++ rest := by simp
      have hwhole : (fed ++ [piece]).flatten = fed.flatten ++ piece := by simp
      have hsmall : Text.byteLength (fed ++ [piece]).flatten < UInt64.size := by
        rw [hparts, List.flatten_append, Text.byteLength_append] at small
        omega
      have htake : Document.lastVersion - fed.length =
          Document.lastVersion - (fed ++ [piece]).length + 1 := by
        rw [List.length_append, List.length_singleton]
        omega
      have happend := h.append_cases hroom parser hsmall
      rw [htake, List.take_succ_cons, Grammar.regrow]
      cases hattempt : Pool.attempt parser grammar (fed.flatten ++ piece)
          (some ⟨fed.flatten, source, [Text.appending fed.flatten piece]⟩) config.parseTimeoutMs with
      | error failure =>
        rw [hattempt] at happend
        dsimp only at happend
        rw [happend]
        rfl
      | ok next =>
        rw [hattempt] at happend
        obtain ⟨later, hlater, hfed⟩ := happend
        have hrest := ih hfed (by rw [List.length_append]; exact hroom) (by rw [← hparts]; exact small)
        have hlength : (fed ++ [piece]).length + rest.length = fed.length + (piece :: rest).length := by
          simp only [List.length_append, List.length_cons, List.length_nil]
          omega
        rw [hwhole, hlength, ← hparts] at hrest
        rw [hlater]
        exact hrest

/-! ## From the start -/

/-- The language of a file is one that there are settings for. -/
theorem isSupported_of_languageOf {registry : Registry} {file : String} {given : Option String}
    (h : registry.languageOf file given = .ok language) : registry.isSupported language = true := by
  unfold Registry.languageOf at h
  split at h
  · exact nomatch h
  · split at h
    · next supported =>
      obtain rfl := Except.ok.inj h
      exact supported
    · exact nomatch h

/-- The document of a file that was opened empty, with nothing else in the workspace. -/
theorem unparsed_of_openFile {s : Surroundings} {dataHome file : String} {libraries : Libraries}
    {given : Option String}
    (opens : s.openFile (.create config dataHome libraries true) file given (some []) = .ok opened) :
    ∃ language, (Registry.ofConfig config dataHome).isSupported language = true ∧
      opened.workspace.Unparsed config opened.document ⟨opened.uri, language, 0, []⟩
        (.ofConfig config dataHome) := by
  unfold Surroundings.openFile at opens
  cases hlanguage : (Workspace.create config dataHome libraries true).services.registry.languageOf
      file given with
  | error ending =>
    rw [hlanguage] at opens
    exact nomatch opens
  | ok language =>
    rw [hlanguage] at opens
    obtain rfl := Except.ok.inj opens
    refine ⟨language, isSupported_of_languageOf hlanguage, ?_⟩
    exact ⟨rfl, rfl, rfl, rfl, rfl, rfl, ⟨_, _, _, rfl, Table.find?_insert_self _ _ _⟩,
      ⟨rfl, rfl, rfl⟩⟩

/-- The first look at a document that was opened empty. -/
theorem parsed_cases {dataHome : String} (parser : Parser)
    (supported : (Registry.ofConfig config dataHome).isSupported language = true)
    (unparsed : opened.workspace.Unparsed config opened.document ⟨opened.uri, language, 0, []⟩
      (.ofConfig config dataHome)) :
    match opened.awaited parser with
    | .error error => opened.parsed parser = .error (.failed (.engine (.grammar error)))
    | .ok grammar =>
      match Pool.attempt parser grammar [] none config.parseTimeoutMs with
      | .error failure =>
        opened.parsed parser = .error (.failed (.engine (failure.toError opened.uri)))
      | .ok source => ∃ later tree, opened.parsed parser = .ok (later, tree) ∧
          later.Fed opened.uri language config grammar source [] := by
  obtain ⟨settings, hsettings⟩ := Option.isSome_iff_exists.1 supported
  obtain ⟨number, deadline, generation, -, hentry⟩ := unparsed.entry
  have hlook := unparsed.treeAfterLoad_firstLook parser (Table.find?_empty _) hsettings rfl
  have hawaited : opened.awaited parser =
      (opened.workspace.awaitGrammar parser language).2.1 := by
    unfold awaited
    rw [unparsed.document]
    rfl
  -- There is a runtime and a supported language, so nothing keeps the look from waiting for a
  -- grammar.
  have htree : opened.workspace.tree parser opened.uri =
      ((opened.workspace.treeAfterLoad parser opened.uri language).1,
        some (opened.workspace.treeAfterLoad parser opened.uri language).2) := by
    unfold Workspace.tree Workspace.isStranded
    rw [Workspace.open?_eq_some.2 ⟨hentry, unparsed.document⟩, unparsed.runtime, unparsed.registry]
    dsimp only
    rw [supported]
    rfl
  have hparsed : opened.parsed parser = do
      let tree ← Ending.expect (opened.workspace.treeAfterLoad parser opened.uri language).2
      return ({ opened with
        workspace := (opened.workspace.treeAfterLoad parser opened.uri language).1 }, tree) := by
    unfold parsed
    rw [htree]
  rw [hawaited]
  dsimp only at hlook
  generalize (opened.workspace.treeAfterLoad parser opened.uri language).2 = result
    at hlook hparsed
  rw [hparsed]
  generalize (opened.workspace.awaitGrammar parser language).2.1 = grammar at hlook ⊢
  -- The first look has three ways to end: no grammar, a failed parse, or a tree that is shown.
  cases hlook with
  | parsed parsed shows tree =>
    dsimp only at parsed ⊢
    rw [parsed]
    exact ⟨_, tree, rfl, rfl, shows⟩
  | missing error => rfl
  | failed _ failed =>
    dsimp only at failed ⊢
    rw [failed]
    rfl

/-- A document that was opened empty is fed to the end, unless it has no grammar, or a parse fails, or
    its versions cannot be counted. -/
theorem feed_cases {dataHome : String} (parser : Parser)
    (supported : (Registry.ofConfig config dataHome).isSupported language = true)
    (unparsed : opened.workspace.Unparsed config opened.document ⟨opened.uri, language, 0, []⟩
      (.ofConfig config dataHome)) {pieces : List Text}
    (small : Text.byteLength pieces.flatten < UInt64.size) :
    match opened.awaited parser with
    | .error error => opened.feed parser pieces = .error (.failed (.engine (.grammar error)))
    | .ok grammar =>
      match grammar.grow parser config.parseTimeoutMs (pieces.take Document.lastVersion) with
      | .error failure =>
        opened.feed parser pieces = .error (.failed (.engine (failure.toError opened.uri)))
      | .ok source =>
        if pieces.length ≤ Document.lastVersion then
          ∃ fed, opened.feed parser pieces = .ok fed ∧
            fed.Fed opened.uri language config grammar source pieces
        else
          opened.feed parser pieces = .error (.aborted "attempt to add with overflow") := by
  have hparsed := parsed_cases parser supported unparsed
  unfold feed
  -- Without a grammar there is no first tree, and nothing is fed.
  cases hawaited : opened.awaited parser with
  | error error =>
    rw [hawaited] at hparsed
    dsimp only at hparsed ⊢
    rw [hparsed]
    rfl
  | ok grammar =>
    rw [hawaited] at hparsed
    dsimp only at hparsed ⊢
    rw [Grammar.grow]
    cases hattempt : Pool.attempt parser grammar [] none config.parseTimeoutMs with
    | error failure =>
      rw [hattempt] at hparsed
      dsimp only at hparsed
      rw [hparsed]
      rfl
    | ok source =>
      rw [hattempt] at hparsed
      obtain ⟨later, tree, hlater, hfed⟩ := hparsed
      have hrest := hfed.foldlM_append parser (Nat.zero_le _) pieces small
      rw [List.length_nil, Nat.zero_add] at hrest
      rw [hlater]
      exact hrest

/-- What is known of a document when all of a text has been fed to it. -/
structure Replayed (opened : Opened) (source : Text) (edits : Nat) : Prop where
  text : opened.text = source
  version : opened.version = edits
  full : opened.workspace.services.metrics.counters.fullParses.toNat = 1
  incremental : opened.workspace.services.metrics.counters.incrementalParses.toNat = edits
  failures : opened.workspace.services.metrics.counters.parseFailures.toNat = 0

/-- What counts for a document that has been fed: its counters are those of its parses. -/
theorem Fed.replayed (h : opened.Fed uri language config grammar source fed)
    (countable : fed.length < UInt64.size) :
    opened.Replayed fed.flatten fed.length := by
  refine ⟨h.text_eq, h.version_eq, ?_, ?_, ?_⟩
  · rw [h.shows.parsed.full]
    rfl
  · rw [h.shows.parsed.incremental]
    exact UInt64.toNat_ofNat_of_lt countable
  · rw [h.shows.parsed.failures]
    rfl

end Opened

/-- With room for its pieces, a file is verified by a replay of them. -/
theorem Command.run_verify {parser : Parser} {s : Surroundings} {w : Workspace}
    {given : Option String} {file : String} {count : Nat} {source : Text} {opened : Opened}
    (readable : s.readFile file = .ok source) (room : count < tooManyPieces)
    (memory : s.refusal? (pieceSize * count) = none)
    (opens : s.openFile w file given (some []) = .ok opened) :
    (Command.verify file count).run parser s given w =
      opened.replay parser file (source.pieces (max count 1)) := by
  have hroom : ¬ tooManyPieces ≤ count := Nat.not_le.2 room
  unfold Command.run
  dsimp only
  rw [readable, opens, memory]
  simp only [hroom, if_false]
  rfl

/-- A text can be cut into any number of pieces without loss: the cuts are at character boundaries, no
    piece is empty, and there are at most as many as asked for.  Whatever the number, a file that is
    verified is fed to a document in such pieces.  Once there is a grammar, only the parses of the growing
    text decide how that ends: if one of them fails, with its failure; and if all give trees, the document
    has the text of the file, each piece is a version, the empty text was parsed in full, and each piece
    with the help of the tree before.

    Pieces beyond the last version that can be counted would overflow; those of a file with so many
    take 32 GiB to be listed. -/
theorem Command.verify_feeds_everything (parser : Parser) (source : Text) :
    (∀ most, 0 < most → source.CutInto most (source.pieces most) ∧
      source.CutFrom (source.pieceBytes most) 0 (source.pieces most)) ∧
    ∀ (s : Surroundings) (config : Config) (dataHome : String) (libraries : Libraries)
      (language : Option String) (file : String) (count : Nat) (opened : Opened),
      s.readFile file = .ok source → source.byteLength < UInt64.size → count < tooManyPieces →
      s.refusal? (pieceSize * count) = none →
      s.openFile (.create config dataHome libraries true) file language (some []) = .ok opened →
      let pieces := source.pieces (max count 1)
      (Command.verify file count).run parser s language (.create config dataHome libraries true) =
          opened.feed parser pieces >>= (fun fed => fed.conclude parser file pieces.length) ∧
        match opened.awaited parser with
        | .error error => opened.feed parser pieces = .error (.failed (.engine (.grammar error)))
        | .ok grammar =>
          match grammar.grow parser config.parseTimeoutMs (pieces.take Document.lastVersion) with
          | .error failure =>
            opened.feed parser pieces = .error (.failed (.engine (failure.toError opened.uri)))
          | .ok _ =>
            if pieces.length ≤ Document.lastVersion then
              ∃ fed, opened.feed parser pieces = .ok fed ∧ fed.Replayed source pieces.length
            else
              opened.feed parser pieces = .error (.aborted "attempt to add with overflow") := by
  have hcut : ∀ most, 0 < most → source.CutInto most (source.pieces most) :=
    fun most hmost => source.cutInto_pieces hmost
  refine ⟨fun most hmost => ⟨hcut most hmost, source.cutFrom_pieces most⟩, ?_⟩
  intro s config dataHome libraries language file count opened readable small room memory opens pieces
  have hpieces : source.CutInto (max count 1) pieces := hcut (max count 1) (Nat.le_max_right _ _)
  obtain ⟨known, hsupported, hunparsed⟩ := Opened.unparsed_of_openFile opens
  refine ⟨?_, ?_⟩
  · rw [run_verify readable room memory opens]
    exact opened.replay_eq parser file _
  · have hsmall : Text.byteLength pieces.flatten < UInt64.size := by
      rw [hpieces.whole]
      exact small
    have hcount := Text.length_le_byteLength_flatten hpieces.nonempty
    have hfeed := Opened.feed_cases parser hsupported hunparsed hsmall
    -- What the look waits for does not matter from here on, only whether it is a grammar.
    generalize opened.awaited parser = awaited at hfeed ⊢
    cases awaited with
    | error error => exact hfeed
    | ok grammar =>
      dsimp only at hfeed ⊢
      generalize grammar.grow parser config.parseTimeoutMs _ = grown at hfeed ⊢
      cases grown with
      | error failure => exact hfeed
      | ok last =>
        dsimp only at hfeed ⊢
        split at hfeed <;> rename_i hversions
        · obtain ⟨fed, hfed, hends⟩ := hfeed
          rw [if_pos hversions]
          have hreplayed := hends.replayed (Nat.lt_of_le_of_lt hcount hsmall)
          rw [hpieces.whole] at hreplayed
          exact ⟨fed, hfed, hreplayed⟩
        · rw [if_neg hversions]
          exact hfeed

/-- A file `a` in which a character of two bytes stands in brackets. -/
def bracketed : Surroundings where
  files := { files := [(["a"], ⟨#[91, 195, 169, 93]⟩)] }
  dataHome := ""

/-- A parser that has a tree for every text. -/
def readily : Parser := fun _ text _ _ => some (Recording.bareTree "document" text)

/-- The path is relative to a base without segments, so its only segment is its own. -/
theorem absolute_bracketed : Path.absolute bracketed.files.base "a" = ["a"] := by
  have hwhole : "a".splitOn "/" = ["a"] := by
    rw [String.splitOn, if_neg (by decide), String.splitOnAux, if_neg (by decide),
      if_neg (by decide), String.splitOnAux, if_pos (by decide)]
    decide
  have hrelative : Path.isAbsolute "a" = false := by decide +kernel
  unfold Path.absolute Path.components
  rw [hrelative, hwhole]
  decide

/-- The file is found under its path, and its bytes read as a text. -/
theorem readFile_bracketed : bracketed.readFile "a" = .ok ['[', 'é', ']'] := by
  have hnull : "a".contains '\x00' = false := by simp
  have hfile : Path.endsInFolder "a" = false := by decide +kernel
  unfold Surroundings.readFile Files.readText Files.find
  rw [hnull, absolute_bracketed, hfile]
  rfl

/-- Feeding the two pieces comes to a good end. -/
theorem feed_bracketed : ∃ opened,
    bracketed.openFile (.create {} "" {} true) "a" (some "json") (some []) = .ok opened ∧
      (opened.feed readily [['[', 'é'], [']']]).toBool = true := by
  refine ⟨_, rfl, ?_⟩
  rw [absolute_bracketed]
  decide +kernel

/-- Each piece is to have two bytes, but the first one would end inside a character and gets three. -/
theorem Command.verify_feeds_everything_bracketed :
    ∃ opened fed,
      bracketed.openFile (.create {} "" {} true) "a" (some "json") (some []) = .ok opened ∧
      opened.feed readily [['[', 'é'], [']']] = .ok fed ∧ fed.Replayed ['[', 'é', ']'] 2 := by
  obtain ⟨opened, hopens, hends⟩ := feed_bracketed
  have hpieces : Text.pieces ['[', 'é', ']'] (max 2 1) = [['[', 'é'], [']']] := by decide +kernel
  obtain ⟨-, hfeeds⟩ := (verify_feeds_everything readily ['[', 'é', ']']).2 bracketed {} "" {}
    (some "json") "a" 2 opened readFile_bracketed (by decide) (by decide) (by decide) hopens
  rw [hpieces] at hfeeds
  generalize hfeed : opened.feed readily [['[', 'é'], [']']] = result at hends hfeeds
  -- Nothing but the good end is possible, as the feeding has come to one.
  split at hfeeds
  · rw [hfeeds] at hends
    exact nomatch hends
  · split at hfeeds
    · rw [hfeeds] at hends
      exact nomatch hends
    · rw [if_pos (by decide)] at hfeeds
      obtain ⟨fed, hfed, hreplayed⟩ := hfeeds
      exact ⟨opened, fed, hopens, hfeed.trans hfed, hreplayed⟩

end LiveTree
