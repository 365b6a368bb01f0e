import LiveTree.Proofs.Currency

/-!
# Documents do not interfere

All documents of an engine share its grammars, its parsers, its metrics and its table of entries.  In
an engine without a runtime in which all grammars are at hand, none of this can be used to tell what is
done to another document: what the host asks of one document is answered as if no other had ever been
asked for.

The proof compares two runs.  `Workspace.Alike` says that two workspaces look the same from one
document, and `Workspace.Isolated` says two things of an operation: from workspaces that look the same
it goes on to such workspaces, with the same answer; and it is seen from no other document.

## Key results

- `Services.Uniform`: an operation on one entry that needs no more of the services than what never
  changes, and one lemma for each operation
- `Workspace.Isolated.bind`: isolated operations in sequence are isolated
- `Workspace.respond_isolated`: every request is isolated
- `documents_do_not_interfere`: the answers to one document are those of the run without the others
-/

namespace LiveTree

/-- What the host can ask for about one of its documents. -/
inductive Request where
  | openDocument
  | close
  | edit (edits : List Edit)
  | setText (text : Text)
  | report (version : Int) (changes : List Change)
  | treeNow
  | reparseNow
  | verify
  | containingNode (span : Span)
  | bracketingChildren (span : Span)
  | swapSiblings (a b : Span)
  | swapWithSibling (span : Span) (direction : Direction)
  | state
  | pendingEdits
  | lastTree

/-- What a request is answered with. -/
inductive Answer where
  /-- There is no such document. -/
  | absent
  | opened
  | closed (wasOpen : Bool)
  | edited (changes : Option (Except EditError (List Change)))
  | replaced (change : Option Change)
  | reported (applied : Except EngineError (Option Nat))
  | tree (tree : Except EngineError SyntaxTree)
  | reparsed (tree : Except EngineError (Option SyntaxTree))
  | verified (verdict : Except EngineError Services.Verdict)
  | node (node : Except EngineError (SyntaxTree × NodeId))
  | bracket (bracket : Except EngineError (SyntaxTree × Bracket))
  | swapped (swapped : Option (Except EngineError Workspace.Swapped))
  | swappedWith (swapped : Option (Except EngineError (Option Workspace.Swapped)))
  | state (state : Option SyncState)
  | pendingEdits (count : Option Nat)
  | lastTree (tree : Option SyntaxTree)

namespace Workspace

/-- An operation whose outcome is told as an answer. -/
def answering {α : Type} (answer : α → Answer) (outcome : Workspace × α) : Workspace × Answer :=
  (outcome.1, answer outcome.2)

/-- A request about the document with the given name and uri, and its answer. -/
def respond (parser : Parser) (id : DocumentId) (uri : String) (w : Workspace) :
    Request → Workspace × Answer
  | .openDocument => (w.openDocument id, .opened)
  | .close => answering .closed (w.close uri)
  | .edit edits => answering .edited (w.editDocument id edits)
  | .setText text => answering .replaced (w.setText id text)
  | .report version changes => answering .reported (w.report uri version changes)
  | .treeNow => answering .tree (w.treeNow parser uri)
  | .reparseNow => answering .reparsed (w.reparseNow parser uri)
  | .verify => answering .verified (w.verify parser uri)
  | .containingNode span => answering .node (w.containingNode parser uri span)
  | .bracketingChildren span => answering .bracket (w.bracketingChildren parser uri span)
  | .swapSiblings a b => answering .swapped (w.swapSiblings parser id a b)
  | .swapWithSibling span direction =>
    answering .swappedWith (w.swapWithSibling parser id span direction)
  | .state => (w, .state ((w.entries.find? uri).map Entry.state))
  | .pendingEdits => (w, .pendingEdits ((w.entries.find? uri).map Entry.pendingEdits))
  | .lastTree => (w, .lastTree (w.lastTree? uri))

/-- A request about one of the documents, under the uri that it has. -/
def ask (parser : Parser) (w : Workspace) (id : DocumentId) (request : Request) :
    Workspace × Answer :=
  match w.documents[id]? with
  | none => (w, .absent)
  | some doc => w.respond parser id doc.uri request

/-- Requests about documents, one after the other, and their answers. -/
def converse (parser : Parser) :
    Workspace → List (DocumentId × Request) → Workspace × List (DocumentId × Answer)
  | w, [] => (w, [])
  | w, (id, request) :: rest =>
    let (w, answer) := w.ask parser id request
    let (w, answers) := converse parser w rest
    (w, (id, answer) :: answers)

end Workspace

/-! ## Operations on one entry -/

namespace Services

/-- Services that differ at most in what does not matter to an entry: parsers, metrics, subscribers,
    and tasks, of which there are none without a runtime. -/
structure Peers (s other : Services) : Prop where
  config : other.config = s.config
  registry : other.registry = s.registry
  runtime : other.runtime = s.runtime
  pace : other.pace = s.pace

/-- An entry cannot tell the services from themselves. -/
theorem Peers.refl (s : Services) : s.Peers s := ⟨rfl, rfl, rfl, rfl⟩

/-- Being peers says nothing about which of the two came first. -/
theorem Peers.symm {s other : Services} (h : s.Peers other) : other.Peers s :=
  ⟨h.config.symm, h.registry.symm, h.runtime.symm, h.pace.symm⟩

/-- What an entry cannot tell apart in two steps it cannot tell apart at all. -/
theorem Peers.trans {a b c : Services} (hab : a.Peers b) (hbc : b.Peers c) : a.Peers c :=
  ⟨hbc.config.trans hab.config, hbc.registry.trans hab.registry, hbc.runtime.trans hab.runtime,
    hbc.pace.trans hab.pace⟩

/-- An operation that leaves peers of the given services peers, and does the same in all of them. -/
def Uniform {α : Type} (s : Services) (operation : Services → Services × α) : Prop :=
  ∀ other, s.Peers other →
    s.Peers (operation other).1 ∧ (operation other).2 = (operation s).2

section Uniformity

variable {s : Services} {α β : Type}

/-- An operation that does nothing to the services. -/
theorem Uniform.pure (a : α) : s.Uniform fun s => (s, a) := fun _ peers => ⟨peers, rfl⟩

/-- Whether an operation is uniform depends only on what it does in peers of the services. -/
theorem Uniform.congr {operation same : Services → Services × α} (h : s.Uniform same)
    (eq : ∀ other, s.Peers other → operation other = same other) : s.Uniform operation := by
  intro other peers
  rw [eq other peers, eq s (.refl s)]
  exact h other peers

/-- Uniform operations in sequence are uniform. -/
theorem Uniform.bind {first : Services → Services × α} {f : α → Services → Services × β}
    (h : s.Uniform first) (then' : (first s).1.Uniform (f (first s).2)) :
    s.Uniform fun s => f (first s).2 (first s).1 := by
  intro other peers
  obtain ⟨hpeers, hsame⟩ := h other peers
  -- The second operation starts from services that the first has made of peers.
  have hself := (h s (.refl s)).1
  obtain ⟨hafter, hanswer⟩ := then' _ (hself.symm.trans hpeers)
  dsimp only
  rw [hsame]
  exact ⟨hself.trans hafter, hanswer⟩

end Uniformity

/-- Cancelling a timer touches the queue of tasks alone. -/
theorem cancelTimer_peers (s : Services) (entry : Entry) : s.Peers (s.cancelTimer entry).1 := by
  unfold cancelTimer
  split <;> exact ⟨rfl, rfl, rfl, rfl⟩

/-- What cancelling does to the entry is read off the entry. -/
theorem cancelTimer_uniform (s : Services) (entry : Entry) : s.Uniform (·.cancelTimer entry) := by
  intro other peers
  refine ⟨peers.trans (other.cancelTimer_peers entry), ?_⟩
  dsimp only [cancelTimer]
  split <;> rfl

/-- Without a runtime nothing is ever scheduled. -/
theorem schedule_of_no_runtime {s : Services} (h : s.runtime = false) (uri : String)
    (entry : Entry) (delay : Nat) : s.schedule uri entry delay = (s, entry) := by
  unfold schedule
  rw [if_neg (by simp [h])]

/-- A parse takes nothing from the services but the limit of its time. -/
theorem parseEntry_uniform (s : Services) (parser : Parser) (doc : Document) (entry : Entry)
    (grammar : Grammar) : s.Uniform (·.parseEntry parser doc entry grammar) := by
  intro other peers
  dsimp only [parseEntry, parseText, Pool.parse]
  rw [peers.config, peers.pace]
  split <;> exact ⟨⟨rfl, peers.registry, peers.runtime, rfl⟩, rfl⟩

/-- Without a runtime a report is only counted. -/
theorem report_of_no_runtime {s : Services} (runtime : s.runtime = false) (uri : String)
    (entry : Entry) (version : Int) (changes : List Change) :
    s.report uri entry version changes =
      match entry.applyChanges changes version with
      | (later, .applied count) => (s.measure (·.recordEditsApplied count), later, some count)
      | (later, .dropped count) => (s.measure (·.recordEditsDropped count), later, some 0)
      | (later, .stopped) => (s, later, none) := by
  unfold report
  -- Only a report that is applied would schedule anything.
  rcases entry.applyChanges changes version with ⟨later, count | count | _⟩
  · dsimp only
    rw [schedule_of_no_runtime (by exact runtime)]
    split <;> rfl
  · rfl
  · rfl

/-- Without a runtime a report does the same to the entry in all peers. -/
theorem report_uniform {s : Services} (runtime : s.runtime = false) (uri : String) (entry : Entry)
    (version : Int) (changes : List Change) : s.Uniform (·.report uri entry version changes) := by
  intro other peers
  dsimp only
  rw [report_of_no_runtime runtime, report_of_no_runtime (peers.runtime.trans runtime)]
  split <;> exact ⟨peers.trans ⟨rfl, rfl, rfl, rfl⟩, rfl⟩

section Loaded

variable {s : Services} {doc : Document} {grammar : Grammar}
  (loaded : s.registry.loaded? doc.language = some grammar)
include loaded

/-- A look at the tree takes no more from the services than the grammar, which is loaded in all
    peers. -/
theorem treeNow_uniform (parser : Parser) (entry : Entry) :
    s.Uniform (·.treeNow parser doc entry) := by
  cases hcurrent : entry.currentTree? doc.version with
  | some tree => exact (Uniform.pure _).congr fun other _ => treeNow_of_current parser hcurrent
  | none =>
    -- A tree that is out of date costs a cancellation and a parse, one after the other.
    refine ((s.cancelTimer_uniform entry).bind
      (f := fun cancelled s => s.parseEntry parser doc cancelled.1 grammar)
      (parseEntry_uniform _ parser doc _ grammar)).congr fun other peers => ?_
    rw [treeNow_of_outdated parser hcurrent, grammarNow_of_loaded]
    rw [(peers.trans (other.cancelTimer_peers entry)).registry]
    exact loaded

/-- So does going the scheduled path, which cannot get as far as waiting for a grammar. -/
theorem reparse_uniform (parser : Parser) (entry : Entry) :
    s.Uniform (·.reparse parser doc entry) := by
  cases hcurrent : entry.currentTree? doc.version with
  | some tree => exact (Uniform.pure _).congr fun other _ => reparse_of_current parser hcurrent
  | none =>
    refine ((s.parseEntry_uniform parser doc entry grammar).bind
      (f := fun parsed s => (s, parsed.1, parsed.2.map some)) (.pure _)).congr
      fun other peers => ?_
    exact reparse_of_loaded parser hcurrent (by rw [peers.registry]; exact loaded)

/-- Cancelling the timer first makes no difference to that. -/
theorem cancelTimer_reparse_uniform (parser : Parser) (entry : Entry) :
    s.Uniform fun s => (s.cancelTimer entry).1.reparse parser doc (s.cancelTimer entry).2.1 :=
  (s.cancelTimer_uniform entry).bind (f := fun cancelled s => s.reparse parser doc cancelled.1)
    (reparse_uniform (by rw [(s.cancelTimer_peers entry).registry]; exact loaded) parser _)

/-- A verification takes nothing more from the services than the tree on demand, if that is of the
    document's language. -/
theorem verify_uniform {parser : Parser} {entry : Entry}
    (own : ∀ tree, (s.treeNow parser doc entry).2.2 = .ok tree → tree.language = doc.language) :
    s.Uniform (·.verify parser doc entry) := by
  have htree := treeNow_uniform loaded parser entry
  intro other peers
  obtain ⟨hpeers, hsame⟩ := htree other peers
  have hself := (htree s (.refl s)).1
  dsimp only [verify] at hpeers hsame hself ⊢
  -- The two looks have the same answer and leave the same entry, but services of their own.
  generalize s.treeNow parser doc entry = first at own hsame hself ⊢
  generalize other.treeNow parser doc entry = second at hpeers hsame ⊢
  obtain ⟨s₁, entry₁, result⟩ := first
  obtain ⟨s₂, entry₂, result₂⟩ := second
  obtain ⟨rfl, rfl⟩ := Prod.mk.inj hsame
  cases result₂ with
  | error error => exact ⟨hpeers, rfl⟩
  | ok tree =>
    dsimp only at own hpeers hself ⊢
    -- Both services fetch the same grammar, so they parse with the same parser and the same limit.
    rw [own tree rfl, grammarNow_of_loaded (by rw [hpeers.registry]; exact loaded),
      grammarNow_of_loaded (by rw [hself.registry]; exact loaded)]
    dsimp only [parseText, Pool.parse]
    rw [hpeers.config, hself.config, hpeers.pace, hself.pace]
    cases Pool.attempt (parser.paced s.pace) grammar doc.text none s.config.parseTimeoutMs with
    | error failure => exact ⟨⟨rfl, hpeers.registry, hpeers.runtime, rfl⟩, rfl⟩
    | ok source =>
      dsimp only
      split <;> exact ⟨⟨rfl, hpeers.registry, hpeers.runtime, rfl⟩, rfl⟩

end Loaded

end Services

namespace Workspace

/-! ## Workspaces seen from one document -/

/-- Two workspaces that look the same from one document. -/
structure Alike (id : DocumentId) (uri : String) (w v : Workspace) : Prop where
  document : v.documents[id]? = w.documents[id]?
  entry : v.entries.find? uri = w.entries.find? uri
  services : w.services.Peers v.services

/-- What becomes of a workspace when nothing is done to it but to one document and its entry. -/
structure Confined (id : DocumentId) (uri : String) (w later : Workspace) : Prop where
  documents : ∀ other, other ≠ id → later.documents[other]? = w.documents[other]?
  titles : later.documents.map (fun doc => (doc.uri, doc.language)) =
    w.documents.map fun doc => (doc.uri, doc.language)
  entries : ∀ other, other ≠ uri → later.entries.find? other = w.entries.find? other
  services : w.services.Peers later.services

/-- A workspace without a runtime, with documents of distinct uris and all their grammars. -/
structure Stocked (w : Workspace) : Prop where
  runtime : w.services.runtime = false
  uris : (w.documents.map (·.uri)).Nodup
  loaded : ∀ doc ∈ w.documents, w.services.registry.didLoad doc.language = true

/-- The same, with what is known of grammars and entries after every run. -/
structure Furnished (parser : Parser) (w : Workspace) : Prop extends Stocked w where
  sound : w.services.registry.Sound
  entries : EntriesHold (Committed parser) w

/-- A document of the given uri. -/
def Houses (w : Workspace) (id : DocumentId) (uri : String) : Prop :=
  ∃ doc, w.documents[id]? = some doc ∧ doc.uri = uri

/-- An operation on one document: nothing is done to any other, and where two workspaces look the
    same from the document, it does the same and has the same answer. -/
structure Isolated {α : Type} (parser : Parser) (id : DocumentId) (uri : String) (w : Workspace)
    (operation : Workspace → Workspace × α) : Prop where
  reaches : ∃ doings, Reaches parser w doings (operation w).1
  confined : Confined id uri w (operation w).1
  alike : ∀ v, Alike id uri w v →
    Alike id uri (operation w).1 (operation v).1 ∧ (operation v).2 = (operation w).2

/-- A workspace looks the same as itself, from wherever it is seen. -/
theorem Alike.refl (id : DocumentId) (uri : String) (w : Workspace) : Alike id uri w w :=
  ⟨rfl, rfl, .refl _⟩

section Confinement

variable {parser : Parser} {id : DocumentId} {uri : String} {w v later last : Workspace}

/-- What is left alone is confined to any document. -/
theorem Confined.refl (id : DocumentId) (uri : String) (w : Workspace) : Confined id uri w w :=
  ⟨fun _ _ => rfl, rfl, fun _ _ => rfl, .refl _⟩

/-- What is done to one document in two steps is done to that document alone. -/
theorem Confined.trans (first : Confined id uri w later) (second : Confined id uri later last) :
    Confined id uri w last where
  documents other hne := (second.documents other hne).trans (first.documents other hne)
  titles := second.titles.trans first.titles
  entries other hne := (second.entries other hne).trans (first.entries other hne)
  services := first.services.trans second.services

/-- What is done to one document is not seen from another. -/
theorem Confined.alike {other : DocumentId} {key : String} (confined : Confined other key w later)
    (hid : id ≠ other) (huri : uri ≠ key) (alike : Alike id uri w v) : Alike id uri later v where
  document := alike.document.trans (confined.documents id hid).symm
  entry := alike.entry.trans (confined.entries uri huri).symm
  services := confined.services.symm.trans alike.services

/-- Documents keep their uris and languages. -/
theorem Confined.titles_at (confined : Confined id uri w later) (other : DocumentId) :
    (later.documents[other]?).map (fun doc => (doc.uri, doc.language)) =
      (w.documents[other]?).map fun doc => (doc.uri, doc.language) := by
  have h := congrArg (·[other]?) confined.titles
  simpa only [List.getElem?_map] using h

/-- A document that has a uri keeps it. -/
theorem Confined.houses (confined : Confined id uri w later) {other : DocumentId} {key : String}
    (houses : w.Houses other key) : later.Houses other key := by
  obtain ⟨doc, found, rfl⟩ := houses
  -- Its title is still there at its place, and the uri is the first half of that.
  have h := confined.titles_at other
  rw [found, Option.map_some, Option.map_eq_some_iff] at h
  obtain ⟨next, hnext, htitle⟩ := h
  exact ⟨next, hnext, (Prod.mk.inj htitle).1⟩

/-- What is known of grammars and entries is kept by all operations, and the rest by confined ones.
    -/
theorem Confined.furnished (confined : Confined id uri w later)
    (reaches : ∃ doings, Reaches parser w doings later) (furnished : Furnished parser w) :
    Furnished parser later where
  runtime := confined.services.runtime.trans furnished.runtime
  -- The uris are the first halves of the titles, which are as before.
  uris := by
    have h := congrArg (List.map Prod.fst) confined.titles
    rw [List.map_map, List.map_map] at h
    exact h ▸ furnished.uris
  loaded doc hmem := by
    -- A document has the language of the one that stood in its place before.
    have h : (doc.uri, doc.language) ∈ w.documents.map fun doc => (doc.uri, doc.language) := by
      rw [← confined.titles]
      exact List.mem_map_of_mem hmem
    obtain ⟨earlier, hearlier, htitle⟩ := List.mem_map.1 h
    rw [confined.services.registry, ← (Prod.mk.inj htitle).2]
    exact furnished.loaded earlier hearlier
  sound := confined.services.registry ▸ furnished.sound
  entries := by
    obtain ⟨doings, trace, run, -⟩ := reaches
    exact (run.maintains (Committed.kept parser) furnished.sound furnished.entries).2

end Confinement

section Isolation

variable {parser : Parser} {id : DocumentId} {uri : String} {w : Workspace} {α β : Type}

/-- An answer that is given without looking is isolated. -/
theorem Isolated.pure (a : α) : Isolated parser id uri w fun w => (w, a) :=
  ⟨⟨_, .refl parser w⟩, .refl id uri w, fun _ alike => ⟨alike, rfl⟩⟩

/-- Whether an operation is isolated depends only on what it does where things look the same. -/
theorem Isolated.congr {operation same : Workspace → Workspace × α}
    (h : Isolated parser id uri w same)
    (eq : ∀ v, Alike id uri w v → operation v = same v) : Isolated parser id uri w operation := by
  have hself := eq w (.refl id uri w)
  refine ⟨by rw [hself]; exact h.reaches, by rw [hself]; exact h.confined, fun v alike => ?_⟩
  rw [hself, eq v alike]
  exact h.alike v alike

/-- Isolated operations in sequence. -/
theorem Isolated.bind {operation : Workspace → Workspace × α} {f : α → Workspace → Workspace × β}
    (h : Isolated parser id uri w operation)
    (next : Isolated parser id uri (operation w).1 (f (operation w).2)) :
    Isolated parser id uri w fun w => f (operation w).2 (operation w).1 where
  reaches := by
    obtain ⟨_, hfirst⟩ := h.reaches
    obtain ⟨_, hsecond⟩ := next.reaches
    exact ⟨_, hfirst.trans hsecond⟩
  confined := h.confined.trans next.confined
  alike v alike := by
    obtain ⟨hafter, hsame⟩ := h.alike v alike
    rw [hsame]
    exact next.alike _ hafter

/-- An answer may be put into other words. -/
theorem Isolated.map {operation : Workspace → Workspace × α}
    (h : Isolated parser id uri w operation) (g : α → β) :
    Isolated parser id uri w fun w => ((operation w).1, g (operation w).2) :=
  h.bind (f := fun a w => (w, g a)) (.pure _)

/-- The same for an operation that goes on as its first part has come out. -/
theorem Isolated.after {first : Workspace → Workspace × α}
    {operation rest : Workspace → Workspace × β} (h : Isolated parser id uri w first)
    (next : Isolated parser id uri (first w).1 rest)
    (eq : ∀ v later, Alike id uri (first w).1 later → first v = (later, (first w).2) →
      operation v = rest later) : Isolated parser id uri w operation := by
  refine (h.bind (f := fun _ => rest) next).congr fun v alike => ?_
  obtain ⟨hafter, hsame⟩ := h.alike v alike
  exact eq v (first v).1 hafter (Prod.ext rfl hsame)

/-- An isolated operation leaves the workspace furnished. -/
theorem Isolated.furnished {operation : Workspace → Workspace × α}
    (h : Isolated parser id uri w operation) (furnished : Furnished parser w) :
    Furnished parser (operation w).1 :=
  h.confined.furnished h.reaches furnished

/-- Only the services move on, and not in what matters to an entry. -/
theorem Isolated.time (operation : String) (a : α) :
    Isolated parser id uri w fun w => (w.time operation, a) where
  reaches := ⟨_, w.time_reaches operation⟩
  confined := ⟨fun _ _ => rfl, rfl, fun _ _ => rfl, rfl, rfl, rfl, rfl⟩
  alike _ alike := ⟨⟨alike.document, alike.entry, alike.services.config, alike.services.registry,
    alike.services.runtime, alike.services.pace⟩, rfl⟩

end Isolation

/-! ## Requests -/

section Requests

variable {parser : Parser} {id : DocumentId} {uri : String} {w v : Workspace}

/-- The entry of a uri is the one of the document that has it. -/
theorem Furnished.document_eq (furnished : Furnished parser w) (houses : w.Houses id uri)
    {entry : Entry} (found : w.entries.find? uri = some entry) : entry.document = id := by
  obtain ⟨doc, hdoc, rfl⟩ := houses
  -- The entry was opened for a document of its uri, and there is only one of those.
  obtain ⟨own, hown, hkey, -⟩ := furnished.entries _ entry found
  have hlt := (List.getElem?_eq_some_iff.1 hown).1
  refine (List.getElem?_inj (by simpa using hlt) furnished.uris).1 ?_
  rw [List.getElem?_map, List.getElem?_map, hown, hdoc, Option.map_some, Option.map_some, hkey]

/-- From a document, its entry and the document of that entry are both seen. -/
theorem Alike.open?_eq (alike : Alike id uri w v) (furnished : Furnished parser w)
    (houses : w.Houses id uri) : v.open? uri = w.open? uri := by
  unfold open?
  rw [alike.entry]
  cases found : w.entries.find? uri with
  | none => rfl
  | some entry =>
    -- The entry leads to the document that is looked from, and to no other.
    simp only [bind, Option.bind]
    rw [furnished.document_eq houses found, alike.document]

/-- An operation on one entry is isolated if it is uniform in the services. -/
theorem onEntry_isolated {α : Type}
    {operation : Services → Document → Entry → Services × Entry × Except EngineError α}
    (furnished : Furnished parser w) (houses : w.Houses id uri)
    (reaches : ∃ doings, Reaches parser w doings (w.onEntry uri operation).1)
    (uniform : ∀ entry doc, w.open? uri = some (entry, doc) →
      w.services.Uniform fun s => operation s doc entry) :
    Isolated parser id uri w (·.onEntry uri operation) := by
  cases found : w.open? uri with
  | none =>
    refine (Isolated.pure (.error (.documentNotOpen uri))).congr fun v alike => ?_
    unfold onEntry
    rw [alike.open?_eq furnished houses, found]
  | some pair =>
    obtain ⟨entry, doc⟩ := pair
    have huniform := uniform entry doc found
    refine ⟨reaches, ?_, fun v alike => ?_⟩
    · unfold onEntry
      rw [found]
      -- It puts the entry back under its own uri, and so leaves those of all other uris.
      refine ⟨fun _ _ => rfl, rfl, fun other hne => ?_, (huniform _ (.refl _)).1⟩
      exact (Table.find?_insert _ _ _ _).trans (if_neg hne)
    · obtain ⟨hpeers, hsame⟩ := huniform v.services alike.services
      have hself := (huniform _ (.refl _)).1
      unfold onEntry
      rw [alike.open?_eq furnished houses, found]
      dsimp only at hpeers hsame hself ⊢
      -- From here on only the two outcomes count: they differ in the services, which are peers.
      generalize operation w.services doc entry = first at hsame hself ⊢
      generalize operation v.services doc entry = second at hpeers hsame ⊢
      obtain ⟨s₁, entry₁, answer⟩ := first
      obtain ⟨s₂, entry₂, answer₂⟩ := second
      obtain ⟨rfl, rfl⟩ := Prod.mk.inj hsame
      refine ⟨⟨alike.document, ?_, hself.symm.trans hpeers⟩, rfl⟩
      exact (Table.find?_insert_self _ _ _).trans (Table.find?_insert_self _ _ _).symm

/-- Documents of one uri are the same. -/
theorem Furnished.uri_ne (furnished : Furnished parser w) {other : DocumentId} {key : String}
    (houses : w.Houses id uri) (elsewhere : w.Houses other key) (hne : id ≠ other) : uri ≠ key := by
  obtain ⟨doc, found, rfl⟩ := houses
  obtain ⟨own, hown, rfl⟩ := elsewhere
  intro heq
  refine hne ((List.getElem?_inj ?_ furnished.uris).1 ?_)
  · simpa using (List.getElem?_eq_some_iff.1 found).1
  · rw [List.getElem?_map, List.getElem?_map, found, hown, Option.map_some, Option.map_some, heq]

/-- The grammar of a document that is open is loaded. -/
theorem Furnished.grammar (furnished : Furnished parser w) {entry : Entry} {doc : Document}
    (found : w.open? uri = some (entry, doc)) :
    ∃ grammar, w.services.registry.loaded? doc.language = some grammar :=
  Option.isSome_iff_exists.1
    (furnished.loaded doc (List.mem_of_getElem? (open?_eq_some.1 found).2))

/-- A tree on demand is of the document's language. -/
theorem Furnished.treeNow_language (furnished : Furnished parser w) {tree : SyntaxTree}
    (h : (w.treeNow parser uri).2 = .ok tree) :
    ∃ entry doc, w.open? uri = some (entry, doc) ∧ tree.language = doc.language := by
  -- After a successful look the entry holds a current tree, and a committed tree is of the language
  -- of its document.
  obtain ⟨entry, later, doc, found, hafter, hcurrent⟩ := treeNow_eq_ok h
  obtain ⟨trace, run, -⟩ := w.treeNow_reaches parser uri
  obtain ⟨-, hentries⟩ := run.maintains (Committed.kept parser) furnished.sound furnished.entries
  obtain ⟨hlater, hdoc⟩ := open?_eq_some.1 hafter
  obtain ⟨own, hown, -, hcommitted⟩ := hentries uri later hlater
  obtain rfl := Option.some.inj (hown.symm.trans hdoc)
  exact ⟨entry, own, found, (hcommitted tree (currentTree?_eq_some hcurrent).1).1⟩

section Entries

variable (furnished : Furnished parser w) (houses : w.Houses id uri)
include furnished houses

/-- A look at the tree is isolated. -/
theorem treeNow_isolated : Isolated parser id uri w (·.treeNow parser uri) := by
  refine onEntry_isolated furnished houses ⟨_, w.treeNow_reaches parser uri⟩ ?_
  intro entry doc found
  obtain ⟨grammar, loaded⟩ := furnished.grammar found
  exact Services.treeNow_uniform loaded parser entry

/-- Going the scheduled path at once is isolated. -/
theorem reparseNow_isolated : Isolated parser id uri w (·.reparseNow parser uri) := by
  refine onEntry_isolated furnished houses ⟨_, w.reparseNow_reaches parser uri⟩ ?_
  intro entry doc found
  obtain ⟨grammar, loaded⟩ := furnished.grammar found
  exact Services.cancelTimer_reparse_uniform loaded parser entry

/-- A verification is isolated: its second parse is made with the grammar that the first was made
    with. -/
theorem verify_isolated : Isolated parser id uri w (·.verify parser uri) := by
  refine onEntry_isolated furnished houses ⟨_, w.verify_reaches parser uri⟩ ?_
  intro entry doc found
  obtain ⟨grammar, loaded⟩ := furnished.grammar found
  refine Services.verify_uniform loaded fun tree htree => ?_
  obtain ⟨_, own, hown, hlanguage⟩ :=
    furnished.treeNow_language ((onEntry_answer found _).trans htree)
  obtain ⟨-, rfl⟩ := Prod.mk.inj (Option.some.inj (hown.symm.trans found))
  exact hlanguage

/-- A report is isolated: its answer is the number of changes, and without a runtime nothing is
    scheduled. -/
theorem report_isolated (version : Int) (changes : List Change) :
    Isolated parser id uri w (·.report uri version changes) := by
  refine onEntry_isolated furnished houses ⟨_, w.report_reaches parser uri version changes⟩ ?_
  intro entry doc _
  exact (Services.report_uniform furnished.runtime doc.uri entry version changes).bind
    (f := fun reported s => (s, reported.1, Except.ok reported.2)) (.pure _)

/-- A query for a node is isolated. -/
theorem containingNode_isolated (span : Span) :
    Isolated parser id uri w (·.containingNode parser uri span) := by
  have htree := treeNow_isolated furnished houses
  -- The query goes on after the look, if there is a tree, so there are two cases.
  cases hresult : (w.treeNow parser uri).2 with
  | error error =>
    refine htree.after (.pure (.error error)) fun v later _ h => ?_
    rw [hresult] at h
    unfold containingNode
    rw [h]
  | ok tree =>
    refine htree.after (.time "containing_node" ?answer) fun v later _ h => ?same
    case same =>
      rw [hresult] at h
      unfold containingNode
      rw [h]

/-- A query for a list is isolated. -/
theorem bracketingChildren_isolated (span : Span) :
    Isolated parser id uri w (·.bracketingChildren parser uri span) := by
  have htree := treeNow_isolated furnished houses
  cases hresult : (w.treeNow parser uri).2 with
  | error error =>
    refine htree.after (.pure (.error error)) fun v later _ h => ?_
    rw [hresult] at h
    unfold bracketingChildren
    rw [h]
  | ok tree =>
    -- The tree is of the document's language, whose grammar is at hand.
    obtain ⟨entry, doc, found, hlanguage⟩ := furnished.treeNow_language hresult
    obtain ⟨grammar, loaded⟩ := furnished.grammar found
    rw [← hlanguage] at loaded
    refine htree.after (.time "bracketing_children" ?answer) fun v later alike h => ?same
    case same =>
      have hregistry := (htree.confined.services.trans alike.services).registry
      rw [hresult] at h
      unfold bracketingChildren
      rw [h]
      dsimp only
      rw [Services.grammarNow_of_loaded (by rw [hregistry]; exact loaded)]

/-- Opening a document is isolated: it replaces the entry of its own uri. -/
theorem openDocument_isolated :
    Isolated parser id uri w fun w => (w.openDocument id, Answer.opened) := by
  obtain ⟨doc, found, rfl⟩ := houses
  -- Whatever was open under the uri, the new entry is the same; only the services may differ.
  have hopened (v : Workspace) (alike : Alike id doc.uri w v) :
      ∃ s, v.openDocument id = v.put doc.uri s { document := id } ∧ w.services.Peers s := by
    have hfound : v.documents[id]? = some doc := alike.document.trans found
    have hruntime := alike.services.runtime.trans furnished.runtime
    unfold openDocument
    rw [hfound]
    dsimp only
    split
    · next previous _ =>
      have hpeers := v.services.cancelTimer_peers previous
      rw [Services.schedule_of_no_runtime (hpeers.runtime.trans hruntime)]
      exact ⟨_, rfl, alike.services.trans hpeers⟩
    · rw [Services.schedule_of_no_runtime hruntime]
      exact ⟨_, rfl, alike.services⟩
  refine ⟨⟨_, w.openDocument_reaches parser id⟩, ?_, fun v alike => ?_⟩
  · obtain ⟨s, heq, hpeers⟩ := hopened w (.refl _ _ w)
    rw [heq]
    exact ⟨fun _ _ => rfl, rfl, fun other hne => (Table.find?_insert _ _ _ _).trans (if_neg hne),
      hpeers⟩
  · obtain ⟨s, heq, hpeers⟩ := hopened w (.refl _ _ w)
    obtain ⟨s', heq', hpeers'⟩ := hopened v alike
    rw [heq, heq']
    refine ⟨⟨alike.document, ?_, hpeers.symm.trans hpeers'⟩, rfl⟩
    exact (Table.find?_insert_self _ _ _).trans (Table.find?_insert_self _ _ _).symm

end Entries

/-- Closing a document is isolated, whether or not it was open. -/
theorem close_isolated (parser : Parser) (id : DocumentId) (uri : String) (w : Workspace) :
    Isolated parser id uri w (·.close uri) := by
  cases found : w.entries.find? uri with
  | none =>
    refine (Isolated.pure false).congr fun v alike => ?_
    unfold close
    rw [alike.entry, found]
  | some entry =>
    -- From a workspace that looks the same, the same entry is closed.
    have hclosed (v : Workspace) (alike : Alike id uri w v) :
        v.close uri = ({ v with
          services := (v.services.cancelTimer entry).1, entries := v.entries.erase uri }, true) := by
      unfold close
      rw [alike.entry, found]
    have hpeers := w.services.cancelTimer_peers entry
    refine ⟨⟨_, w.close_reaches parser uri⟩, ?_, fun v alike => ?_⟩
    · rw [hclosed w (.refl _ _ w)]
      exact ⟨fun _ _ => rfl, rfl, fun other hne => (Table.find?_erase _ _ _).trans (if_neg hne),
        hpeers⟩
    · rw [hclosed w (.refl _ _ w), hclosed v alike]
      refine ⟨⟨alike.document, ?_, ?_⟩, rfl⟩
      · exact (Table.find?_erase_self _ _).trans (Table.find?_erase_self _ _).symm
      · exact hpeers.symm.trans (alike.services.trans (v.services.cancelTimer_peers entry))

/-- A document is replaced by a revision of it. -/
theorem revise_isolated {α : Type} {doc next : Document} {changes : List Change}
    (found : w.documents[id]? = some doc) (revision : doc.Revision next changes) (a : α) :
    Isolated parser id uri w fun w => ({ w with documents := w.documents.set id next }, a) where
  reaches := ⟨_, Step.noted (.revise found revision ⟨rfl, fun _ => rfl, .refl _⟩) rfl⟩
  confined := by
    -- Other documents stand at other places, and a revision keeps the title of its own.
    refine ⟨fun other hne => List.getElem?_set_ne hne.symm, ?_, fun _ _ => rfl, .refl _⟩
    obtain ⟨hlt, rfl⟩ := List.getElem?_eq_some_iff.1 found
    rw [List.map_set, revision.uri, revision.language, ← List.map_set, List.set_getElem_self]
  alike v alike := by
    refine ⟨⟨?_, alike.entry, alike.services⟩, rfl⟩
    have hfound : v.documents[id]? = some doc := alike.document.trans found
    rw [List.getElem?_set_self (List.getElem?_eq_some_iff.1 found).1,
      List.getElem?_set_self (List.getElem?_eq_some_iff.1 hfound).1]

/-- Edits are isolated: what they make of a document is read off the document. -/
theorem editDocument_isolated (houses : w.Houses id uri) (edits : List Edit) :
    Isolated parser id uri w (·.editDocument id edits) := by
  obtain ⟨doc, found, -⟩ := houses
  cases hedits : doc.applyEdits edits with
  | error error =>
    refine (Isolated.pure (some (.error error))).congr fun v alike => ?_
    unfold editDocument
    rw [alike.document, found]
    dsimp only
    rw [hedits]
  | ok edited =>
    obtain ⟨next, changes⟩ := edited
    refine (revise_isolated found (.edits hedits) (some (.ok changes))).congr fun v alike => ?_
    unfold editDocument
    rw [alike.document, found]
    dsimp only
    rw [hedits]

/-- A whole replacement is isolated. -/
theorem setText_isolated (houses : w.Houses id uri) (text : Text) :
    Isolated parser id uri w (·.setText id text) := by
  obtain ⟨doc, found, -⟩ := houses
  refine (revise_isolated found (.setText text) (some (doc.setText text).2)).congr
    fun v alike => ?_
  unfold setText
  rw [alike.document, found]

/-- The first part of an exchange: the document is replaced and its changes are reported. -/
def exchange (w : Workspace) (id : DocumentId) (next : Document) (changes : List Change) :
    Workspace × Except EngineError (Option Nat) :=
  report { w.time "swap_siblings" with documents := w.documents.set id next } next.uri next.version
    changes

/-- The first part of an exchange is isolated. -/
theorem exchange_isolated (furnished : Furnished parser w) {doc next : Document}
    {changes : List Change} (found : w.documents[id]? = some doc)
    (revision : doc.Revision next changes) :
    Isolated parser id next.uri w (·.exchange id next changes) := by
  -- It consists of taking the time and of a revision, and then of a report.
  have hrevised : Isolated parser id next.uri w fun w =>
      ({ w.time "swap_siblings" with documents := w.documents.set id next }, ()) :=
    (Isolated.time "swap_siblings" ()).bind
      (f := fun _ w => ({ w with documents := w.documents.set id next }, ()))
      (revise_isolated (w := w.time "swap_siblings") found revision ())
  have houses := hrevised.confined.houses ⟨doc, found, revision.uri.symm⟩
  exact hrevised.bind (f := fun _ w => w.report next.uri next.version changes)
    (report_isolated (hrevised.furnished furnished) houses next.version changes)

/-- An exchange that can be made is made, and then the tree is looked at. -/
theorem swapSiblings_of_swap {doc next : Document} {a b : Span} {swap : Swap}
    (found : w.documents[id]? = some doc) (h : doc.swap a b = .ok (next, swap)) :
    w.swapSiblings parser id a b =
      match w.exchange id next swap.changes with
      | (w, .error error) => (w, some (.error error))
      | (w, .ok none) => (w, none)
      | (w, .ok (some _)) =>
        match w.treeNow parser next.uri with
        | (w, .error error) => (w, some (.error error))
        | (w, .ok tree) => (w, some (Swapped.locate tree swap.left swap.right)) := by
  unfold swapSiblings exchange
  rw [found]
  dsimp only
  rw [h]
  rfl

/-- An exchange is isolated. -/
theorem swapSiblings_isolated (furnished : Furnished parser w) (houses : w.Houses id uri)
    (a b : Span) : Isolated parser id uri w (·.swapSiblings parser id a b) := by
  obtain ⟨doc, found, rfl⟩ := houses
  -- One that is refused only takes the time; one that is made goes on as its report comes out.
  cases hswap : doc.swap a b with
  | error error =>
    refine (Isolated.time "swap_siblings" (some (.error (.query error)))).congr fun v alike => ?_
    unfold swapSiblings
    rw [alike.document, found]
    dsimp only
    rw [hswap]
  | ok swapped =>
    obtain ⟨next, swap⟩ := swapped
    have revision := Document.revision_of_swap hswap
    have hexchange := exchange_isolated furnished found revision
    rw [revision.uri] at hexchange
    refine Isolated.congr ?_ fun v alike => swapSiblings_of_swap (alike.document.trans found) hswap
    cases hreported : (w.exchange id next swap.changes).2 with
    | error error =>
      refine hexchange.after (.pure (some (.error error))) fun v later _ h => ?_
      rw [h, hreported]
    | ok applied =>
      cases applied with
      | none =>
        refine hexchange.after (.pure none) fun v later _ h => ?_
        rw [h, hreported]
      -- After the report, the tree is looked at and the two parts are found in it.
      | some count =>
        have htree := treeNow_isolated (hexchange.furnished furnished)
          (hexchange.confined.houses ⟨doc, found, rfl⟩)
        refine hexchange.after (htree.map fun result =>
          some (result.bind (Swapped.locate · swap.left swap.right))) fun v later _ h => ?_
        rw [h, hreported]
        dsimp only
        rw [revision.uri]
        rcases later.treeNow parser doc.uri with ⟨last, error | tree⟩ <;> rfl

/-- An exchange of neighbours, told as a look at the tree and an exchange. -/
theorem swapWithSibling_of_document {doc : Document} (span : Span) (direction : Direction)
    (found : w.documents[id]? = some doc) :
    w.swapWithSibling parser id span direction =
      match w.treeNow parser doc.uri with
      | (w, .error error) => (w, some (.error error))
      | (w, .ok tree) =>
        match tree.containing span with
        | .error error => (w, some (.error (.query error)))
        | .ok node =>
          if tree.sibling node direction = node then (w, some (.ok none))
          else
            ((w.swapSiblings parser id (tree.extent node).span
                (tree.extent (tree.sibling node direction)).span).1,
              (w.swapSiblings parser id (tree.extent node).span
                (tree.extent (tree.sibling node direction)).span).2.map (·.map some)) := by
  unfold swapWithSibling
  rewrite [found]
  rfl

/-- An exchange of neighbours is isolated. -/
theorem swapWithSibling_isolated (furnished : Furnished parser w) (houses : w.Houses id uri)
    (span : Span) (direction : Direction) :
    Isolated parser id uri w (·.swapWithSibling parser id span direction) := by
  have htree := treeNow_isolated furnished houses
  have hswap (a b : Span) := (swapSiblings_isolated (htree.furnished furnished)
    (htree.confined.houses houses) a b).map fun result => result.map (·.map some)
  obtain ⟨doc, found, rfl⟩ := houses
  -- Another workspace that looks the same has the same document.
  refine Isolated.congr ?_ fun v alike =>
    swapWithSibling_of_document span direction (alike.document.trans found)
  cases hresult : (w.treeNow parser doc.uri).2 with
  | error error =>
    refine htree.after (.pure (some (.error error))) fun v later _ h => ?_
    rw [h, hresult]
  | ok tree =>
    cases hnode : tree.containing span with
    | error error =>
      refine htree.after (.pure (some (.error (.query error)))) fun v later _ h => ?_
      rw [h, hresult]
      dsimp only
      rw [hnode]
    | ok node =>
      by_cases hsibling : tree.sibling node direction = node
      -- There is no neighbour, so nothing is exchanged.
      · refine htree.after (.pure (some (.ok none))) fun v later _ h => ?_
        rw [h, hresult]
        dsimp only
        rw [hnode]
        exact if_pos hsibling
      · refine htree.after (hswap (tree.extent node).span
          (tree.extent (tree.sibling node direction)).span) fun v later _ h => ?_
        rw [h, hresult]
        dsimp only
        rw [hnode]
        exact if_neg hsibling

/-- Every request about a document is isolated. -/
theorem respond_isolated (furnished : Furnished parser w) (houses : w.Houses id uri)
    (request : Request) :
    Isolated parser id uri w fun w => w.respond parser id uri request := by
  cases request with
  | openDocument => exact openDocument_isolated furnished houses
  | close => exact (close_isolated parser id uri w).map _
  | edit edits => exact (editDocument_isolated houses edits).map _
  | setText text => exact (setText_isolated houses text).map _
  | report version changes => exact (report_isolated furnished houses version changes).map _
  | treeNow => exact (treeNow_isolated furnished houses).map _
  | reparseNow => exact (reparseNow_isolated furnished houses).map _
  | verify => exact (verify_isolated furnished houses).map _
  | containingNode span => exact (containingNode_isolated furnished houses span).map _
  | bracketingChildren span => exact (bracketingChildren_isolated furnished houses span).map _
  | swapSiblings a b => exact (swapSiblings_isolated furnished houses a b).map _
  | swapWithSibling span direction =>
    exact (swapWithSibling_isolated furnished houses span direction).map _
  | state =>
    refine (Isolated.pure (w.respond parser id uri .state).2).congr fun v alike => ?_
    simp only [respond, alike.entry]
  | pendingEdits =>
    refine (Isolated.pure (w.respond parser id uri .pendingEdits).2).congr fun v alike => ?_
    simp only [respond, alike.entry]
  | lastTree =>
    refine (Isolated.pure (w.respond parser id uri .lastTree).2).congr fun v alike => ?_
    simp only [respond, lastTree?, alike.entry]

/-- A request about a document that there is does not go astray. -/
theorem ask_isolated (furnished : Furnished parser w) {doc : Document}
    (found : w.documents[id]? = some doc) (request : Request) :
    Isolated parser id doc.uri w (·.ask parser id request) := by
  refine (respond_isolated furnished ⟨doc, found, rfl⟩ request).congr fun v alike => ?_
  unfold ask
  rw [alike.document, found]

end Requests

/-! ## Conversations -/

/-- A conversation is its first request and the rest of it. -/
theorem converse_cons (parser : Parser) (w : Workspace) (id : DocumentId) (request : Request)
    (rest : List (DocumentId × Request)) :
    w.converse parser ((id, request) :: rest) =
      (((w.ask parser id request).1.converse parser rest).1,
        (id, (w.ask parser id request).2) ::
          ((w.ask parser id request).1.converse parser rest).2) := rfl

section Conversations

variable {parser : Parser} {id : DocumentId} {uri : String} {w v : Workspace}

/-- A document does not see what is asked about another. -/
theorem ask_unseen (furnished : Furnished parser w) (houses : w.Houses id uri)
    (alike : Alike id uri w v) {other : DocumentId} (hne : other ≠ id) (request : Request) :
    Furnished parser (w.ask parser other request).1 ∧
      (w.ask parser other request).1.Houses id uri ∧
      Alike id uri (w.ask parser other request).1 v := by
  cases found : w.documents[other]? with
  -- There is no such document, so nothing has happened.
  | none =>
    have hask : w.ask parser other request = (w, .absent) := by
      unfold ask
      rw [found]
    rw [hask]
    exact ⟨furnished, houses, alike⟩
  | some doc =>
    have hask := ask_isolated furnished found request
    refine ⟨hask.furnished furnished, hask.confined.houses houses, ?_⟩
    exact hask.confined.alike hne.symm (furnished.uri_ne houses ⟨doc, found, rfl⟩ hne.symm) alike

/-- Workspaces that look the same from a document go on to look the same from it, with the same
    answers about it, also when one of them is asked about other documents in between. -/
theorem converse_alike (furnished : Furnished parser w) (houses : w.Houses id uri)
    (alike : Alike id uri w v) (calls : List (DocumentId × Request)) :
    (w.converse parser calls).2.filter (·.1 == id) =
        (v.converse parser (calls.filter (·.1 == id))).2 ∧
      Alike id uri (w.converse parser calls).1
        (v.converse parser (calls.filter (·.1 == id))).1 := by
  -- On the calls: each is about the document, and then both runs make it, or about another, and
  -- then only the first run does.
  induction calls generalizing w v with
  | nil => exact ⟨rfl, alike⟩
  | cons call rest ih =>
    obtain ⟨other, request⟩ := call
    rw [converse_cons]
    by_cases hother : other = id
    · -- The document itself is asked about, in both runs.
      subst hother
      obtain ⟨doc, found, rfl⟩ := houses
      have hask := ask_isolated furnished found request
      obtain ⟨hafter, hsame⟩ := hask.alike v alike
      obtain ⟨hanswers, hlast⟩ := ih (hask.furnished furnished)
        (hask.confined.houses ⟨doc, found, rfl⟩) hafter
      rw [List.filter_cons_of_pos (by simp), List.filter_cons_of_pos (by simp), converse_cons]
      exact ⟨by rw [hanswers, hsame], hlast⟩
    · obtain ⟨hfurnished, hhouses, hafter⟩ := ask_unseen furnished houses alike hother request
      rw [List.filter_cons_of_neg (by simpa using hother),
        List.filter_cons_of_neg (by simpa using hother)]
      exact ih hfurnished hhouses hafter

end Conversations

/-- In an engine without a runtime that has the grammars of all its documents, whose uris are distinct,
    the answers to whatever is asked about one document, the document itself and its entry are the same
    as if nothing had been asked about any other. -/
theorem documents_do_not_interfere (parser : Parser) (config : Config) (dataHome : String)
    (libraries : Libraries) (runtime : Bool) (events : List Event)
    (stocked : ((create config dataHome libraries runtime).undergo parser events).Stocked)
    (calls : List (DocumentId × Request)) (id : DocumentId) (doc : Document)
    (found : ((create config dataHome libraries runtime).undergo parser events).documents[id]? =
      some doc) :
    let start := (create config dataHome libraries runtime).undergo parser events
    let all := start.converse parser calls
    let alone := start.converse parser (calls.filter (·.1 == id))
    all.2.filter (·.1 == id) = alone.2 ∧
      all.1.documents[id]? = alone.1.documents[id]? ∧
      all.1.entries.find? doc.uri = alone.1.entries.find? doc.uri := by
  intro start all alone
  obtain ⟨trace, run, -⟩ := undergo_reaches parser (create config dataHome libraries runtime) events
  have furnished : Furnished parser start :=
    { stocked with sound := run.sound, entries := run.entriesHold (Committed.kept parser) }
  -- The two runs start from the same workspace and part at the first call about another document.
  obtain ⟨hanswers, hlast⟩ :=
    converse_alike furnished ⟨doc, found, rfl⟩ (.refl id doc.uri start) calls
  exact ⟨hanswers, hlast.document.symm, hlast.entry.symm⟩

/-- Two documents of one language, whose grammar is loaded. -/
def twoDocuments : List Event := [
  .action (.create "file:///a.js" "javascript" ['a', ';']),
  .action (.create "file:///b.js" "javascript" ['b', ';']),
  .action (.loadBlocking "javascript")]

/-- Requests about two documents in turn. -/
def inTurn : List (DocumentId × Request) := [
  (0, .openDocument), (1, .openDocument), (0, .treeNow), (1, .setText ['c', ';']), (1, .treeNow),
  (0, .edit [.insert 0 ['x']]), (1, .close), (0, .report 1 [⟨0, 0, ['x'], ⟨0, 0⟩, ⟨0, 0⟩⟩]),
  (0, .pendingEdits), (1, .verify), (0, .verify)]

/-- Of two documents that are asked about in turn, the first has the answers that it has alone. -/
theorem documents_do_not_interfere_in_turn :
    ∃ doc, ((create {} "/home" {} false).undergo (.ofRecordings [] none) twoDocuments).Stocked ∧
      ((create {} "/home" {} false).undergo (.ofRecordings [] none) twoDocuments).documents[0]? =
        some doc ∧
      let start := (create {} "/home" {} false).undergo (.ofRecordings [] none) twoDocuments
      let all := start.converse (.ofRecordings [] none) inTurn
      let alone := start.converse (.ofRecordings [] none) (inTurn.filter (·.1 == 0))
      all.2.length = 11 ∧ alone.2.length = 6 ∧
      all.2.filter (·.1 == 0) = alone.2 ∧
      all.1.documents[0]? = alone.1.documents[0]? ∧
      all.1.entries.find? doc.uri = alone.1.entries.find? doc.uri := by
  have stocked :
      ((create {} "/home" {} false).undergo (.ofRecordings [] none) twoDocuments).Stocked :=
    ⟨rfl, by decide, by decide⟩
  exact ⟨_, stocked, rfl, rfl, rfl, documents_do_not_interfere (.ofRecordings [] none) {} "/home" {}
    false twoDocuments stocked inTurn 0 _ rfl⟩

end Workspace

end LiveTree
