import LiveTree.Parser.Recorded
import LiveTree.Proofs.Events

/-!
# Served trees are current

Whatever has happened before, a tree that is served is of the version, the language and the very text
that its document has at that moment.  Nothing is assumed of the reports: they may be late, repeated,
missing or wrong.  What carries the proof is that versions only grow, so that a committed tree of the
document's version can only have come from the document's text.

## Key results

- `Committed.kept`: committed trees are never ahead of their documents, and those that are abreast of
  them were parsed from their texts
- `served_tree_current`: the trees that `treeNow` and `reparseNow` serve are current
-/

namespace LiveTree.Workspace

/-- The committed tree of an entry is of the document's language and not ahead of its version; if it is
    abreast of it, it is what the parser answers to the document's text. -/
def Committed (parser : Parser) (s : Services) (doc : Document) (entry : Entry) : Prop :=
  ∀ tree, entry.committed = some tree →
    tree.language = doc.language ∧ tree.version ≤ doc.version ∧
      (tree.version = doc.version → ∃ previous,
        parser doc.language doc.text previous s.config.parseTimeoutMs = some tree.source)

/-- All that can happen to an entry keeps its committed tree in order. -/
theorem Committed.kept (parser : Parser) : Kept parser (Committed parser) where
  untimed h same tree found := by
    have hcommitted := congrArg Entry.committed same
    exact h tree (hcommitted.symm.trans found)
  leads leads h tree found := by
    rw [leads.config]
    exact h tree found
  fresh _ _ _ _ found := nomatch found
  revised revision h tree found := by
    obtain ⟨hlanguage, hversion, -⟩ := h tree found
    have hnext := revision.version
    refine ⟨hlanguage.trans revision.language.symm, by omega, ?_⟩
    -- The tree has fallen behind.
    intro habreast
    omega
  reported changes version h tree found := by
    rw [Entry.applyChanges_committed] at found
    exact h tree found
  parsed sound h parse tree found := by
    cases parse with
    -- The tree that is committed is the parser's answer just now.
    | commit outdated loaded parsed same =>
      have hcommitted := congrArg Entry.committed same
      obtain rfl := Option.some.inj (hcommitted.symm.trans found)
      have hanswer := Parser.of_paced (Pool.attempt_eq_ok.1 parsed).2
      rw [sound _ _ loaded] at hanswer
      exact ⟨sound _ _ loaded, Int.le_refl _, fun _ => ⟨_, hanswer⟩⟩
    | fail counted outdated loaded failed same =>
      have hcommitted := congrArg Entry.committed same
      exact h tree (hcommitted.symm.trans found)

/-- A current tree is the committed one, of the version that is asked for. -/
theorem currentTree?_eq_some {entry : Entry} {version : Int} {tree : SyntaxTree}
    (h : entry.currentTree? version = some tree) :
    entry.committed = some tree ∧ entry.state = .upToDate ∧ tree.version = version := by
  unfold Entry.currentTree? at h
  -- Only an entry that is up to date has a current tree, and only for its own version.
  split at h
  · next hcommitted hstate =>
    split at h
    · next hversion =>
      obtain rfl := Option.some.inj h
      exact ⟨hcommitted, hstate, hversion⟩
    · exact nomatch h
  · exact nomatch h

/-- A current tree of an entry that some run has led to is what the parser answers to the document's
    text. -/
theorem Run.source_of_current {parser : Parser} {config : Config} {dataHome : String}
    {libraries : Libraries} {runtime : Bool} {trace : List Happening} {w : Workspace}
    (run : Run parser (create config dataHome libraries runtime) trace w) {uri : String}
    {entry : Entry} {doc : Document} {tree : SyntaxTree} (found : w.open? uri = some (entry, doc))
    (current : entry.currentTree? doc.version = some tree) :
    tree.version = doc.version ∧ tree.language = doc.language ∧ ∃ previous,
      parser doc.language doc.text previous config.parseTimeoutMs = some tree.source := by
  -- The current tree is the committed one, and at the version of the document it is the answer to
  -- its text.
  obtain ⟨hcommitted, -, hversion⟩ := currentTree?_eq_some current
  obtain ⟨hlanguage, -, hsource⟩ := run.open?_holds (Committed.kept parser) found tree hcommitted
  rw [run.config_eq] at hsource
  exact ⟨hversion, hlanguage, hsource hversion⟩

/-- A tree served on demand is current in the workspace that serves it. -/
theorem treeNow_eq_ok {w : Workspace} {parser : Parser} {uri : String} {tree : SyntaxTree}
    (h : (w.treeNow parser uri).2 = .ok tree) :
    ∃ entry later doc, w.open? uri = some (entry, doc) ∧
      (w.treeNow parser uri).1.open? uri = some (later, doc) ∧
      later.currentTree? doc.version = some tree := by
  obtain ⟨entry, doc, found, hanswer, hafter⟩ := onEntry_eq_ok
    (fun s doc entry => s.treeNow_turn parser doc entry) h
  exact ⟨entry, _, doc, found, hafter, Services.currentTree?_of_treeNow hanswer⟩

/-- A tree that the scheduled path serves is current in the workspace that serves it. -/
theorem reparseNow_eq_ok {w : Workspace} {parser : Parser} {uri : String} {tree : SyntaxTree}
    (h : (w.reparseNow parser uri).2 = .ok (some tree)) :
    ∃ entry later doc, w.open? uri = some (entry, doc) ∧
      (w.reparseNow parser uri).1.open? uri = some (later, doc) ∧
      later.currentTree? doc.version = some tree := by
  obtain ⟨entry, doc, found, hanswer, hafter⟩ := onEntry_eq_ok
    (fun s doc entry => s.cancelTimer_reparse_turn parser doc entry) h
  exact ⟨entry, _, doc, found, hafter, Services.currentTree?_of_reparse hanswer⟩

/-- After any sequence of events, a tree that is served on demand or by the scheduled path is of the
    version and the language that the open document has at that moment, and is laid out from the
    parser's answer to the document's text.  Nothing is assumed of the parser but that it is a function
    of what it is given. -/
theorem served_tree_current (parser : Parser) (config : Config) (dataHome : String)
    (libraries : Libraries) (runtime : Bool) (events : List Event) (uri : String)
    (tree : SyntaxTree)
    (served :
      (((create config dataHome libraries runtime).undergo parser events).treeNow parser uri).2 =
          .ok tree ∨
        (((create config dataHome libraries runtime).undergo parser events).reparseNow parser
          uri).2 = .ok (some tree)) :
    ∃ entry doc,
      ((create config dataHome libraries runtime).undergo parser events).open? uri =
        some (entry, doc) ∧
      tree.version = doc.version ∧ tree.language = doc.language ∧
      ∃ previous source,
        parser doc.language doc.text previous config.parseTimeoutMs = some source ∧
        tree.nodes = Arena.ofNode source.root := by
  obtain ⟨trace, run, -⟩ := undergo_reaches parser (create config dataHome libraries runtime) events
  generalize (create config dataHome libraries runtime).undergo parser events = w at served run ⊢
  -- Serving is one more operation, and after it the served tree is the current one.
  obtain ⟨entry, later, doc, last, found, hreaches, hafter, hcurrent⟩ :
      ∃ entry later doc last, w.open? uri = some (entry, doc) ∧ Reaches parser w [] last ∧
        last.open? uri = some (later, doc) ∧ later.currentTree? doc.version = some tree := by
    rcases served with h | h
    · obtain ⟨entry, later, doc, found, hafter, hcurrent⟩ := treeNow_eq_ok h
      exact ⟨entry, later, doc, _, found, w.treeNow_reaches parser uri, hafter, hcurrent⟩
    · obtain ⟨entry, later, doc, found, hafter, hcurrent⟩ := reparseNow_eq_ok h
      exact ⟨entry, later, doc, _, found, w.reparseNow_reaches parser uri, hafter, hcurrent⟩
  obtain ⟨rest, hrest, -⟩ := hreaches
  -- The last workspace has come about by one more run.
  obtain ⟨hversion, hlanguage, previous, hsource⟩ :=
    (run.append hrest).source_of_current hafter hcurrent
  exact ⟨entry, doc, found, hversion, hlanguage, previous, tree.source, hsource, tree.nodes_eq⟩

/-- A document is edited twice: the first edit is reported wrongly and the second not at all. -/
def misreportedEdits : List Event := [
  .action (.create "file:///a.js" "javascript" ['a', ';']),
  .action (.openDocument 0),
  .action (.treeNow "file:///a.js"),
  .action (.edit 0 [.insert 0 ['b']]),
  .action (.report "file:///a.js" 7 [⟨0, 9, ['z'], ⟨0, 0⟩, ⟨0, 9⟩⟩]),
  .action (.edit 0 [.delete ⟨0, 1⟩])]

/-- The tree after misreported edits is that of the text as it is. -/
theorem served_tree_current_misreported :
    ∃ tree, (((create {} "/home" {} false).undergo (.ofRecordings [] none)
        misreportedEdits).treeNow (.ofRecordings [] none) "file:///a.js").2 = .ok tree ∧
      ∃ entry doc,
        ((create {} "/home" {} false).undergo (.ofRecordings [] none)
          misreportedEdits).open? "file:///a.js" = some (entry, doc) ∧
        tree.version = doc.version ∧ tree.language = doc.language ∧
        ∃ previous source,
          Parser.ofRecordings [] none doc.language doc.text previous 500 = some source ∧
          tree.nodes = Arena.ofNode source.root :=
  ⟨_, rfl, served_tree_current (.ofRecordings [] none) {} "/home" {} false misreportedEdits
    "file:///a.js" _ (.inl rfl)⟩

end LiveTree.Workspace
