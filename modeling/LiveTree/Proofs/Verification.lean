import LiveTree.Parser.Recorded
import LiveTree.Proofs.Agreement
import LiveTree.Proofs.Coherence

/-!
# Verification is exact

A verification compares the tree that is served with a parse from scratch.  Once there is a tree, its
grammar is at hand and parsers accept it, so all that can still go wrong is that the parse from scratch
takes too long at the time.  If it does not, both trees are of the same text, and the verification finds a
divergence if and only if they do not agree.

So there is no false alarm: if the parser's answers with the help of a kept tree agree with those
without, no verification ever finds a divergence, whatever has been reported, and however wrongly.

## Key results

- `Run.verify_eq`: what a verification answers once there is a tree
- `verify_diverges_iff`: a divergence is found if and only if the trees do not agree, and so never with
  a faithful parser
-/

namespace LiveTree

/-- Answers that were helped by a kept tree agree with those that were not. -/
def Parser.Faithful (parser : Parser) : Prop :=
  ∀ language text previous limit source full,
    parser language text (some previous) limit = some source →
      parser language text none limit = some full → full.root.Agrees source.root

/-- The verdict on a tree, given the parse of its text from scratch. -/
def Services.Verdict.ofTrees (full tree : SyntaxTree) : Services.Verdict :=
  match full.firstDifference? tree with
  | none => .agrees
  | some mismatch => .diverges full.version mismatch

namespace Services

/-- The verdict is good exactly if the trees agree. -/
theorem Verdict.ofTrees_eq_agrees_iff {full tree : SyntaxTree} :
    ofTrees full tree = .agrees ↔ full.source.root.Agrees tree.source.root := by
  rw [← SyntaxTree.firstDifference?_eq_none_iff]
  unfold ofTrees
  cases full.firstDifference? tree with
  | none => simp
  | some mismatch => simp

/-- Otherwise the trees diverge somewhere. -/
theorem Verdict.ofTrees_diverges_iff {full tree : SyntaxTree} :
    (∃ version mismatch, ofTrees full tree = .diverges version mismatch) ↔
      ¬ full.source.root.Agrees tree.source.root := by
  rw [← ofTrees_eq_agrees_iff]
  cases ofTrees full tree with
  | agrees => simp
  | diverges version mismatch => simp

/-- With a tree and its grammar, what a verification answers is up to the parse from scratch. -/
theorem verify_of_ok {s : Services} {parser : Parser} {doc : Document} {entry : Entry}
    {tree : SyntaxTree} {grammar : Grammar} (h : (s.treeNow parser doc entry).2.2 = .ok tree)
    (loaded : (s.treeNow parser doc entry).1.registry.loaded? tree.language = some grammar) :
    (s.verify parser doc entry).2.2 =
      match Pool.attempt (parser.paced (s.treeNow parser doc entry).1.pace) grammar doc.text none
        (s.treeNow parser doc entry).1.config.parseTimeoutMs with
      | .error failure => .error (failure.toError doc.uri)
      | .ok source => .ok (.ofTrees (.ofParse grammar.language doc.version source) tree) := by
  unfold verify
  -- The verification goes on only with the tree that has been served, which is the given one.
  split
  · next heq =>
    rw [heq] at h
    exact nomatch h
  · next later next served heq =>
    rw [heq] at h loaded ⊢
    obtain rfl : served = tree := Except.ok.inj h
    dsimp only at loaded ⊢
    rw [grammarNow_of_loaded loaded]
    unfold parseText Pool.parse
    dsimp only
    cases Pool.attempt (parser.paced later.pace) grammar doc.text none
      later.config.parseTimeoutMs with
    | error failure => rfl
    | ok source =>
      dsimp only
      unfold Verdict.ofTrees
      cases (SyntaxTree.ofParse grammar.language doc.version source).firstDifference? served with
      | none => rfl
      | some mismatch => rfl

end Services

namespace Workspace

variable {parser : Parser} {config : Config} {dataHome : String} {libraries : Libraries}
  {runtime : Bool} {trace : List Happening} {w : Workspace} {uri : String} {entry : Entry}
  {doc : Document} {tree : SyntaxTree}

/-- A tree on demand is current after one more run. -/
theorem Run.after_access (run : Run parser (create config dataHome libraries runtime) trace w)
    (found : w.open? uri = some (entry, doc)) (access : (w.treeNow parser uri).2 = .ok tree) :
    ∃ trace later,
      Run parser (create config dataHome libraries runtime) trace (w.treeNow parser uri).1 ∧
      (w.treeNow parser uri).1.open? uri = some (later, doc) ∧
      later.currentTree? doc.version = some tree := by
  obtain ⟨_, later, own, hfound, hafter, hcurrent⟩ := treeNow_eq_ok access
  obtain ⟨rfl, rfl⟩ := Prod.mk.inj (Option.some.inj (hfound.symm.trans found))
  obtain ⟨rest, hrest, -⟩ := w.treeNow_reaches parser uri
  exact ⟨_, later, run.append hrest, hafter, hcurrent⟩

/-- Once there is a tree, a verification parses the document's text from scratch and compares; only
    that parse can still fail. -/
theorem Run.verify_eq (run : Run parser (create config dataHome libraries runtime) trace w)
    (found : w.open? uri = some (entry, doc)) (access : (w.treeNow parser uri).2 = .ok tree) :
    (w.verify parser uri).2 =
      match parser.paced w.services.pace doc.language doc.text none config.parseTimeoutMs with
      | none => .error (.parseTimeout doc.uri config.parseTimeoutMs)
      | some full => .ok (.ofTrees (.ofParse doc.language doc.version full) tree) := by
  obtain ⟨_, later, hlater, hafter, hcurrent⟩ := run.after_access found access
  have hanswer := onEntry_answer found fun s doc entry => s.treeNow parser doc entry
  have hservices := onEntry_services found fun s doc entry => s.treeNow parser doc entry
  -- After the access, the tree is the committed one, with its grammar at hand.
  obtain ⟨grammar, hloaded, haccepted⟩ := hlater.open?_holds (Equipped.kept parser) hafter tree
    (currentTree?_eq_some hcurrent).1
  have hgrammar := hlater.sound _ _ hloaded
  have hlanguage := (hlater.source_of_current hafter hcurrent).2.1
  have hconfig := hlater.config_eq
  change (w.treeNow parser uri).2 = _ at hanswer
  change (w.treeNow parser uri).1.services = _ at hservices
  rw [hservices] at hloaded hconfig
  unfold Workspace.verify
  rw [onEntry_answer found, Services.verify_of_ok (hanswer.symm.trans access) hloaded]
  unfold Pool.attempt
  rw [haccepted, hconfig, w.services.treeNow_pace, hgrammar, hlanguage]
  -- The parse from scratch has its own time, so it may come to nothing.
  cases parser.paced w.services.pace doc.language doc.text none config.parseTimeoutMs with
  | none => rfl
  | some full => rfl

/-- A verification that answers has had a tree. -/
theorem treeNow_of_verify {verdict : Services.Verdict} (h : (w.verify parser uri).2 = .ok verdict) :
    ∃ entry doc tree, w.open? uri = some (entry, doc) ∧ (w.treeNow parser uri).2 = .ok tree := by
  -- The answer of the verification is that of the open document.
  obtain ⟨entry, doc, found, hverdict, -⟩ := onEntry_eq_ok
    (fun s doc entry => s.verify_turn parser doc entry) h
  cases haccess : (w.services.treeNow parser doc entry).2.2 with
  | error error =>
    rw [Services.verify_of_error haccess] at hverdict
    exact nomatch hverdict
  | ok tree =>
    exact ⟨entry, doc, tree, found, (onEntry_answer found _).trans haccess⟩

/-- The tree that a verification has looked at stays the committed one. -/
theorem lastTree?_of_verify (found : w.open? uri = some (entry, doc))
    (access : (w.treeNow parser uri).2 = .ok tree) :
    (w.verify parser uri).1.lastTree? uri = some tree := by
  have hanswer := onEntry_answer found fun s doc entry => s.treeNow parser doc entry
  have hserved : (w.services.treeNow parser doc entry).2.2 = .ok tree :=
    hanswer.symm.trans access
  -- The verification only parses once more, and leaves the entry as the look has left it.
  have hentry := (w.services.verify_after_treeNow parser doc entry).2
  have hcommitted := (currentTree?_eq_some (Services.currentTree?_of_treeNow hserved)).1
  unfold Workspace.verify onEntry lastTree?
  rw [found]
  dsimp only [put]
  rw [Table.find?_insert_self, hentry]
  exact hcommitted

/-- After any sequence of events, if there is a tree on demand and the document's text can be parsed
    from scratch in time, a verification compares the two: the committed tree, which is of the very text, and
    the full one.  It finds a divergence if and only if some corresponding nodes of them differ in
    bytes, kind or number of children, and is content otherwise.  So with a parser whose answers do not
    depend on the help of a kept tree, but for what is not compared, no verification ever finds a
    divergence. -/
theorem verify_diverges_iff
    (reached : ∃ events, (create config dataHome libraries runtime).undergo parser events = w)
    (uri : String) :
    (∀ entry doc tree full, w.open? uri = some (entry, doc) →
      (w.treeNow parser uri).2 = .ok tree →
      parser.paced w.services.pace doc.language doc.text none config.parseTimeoutMs = some full →
        (w.verify parser uri).1.lastTree? uri = some tree ∧
        (∃ previous, parser doc.language doc.text previous config.parseTimeoutMs =
          some tree.source) ∧
        ((∃ version mismatch, (w.verify parser uri).2 = .ok (.diverges version mismatch)) ↔
          ¬ full.root.Agrees tree.source.root) ∧
        ((w.verify parser uri).2 = .ok .agrees ↔ full.root.Agrees tree.source.root)) ∧
    (parser.Faithful →
      ∀ version mismatch, (w.verify parser uri).2 ≠ .ok (.diverges version mismatch)) := by
  obtain ⟨events, rfl⟩ := reached
  obtain ⟨trace, run, -⟩ := undergo_reaches parser (create config dataHome libraries runtime) events
  generalize (create config dataHome libraries runtime).undergo parser events = w at run ⊢
  refine ⟨?_, ?_⟩
  · intro entry doc tree full found access parsed
    obtain ⟨_, later, hlater, hafter, hcurrent⟩ := run.after_access found access
    have hverdict := run.verify_eq found access
    rw [parsed] at hverdict
    refine ⟨lastTree?_of_verify found access, (hlater.source_of_current hafter hcurrent).2.2, ?_⟩
    rw [hverdict]
    simp only [Except.ok.injEq]
    exact ⟨Services.Verdict.ofTrees_diverges_iff, Services.Verdict.ofTrees_eq_agrees_iff⟩
  · intro faithful version mismatch hdiverges
    obtain ⟨entry, doc, tree, found, access⟩ := treeNow_of_verify hdiverges
    obtain ⟨_, later, hlater, hafter, hcurrent⟩ := run.after_access found access
    obtain ⟨-, -, previous, hsource⟩ := hlater.source_of_current hafter hcurrent
    rw [run.verify_eq found access] at hdiverges
    -- A parse from scratch that comes to nothing is no divergence.
    cases hpaced : parser.paced w.services.pace doc.language doc.text none config.parseTimeoutMs with
    | none => rw [hpaced] at hdiverges; exact nomatch hdiverges
    | some full =>
      rw [hpaced] at hdiverges
      have hfull := Parser.of_paced hpaced
      refine Services.Verdict.ofTrees_diverges_iff.1 ⟨_, _, Except.ok.inj hdiverges⟩ ?_
      -- The committed tree was parsed with the help of a kept one, or is the full one itself.
      cases previous with
      | none =>
        obtain rfl := Option.some.inj (hfull.symm.trans hsource)
        exact .refl _
      | some previous => exact faithful _ _ _ _ _ _ hsource hfull

/-- A parser that calls the root of one text by another name when it is helped by a kept tree. -/
def biasedParser : Parser :=
  .ofRecordings [⟨"javascript", ['b', 'a', ';'], Recording.bareTree "program" ['b', 'a', ';'],
    some (Recording.bareTree "module" ['b', 'a', ';'])⟩] none

/-- A document is parsed, edited to the text in question, and the edit is reported. -/
def reportedEdit : List Event := [
  .action (.create "file:///a.js" "javascript" ['a', ';']),
  .action (.openDocument 0),
  .action (.treeNow "file:///a.js"),
  .action (.edit 0 [.insert 0 ['b']]),
  .action (.report "file:///a.js" 1 [⟨0, 0, ['b'], ⟨0, 0⟩, ⟨0, 0⟩⟩])]

/-- The bias is found out, and a parser without one is never blamed. -/
theorem verify_diverges_iff_biased :
    (∃ entry doc tree full,
      ((create {} "/home" {} false).undergo biasedParser reportedEdit).open? "file:///a.js" =
        some (entry, doc) ∧
      (((create {} "/home" {} false).undergo biasedParser reportedEdit).treeNow biasedParser
        "file:///a.js").2 = .ok tree ∧
      biasedParser doc.language doc.text none 500 = some full ∧
      ¬ full.root.Agrees tree.source.root ∧
      ∃ version mismatch,
        (((create {} "/home" {} false).undergo biasedParser reportedEdit).verify biasedParser
          "file:///a.js").2 = .ok (.diverges version mismatch)) ∧
    Parser.Faithful (.ofRecordings [] none) ∧
    ∀ version mismatch,
      (((create {} "/home" {} false).undergo (.ofRecordings [] none) reportedEdit).verify
        (.ofRecordings [] none) "file:///a.js").2 ≠ .ok (.diverges version mismatch) := by
  have hfaithful : Parser.Faithful (.ofRecordings [] none) := by
    intro language text previous limit source full hsource hfull
    obtain rfl := Option.some.inj (hfull.symm.trans hsource)
    exact .refl _
  refine ⟨?_, hfaithful, (verify_diverges_iff ⟨reportedEdit, rfl⟩ "file:///a.js").2 hfaithful⟩
  have hreached : ∃ events, (create {} "/home" {} false).undergo biasedParser events =
      (create {} "/home" {} false).undergo biasedParser reportedEdit := ⟨reportedEdit, rfl⟩
  obtain ⟨-, -, hdiverges, -⟩ :=
    (verify_diverges_iff hreached "file:///a.js").1 _ _ _ _ rfl rfl rfl
  have hverdict : (((create {} "/home" {} false).undergo biasedParser reportedEdit).verify
      biasedParser "file:///a.js").2 = .ok (.diverges 1 ⟨[], .kind "program" "module"⟩) := rfl
  exact ⟨_, _, _, _, rfl, rfl, rfl, hdiverges.1 ⟨_, _, hverdict⟩, _, _, hverdict⟩

end Workspace

end LiveTree
