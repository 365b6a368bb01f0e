import LiveTree.Parser.Recorded
import LiveTree.Proofs.Isolation
import LiveTree.Proofs.Moves
import LiveTree.Proofs.Swaps

/-!
# What a failed exchange leaves behind

An exchange of two pieces first changes the document, then reports the changes, and then looks for the
pieces in the new tree.  What is wrong with the pieces themselves is found before anything is changed, so
such a refusal leaves the document as it was.  What is wrong with the tree is only found afterwards.  Then
the exchange stands, though there is no tree to show for it.  In either case the document is not left in
between: it is as it was, or it is as an exchange without any fault would have left it.

## Key results

- `Workspace.documents_swapSiblings_of_swap`: an exchange that can be made is made, whatever comes after
- `Workspace.not_refusesExchange_of_swap`: what comes after does not fail as a refusal does
- `Workspace.failed_swap_leaves_whole`: what a failed exchange makes of its document
-/

namespace LiveTree

/-- Whether an error says that two pieces cannot be exchanged, rather than that something could not be
    found out afterwards. -/
def EngineError.refusesExchange : EngineError → Bool
  | .query (.notFound _) => false
  | .query _ => true
  | _ => false

/-- Every fault of two spans is an error that refuses their exchange. -/
theorem Text.SwapFault.refusesExchange {text : Text} {a b : Span} {error : QueryError}
    (fault : text.SwapFault a b error) : (EngineError.query error).refusesExchange = true := by
  cases fault <;> rfl

/-- The spans that an exchange answers are in order. -/
theorem Document.Exchanged.ordered {doc next : Document} {left right : Span} {swap : Swap}
    (exchanged : doc.Exchanged left right next swap) :
    swap.left.start ≤ swap.left.stop ∧ swap.right.start ≤ swap.right.stop := by
  obtain ⟨_, -, hleft, -⟩ := exchanged.leftPiece
  obtain ⟨_, -, hright, -⟩ := exchanged.rightPiece
  exact ⟨(Text.admits_of_slice hleft).ordered, (Text.admits_of_slice hright).ordered⟩

/-! ## What can fail -/

/-- For an ordered span the search for a node fails in one way only. -/
theorem SyntaxTree.containing_eq_error {tree : SyntaxTree} {span : Span} {error : QueryError}
    (ordered : span.start ≤ span.stop) (h : tree.containing span = .error error) :
    error = .notFound span := by
  unfold containing at h
  rw [if_neg (Nat.not_lt.2 ordered)] at h
  split at h
  · exact (Except.error.inj h).symm
  · exact nomatch h

namespace Services

variable {s : Services} {parser : Parser} {doc : Document} {entry : Entry}

/-- A grammar that cannot be had is no failed query. -/
theorem grammarNow_ne_query (s : Services) (language : String) (query : QueryError) :
    (s.grammarNow language).2 ≠ .error (.query query) := by
  unfold grammarNow
  split
  · exact nofun
  · split
    · dsimp only
      split <;> exact nofun
    · exact nofun

/-- A parse that fails is no failed query. -/
theorem parseEntry_ne_query (grammar : Grammar) (query : QueryError) :
    (s.parseEntry parser doc entry grammar).2.2 ≠ .error (.query query) := by
  unfold parseEntry
  dsimp only
  split
  · exact nofun
  · next failure _ => cases failure <;> exact nofun

/-- A look at a tree does not fail as a query does. -/
theorem treeNow_ne_query (query : QueryError) :
    (s.treeNow parser doc entry).2.2 ≠ .error (.query query) := by
  cases hcurrent : entry.currentTree? doc.version with
  | some tree =>
    rw [treeNow_of_current parser hcurrent]
    exact nofun
  | none =>
    rw [treeNow_of_outdated parser hcurrent]
    -- Only two things can fail here, the grammar and the parse.
    have hgrammar := (s.cancelTimer entry).1.grammarNow_ne_query doc.language query
    split
    · next heq =>
      rw [heq] at hgrammar
      simpa using hgrammar
    · next grammar _ => exact parseEntry_ne_query grammar query

end Services

namespace Workspace

variable {w : Workspace} {parser : Parser} {id : DocumentId} {doc next : Document} {a b : Span}
  {swap : Swap} {error : EngineError}

/-- A search for the exchanged pieces in the new tree does not fail as a refused exchange does. -/
theorem Swapped.not_refusesExchange_of_locate {tree : SyntaxTree} {left right : Span}
    (first : left.start ≤ left.stop) (second : right.start ≤ right.stop)
    (h : locate tree left right = .error error) : error.refusesExchange = false := by
  unfold locate at h
  -- Either of the two searches may fail, each in the same way.
  split at h
  · next heq =>
    rw [← Except.error.inj h, tree.containing_eq_error first heq]
    rfl
  · split at h
    · next heq =>
      rw [← Except.error.inj h, tree.containing_eq_error second heq]
      rfl
    · exact nomatch h

/-- Nor does a look at the tree of a document that need not be open. -/
theorem treeNow_ne_query (w : Workspace) (parser : Parser) (uri : String) (query : QueryError) :
    (w.treeNow parser uri).2 ≠ .error (.query query) := by
  unfold treeNow onEntry
  split
  · exact nofun
  · exact Services.treeNow_ne_query query

/-- A look that fails does not refuse the exchange that was made before it. -/
theorem not_refusesExchange_of_treeNow {uri : String} (h : (w.treeNow parser uri).2 = .error error) :
    error.refusesExchange = false := by
  cases error with
  | query query => exact absurd h (w.treeNow_ne_query parser uri query)
  | _ => rfl

/-- A report fails only if the document is not open. -/
theorem report_eq_error {uri : String} {version : Int} {changes : List Change}
    (h : (w.report uri version changes).2 = .error error) : error = .documentNotOpen uri := by
  unfold report onEntry at h
  split at h
  · exact (Except.error.inj h).symm
  · exact nomatch h

/-- What comes after an exchange that is made does not fail as a refusal does. -/
theorem not_refusesExchange_of_swap (found : w.documents[id]? = some doc)
    (h : doc.swap a b = .ok (next, swap))
    (failed : (w.swapSiblings parser id a b).2 = some (.error error)) :
    error.refusesExchange = false := by
  obtain ⟨first, second⟩ := (Document.exchanged_of_ok h).ordered
  rw [swapSiblings_of_swap found h] at failed
  -- There are three more steps that can fail: the report, the look at the tree and the search in it.
  split at failed
  · next heq =>
    obtain rfl := Except.error.inj (Option.some.inj failed)
    rw [report_eq_error (congrArg Prod.snd heq)]
    rfl
  · exact nomatch failed
  · split at failed
    · next heq =>
      obtain rfl := Except.error.inj (Option.some.inj failed)
      exact not_refusesExchange_of_treeNow (congrArg Prod.snd heq)
    · exact Swapped.not_refusesExchange_of_locate first second (Option.some.inj failed)

/-! ## What is left of the documents -/

/-- An exchange that cannot be made leaves everything but the timings as it was. -/
theorem swapSiblings_of_refused {query : QueryError} (parser : Parser)
    (found : w.documents[id]? = some doc) (h : doc.swap a b = .error query) :
    w.swapSiblings parser id a b = (w.time "swap_siblings", some (.error (.query query))) := by
  unfold swapSiblings
  simp only [found, h]

/-- A look at a tree changes no document. -/
theorem treeNow_documents (w : Workspace) (parser : Parser) (uri : String) :
    (w.treeNow parser uri).1.documents = w.documents := by
  unfold treeNow onEntry
  split <;> rfl

/-- A report changes no document. -/
theorem documents_report (w : Workspace) (uri : String) (version : Int) (changes : List Change) :
    (w.report uri version changes).1.documents = w.documents := by
  unfold report onEntry
  split <;> rfl

/-- An exchange that can be made is made, whatever comes after. -/
theorem documents_swapSiblings_of_swap (parser : Parser) (found : w.documents[id]? = some doc)
    (h : doc.swap a b = .ok (next, swap)) :
    (w.swapSiblings parser id a b).1.documents = w.documents.set id next := by
  have hreported : (w.exchange id next swap.changes).1.documents = w.documents.set id next :=
    documents_report _ _ _ _
  rw [swapSiblings_of_swap found h]
  -- The report fails, or there is nothing to report to, or the look comes after it.
  split
  · next heq => rw [heq] at hreported; exact hreported
  · next heq => rw [heq] at hreported; exact hreported
  · next later _ heq =>
    rw [heq] at hreported
    have hlooked := later.treeNow_documents parser next.uri
    split
    · next heq => rw [heq] at hlooked; exact hlooked.trans hreported
    · next heq => rw [heq] at hlooked; exact hlooked.trans hreported

/-- An exchange that fails because of the two pieces leaves the document as it was, and this is so exactly
    if the pieces cannot be exchanged.  One that fails because of the new tree stands, with one version
    more.  After any failure the document is as it was or as an exchange leaves it, and no other document
    is touched. -/
theorem failed_swap_leaves_whole (found : w.documents[id]? = some doc)
    (failed : (w.swapSiblings parser id a b).2 = some (.error error)) :
    ∃ after, (w.swapSiblings parser id a b).1.documents = w.documents.set id after ∧
      (after = doc ∨ ∃ swap, doc.swap a b = .ok (after, swap)) ∧
      (error.refusesExchange = true ↔ ¬ doc.text.Swappable a b) ∧
      (error.refusesExchange = true → after = doc) ∧
      (error.refusesExchange = false → (∀ uri, error ≠ .documentNotOpen uri) →
        ∃ swap, doc.swap a b = .ok (after, swap) ∧
          doc.Exchanged (a.earlier b) (a.later b) after swap) := by
  cases hswap : doc.swap a b with
  | error query =>
    -- The fault was found before anything was changed.
    have fault := Document.swap_eq_error_iff.1 hswap
    have hsame : w.documents.set id doc = w.documents := by
      obtain ⟨hlt, rfl⟩ := List.getElem?_eq_some_iff.1 found
      exact List.set_getElem_self hlt
    rw [swapSiblings_of_refused parser found hswap] at failed ⊢
    obtain rfl := Except.error.inj (Option.some.inj failed)
    refine ⟨doc, hsame.symm, .inl rfl, ?_, fun _ => rfl, ?_⟩
    · refine iff_of_true fault.refusesExchange fun swappable => ?_
      obtain ⟨next, swap, hok⟩ := Document.swap_eq_ok_iff.2 swappable
      exact nomatch hswap.symm.trans hok
    · intro afterwards
      rw [fault.refusesExchange] at afterwards
      exact nomatch afterwards
  | ok exchanged =>
    obtain ⟨next, swap⟩ := exchanged
    -- The exchange is made, so what failed came after it.
    have hlater := not_refusesExchange_of_swap found hswap failed
    refine ⟨next, documents_swapSiblings_of_swap parser found hswap, .inr ⟨swap, rfl⟩, ?_, ?_, ?_⟩
    · rw [hlater]
      exact iff_of_false nofun (not_not_intro (Document.swap_eq_ok_iff.1 ⟨next, swap, hswap⟩))
    · rw [hlater]
      exact nofun
    · exact fun _ _ => ⟨swap, rfl, Document.exchanged_of_ok hswap⟩

/-- A document is opened whose text takes the parser too long. -/
def slowlyParsed : List Action := [
  .create "file:///a.js" "javascript" ['a', ';', 'b'],
  .openDocument 0]

/-- The exchange has been made when the parse of the new text takes too long. -/
theorem failed_swap_leaves_whole_slow :
    ∃ w error after,
      (create {} "/home" {} false).perform (.ofRecordings [] (some 2)) slowlyParsed = w ∧
      (w.swapSiblings (.ofRecordings [] (some 2)) 0 ⟨0, 1⟩ ⟨2, 3⟩).2 = some (.error error) ∧
      error.refusesExchange = false ∧
      (w.swapSiblings (.ofRecordings [] (some 2)) 0 ⟨0, 1⟩ ⟨2, 3⟩).1.documents = [after] ∧
      after = ⟨"file:///a.js", "javascript", 1, ['b', ';', 'a']⟩ := by
  have failed : (((create {} "/home" {} false).perform (.ofRecordings [] (some 2))
      slowlyParsed).swapSiblings (.ofRecordings [] (some 2)) 0 ⟨0, 1⟩ ⟨2, 3⟩).2 =
        some (.error (.parseTimeout "file:///a.js" 500)) := rfl
  obtain ⟨after, hdocuments, -, -, -, stands⟩ := failed_swap_leaves_whole rfl failed
  obtain ⟨swap, hswap, -⟩ := stands rfl nofun
  refine ⟨_, _, after, rfl, failed, rfl, hdocuments, ?_⟩
  exact congrArg Prod.fst (Except.ok.inj (hswap.symm.trans rfl))

/-- A document in a language without a grammar. -/
def plainly : List Action := [
  .create "file:///a.txt" "plaintext" ['a', ',', 'b'],
  .openDocument 0]

/-- The exchange fails, since there is no tree to be had, and the document has changed. -/
theorem failed_swap_changes_text :
    ∃ w doc after,
      (create {} "/home" {} false).perform (.ofRecordings [] none) plainly = w ∧
      w.documents[0]? = some doc ∧
      (w.swapSiblings (.ofRecordings [] none) 0 ⟨0, 1⟩ ⟨2, 3⟩).2 =
        some (.error (.unsupportedLanguage "plaintext")) ∧
      (w.swapSiblings (.ofRecordings [] none) 0 ⟨0, 1⟩ ⟨2, 3⟩).1.documents[0]? = some after ∧
      after.text ≠ doc.text ∧ after.version ≠ doc.version :=
  ⟨_, _, _, rfl, rfl, rfl, rfl, by decide, by decide⟩

end Workspace

end LiveTree
