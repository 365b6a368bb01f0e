import LiveTree.Proofs.Debounce
import LiveTree.Proofs.Sparing

/-!
# Bursts of edits among all that happens

A document is typed in while other documents are edited and parsed, and grammars come in.  Whatever else
happens, its bursts of edits are parsed one by one, each the debounce time after its last edit.

The state that is kept up is `Typing`.  It relates a document to the edits that were made in it and to
the firings of its timer so far: either the timer waits for nothing, and all bursts have been answered;
or it waits for the end of the debounce time, and all bursts but the last have been answered.

## Key results

- `Keystroke.bursts`: edits in quick succession
- `Typing.keystroke`, `Typing.runTask`: what an edit does, and what a firing does
- `Typing.play`: what any moves do that leave the document to its typist and its timer
- `debounce_collapses`: bursts are parsed once each; and if nothing else is under way in the engine,
  nothing else is counted or published
-/

namespace LiveTree

namespace Workspace

/-- An edit that is reported when it is made: when that was, and whether the timer of the document was
    waiting then. -/
structure Keystroke where
  time : Nat
  pending : Bool
  deriving DecidableEq, Repr

namespace Keystroke

/-- The longest bursts of edits, each of them made before a limit has passed since the one before. -/
def bursts (limit : Nat) (strokes : List Keystroke) : List (List Keystroke) :=
  strokes.splitBy fun last next => decide (next.time < last.time + limit)

/-- How many edits are made before a limit has passed since the one before. -/
def shortGaps (limit : Nat) : List Keystroke → Nat
  | first :: second :: rest =>
    (if second.time < first.time + limit then 1 else 0) + shortGaps limit (second :: rest)
  | _ => 0

/-- No edit is made at the very moment that a limit has passed since the one before. -/
def Evading (limit : Nat) (strokes : List Keystroke) : Prop :=
  strokes.IsChain fun last next => next.time ≠ last.time + limit

/-- Whether edits evade the ends of debounce times can be tried out. -/
instance (limit : Nat) (strokes : List Keystroke) : Decidable (Evading limit strokes) :=
  inferInstanceAs (Decidable (List.IsChain _ strokes))

variable {limit : Nat} {strokes : List Keystroke} {last stroke : Keystroke}

/-- An edit that comes late starts a burst of its own. -/
theorem bursts_snoc_of_late (late : ∀ last ∈ strokes.getLast?, last.time + limit ≤ stroke.time) :
    bursts limit (strokes ++ [stroke]) = bursts limit strokes ++ [[stroke]] :=
  List.splitBy_concat_of_break fun last hlast => by simpa using late last hlast

/-- An edit that comes soon goes on with the last burst. -/
theorem bursts_snoc_of_soon (hlast : strokes.getLast? = some last)
    (soon : stroke.time < last.time + limit) :
    ∃ before burst, bursts limit strokes = before ++ [burst] ∧
      bursts limit (strokes ++ [stroke]) = before ++ [burst ++ [stroke]] := by
  have hne : strokes ≠ [] := by
    rintro rfl
    exact nomatch hlast
  -- There is a last burst, and it ends with the last edit.
  obtain ⟨before, burst, hbursts, -⟩ := List.exists_splitBy_eq
    (fun last next : Keystroke => decide (next.time < last.time + limit)) hne
  refine ⟨before, burst, hbursts, List.splitBy_concat_of_join hbursts fun other hother => ?_⟩
  obtain rfl := Option.some.inj (hlast.symm.trans hother)
  exact decide_eq_true soon

/-- One more edit adds at most one short gap, the one before it. -/
theorem shortGaps_snoc (limit : Nat) (strokes : List Keystroke) (stroke : Keystroke) :
    shortGaps limit (strokes ++ [stroke]) =
      shortGaps limit strokes +
        if strokes.getLast?.any (stroke.time < ·.time + limit) then 1 else 0 := by
  -- Along the definition, which looks at two edits at a time.
  induction strokes with
  | nil => rfl
  | cons first rest ih =>
    cases rest with
    | nil => simp [shortGaps]
    | cons second rest =>
      rw [List.getLast?_cons_cons]
      simp only [List.cons_append, shortGaps] at ih ⊢
      omega

end Keystroke

/-- Some firings answer some bursts, one each: a limit after the last edit, with a tree of the version
    that this edit has led to. -/
structure Answer (limit : Nat) (version : Int) (bursts : List (List Keystroke))
    (fires : List Firing) : Prop where
  times : fires.map (·.time) = bursts.filterMap fun burst => burst.getLast?.map (·.time + limit)
  versions : fires.map (·.version) = (endings version bursts).map some

/-- One more burst is answered by one more firing. -/
theorem Answer.snoc {limit : Nat} {version : Int} {strokes : List Keystroke} {last : Keystroke}
    {fires : List Firing}
    (answer : Answer limit version (Keystroke.bursts limit strokes).dropLast fires)
    -- The last burst ends with the last edit, which has the number of all edits so far.
    (hlast : strokes.getLast? = some last) {fire : Firing} (time : fire.time = last.time + limit)
    (ends : fire.version = some (version + strokes.length)) :
    Answer limit version (Keystroke.bursts limit strokes) (fires ++ [fire]) := by
  have hne : strokes ≠ [] := by
    rintro rfl
    exact nomatch hlast
  have hends := endings_splitBy
    (fun last next : Keystroke => decide (next.time < last.time + limit)) version hne
  obtain ⟨before, burst, hbursts, hburst⟩ := List.exists_splitBy_eq
    (fun last next : Keystroke => decide (next.time < last.time + limit)) hne
  unfold Keystroke.bursts at answer ⊢
  have hbefore : (endings version (before ++ [burst])).dropLast = endings version before := by
    rw [endings_append]
    exact List.dropLast_concat
  rw [hbursts, hbefore] at hends
  rw [hbursts, List.dropLast_concat] at answer
  rw [hbursts]
  constructor
  · rw [List.map_append, answer.times, List.filterMap_append]
    simp [hburst, hlast, time]
  · rw [List.map_append, answer.versions, hends, List.map_append]
    simp [ends]

/-- The edit of the document of a uri in a move that reports it. -/
def keystroke? (w : Workspace) (uri : String) : Move → Option Keystroke
  | .revise id _ =>
    if (w.entries.find? uri).any (·.document == id) then
      some ⟨w.services.clock, w.hasPendingReparse uri⟩
    else none
  | _ => none

/-- The edits of the document of a uri in a sequence of moves. -/
def keystrokes (parser : Parser) (w : Workspace) (uri : String) : List Move → List Keystroke
  | [] => []
  | move :: rest =>
    (w.keystroke? uri move).toList ++ (w.move parser move).keystrokes parser uri rest

/-- A move leaves the document of a uri to its timer, or is a valid edit of it that is reported, with
    texts of fewer than 2^64 bytes. -/
inductive Types (w : Workspace) (uri : String) : Move → Prop where
  | spares {move : Move} (spares : w.Spares uri move) : Types w uri move
  | keystroke {id : DocumentId} {entry : Entry} {doc next : Document} {alteration : Alteration}
      {changes : List Change} (found : w.open? uri = some (entry, doc)) (own : entry.document = id)
      (altered : doc.alter? alteration = some (next, changes))
      (small : doc.text.SmallAlong changes) : Types w uri (.revise id alteration)

/-- Whether a move is a valid edit of the document of a uri that is reported. -/
def isKeystroke (w : Workspace) (uri : String) : Move → Bool
  | .revise id alteration => (w.open? uri).any fun (entry, doc) => entry.document == id &&
    (doc.alter? alteration).any fun (_, changes) => decide (doc.text.SmallAlong changes)
  | _ => false

/-- Whether a document is left to its typist and its timer can be tried out. -/
theorem types_iff (w : Workspace) (uri : String) (move : Move) :
    w.Types uri move ↔ w.Spares uri move ∨ w.isKeystroke uri move = true := by
  constructor
  -- Whether a move is either of the two is found by looking the document up.
  · rintro (spares | ⟨found, own, altered, small⟩)
    · exact .inl spares
    · refine .inr ?_
      unfold isKeystroke
      dsimp only
      rw [found, Option.any_some]
      simp [own, altered, small]
  · rintro (spares | hstroke)
    · exact .spares spares
    · cases move with
      | revise id alteration =>
        simp only [isKeystroke, Option.any_eq_true, Bool.and_eq_true, beq_iff_eq,
          decide_eq_true_eq, Prod.exists] at hstroke
        obtain ⟨entry, doc, found, own, next, changes, altered, small⟩ := hstroke
        exact .keystroke found own altered small
      | _ => exact nomatch hstroke

/-- So it is decidable. -/
instance (w : Workspace) (uri : String) (move : Move) : Decidable (w.Types uri move) :=
  decidable_of_iff _ (types_iff w uri move).symm

/-- Every move leaves the document to its typist and its timer. -/
def TypesAlong (parser : Parser) (w : Workspace) (uri : String) : List Move → Prop
  | [] => True
  | move :: rest => w.Types uri move ∧ (w.move parser move).TypesAlong parser uri rest

/-- Whether all moves do so can be tried out, one after the other. -/
instance TypesAlong.decidable {parser : Parser} {uri : String} :
    (w : Workspace) → (moves : List Move) → Decidable (w.TypesAlong parser uri moves)
  | _, [] => .isTrue trivial
  | w, move :: rest =>
    have := @decidable parser uri (w.move parser move) rest
    inferInstanceAs (Decidable (_ ∧ _))

/-- What the timer and the edits of a document do is counted and published as such: a firing is one
    parse with the help of the kept tree, which commits the tree that it finds; an edit parses nothing,
    and replaces the timer if it waits. -/
structure Credits (parser : Parser) (w : Workspace) (uri : String) (move : Move) : Prop where
  fired : ∀ fire, w.firing? parser uri move = some fire → ∃ version, fire.version = some version ∧
    Progress w (w.move parser move) uri 0 [version] 0
  typed : ∀ stroke, w.keystroke? uri move = some stroke →
    Progress w (w.move parser move) uri 0 [] stroke.pending.toNat

/-- Every move is counted and published as such. -/
def CreditsAlong (parser : Parser) (w : Workspace) (uri : String) : List Move → Prop
  | [] => True
  | move :: rest => w.Credits parser uri move ∧ (w.move parser move).CreditsAlong parser uri rest

variable {parser : Parser} {w : Workspace} {uri : String} {entry : Entry} {doc : Document}
  {version : Int} {strokes : List Keystroke} {fires : List Firing}

/-- An edit of an open document is a keystroke. -/
theorem keystroke?_revise (found : w.entries.find? uri = some entry) (alteration : Alteration) :
    w.keystroke? uri (.revise entry.document alteration) =
      some ⟨w.services.clock, w.hasPendingReparse uri⟩ := by
  unfold keystroke?
  rw [found]
  exact if_pos (beq_self_eq_true _)

/-- A move that leaves a document to its timer is no keystroke. -/
theorem Spares.keystroke? {move : Move} (spares : w.Spares uri move) :
    w.keystroke? uri move = none := by
  cases move with
  -- An alteration of the document itself would be no move that leaves it alone.
  | revise id alteration =>
    refine if_neg fun hany => ?_
    cases hfound : w.entries.find? uri with
    | none =>
      rw [hfound] at hany
      exact nomatch hany
    | some entry =>
      rw [hfound, Option.any_some, beq_iff_eq] at hany
      exact (spares.document entry hfound alteration).2 (by rw [hany])
  | _ => rfl

/-! ## A document that is typed in -/

/-- A document has been typed in since a version, and its timer has fired some times.  If the timer
    waits for nothing, all bursts have been answered, and it is at least the debounce time since the
    last edit; otherwise it is due the debounce time after the last edit, and all bursts but the last
    have been answered. -/
structure Typing (w : Workspace) (uri : String) (entry : Entry) (doc : Document) (version : Int)
    (strokes : List Keystroke) (fires : List Firing) : Prop where
  kept : w.WellKept
  undisturbed : w.Undisturbed uri entry doc
  versions : doc.version = version + strokes.length
  resets : strokes.countP (·.pending) = Keystroke.shortGaps w.services.debounce strokes
  rested : entry.timer.handle = none →
    (entry.currentTree? doc.version).isSome = true ∧
      (∀ last ∈ strokes.getLast?, last.time + w.services.debounce ≤ w.services.clock) ∧
      Answer w.services.debounce version (Keystroke.bursts w.services.debounce strokes) fires
  lagging : ∀ id, entry.timer.handle = some id →
    entry.state = .stale ∧
      (∃ last, strokes.getLast? = some last ∧ w.DueAt uri (last.time + w.services.debounce)) ∧
      Answer w.services.debounce version (Keystroke.bursts w.services.debounce strokes).dropLast
        fires

namespace Typing

/-- The timer of the entry holds what is queued for it. -/
theorem holds (h : Typing w uri entry doc version strokes fires) :
    w.services.Holds uri entry.timer :=
  h.kept.tidy.holds (open?_eq_some.1 h.undisturbed.found).1

/-- A timer is pending as long as it waits for a task. -/
theorem pending_eq (h : Typing w uri entry doc version strokes fires) :
    w.hasPendingReparse uri = entry.timer.handle.isSome := by
  unfold hasPendingReparse
  rw [(open?_eq_some.1 h.undisturbed.found).1, Option.any_some, Bool.eq_iff_iff,
    Services.isPending_of_armed h.holds.armed, Option.isSome_iff_ne_none]

/-- While the timer waits, it is no later than the debounce time after the last edit. -/
theorem clock_le (h : Typing w uri entry doc version strokes fires) {id : TaskId}
    (handle : entry.timer.handle = some id) {last : Keystroke}
    (hlast : strokes.getLast? = some last) :
    w.services.clock ≤ last.time + w.services.debounce := by
  obtain ⟨-, ⟨own, hown, hdue⟩, -⟩ := h.lagging id handle
  obtain rfl := Option.some.inj (hown.symm.trans hlast)
  obtain ⟨deadline, halarms⟩ := h.holds.alarms_of_some handle
  exact hdue.clock_le (by rw [halarms]; exact List.mem_cons_self)

/-- What leaves the entry and the document alone changes nothing. -/
theorem of_untouched (h : Typing w uri entry doc version strokes fires) {move : Move}
    (lawful : w.Lawful move) (spares : w.Spares uri move) (untouched : uri ∉ w.touched move)
    (prompt : w.Prompt uri move) :
    Typing (w.move parser move) uri entry doc version strokes fires := by
  have hbooked := move_booked h.kept.tidy h.kept.coherent lawful parser
  have hdebounce := w.move_debounce parser move
  obtain ⟨trace, run, -⟩ := w.move_reaches parser move
  have hleads := run.leads
  -- The clock moves forwards, so the last edit is as long ago as before, or longer.
  obtain ⟨grammar, hloaded⟩ := h.undisturbed.loaded
  have hforth := prompt.clock_le hbooked
  exact
    { kept := h.kept.move lawful parser
      undisturbed :=
        { h.undisturbed with
          found := spares.open? h.undisturbed.found hbooked untouched
          runtime := hbooked.runtime.trans h.undisturbed.runtime
          onEdit := by rw [hleads.config]; exact h.undisturbed.onEdit
          loaded := ⟨grammar, hleads.registry.loaded _ _ hloaded⟩ }
      versions := h.versions
      resets := by rw [hdebounce]; exact h.resets
      rested := fun hnone => by
        obtain ⟨hcurrent, hlate, hanswer⟩ := h.rested hnone
        rw [hdebounce]
        exact ⟨hcurrent, fun last hlast => Nat.le_trans (hlate last hlast) hforth, hanswer⟩
      lagging := fun id hhandle => by
        obtain ⟨hstale, ⟨last, hlast, hdue⟩, hanswer⟩ := h.lagging id hhandle
        rw [hdebounce]
        exact ⟨hstale, ⟨last, hlast, hdue.of_untouched hbooked untouched prompt⟩, hanswer⟩ }

/-- An edit goes on with the last burst while the timer waits, and starts a burst of its own when it
    does not. -/
theorem keystroke (h : Typing w uri entry doc version strokes fires) (parser : Parser)
    {alteration : Alteration} {next : Document} {changes : List Change}
    (altered : doc.alter? alteration = some (next, changes)) (small : doc.text.SmallAlong changes)
    (evading : Keystroke.Evading w.services.debounce
      (strokes ++ [⟨w.services.clock, w.hasPendingReparse uri⟩])) :
    ∃ later,
      Typing (w.move parser (.revise entry.document alteration)) uri later next version
        (strokes ++ [⟨w.services.clock, w.hasPendingReparse uri⟩]) fires ∧
      Progress w (w.move parser (.revise entry.document alteration)) uri 0 []
        (w.hasPendingReparse uri).toNat := by
  obtain ⟨later, hlagging, hdocument, hhandle, htasks, -, hprogress⟩ :=
    h.undisturbed.revise altered small
  rw [h.pending_eq] at evading ⊢
  have hdebounce := w.move_debounce parser (.revise entry.document alteration)
  have hversion := (Document.revision_of_alter? altered).version
  have hversions := h.versions
  refine ⟨later, ?_, hprogress⟩
  generalize hstroke : (⟨w.services.clock, entry.timer.handle.isSome⟩ : Keystroke) = stroke
    at evading ⊢
  have htime : stroke.time = w.services.clock := by rw [← hstroke]
  have hpending : stroke.pending = entry.timer.handle.isSome := by rw [← hstroke]
  -- The new timer is due the debounce time after the edit, and there is no other.
  have hdue : DueAt (w.move parser (.revise entry.document alteration)) uri
      (stroke.time + w.services.debounce) := by
    intro task htask
    obtain ⟨hqueued, hwakes⟩ := Services.mem_alarms.1 htask
    have hclock : (w.move parser (.revise entry.document alteration)).services.clock =
        w.services.clock := hprogress.clock
    rw [hclock, htime]
    rw [show (w.move parser (.revise entry.document alteration)).services.tasks = _ from htasks]
      at hqueued
    rcases List.mem_append.1 hqueued with hold | hnew
    · obtain ⟨hmem, hother⟩ := List.mem_filter.1 hold
      obtain ⟨generation, hwork⟩ := Task.wakes_iff.1 hwakes
      have htimer := h.holds.handle_of_mem hmem hwork
      rw [htimer] at hother
      simp at hother
    · rw [List.mem_singleton.1 hnew]
      exact Nat.max_eq_right (Nat.le_add_right _ _)
  have hlast : (strokes ++ [stroke]).getLast? = some stroke := List.getLast?_concat
  refine
    { kept := h.kept.move (show w.Lawful (.revise entry.document alteration) from trivial) parser
      undisturbed := hlagging.toUndisturbed
      versions := ?_
      resets := ?_
      rested := fun hnone => nomatch hhandle.symm.trans hnone
      lagging := fun _ _ => ⟨hlagging.stale, ⟨stroke, hlast, by rw [hdebounce]; exact hdue⟩, ?_⟩ }
  · rw [List.length_append, Int.natCast_add, hversion, hversions, Int.add_assoc]
    rfl
  -- A timer is replaced exactly if it waits, and then the gap since the last edit is a short one.
  all_goals rw [hdebounce]
  · rw [List.countP_append, List.countP_singleton, h.resets, Keystroke.shortGaps_snoc, hpending]
    cases hwaiting : entry.timer.handle with
    | none =>
      obtain ⟨-, hlate, -⟩ := h.rested hwaiting
      have hnone : strokes.getLast?.any (stroke.time < ·.time + w.services.debounce) = false := by
        refine (Option.any_eq_false ..).2 fun last hmem => decide_eq_false ?_
        have hlate := hlate last hmem
        omega
      rw [hnone]
      rfl
    | some id =>
      obtain ⟨-, ⟨last, hmem, -⟩, -⟩ := h.lagging id hwaiting
      have hle := h.clock_le hwaiting hmem
      have hne := (List.isChain_append.1 evading).2.2 last hmem stroke rfl
      have hsome : strokes.getLast?.any (stroke.time < ·.time + w.services.debounce) = true := by
        rw [hmem, Option.any_some, decide_eq_true_eq]
        omega
      rw [hsome]
      rfl
  -- And it is then that the edit goes on with the last burst.
  · cases hwaiting : entry.timer.handle with
    | none =>
      obtain ⟨-, hlate, hanswer⟩ := h.rested hwaiting
      rw [Keystroke.bursts_snoc_of_late fun last hmem => by rw [htime]; exact hlate last hmem,
        List.dropLast_concat]
      exact hanswer
    | some id =>
      obtain ⟨-, ⟨last, hmem, -⟩, hanswer⟩ := h.lagging id hwaiting
      have hle := h.clock_le hwaiting hmem
      have hne := (List.isChain_append.1 evading).2.2 last hmem stroke rfl
      have hsoon : stroke.time < last.time + w.services.debounce := by omega
      obtain ⟨before, burst, hbursts, hsnoc⟩ := Keystroke.bursts_snoc_of_soon hmem hsoon
      rw [hbursts, List.dropLast_concat] at hanswer
      rw [hsnoc, List.dropLast_concat]
      exact hanswer

/-- A firing answers the burst that has just ended. -/
theorem runTask (h : Typing w uri entry doc version strokes fires) {task : Task}
    (htask : task ∈ w.services.alarms uri) (due : task.deadline ≤ w.services.clock)
    (parses : w.Parses parser uri) :
    ∃ next fire,
      Typing (w.move parser (.run task)) uri next doc version strokes (fires ++ [fire]) ∧
      w.firing? parser uri (.run task) = some fire ∧ fire.version = some doc.version ∧
      Progress w (w.move parser (.run task)) uri 0 [doc.version] 0 := by
  obtain ⟨hmem, hwakes⟩ := Services.mem_alarms.1 htask
  obtain ⟨generation, hwork⟩ := Task.wakes_iff.1 hwakes
  have htimer := h.holds.handle_of_mem hmem hwork
  have hhandle : entry.timer.handle = some task.id := by rw [htimer]
  obtain ⟨hstale, ⟨last, hlast, hdue⟩, hanswer⟩ := h.lagging task.id hhandle
  -- A stale entry with a timer that fires comes to rest with a tree of the document's version.
  have hlagging : w.Lagging uri entry doc := { h.undisturbed with stale := hstale }
  obtain ⟨next, hrested, -, -, -, hprogress⟩ := hlagging.runTask hwork htimer parses
  have hmove : w.move parser (.run task) = w.runTask parser task := if_pos hmem
  have hkept := h.kept.move (show w.Lawful (.run task) from trivial) parser
  have hdebounce := w.move_debounce parser (.run task)
  have hcommitted : ((w.runTask parser task).lastTree? uri).map (·.version) = some doc.version :=
    hprogress.committed
  -- It fires when it is due, neither earlier nor later.
  have hnow : w.services.clock = last.time + w.services.debounce := by
    have hdue := hdue task htask
    omega
  have hclock : (w.runTask parser task).services.clock = w.services.clock := hprogress.clock
  rw [hmove] at hkept hdebounce ⊢
  refine ⟨next, _, ?_, firing?_run htask, hcommitted, hprogress⟩
  exact
    { kept := hkept
      undisturbed := hrested.toUndisturbed
      versions := h.versions
      resets := by rw [hdebounce]; exact h.resets
      rested := fun _ => by
        -- The last edit is exactly the debounce time ago.
        rw [hdebounce]
        refine ⟨hrested.current, fun other hother => ?_, ?_⟩
        · obtain rfl := Option.some.inj (hlast.symm.trans hother)
          rw [hclock, hnow]
        · exact hanswer.snoc hlast hnow (hcommitted.trans (by rw [h.versions]))
      lagging := fun id hid => nomatch hrested.unarmed.symm.trans hid }

/-- One move: somebody types, the timer fires, or nothing happens to the document. -/
theorem move (h : Typing w uri entry doc version strokes fires) {move : Move}
    (lawful : w.Lawful move) (types : w.Types uri move) (prompt : w.Prompt uri move)
    (parses : (w.firing? parser uri move).isSome = true → w.Parses parser uri)
    (evading : Keystroke.Evading w.services.debounce
      (strokes ++ (w.keystroke? uri move).toList)) :
    ∃ next last,
      Typing (w.move parser move) uri next last version
        (strokes ++ (w.keystroke? uri move).toList)
        (fires ++ (w.firing? parser uri move).toList) ∧
      w.Credits parser uri move := by
  cases types with
  | @keystroke id own _ next alteration changes found hid altered small =>
    subst hid
    obtain ⟨rfl, rfl⟩ := Prod.mk.inj (Option.some.inj (found.symm.trans h.undisturbed.found))
    have hstroke := keystroke?_revise (open?_eq_some.1 found).1 alteration
    have hfiring : w.firing? parser uri (.revise own.document alteration) = none := rfl
    rw [hstroke] at evading
    obtain ⟨later, htyping, hprogress⟩ := h.keystroke parser altered small evading
    refine ⟨later, next, ?_, fun fire hfire => (nomatch hfiring.symm.trans hfire),
      fun stroke heq => ?_⟩
    · rw [hstroke, hfiring]
      simpa using htyping
    · obtain rfl := Option.some.inj (hstroke.symm.trans heq)
      exact hprogress
  | spares spares =>
    have hstroke := spares.keystroke?
    rw [hstroke, Option.toList_none, List.append_nil]
    rcases spares.cases parser with ⟨task, rfl, htask⟩ | ⟨hnone, hstill⟩
    · have hfires : (w.firing? parser uri (.run task)).isSome = true := by
        rw [firing?_run htask]
        rfl
      obtain ⟨next, fire, htyping, hfire, hversion, hprogress⟩ :=
        h.runTask htask (prompt htask) (parses hfires)
      refine ⟨next, doc, by rw [hfire]; exact htyping, fun other heq => ?_,
        fun stroke heq => nomatch hstroke.symm.trans heq⟩
      obtain rfl := Option.some.inj (hfire.symm.trans heq)
      exact ⟨doc.version, hversion, hprogress⟩
    · refine ⟨entry, doc, ?_, fun fire heq => (nomatch hnone.symm.trans heq),
        fun stroke heq => nomatch hstroke.symm.trans heq⟩
      rw [hnone, Option.toList_none, List.append_nil]
      rcases hstill with hstill | huntouched
      · rw [hstill]
        exact h
      · exact h.of_untouched lawful spares huntouched prompt

/-- A sequence of moves, each of which leaves the document to its typist or its timer. -/
theorem play (h : Typing w uri entry doc version strokes fires) {moves : List Move}
    (lawful : w.LawfulAlong parser moves) (types : w.TypesAlong parser uri moves)
    (prompt : w.PromptAlong parser uri moves)
    (parses : w.WheneverFired parser uri (·.Parses parser uri) moves)
    (evading : Keystroke.Evading w.services.debounce
      (strokes ++ w.keystrokes parser uri moves)) :
    ∃ next last,
      Typing (w.play parser moves) uri next last version
        (strokes ++ w.keystrokes parser uri moves) (fires ++ w.firings parser uri moves) ∧
      w.CreditsAlong parser uri moves := by
  -- By induction on the moves, with everything that a move may change free.
  induction moves generalizing w entry doc strokes fires with
  | nil =>
    refine ⟨entry, doc, ?_, trivial⟩
    rw [keystrokes, firings, List.append_nil, List.append_nil]
    exact h
  | cons move rest ih =>
    rw [keystrokes, ← List.append_assoc] at evading ⊢
    rw [firings, ← List.append_assoc]
    obtain ⟨next, last, htyping, hcounts⟩ := h.move lawful.1 types.1 prompt.1 parses.1
      (List.isChain_append.1 evading).1
    rw [← w.move_debounce parser move] at evading
    obtain ⟨final, document, hplayed, hrest⟩ :=
      ih htyping lawful.2 types.2 prompt.2 parses.2 evading
    exact ⟨final, document, hplayed, hcounts, hrest⟩

/-- A document that has rested is about to be typed in. -/
theorem of_rested (kept : w.WellKept) (rested : w.Rested uri entry doc) :
    Typing w uri entry doc doc.version [] [] where
  kept := kept
  undisturbed := rested.toUndisturbed
  versions := (Int.add_zero _).symm
  resets := rfl
  rested _ := ⟨rested.current, fun _ hlast => (nomatch hlast), ⟨rfl, rfl⟩⟩
  lagging _ handle := nomatch rested.unarmed.symm.trans handle

end Typing

/-- Edits in quick succession are parsed together.  Take a document whose tree is current, whose grammar
    is loaded and whose timer is not pending, in a workspace with a runtime whose edits schedule a
    reparse.

    First, let anything happen that leaves the document to its typist and its timer, while other
    documents are edited, parsed and reparsed as they like.  If the timer fires on time, no parse fails
    when it does, and no edit is made at the very end of a debounce time, then:

    - each firing is counted and published as one incremental parse, and each edit as a replaced timer
      if one was pending;
    - the timer has fired once for each burst of edits, but for the last while it is pending: the
      debounce time after the last edit of the burst, committing the version of that edit;
    - as many timers were replaced as edits came before the debounce time had passed;
    - a timer is pending no longer than the debounce time after the last edit, and until then; when it
      is not, the tree is current.

    Second, if there is no task and nobody waits in the background, make any strokes and let any time
    pass after the last.  If no parse fails, the document has been parsed once for every run of strokes
    that was followed by a long pause, as it was at the end of the run and with the help of the kept
    tree, and nothing else was parsed, fired or published; as many timers have been replaced as there
    were pauses within runs; and a timer is pending if the last run was not followed by a long
    pause. -/
theorem debounce_collapses (parser : Parser) {config : Config}
    (onEdit : config.scheduleOnEdit = true) (dataHome : String) (libraries : Libraries)
    {moves : List Move} {w : Workspace}
    (reached : (create config dataHome libraries true).play parser moves = w)
    {uri : String} {entry : Entry} {doc : Document} (found : w.open? uri = some (entry, doc))
    (current : (entry.currentTree? doc.version).isSome = true)
    (loaded : ∃ grammar, w.services.registry.loaded? doc.language = some grammar)
    (unarmed : w.hasPendingReparse uri = false) :
    ((create config dataHome libraries true).LawfulAlong parser moves →
      ∀ after, w.LawfulAlong parser after → w.TypesAlong parser uri after →
        w.PromptAlong parser uri after → w.WheneverFired parser uri (·.Parses parser uri) after →
        let strokes := w.keystrokes parser uri after
        Keystroke.Evading w.services.debounce strokes →
        let later := w.play parser after
        let bursts := Keystroke.bursts w.services.debounce strokes
        w.CreditsAlong parser uri after ∧
        Answer w.services.debounce doc.version
          (if later.hasPendingReparse uri then bursts.dropLast else bursts)
          (w.firings parser uri after) ∧
        strokes.countP (·.pending) = Keystroke.shortGaps w.services.debounce strokes ∧
        (later.hasPendingReparse uri = true → ∃ last, strokes.getLast? = some last ∧
          later.services.clock ≤ last.time + w.services.debounce) ∧
        (later.hasPendingReparse uri = false → ∀ last ∈ strokes.getLast?,
          last.time + w.services.debounce ≤ later.services.clock) ∧
        ∃ next last, later.open? uri = some (next, last) ∧
          last.version = doc.version + strokes.length ∧
          (later.hasPendingReparse uri = false → (next.currentTree? last.version).isSome = true)) ∧
    (w.services.tasks = [] → w.services.waiters = [] →
      ∀ strokes last, doc.Retyped strokes last → ∀ rest,
        (∀ before after, strokes = before ++ after → before ≠ [] →
          Stroke.Long w.services.debounce ((after.head?.map (·.pause)).getD rest) →
          (w.typed parser entry.document before).Parses parser uri) →
        let later := (w.typed parser entry.document strokes).wait parser rest
        let ended := endings doc.version (Stroke.runs w.services.debounce strokes)
        (∃ next, later.open? uri = some (next, last)) ∧
          Progress w later uri (Stroke.time strokes + rest.sum)
            (if Stroke.Long w.services.debounce rest then ended else ended.dropLast)
            (Stroke.shortPauses w.services.debounce strokes) ∧
          (later.hasPendingReparse uri = true ↔
            strokes ≠ [] ∧ ¬ Stroke.Long w.services.debounce rest)) := by
  subst reached
  have hminded := ((create_minded onEdit dataHome libraries).play parser moves).1
  constructor
  · intro lawful
    obtain ⟨hkept, -⟩ := play_booked (create_wellKept config dataHome libraries true) lawful
    generalize (create config dataHome libraries true).play parser moves = w at *
    intro after hlawful htypes hprompt hparses strokes hevading later bursts
    have hhandle : entry.timer.handle = none := by
      have hentry := (open?_eq_some.1 found).1
      unfold hasPendingReparse at unarmed
      rw [hentry, Option.any_some, ← Bool.not_eq_true,
        Services.isPending_of_armed (hkept.tidy.holds hentry).armed] at unarmed
      exact Decidable.not_not.1 unarmed
    have htyping := Typing.of_rested hkept (hminded.rested found current loaded hhandle)
    obtain ⟨next, last, htyped, hcounts⟩ := htyping.play hlawful htypes hprompt hparses hevading
    rw [List.nil_append, List.nil_append] at htyped
    have hdebounce := w.play_debounce parser after
    have hpending : later.hasPendingReparse uri = next.timer.handle.isSome := htyped.pending_eq
    have hresets := htyped.resets
    rw [hdebounce] at hresets
    -- What is left to be said depends on whether the timer waits at the end.
    refine ⟨hcounts, ?_, hresets, ?_, ?_, next, last, htyped.undisturbed.found, htyped.versions, ?_⟩
    all_goals rw [hpending]
    · cases hwaiting : next.timer.handle with
      | none =>
        obtain ⟨-, -, hanswer⟩ := htyped.rested hwaiting
        rw [hdebounce] at hanswer
        exact hanswer
      | some id =>
        obtain ⟨-, -, hanswer⟩ := htyped.lagging id hwaiting
        rw [hdebounce] at hanswer
        exact hanswer
    · intro hsome
      obtain ⟨id, hwaiting⟩ := Option.isSome_iff_exists.1 hsome
      obtain ⟨-, ⟨stroke, hlast, -⟩, -⟩ := htyped.lagging id hwaiting
      refine ⟨stroke, hlast, ?_⟩
      rw [← hdebounce]
      exact htyped.clock_le hwaiting hlast
    · intro hnone
      obtain ⟨-, hlate, -⟩ := htyped.rested (Option.isNone_iff_eq_none.1 (by simpa using hnone))
      rw [hdebounce] at hlate
      exact hlate
    · intro hnone
      exact (htyped.rested (Option.isNone_iff_eq_none.1 (by simpa using hnone))).1
  · intro tasks waiters strokes last retyped rest parses
    exact (hminded.idle found current loaded tasks waiters).typed_wait retyped rest parses

/-- A document is open with a current tree and a loaded grammar, and its timer is not pending. -/
def isReady (w : Workspace) (uri : String) : Bool :=
  !w.hasPendingReparse uri && (w.open? uri).any fun (entry, doc) =>
    (entry.currentTree? doc.version).isSome && (w.services.registry.loaded? doc.language).isSome

/-- What is tried out is what the theorem asks of a document. -/
theorem isReady_iff : w.isReady uri = true ↔ w.hasPendingReparse uri = false ∧
    ∃ entry doc, w.open? uri = some (entry, doc) ∧
      (entry.currentTree? doc.version).isSome = true ∧
      ∃ grammar, w.services.registry.loaded? doc.language = some grammar := by
  unfold isReady
  rw [Bool.and_eq_true, Bool.not_eq_true', Option.any_eq_true]
  simp only [Prod.exists, Bool.and_eq_true, Option.isSome_iff_exists]

/-- An edit that puts a character in at the start. -/
def insertion : Alteration := .edits [.insert 0 ['b']]

/-- Two documents are opened and looked at. -/
def bothLookedAt : List Move := [
  .create "file:///a.js" "javascript" ['a', ';'],
  .openDocument 0,
  .treeNow "file:///a.js",
  .create "file:///b.js" "javascript" ['c', ';'],
  .openDocument 1,
  .treeNow "file:///b.js"]

/-- Two bursts of two edits each in one document, while the other is edited once, and parsed. -/
def typedAmongOthers : List Move := [
  .revise 0 insertion,
  .aside (.setClock 300),
  .revise 1 insertion,
  .aside (.setClock 700),
  .revise 0 insertion,
  .aside (.setClock 1300),
  .run ⟨3, 1300, .reparse "file:///b.js" 5⟩,
  .aside (.setClock 1700),
  .run ⟨4, 1700, .reparse "file:///a.js" 7⟩,
  .aside (.setClock 1800),
  .revise 0 insertion,
  .revise 0 insertion,
  .aside (.setClock 2800),
  .run ⟨6, 2800, .reparse "file:///a.js" 11⟩,
  .aside (.setClock 2801)]

/-- Two strokes within the default debounce time, and after that time two strokes at once. -/
def twoRuns : List Stroke := [
  ⟨[], insertion⟩, ⟨[300, 400], insertion⟩, ⟨[1000], insertion⟩, ⟨[], insertion⟩]

/-- Four edits come to two parses, of the second and of the fourth version: while another document is
    edited and parsed, and likewise when nothing else happens. -/
theorem debounce_collapses_two_runs :
    let parser := Parser.ofRecordings [] none
    let w := (create {} "/home" {} true).play parser bothLookedAt
    (w.firings parser "file:///b.js" typedAmongOthers).map (·.time) = [1300] ∧
    (w.firings parser "file:///a.js" typedAmongOthers).map (·.time) = [1700, 2800] ∧
    (w.firings parser "file:///a.js" typedAmongOthers).map (·.version) = [some 2, some 4] ∧
    (w.keystrokes parser "file:///a.js" typedAmongOthers).countP (·.pending) = 2 ∧
    w.CreditsAlong parser "file:///a.js" typedAmongOthers ∧
    Progress w ((w.typed parser 0 twoRuns).wait parser [1000]) "file:///a.js" 2700 [2, 4] 2 := by
  intro parser w
  obtain ⟨hunarmed, entry, doc, hfound, hcurrent, hloaded⟩ :=
    isReady_iff.1 (show w.isReady "file:///a.js" = true by decide +kernel)
  have hopen : (w.open? "file:///a.js").map (fun (entry, doc) => (entry.document, doc)) =
      some (0, .create "file:///a.js" "javascript" ['a', ';']) := by decide +kernel
  rw [hfound, Option.map_some, Option.some.injEq, Prod.mk.injEq] at hopen
  obtain ⟨hdocument, rfl⟩ := hopen
  obtain ⟨hamong, halone⟩ := @debounce_collapses parser {} rfl "/home" {} bothLookedAt w rfl
    "file:///a.js" entry _ hfound hcurrent hloaded hunarmed
  rw [hdocument] at halone
  -- Among other things that happen.
  have htypes : w.TypesAlong parser "file:///a.js" typedAmongOthers := by decide +kernel
  have hprompt : w.PromptAlong parser "file:///a.js" typedAmongOthers := by decide +kernel
  have hparse : w.WheneverFired parser "file:///a.js" (·.Parses parser "file:///a.js")
      typedAmongOthers := by
    decide +kernel
  obtain ⟨hcredits, hanswer, hresets, -⟩ := hamong (by decide +kernel) typedAmongOthers
    (by decide +kernel) htypes hprompt hparse (by decide +kernel)
  -- With nothing else to do.
  have hretyped : ∃ last,
      (Document.create "file:///a.js" "javascript" ['a', ';']).Retyped twoRuns last := by
    have hnone : Document.Retyped (.create "file:///a.js" "javascript" ['a', ';']) [] _ := .nil
    have hone := hnone.snoc ⟨[], insertion⟩ rfl ⟨by decide, (by decide : _ < _)⟩
    have htwo := hone.snoc ⟨[300, 400], insertion⟩ rfl ⟨by decide, (by decide : _ < _)⟩
    have hthree := htwo.snoc ⟨[1000], insertion⟩ rfl ⟨by decide, (by decide : _ < _)⟩
    exact ⟨_, hthree.snoc ⟨[], insertion⟩ rfl ⟨by decide, (by decide : _ < _)⟩⟩
  obtain ⟨last, hretyped⟩ := hretyped
  have hparses : ∀ before after, twoRuns = before ++ after →
      (w.typed parser 0 before).Parses parser "file:///a.js" := by
    intro before after heq
    rcases before with _ | ⟨_, _ | ⟨_, _ | ⟨_, _ | ⟨_, _ | ⟨_, _⟩⟩⟩⟩⟩ <;> cases heq <;>
      decide +kernel
  obtain ⟨-, hprogress, -⟩ := halone (by decide +kernel) (by decide +kernel) twoRuns last hretyped
    [1000] fun before after heq _ _ => hparses before after heq
  have htime : Stroke.time twoRuns + [1000].sum = 2700 := by decide
  have hended : (if Stroke.Long w.services.debounce [1000] then
      endings 0 (Stroke.runs w.services.debounce twoRuns)
    else (endings 0 (Stroke.runs w.services.debounce twoRuns)).dropLast) = [2, 4] := by
    decide +kernel
  have hshort : Stroke.shortPauses w.services.debounce twoRuns = 2 := by decide +kernel
  have hversion : (Document.create "file:///a.js" "javascript" ['a', ';']).version = 0 := rfl
  rw [htime, hversion, hended, hshort] at hprogress
  refine ⟨by decide +kernel, ?_, ?_, ?_, hcredits, hprogress⟩
  · exact hanswer.times.trans (by decide +kernel)
  · exact hanswer.versions.trans (by decide +kernel)
  · exact hresets.trans (by decide +kernel)

/-- A document is opened and looked at. -/
def lookedAt : List Move := [
  .create "file:///a.js" "javascript" ['a', ';'],
  .openDocument 0,
  .treeNow "file:///a.js"]

/-- The same as `lookedAt`, but that the grammar has been asked for in the background before. -/
def askedFor : List Move := [
  .create "file:///a.js" "javascript" ['a', ';'],
  .openDocument 0,
  .reparseNow "file:///a.js",
  .treeNow "file:///a.js"]

/-- Another document is opened, too. -/
def withAnother : List Move :=
  lookedAt ++ [.create "file:///b.js" "javascript" ['c', ';'], .openDocument 1]

/-- It is not enough that a document is ready, and not always the configured time that passes: no task
    waits longer than the longest delay; a load that is left over in the background replaces the timer
    of an edit with one that fires at once; and the timer of another document counts like its own. -/
theorem debounce_not_as_configured :
    (∃ w, (create { debounceMs := 1000000000000 } "/home" {} true).play (.ofRecordings [] none)
        lookedAt = w ∧ w.isReady "file:///a.js" = true ∧
      (((w.typed (.ofRecordings [] none) 0 [⟨[], insertion⟩]).wait (.ofRecordings [] none)
        [946080000000]).lastTree? "file:///a.js").map (·.version) = some 1) ∧
    (∃ w, (create { debounceMs := 1000 } "/home" {} true).play (.ofRecordings [] none)
        askedFor = w ∧ w.isReady "file:///a.js" = true ∧
      w.services.metrics.counters.debounceResets = 0 ∧
      ((w.typed (.ofRecordings [] none) 0 [⟨[], insertion⟩]).wait (.ofRecordings [] none)
        [1]).services.metrics.counters.debounceResets = 1 ∧
      (((w.typed (.ofRecordings [] none) 0 [⟨[], insertion⟩]).wait (.ofRecordings [] none)
        [1]).lastTree? "file:///a.js").map (·.version) = some 1) ∧
    (∃ w, (create { debounceMs := 1000 } "/home" {} true).play (.ofRecordings [] none)
        withAnother = w ∧ w.isReady "file:///a.js" = true ∧
      w.services.metrics.counters.scheduledFires = 0 ∧
      ((w.typed (.ofRecordings [] none) 0 [⟨[], insertion⟩]).wait (.ofRecordings [] none)
        [1001]).services.metrics.counters.scheduledFires = 2) := by
  refine ⟨⟨_, rfl, ?_, ?_⟩, ⟨_, rfl, ?_, ?_, ?_, ?_⟩, ⟨_, rfl, ?_, ?_, ?_⟩⟩
  all_goals decide

end Workspace

end LiveTree
