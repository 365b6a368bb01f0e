import LiveTree.Proofs.Replay

/-!
# Journals and ledgers

An observer of a run can write down what the host does.  A `Journal` holds all texts of a document,
each with the changes that led to it from the one before.  A `Ledger` holds the journals of all
documents and, for every uri that is open, which document it is and up to which version its changes
have been reported.

With a ledger at hand it can be said what it means that reports come late, but in order and none of
them missing: `Ledger.Orderly`.

## Key results

- `Journal.Sound.replay_between`: the changes between two versions lead from the one text to the other
- `Ledger.along_iff_doings`, `Ledger.orderly_iff_doings`: whether a run is in order is a matter of what
  the host does in it
-/

namespace LiveTree

/-- The changes of a revision and the text they led to. -/
structure Revised where
  changes : List Change
  text : Text

/-- The texts of a document: the first one, and one for each version since. -/
structure Journal where
  first : Text
  revisions : List Revised := []

namespace Journal

/-- The version that has been reached. -/
def version (journal : Journal) : Nat := journal.revisions.length

/-- The text of a version. -/
def text? (journal : Journal) : Nat → Option Text
  | 0 => some journal.first
  | version + 1 => (journal.revisions[version]?).map (·.text)

/-- The changes that led from one version to a later one, in order. -/
def between (journal : Journal) (u v : Nat) : List Change :=
  ((journal.revisions.take v).drop u).flatMap (·.changes)

/-- Every version that has been reached has a text. -/
theorem exists_text? {journal : Journal} {v : Nat} (h : v ≤ journal.version) :
    ∃ text, journal.text? v = some text := by
  cases v with
  | zero => exact ⟨journal.first, rfl⟩
  | succ v =>
    have hfound := List.getElem?_eq_getElem (l := journal.revisions) h
    exact ⟨_, Option.map_eq_some_iff.2 ⟨_, hfound, rfl⟩⟩

/-- Writes down one more revision. -/
def push (journal : Journal) (revision : Revised) : Journal :=
  { journal with revisions := journal.revisions ++ [revision] }

/-- A revision that is written down is a version more. -/
@[simp] theorem version_push (journal : Journal) (revision : Revised) :
    (journal.push revision).version = journal.version + 1 := by
  simp [version, push]

/-- The texts of the versions before stay what they were. -/
theorem text?_push (journal : Journal) (revision : Revised) {v : Nat} (h : v ≤ journal.version) :
    (journal.push revision).text? v = journal.text? v := by
  cases v with
  | zero => rfl
  | succ v =>
    show ((journal.revisions ++ [revision])[v]?).map _ = _
    rw [List.getElem?_append_left h]
    rfl

/-- The text of the new version is that of the revision. -/
theorem text?_push_version (journal : Journal) (revision : Revised) :
    (journal.push revision).text? (journal.version + 1) = some revision.text := by
  show ((journal.revisions ++ [revision])[journal.revisions.length]?).map _ = _
  rw [List.getElem?_concat_length]
  rfl

/-- Nor do the changes between earlier versions become others. -/
theorem between_push (journal : Journal) (revision : Revised) (u : Nat) {v : Nat}
    (h : v ≤ journal.version) : (journal.push revision).between u v = journal.between u v := by
  show (((journal.revisions ++ [revision]).take v).drop u).flatMap _ = _
  rw [List.take_append_of_le_length h]
  rfl

/-- Nothing lies between a version and itself. -/
theorem between_self (journal : Journal) (v : Nat) : journal.between v v = [] := by
  unfold between
  rw [List.drop_eq_nil_of_le (List.length_take_le v journal.revisions)]
  rfl

/-- The changes of the next revision come last. -/
theorem between_succ {journal : Journal} {u v : Nat} {revision : Revised} (hle : u ≤ v)
    (h : journal.revisions[v]? = some revision) :
    journal.between u (v + 1) = journal.between u v ++ revision.changes := by
  have hlt : v < journal.revisions.length := (List.getElem?_eq_some_iff.1 h).1
  have hlength : (journal.revisions.take v).length = v := List.length_take_of_le (by omega)
  unfold between
  rw [List.take_add_one, h, List.drop_append_of_le_length (by omega), List.flatMap_append]
  simp

/-- A journal tells how each text came about, in words. -/
structure Sound (journal : Journal) : Prop where
  replay : ∀ {v revision text}, journal.revisions[v]? = some revision →
    journal.text? v = some text → Change.replayAll? revision.changes text = some revision.text
  fits : ∀ revision ∈ journal.revisions, ∀ change ∈ revision.changes, change.Fits

/-- A journal of one text alone is sound. -/
theorem sound_first (text : Text) : Sound ⟨text, []⟩ where
  replay h := nomatch h
  fits _ h := nomatch h

/-- A journal stays sound when a revision is written down that starts from the last text. -/
theorem Sound.push {journal : Journal} {revision : Revised} {text : Text} (h : journal.Sound)
    (last : journal.text? journal.version = some text)
    (replay : Change.replayAll? revision.changes text = some revision.text)
    (fits : ∀ change ∈ revision.changes, change.Fits) : (journal.push revision).Sound where
  replay := by
    intro v found earlier hfound hearlier
    have hlt : v < journal.version + 1 := by
      rw [← version_push journal revision]
      exact (List.getElem?_eq_some_iff.1 hfound).1
    rw [text?_push journal revision (by omega)] at hearlier
    -- Either the revision is an old one, or it is the one that is written down now.
    by_cases hv : v < journal.version
    · refine h.replay ?_ hearlier
      rw [← hfound]
      exact (List.getElem?_append_left hv).symm
    · obtain rfl : v = journal.version := by omega
      have hrevision : (journal.push revision).revisions[journal.version]? = some revision :=
        List.getElem?_concat_length
      obtain rfl := Option.some.inj (hrevision.symm.trans hfound)
      obtain rfl := Option.some.inj (last.symm.trans hearlier)
      exact replay
  fits found hfound := by
    rcases List.mem_append.1 hfound with hfound | hfound
    · exact h.fits found hfound
    · obtain rfl := List.mem_singleton.1 hfound
      exact fits

/-- The changes between two versions lead from the one text to the other. -/
theorem Sound.replay_between {journal : Journal} (h : journal.Sound) {u v : Nat} (hle : u ≤ v)
    {before after : Text} (hbefore : journal.text? u = some before)
    (hafter : journal.text? v = some after) :
    -- By induction on the later version, with its text free.
    Change.replayAll? (journal.between u v) before = some after := by
  induction hle generalizing after with
  | refl =>
    obtain rfl := Option.some.inj (hbefore.symm.trans hafter)
    rw [between_self, Change.replayAll?_nil]
  | @step v hle ih =>
    obtain ⟨revision, hrevision, rfl⟩ := Option.map_eq_some_iff.1 hafter
    have hlt : v < journal.version := (List.getElem?_eq_some_iff.1 hrevision).1
    obtain ⟨text, htext⟩ := exists_text? (Nat.le_of_lt hlt)
    -- Up to the last but one version by induction, and from there by its own changes.
    rw [between_succ hle hrevision, Change.replayAll?_append, ih htext]
    exact h.replay hrevision htext

end Journal

/-- What is open under a uri: a document, and the version up to which its changes were reported.  Those
    from before it was opened count as reported. -/
structure Place where
  document : DocumentId
  reported : Nat

/-- The journals of all documents, and what is open. -/
structure Ledger where
  journals : List Journal := []
  places : Table Place := .empty

namespace Ledger

/-- The version that a document has reached. -/
def versionOf (ledger : Ledger) (id : DocumentId) : Nat :=
  ((ledger.journals[id]?).map Journal.version).getD 0

/-- Writes down what happens. -/
def note (ledger : Ledger) : Happening → Ledger
  | .quiet | .parsed _ _ _ => ledger
  | .created text => { ledger with journals := ledger.journals ++ [⟨text, []⟩] }
  | .revised id text changes =>
    { ledger with journals := ledger.journals.modify id (·.push ⟨changes, text⟩) }
  | .opened id uri =>
    { ledger with places := ledger.places.insert uri ⟨id, ledger.versionOf id⟩ }
  | .closed uri => { ledger with places := ledger.places.erase uri }
  | .reported uri version _ _ =>
    match ledger.places.find? uri with
    | none => ledger
    | some place =>
      let reported := max place.reported version.toNat
      { ledger with places := ledger.places.insert uri ⟨place.document, reported⟩ }

/-- What an orderly host may do.  A report tells the changes of a revision of the document that is
    open: the one after those reported so far, or one of those once more.  A revision goes through
    texts that fit into memory.  Nothing else is asked of it. -/
def Permits (ledger : Ledger) : Happening → Prop
  | .reported uri version changes _ =>
    ∀ place journal, ledger.places.find? uri = some place →
      ledger.journals[place.document]? = some journal →
        ∃ v revision, version = (v + 1 : Nat) ∧ v ≤ place.reported ∧
          journal.revisions[v]? = some revision ∧ revision.changes = changes
  | .revised id _ changes =>
    ∀ journal (text : Text), ledger.journals[id]? = some journal →
      journal.text? journal.version = some text → text.SmallAlong changes
  | _ => True

/-- An orderly host does what it may do, all along. -/
def Orderly (ledger : Ledger) : List Happening → Prop
  | [] => True
  | happening :: rest => ledger.Permits happening ∧ (ledger.note happening).Orderly rest

/-- The ledger of all that happened. -/
def after (ledger : Ledger) (trace : List Happening) : Ledger := trace.foldl note ledger

/-- What happens last is written down last. -/
theorem after_snoc (ledger : Ledger) (trace : List Happening) (happening : Happening) :
    ledger.after (trace ++ [happening]) = (ledger.after trace).note happening := by
  unfold after
  rw [List.foldl_append]
  rfl

/-- Only what the host does is written down. -/
theorem after_doings (ledger : Ledger) (trace : List Happening) :
    ledger.after trace = ledger.after (trace.filter Happening.byHost) := by
  -- By induction on the trace: what the engine does by itself leaves the ledger as it is.
  induction trace generalizing ledger with
  | nil => rfl
  | cons happening rest ih =>
    show (ledger.note happening).after rest = _
    rw [ih]
    cases happening with
    | quiet => rfl
    | parsed uri previous committed => rfl
    | created text => rfl
    | revised id text changes => rfl
    | opened id uri => rfl
    | closed uri => rfl
    | reported uri version changes outcome => rfl

/-- Whatever happens is allowed by the ledger of what has happened before. -/
def Along (allows : Ledger → Happening → Prop) (ledger : Ledger) : List Happening → Prop
  | [] => True
  | happening :: rest => allows ledger happening ∧ (ledger.note happening).Along allows rest

/-- The last happening is allowed by the ledger of all the others. -/
theorem along_snoc {allows : Ledger → Happening → Prop} {ledger : Ledger}
    {trace : List Happening} {happening : Happening} :
    ledger.Along allows (trace ++ [happening]) ↔
      ledger.Along allows trace ∧ allows (ledger.after trace) happening := by
  -- By induction on the trace, with the ledger free, as the rest starts from the next one.
  induction trace generalizing ledger with
  | nil =>
    show allows ledger happening ∧ True ↔ True ∧ allows ledger happening
    rw [and_comm]
  | cons first rest ih =>
    show allows ledger first ∧ (ledger.note first).Along allows (rest ++ [happening]) ↔
      (allows ledger first ∧ (ledger.note first).Along allows rest) ∧
        allows ((ledger.note first).after rest) happening
    rw [ih, and_assoc]

/-- What is always allowed to the engine leaves the rest to what the host does. -/
theorem along_iff_doings {allows : Ledger → Happening → Prop}
    (quiet : ∀ ledger, allows ledger .quiet)
    (parsed : ∀ ledger uri previous committed, allows ledger (.parsed uri previous committed))
    {ledger : Ledger} {trace : List Happening} :
    ledger.Along allows trace ↔ ledger.Along allows (trace.filter Happening.byHost) := by
  induction trace generalizing ledger with
  | nil => rfl
  | cons happening rest ih =>
    show allows ledger happening ∧ (ledger.note happening).Along allows rest ↔ _
    rw [ih]
    -- Only what the host does survives the filter, and the rest is allowed anyway.
    cases happening with
    | quiet => exact and_iff_right (quiet ledger)
    | parsed uri previous committed => exact and_iff_right (parsed ledger uri previous committed)
    | created text => exact Iff.rfl
    | revised id text changes => exact Iff.rfl
    | opened id uri => exact Iff.rfl
    | closed uri => exact Iff.rfl
    | reported uri version changes outcome => exact Iff.rfl

/-- An orderly host is one that does what is permitted. -/
theorem orderly_iff_along {ledger : Ledger} {trace : List Happening} :
    ledger.Orderly trace ↔ ledger.Along Permits trace := by
  induction trace generalizing ledger with
  | nil => exact Iff.rfl
  | cons happening rest ih => exact and_congr_right fun _ => ih

/-- The last thing that an orderly host does is permitted by all that was done before. -/
theorem orderly_snoc {ledger : Ledger} {trace : List Happening} {happening : Happening} :
    ledger.Orderly (trace ++ [happening]) ↔
      ledger.Orderly trace ∧ (ledger.after trace).Permits happening := by
  rw [orderly_iff_along, orderly_iff_along, along_snoc]

/-- Whether all is in order is a matter of what the host does. -/
theorem orderly_iff_doings {ledger : Ledger} {trace : List Happening} :
    ledger.Orderly trace ↔ ledger.Orderly (trace.filter Happening.byHost) := by
  rw [orderly_iff_along, orderly_iff_along]
  exact along_iff_doings (fun _ => trivial) fun _ _ _ _ => trivial

end Ledger

end LiveTree
