import LiveTree.Proofs.Deliveries

/-!
# Reports that are missed

A host that leaves out a report, or makes it after a later one, is not an orderly host.  Its reports
are true all the same: each tells the changes that led to the version it names.  This file shows what
the kept tree has been told by such a host.  The versions it was told of are ascending, and a parse is
handed the tree only when the last of them is the version to be parsed.  Nothing sees to it that none
is left out on the way: one number records what the tree has been told, and it is the last version.

## Key results

- `Journal.Told`: the invariant of a kept tree, and `Journal.Told.inStep`: a tree that was told of all
  versions is in step
- `kept_tree_as_told`: whatever reports are missed, a kept tree that a parse is handed has been told of
  ascending versions up to the one that is parsed, and if none is missing it can be relied on
- `kept_tree_misses_version`: one of them may be missing, and then the tree cannot be relied on
-/

namespace LiveTree

namespace Journal

/-- The changes that led to a version from the one before it. -/
def changesTo (journal : Journal) : Nat → List Change
  | 0 => []
  | version + 1 => journal.between version (version + 1)

/-- What led to the next version is written down in the revision with its place. -/
theorem changesTo_succ {journal : Journal} {v : Nat} {revision : Revised}
    (h : journal.revisions[v]? = some revision) : journal.changesTo (v + 1) = revision.changes := by
  show journal.between v (v + 1) = revision.changes
  rw [between_succ (Nat.le_refl v) h, between_self, List.nil_append]

/-- A further revision changes nothing about the versions before it. -/
theorem changesTo_push (journal : Journal) (revision : Revised) {v : Nat}
    (h : v ≤ journal.version) : (journal.push revision).changesTo v = journal.changesTo v := by
  cases v with
  | zero => rfl
  | succ v => exact journal.between_push revision v h

/-- From one version to another lead the changes to all versions on the way. -/
theorem between_eq_flatMap {journal : Journal} {u v : Nat} (hle : u ≤ v)
    (reached : v ≤ journal.version) :
    journal.between u v = (List.range' (u + 1) (v - u)).flatMap journal.changesTo := by
  -- By induction on the later version: its own changes come last.
  induction hle with
  | refl =>
    rw [between_self, Nat.sub_self]
    rfl
  | @step v hle ih =>
    have hle : u ≤ v := hle
    have hfound := List.getElem?_eq_getElem (l := journal.revisions) reached
    have hlast : u + 1 + (v - u) = v + 1 := by omega
    rw [between_succ hle hfound, ih (by omega), Nat.succ_sub hle, List.range'_1_concat, hlast,
      List.flatMap_append, List.flatMap_singleton, changesTo_succ hfound]

/-- A kept tree was parsed from the text of version `u`, and the changes that led to the given later
    versions have been applied to it, in ascending order up to version `v`. -/
structure Told (journal : Journal) (previous : PreviousTree) (u : Nat) (versions : List Nat)
    (v : Nat) : Prop where
  text : journal.text? u = some previous.text
  ascending : (u :: versions).Pairwise (· < ·)
  last : (u :: versions).getLast? = some v
  reached : v ≤ journal.version
  changes : previous.changes = versions.flatMap journal.changesTo

namespace Told

variable {journal : Journal} {previous : PreviousTree} {u v : Nat} {versions : List Nat}

/-- The last version is the greatest. -/
theorem le_last (h : journal.Told previous u versions v) {n : Nat} (hn : n ∈ u :: versions) :
    n ≤ v := by
  obtain ⟨earlier, heq⟩ := List.getLast?_eq_some_iff.1 h.last
  have hascending := h.ascending
  rw [heq] at hascending hn
  rcases List.mem_append.1 hn with hn | hn
  · exact Nat.le_of_lt ((List.pairwise_append.1 hascending).2.2 n hn v (List.mem_singleton.2 rfl))
  · exact Nat.le_of_eq (List.mem_singleton.1 hn)

/-- A further revision does not change what a kept tree has been told. -/
theorem push (h : journal.Told previous u versions v) (revision : Revised) :
    (journal.push revision).Told previous u versions v where
  text := by
    have hle := h.le_last List.mem_cons_self
    rw [journal.text?_push revision (Nat.le_trans hle h.reached)]
    exact h.text
  ascending := h.ascending
  last := h.last
  reached := by
    rw [version_push]
    exact Nat.le_succ_of_le h.reached
  changes := by
    have hsame : versions.map (journal.push revision).changesTo = versions.map journal.changesTo :=
      List.map_congr_left fun n hn => journal.changesTo_push revision
        (Nat.le_trans (h.le_last (List.mem_cons_of_mem u hn)) h.reached)
    rw [List.flatMap_def, hsame, ← List.flatMap_def]
    exact h.changes

/-- The changes that led to any later version bring the kept tree to that version, whether or not it is
    the next one. -/
theorem edit (h : journal.Told previous u versions v) {n : Nat} {revision : Revised}
    (later : v < n + 1) (found : journal.revisions[n]? = some revision) :
    journal.Told (previous.edit revision.changes) u (versions ++ [n + 1]) (n + 1) where
  text := h.text
  ascending := by
    rw [← List.cons_append, List.pairwise_append]
    refine ⟨h.ascending, List.pairwise_singleton _ _, fun m hm k hk => ?_⟩
    obtain rfl := List.mem_singleton.1 hk
    exact Nat.lt_of_le_of_lt (h.le_last hm) later
  last := by
    rw [← List.cons_append]
    exact List.getLast?_concat
  reached := (List.getElem?_eq_some_iff.1 found).1
  changes := by
    rw [List.flatMap_append, List.flatMap_singleton, changesTo_succ found, ← h.changes]
    rfl

/-- A tree fresh from the parser has been told nothing. -/
theorem ofParse {doc : Document} (h : journal.Describes doc) (tree : ParseTree) :
    journal.Told (.ofParse doc.text tree) journal.version [] journal.version where
  text := h.text
  ascending := List.pairwise_singleton _ _
  last := rfl
  reached := Nat.le_refl _
  changes := rfl

/-- A tree that has been told of every version up to its own is in step. -/
theorem inStep (h : journal.Told previous u versions v)
    (complete : ∀ n, u < n → n ≤ v → n ∈ versions) : journal.InStep previous u v where
  le := h.le_last List.mem_cons_self
  reached := h.reached
  text := h.text
  changes := by
    obtain ⟨hlater, hascending⟩ := List.pairwise_cons.1 h.ascending
    have hle := h.le_last List.mem_cons_self
    -- Two ascending lists of the same versions are the same list.
    have hmem : ∀ n, n ∈ versions ↔ n ∈ List.range' (u + 1) (v - u) := by
      intro n
      rw [List.mem_range'_1]
      constructor
      · intro hn
        have hlt := hlater n hn
        have hlast := h.le_last (List.mem_cons_of_mem u hn)
        omega
      · intro hn
        exact complete n (by omega) (by omega)
    have hperm := (List.perm_ext_iff_of_nodup (hascending.imp Nat.ne_of_lt)
      (List.nodup_range' 1)).2 hmem
    have hversions : versions = List.range' (u + 1) (v - u) :=
      hperm.eq_of_pairwise (fun a b _ _ hab hba => absurd hba (Nat.lt_asymm hab)) hascending
        (List.pairwise_lt_range' 1)
    rw [h.changes, hversions, between_eq_flatMap hle h.reached]

end Told

end Journal

/-- A run has seen the changes that led to a version reported to a uri. -/
def Heard (trace : List Happening) (uri : String) (version : Nat) (changes : List Change) : Prop :=
  ∃ outcome, .reported uri version changes outcome ∈ trace

/-- What a run has heard stays heard. -/
theorem Heard.snoc {trace : List Happening} {uri : String} {version : Nat} {changes : List Change}
    (h : Heard trace uri version changes) (happening : Happening) :
    Heard (trace ++ [happening]) uri version changes := by
  obtain ⟨outcome, hmem⟩ := h
  exact ⟨outcome, List.mem_append_left _ hmem⟩

/-- An entry heeds what is heard of its document: its kept tree, if there is one, has been told of
    nothing else. -/
def Entry.Heeds (entry : Entry) (journal : Journal) (heard : Nat → List Change → Prop) : Prop :=
  ∀ previous, entry.previous = some previous → ∃ (u : Nat) (versions : List Nat) (v : Nat),
    entry.previousVersion = some (v : Int) ∧ journal.Told previous u versions v ∧
      ∀ n ∈ versions, heard n (journal.changesTo n)

namespace Entry.Heeds

variable {entry : Entry} {journal : Journal} {heard : Nat → List Change → Prop}

/-- Only the kept tree and its version matter for what an entry heeds. -/
theorem congr {later : Entry} (h : entry.Heeds journal heard)
    (previous : later.previous = entry.previous)
    (version : later.previousVersion = entry.previousVersion) : later.Heeds journal heard := by
  unfold Heeds
  rw [previous, version]
  exact h

/-- So the timer of an entry does not matter for it. -/
theorem of_untimed {later : Entry} (h : entry.Heeds journal heard)
    (same : later.untimed = entry.untimed) : later.Heeds journal heard := by
  have hprevious := congrArg Entry.previous same
  have hversion := congrArg Entry.previousVersion same
  exact h.congr hprevious hversion

/-- An entry that heeds what is heard heeds it also when more is heard. -/
theorem mono {more : Nat → List Change → Prop} (h : entry.Heeds journal heard)
    (hmore : ∀ n changes, heard n changes → more n changes) : entry.Heeds journal more := by
  intro previous found
  obtain ⟨u, versions, v, hversion, htold, hheard⟩ := h previous found
  exact ⟨u, versions, v, hversion, htold, fun n hn => hmore n _ (hheard n hn)⟩

/-- An entry heeds the same after a further revision, of which its tree has not been told. -/
theorem push (h : entry.Heeds journal heard) (revision : Revised) :
    entry.Heeds (journal.push revision) heard := by
  intro previous found
  obtain ⟨u, versions, v, hversion, htold, hheard⟩ := h previous found
  refine ⟨u, versions, v, hversion, htold.push revision, fun n hn => ?_⟩
  have hle := htold.le_last (List.mem_cons_of_mem u hn)
  rw [journal.changesTo_push revision (Nat.le_trans hle htold.reached)]
  exact hheard n hn

/-- A true report is dropped if the kept tree is beyond it, and otherwise brings the tree to its
    version. -/
theorem applyChanges (h : entry.Heeds journal heard) (sound : journal.Sound) {n : Nat}
    {revision : Revised} (found : journal.revisions[n]? = some revision)
    (now : heard (n + 1) revision.changes) :
    (entry.applyChanges revision.changes (n + 1 : Nat)).1.Heeds journal heard := by
  intro previous hprevious
  cases hkept : entry.previous with
  | none =>
    rw [Entry.applyChanges_of_none _ _ hkept] at hprevious
    exact nomatch hkept.symm.trans hprevious
  -- Without a kept tree the report is dropped, and there is nothing to heed.
  | some kept =>
    obtain ⟨u, versions, v, hversion, htold, hheard⟩ := h kept hkept
    by_cases hle : ((n + 1 : Nat) : Int) ≤ v
    · rw [Entry.applyChanges_of_reached _ hversion hle] at hprevious ⊢
      obtain rfl := Option.some.inj (hkept.symm.trans hprevious)
      exact ⟨u, versions, v, hversion, htold, hheard⟩
    · -- Whatever lies between the version of the tree and that of the report is passed over.
      have hfits := sound.fits revision (List.mem_of_getElem? found)
      rw [Entry.applyChanges_of_newer hkept hversion hle hfits] at hprevious ⊢
      obtain rfl := Option.some.inj hprevious
      refine ⟨u, versions ++ [n + 1], n + 1, rfl, htold.edit (by omega) found, fun m hm => ?_⟩
      -- What the tree was told before is heard already, and the new version is heard now.
      rcases List.mem_append.1 hm with hm | hm
      · exact hheard m hm
      · obtain rfl := List.mem_singleton.1 hm
        rw [Journal.changesTo_succ found]
        exact now

/-- A parse that succeeds leaves a fresh tree, which has been told nothing; one that fails leaves
    the kept tree. -/
theorem parse {parser : Parser} {s : Services} {doc : Document} {later : Entry}
    {previous : Option PreviousTree} {committed : Bool} (h : entry.Heeds journal heard)
    (describes : journal.Describes doc)
    (parse : Parse parser s doc entry previous committed later) : later.Heeds journal heard := by
  cases parse with
  | commit _ _ _ same =>
    have hprevious := congrArg Entry.previous same
    have hversion := congrArg Entry.previousVersion same
    intro fresh hfresh
    obtain rfl := Option.some.inj (hprevious.symm.trans hfresh)
    refine ⟨_, [], journal.version, ?_, .ofParse describes _, fun n hn => nomatch hn⟩
    exact hversion.trans (congrArg some describes.version)
  | fail counted _ _ _ same =>
    have hprevious := congrArg Entry.previous same
    have hversion := congrArg Entry.previousVersion same
    exact h.congr hprevious hversion

end Entry.Heeds

/-- What a host may do that makes no false report.  A report tells the changes that led the open
    document to some version; which of them are reported, how often and in which order is left open.
    A revision goes through texts that fit into memory. -/
def Ledger.Admits (ledger : Ledger) : Happening → Prop
  | .reported uri version changes _ =>
    ∀ place journal, ledger.places.find? uri = some place →
      ledger.journals[place.document]? = some journal →
        ∃ n revision, version = (n + 1 : Nat) ∧ journal.revisions[n]? = some revision ∧
          revision.changes = changes
  | .revised id _ changes => ledger.RoomFor id changes
  | _ => True

namespace Workspace

variable {parser : Parser} {ledger : Ledger} {w later : Workspace} {happening : Happening}
  {trace : List Happening}

/-- Every entry that is open heeds what was heard under its uri. -/
def AllHeed (ledger : Ledger) (trace : List Happening) (w : Workspace) : Prop :=
  ∀ {uri : String} {entry : Entry}, w.entries.find? uri = some entry →
    ∃ journal, ledger.journals[entry.document]? = some journal ∧
      entry.Heeds journal (Heard trace uri)

/-- A step that is admitted leaves no entry with a tree that was told anything unheard of. -/
theorem Step.allHeed (step : Step parser w happening later) (admits : ledger.Admits happening)
    (records : ledger.Records w) (knows : ledger.Knows w) (heed : AllHeed ledger trace w) :
    AllHeed (ledger.note happening) (trace ++ [happening]) later := by
  intro uri entry found
  have hmore := fun n changes (h : Heard trace uri n changes) => h.snoc happening
  -- What the step has done to the entry that is there now.
  cases step.fate found with
  | spared elsewhere hfound same =>
    obtain ⟨journal, hjournal, hheeds⟩ := heed hfound
    obtain ⟨next, hnext, hgrown⟩ := Ledger.note_journal hjournal happening
    refine ⟨next, by rw [Entry.document_of_untimed same]; exact hnext, ?_⟩
    rcases hgrown with rfl | ⟨revision, rfl⟩
    · exact (hheeds.mono hmore).of_untimed same
    · exact ((hheeds.mono hmore).push revision).of_untimed same
  | @opened id _ doc hdoc key same =>
    obtain ⟨journal, hjournal, -⟩ := records.documents hdoc
    have hdocument := congrArg Entry.document same
    have hprevious := congrArg Entry.previous same
    refine ⟨journal, by rw [show entry.document = id from hdocument]; exact hjournal, ?_⟩
    intro previous hkept
    exact nomatch hprevious.symm.trans hkept
  | @reported _ earlier version changes hfound same =>
    obtain ⟨journal, hjournal, hheeds⟩ := heed hfound
    obtain ⟨place, hplace, hdocument⟩ := knows hfound
    obtain ⟨n, revision, rfl, hrevision, rfl⟩ :=
      admits place journal hplace (by rw [hdocument]; exact hjournal)
    refine ⟨journal, ?_, ?_⟩
    · rw [Ledger.note_reported_journals, Entry.document_of_untimed same,
        Entry.applyChanges_document]
      exact hjournal
    · refine Entry.Heeds.of_untimed ?_ same
      refine (hheeds.mono hmore).applyChanges (records.sound hjournal) hrevision ?_
      exact ⟨_, List.mem_append_right trace List.mem_cons_self⟩
  | parsed hfound parse =>
    obtain ⟨hentry, hdoc⟩ := open?_eq_some.1 hfound
    obtain ⟨journal, hjournal, hheeds⟩ := heed hentry
    obtain ⟨own, hown, hdescribes⟩ := records.documents hdoc
    obtain rfl := Option.some.inj (hown.symm.trans hjournal)
    refine ⟨own, ?_, (hheeds.mono hmore).parse hdescribes parse⟩
    rw [parse.document]
    exact hjournal

variable {config : Config} {dataHome : String} {libraries : Libraries} {runtime : Bool}

/-- After a run without false reports the ledger has the records of the workspace, and every entry
    heeds what was heard under its uri. -/
theorem Run.allHeed (run : Run parser (create config dataHome libraries runtime) trace w)
    (admitted : Ledger.Along Ledger.Admits {} trace) :
    (Ledger.after {} trace).Records w ∧ (Ledger.after {} trace).Knows w ∧
      AllHeed (Ledger.after {} trace) trace w := by
  -- By induction on the run: the three facts are kept together, as each step needs the other two.
  induction run with
  | nil =>
    exact ⟨Ledger.records_create config dataHome libraries runtime, fun found => (nomatch found),
      fun found => (nomatch found)⟩
  | @snoc trace happening _ _ _ step ih =>
    obtain ⟨hbefore, hadmits⟩ := Ledger.along_snoc.1 admitted
    obtain ⟨hrecords, hknows, hheed⟩ := ih hbefore
    have hroom : ∀ id text changes, happening = .revised id text changes →
        (Ledger.after {} trace).RoomFor id changes := by
      rintro id text changes rfl
      exact hadmits
    rw [Ledger.after_snoc]
    exact ⟨step.records hroom hrecords, step.knows hknows,
      step.allHeed hadmits hrecords hknows hheed⟩

/-- After any run in which the host makes no false report, a parse that is handed a kept tree is handed
    one that was parsed from some earlier text of the document and told of ascending versions, each of
    which was reported, up to the very version that is parsed.  If it was told of all versions since
    its own, the changes in it lead to the text that is parsed.  So an edit makes the next parse start
    from scratch unless it is reported, but not if another one after it is. -/
theorem kept_tree_as_told (run : Run parser (create config dataHome libraries runtime) trace w)
    (admitted : Ledger.Along Ledger.Admits {} trace) (uri : String) (previous : PreviousTree) :
    (∀ entry doc, w.open? uri = some (entry, doc) →
      (entry.beginParse doc.version).2 = some previous →
      ∃ journal u versions, (Ledger.after {} trace).journals[entry.document]? = some journal ∧
        doc.version = journal.version ∧ journal.text? journal.version = some doc.text ∧
        journal.text? u = some previous.text ∧
        (u :: versions).Pairwise (· < ·) ∧ (u :: versions).getLast? = some journal.version ∧
        (∀ v ∈ versions, Heard trace uri v (journal.changesTo v)) ∧
        previous.changes = versions.flatMap journal.changesTo ∧
        ((∀ v, u < v → v ≤ journal.version → v ∈ versions) →
          previous.changes = journal.between u journal.version ∧
          previous.text? = some doc.text)) ∧
    (∀ committed later, Step parser w (.parsed uri (some previous) committed) later →
      ∃ entry doc, w.open? uri = some (entry, doc) ∧
        (entry.beginParse doc.version).2 = some previous) := by
  refine ⟨?_, fun committed later step => step.handed⟩
  intro entry doc found handed
  obtain ⟨hentry, hdoc⟩ := open?_eq_some.1 found
  obtain ⟨hrecords, -, hheed⟩ := run.allHeed admitted
  obtain ⟨journal, hjournal, hheeds⟩ := hheed hentry
  obtain ⟨own, hown, hdescribes⟩ := hrecords.documents hdoc
  obtain rfl := Option.some.inj (hown.symm.trans hjournal)
  obtain ⟨hprevious, hversion⟩ := beginParse_eq_some handed
  obtain ⟨u, versions, v, hreached, htold, hheard⟩ := hheeds previous hprevious
  -- A tree is handed out only if its version is that of the document.
  obtain rfl : v = own.version := by
    have hsame := Option.some.inj (hversion.symm.trans hreached)
    have hdescribed := hdescribes.version
    omega
  refine ⟨own, u, versions, hjournal, hdescribes.version, hdescribes.text, htold.text,
    htold.ascending, htold.last, hheard, htold.changes, fun complete => ?_⟩
  have hstep := htold.inStep complete
  exact ⟨hstep.changes, hstep.text?_eq hdescribes.sound hdescribes.text⟩

/-- A document is edited twice, and only the second edit is reported. -/
def skippedReport : List Event := [
  .action (.create "file:///a.js" "javascript" ['a', ';']),
  .action (.openDocument 0),
  .action (.treeNow "file:///a.js"),
  .action (.edit 0 [.insert 0 ['b']]),
  .action (.edit 0 [.insert 2 ['c']]),
  .action (.report "file:///a.js" 2 [⟨2, 0, ['c'], ⟨0, 2⟩, ⟨0, 2⟩⟩])]

/-- What the host reports here is true. -/
theorem skippedReport_admitted : Ledger.Along Ledger.Admits {}
    ((create {} "/home" {} false).doingsAlong (.ofRecordings [] none) skippedReport) := by
  refine ⟨trivial, trivial, ?_, ?_, ?_, trivial⟩
  · rintro journal text ⟨⟩ ⟨⟩
    exact ⟨by decide, (by decide : _ < _)⟩
  · rintro journal text ⟨⟩ ⟨⟩
    exact ⟨by decide, (by decide : _ < _)⟩
  · rintro place journal ⟨⟩ ⟨⟩
    exact ⟨1, _, rfl, rfl, rfl⟩

/-- The run of these events, in which all reports are true. -/
theorem skippedReport_run : ∃ trace,
    Run (.ofRecordings [] none) (create {} "/home" {} false) trace
      ((create {} "/home" {} false).undergo (.ofRecordings [] none) skippedReport) ∧
    Ledger.Along Ledger.Admits {} trace ∧
    Ledger.after {} trace = Ledger.after {}
      ((create {} "/home" {} false).doingsAlong (.ofRecordings [] none) skippedReport) := by
  obtain ⟨trace, run, hdoings⟩ := undergo_reaches (.ofRecordings [] none)
    (create {} "/home" {} false) skippedReport
  refine ⟨trace, run, ?_, ?_⟩
  · rw [Ledger.along_iff_doings (fun _ => trivial) fun _ _ _ _ => trivial, hdoings]
    exact skippedReport_admitted
  · rw [Ledger.after_doings, hdoings]

/-- A parse at version 2 is handed a tree that was told of that version alone. -/
theorem kept_tree_as_told_skipped :
    ∃ trace entry doc previous,
      Run (.ofRecordings [] none) (create {} "/home" {} false) trace
        ((create {} "/home" {} false).undergo (.ofRecordings [] none) skippedReport) ∧
      Ledger.Along Ledger.Admits {} trace ∧
      ((create {} "/home" {} false).undergo (.ofRecordings [] none) skippedReport).open?
        "file:///a.js" = some (entry, doc) ∧
      (entry.beginParse doc.version).2 = some previous ∧ previous.changes.length = 1 ∧
      ∃ journal u versions, (Ledger.after {} trace).journals[entry.document]? = some journal ∧
        doc.version = journal.version ∧ journal.text? u = some previous.text ∧
        (u :: versions).Pairwise (· < ·) ∧ (u :: versions).getLast? = some journal.version ∧
        (∀ v ∈ versions, Heard trace "file:///a.js" v (journal.changesTo v)) ∧
        previous.changes = versions.flatMap journal.changesTo := by
  obtain ⟨trace, run, hadmitted, -⟩ := skippedReport_run
  obtain ⟨hrely, -⟩ := kept_tree_as_told run hadmitted "file:///a.js" _
  obtain ⟨journal, u, versions, hjournal, hversion, -, htext, hascending, hlast, hheard, hchanges,
    -⟩ := hrely _ _ rfl rfl
  exact ⟨trace, _, _, _, run, hadmitted, rfl, rfl, rfl, journal, u, versions, hjournal, hversion,
    htext, hascending, hlast, hheard, hchanges⟩

/-- The changes of version 1 are missing from the tree that a parse at version 2 is handed, and those
    that it was told lead to another text. -/
theorem kept_tree_misses_version :
    ∃ trace entry doc previous journal,
      Run (.ofRecordings [] none) (create {} "/home" {} false) trace
        ((create {} "/home" {} false).undergo (.ofRecordings [] none) skippedReport) ∧
      Ledger.Along Ledger.Admits {} trace ∧
      ((create {} "/home" {} false).undergo (.ofRecordings [] none) skippedReport).open?
        "file:///a.js" = some (entry, doc) ∧
      (entry.beginParse doc.version).2 = some previous ∧
      (Ledger.after {} trace).journals[entry.document]? = some journal ∧
      (∀ u, journal.text? u = some previous.text →
        previous.changes ≠ journal.between u journal.version) ∧
      previous.text? ≠ some doc.text := by
  obtain ⟨trace, run, hadmitted, hledger⟩ := skippedReport_run
  refine ⟨trace, _, _, _, ⟨['a', ';'], _⟩, run, hadmitted, rfl, rfl, by rw [hledger]; rfl, ?_,
    by decide⟩
  intro u htext
  -- The tree can only have been parsed from the first text.
  match u with
  | 0 => decide
  | 1 => exact nomatch htext
  | 2 => exact nomatch htext
  | u + 3 => exact nomatch htext

end Workspace

end LiveTree
