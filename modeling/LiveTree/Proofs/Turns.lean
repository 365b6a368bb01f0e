import LiveTree.Proofs.Outcomes
import LiveTree.Proofs.Slots

/-!
# What an operation does to an entry

The operations of the services are handed one entry and give it back changed.  Apart from the entry's
timer there are only four things that they can do to it: leave it alone, apply a report of changes,
commit the tree of a parse, or note that a parse failed.  The lemmas of this file say which of them
each operation does; everything about trees follows from these, without looking into the operations
again.

Timers are left out of account: `Entry.untimed` forgets them.

## Key results

- `Services.treeNow_turn`, `Services.reparse_turn`, `Services.fire_turn`, `Services.verify_turn`: an
  operation that is after a tree rests or parses
- `Services.report_untimed`: a report does to the entry what `Entry.applyChanges` does
- `Services.currentTree?_of_treeNow`, `Services.currentTree?_of_reparse`: a tree that is served is the
  current one of the entry afterwards
-/

namespace LiveTree

/-- At whatever pace, a parser gives no answers but its own. -/
theorem Parser.of_paced {parser : Parser} {pace : Pace} {language : String} {text : Text}
    {previous : Option PreviousTree} {limit : Nat} {source : ParseTree}
    (h : parser.paced pace language text previous limit = some source) :
    parser language text previous limit = some source := by
  unfold Parser.paced at h
  split at h
  · exact h
  · exact nomatch h

/-- At a steady pace, a parser gives all its answers. -/
theorem Parser.paced_steady (parser : Parser) : parser.paced .steady = parser := rfl

/-- A parse has an answer only if the grammar is accepted and the parser has one. -/
theorem Pool.attempt_eq_ok {parser : Parser} {grammar : Grammar} {text : Text}
    {previous : Option PreviousTree} {limit : Nat} {source : ParseTree} :
    Pool.attempt parser grammar text previous limit = .ok source ↔
      grammar.rejection = none ∧ parser grammar.language text previous limit = some source := by
  unfold Pool.attempt
  -- A grammar that is rejected is never handed to the parser.
  cases grammar.rejection with
  | some reason => simp
  | none =>
    cases parser grammar.language text previous limit with
    | none => simp
    | some tree => simp

/-- An entry without regard to its timer. -/
def Entry.untimed (entry : Entry) : Entry := { entry with timer := {} }

/-- Entries that differ in nothing but their timers keep the same document. -/
theorem Entry.document_of_untimed {entry later : Entry} (h : later.untimed = entry.untimed) :
    later.document = entry.document := by
  have := congrArg Entry.document h
  exact this

/-- Without a kept tree there is nothing to bring up to date. -/
theorem Entry.applyChanges_of_none {entry : Entry} (changes : List Change) (version : Int)
    (h : entry.previous = none) :
    entry.applyChanges changes version = (entry, .dropped changes.length) := by
  unfold Entry.applyChanges
  rw [h]

/-- A report that the kept tree has already reached is dropped. -/
theorem Entry.applyChanges_of_reached {entry : Entry} {version reached : Int}
    (changes : List Change) (h : entry.previousVersion = some reached) (hle : version ≤ reached) :
    entry.applyChanges changes version = (entry, .dropped changes.length) := by
  unfold Entry.applyChanges
  cases entry.previous with
  | none => rfl
  | some previous =>
    dsimp only
    rw [h, Option.any_some, if_pos (by simpa using hle)]

/-- A report of a later version, all in words, is applied. -/
theorem Entry.applyChanges_of_newer {entry : Entry} {previous : PreviousTree}
    {version reached : Int} {changes : List Change} (h : entry.previous = some previous)
    (hreached : entry.previousVersion = some reached) (hnewer : ¬ version ≤ reached)
    (fits : ∀ change ∈ changes, change.Fits) :
    entry.applyChanges changes version =
      ({ entry with
          previous := some (previous.edit changes)
          previousVersion := some version
          pendingEdits := entry.pendingEdits + changes.length
          consecutiveFailures := 0
          state := .stale },
        .applied changes.length) := by
  -- All the changes fit, so the fold does not stop halfway.
  have hfits : changes.any (¬ ·.Fits) = false := by
    rw [List.any_eq_false]
    intro change hchange
    simpa using fits change hchange
  unfold Entry.applyChanges
  rw [h]
  dsimp only
  rw [hreached, Option.any_some, if_neg (by simpa using hnewer), hfits, if_neg (by simp)]

/-- A report reaches the kept tree alone, never the committed one. -/
theorem Entry.applyChanges_committed (entry : Entry) (changes : List Change) (version : Int) :
    (entry.applyChanges changes version).1.committed = entry.committed := by
  unfold Entry.applyChanges
  split
  -- Every exit of a report rebuilds the entry with the trees it was committed with.
  · rfl
  · split
    · rfl
    · split <;> rfl

/-- A report adds changes to the kept tree but leaves what it was parsed from. -/
theorem Entry.applyChanges_previous {entry : Entry} {changes : List Change} {version : Int}
    {next : PreviousTree} (h : (entry.applyChanges changes version).1.previous = some next) :
    ∃ previous, entry.previous = some previous ∧ next.text = previous.text ∧
      next.tree = previous.tree := by
  cases hprevious : entry.previous with
  | none =>
    rw [Entry.applyChanges_of_none _ _ hprevious, hprevious] at h
    exact nomatch h
  | some previous =>
    -- With a kept tree, the three exits are a late report, a stopped one and one that is applied.
    unfold Entry.applyChanges at h
    rw [hprevious] at h
    dsimp only at h
    refine ⟨previous, rfl, ?_⟩
    split at h
    · obtain rfl := Option.some.inj (hprevious.symm.trans h)
      exact ⟨rfl, rfl⟩
    · split at h
      · obtain rfl := Option.some.inj h
        exact ⟨rfl, rfl⟩
      · obtain rfl := Option.some.inj h
        exact ⟨rfl, rfl⟩

/-- A report leaves the entry with its document. -/
theorem Entry.applyChanges_document (entry : Entry) (changes : List Change) (version : Int) :
    (entry.applyChanges changes version).1.document = entry.document := by
  unfold Entry.applyChanges
  split
  · rfl
  · split
    · rfl
    · split <;> rfl

/-- A parse of an entry's document, made at some pace and with the kept tree `previous`: whether it
    ends with a tree, and the entry afterwards, which is determined but for its timer. -/
inductive Parse (parser : Parser) (s : Services) (doc : Document) (entry : Entry) :
    Option PreviousTree → Bool → Entry → Prop where
  /-- The parser answers, and its answer is committed. -/
  | commit {grammar : Grammar} {source : ParseTree} {later : Entry} {pace : Pace}
      (outdated : entry.currentTree? doc.version = none)
      (loaded : s.registry.loaded? doc.language = some grammar)
      (parsed : Pool.attempt (parser.paced pace) grammar doc.text (entry.beginParse doc.version).2
        s.config.parseTimeoutMs = .ok source)
      (same : later.untimed = (((entry.beginParse doc.version).1.commit grammar.language doc.version
        doc.text source).1).untimed) :
      Parse parser s doc entry (entry.beginParse doc.version).2 true later
  /-- There is no answer; a timer that wanted one counts the failure. -/
  | fail {grammar : Grammar} {failure : ParseFailure} {later : Entry} {pace : Pace} (counted : Nat)
      (outdated : entry.currentTree? doc.version = none)
      (loaded : s.registry.loaded? doc.language = some grammar)
      (failed : Pool.attempt (parser.paced pace) grammar doc.text (entry.beginParse doc.version).2
        s.config.parseTimeoutMs = .error failure)
      (same : later.untimed = { (entry.beginParse doc.version).1.fail.untimed with
        consecutiveFailures := entry.consecutiveFailures + counted }) :
      Parse parser s doc entry (entry.beginParse doc.version).2 false later

/-- A parse does not determine the timer of the entry afterwards. -/
theorem Parse.of_untimed {parser : Parser} {s : Services} {doc : Document}
    {entry later last : Entry} {previous : Option PreviousTree} {committed : Bool}
    (parse : Parse parser s doc entry previous committed later)
    (h : last.untimed = later.untimed) : Parse parser s doc entry previous committed last := by
  cases parse with
  | commit outdated loaded parsed same => exact .commit outdated loaded parsed (h.trans same)
  | fail counted outdated loaded failed same =>
    exact .fail counted outdated loaded failed (h.trans same)

/-- The kept tree that a parse is helped by is the one that is handed out for the document's version. -/
theorem Parse.previous_eq {parser : Parser} {s : Services} {doc : Document} {entry later : Entry}
    {previous : Option PreviousTree} {committed : Bool}
    (parse : Parse parser s doc entry previous committed later) :
    (entry.beginParse doc.version).2 = previous := by
  cases parse with
  | commit => rfl
  | fail => rfl

/-- A parse leaves the entry with its document. -/
theorem Parse.document {parser : Parser} {s : Services} {doc : Document} {entry later : Entry}
    {previous : Option PreviousTree} {committed : Bool}
    (parse : Parse parser s doc entry previous committed later) :
    later.document = entry.document := by
  cases parse with
  | commit _ _ _ same =>
    have := congrArg Entry.document same
    exact this
  | fail _ _ _ _ same =>
    have := congrArg Entry.document same
    exact this

/-- What an operation that is after a tree can come to: nothing happens to the entry but for its
    timer, or its document is parsed. -/
inductive Turn (parser : Parser) (s : Services) (doc : Document) (entry later : Entry) : Prop where
  | rest (same : later.untimed = entry.untimed)
  | parse {previous : Option PreviousTree} {committed : Bool}
      (parse : Parse parser s doc entry previous committed later)

/-- An operation that is after a tree leaves the entry with its document. -/
theorem Turn.document {parser : Parser} {s : Services} {doc : Document} {entry later : Entry}
    (turn : Turn parser s doc entry later) : later.document = entry.document := by
  cases turn with
  | rest same => exact Entry.document_of_untimed same
  | parse parse => exact parse.document

/-- What an operation comes to does not depend on the timer that the entry had. -/
theorem Turn.of_timer {parser : Parser} {s : Services} {doc : Document} {entry later : Entry}
    {timer : Timer} (h : Turn parser s doc { entry with timer := timer } later) :
    Turn parser s doc entry later := by
  cases h with
  | rest same => exact .rest same
  | parse parse =>
    cases parse with
    | commit outdated loaded parsed same => exact .parse (.commit outdated loaded parsed same)
    | fail counted outdated loaded failed same =>
      exact .parse (.fail counted outdated loaded failed same)

/-- What can come of services: the settings stay, and the registry leads on. -/
structure Services.Leads (s later : Services) : Prop where
  config : later.config = s.config
  registry : s.registry.Leads later.registry

namespace Services

/-- Services that agree on their settings and their registry lead on. -/
theorem Leads.of_eq {s later : Services} (config : later.config = s.config)
    (registry : later.registry = s.registry) : s.Leads later :=
  ⟨config, by rw [registry]; exact .refl _⟩

/-- Nothing need happen for services to lead on. -/
theorem Leads.refl (s : Services) : s.Leads s := .of_eq rfl rfl

/-- Leading on goes step by step, as the registry does. -/
theorem Leads.trans {a b c : Services} (hab : a.Leads b) (hbc : b.Leads c) : a.Leads c :=
  ⟨by rw [hbc.config, hab.config], hab.registry.trans hbc.registry⟩

/-- The meters are neither settings nor registry. -/
theorem measure_leads (s : Services) (f : Metrics → Metrics) : s.Leads (s.measure f) :=
  .of_eq rfl rfl

/-- What an operation came to stays so when the services move on and a timer is set. -/
theorem Leads.turn {parser : Parser} {s later : Services} {doc : Document}
    {entry next last : Entry} (leads : s.Leads later) (h : Turn parser s doc entry next)
    (untimed : last.untimed = next.untimed) : Turn parser later doc entry last := by
  cases h with
  | rest same => exact .rest (untimed.trans same)
  | parse parse =>
    cases parse with
    | commit outdated loaded parsed same =>
      exact .parse (.commit outdated (leads.registry.loaded _ _ loaded)
        (by rw [leads.config]; exact parsed) (untimed.trans same))
    | fail counted outdated loaded failed same =>
      exact .parse (.fail counted outdated (leads.registry.loaded _ _ loaded)
        (by rw [leads.config]; exact failed) (untimed.trans same))

/-! ## Timers -/

/-- Cancelling a timer moves neither the settings nor the registry. -/
theorem cancelTimer_leads (s : Services) (entry : Entry) : s.Leads (s.cancelTimer entry).1 := by
  unfold cancelTimer
  split <;> exact .of_eq rfl rfl

/-- Cancelling changes nothing of an entry but its timer, whether it waits or not. -/
theorem cancelTimer_entry (s : Services) (entry : Entry) :
    (s.cancelTimer entry).2.1 = { entry with timer := entry.timer.cancelled } := by
  unfold cancelTimer
  split <;> rfl

/-- A cancellation starts a generation in which the timer waits for nothing. -/
theorem cancelTimer_timer (s : Services) (entry : Entry) :
    (s.cancelTimer entry).2.1.timer = entry.timer.cancelled :=
  congrArg Entry.timer (s.cancelTimer_entry entry)

/-- Cancelling a timer touches nothing of the entry but the timer. -/
@[simp] theorem cancelTimer_untimed (s : Services) (entry : Entry) :
    (s.cancelTimer entry).2.1.untimed = entry.untimed := by
  rw [cancelTimer_entry]
  rfl

/-- Scheduling a parse moves neither the settings nor the registry. -/
theorem schedule_leads (s : Services) (uri : String) (entry : Entry) (delay : Nat) :
    s.Leads (s.schedule uri entry delay).1 := by
  unfold schedule
  split
  · refine (s.cancelTimer_leads entry).trans ?_
    dsimp only
    split <;> exact .of_eq rfl rfl
  · exact .refl s

/-- Scheduling a parse touches nothing of the entry but the timer. -/
@[simp] theorem schedule_untimed (s : Services) (uri : String) (entry : Entry) (delay : Nat) :
    (s.schedule uri entry delay).2.untimed = entry.untimed := by
  unfold schedule
  split
  · exact s.cancelTimer_untimed entry
  · rfl

/-! ## Grammars -/

/-- Looking for a grammar may load it, and the registry leads on. -/
theorem grammarNow_leads (s : Services) (language : String) :
    s.Leads (s.grammarNow language).1 := by
  unfold grammarNow
  split
  · exact .refl s
  · split
    · exact ⟨rfl, s.registry.loadBlocking_leads s.libraries language⟩
    · exact .refl s

/-- A grammar that was found on the spot is in its slot. -/
theorem loaded?_of_grammarNow {s : Services} {language : String} {grammar : Grammar}
    (h : (s.grammarNow language).2 = .ok grammar) :
    (s.grammarNow language).1.registry.loaded? language = some grammar := by
  unfold grammarNow at h ⊢
  -- The slot is read first; only a supported language without a grammar is then loaded.
  cases hloaded : s.registry.loaded? language with
  | some found =>
    rw [hloaded] at h
    obtain rfl := Except.ok.inj h
    exact hloaded
  | none =>
    rw [hloaded] at h
    dsimp only at h ⊢
    by_cases supported : s.registry.isSupported language = true
    · rw [if_pos supported] at h ⊢
      refine Registry.loaded?_of_loadBlocking ?_
      dsimp only at h
      split at h
      · next found hblocking =>
        obtain rfl := Except.ok.inj h
        exact hblocking
      · exact nomatch h
      · exact nomatch h
    · rw [if_neg supported] at h
      exact nomatch h

/-- Where there is a grammar, finding it changes nothing. -/
theorem grammarNow_of_loaded {s : Services} {language : String} {grammar : Grammar}
    (h : s.registry.loaded? language = some grammar) : s.grammarNow language = (s, .ok grammar) := by
  unfold grammarNow
  rw [h]

/-! ## Parses -/

/-- A parse moves the meters and what is published, not the settings or the registry. -/
theorem parseEntry_leads (s : Services) (parser : Parser) (doc : Document) (entry : Entry)
    (grammar : Grammar) : s.Leads (s.parseEntry parser doc entry grammar).1 := by
  unfold parseEntry
  dsimp only
  split <;> exact .of_eq rfl rfl

/-- A parse with an answer commits it and serves the committed tree. -/
theorem parseEntry_of_ok {s : Services} {parser : Parser} {doc : Document} {entry : Entry}
    {grammar : Grammar} {source : ParseTree}
    (h : Pool.attempt (parser.paced s.pace) grammar doc.text (entry.beginParse doc.version).2
      s.config.parseTimeoutMs = .ok source) :
    (s.parseEntry parser doc entry grammar).2 =
      (((entry.beginParse doc.version).1.commit grammar.language doc.version doc.text source).1,
        .ok (.ofParse grammar.language doc.version source)) := by
  unfold parseEntry parseText Pool.parse
  dsimp only
  rw [h]
  rfl

/-- A parse without an answer leaves the entry with the trees it had. -/
theorem parseEntry_of_error {s : Services} {parser : Parser} {doc : Document} {entry : Entry}
    {grammar : Grammar} {failure : ParseFailure}
    (h : Pool.attempt (parser.paced s.pace) grammar doc.text (entry.beginParse doc.version).2
      s.config.parseTimeoutMs = .error failure) :
    (s.parseEntry parser doc entry grammar).2 =
      ((entry.beginParse doc.version).1.fail, .error (failure.toError doc.uri)) := by
  unfold parseEntry parseText Pool.parse
  dsimp only
  rw [h]

/-- Parsing the document of an entry that is not up to date. -/
theorem parseEntry_turn {s : Services} (parser : Parser) {doc : Document} {entry : Entry}
    {grammar : Grammar} (outdated : entry.currentTree? doc.version = none)
    (loaded : s.registry.loaded? doc.language = some grammar) :
    Turn parser (s.parseEntry parser doc entry grammar).1 doc entry
      (s.parseEntry parser doc entry grammar).2.1 := by
  have hleads := s.parseEntry_leads parser doc entry grammar
  -- The grammar is in its slot still, since the parse leads on.
  have hloaded := hleads.registry.loaded doc.language grammar loaded
  cases hattempt : Pool.attempt (parser.paced s.pace) grammar doc.text (entry.beginParse doc.version).2
      s.config.parseTimeoutMs with
  | ok source =>
    refine .parse (.commit outdated hloaded (by rw [hleads.config]; exact hattempt) ?_)
    rw [parseEntry_of_ok hattempt]
  | error failure =>
    -- A parse outside a timer counts no failure.
    refine .parse (.fail 0 outdated hloaded (by rw [hleads.config]; exact hattempt) ?_)
    rw [parseEntry_of_error hattempt]
    rfl

/-- The tree that a parse serves is the current one of the entry afterwards. -/
theorem currentTree?_of_parseEntry {s : Services} {parser : Parser} {doc : Document} {entry : Entry}
    {grammar : Grammar} {tree : SyntaxTree}
    (h : (s.parseEntry parser doc entry grammar).2.2 = .ok tree) :
    (s.parseEntry parser doc entry grammar).2.1.currentTree? doc.version = some tree := by
  cases hattempt : Pool.attempt (parser.paced s.pace) grammar doc.text (entry.beginParse doc.version).2
      s.config.parseTimeoutMs with
  | ok source =>
    rw [parseEntry_of_ok hattempt] at h ⊢
    obtain rfl := Except.ok.inj h
    exact if_pos rfl
  -- A failed parse serves no tree.
  | error failure =>
    rw [parseEntry_of_error hattempt] at h
    exact nomatch h

/-! ## Trees on demand -/

/-- A tree on demand: the cached one, or after cancelling the timer and finding the grammar the one
    of a parse. -/
theorem treeNow_of_outdated {s : Services} (parser : Parser) {doc : Document} {entry : Entry}
    (h : entry.currentTree? doc.version = none) :
    s.treeNow parser doc entry =
      match (s.cancelTimer entry).1.grammarNow doc.language with
      | (later, .error error) => (later, (s.cancelTimer entry).2.1, .error error)
      | (later, .ok grammar) => later.parseEntry parser doc (s.cancelTimer entry).2.1 grammar := by
  unfold treeNow
  rewrite [h]
  rfl

/-- Where the committed tree is current, it is served and nothing happens. -/
theorem treeNow_of_current {s : Services} (parser : Parser) {doc : Document} {entry : Entry}
    {tree : SyntaxTree} (h : entry.currentTree? doc.version = some tree) :
    s.treeNow parser doc entry = (s, entry, .ok tree) := by
  unfold treeNow
  rw [h]

/-- A tree on demand may load a grammar, and the registry leads on. -/
theorem treeNow_leads (s : Services) (parser : Parser) (doc : Document) (entry : Entry) :
    s.Leads (s.treeNow parser doc entry).1 := by
  cases hcurrent : entry.currentTree? doc.version with
  | some tree => rw [treeNow_of_current parser hcurrent]; exact .refl s
  | none =>
    rw [treeNow_of_outdated parser hcurrent]
    have hgrammar := (s.cancelTimer_leads entry).trans
      ((s.cancelTimer entry).1.grammarNow_leads doc.language)
    split
    · next later error h => rw [h] at hgrammar; exact hgrammar
    · next later grammar h =>
      rw [h] at hgrammar
      exact hgrammar.trans (later.parseEntry_leads parser doc _ grammar)

/-- A tree on demand lets the entry rest, or parses its document. -/
theorem treeNow_turn (s : Services) (parser : Parser) (doc : Document) (entry : Entry) :
    Turn parser (s.treeNow parser doc entry).1 doc entry (s.treeNow parser doc entry).2.1 := by
  cases hcurrent : entry.currentTree? doc.version with
  | some tree => rw [treeNow_of_current parser hcurrent]; exact .rest rfl
  | none =>
    rw [treeNow_of_outdated parser hcurrent]
    split
    -- No grammar: all that happened is that the timer was cancelled.
    · exact .rest (s.cancelTimer_untimed entry)
    · next later grammar h =>
      -- The parse starts from the entry without its timer, which a turn does not see.
      have hloaded : later.registry.loaded? doc.language = some grammar := by
        have := loaded?_of_grammarNow (by rw [h])
        rwa [h] at this
      rw [s.cancelTimer_entry entry]
      exact .of_timer (parseEntry_turn parser hcurrent hloaded)

/-- A tree that is served on demand is the current one of the entry afterwards. -/
theorem currentTree?_of_treeNow {s : Services} {parser : Parser} {doc : Document} {entry : Entry}
    {tree : SyntaxTree} (h : (s.treeNow parser doc entry).2.2 = .ok tree) :
    (s.treeNow parser doc entry).2.1.currentTree? doc.version = some tree := by
  cases hcurrent : entry.currentTree? doc.version with
  | some cached =>
    rw [treeNow_of_current parser hcurrent] at h ⊢
    obtain rfl := Except.ok.inj h
    exact hcurrent
  | none =>
    rw [treeNow_of_outdated parser hcurrent] at h ⊢
    cases hgrammar : (s.cancelTimer entry).1.grammarNow doc.language with
    | mk later found =>
      rw [hgrammar] at h
      cases found with
      | error error => exact nomatch h
      | ok grammar => exact currentTree?_of_parseEntry h

/-! ## Scheduled parses -/

/-- Where the committed tree is current, the scheduled path serves it and nothing happens. -/
theorem reparse_of_current {s : Services} (parser : Parser) {doc : Document} {entry : Entry}
    {tree : SyntaxTree} (h : entry.currentTree? doc.version = some tree) :
    s.reparse parser doc entry = (s, entry, .ok (some tree)) := by
  unfold reparse
  rw [h]

/-- With a grammar at hand the scheduled path parses. -/
theorem reparse_of_loaded {s : Services} (parser : Parser) {doc : Document} {entry : Entry}
    {grammar : Grammar} (outdated : entry.currentTree? doc.version = none)
    (loaded : s.registry.loaded? doc.language = some grammar) :
    s.reparse parser doc entry =
      ((s.parseEntry parser doc entry grammar).1, (s.parseEntry parser doc entry grammar).2.1,
        (s.parseEntry parser doc entry grammar).2.2.map some) := by
  unfold reparse
  rw [outdated, loaded]

/-- The scheduled path may start a load, and the registry leads on. -/
theorem reparse_leads (s : Services) (parser : Parser) (doc : Document) (entry : Entry) :
    s.Leads (s.reparse parser doc entry).1 := by
  have hends := s.reparse_ends parser doc entry
  generalize s.reparse parser doc entry = ending at hends ⊢
  cases hends with
  | current _ => exact .refl s
  | parsed _ _ => exact s.parseEntry_leads parser doc entry _
  | waiting _ _ _ _ => exact s.schedule_leads doc.uri entry _
  | loading _ _ _ _ _ => exact .of_eq rfl rfl
  | resting _ _ _ => exact .refl s

/-- The scheduled path lets the entry rest, or parses its document. -/
theorem reparse_turn (s : Services) (parser : Parser) (doc : Document) (entry : Entry) :
    Turn parser (s.reparse parser doc entry).1 doc entry (s.reparse parser doc entry).2.1 := by
  have hends := s.reparse_ends parser doc entry
  generalize s.reparse parser doc entry = ending at hends ⊢
  cases hends with
  | current _ => exact .rest rfl
  | parsed outdated loaded => exact parseEntry_turn parser outdated loaded
  -- A timer that is set makes no difference here, nor does a load.
  | waiting _ _ _ _ => exact .rest (s.schedule_untimed doc.uri entry _)
  | loading _ _ _ _ _ => exact .rest rfl
  | resting _ _ _ => exact .rest rfl

/-- The scheduled path, after whatever timer there was has been cancelled. -/
theorem cancelTimer_reparse_turn (s : Services) (parser : Parser) (doc : Document)
    (entry : Entry) :
    Turn parser ((s.cancelTimer entry).1.reparse parser doc (s.cancelTimer entry).2.1).1 doc entry
      ((s.cancelTimer entry).1.reparse parser doc (s.cancelTimer entry).2.1).2.1 := by
  rw [s.cancelTimer_entry entry]
  exact .of_timer (reparse_turn _ parser doc _)

/-- The scheduled path fails only by a parse. -/
theorem reparse_of_error {s : Services} {parser : Parser} {doc : Document} {entry : Entry}
    {error : EngineError} (h : (s.reparse parser doc entry).2.2 = .error error) :
    ∃ grammar failure, entry.currentTree? doc.version = none ∧
      s.registry.loaded? doc.language = some grammar ∧
      Pool.attempt (parser.paced s.pace) grammar doc.text (entry.beginParse doc.version).2
        s.config.parseTimeoutMs = .error failure ∧
      (s.reparse parser doc entry).2.1 = (entry.beginParse doc.version).1.fail := by
  have hends := s.reparse_ends parser doc entry
  generalize s.reparse parser doc entry = ending at h hends ⊢
  cases hends with
  -- Only a parse ends with an error.
  | @parsed grammar outdated loaded =>
    cases hattempt : Pool.attempt (parser.paced s.pace) grammar doc.text
        (entry.beginParse doc.version).2 s.config.parseTimeoutMs with
    | ok source => rw [parseEntry_of_ok hattempt] at h; exact nomatch h
    | error failure =>
      refine ⟨grammar, failure, outdated, loaded, hattempt, ?_⟩
      rw [parseEntry_of_error hattempt]
  | _ => exact nomatch h

/-- A tree that the scheduled path serves is the current one of the entry afterwards. -/
theorem currentTree?_of_reparse {s : Services} {parser : Parser} {doc : Document} {entry : Entry}
    {tree : SyntaxTree} (h : (s.reparse parser doc entry).2.2 = .ok (some tree)) :
    (s.reparse parser doc entry).2.1.currentTree? doc.version = some tree := by
  have hends := s.reparse_ends parser doc entry
  generalize s.reparse parser doc entry = ending at h hends ⊢
  cases hends with
  | current current =>
    obtain rfl := Option.some.inj (Except.ok.inj h)
    exact current
  | @parsed grammar _ _ =>
    refine currentTree?_of_parseEntry ?_
    dsimp only at h
    cases hresult : (s.parseEntry parser doc entry grammar).2.2 with
    | error error => rw [hresult] at h; exact nomatch h
    | ok found =>
      rw [hresult] at h
      rw [Option.some.inj (Except.ok.inj h)]
  -- The other ways serve no tree.
  | _ => exact nomatch h

/-! ## Timers that fire -/

/-- A timer that fires leads on: it is metered, the document is parsed, and it may be set again. -/
theorem fire_leads (s : Services) (parser : Parser) (doc : Document) (entry : Entry)
    (generation : Nat) : s.Leads (s.fire parser doc entry generation).1 := by
  -- A wake-up that is superseded ends at once; a claimed one reparses, and reschedules after a
  -- failure.
  unfold fire
  split
  · exact .refl s
  · next timer _ =>
    dsimp only
    have hreparse := reparse_leads (s.measure Metrics.recordScheduledFire) parser doc
      { entry with timer := timer }
    have hmeasure := s.measure_leads Metrics.recordScheduledFire
    split
    · next later _ _ h => rw [h] at hreparse; exact hmeasure.trans hreparse
    · next later _ _ h =>
      rw [h] at hreparse
      split
      · exact hmeasure.trans (hreparse.trans (later.schedule_leads _ _ _))
      · exact hmeasure.trans hreparse

/-- A timer that fires lets its entry rest or parses its document; if the parse fails, the failure is
    counted. -/
theorem fire_turn (s : Services) (parser : Parser) (doc : Document) (entry : Entry)
    (generation : Nat) :
    Turn parser (s.fire parser doc entry generation).1 doc entry
      (s.fire parser doc entry generation).2 := by
  unfold fire
  split
  · exact .rest rfl
  · next timer _ =>
    dsimp only
    have hturn := reparse_turn (s.measure Metrics.recordScheduledFire) parser doc
      { entry with timer := timer }
    have hleads := reparse_leads (s.measure Metrics.recordScheduledFire) parser doc
      { entry with timer := timer }
    split
    · next h => rw [h] at hturn; exact .of_timer hturn
    · next later failed error h =>
      -- An error of the scheduled path comes from the parser alone.
      obtain ⟨grammar, failure, outdated, loaded, hattempt, hfailed⟩ :=
        reparse_of_error (by rw [h])
      rw [h] at hleads hfailed
      -- The entry before it is scheduled again, if it is.
      have hcounted : Turn parser later doc { entry with timer := timer }
          { failed with consecutiveFailures := failed.consecutiveFailures + 1 } := by
        refine .parse (.fail 1 outdated (hleads.registry.loaded _ _ loaded)
          (by rw [hleads.config]; exact hattempt) ?_)
        dsimp only at hfailed
        rw [hfailed]
        rfl
      split
      · exact .of_timer ((later.schedule_leads _ _ _).turn hcounted (later.schedule_untimed _ _ _))
      · exact .of_timer hcounted

/-! ## Reports -/

/-- A report moves the meters, and may schedule a parse. -/
theorem report_leads (s : Services) (uri : String) (entry : Entry) (version : Int)
    (changes : List Change) : s.Leads (s.report uri entry version changes).1 := by
  have hends := s.report_ends uri entry version changes
  generalize s.report uri entry version changes = ending at hends ⊢
  cases hends with
  | scheduled _ _ => exact (s.measure_leads _).trans (schedule_leads _ uri _ _)
  | applied _ _ => exact .of_eq rfl rfl
  | dropped _ => exact .of_eq rfl rfl
  | stopped _ => exact .refl s

/-- A report does to an entry what its changes do, and may set its timer. -/
theorem report_untimed (s : Services) (uri : String) (entry : Entry) (version : Int)
    (changes : List Change) :
    (s.report uri entry version changes).2.1.untimed =
      (entry.applyChanges changes version).1.untimed := by
  have hends := s.report_ends uri entry version changes
  generalize s.report uri entry version changes = ending at hends ⊢
  cases hends with
  | scheduled applied _ => rw [applied]; exact schedule_untimed _ uri _ _
  | applied applied _ => rw [applied]
  | dropped dropped => rw [dropped]
  | stopped stopped => rw [stopped]

/-- A report leaves the entry with its document. -/
theorem report_document (s : Services) (uri : String) (entry : Entry) (version : Int)
    (changes : List Change) :
    (s.report uri entry version changes).2.1.document = entry.document :=
  (Entry.document_of_untimed (s.report_untimed uri entry version changes)).trans
    (entry.applyChanges_document changes version)

/-! ## Verification -/

/-- After the tree on demand, a verification looks for its grammar and parses once more, but does not
    touch the entry. -/
theorem verify_after_treeNow (s : Services) (parser : Parser) (doc : Document) (entry : Entry) :
    (s.treeNow parser doc entry).1.Leads (s.verify parser doc entry).1 ∧
      (s.verify parser doc entry).2.1 = (s.treeNow parser doc entry).2.1 := by
  -- A verification ends early without a tree, without a grammar or without a second tree.
  unfold verify
  split
  · next h => rw [h]; exact ⟨.refl _, rfl⟩
  · next later _ tree h =>
    rw [h]
    have hgrammar := later.grammarNow_leads tree.language
    split
    · next h => rw [h] at hgrammar; exact ⟨hgrammar, rfl⟩
    · next last grammar h =>
      rw [h] at hgrammar
      have hparse : last.Leads (last.parseText parser grammar doc.text none).1 := .of_eq rfl rfl
      split
      · next h => rw [h] at hparse; exact ⟨hgrammar.trans hparse, rfl⟩
      · next final source h =>
        rw [h] at hparse
        have hmeasure := final.measure_leads Metrics.recordVerification
        dsimp only
        split <;> exact ⟨hgrammar.trans (hparse.trans hmeasure), rfl⟩

/-- Without a tree there is nothing to verify. -/
theorem verify_of_error {s : Services} {parser : Parser} {doc : Document} {entry : Entry}
    {error : EngineError} (h : (s.treeNow parser doc entry).2.2 = .error error) :
    (s.verify parser doc entry).2.2 = .error error := by
  unfold verify
  split
  · next heq =>
    rw [heq] at h
    obtain rfl := Except.error.inj h
    rfl
  · next heq =>
    rw [heq] at h
    exact nomatch h

/-- A verification leads on: it is a tree on demand and one parse more. -/
theorem verify_leads (s : Services) (parser : Parser) (doc : Document) (entry : Entry) :
    s.Leads (s.verify parser doc entry).1 :=
  (s.treeNow_leads parser doc entry).trans (s.verify_after_treeNow parser doc entry).1

/-- A verification lets the entry rest, or parses its document, as the tree on demand does. -/
theorem verify_turn (s : Services) (parser : Parser) (doc : Document) (entry : Entry) :
    Turn parser (s.verify parser doc entry).1 doc entry (s.verify parser doc entry).2.1 := by
  obtain ⟨hleads, hentry⟩ := s.verify_after_treeNow parser doc entry
  rw [hentry]
  exact hleads.turn (s.treeNow_turn parser doc entry) rfl

/-! ## The pace of parses

Only the environment sets it; no operation does. -/

/-- Cancelling a timer does not set the pace. -/
theorem cancelTimer_pace (s : Services) (entry : Entry) :
    (s.cancelTimer entry).1.pace = s.pace := by
  unfold cancelTimer
  split <;> rfl

/-- Looking for a grammar does not set the pace. -/
theorem grammarNow_pace (s : Services) (language : String) :
    (s.grammarNow language).1.pace = s.pace := by
  unfold grammarNow
  split
  · rfl
  · split <;> rfl

/-- A parse does not set the pace of the next one. -/
theorem parseEntry_pace (s : Services) (parser : Parser) (doc : Document) (entry : Entry)
    (grammar : Grammar) : (s.parseEntry parser doc entry grammar).1.pace = s.pace := by
  unfold parseEntry
  dsimp only
  split <;> rfl

/-- A tree on demand does not set the pace of the next parse. -/
theorem treeNow_pace (s : Services) (parser : Parser) (doc : Document) (entry : Entry) :
    (s.treeNow parser doc entry).1.pace = s.pace := by
  cases hcurrent : entry.currentTree? doc.version with
  | some tree => rw [treeNow_of_current parser hcurrent]
  | none =>
    rw [treeNow_of_outdated parser hcurrent]
    -- The grammar is looked for after the timer was cancelled, and neither sets the pace.
    have hpace := ((s.cancelTimer entry).1.grammarNow_pace doc.language).trans
      (s.cancelTimer_pace entry)
    generalize (s.cancelTimer entry).1.grammarNow doc.language = found at hpace ⊢
    obtain ⟨later, error | grammar⟩ := found
    · exact hpace
    · exact (later.parseEntry_pace parser doc _ grammar).trans hpace

/-- A report does not set the pace of the next parse. -/
theorem report_pace (s : Services) (uri : String) (entry : Entry) (version : Int)
    (changes : List Change) : (s.report uri entry version changes).1.pace = s.pace := by
  -- Scheduling first cancels the timer there was.
  have hschedule (s : Services) (entry : Entry) (delay : Nat) :
      (s.schedule uri entry delay).1.pace = s.pace := by
    unfold schedule
    split
    · have hcancel := s.cancelTimer_pace entry
      dsimp only
      split <;> exact hcancel
    · rfl
  have hends := s.report_ends uri entry version changes
  generalize s.report uri entry version changes = ending at hends ⊢
  cases hends with
  | scheduled _ _ => exact hschedule _ _ _
  | applied _ _ => rfl
  | dropped _ => rfl
  | stopped _ => rfl

end Services

end LiveTree
