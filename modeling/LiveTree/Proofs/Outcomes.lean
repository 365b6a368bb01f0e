import LiveTree.Engine.Services

/-!
# How operations end

The scheduled path and a report can each end in a few ways.  For each of the two a predicate lists
them: one case for every way, with the conditions under which it is gone and all that the operation
leaves behind.  What is to be shown of such an operation is shown case by case, without looking into
the operation again.

## Key results

- `Services.reparse_ends`, `Services.report_ends`: there are no other ways
-/

namespace LiveTree.Services

/-! ## The scheduled path -/

/-- What the scheduled path leaves behind and answers.  It serves a current tree and parses an outdated
    one.  Without a grammar there is no tree for now: it waits for a load that is under way, starts
    one, or lets the entry rest. -/
inductive ReparseEnds (s : Services) (parser : Parser) (doc : Document) (entry : Entry) :
    Services × Entry × Except EngineError (Option SyntaxTree) → Prop where
  | current {tree : SyntaxTree} (current : entry.currentTree? doc.version = some tree) :
      ReparseEnds s parser doc entry (s, entry, .ok (some tree))
  | parsed {grammar : Grammar} (outdated : entry.currentTree? doc.version = none)
      (loaded : s.registry.loaded? doc.language = some grammar) :
      ReparseEnds s parser doc entry
        ((s.parseEntry parser doc entry grammar).1, (s.parseEntry parser doc entry grammar).2.1,
          (s.parseEntry parser doc entry grammar).2.2.map some)
  | waiting (outdated : entry.currentTree? doc.version = none)
      (missing : s.registry.loaded? doc.language = none)
      (supported : s.registry.isSupported doc.language = true)
      (loading : s.registry.isLoading doc.language = true) :
      ReparseEnds s parser doc entry
        ((s.schedule doc.uri entry s.config.debounceMs).1,
          (s.schedule doc.uri entry s.config.debounceMs).2, .ok none)
  | loading (outdated : entry.currentTree? doc.version = none)
      (missing : s.registry.loaded? doc.language = none)
      (supported : s.registry.isSupported doc.language = true)
      (idle : s.registry.isLoading doc.language = false) (runtime : s.runtime = true) :
      ReparseEnds s parser doc entry
        ((s.spawn 0 (.load doc.uri doc.language)).1, entry, .ok none)
  | resting (outdated : entry.currentTree? doc.version = none)
      (missing : s.registry.loaded? doc.language = none)
      (why : s.registry.isSupported doc.language = false ∨
        s.registry.isLoading doc.language = false ∧ s.runtime = false) :
      ReparseEnds s parser doc entry (s, entry, .ok none)

/-- The scheduled path ends in one of these ways. -/
theorem reparse_ends (s : Services) (parser : Parser) (doc : Document) (entry : Entry) :
    s.ReparseEnds parser doc entry (s.reparse parser doc entry) := by
  unfold reparse
  cases hcurrent : entry.currentTree? doc.version with
  | some tree => exact .current hcurrent
  | none =>
    cases hloaded : s.registry.loaded? doc.language with
    | some grammar => exact .parsed hcurrent hloaded
    | none =>
      cases hsupported : s.registry.isSupported doc.language with
      | false => exact .resting hcurrent hloaded (.inl hsupported)
      | true =>
        cases hloading : s.registry.isLoading doc.language with
        | true => exact .waiting hcurrent hloaded hsupported hloading
        | false =>
          cases hruntime : s.runtime with
          | true => exact .loading hcurrent hloaded hsupported hloading hruntime
          | false => exact .resting hcurrent hloaded (.inr ⟨hloading, hruntime⟩)

/-! ## Reports -/

/-- What a report leaves behind and answers.  Changes that are applied are counted, and a parse is
    scheduled if edits are to schedule any; so are changes that are dropped.  A report that is stopped
    counts nothing and has no answer. -/
inductive ReportEnds (s : Services) (uri : String) (entry : Entry) (version : Int)
    (changes : List Change) : Services × Entry × Option Nat → Prop where
  | scheduled {next : Entry} {count : Nat}
      (applied : entry.applyChanges changes version = (next, .applied count))
      (onEdit : s.config.scheduleOnEdit = true) :
      ReportEnds s uri entry version changes
        (((s.measure (·.recordEditsApplied count)).schedule uri next s.config.debounceMs).1,
          ((s.measure (·.recordEditsApplied count)).schedule uri next s.config.debounceMs).2,
          some count)
  | applied {next : Entry} {count : Nat}
      (applied : entry.applyChanges changes version = (next, .applied count))
      (quiet : s.config.scheduleOnEdit = false) :
      ReportEnds s uri entry version changes
        (s.measure (·.recordEditsApplied count), next, some count)
  | dropped {next : Entry} {count : Nat}
      (dropped : entry.applyChanges changes version = (next, .dropped count)) :
      ReportEnds s uri entry version changes
        (s.measure (·.recordEditsDropped count), next, some 0)
  | stopped {next : Entry} (stopped : entry.applyChanges changes version = (next, .stopped)) :
      ReportEnds s uri entry version changes (s, next, none)

/-- A report ends in one of these ways. -/
theorem report_ends (s : Services) (uri : String) (entry : Entry) (version : Int)
    (changes : List Change) :
    s.ReportEnds uri entry version changes (s.report uri entry version changes) := by
  unfold report
  cases hchanged : entry.applyChanges changes version with
  | mk next outcome =>
  cases outcome with
  | applied count =>
    -- Counting the changes leaves the settings as they are.
    have hconfig : (s.measure (·.recordEditsApplied count)).config = s.config := rfl
    dsimp only
    rw [hconfig]
    cases honEdit : s.config.scheduleOnEdit with
    | true => exact .scheduled hchanged honEdit
    | false => exact .applied hchanged honEdit
  | dropped count => exact .dropped hchanged
  | stopped => exact .stopped hchanged

end LiveTree.Services
