import LiveTree.Proofs.Timers

/-!
# Attempts at grammars

A slot that is being loaded has an attempt under way, so that whoever waits for the grammar is told in
the end.  A request may start an attempt and only the end of an attempt takes it away; when it ends, its
slot is no longer being loaded.

## Key results

- `Registry.Attended`: the invariant, and `Registry.Attended.request`, `Registry.Attended.complete`:
  it is kept
- `Registry.mem_attempts_request`, `Registry.mem_attempts_complete`: which attempts are under way
  afterwards
-/

namespace LiveTree.Registry

/-- Every slot that is being loaded has an attempt under way. -/
def Attended (registry : Registry) : Prop :=
  ∀ language, registry.isLoading language = true →
    ∃ attempt ∈ registry.attempts, attempt.id = language

/-- At the start no slot is being loaded. -/
theorem ofConfig_attended (config : Config) (dataHome : String) :
    (ofConfig config dataHome).Attended := by
  intro language h
  exact nomatch h

/-- When a slot is filled, it is being loaded exactly if that is what it says. -/
theorem isLoading_insert (registry : Registry) (language other : String) (slot : Slot) :
    isLoading { registry with slots := registry.slots.insert language slot } other =
      if other = language then slot == .loading else registry.isLoading other := by
  unfold isLoading
  dsimp only
  rw [Table.find?_insert]
  split <;> rfl

/-- A slot that is emptied is not being loaded. -/
theorem isLoading_erase (registry : Registry) (language other : String) :
    isLoading { registry with slots := registry.slots.erase language } other =
      if other = language then false else registry.isLoading other := by
  unfold isLoading
  dsimp only
  rw [Table.find?_erase]
  split <;> rfl

/-! ## The end of an attempt -/

/-- Ending an attempt at a language leaves its slot at rest and the other slots alone. -/
theorem isLoading_settle (registry : Registry) (language other : String)
    (outcome : Except GrammarError Grammar) :
    (registry.settle language outcome).isLoading other =
      if other = language then false else registry.isLoading other := by
  unfold settle
  by_cases hloading : registry.isLoading language = true
  · rw [if_pos hloading]
    cases outcome with
    -- The slot is filled or emptied, and in both cases nothing is loaded any more.
    | ok grammar => exact isLoading_insert registry language other (.loaded grammar)
    | error error => exact isLoading_erase registry language other
  · rw [if_neg hloading]
    split
    · next heq => rw [heq]; exact Bool.not_eq_true _ ▸ hloading
    · rfl

/-- How an attempt ends is a matter of the slots alone. -/
theorem settle_attempts (registry : Registry) (language : String)
    (outcome : Except GrammarError Grammar) :
    (registry.settle language outcome).attempts = registry.attempts ∧
      (registry.settle language outcome).languages = registry.languages := by
  unfold settle
  split
  · cases outcome <;> exact ⟨rfl, rfl⟩
  · exact ⟨rfl, rfl⟩

/-- The end of an attempt changes no settings. -/
theorem complete_languages (registry : Registry) (libraries : Libraries) (language : String) :
    (registry.complete libraries language).1.languages = registry.languages := by
  unfold complete
  split
  · rfl
  · exact (settle_attempts _ _ _).2

/-- The attempts at other languages go on. -/
theorem mem_attempts_complete {registry : Registry} {libraries : Libraries} {language : String}
    {attempt : LanguageConfig} (h : attempt ∈ registry.attempts) (hne : attempt.id ≠ language) :
    attempt ∈ (registry.complete libraries language).1.attempts := by
  unfold complete
  split
  · exact h
  · dsimp only
    rw [(settle_attempts _ _ _).1]
    exact List.mem_filter.2 ⟨h, decide_eq_true hne⟩

/-- Where no attempt is under way none can end. -/
theorem complete_eq_none {registry : Registry} {libraries : Libraries} {language : String}
    (h : (registry.complete libraries language).2 = none) :
    (registry.complete libraries language).1 = registry ∧
      ∀ attempt ∈ registry.attempts, attempt.id ≠ language := by
  unfold complete at h ⊢
  -- The attempt that ends is the first one of the language, if there is any.
  cases hfound : registry.attempts.find? (·.id == language) with
  | none =>
    refine ⟨rfl, fun attempt hattempt heq => ?_⟩
    exact absurd (beq_iff_eq.2 heq) (List.find?_eq_none.1 hfound attempt hattempt)
  | some config => rw [hfound] at h; exact nomatch h

/-- The end of an attempt leaves no slot without one. -/
theorem Attended.complete {registry : Registry} (h : registry.Attended) (libraries : Libraries)
    (language : String) : (registry.complete libraries language).1.Attended := by
  intro other hloading
  have hother : other ≠ language ∧ registry.isLoading other = true := by
    unfold Registry.complete at hloading
    split at hloading
    · next hfound =>
      -- If no attempt is under way the slot is not being loaded either.
      refine ⟨fun heq => ?_, hloading⟩
      obtain ⟨attempt, hattempt, hid⟩ := h other hloading
      exact absurd (beq_iff_eq.2 (hid.trans heq)) (List.find?_eq_none.1 hfound attempt hattempt)
    · dsimp only at hloading
      rw [isLoading_settle] at hloading
      split at hloading
      · exact nomatch hloading
      · next hne => exact ⟨hne, hloading⟩
  obtain ⟨attempt, hattempt, rfl⟩ := h other hother.2
  exact ⟨attempt, mem_attempts_complete hattempt hother.1, rfl⟩

/-! ## Requests -/

/-- A request changes no settings. -/
theorem request_languages (registry : Registry) (libraries : Libraries) (language : String) :
    (registry.request libraries language).1.languages = registry.languages := by
  unfold request
  split
  · rfl
  · rfl
  · split
    · rfl
    · unfold start
      dsimp only
      split
      · exact (settle_attempts _ _ _).2
      · rfl

/-- A request ends no attempt. -/
theorem mem_attempts_request {registry : Registry} {attempt : LanguageConfig}
    (h : attempt ∈ registry.attempts) (libraries : Libraries) (language : String) :
    attempt ∈ (registry.request libraries language).1.attempts := by
  unfold request
  split
  · exact h
  · exact h
  -- Something is started only for a language that has settings and no slot.
  · split
    · exact h
    · unfold start
      dsimp only
      split
      · rw [(settle_attempts _ _ _).1]
        exact h
      · exact List.mem_append_left _ h

/-- An attempt that is started is there for its own slot, and all others have theirs. -/
private theorem Attended.start {registry : Registry} (h : registry.Attended)
    (libraries : Libraries) (config : LanguageConfig) :
    (registry.start libraries config).1.Attended := by
  unfold Registry.start
  dsimp only
  split
  · -- A builtin grammar is there, or is known to be missing, at once.
    intro other hloading
    rw [isLoading_settle] at hloading
    rw [(settle_attempts _ _ _).1]
    split at hloading
    · exact nomatch hloading
    · next hne =>
      have hinsert := registry.isLoading_insert config.id other .loading
      rw [if_neg hne] at hinsert
      exact h other (hinsert.symm.trans hloading)
  · intro other hloading
    -- The slot is the one that was filled, and its attempt the new one, or another slot, with its
    -- attempt of before.
    by_cases heq : other = config.id
    · exact ⟨config, List.mem_append_right _ List.mem_cons_self, heq.symm⟩
    · have hinsert := registry.isLoading_insert config.id other .loading
      rw [if_neg heq] at hinsert
      obtain ⟨attempt, hattempt, hid⟩ := h other (hinsert.symm.trans hloading)
      exact ⟨attempt, List.mem_append_left _ hattempt, hid⟩

/-- A request leaves no slot without an attempt either. -/
theorem Attended.request {registry : Registry} (h : registry.Attended) (libraries : Libraries)
    (language : String) : (registry.request libraries language).1.Attended := by
  unfold Registry.request
  split
  · exact h
  · exact h
  · split
    · exact h
    · exact h.start libraries _

/-- Whoever has to wait waits for an attempt that is under way. -/
theorem Attended.waiting {registry : Registry} (h : registry.Attended) {libraries : Libraries}
    {language : String} (waiting : (registry.request libraries language).2 = .waiting) :
    ∃ attempt ∈ (registry.request libraries language).1.attempts, attempt.id = language := by
  unfold Registry.request at waiting ⊢
  -- A slot that is being loaded has its attempt; otherwise the request has started one.
  cases hslot : registry.slots.find? language with
  | some slot =>
    rw [hslot] at waiting
    cases slot with
    | loaded grammar => exact nomatch waiting
    | loading =>
      refine h language ?_
      unfold isLoading
      rw [hslot]
      rfl
  | none =>
    rw [hslot] at waiting
    cases hconfig : registry.config? language with
    | none => rw [hconfig] at waiting; exact nomatch waiting
    | some config =>
      rw [hconfig] at waiting
      unfold Registry.start at waiting ⊢
      dsimp only at waiting ⊢
      cases hkind : config.kind with
      | builtin =>
        rw [hkind] at waiting
        dsimp only at waiting
        split at waiting <;> exact nomatch waiting
      | library => exact ⟨config, List.mem_append_right _ List.mem_cons_self, config?_id hconfig⟩

end LiveTree.Registry
