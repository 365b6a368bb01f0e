import LiveTree.Grammar.Registry

/-!
# Loaded grammars stay

A registry changes by requests, by loads on the spot and by the ends of attempts.  Whatever happens,
a grammar that is in its slot stays there, and every grammar stands in the slot of its own language.
`Registry.Leads` says both of two registries, one of which came from the other.

## Key results

- `Registry.loadBlocking_leads`, `Registry.request_leads`, `Registry.complete_leads`: every operation
  of a registry leads from it to its successor
- `Registry.loaded?_of_loadBlocking`: a grammar that was loaded on the spot is in its slot
-/

namespace LiveTree

/-- An opened grammar is of the language it was opened for. -/
theorem Grammar.find_language {libraries : Libraries} {kept : List OpenLibrary} {directory : String}
    {config : LanguageConfig} {grammar : Grammar}
    (h : (Grammar.find libraries kept directory config).2 = .ok grammar) :
    grammar.language = config.id := by
  -- Either the file had been opened before, or it is opened now and has to be found fit.
  unfold Grammar.find at h
  split at h
  · split at h
    · obtain rfl := Except.ok.inj h; rfl
    · exact nomatch h
  · dsimp only at h
    split at h
    · exact nomatch h
    · exact nomatch h
    · unfold Grammar.ofLibrary at h
      dsimp only at h
      split at h
      · exact nomatch h
      · obtain rfl := Except.ok.inj h; rfl

namespace Registry

/-- The settings of a language are its own. -/
theorem config?_id {registry : Registry} {language : String} {config : LanguageConfig}
    (h : registry.config? language = some config) : config.id = language := by
  have := List.find?_some h
  exact eq_of_beq this

/-- Every grammar stands in the slot of its own language. -/
def Sound (registry : Registry) : Prop :=
  ∀ language grammar, registry.loaded? language = some grammar → grammar.language = language

/-- What can come of a registry: all its grammars are still there, and no grammar stands in a slot
    that is not its own. -/
structure Leads (registry later : Registry) : Prop where
  loaded : ∀ language grammar,
    registry.loaded? language = some grammar → later.loaded? language = some grammar
  sound : registry.Sound → later.Sound

/-- Nothing has come of a registry yet. -/
theorem Leads.refl (registry : Registry) : registry.Leads registry :=
  ⟨fun _ _ h => h, fun h => h⟩

/-- What comes of a registry's successor comes of the registry. -/
theorem Leads.trans {a b c : Registry} (hab : a.Leads b) (hbc : b.Leads c) : a.Leads c :=
  ⟨fun language grammar h => hbc.loaded language grammar (hab.loaded language grammar h),
    fun h => hbc.sound (hab.sound h)⟩

/-- Grammars are found in the slots alone. -/
theorem loaded?_congr {registry later : Registry} (h : later.slots = registry.slots)
    (language : String) : later.loaded? language = registry.loaded? language := by
  unfold loaded?
  rw [h]

/-- What leaves the slots alone leaves the grammars alone. -/
theorem Leads.of_slots {registry later : Registry} (h : later.slots = registry.slots) :
    registry.Leads later := by
  refine ⟨fun language grammar loaded => ?_, fun sound language grammar loaded => ?_⟩
  · rw [loaded?_congr h]; exact loaded
  · rw [loaded?_congr h] at loaded; exact sound language grammar loaded

/-- A new registry has no grammars at all. -/
theorem ofConfig_sound (config : Config) (dataHome : String) :
    (ofConfig config dataHome).Sound := by
  intro language grammar h
  exact nomatch h

/-! ## Changes of one slot -/

/-- A change of a slot without a grammar leaves all others alone; what it puts there has to be of the
    slot's own language. -/
private theorem leads_of_slot {registry later : Registry} {language : String}
    (empty : registry.loaded? language = none)
    (others : ∀ other, other ≠ language → later.loaded? other = registry.loaded? other)
    (own : ∀ grammar, later.loaded? language = some grammar → grammar.language = language) :
    registry.Leads later := by
  constructor
  -- The grammar that was there stands in another slot, as this one was empty.
  · intro other grammar loaded
    have hne : other ≠ language := by
      intro heq
      rw [heq, empty] at loaded
      exact nomatch loaded
    rw [others other hne]
    exact loaded
  · intro sound other grammar loaded
    -- Either the grammar has just been put into the slot, or it is one of those that were left
    -- alone.
    by_cases heq : other = language
    · rw [heq] at loaded ⊢
      exact own grammar loaded
    · rw [others other heq] at loaded
      exact sound other grammar loaded

/-- A slot is found under its own language. -/
theorem loaded?_insert_of_ne (registry : Registry) {language other : String} (slot : Slot)
    (h : other ≠ language) :
    loaded? { registry with slots := registry.slots.insert language slot } other =
      registry.loaded? other := by
  simp only [loaded?, Table.find?_insert, if_neg h]

/-- A grammar that is put into its slot is loaded. -/
@[simp] theorem loaded?_insert_loaded (registry : Registry) (language : String)
    (grammar : Grammar) :
    loaded? { registry with slots := registry.slots.insert language (.loaded grammar) } language =
      some grammar := by
  simp only [loaded?, Table.find?_insert_self]

/-- A grammar of its own language may be put into an empty slot. -/
private theorem insert_loaded_leads {registry : Registry} {language : String} {grammar : Grammar}
    (empty : registry.loaded? language = none) (own : grammar.language = language) :
    registry.Leads { registry with slots := registry.slots.insert language (.loaded grammar) } := by
  refine leads_of_slot empty (fun _ hne => registry.loaded?_insert_of_ne _ hne) ?_
  intro found h
  rw [loaded?_insert_loaded] at h
  obtain rfl := Option.some.inj h
  exact own

/-- A slot without a grammar may be marked as being loaded. -/
private theorem insert_loading_leads {registry : Registry} {language : String}
    (empty : registry.loaded? language = none) :
    registry.Leads { registry with slots := registry.slots.insert language .loading } := by
  refine leads_of_slot empty (fun _ hne => registry.loaded?_insert_of_ne _ hne) ?_
  intro found h
  simp only [loaded?, Table.find?_insert_self] at h
  exact nomatch h

/-- A slot without a grammar may be emptied, whatever else it held. -/
private theorem erase_leads {registry : Registry} {language : String}
    (empty : registry.loaded? language = none) :
    registry.Leads { registry with slots := registry.slots.erase language } := by
  refine leads_of_slot empty (fun other hne => ?_) (fun grammar h => ?_)
  · simp only [loaded?, Table.find?_erase, if_neg hne]
  · simp only [loaded?, Table.find?_erase_self] at h
    exact nomatch h

/-- What is still being loaded is not loaded. -/
private theorem loaded?_of_isLoading {registry : Registry} {language : String}
    (h : registry.isLoading language = true) : registry.loaded? language = none := by
  have hslot : registry.slots.find? language = some .loading := eq_of_beq h
  rw [loaded?, hslot]

/-- Nor is what has no slot. -/
private theorem loaded?_of_vacant {registry : Registry} {language : String}
    (h : registry.slots.find? language = none) : registry.loaded? language = none := by
  rw [loaded?, h]

/-! ## Operations -/

/-- Opening a library adds to the libraries that are kept open, not to the slots. -/
theorem find_leads (registry : Registry) (libraries : Libraries) (config : LanguageConfig) :
    registry.Leads (registry.find libraries config).1 :=
  .of_slots rfl

/-- What is opened for a language is a grammar of that language. -/
theorem find_language {registry : Registry} {libraries : Libraries} {config : LanguageConfig}
    {grammar : Grammar} (h : (registry.find libraries config).2 = .ok grammar) :
    grammar.language = config.id :=
  Grammar.find_language h

/-- Ending an attempt touches only a slot that is being loaded. -/
theorem settle_leads (registry : Registry) {language : String}
    {outcome : Except GrammarError Grammar}
    (own : ∀ grammar, outcome = .ok grammar → grammar.language = language) :
    registry.Leads (registry.settle language outcome) := by
  unfold settle
  split
  · next loading =>
    have empty := loaded?_of_isLoading loading
    -- A grammar takes the place of the mark, and a failure takes the mark away.
    cases outcome with
    | ok grammar => exact insert_loaded_leads empty (own grammar rfl)
    | error error => exact erase_leads empty
  · exact .refl registry

/-- An attempt first marks its slot; a grammar that needs no library is there at once. -/
private theorem start_leads {registry : Registry} (libraries : Libraries) {config : LanguageConfig}
    (empty : registry.loaded? config.id = none) :
    registry.Leads (registry.start libraries config).1 := by
  have hstarted := insert_loading_leads empty
  unfold start
  dsimp only
  split
  · refine hstarted.trans ((find_leads _ libraries config).trans (settle_leads _ ?_))
    intro grammar h
    exact find_language h
  · exact hstarted.trans (.of_slots rfl)

/-- A request either finds the slot taken or starts an attempt for it. -/
theorem request_leads (registry : Registry) (libraries : Libraries) (language : String) :
    registry.Leads (registry.request libraries language).1 := by
  unfold request
  split
  · exact .refl registry
  · exact .refl registry
  -- Only an empty slot is asked for, and only for a language that has settings.
  · next vacant =>
    split
    · exact .refl registry
    · next config hconfig =>
      refine start_leads libraries ?_
      rw [config?_id hconfig]
      exact loaded?_of_vacant vacant

/-- Loading on the spot fills an empty slot, if the grammar can be had. -/
theorem loadBlocking_leads (registry : Registry) (libraries : Libraries) (language : String) :
    registry.Leads (registry.loadBlocking libraries language).1 := by
  unfold loadBlocking
  split
  · exact .refl registry
  · exact .refl registry
  · next vacant =>
    split
    · exact .refl registry
    · next config hconfig =>
      have hfind := registry.find_leads libraries config
      split
      -- The library that was opened meanwhile does not matter to the slots.
      · next found grammar h =>
        rw [h] at hfind
        have own : grammar.language = language := by
          rw [find_language (by rw [h]), config?_id hconfig]
        have empty : found.loaded? language = none := by
          obtain rfl : (registry.find libraries config).1 = found := by rw [h]
          exact loaded?_of_vacant vacant
        exact hfind.trans (insert_loaded_leads empty own)
      · next found error h =>
        rw [h] at hfind
        exact hfind

/-- The end of an attempt opens the library and fills the slot or empties it. -/
theorem complete_leads (registry : Registry) (libraries : Libraries) (language : String) :
    registry.Leads (registry.complete libraries language).1 := by
  unfold complete
  split
  · exact .refl registry
  · next config hconfig =>
    dsimp only
    have hid : config.id = language := by
      have := List.find?_some hconfig
      exact eq_of_beq this
    -- Crossing the attempt off the list leaves the slots as they are.
    have hended : (registry.find libraries config).1.Leads
        { (registry.find libraries config).1 with
          attempts := (registry.find libraries config).1.attempts.filter (·.id ≠ language) } :=
      .of_slots rfl
    refine (registry.find_leads libraries config).trans (hended.trans (settle_leads _ ?_))
    intro grammar h
    rw [find_language h, hid]

/-- A grammar that was loaded on the spot is in its slot. -/
theorem loaded?_of_loadBlocking {registry : Registry} {libraries : Libraries} {language : String}
    {grammar : Grammar} (h : (registry.loadBlocking libraries language).2 = .ok grammar) :
    (registry.loadBlocking libraries language).1.loaded? language = some grammar := by
  unfold loadBlocking at h ⊢
  cases hslot : registry.slots.find? language with
  | some slot =>
    -- A slot that was taken answers with what it holds.
    rw [hslot] at h
    cases slot with
    | loaded found =>
      obtain rfl := Except.ok.inj h
      simp only [loaded?, hslot]
    | loading => exact nomatch h
  | none =>
    rw [hslot] at h
    cases hconfig : registry.config? language with
    | none => rw [hconfig] at h; exact nomatch h
    | some config =>
      rw [hconfig] at h
      dsimp only at h ⊢
      -- An empty one has just been filled with the answer.
      split at h
      · next found opened hfind =>
        obtain rfl := Except.ok.inj h
        exact loaded?_insert_loaded found language opened
      · exact nomatch h

end Registry

end LiveTree
