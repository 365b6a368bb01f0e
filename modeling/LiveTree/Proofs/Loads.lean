import LiveTree.Proofs.Attempts
import Mathlib.Data.List.Nodup
import Mathlib.Logic.Relation

/-!
# Loads of grammars share their slots

Requests that wait, loads on the spot and the ends of attempts may come in any order, for any
languages.  A desk is a registry together with the books of what was asked of it: which attempts are
under way, how the others ended, and which attempt each waiting request waits for.  A request may
also be seen half done, when it has just started an attempt: other calls can then come in between,
even if the grammar is builtin.  An attempt may end at any time after its start, with what stands on
disk or with any other outcome.

When an attempt ends, the registry looks only whether the slot is being loaded and not for whom.
That is enough: slots are being loaded exactly where an attempt is under way, and each was last given
to that very attempt.

## Key results

- `Desk.Kept`: the books are in order, and `Desk.Kept.run`: they stay so, whatever is called
- `Desk.Onward`: grammars in their slots and answers stay
- `Desk.slots_orderly`: what those who ask for grammars can rely on
-/

namespace LiveTree

/-- What a request was told on the spot, if it does not have to wait. -/
def Reply.outcome? : Reply → Option (Except GrammarError Grammar)
  | .ready grammar => some (.ok grammar)
  | .failed error => some (.error error)
  | .waiting => none

namespace Registry

/-- Starts an attempt at a language and leaves it under way, whatever kind its grammar is of. -/
def launch (registry : Registry) (config : LanguageConfig) : Registry :=
  { registry with
    slots := registry.slots.insert config.id .loading
    attempts := registry.attempts ++ [config] }

/-- Ends the attempt at a language, whatever has come of it. -/
def conclude (registry : Registry) (language : String) (outcome : Except GrammarError Grammar) :
    Registry :=
  settle { registry with attempts := registry.attempts.filter (·.id ≠ language) } language outcome

variable {registry : Registry} {language : String} {config : LanguageConfig}

/-- A language is being loaded if its slot says so. -/
theorem slot_of_isLoading
    (h : registry.isLoading language = true) : registry.slots.find? language = some .loading :=
  eq_of_beq h

/-- A grammar that is loaded is the one in the slot. -/
theorem slot_of_loaded? {grammar : Grammar} (h : registry.loaded? language = some grammar) :
    registry.slots.find? language = some (.loaded grammar) := by
  unfold loaded? at h
  split at h
  · next hslot => rw [hslot, Option.some.inj h]
  · exact nomatch h

/-- Nothing is being loaded into a slot that is empty. -/
theorem isLoading_of_vacant
    (h : registry.slots.find? language = none) : registry.isLoading language = false := by
  unfold isLoading
  rw [h]
  rfl

/-- The end of an attempt decides the slot of its language and no other. -/
theorem slot_settle (registry : Registry)
    (loading : registry.isLoading language = true) (outcome : Except GrammarError Grammar)
    (other : String) :
    (registry.settle language outcome).slots.find? other =
      if other = language then outcome.toOption.map .loaded else registry.slots.find? other := by
  unfold settle
  rw [if_pos loading]
  cases outcome with
  | ok grammar => exact Table.find?_insert _ _ _ _
  | error error => exact Table.find?_erase _ _ _

/-- So does the end of an attempt that is crossed off the list on the way. -/
theorem slot_conclude
    (loading : registry.isLoading language = true) (outcome : Except GrammarError Grammar)
    (other : String) :
    (registry.conclude language outcome).slots.find? other =
      if other = language then outcome.toOption.map .loaded else registry.slots.find? other :=
  slot_settle { registry with attempts := registry.attempts.filter (·.id ≠ language) } loading
    outcome other

/-- The attempt that ends is no longer among those under way. -/
theorem conclude_attempts (registry : Registry) (language : String)
    (outcome : Except GrammarError Grammar) :
    (registry.conclude language outcome).attempts =
      registry.attempts.filter (·.id ≠ language) :=
  (settle_attempts _ _ _).1

/-- The end of an attempt leaves the settings alone. -/
theorem conclude_languages (registry : Registry) (language : String)
    (outcome : Except GrammarError Grammar) :
    (registry.conclude language outcome).languages = registry.languages :=
  (settle_attempts _ _ _).2

/-- An attempt that is found to be under way ends with what can be opened now. -/
theorem complete_of_attempt
    (found : registry.attempts.find? (·.id == language) = some config) (libraries : Libraries) :
    registry.complete libraries language =
      ((registry.find libraries config).1.conclude language (registry.find libraries config).2,
        some (registry.find libraries config).2) := by
  unfold complete
  rw [found]
  rfl

/-- An attempt at a grammar of a library is left under way. -/
theorem start_library (library : config.kind = .library) (registry : Registry)
    (libraries : Libraries) :
    registry.start libraries config = (registry.launch config, .waiting) := by
  unfold start
  rw [library]
  rfl

/-- The start of an attempt at a builtin grammar is also its end. -/
theorem start_builtin (builtin : config.kind = .builtin)
    (idle : ∀ attempt ∈ registry.attempts, attempt.id ≠ config.id) (libraries : Libraries) :
    (registry.start libraries config).1 =
        ((registry.launch config).complete libraries config.id).1 ∧
      (registry.start libraries config).2.outcome? =
        ((registry.launch config).complete libraries config.id).2 := by
  -- It is found behind all attempts at other languages.
  have hfound : (registry.launch config).attempts.find? (·.id == config.id) = some config := by
    have hidle : registry.attempts.find? (·.id == config.id) = none :=
      List.find?_eq_none.2 fun attempt hattempt => by simpa using idle attempt hattempt
    simp [launch, List.find?_append, hidle]
  -- Taking it away leaves the attempts that there were before.
  have hattempts : (registry.launch config).attempts.filter (·.id ≠ config.id) =
      registry.attempts := by
    have hidle : registry.attempts.filter (·.id ≠ config.id) = registry.attempts :=
      List.filter_eq_self.2 fun attempt hattempt => decide_eq_true (idle attempt hattempt)
    rw [launch, List.filter_append, hidle]
    simp
  rw [complete_of_attempt hfound]
  unfold start
  rw [builtin]
  dsimp only
  constructor
  · -- The attempt that `launch` has appended is the one that ends.
    unfold conclude
    rw [show ((registry.launch config).find libraries config).1.attempts =
      (registry.launch config).attempts from rfl, hattempts]
    rfl
  · split <;> next h => exact congrArg some h.symm

/-- Where an attempt is under way a request joins it and a load on the spot is turned away; neither
    changes anything. -/
theorem request_of_isLoading
    (loading : registry.isLoading language = true) (libraries : Libraries) :
    registry.request libraries language = (registry, .waiting) ∧
      registry.loadBlocking libraries language = (registry, .error (.pending language)) := by
  unfold request loadBlocking
  rw [slot_of_isLoading loading]
  exact ⟨rfl, rfl⟩

/-- A grammar that is there is what requests and loads on the spot get; neither changes anything. -/
theorem request_of_loaded {grammar : Grammar}
    (loaded : registry.slots.find? language = some (.loaded grammar)) (libraries : Libraries) :
    registry.request libraries language = (registry, .ready grammar) ∧
      registry.loadBlocking libraries language = (registry, .ok grammar) := by
  unfold request loadBlocking
  rw [loaded]
  exact ⟨rfl, rfl⟩

/-- A request for a language that has settings and no slot starts an attempt. -/
theorem request_of_vacant (vacant : registry.slots.find? language = none)
    (configured : registry.config? language = some config) (libraries : Libraries) :
    registry.request libraries language = registry.start libraries config := by
  unfold request
  rw [vacant, configured]

/-- Where nothing is configured there is nothing to load. -/
theorem request_of_unsupported (vacant : registry.slots.find? language = none)
    (unsupported : registry.config? language = none) (libraries : Libraries) :
    registry.request libraries language = (registry, .failed (.unsupported language)) ∧
      registry.loadBlocking libraries language = (registry, .error (.unsupported language)) := by
  unfold request loadBlocking
  rw [vacant, unsupported]
  exact ⟨rfl, rfl⟩

/-- A load on the spot into an empty slot ends with what can be opened now. -/
theorem loadBlocking_of_vacant (vacant : registry.slots.find? language = none)
    (configured : registry.config? language = some config) (libraries : Libraries) :
    registry.loadBlocking libraries language =
      (match (registry.find libraries config).2 with
        | .ok grammar =>
          { registry with
            kept := (registry.find libraries config).1.kept
            slots := registry.slots.insert language (.loaded grammar) }
        | .error _ => { registry with kept := (registry.find libraries config).1.kept },
        (registry.find libraries config).2) := by
  unfold loadBlocking
  rw [vacant, configured]
  dsimp only
  -- The registry that is returned differs from the old one in the libraries that it keeps open.
  split <;>
  · next found _ h =>
    obtain rfl : (registry.find libraries config).1 = found := by rw [h]
    rw [show (registry.find libraries config).2 = _ from congrArg Prod.snd h]
    rfl

/-- After a load on the spot its outcome is in the slot, or the slot is still empty. -/
theorem slot_loadBlocking_of_vacant (vacant : registry.slots.find? language = none)
    (configured : registry.config? language = some config) (libraries : Libraries) :
    (registry.loadBlocking libraries language).1.slots.find? language =
      (registry.find libraries config).2.toOption.map .loaded := by
  rw [loadBlocking_of_vacant vacant configured]
  cases (registry.find libraries config).2 with
  | ok grammar => exact Table.find?_insert_self _ _ _
  | error error => exact vacant

end Registry

/-- An attempt at a grammar; no two have one number. -/
structure Attempt where
  number : Nat
  config : LanguageConfig

/-- A registry and the books of what was asked of it: the attempts under way, the attempts that have
    ended with their outcomes, for each language the attempt that its slot was last given to, for each
    request that waits or has waited the attempt it joined, and how many attempts there have been. -/
structure Desk where
  registry : Registry
  underWay : List Attempt := []
  ended : List (Nat × Except GrammarError Grammar) := []
  holders : Table Nat := .empty
  joined : List Nat := []
  started : Nat := 0

/-- What can come in at a desk. -/
inductive Call where
  /-- A request for a grammar by someone who can wait. -/
  | request (libraries : Libraries) (language : String)
  /-- Such a request, as far as it goes before an attempt that it has started gets a chance to end. -/
  | ask (language : String)
  /-- A request by someone who cannot wait. -/
  | loadBlocking (libraries : Libraries) (language : String)
  /-- The end of an attempt with what can be opened now. -/
  | finish (libraries : Libraries) (number : Nat)
  /-- The end of an attempt with any outcome, such as that of a task that broke down. -/
  | finishWith (outcome : Except GrammarError Grammar) (number : Nat)

namespace Desk

/-- The desk of a configuration, before the first call. -/
def ofConfig (config : Config) (dataHome : String) : Desk where
  registry := .ofConfig config dataHome

/-- The attempt of a number, if it is under way. -/
def attempt? (desk : Desk) (number : Nat) : Option Attempt :=
  desk.underWay.find? (·.number == number)

/-- A request starts an attempt, which gets the next number and the slot of its language, and waits
    for it. -/
def depart (desk : Desk) (config : LanguageConfig) : Desk :=
  { desk with
    registry := desk.registry.launch config
    underWay := desk.underWay ++ [⟨desk.started, config⟩]
    holders := desk.holders.insert config.id desk.started
    joined := desk.joined ++ [desk.started]
    started := desk.started + 1 }

/-- A request waits for the attempt that the slot of its language was given to. -/
def join (desk : Desk) (language : String) : Desk :=
  { desk with joined := desk.joined ++ (desk.holders.find? language).toList }

/-- A request comes in and starts or joins an attempt if it has to. -/
def receive (desk : Desk) (language : String) : Desk :=
  match desk.registry.slots.find? language with
  | some (.loaded _) => desk
  | some .loading => desk.join language
  | none =>
    match desk.registry.config? language with
    | none => desk
    | some config => desk.depart config

/-- An attempt ends. -/
def land (desk : Desk) (attempt : Attempt) (outcome : Except GrammarError Grammar) : Desk :=
  { desk with
    registry := desk.registry.conclude attempt.config.id outcome
    underWay := desk.underWay.filter (·.number ≠ attempt.number)
    ended := desk.ended ++ [(attempt.number, outcome)] }

/-- The registry keeps other libraries open. -/
def keeping (desk : Desk) (kept : List OpenLibrary) : Desk :=
  { desk with registry := { desk.registry with kept } }

/-- The attempt of a number ends, if it is under way and there is news of it. -/
def close (desk : Desk) (number : Nat) (news : Option (Except GrammarError Grammar)) : Desk :=
  match desk.attempt? number, news with
  | some attempt, some outcome => desk.land attempt outcome
  | _, _ => desk

/-- What a call does to the registry and the books.  A request that is answered on the spot has
    ended the attempt that it has started, if there was need to start one. -/
def call (desk : Desk) : Call → Desk
  | .request libraries language =>
    let (registry, reply) := desk.registry.request libraries language
    { (desk.receive language).close desk.started reply.outcome? with registry }
  | .ask language => desk.receive language
  | .loadBlocking libraries language =>
    { desk with registry := (desk.registry.loadBlocking libraries language).1 }
  | .finish libraries number =>
    match desk.attempt? number with
    | none => desk
    | some attempt =>
      let (registry, news) := desk.registry.complete libraries attempt.config.id
      { desk.close number news with registry }
  | .finishWith outcome number => desk.close number (some outcome)

/-- The desk after some calls. -/
def run (desk : Desk) (calls : List Call) : Desk := calls.foldl call desk

/-! ## Books in order -/

/-- The books are in order.  The attempts in them are those of the registry, at most one at a language,
    and each is under way or has ended, once; slots are being loaded where an attempt is under way, and
    were last given to that very attempt; only configured languages have slots. -/
structure Kept (desk : Desk) : Prop where
  attempts : desk.registry.attempts = desk.underWay.map (·.config)
  distinct : (desk.underWay.map (·.config.id)).Nodup
  numbers : (desk.underWay.map (·.number) ++ desk.ended.map (·.1)).Perm (List.range desk.started)
  loading : ∀ language, desk.registry.isLoading language = true ↔
    ∃ attempt ∈ desk.underWay, attempt.config.id = language
  held : ∀ attempt ∈ desk.underWay, desk.holders.find? attempt.config.id = some attempt.number
  joined : ∀ number ∈ desk.joined, number < desk.started
  supported : ∀ language slot, desk.registry.slots.find? language = some slot →
    desk.registry.isSupported language = true

variable {desk later : Desk} {attempt : Attempt} {config : LanguageConfig} {language : String}

/-- Nothing has been asked yet, so there is nothing to keep in order. -/
theorem ofConfig_kept (config : Config) (dataHome : String) : (ofConfig config dataHome).Kept where
  attempts := rfl
  distinct := .nil
  numbers := .refl _
  loading _ := ⟨(nomatch ·), fun ⟨_, h, _⟩ => nomatch h⟩
  held _ h := nomatch h
  joined _ h := nomatch h
  supported _ _ h := nomatch h

namespace Kept

/-- No number is in the books twice. -/
theorem numbers_nodup (h : desk.Kept) :
    (desk.underWay.map (·.number) ++ desk.ended.map (·.1)).Nodup :=
  h.numbers.nodup_iff.2 List.nodup_range

/-- Numbers are given out in order. -/
theorem number_lt (h : desk.Kept) (underWay : attempt ∈ desk.underWay) :
    attempt.number < desk.started :=
  List.mem_range.1 (h.numbers.subset (List.mem_append_left _ (List.mem_map_of_mem underWay)))

/-- An attempt is told by its number. -/
theorem eq_of_number (h : desk.Kept) {other : Attempt} (underWay : attempt ∈ desk.underWay)
    (hother : other ∈ desk.underWay) (same : other.number = attempt.number) : other = attempt :=
  List.inj_on_of_nodup_map (List.nodup_append.1 h.numbers_nodup).1 hother underWay same

/-- At most one attempt at a language is under way. -/
theorem eq_of_language (h : desk.Kept) {other : Attempt} (underWay : attempt ∈ desk.underWay)
    (hother : other ∈ desk.underWay) (same : other.config.id = attempt.config.id) :
    other = attempt :=
  List.inj_on_of_nodup_map h.distinct hother underWay same

/-- A slot is being loaded while an attempt at its language is under way. -/
theorem isLoading (h : desk.Kept) (underWay : attempt ∈ desk.underWay) :
    desk.registry.isLoading attempt.config.id = true :=
  (h.loading _).2 ⟨attempt, underWay, rfl⟩

/-- No attempt is under way at a language whose slot is empty. -/
theorem ne_of_vacant (h : desk.Kept) (vacant : desk.registry.slots.find? language = none)
    (underWay : attempt ∈ desk.underWay) : attempt.config.id ≠ language := by
  rintro rfl
  have hslot := Registry.slot_of_isLoading (h.isLoading underWay)
  rw [vacant] at hslot
  exact nomatch hslot

/-- The same in the registry's own list of attempts. -/
theorem idle_of_vacant (h : desk.Kept) (vacant : desk.registry.slots.find? language = none) :
    ∀ attempt ∈ desk.registry.attempts, attempt.id ≠ language := by
  rw [h.attempts]
  intro config hconfig
  obtain ⟨attempt, hattempt, rfl⟩ := List.mem_map.1 hconfig
  exact h.ne_of_vacant vacant hattempt

/-- The other attempts are those at other languages. -/
theorem filter_number (h : desk.Kept) (underWay : attempt ∈ desk.underWay) :
    desk.underWay.filter (·.number ≠ attempt.number) =
      desk.underWay.filter (·.config.id ≠ attempt.config.id) := by
  -- A second attempt would be told apart neither by its number nor by its language.
  refine List.filter_congr fun other hother => decide_eq_decide.2 ⟨?_, ?_⟩
  · intro hne heq
    exact hne (congrArg _ (h.eq_of_language underWay hother heq))
  · intro hne heq
    exact hne (congrArg (·.config.id) (h.eq_of_number underWay hother heq))

/-- A request starts an attempt. -/
theorem depart (h : desk.Kept) (configured : desk.registry.config? config.id = some config)
    (vacant : desk.registry.slots.find? config.id = none) : (desk.depart config).Kept where
  attempts := by
    rw [Desk.depart, Registry.launch, h.attempts, List.map_append]
    rfl
  distinct := by
    rw [Desk.depart, List.map_append, List.map_cons, List.map_nil]
    -- No attempt is under way at a language whose slot is empty.
    refine List.nodup_append.2 ⟨h.distinct, List.nodup_singleton _, ?_⟩
    intro a ha b hb
    obtain ⟨attempt, hattempt, rfl⟩ := List.mem_map.1 ha
    rw [List.mem_singleton.1 hb]
    exact h.ne_of_vacant vacant hattempt
  numbers := by
    -- The new number follows all those that have been given out.
    rw [Desk.depart, List.range_succ, List.map_append, List.append_assoc]
    exact List.perm_middle.trans ((h.numbers.cons _).trans (List.perm_append_singleton _ _).symm)
  loading other := by
    have hloading := Registry.isLoading_insert desk.registry config.id other .loading
    -- The slot of the new attempt is being loaded now, and every other one as before.
    by_cases heq : other = config.id
    · rw [if_pos heq] at hloading
      exact ⟨fun _ => ⟨_, List.mem_append_right _ List.mem_cons_self, heq.symm⟩, fun _ => hloading⟩
    · rw [if_neg heq] at hloading
      rw [show (desk.depart config).registry.isLoading other = _ from hloading, h.loading]
      constructor
      · rintro ⟨attempt, hattempt, hid⟩
        exact ⟨attempt, List.mem_append_left _ hattempt, hid⟩
      · rintro ⟨attempt, hattempt, hid⟩
        rcases List.mem_append.1 hattempt with hold | hnew
        · exact ⟨attempt, hold, hid⟩
        · rw [List.mem_singleton.1 hnew] at hid
          exact absurd hid.symm heq
  held attempt hattempt := by
    -- The slot has been given to the new attempt; the others are at other languages.
    rw [Desk.depart, Table.find?_insert]
    rcases List.mem_append.1 hattempt with hold | hnew
    · rw [if_neg (h.ne_of_vacant vacant hold)]
      exact h.held attempt hold
    · rw [List.mem_singleton.1 hnew, if_pos rfl]
  joined number hnumber := by
    rcases List.mem_append.1 hnumber with hold | hnew
    · exact Nat.lt_succ_of_lt (h.joined number hold)
    · rw [List.mem_singleton.1 hnew]
      exact Nat.lt_succ_self _
  supported other slot hslot := by
    -- The one slot that is new is that of a language with settings.
    rw [Desk.depart, Registry.launch, Table.find?_insert] at hslot
    split at hslot
    · next heq => rw [heq]; exact Option.isSome_iff_exists.2 ⟨config, configured⟩
    · exact h.supported other slot hslot

/-- A request joins an attempt under way. -/
theorem join (h : desk.Kept) (underWay : attempt ∈ desk.underWay) :
    Kept { desk with joined := desk.joined ++ [attempt.number] } where
  attempts := h.attempts
  distinct := h.distinct
  numbers := h.numbers
  loading := h.loading
  held := h.held
  joined number hnumber := by
    rcases List.mem_append.1 hnumber with hold | hnew
    · exact h.joined number hold
    · rw [List.mem_singleton.1 hnew]
      exact h.number_lt underWay
  supported := h.supported

/-- An attempt ends. -/
theorem land (h : desk.Kept) (underWay : attempt ∈ desk.underWay)
    (outcome : Except GrammarError Grammar) : (desk.land attempt outcome).Kept where
  attempts := by
    rw [Desk.land, Registry.conclude_attempts, h.attempts, List.filter_map,
      h.filter_number underWay]
    rfl
  distinct := (List.filter_sublist.map _).nodup h.distinct
  numbers := by
    -- The number goes from the attempts under way to those that have ended.
    have hmem : attempt.number ∈ desk.underWay.map (·.number) := List.mem_map_of_mem underWay
    have herase : (desk.underWay.filter (·.number ≠ attempt.number)).map (·.number) =
        (desk.underWay.map (·.number)).erase attempt.number := by
      rw [(List.nodup_append.1 h.numbers_nodup).1.erase_eq_filter, List.filter_map]
      exact congrArg _ (List.filter_congr fun other _ => by simp [bne, beq_eq_decide])
    rw [Desk.land, herase, List.map_append, ← List.append_assoc]
    refine (List.perm_append_singleton _ _).trans (List.Perm.trans ?_ h.numbers)
    exact (List.perm_cons_erase hmem).symm.append_right _
  loading other := by
    have hloading := Registry.isLoading_settle
      { desk.registry with attempts := desk.registry.attempts.filter (·.id ≠ attempt.config.id) }
      attempt.config.id other outcome
    rw [show (desk.land attempt outcome).registry.isLoading other = _ from hloading]
    split
    · next heq =>
      -- There was no second attempt at the language.
      refine ⟨(nomatch ·), ?_⟩
      rintro ⟨rest, hrest, hid⟩
      rw [Desk.land, h.filter_number underWay] at hrest
      exact absurd (hid.trans heq) (of_decide_eq_true (List.mem_filter.1 hrest).2)
    · next hne =>
      refine (h.loading other).trans ⟨?_, ?_⟩
      · rintro ⟨rest, hrest, hid⟩
        refine ⟨rest, ?_, hid⟩
        rw [Desk.land, h.filter_number underWay]
        exact List.mem_filter.2 ⟨hrest, decide_eq_true (hid ▸ hne)⟩
      · rintro ⟨rest, hrest, hid⟩
        exact ⟨rest, (List.mem_filter.1 hrest).1, hid⟩
  held rest hrest := h.held rest (List.mem_filter.1 hrest).1
  joined := h.joined
  supported other slot hslot := by
    -- A slot that is there after the end was there before it.
    rw [Desk.land, Registry.slot_conclude (h.isLoading underWay)] at hslot
    unfold Registry.isSupported Registry.config?
    rw [Desk.land, Registry.conclude_languages]
    split at hslot
    · next heq =>
      rw [heq]
      exact h.supported _ _ (Registry.slot_of_isLoading (h.isLoading underWay))
    · exact h.supported other slot hslot

/-- A load on the spot changes the slots only where none is being loaded. -/
theorem load (h : desk.Kept) {registry : Registry}
    (attempts : registry.attempts = desk.registry.attempts)
    (loading : ∀ other, registry.isLoading other = desk.registry.isLoading other)
    (supported : ∀ other slot, registry.slots.find? other = some slot →
      registry.isSupported other = true) : Kept { desk with registry } where
  attempts := attempts.trans h.attempts
  distinct := h.distinct
  numbers := h.numbers
  loading other := by rw [loading]; exact h.loading other
  held := h.held
  joined := h.joined
  supported := supported

end Kept

/-! ## What a call can do -/

/-- What can happen at a time at a desk whose books are in order. -/
inductive Step (desk : Desk) : Desk → Prop where
  /-- A request starts an attempt and waits for it. -/
  | depart {config : LanguageConfig}
    (configured : desk.registry.config? config.id = some config)
    (vacant : desk.registry.slots.find? config.id = none) : Step desk (desk.depart config)
  /-- A request joins an attempt. -/
  | join {attempt : Attempt} (underWay : attempt ∈ desk.underWay) :
    Step desk { desk with joined := desk.joined ++ [attempt.number] }
  /-- An attempt ends. -/
  | land {attempt : Attempt} (underWay : attempt ∈ desk.underWay)
    (outcome : Except GrammarError Grammar) : Step desk (desk.land attempt outcome)
  /-- A grammar is loaded on the spot. -/
  | supply {language : String} (configured : desk.registry.isSupported language = true)
    (vacant : desk.registry.slots.find? language = none) (grammar : Grammar) :
    Step desk { desk with registry := { desk.registry with
      slots := desk.registry.slots.insert language (.loaded grammar) } }
  /-- Other libraries are open. -/
  | keep (kept : List OpenLibrary) : Step desk (desk.keeping kept)

/-- Each step leaves the books in order. -/
theorem Kept.step (h : desk.Kept) (step : desk.Step later) : later.Kept := by
  cases step with
  | depart configured vacant => exact h.depart configured vacant
  | join underWay => exact h.join underWay
  | land underWay outcome => exact h.land underWay outcome
  | @supply language configured vacant grammar =>
    -- A slot that was empty is no slot being loaded, before or after.
    refine h.load rfl (fun other => ?_) (fun other slot hslot => ?_)
    · rw [Registry.isLoading_insert]
      split
      · next heq => rw [heq, Registry.isLoading_of_vacant vacant]; rfl
      · rfl
    · rw [Table.find?_insert] at hslot
      split at hslot
      · next heq => rw [heq]; exact configured
      · exact h.supported other slot hslot
  | keep kept => exact h.load rfl (fun _ => rfl) h.supported

/-- What stays for good: the settings, the grammars in their slots and the answers. -/
structure Onward (desk later : Desk) : Prop where
  languages : later.registry.languages = desk.registry.languages
  loaded : ∀ language grammar, desk.registry.slots.find? language = some (.loaded grammar) →
    later.registry.slots.find? language = some (.loaded grammar)
  ended : desk.ended <+: later.ended

/-- What there is now is still there now. -/
theorem Onward.refl (desk : Desk) : desk.Onward desk := ⟨rfl, fun _ _ h => h, List.prefix_rfl⟩

/-- What stays in two steps stays. -/
theorem Onward.trans {a b c : Desk} (hab : a.Onward b) (hbc : b.Onward c) : a.Onward c where
  languages := hbc.languages.trans hab.languages
  loaded language grammar h := hbc.loaded language grammar (hab.loaded language grammar h)
  ended := hab.ended.trans hbc.ended

/-- Steps go into empty slots and into slots that are being loaded. -/
theorem Kept.onward (h : desk.Kept) (step : desk.Step later) : desk.Onward later := by
  cases step with
  | @depart config configured vacant =>
    refine ⟨rfl, fun other grammar loaded => ?_, List.prefix_rfl⟩
    -- The grammar stands in another slot, as this one was empty.
    have hne : other ≠ config.id := by
      rintro rfl
      rw [vacant] at loaded
      exact nomatch loaded
    exact (Table.find?_insert _ _ _ _).trans ((if_neg hne).trans loaded)
  | join underWay => exact ⟨rfl, fun _ _ loaded => loaded, List.prefix_rfl⟩
  | @land attempt underWay outcome =>
    have hloading := h.isLoading underWay
    refine ⟨Registry.conclude_languages _ _ _, fun other grammar loaded => ?_,
      List.prefix_append _ _⟩
    -- It stands in another slot, as this one was being loaded.
    have hne : other ≠ attempt.config.id := by
      rintro rfl
      rw [Registry.slot_of_isLoading hloading] at loaded
      exact nomatch loaded
    exact (Registry.slot_conclude hloading outcome other).trans ((if_neg hne).trans loaded)
  | @supply language configured vacant grammar =>
    refine ⟨rfl, fun other found loaded => ?_, List.prefix_rfl⟩
    have hne : other ≠ language := by
      rintro rfl
      rw [vacant] at loaded
      exact nomatch loaded
    exact (Table.find?_insert _ _ _ _).trans ((if_neg hne).trans loaded)
  | keep kept => exact ⟨rfl, fun _ _ loaded => loaded, List.prefix_rfl⟩

/-! ## Calls -/

/-- Without news an attempt goes on. -/
theorem close_none (desk : Desk) (number : Nat) : desk.close number none = desk := by
  unfold close
  split
  · next h => exact nomatch h
  · rfl

/-- An attempt that is under way ends with the news of it. -/
theorem close_of_attempt? (found : desk.attempt? attempt.number = some attempt)
    (outcome : Except GrammarError Grammar) :
    desk.close attempt.number (some outcome) = desk.land attempt outcome := by
  unfold close
  rw [found]

/-- News of an attempt that is over changes nothing. -/
theorem close_of_idle {number : Nat} (idle : desk.attempt? number = none)
    (news : Option (Except GrammarError Grammar)) : desk.close number news = desk := by
  unfold close
  rw [idle]

/-- An attempt under way is found under its number. -/
theorem Kept.attempt?_eq_some (h : desk.Kept) (underWay : attempt ∈ desk.underWay) :
    desk.attempt? attempt.number = some attempt := by
  cases hfound : desk.attempt? attempt.number with
  | none => exact absurd (beq_self_eq_true _) (List.find?_eq_none.1 hfound attempt underWay)
  | some other =>
    -- The one that is found has the same number, and so is the same.
    have hsame := List.find?_some hfound
    rw [h.eq_of_number underWay (List.mem_of_find?_eq_some hfound) (eq_of_beq hsame)]

/-- The next number is not in use. -/
theorem Kept.attempt?_started (h : desk.Kept) : desk.attempt? desk.started = none := by
  refine List.find?_eq_none.2 fun attempt hattempt heq => ?_
  exact absurd (eq_of_beq heq) (Nat.ne_of_lt (h.number_lt hattempt))

/-- It is also the one that the registry finds for its language. -/
theorem Kept.find?_attempts (h : desk.Kept) (underWay : attempt ∈ desk.underWay) :
    desk.registry.attempts.find? (·.id == attempt.config.id) = some attempt.config := by
  rw [h.attempts]
  cases hfound : (desk.underWay.map (·.config)).find? (·.id == attempt.config.id) with
  | none =>
    exact absurd (beq_self_eq_true _)
      (List.find?_eq_none.1 hfound _ (List.mem_map_of_mem underWay))
  | some config =>
    obtain ⟨other, hother, rfl⟩ := List.mem_map.1 (List.mem_of_find?_eq_some hfound)
    have hsame := List.find?_some hfound
    rw [h.eq_of_language underWay hother (eq_of_beq hsame)]

/-- There is no attempt to start or to join: the grammar is there, or never will be. -/
def Idle (desk : Desk) (language : String) : Prop :=
  (∃ grammar, desk.registry.slots.find? language = some (.loaded grammar)) ∨
    desk.registry.slots.find? language = none ∧ desk.registry.config? language = none

/-- A request that has nothing to wait for changes nothing. -/
theorem receive_of_idle (idle : desk.Idle language) : desk.receive language = desk := by
  unfold receive
  rcases idle with ⟨grammar, hslot⟩ | ⟨hslot, hconfig⟩
  · rw [hslot]
  · rw [hslot, hconfig]

/-- A request for what is being loaded joins the attempt under way. -/
theorem Kept.receive_of_underWay (h : desk.Kept) (underWay : attempt ∈ desk.underWay) :
    desk.receive attempt.config.id = { desk with joined := desk.joined ++ [attempt.number] } := by
  unfold receive
  rw [Registry.slot_of_isLoading (h.isLoading underWay)]
  unfold Desk.join
  rw [h.held attempt underWay]
  rfl

/-- A request at an empty slot starts an attempt. -/
theorem receive_of_vacant (vacant : desk.registry.slots.find? language = none)
    (configured : desk.registry.config? language = some config) :
    desk.receive language = desk.depart config := by
  unfold receive
  rw [vacant, configured]

/-- A request meets an attempt under way, an empty slot that it can try to fill, or neither. -/
theorem Kept.slot_cases (h : desk.Kept) (language : String) :
    (∃ attempt ∈ desk.underWay, attempt.config.id = language) ∨
      (∃ config, desk.registry.slots.find? language = none ∧
        desk.registry.config? language = some config) ∨
      desk.Idle language := by
  cases hslot : desk.registry.slots.find? language with
  | none =>
    cases hconfig : desk.registry.config? language with
    | none => exact .inr (.inr (.inr ⟨hslot, hconfig⟩))
    | some config => exact .inr (.inl ⟨config, rfl, rfl⟩)
  | some slot =>
    cases slot with
    | loading => exact .inl ((h.loading language).1 (beq_iff_eq.2 hslot))
    | loaded grammar => exact .inr (.inr (.inl ⟨grammar, hslot⟩))

/-- An attempt under way ends with what can be opened now: the registry finds that very attempt. -/
theorem Kept.call_finish (h : desk.Kept) (underWay : attempt ∈ desk.underWay)
    (libraries : Libraries) :
    desk.call (.finish libraries attempt.number) =
      (desk.keeping (desk.registry.find libraries attempt.config).1.kept).land attempt
        (desk.registry.find libraries attempt.config).2 := by
  rw [call, h.attempt?_eq_some underWay]
  dsimp only
  rw [Registry.complete_of_attempt (h.find?_attempts underWay)]
  dsimp only
  rw [close_of_attempt? (h.attempt?_eq_some underWay)]
  rfl

/-- An attempt under way ends with any outcome that there is news of. -/
theorem Kept.call_finishWith (h : desk.Kept) (underWay : attempt ∈ desk.underWay)
    (outcome : Except GrammarError Grammar) :
    desk.call (.finishWith outcome attempt.number) = desk.land attempt outcome :=
  close_of_attempt? (h.attempt?_eq_some underWay) outcome

/-- A request that is answered on the spot with no attempt of its own changes nothing. -/
theorem Kept.call_request_of_idle (h : desk.Kept) (idle : desk.Idle language)
    (libraries : Libraries) : desk.call (.request libraries language) = desk := by
  have hregistry : (desk.registry.request libraries language).1 = desk.registry := by
    rcases idle with ⟨grammar, hslot⟩ | ⟨hslot, hconfig⟩
    · rw [(Registry.request_of_loaded hslot libraries).1]
    · rw [(Registry.request_of_unsupported hslot hconfig libraries).1]
  rw [call]
  dsimp only
  -- The news that is handed on is about a number that has not been given out.
  rw [receive_of_idle idle, close_of_idle h.attempt?_started, hregistry]

/-- A request for what is being loaded is told to wait, and that is all. -/
theorem Kept.call_request_of_underWay (h : desk.Kept) (underWay : attempt ∈ desk.underWay)
    (libraries : Libraries) :
    desk.call (.request libraries attempt.config.id) =
      { desk with joined := desk.joined ++ [attempt.number] } := by
  rw [call, (Registry.request_of_isLoading (h.isLoading underWay) libraries).1]
  dsimp only [Reply.outcome?]
  rw [close_none, h.receive_of_underWay underWay]

/-- A request for a grammar of a library starts an attempt and waits for it. -/
theorem call_request_library (vacant : desk.registry.slots.find? language = none)
    (configured : desk.registry.config? language = some config) (library : config.kind = .library)
    (libraries : Libraries) :
    desk.call (.request libraries language) = desk.depart config := by
  rw [call, Registry.request_of_vacant vacant configured, Registry.start_library library]
  dsimp only [Reply.outcome?]
  rw [close_none, receive_of_vacant vacant configured]
  rfl

/-- A request for a builtin grammar starts an attempt and sees it end at once. -/
theorem Kept.call_request_builtin (h : desk.Kept)
    (vacant : desk.registry.slots.find? language = none)
    (configured : desk.registry.config? language = some config) (builtin : config.kind = .builtin)
    (libraries : Libraries) :
    desk.call (.request libraries language) =
      (desk.depart config).call (.finish libraries desk.started) := by
  obtain rfl := Registry.config?_id configured
  have hdeparted := h.depart configured vacant
  have hunderWay : (⟨desk.started, config⟩ : Attempt) ∈ (desk.depart config).underWay :=
    List.mem_append_right _ List.mem_cons_self
  -- The registry does both halves in one go; the books are closed on the attempt that was just opened.
  obtain ⟨hregistry, hnews⟩ :=
    Registry.start_builtin builtin (h.idle_of_vacant vacant) libraries
  have hfound : (desk.depart config).attempt? desk.started = some ⟨desk.started, config⟩ :=
    hdeparted.attempt?_eq_some hunderWay
  rw [call, call, hfound]
  dsimp only
  rw [Registry.request_of_vacant vacant configured, receive_of_vacant vacant configured, hregistry,
    hnews]
  rfl

/-! ## Runs -/

/-- An attempt that ends opens a library first and then lands. -/
theorem Kept.finish_steps (h : desk.Kept) (underWay : attempt ∈ desk.underWay)
    (libraries : Libraries) :
    Relation.ReflTransGen Step desk (desk.call (.finish libraries attempt.number)) := by
  rw [h.call_finish underWay]
  -- Which libraries are kept open does not matter to what happens next.
  generalize (desk.registry.find libraries attempt.config).1.kept = kept
  exact .tail (.single (.keep kept)) (@Step.land (desk.keeping kept) attempt underWay _)

/-- Every call is made of steps. -/
theorem Kept.call_steps (h : desk.Kept) (call : Call) :
    Relation.ReflTransGen Step desk (desk.call call) := by
  cases call with
  | request libraries language =>
    -- A request joins an attempt, starts one that may end at once, or does nothing.
    rcases h.slot_cases language with
      ⟨attempt, hattempt, rfl⟩ | ⟨config, hvacant, hconfig⟩ | hidle
    · rw [h.call_request_of_underWay hattempt]
      exact .single (.join hattempt)
    · have hid := Registry.config?_id hconfig
      have hdepart : desk.Step (desk.depart config) := .depart (hid ▸ hconfig) (hid ▸ hvacant)
      cases hkind : config.kind with
      | library =>
        rw [call_request_library hvacant hconfig hkind]
        exact .single hdepart
      | builtin =>
        rw [h.call_request_builtin hvacant hconfig hkind]
        -- The attempt that has just been started ends in the same call.
        exact .head hdepart ((h.step hdepart).finish_steps
          (List.mem_append_right _ List.mem_cons_self) libraries)
    · rw [h.call_request_of_idle hidle]
  | ask language =>
    -- Up to the point where an attempt could end, a request joins, starts or does nothing.
    rcases h.slot_cases language with
      ⟨attempt, hattempt, rfl⟩ | ⟨config, hvacant, hconfig⟩ | hidle
    · rw [Desk.call, h.receive_of_underWay hattempt]
      exact .single (.join hattempt)
    · have hid := Registry.config?_id hconfig
      rw [Desk.call, receive_of_vacant hvacant hconfig]
      exact .single (.depart (hid ▸ hconfig) (hid ▸ hvacant))
    · rw [Desk.call, receive_of_idle hidle]
  | loadBlocking libraries language =>
    rw [Desk.call]
    -- Who cannot wait is turned away, tries on the spot, or gets what there is.
    rcases h.slot_cases language with
      ⟨attempt, hattempt, rfl⟩ | ⟨config, hvacant, hconfig⟩ | ⟨grammar, hslot⟩ | ⟨hvacant, hconfig⟩
    · rw [(Registry.request_of_isLoading (h.isLoading hattempt) libraries).2]
    · rw [Registry.loadBlocking_of_vacant hvacant hconfig]
      generalize (desk.registry.find libraries config).1.kept = kept
      split
      · next grammar hopened =>
        have hsupported := Option.isSome_iff_exists.2 ⟨config, hconfig⟩
        exact .tail (.single (.keep kept))
          (@Step.supply (desk.keeping kept) language hsupported hvacant grammar)
      · exact .single (.keep kept)
    · rw [(Registry.request_of_loaded hslot libraries).2]
    · rw [(Registry.request_of_unsupported hvacant hconfig libraries).2]
  | finish libraries number =>
    -- Only the end of an attempt under way is of any consequence.
    cases hfound : desk.attempt? number with
    | none => rw [Desk.call, hfound]
    | some attempt =>
      have hnumber := List.find?_some hfound
      rw [← eq_of_beq hnumber]
      exact h.finish_steps (List.mem_of_find?_eq_some hfound) libraries
  | finishWith outcome number =>
    cases hfound : desk.attempt? number with
    | none => rw [Desk.call, close_of_idle hfound]
    | some attempt =>
      have hnumber := List.find?_some hfound
      have hattempt := List.mem_of_find?_eq_some hfound
      rw [← eq_of_beq hnumber, h.call_finishWith hattempt]
      exact .single (.land hattempt outcome)

/-- On the steps, as they come. -/
theorem Kept.steps (h : desk.Kept) (steps : Relation.ReflTransGen Step desk later) :
    later.Kept ∧ desk.Onward later := by
  -- Books in order stay in order, and from step to step what is settled stays settled.
  induction steps with
  | refl => exact ⟨h, .refl desk⟩
  | tail _ last ih => exact ⟨ih.1.step last, ih.2.trans (ih.1.onward last)⟩

/-- Whatever is called, the books stay in order and what is settled stays. -/
theorem Kept.run (h : desk.Kept) (calls : List Call) :
    (desk.run calls).Kept ∧ desk.Onward (desk.run calls) := by
  -- Each call is made of steps, which leave the books in order for the next one.
  induction calls generalizing desk with
  | nil => exact ⟨h, .refl desk⟩
  | cons call calls ih =>
    obtain ⟨hcalled, honward⟩ := h.steps (h.call_steps call)
    exact ⟨(ih hcalled).1, honward.trans (ih hcalled).2⟩

/-! ## What callers can rely on -/

/-- An attempt has ended: its outcome is in its slot, or the slot is empty, and is its answer. -/
def Settles (desk : Desk) (attempt : Attempt) (outcome : Except GrammarError Grammar)
    (later : Desk) : Prop :=
  later.registry.slots.find? attempt.config.id = outcome.toOption.map .loaded ∧
    later.ended = desk.ended ++ [(attempt.number, outcome)]

/-- What can be relied on at a desk. -/
structure Orderly (desk : Desk) : Prop where
  /-- The attempts in the books are those of the registry. -/
  booked : desk.registry.attempts = desk.underWay.map (·.config)
  /-- At most one attempt at a language is under way, and there is one just while the slot is being
      loaded. -/
  single : ∀ language, desk.underWay.countP (·.config.id = language) =
    (desk.registry.isLoading language).toNat
  /-- Who cannot wait is turned away while an attempt is under way, and that changes nothing. -/
  pending : ∀ attempt ∈ desk.underWay, ∀ libraries,
    (desk.registry.loadBlocking libraries attempt.config.id).2 =
        .error (.pending attempt.config.id) ∧
      desk.call (.loadBlocking libraries attempt.config.id) = desk
  /-- Who can wait joins the attempt under way, and that changes nothing else. -/
  joins : ∀ attempt ∈ desk.underWay, ∀ libraries,
    (desk.registry.request libraries attempt.config.id).2 = .waiting ∧
      ∀ call ∈ [.request libraries attempt.config.id, .ask attempt.config.id],
        desk.call call = { desk with joined := desk.joined ++ [attempt.number] }
  /-- A request waits as long as the attempt that it joined is under way, and its answer is the only
      outcome of that attempt. -/
  answered : ∀ number ∈ desk.joined,
    (∃ attempt ∈ desk.underWay, attempt.number = number) ∧
        (∀ outcome, (number, outcome) ∉ desk.ended) ∨
      (∀ attempt ∈ desk.underWay, attempt.number ≠ number) ∧
        ∃! outcome, (number, outcome) ∈ desk.ended
  /-- An answer stays the same. -/
  lasting : ∀ number outcome, (number, outcome) ∈ desk.ended →
    ∀ more, (number, outcome) ∈ (desk.run more).ended
  /-- An attempt that ends, with what can be opened or otherwise, finds its slot being loaded and given
      to no one else since. -/
  settles : ∀ attempt ∈ desk.underWay,
    desk.registry.isLoading attempt.config.id = true ∧
      desk.holders.find? attempt.config.id = some attempt.number ∧
      (∀ outcome,
        desk.Settles attempt outcome (desk.call (.finishWith outcome attempt.number))) ∧
      ∀ libraries, desk.Settles attempt (desk.registry.find libraries attempt.config).2
        (desk.call (.finish libraries attempt.number))
  /-- A grammar that has been loaded stays, and everyone who asks gets it. -/
  loaded : ∀ language grammar, desk.registry.loaded? language = some grammar →
    ∀ more, (desk.run more).registry.loaded? language = some grammar ∧ ∀ libraries,
      (desk.run more).registry.request libraries language =
          ((desk.run more).registry, .ready grammar) ∧
        (desk.run more).registry.loadBlocking libraries language =
          ((desk.run more).registry, .ok grammar)
  /-- At an empty slot, such as a failed attempt leaves behind, a request makes a new attempt: it joins
      that attempt or is told how it ended. -/
  retried : ∀ language config, desk.registry.slots.find? language = none →
    desk.registry.config? language = some config →
    desk.call (.ask language) = desk.depart config ∧ ∀ libraries,
      (desk.call (.request libraries language)).started = desk.started + 1 ∧
      (desk.call (.request libraries language)).joined = desk.joined ++ [desk.started] ∧
      match (desk.registry.request libraries language).2.outcome? with
      | none => ⟨desk.started, config⟩ ∈ (desk.call (.request libraries language)).underWay
      | some outcome =>
        desk.Settles ⟨desk.started, config⟩ outcome (desk.call (.request libraries language))
  /-- At an empty slot a load on the spot makes a new attempt as well. -/
  reopened : ∀ language config, desk.registry.slots.find? language = none →
    desk.registry.config? language = some config → ∀ libraries,
    (desk.registry.loadBlocking libraries language).2 =
        (desk.registry.find libraries config).2 ∧
      (desk.registry.loadBlocking libraries language).1.slots.find? language =
        (desk.registry.find libraries config).2.toOption.map .loaded
  /-- A language that is not configured has no slot. -/
  configured : ∀ language, desk.registry.isSupported language = false →
    desk.registry.slots.find? language = none

namespace Kept

/-- The number of attempts at a language is one or none, as its slot has it. -/
theorem count_underWay (h : desk.Kept) (language : String) :
    desk.underWay.countP (·.config.id = language) =
      (desk.registry.isLoading language).toNat := by
  have hcount : (desk.underWay.map (·.config.id)).count language = _ := h.distinct.count
  rw [List.count_eq_countP, List.countP_map] at hcount
  -- As no language is counted twice, the count says whether there is an attempt at all.
  refine Eq.trans (List.countP_congr fun attempt _ => by simp) (hcount.trans ?_)
  split
  · next hmem =>
    rw [(h.loading language).2 (List.mem_map.1 hmem)]
    rfl
  · next hmem =>
    have hidle : desk.registry.isLoading language = false :=
      Bool.eq_false_iff.2 fun hloading => hmem (List.mem_map.2 ((h.loading language).1 hloading))
    rw [hidle]
    rfl

/-- An attempt that lands settles its slot and leaves its answer. -/
theorem settles_land (h : desk.Kept) (underWay : attempt ∈ desk.underWay)
    (outcome : Except GrammarError Grammar) :
    desk.Settles attempt outcome (desk.land attempt outcome) := by
  refine ⟨?_, rfl⟩
  exact (Registry.slot_conclude (h.isLoading underWay) outcome _).trans (if_pos rfl)

/-- So does one that ends with what can be opened, whichever libraries are kept open then. -/
theorem settles_finish (h : desk.Kept) (underWay : attempt ∈ desk.underWay)
    (libraries : Libraries) :
    desk.Settles attempt (desk.registry.find libraries attempt.config).2
      (desk.call (.finish libraries attempt.number)) := by
  rw [h.call_finish underWay]
  have hkept := h.step (.keep (desk.registry.find libraries attempt.config).1.kept)
  exact hkept.settles_land underWay _

/-- A request that has joined an attempt waits for it or has its answer. -/
theorem answered (h : desk.Kept) {number : Nat} (joined : number ∈ desk.joined) :
    (∃ attempt ∈ desk.underWay, attempt.number = number) ∧
        (∀ outcome, (number, outcome) ∉ desk.ended) ∨
      (∀ attempt ∈ desk.underWay, attempt.number ≠ number) ∧
        ∃! outcome, (number, outcome) ∈ desk.ended := by
  obtain ⟨-, hended, hapart⟩ := List.nodup_append.1 h.numbers_nodup
  have hmem := h.numbers.symm.subset (List.mem_range.2 (h.joined number joined))
  -- Each number stands in one of the two lists, and there once.
  rcases List.mem_append.1 hmem with hunderWay | hover
  · refine .inl ⟨List.mem_map.1 hunderWay, fun outcome houtcome => ?_⟩
    exact hapart _ hunderWay _ (List.mem_map_of_mem houtcome) rfl
  · obtain ⟨⟨_, outcome⟩, houtcome, rfl⟩ := List.mem_map.1 hover
    refine .inr ⟨fun attempt hattempt heq => ?_, outcome, houtcome, fun other hother => ?_⟩
    · exact hapart _ (List.mem_map_of_mem hattempt) _ hover heq
    -- The list of answers has no number twice, so a second answer would be the same.
    · have hsame := List.inj_on_of_nodup_map hended hother houtcome rfl
      exact congrArg Prod.snd hsame

/-- A request at an empty slot starts an attempt, and joins it or is told at once how it ended. -/
theorem retried (h : desk.Kept) (vacant : desk.registry.slots.find? language = none)
    (configured : desk.registry.config? language = some config) (libraries : Libraries) :
    (desk.call (.request libraries language)).started = desk.started + 1 ∧
      (desk.call (.request libraries language)).joined = desk.joined ++ [desk.started] ∧
      match (desk.registry.request libraries language).2.outcome? with
      | none => ⟨desk.started, config⟩ ∈ (desk.call (.request libraries language)).underWay
      | some outcome =>
        desk.Settles ⟨desk.started, config⟩ outcome (desk.call (.request libraries language)) := by
  have hunderWay : (⟨desk.started, config⟩ : Attempt) ∈ (desk.depart config).underWay :=
    List.mem_append_right _ List.mem_cons_self
  -- A library is opened later, and a builtin grammar is there when the request returns.
  cases hkind : config.kind with
  | library =>
    rw [call_request_library vacant configured hkind, Registry.request_of_vacant vacant configured,
      Registry.start_library hkind]
    exact ⟨rfl, rfl, hunderWay⟩
  | builtin =>
    obtain rfl := Registry.config?_id configured
    have hdeparted := h.depart configured vacant
    have hnews : (desk.registry.request libraries config.id).2.outcome? =
        some ((desk.depart config).registry.find libraries config).2 := by
      rw [Registry.request_of_vacant vacant configured,
        (Registry.start_builtin hkind (h.idle_of_vacant vacant) libraries).2]
      -- The attempt that ends is the one that the request has just started.
      exact congrArg Prod.snd (Registry.complete_of_attempt (hdeparted.find?_attempts hunderWay) _)
    rw [hnews, h.call_request_builtin vacant configured hkind]
    refine ⟨?_, ?_, hdeparted.settles_finish hunderWay libraries⟩
    · rw [hdeparted.call_finish hunderWay]
      rfl
    · rw [hdeparted.call_finish hunderWay]
      rfl

/-- Whoever keeps the books in order can be relied on. -/
theorem orderly (h : desk.Kept) : desk.Orderly where
  booked := h.attempts
  single := h.count_underWay
  pending attempt underWay libraries := by
    have hrefused := (Registry.request_of_isLoading (h.isLoading underWay) libraries).2
    rw [Desk.call, hrefused]
    exact ⟨rfl, rfl⟩
  joins attempt underWay libraries := by
    refine ⟨?_, fun call hcall => ?_⟩
    -- The registry is asked first, and then the desk, for both kinds of request.
    · rw [(Registry.request_of_isLoading (h.isLoading underWay) libraries).1]
    · rcases List.mem_pair.1 hcall with rfl | rfl
      · exact h.call_request_of_underWay underWay libraries
      · exact h.receive_of_underWay underWay
  answered number joined := h.answered joined
  lasting number outcome ended more := (h.run more).2.ended.subset ended
  settles attempt underWay := by
    refine ⟨h.isLoading underWay, h.held attempt underWay, fun outcome => ?_, fun libraries => ?_⟩
    · rw [h.call_finishWith underWay]
      exact h.settles_land underWay outcome
    · exact h.settles_finish underWay libraries
  loaded language grammar loaded more := by
    have hslot := (h.run more).2.loaded language grammar (Registry.slot_of_loaded? loaded)
    refine ⟨?_, Registry.request_of_loaded hslot⟩
    rw [Registry.loaded?, hslot]
  retried language config vacant configured :=
    ⟨receive_of_vacant vacant configured, h.retried vacant configured⟩
  reopened language config vacant configured libraries := by
    refine ⟨?_, Registry.slot_loadBlocking_of_vacant vacant configured libraries⟩
    rw [Registry.loadBlocking_of_vacant vacant configured]
  configured language unsupported := by
    -- A slot would be that of a language with settings.
    cases hslot : desk.registry.slots.find? language with
    | none => rfl
    | some slot =>
      rw [h.supported language slot hslot] at unsupported
      exact absurd unsupported (by decide)

end Kept

/-- After any calls in any order the registry still has the languages of its configuration, and all
    that callers rely on holds of it. -/
theorem slots_orderly (config : Config) (dataHome : String) (calls : List Call) :
    ((ofConfig config dataHome).run calls).registry.languages = config.languages ∧
      ((ofConfig config dataHome).run calls).Orderly := by
  -- At first the books are in order, and every call keeps them so.
  obtain ⟨hkept, honward⟩ := (ofConfig_kept config dataHome).run calls
  exact ⟨honward.languages, hkept.orderly⟩

/-- Two requests share an attempt that breaks down, while someone who cannot wait is turned away; the
    next request makes another attempt, which succeeds. -/
def sharedThenRetried : List Call := [
  .ask "json",
  .request {} "json",
  .loadBlocking {} "json",
  .finishWith (.error (.task "cancelled")) 0,
  .request {} "json"]

/-- A failure that was shared is followed by a success. -/
theorem slots_orderly_retried :
    ((ofConfig {} "/home").run sharedThenRetried).Orderly ∧
      ((ofConfig {} "/home").run sharedThenRetried).joined = [0, 0, 1] ∧
      ((ofConfig {} "/home").run sharedThenRetried).ended.map
        (fun answer => (answer.1, answer.2.toOption.isSome)) = [(0, false), (1, true)] ∧
      ((ofConfig {} "/home").run sharedThenRetried).registry.didLoad "json" = true :=
  ⟨(slots_orderly {} "/home" sharedThenRetried).2, by decide, by decide, by decide⟩

end Desk

end LiveTree
