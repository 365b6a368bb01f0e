import LiveTree.Config.Format
import Mathlib.Data.List.Nodup
import Mathlib.Tactic.Common

/-!
# Settings that are read and written

Settings are read with defaults for what is absent, completed by the builtin languages they do not
mention, and then checked.  The check runs on the completed list, yet it comes to a check of the
list as it was read: what is appended never repeats an id.  Completed settings need no more
languages, so written out and read again they come back as they were.
-/

namespace LiveTree

namespace Json

/-! ## Values read back -/

/-- Items that are read back one by one are read back as a list. -/
theorem mapM_map_of_inverse {α β : Type} {write : α → β} {read : β → Option α} (items : List α)
    (inverse : ∀ item ∈ items, read (write item) = some item) :
    (items.map write).mapM read = some items := by
  -- By induction on the items, each of which is read back.
  induction items with
  | nil => rfl
  | cons item rest ih =>
    rw [List.map_cons, List.mapM_cons, inverse item List.mem_cons_self,
      ih fun other among => inverse other (List.mem_cons_of_mem item among)]
    rfl

/-- A list without repetitions is left alone when repetitions are erased. -/
theorem eraseDups_of_nodup {names : List String} (distinct : names.Nodup) :
    names.eraseDups = names := by
  induction names with
  | nil => rfl
  | cons name rest ih =>
    obtain ⟨fresh, distinct⟩ := List.nodup_cons.mp distinct
    have same : (rest.filter fun other => !other == name) = rest := by
      apply List.filter_eq_self.mpr
      intro other among
      simpa using fun alike : other = name => fresh (alike ▸ among)
    rw [List.eraseDups_cons, same, ih distinct]

/-- The members of a record are found as they were written. -/
theorem members?_record (names : List String) {members : List (String × Json)}
    (known : members.map (·.1) = names) (distinct : names.Nodup) :
    members? names (record members) = some members := by
  subst known
  have texts : (members.map fun member => (some member.1, member.2)).mapM
      (fun member => member.1.map fun name => (name, member.2)) = some members :=
    mapM_map_of_inverse members fun _ _ => rfl
  -- No member is passed over, for all of their names are known.
  have kept : (members.filter fun member => (members.map (·.1)).contains member.1) = members := by
    apply List.filter_eq_self.mpr
    intro member among
    simpa using ⟨member.2, among⟩
  simp only [members?, record, texts, Option.bind_eq_bind, Option.bind_some, kept,
    eraseDups_of_nodup distinct, List.length_map, if_true]

/-- A member is looked for past those of other names. -/
theorem member?_cons {α : Type} (written : String) (value : Json) (rest : List (String × Json))
    (name : String) (absent : Option α) (read : Json → Option α) :
    member? ((written, value) :: rest) name absent read =
      if name = written then read value else member? rest name absent read := by
  by_cases same : name = written
  · simp [member?, same]
  · have other : (name == written) = false := by simpa using same
    simp [member?, List.lookup_cons, other, same]

/-- What a member is read as is its default or was read from a value. -/
theorem member?_eq_some {α : Type} {members : List (String × Json)} {name : String}
    {absent : Option α} {read : Json → Option α} {a : α}
    (found : member? members name absent read = some a) :
    (members.lookup name = none ∧ absent = some a) ∨ ∃ value, read value = some a := by
  -- The member is there and is read, or it is absent and has its default.
  unfold member? at found
  split at found
  · exact .inr ⟨_, found⟩
  · exact .inl ⟨‹_›, found⟩

/-- A number that is read below a limit is below it. -/
theorem lt_of_naturalBelow? {limit n : Nat} {value : Json}
    (found : naturalBelow? limit value = some n) : n < limit := by
  unfold naturalBelow? at found
  split at found
  · split at found
    · cases found
      assumption
    · cases found
  · cases found

/-- A text is read back. -/
theorem string?_str (text : String) : string? (.str text) = some text := rfl

/-- A text that may be missing is read back. -/
theorem optionalString?_ofOption (text : Option String) :
    optionalString? (ofOption text) = some text := by
  cases text <;> rfl

/-- Several texts are read back. -/
theorem listOf?_ofStrings (texts : List String) :
    listOf? string? (ofStrings texts) = some texts :=
  mapM_map_of_inverse texts fun _ _ => rfl

end Json

/-! ## Languages and settings read back -/

/-- The kind of a grammar is read back by its name. -/
theorem GrammarKind.ofJson?_name (kind : GrammarKind) : ofJson? (.str kind.name) = some kind := by
  cases kind <;> rfl

/-- The settings of a language are read as they were written. -/
theorem LanguageConfig.ofJson?_toJson (language : LanguageConfig) :
    ofJson? language.toJson = some language := by
  unfold ofJson? toJson
  rw [Json.members?_record memberNames]
  · simp [Json.member?_cons, Json.string?_str, Json.optionalString?_ofOption,
      Json.listOf?_ofStrings, GrammarKind.ofJson?_name]
  · rfl
  · decide

namespace Config

/-- Every number of the settings fits its field. -/
structure Fits (config : Config) : Prop where
  /-- The fields are of 64 bits, but for that of the retries, which has 32. -/
  debounce : config.debounceMs < UInt64.size
  timeout : config.parseTimeoutMs < UInt64.size
  retries : config.maxParseRetries < UInt32.size
  capacity : config.eventCapacity < UInt64.size

/-- A number that was read from a member with a fitting default fits. -/
theorem lt_of_member? {members : List (String × Json)} {name : String} {absent limit n : Nat}
    (default : absent < limit)
    (found : Json.member? members name (some absent) (Json.naturalBelow? limit) = some n) :
    n < limit := by
  -- Either the default was taken, or the number was read with its limit.
  obtain ⟨-, same⟩ | ⟨value, read⟩ := Json.member?_eq_some found
  · cases same
    exact default
  · exact Json.lt_of_naturalBelow? read

/-- Settings that were read fit, and their languages are the builtin ones unless they were given. -/
theorem of_ofJson? {json : Json} {config : Config} (read : ofJson? json = some config) :
    ∃ members, json.members? memberNames = some members ∧ config.Fits ∧
      (members.lookup "languages" = none → config.languages = LanguageConfig.builtins) := by
  -- The members are read one after the other, and each of them has been read.
  simp only [ofJson?, Option.bind_eq_bind, Option.bind_eq_some_iff, Option.pure_def,
    Option.some.injEq] at read
  obtain ⟨members, known, debounce, debounced, timeout, timed, retries, retried, _, _, capacity,
    sized, _, _, languages, listed, rfl⟩ := read
  refine ⟨members, known, ⟨?_, ?_, ?_, ?_⟩, ?_⟩
  · exact lt_of_member? (by decide) debounced
  · exact lt_of_member? (by decide) timed
  · exact lt_of_member? (by decide) retried
  · exact lt_of_member? (by decide) sized
  -- Without the member the default was taken.
  · intro absent
    simpa [Json.member?, absent, eq_comm] using listed

/-- Settings whose numbers fit are read as they were written. -/
theorem ofJson?_toJson {config : Config} (fits : config.Fits) :
    ofJson? config.toJson = some config := by
  -- The languages are read back one by one.
  have languages : Json.listOf? LanguageConfig.ofJson?
      (.array (config.languages.map LanguageConfig.toJson)) = some config.languages :=
    Json.mapM_map_of_inverse _ fun language _ => language.ofJson?_toJson
  unfold ofJson? toJson
  rw [Json.members?_record memberNames]
  · simp [Json.member?_cons, Json.naturalBelow?, Json.bool?, Json.optionalString?_ofOption,
      languages, fits.debounce, fits.timeout, fits.retries, fits.capacity]
  · rfl
  · decide

/-! ## Completed settings -/

/-- The ids of the languages in order. -/
def ids (config : Config) : List String := config.languages.map (·.id)

/-- A language is not found exactly if its id is not mentioned. -/
theorem isNone_language? (config : Config) (id : String) :
    (config.language? id).isNone = decide (id ∉ config.ids) := by
  rw [Bool.eq_iff_iff]
  simp [language?, ids]

/-- Where no id is repeated, each language is found under its own. -/
theorem find?_id_of_mem {languages : List LanguageConfig} {language : LanguageConfig}
    (distinct : (languages.map (·.id)).Nodup) (among : language ∈ languages) :
    languages.find? (·.id == language.id) = some language := by
  -- By induction on the languages: the first has this id, or another language does and the first
  -- does not.
  induction languages with
  | nil => cases among
  | cons first rest ih =>
    obtain ⟨fresh, distinct⟩ := List.nodup_cons.mp distinct
    rcases List.mem_cons.mp among with rfl | later
    · simp
    · have other : first.id ≠ language.id := by
        intro same
        exact fresh (List.mem_map.mpr ⟨language, later, same.symm⟩)
      rw [List.find?_cons_of_neg (by simpa using other), ih distinct later]

/-- Appends a language unless its id is mentioned. -/
def adopt (config : Config) (language : LanguageConfig) : Config :=
  if (config.language? language.id).isNone then
    { config with languages := config.languages ++ [language] }
  else config

/-- Adopting languages one by one, each looked for in the list grown so far, appends those that the
    first list does not mention: of distinct ids none is brought in by an earlier one. -/
theorem foldl_adopt (config : Config) (languages : List LanguageConfig)
    (distinct : (languages.map (·.id)).Nodup) :
    languages.foldl adopt config =
      { config with languages := config.languages ++
          languages.filter fun language => language.id ∉ config.ids } := by
  -- By induction on the languages, for all settings to begin with.
  induction languages generalizing config with
  | nil => simp
  | cons language rest ih =>
    obtain ⟨fresh, distinct⟩ := List.nodup_cons.mp distinct
    rw [List.foldl_cons, ih _ distinct]
    by_cases mentioned : language.id ∈ config.ids
    · have same : config.adopt language = config := by
        rw [adopt, isNone_language?]
        simp [mentioned]
      simp [same, mentioned]
    · have grown : config.adopt language =
          { config with languages := config.languages ++ [language] } := by
        rw [adopt, isNone_language?]
        simp [mentioned]
      -- The rest are looked for in the longer list, where only an id that none of them has is new.
      have same : ∀ other ∈ rest,
          decide (other.id ∉ (config.adopt language).ids) = decide (other.id ∉ config.ids) := by
        intro other among
        have apart : other.id ≠ language.id := by
          intro same
          exact fresh (List.mem_map.mpr ⟨other, among, same⟩)
        simp [grown, ids, apart]
      rw [List.filter_congr same, grown]
      simp [mentioned]

/-- Completed settings have the builtin languages that were not mentioned. -/
theorem withBuiltins_eq (config : Config) :
    config.withBuiltins =
      { config with languages := config.languages ++
          LanguageConfig.builtins.filter fun language => language.id ∉ config.ids } := by
  simp only [withBuiltins, isNone_language?]

/-- Settings are completed as if the builtin languages were adopted one by one. -/
theorem withBuiltins_eq_foldl (config : Config) :
    config.withBuiltins = LanguageConfig.builtins.foldl adopt config := by
  rw [withBuiltins_eq, foldl_adopt config _ (by decide)]

/-- The ids of completed settings are their own and those of the builtin languages that they lack.
    -/
theorem ids_withBuiltins (config : Config) :
    config.withBuiltins.ids =
      config.ids ++ (LanguageConfig.builtins.map (·.id)).filter (· ∉ config.ids) := by
  rw [withBuiltins_eq, ids, List.map_append, List.filter_map]
  rfl

/-- No builtin id is missing from completed settings. -/
theorem mem_ids_withBuiltins (config : Config) {language : LanguageConfig}
    (builtin : language ∈ LanguageConfig.builtins) : language.id ∈ config.withBuiltins.ids := by
  rw [ids_withBuiltins, List.mem_append]
  by_cases mentioned : language.id ∈ config.ids
  · exact .inl mentioned
  · refine .inr (List.mem_filter.mpr ⟨List.mem_map_of_mem builtin, ?_⟩)
    simpa using mentioned

/-- Completing settings repeats no id that they did not repeat before. -/
theorem nodup_ids_withBuiltins (config : Config) :
    config.withBuiltins.ids.Nodup ↔ config.ids.Nodup := by
  have builtin : (LanguageConfig.builtins.map (·.id)).Nodup := by decide
  rw [ids_withBuiltins, List.nodup_append']
  constructor
  · exact fun distinct => distinct.1
  · intro distinct
    refine ⟨distinct, builtin.filter _, ?_⟩
    -- An id on both sides would have been appended although it was mentioned.
    intro id own appended
    have fresh : id ∉ config.ids := by simpa using (List.mem_filter.mp appended).2
    exact fresh own

/-- Settings that mention every builtin language are complete. -/
theorem withBuiltins_of_mem {config : Config}
    (all : ∀ language ∈ LanguageConfig.builtins, language.id ∈ config.ids) :
    config.withBuiltins = config := by
  have none : (LanguageConfig.builtins.filter fun language => language.id ∉ config.ids) = [] := by
    apply List.filter_eq_nil_iff.mpr
    intro language builtin
    simpa using all language builtin
  rw [withBuiltins_eq, none, List.append_nil]

/-! ## The check -/

/-- No id is found repeated exactly if none is, neither in the list nor from what was seen. -/
theorem firstRepeated?_eq_none_iff (seen ids : List String) :
    firstRepeated? seen ids = none ↔ ids.Nodup ∧ ∀ id ∈ ids, id ∉ seen := by
  -- By induction on the ids, for whatever was seen before.
  induction ids generalizing seen with
  | nil => simp [firstRepeated?]
  | cons id rest ih =>
    by_cases repeated : id ∈ seen
    · simp [firstRepeated?, repeated]
    · have passed : firstRepeated? seen (id :: rest) = firstRepeated? (id :: seen) rest := by
        simp [firstRepeated?, repeated]
      rw [passed, ih, List.nodup_cons, List.forall_mem_cons]
      -- What was passed counts as seen by the rest, so it stands in the list just once.
      constructor
      · rintro ⟨distinct, fresh⟩
        refine ⟨⟨fun later => fresh id later List.mem_cons_self, distinct⟩, repeated, ?_⟩
        exact fun other among before => fresh other among (List.mem_cons_of_mem id before)
      · rintro ⟨⟨once, distinct⟩, -, fresh⟩
        refine ⟨distinct, fun other among before => ?_⟩
        rcases List.mem_cons.mp before with rfl | before
        · exact once among
        · exact fresh other among before

/-- Settings pass the check exactly if their parse limit is positive and no id is repeated. -/
theorem validate_eq_ok_iff (config settings : Config) :
    config.validate = .ok settings ↔
      settings = config ∧ 0 < config.parseTimeoutMs ∧ config.ids.Nodup := by
  have distinct : firstRepeated? [] config.ids = none ↔ config.ids.Nodup := by
    simpa using firstRepeated?_eq_none_iff [] config.ids
  rw [← distinct, Nat.pos_iff_ne_zero]
  unfold validate ids
  -- The limit is looked at first, and then the ids.
  by_cases zero : config.parseTimeoutMs = 0
  · simp [zero]
  · cases firstRepeated? [] (config.languages.map (·.id)) with
    | some id => simp [zero]
    | none => simp [zero, eq_comm]

/-- What is accepted is completed, has a positive parse limit and repeats no id; and all settings
    like that are. -/
theorem accept_eq_ok_iff (config settings : Config) :
    config.accept = .ok settings ↔
      settings = config.withBuiltins ∧ 0 < config.parseTimeoutMs ∧ config.ids.Nodup := by
  rw [accept, validate_eq_ok_iff, nodup_ids_withBuiltins]
  rfl

/-- What settings become when they are accepted. -/
structure Completes (config settings : Config) : Prop where
  /-- Only languages are added, the builtin ones that are not mentioned, in their order. -/
  appended : settings =
    { config with languages := config.languages ++
        LanguageConfig.builtins.filter fun language => language.id ∉ config.ids }
  /-- It is the same to look each of them up in the list grown so far. -/
  adopted : settings = LanguageConfig.builtins.foldl adopt config
  /-- No id is repeated. -/
  distinct : settings.ids.Nodup
  /-- No builtin language is missing. -/
  builtin : ∀ language ∈ LanguageConfig.builtins, language.id ∈ settings.ids
  /-- A language that was given stands as it was given. -/
  own : ∀ language ∈ config.languages, settings.language? language.id = some language
  /-- A builtin language that was not given stands as it comes. -/
  supplied : ∀ language ∈ LanguageConfig.builtins, language.id ∉ config.ids →
    settings.language? language.id = some language

/-- Settings without a repeated id are completed as they should be. -/
theorem Completes.of_nodup {config : Config} (distinct : config.ids.Nodup) :
    config.Completes config.withBuiltins := by
  have completed := (nodup_ids_withBuiltins config).mpr distinct
  have languages : config.withBuiltins.languages = config.languages ++
      LanguageConfig.builtins.filter fun language => language.id ∉ config.ids := by
    rw [withBuiltins_eq]
  refine ⟨withBuiltins_eq config, withBuiltins_eq_foldl config, completed, ?_, ?_, ?_⟩
  · exact fun language builtin => mem_ids_withBuiltins config builtin
  -- Ids are not repeated, so a language that is listed is the one that is found.
  · intro language given
    refine find?_id_of_mem completed ?_
    rw [languages]
    exact List.mem_append_left _ given
  · intro language builtin fresh
    refine find?_id_of_mem completed ?_
    rw [languages]
    exact List.mem_append_right _ (List.mem_filter.mpr ⟨builtin, by simpa using fresh⟩)

/-- Accepted settings that fit come back when they are written and read. -/
theorem decode_toJson {config settings : Config} (fits : config.Fits)
    (accepted : config.accept = .ok settings) : decode settings.toJson = .ok settings := by
  obtain ⟨rfl, positive, distinct⟩ := (accept_eq_ok_iff config settings).mp accepted
  have fits : config.withBuiltins.Fits := ⟨fits.debounce, fits.timeout, fits.retries, fits.capacity⟩
  -- Completed once, the settings lack no builtin language when they are read again.
  have complete : config.withBuiltins.withBuiltins = config.withBuiltins :=
    withBuiltins_of_mem fun language builtin => mem_ids_withBuiltins config builtin
  rw [decode, ofJson?_toJson fits]
  show config.withBuiltins.accept = _
  rw [accept_eq_ok_iff]
  exact ⟨complete.symm, positive, (nodup_ids_withBuiltins config).mpr distinct⟩

/-- A text that holds settings is accepted exactly if their parse limit is positive and no language
    is listed twice.  Accepted settings are those that were read, completed by the builtin languages
    they lack; and any text they are written as is accepted again and gives them back. -/
theorem parse_completes {text : List Char} {json : Json} {config : Config}
    (reads : Json.read? text = some json) (holds : ofJson? json = some config) :
    (∃ members, json.members? memberNames = some members ∧
        (members.lookup "languages" = none → config.languages = LanguageConfig.builtins)) ∧
      ((∃ settings, parse text = .ok settings) ↔
        0 < config.parseTimeoutMs ∧ config.ids.Nodup) ∧
      ∀ settings, parse text = .ok settings →
        config.Completes settings ∧
        ∀ written, Json.read? written = some settings.toJson → parse written = .ok settings := by
  -- What was read says what the numbers are and where the languages come from.
  obtain ⟨members, known, fits, absent⟩ := of_ofJson? holds
  have parsed : parse text = config.accept := by simp only [parse, reads, decode, holds]
  simp only [parsed, accept_eq_ok_iff, exists_eq_left]
  refine ⟨⟨members, known, absent⟩, trivial, ?_⟩
  rintro settings accepted
  refine ⟨accepted.1 ▸ Completes.of_nodup accepted.2.2, fun written rewritten => ?_⟩
  simp only [parse, rewritten]
  exact decode_toJson fits ((accept_eq_ok_iff config settings).mpr accepted)

/-- Settings in the short form, with an own entry for one of the builtin languages. -/
def overriding : List Char :=
  ['[', '0', ',', '7', ',', '3', ',', 't', 'r', 'u', 'e', ',', '9', ',', 'n', 'u', 'l', 'l', ',',
    '[', '[', '"', 'r', 'u', 's', 't', '"', ']', ']', ']']

/-- The own entry is kept, and the two builtin languages that it lacks are appended. -/
theorem parse_completes_overriding :
    ∃ settings, parse overriding = .ok settings ∧
      settings.ids = ["rust", "javascript", "json"] ∧
      settings.language? "rust" = some { id := "rust" } ∧
      ∀ written, Json.read? written = some settings.toJson → parse written = .ok settings := by
  obtain ⟨-, accepted, completed⟩ := @parse_completes overriding
    (.array [.natural 0, .natural 7, .natural 3, .bool true, .natural 9, .null,
      .array [.array [.str "rust"]]])
    ⟨0, 7, 3, true, 9, none, [{ id := "rust" }]⟩ rfl rfl
  obtain ⟨settings, parsed⟩ := accepted.mpr (by decide)
  obtain ⟨completes, rewritten⟩ := completed settings parsed
  refine ⟨settings, parsed, ?_, completes.own { id := "rust" } (by decide), rewritten⟩
  rw [completes.appended]
  decide

end Config

end LiveTree
