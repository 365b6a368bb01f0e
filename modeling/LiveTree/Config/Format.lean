import LiveTree.Config
import LiveTree.Json.Record

/-!
# The written form of a configuration

Settings are written as a JSON object and read by the rules for records: absent members take their
defaults, unknown ones are ignored, and a known member given twice is an error.
-/

namespace LiveTree

namespace GrammarKind

/-- The written name of a kind. -/
def name : GrammarKind → String
  | builtin => "builtin"
  | library => "library"

/-- The kind with a given name. -/
def ofName? (name : String) : Option GrammarKind :=
  if name = "builtin" then some .builtin else if name = "library" then some .library else none

/-- Reads a kind: its name, or an object that maps its name to null. -/
def ofJson? : Json → Option GrammarKind
  | .string (some name) => ofName? name
  | .object [(some name, .null)] => ofName? name
  | _ => none

end GrammarKind

namespace LanguageConfig

/-- The members of a language's settings in order. -/
def memberNames : List String :=
  ["id", "grammar", "kind", "library", "file_types", "list_node_kinds"]

/-- Reads the settings of a language; only its id is required. -/
def ofJson? (json : Json) : Option LanguageConfig := do
  let members ← json.members? memberNames
  let id ← Json.member? members "id" none Json.string?
  let grammar ← Json.member? members "grammar" (some none) Json.optionalString?
  let kind ← Json.member? members "kind" (some .library) GrammarKind.ofJson?
  let library ← Json.member? members "library" (some none) Json.optionalString?
  let fileTypes ← Json.member? members "file_types" (some []) (Json.listOf? Json.string?)
  let listKinds ← Json.member? members "list_node_kinds" (some []) (Json.listOf? Json.string?)
  return ⟨id, grammar, kind, library, fileTypes, listKinds⟩

/-- Writes the settings of a language. -/
def toJson (language : LanguageConfig) : Json := .record [
  ("id", .str language.id),
  ("grammar", .ofOption language.grammar),
  ("kind", .str language.kind.name),
  ("library", .ofOption language.library),
  ("file_types", .ofStrings language.fileTypes),
  ("list_node_kinds", .ofStrings language.listKinds)]

end LanguageConfig

namespace Config

/-- The members of the settings in order. -/
def memberNames : List String :=
  ["debounce_ms", "parse_timeout_ms", "max_parse_retries", "schedule_on_edit", "event_capacity",
    "grammar_dir", "languages"]

/-- Reads settings, absent members taking their defaults. -/
def ofJson? (json : Json) : Option Config := do
  let members ← json.members? memberNames
  let base : Config := {}
  let word := Json.naturalBelow? UInt64.size
  let debounceMs ← Json.member? members "debounce_ms" (some base.debounceMs) word
  let parseTimeoutMs ← Json.member? members "parse_timeout_ms" (some base.parseTimeoutMs) word
  let maxParseRetries ← Json.member? members "max_parse_retries" (some base.maxParseRetries)
    (Json.naturalBelow? UInt32.size)
  let scheduleOnEdit ← Json.member? members "schedule_on_edit" (some base.scheduleOnEdit) Json.bool?
  let eventCapacity ← Json.member? members "event_capacity" (some base.eventCapacity) word
  let grammarDir ← Json.member? members "grammar_dir" (some none) Json.optionalString?
  let languages ← Json.member? members "languages" (some base.languages)
    (Json.listOf? LanguageConfig.ofJson?)
  return ⟨debounceMs, parseTimeoutMs, maxParseRetries, scheduleOnEdit, eventCapacity, grammarDir,
    languages⟩

/-- Writes settings. -/
def toJson (config : Config) : Json := .record [
  ("debounce_ms", .natural config.debounceMs),
  ("parse_timeout_ms", .natural config.parseTimeoutMs),
  ("max_parse_retries", .natural config.maxParseRetries),
  ("schedule_on_edit", .bool config.scheduleOnEdit),
  ("event_capacity", .natural config.eventCapacity),
  ("grammar_dir", .ofOption config.grammarDir),
  ("languages", .array (config.languages.map LanguageConfig.toJson))]

/-- Settings from a JSON value. -/
def decode (json : Json) : Except ConfigError Config :=
  match ofJson? json with
  | some config => config.accept
  | none => .error .malformed

/-- Settings from the text of a configuration file. -/
def parse (text : List Char) : Except ConfigError Config :=
  match Json.read? text with
  | some json => decode json
  | none => .error .malformed

end Config

end LiveTree
