import LiveTree.Grammar
import LiveTree.Table

/-!
# The grammar registry

Every configured language has a slot for its grammar.  A grammar is opened at most once at a time:
the first request starts an attempt and later ones wait for the same attempt.  An attempt ends with
what stands on disk at its end: a grammar stays in the slot for good, and its library stays open; a
failure leaves the slot empty, so that the next request tries again.
-/

namespace LiveTree

/-- A grammar that is being loaded or has been. -/
inductive Slot where
  | loading
  | loaded (grammar : Grammar)
  deriving DecidableEq, Repr

/-- What a request for a grammar meets. -/
inductive Reply where
  | ready (grammar : Grammar)
  | failed (error : GrammarError)
  | waiting

/-- The slots of the configured languages, the languages with an attempt under way, in the order in
    which the attempts started, and the libraries that are kept open. -/
structure Registry where
  languages : List LanguageConfig
  directory : String
  slots : Table Slot := .empty
  attempts : List LanguageConfig := []
  kept : List OpenLibrary := []

namespace Registry

/-- The registry of a configuration, with nothing loaded. -/
def ofConfig (config : Config) (dataHome : String) : Registry where
  languages := config.languages
  directory := config.grammarDirectory dataHome

/-- The settings of a language; of two with one id the later counts. -/
def config? (registry : Registry) (language : String) : Option LanguageConfig :=
  registry.languages.reverse.find? (·.id == language)

/-- Whether a language is configured. -/
def isSupported (registry : Registry) (language : String) : Bool :=
  (registry.config? language).isSome

/-- Whether a language's grammar is being loaded. -/
def isLoading (registry : Registry) (language : String) : Bool :=
  registry.slots.find? language == some .loading

/-- The grammar of a language, if it has been loaded. -/
def loaded? (registry : Registry) (language : String) : Option Grammar :=
  match registry.slots.find? language with
  | some (.loaded grammar) => some grammar
  | _ => none

/-- Whether a language's grammar has been loaded. -/
def didLoad (registry : Registry) (language : String) : Bool := (registry.loaded? language).isSome

/-- Opens the grammar of a language as things stand now. -/
def find (registry : Registry) (libraries : Libraries) (config : LanguageConfig) :
    Registry × Except GrammarError Grammar :=
  let (kept, outcome) := Grammar.find libraries registry.kept registry.directory config
  ({ registry with kept := kept }, outcome)

/-- File types are compared without regard to the case of Latin letters. -/
def foldCase (fileType : String) : String := String.ofList (fileType.toList.map Char.toLower)

/-- The language of a path by its file type; of several that list it, the last. -/
def languageForPath? (registry : Registry) (path : String) : Option String := do
  let fileType ← Path.extension? path
  let language ← registry.languages.reverse.find? fun language =>
    (language.fileTypes.map foldCase).contains (foldCase fileType)
  return language.id

/-- Ends an attempt at a language: a grammar stays in the slot, a failure empties it. -/
def settle (registry : Registry) (language : String) (outcome : Except GrammarError Grammar) :
    Registry :=
  if registry.isLoading language then
    match outcome with
    | .ok grammar => { registry with slots := registry.slots.insert language (.loaded grammar) }
    | .error _ => { registry with slots := registry.slots.erase language }
  else registry

/-- Starts an attempt at a language whose slot is empty.  A builtin grammar is there at once; a
    library takes its time. -/
def start (registry : Registry) (libraries : Libraries) (config : LanguageConfig) :
    Registry × Reply :=
  let started := { registry with slots := registry.slots.insert config.id .loading }
  match config.kind with
  | .builtin =>
    -- Nothing can happen between the start and the end of such an attempt.
    let (found, outcome) := started.find libraries config
    (found.settle config.id outcome,
      match outcome with
      | .ok grammar => .ready grammar
      | .error error => .failed error)
  | .library =>
    ({ started with attempts := started.attempts ++ [config] }, .waiting)

/-- Asks for a grammar, joining an attempt under way or starting one. -/
def request (registry : Registry) (libraries : Libraries) (language : String) : Registry × Reply :=
  match registry.slots.find? language with
  | some (.loaded grammar) => (registry, .ready grammar)
  | some .loading => (registry, .waiting)
  | none =>
    match registry.config? language with
    | none => (registry, .failed (.unsupported language))
    | some config => registry.start libraries config

/-- Asks for a grammar without ever waiting. -/
def loadBlocking (registry : Registry) (libraries : Libraries) (language : String) :
    Registry × Except GrammarError Grammar :=
  match registry.slots.find? language with
  | some (.loaded grammar) => (registry, .ok grammar)
  | some .loading => (registry, .error (.pending language))
  | none =>
    match registry.config? language with
    | none => (registry, .error (.unsupported language))
    | some config =>
      match registry.find libraries config with
      | (registry, .ok grammar) =>
        ({ registry with slots := registry.slots.insert language (.loaded grammar) }, .ok grammar)
      | (registry, .error error) => (registry, .error error)

/-- Ends the attempt at a language, if one is under way, and tells how it ended. -/
def complete (registry : Registry) (libraries : Libraries) (language : String) :
    Registry × Option (Except GrammarError Grammar) :=
  match registry.attempts.find? (·.id == language) with
  | none => (registry, none)
  | some config =>
    let (registry, outcome) := registry.find libraries config
    let ended := { registry with attempts := registry.attempts.filter (·.id ≠ language) }
    (ended.settle language outcome, some outcome)

/-- Whether a request for a grammar has to wait for its library. -/
def mustWait (registry : Registry) (language : String) : Bool :=
  !registry.didLoad language && (registry.config? language).any (·.kind == .library)

/-- Asks for a grammar and waits until it is there. -/
def load (registry : Registry) (libraries : Libraries) (language : String) :
    Registry × Except GrammarError Grammar :=
  match registry.request libraries language with
  | (registry, .ready grammar) => (registry, .ok grammar)
  | (registry, .failed error) => (registry, .error error)
  | (registry, .waiting) =>
    match registry.complete libraries language with
    | (registry, some outcome) => (registry, outcome)
    | (registry, none) => (registry, .error (.pending language))

end Registry

end LiveTree
