import LiveTree.Path
import LiveTree.Uri.Host
import LiveTree.Uri.Segments

/-!
# Uris

Documents are known by uris.  `Uri.parse?` reads a uri and brings it to its normal form: the scheme and
the host in lower case, the usual endpoint left out, dots in the path followed, and everything escaped that
has to be.  What is already escaped stays as it is.  `Uri.normalize?` is the normal form as a text, and
`Uri.ofPlace` the uri of a file.
-/

namespace LiveTree

namespace Uri

/-- Who answers for a uri: credentials, as they are written, a host, and the number of an endpoint on
    it unless it is the usual one. -/
structure Authority where
  user : Text := []
  password : Text := []
  host : Host
  endpoint : Option Nat := none
  deriving DecidableEq, Repr

end Uri

/-- A uri in its normal form.  The path is kept as it is written. -/
structure Uri where
  scheme : Text
  authority : Option Uri.Authority
  path : Text
  query : Option Text
  fragment : Option Text
  deriving DecidableEq, Repr

namespace Uri

namespace Authority

/-- The credentials in front of a host. -/
def credentials (authority : Authority) : Text :=
  let password := if authority.password.isEmpty then [] else ':' :: authority.password
  let both := authority.user ++ password
  if both.isEmpty then [] else both ++ ['@']

/-- An authority as it is written. -/
def render (authority : Authority) : Text :=
  authority.credentials ++ authority.host.render ++
    authority.endpoint.elim [] fun number => ':' :: Nat.toDigits 10 number

end Authority

/-- A uri as it is written.  Without an authority, two slashes in front of a path would be taken for
    the start of one. -/
def render (uri : Uri) : String :=
  let place := match uri.authority with
    | some authority => "//".toList ++ authority.render
    | none => if "//".toList.isPrefixOf uri.path then "/.".toList else []
  String.ofList (uri.scheme ++ [':'] ++ place ++ uri.path ++
    uri.query.elim [] ('?' :: ·) ++ uri.fragment.elim [] ('#' :: ·))

/-! ## Schemes -/

/-- How the part after a scheme is read. -/
inductive Style where
  /-- The scheme of files. -/
  | file
  /-- A scheme that always names a host, with its usual endpoint. -/
  | host (usual : Nat)
  /-- Any other scheme. -/
  | general
  deriving DecidableEq, Repr

/-- The style of a scheme. -/
def Style.ofScheme (scheme : Text) : Style :=
  match String.ofList scheme with
  | "file" => .file
  | "http" | "ws" => .host 80
  | "https" | "wss" => .host 443
  | "ftp" => .host 21
  | _ => .general

/-- Whether hosts are checked, and backslashes taken for slashes. -/
def Style.isSpecial (style : Style) : Bool := style != .general

/-- Whether a character separates segments. -/
def Style.isSlash (style : Style) (c : Char) : Bool := c == '/' || style.isSpecial && c == '\\'

/-- Characters of a scheme after its first letter. -/
def isSchemeChar (c : Char) : Bool := c.isAlphanum || c == '+' || c == '-' || c == '.'

/-- The scheme in front of a uri, in lower case, and what follows it. -/
def scheme? (text : Text) : Option (Text × Text) :=
  let scheme := text.takeWhile isSchemeChar
  match text.head?.any Char.isAlpha, text.dropWhile isSchemeChar with
  | true, ':' :: rest => some (scheme.map Char.toLower, rest)
  | _, _ => none

/-! ## Authorities -/

/-- The texts before and after the last place of a character; `none` if it has none. -/
def splitLast? (c : Char) (text : Text) : Option (Text × Text) :=
  if text.contains c then
    some ((text.reverse.dropWhile (· ≠ c)).reverse.dropLast, (text.reverse.takeWhile (· ≠ c)).reverse)
  else none

/-- The text of a host in front of its endpoint: a colon in brackets belongs to the host. -/
def hostText (bracketed : Bool) : Text → Text
  | [] => []
  | c :: rest =>
    if c = ':' ∧ !bracketed then []
    else c :: hostText (if c = '[' then true else if c = ']' then false else bracketed) rest

/-- Reads the number of an endpoint and answers what follows it; the usual one is left out. -/
def endpoint? (usual : Option Nat) (text : Text) : Option (Option Nat × Text) := do
  let digits := text.takeWhile Char.isDigit
  let rest := text.dropWhile Char.isDigit
  let number ← Text.number? 10 digits
  if 65535 < number ∨ !(rest.isEmpty || rest.head? == some '\\') then none
  else return (if digits.isEmpty || some number == usual then none else some number, rest)

/-- Reads a host with its endpoint, and answers what follows them. -/
def hostAndEndpoint? (style : Style) (text : Text) : Option (Host × Option Nat × Text) := do
  let hostPart := hostText false text
  let host ← Host.parse? style.isSpecial hostPart
  match text.drop hostPart.length with
  | [] => return (host, none, [])
  | _ :: rest =>
    if host.isEmpty then none
    let usual := match style with
      | .host number => some number
      | _ => none
    let (endpoint, rest) ← endpoint? usual rest
    return (host, endpoint, rest)

/-- Reads an authority, and answers what follows it; `followed` tells whether there is a query or a
    fragment after that. -/
def authority? (style : Style) (followed : Bool) (text : Text) : Option (Authority × Text) := do
  let own := text.takeWhile (!style.isSlash ·)
  let after := text.dropWhile (!style.isSlash ·)
  let (login, place) := match splitLast? '@' own with
    | some (login, place) => (some login, place)
    | none => (none, own)
  -- An empty login is as good as none, but in front of anything else there has to be a host.
  if login == some [] && place.isEmpty && (followed || !after.isEmpty) then none
  let login := login.getD []
  let user := escape userReserved (login.takeWhile (· ≠ ':'))
  let password := escape userReserved ((login.dropWhile (· ≠ ':')).drop 1)
  let (host, endpoint, rest) ← hostAndEndpoint? style place
  if host.isEmpty && (style.isSpecial || !(user.isEmpty && password.isEmpty)) then none
  return (⟨user, password, host, endpoint⟩, rest ++ after)

/-! ## Bodies -/

/-- A path with a slash in front, whether the text has one or not. -/
def rooted (style : Style) (text : Text) : List Text :=
  let rest := match text with
    | c :: rest => if style.isSlash c then rest else text
    | [] => []
  resolve style.isSpecial (style == .file) rest

/-- Reads what follows the scheme of files.  No host and the own one are the same; a drive in place of
    a host belongs to the path, and where the path starts with a drive the host is dropped.  After two
    slashes without a host, what comes before the next slash is an empty segment of the path, so that
    no drive is looked for after it. -/
def fileBody? (text : Text) : Option (Host × Text) := do
  let slash := Style.file.isSlash
  let own := Host.name []
  let (host, segments) ← match text with
    | a :: b :: rest =>
      if slash a && slash b then
        let place := rest.takeWhile (!slash ·)
        let path := rest.dropWhile (!slash ·)
        if isDrive place || place.isEmpty then pure (own, resolve true true rest)
        else do
          let host ← Host.parse? true place
          if host == .name "localhost".toList then pure (own, resolve true true path)
          else pure (host, rooted .file path)
      else pure (own, rooted .file text)
    | _ => pure (own, rooted .file text)
  return (if segments.head?.any isDrive then own else host, renderSegments (trimmed segments))

/-- Reads what follows a scheme, up to the query or fragment, if it is `followed` by one: who answers
    for it, and the path. -/
def body? (style : Style) (followed : Bool) (text : Text) : Option (Option Authority × Text) :=
  match style with
  | .file => do
    let (host, path) ← fileBody? text
    return (some { host }, path)
  | .host _ => do
    let (authority, rest) ← authority? style followed (text.dropWhile style.isSlash)
    return (some authority, renderSegments (rooted style rest))
  | .general =>
    match text with
    | '/' :: '/' :: rest => do
      let (authority, rest) ← authority? style followed rest
      return (some authority, if rest.isEmpty then [] else renderSegments (rooted style rest))
    | '/' :: _ => some (none, renderSegments (rooted style text))
    -- Without a slash in front the path has no segments.
    | _ => some (none, escape [] text)

/-! ## Uris -/

/-- A uri as it is read: without blanks and control characters at its ends, and without line breaks
    and tabs. -/
def cleaned (text : Text) : Text :=
  let blank (c : Char) : Bool := c ≤ ' '
  ((text.dropWhile blank).reverse.dropWhile blank).reverse.filter fun c =>
    c ≠ '\t' && c ≠ '\n' && c ≠ '\r'

/-- What follows a character in a text, if it is there. -/
def after? (c : Char) (text : Text) : Option Text :=
  if text.contains c then some ((text.dropWhile (· ≠ c)).drop 1) else none

/-- Reads a uri. -/
def parse? (text : String) : Option Uri := do
  let (scheme, rest) ← scheme? (cleaned text.toList)
  let style := Style.ofScheme scheme
  let fragment := after? '#' rest
  let front := rest.takeWhile (· ≠ '#')
  let query := after? '?' front
  let followed := query.isSome || fragment.isSome
  let (authority, path) ← body? style followed (front.takeWhile (· ≠ '?'))
  let reserved := queryReserved ++ if style.isSpecial then ['\''] else []
  return ⟨scheme, authority, path, query.map (escape reserved), fragment.map (escape fragmentReserved)⟩

/-- The normal form of a uri; `none` if it is none. -/
def normalize? (text : String) : Option String := (parse? text).map render

/-! ## Files -/

/-- The uri of the file at a place given by the components of its path. -/
def ofPlace (place : List String) : String :=
  if place.isEmpty then "file:///"
  else "file://" ++ String.join (place.map fun part =>
    "/" ++ String.ofList (escape componentReserved part.toList))

end Uri

end LiveTree
