import HttpRetry.Attempt
import HttpRetry.Text.Blank
import HttpRetry.Url.Host
set_option autoImplicit false

namespace HttpRetry

structure Url where
  scheme : List Char := []
  user : List Char := []
  host : List Char := []
  port : Option Int := none
  path : List Char := []
  query : Option (List Char) := none
  fragment : Option (List Char) := none
  deriving DecidableEq, Repr, Inhabited

inductive UrlError where
  | tooLong
  | partTooLong (part : String)
  | control (c : Char) (position : Nat)
  | badHost (e : Url.HostError) (host : String)
  | badPort (text : String)
  | pathAfterAuthority
  | doubleSlash
  | leadingColon
  /-- The host has an encoded label that cannot be shown. -/
  | label (e : Url.LabelFault)
  /-- The host is an address with a zone that is not ASCII. -/
  | zone (complaint : String)
  deriving DecidableEq, Repr, Inhabited

namespace UrlError

def message : UrlError → String
  | .tooLong => "URL too long"
  | .partTooLong part => "URL component '" ++ part ++ "' too long"
  | .control c position =>
    "Invalid non-printable ASCII character in URL, " ++ Text.quoted (String.singleton c) ++
      " at position " ++ toString position ++ "."
  | .badHost .dottedAddress host => "Invalid IPv4 address: " ++ Text.quoted host
  | .badHost .bracketedAddress host => "Invalid IPv6 address: " ++ Text.quoted host
  | .badHost .name host => "Invalid IDNA hostname: " ++ Text.quoted host
  | .badPort text => "Invalid port: " ++ Text.quoted text
  | .pathAfterAuthority => "For absolute URLs, path must be empty or begin with '/'"
  | .doubleSlash => "Relative URLs cannot have a path starting with '//'"
  | .leadingColon => "Relative URLs cannot have a path starting with ':'"
  | .label e => e.message
  | .zone complaint => complaint

def kind : UrlError → FailureKind
  | .label e => { name := e.kindName, family := .general }
  | .zone _ => .encodeError
  | _ => .invalidURL

def failure (e : UrlError) : FailureSpec := .of e.kind (some e.message)

end UrlError

namespace Url

structure Raw where
  scheme : List Char
  authority : List Char
  path : List Char
  query : Option (List Char)
  fragment : Option (List Char)

def isSchemeChar (c : Char) : Bool := c.isAlphanum || c = '+' || c = '.' || c = '-'

def splitScheme (text : List Char) : List Char × List Char :=
  let name := if (text.head?.map Char.isAlpha).getD false then text.takeWhile isSchemeChar else []
  match text.drop name.length with
  | ':' :: rest => (name, rest)
  | _ => ([], text)

def splitAuthority : List Char → List Char × List Char
  | '/' :: '/' :: rest =>
    let authority := rest.takeWhile fun c => c ≠ '/' && c ≠ '?' && c ≠ '#'
    (authority, rest.drop authority.length)
  | text => ([], text)

def splitAll (text : List Char) : Raw :=
  let (scheme, rest) := splitScheme text
  let (authority, rest) := splitAuthority rest
  let path := rest.takeWhile fun c => c ≠ '?' && c ≠ '#'
  let rest := rest.drop path.length
  let (query, rest) :=
    match rest with
    | '?' :: tail =>
      let query := tail.takeWhile (· ≠ '#')
      (some query, tail.drop query.length)
    | _ => (none, rest)
  let fragment :=
    match rest with
    | '#' :: tail => some tail
    | _ => none
  ⟨scheme, authority, path, query, fragment⟩

def splitUser (authority : List Char) : List Char × List Char :=
  match authority.reverse.findIdx? (· = '@') with
  | none => ([], authority)
  | some n => (authority.take (authority.length - n - 1), authority.drop (authority.length - n))

def splitPort (text : List Char) : List Char × List Char :=
  let bracketed :=
    match text.head?, text.reverse.findIdx? (· = ']') with
    | some '[', some n => some (text.take (text.length - n))
    | _, _ => none
  let host := bracketed.getD (text.takeWhile (· ≠ ':'))
  match text.drop host.length with
  | ':' :: port => (host, port)
  | port => (host, port)

def defaultPort? (scheme : List Char) : Option Int :=
  List.lookup (String.ofList scheme)
    [("ftp", 21), ("http", 80), ("https", 443), ("ws", 80), ("wss", 443)]

def withoutUsual (scheme : List Char) (port : Int) : Option Int :=
  if defaultPort? scheme = some port then none else some port

def portOf (scheme text : List Char) : Except UrlError (Option Int) :=
  if text.isEmpty then .ok none
  else
    match Text.int? text with
    | none => .error (.badPort (String.ofList text))
    | some port => .ok (withoutUsual scheme port)

/-- Resolves the segments that stand for the same place and for the place above. -/
def resolveDots (path : List Char) : List Char :=
  let segments := parts (· = '/') path
  if !segments.contains ['.'] && !segments.contains ['.', '.'] then path
  else
    let kept := segments.foldl (fun acc segment =>
      if segment = ['.'] then acc
      else if segment = ['.', '.'] then
        if acc.isEmpty || acc = [[]] then acc else acc.dropLast
      else acc ++ [segment]) []
    ['/'].intercalate kept

def checkPath (path : List Char) (hasScheme hasAuthority : Bool) : Except UrlError Unit :=
  if hasAuthority && !path.isEmpty && path.head? ≠ some '/' then .error .pathAfterAuthority
  else if !hasScheme && !hasAuthority && path.take 2 = ['/', '/'] then .error .doubleSlash
  else if !hasScheme && !hasAuthority && path.head? = some ':' then .error .leadingColon
  else .ok ()

def isControl (c : Char) : Bool := c.toNat < 32 || c.toNat = 127

def ofRaw (raw : Raw) : Except UrlError Url := do
  let (user, rest) := splitUser raw.authority
  let (host, port) := splitPort rest
  let user := encode userSafe user
  let host ← match encodeHost host with
    | .ok host => pure host
    | .error e => throw (.badHost e (String.ofList host))
  let port ← portOf raw.scheme port
  let hasScheme := !raw.scheme.isEmpty
  let hasAuthority := !user.isEmpty || !host.isEmpty || port.isSome
  checkPath raw.path hasScheme hasAuthority
  let path := if hasScheme || hasAuthority then resolveDots raw.path else raw.path
  return {
    scheme := raw.scheme.map Char.toLower
    user
    host
    port
    path := encode pathSafe path
    query := raw.query.map (encode querySafe)
    fragment := raw.fragment.map (encode fragmentSafe) }

def mostChars : Nat := 65536

def parse (text : String) : Except UrlError Url := do
  let chars := text.toList
  if mostChars < chars.length then throw .tooLong
  match chars.find? isControl with
  | some c => throw (.control c ((chars.findIdx? (· = c)).getD 0))
  | none => ofRaw (splitAll chars)

def place (u : Url) : List Char :=
  (if u.host.contains ':' then '[' :: u.host ++ [']'] else u.host) ++
    (match u.port with
      | none => []
      | some port => ':' :: (toString port).toList)

def authority (u : Url) : List Char :=
  (if u.user.isEmpty then [] else u.user ++ ['@']) ++ u.place

def text (u : Url) : String :=
  String.ofList (
    (if u.scheme.isEmpty then [] else u.scheme ++ [':']) ++
    (if u.authority.isEmpty then [] else '/' :: '/' :: u.authority) ++ u.path ++
    (match u.query with
      | none => []
      | some query => '?' :: query) ++
    (match u.fragment with
      | none => []
      | some fragment => '#' :: fragment))

def isAbsolute (u : Url) : Bool := !u.scheme.isEmpty && !u.host.isEmpty

def target (u : Url) : List Char :=
  (if u.path.isEmpty then ['/'] else u.path) ++
    (match u.query with
      | none => []
      | some query => '?' :: query)

def Raw.longPart? (raw : Raw) : Option String :=
  (([("scheme", raw.scheme), ("authority", raw.authority), ("path", raw.path),
    ("query", raw.query.getD []), ("fragment", raw.fragment.getD [])] : List (String × List Char)).find?
      fun (_, part) => mostChars < part.length).map (·.1)

def withTarget (u : Url) (target : List Char) : Except UrlError Url :=
  let path := target.takeWhile (· ≠ '?')
  let query :=
    match target.drop path.length with
    | _ :: query => some query
    | [] => none
  let raw : Raw := ⟨u.scheme, u.authority, path, query, u.fragment⟩
  match raw.longPart? with
  | some part => .error (.partTooLong part)
  | none => ofRaw raw

def asBase (u : Url) : Except UrlError Url :=
  if u.target.getLast? = some '/' then .ok u else u.withTarget (u.target ++ ['/'])

def under (base u : Url) : Except UrlError Url :=
  if u.isAbsolute then .ok u else base.withTarget (base.target ++ u.target.dropWhile (· = '/'))

def checkHost (u : Url) : Except UrlError Unit := do
  if u.host.isEmpty then return
  (checkShown u.host).mapError .label
  match Text.notAscii? u.place with
  | none => return
  | some complaint => throw (.zone complaint)

end Url

/-- A request as the caller makes it: the method in upper case, the URL in its normal form. -/
def Request.make (method url : String) : Except UrlError Request := do
  let url ← Url.parse url
  url.checkHost
  return { method := Text.upper method, url := url.text }

end HttpRetry
