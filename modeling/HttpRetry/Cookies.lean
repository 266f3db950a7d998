import HttpRetry.Text.Quoted
import HttpRetry.Url.Host
set_option autoImplicit false

namespace HttpRetry.Cookies

def withoutFragment (url : List Char) : List Char :=
  match url.reverse.findIdx? (· = '#') with
  | some n => url.take (url.length - n - 1)
  | none => url

def lookupUrl (url : List Char) : List Char :=
  if url.getLast? = some '#' then url.dropLast else url

def hasWord (url : List Char) : Bool :=
  let word := url.takeWhile fun c => c ≠ '/' && c ≠ ':'
  !word.isEmpty && (url.drop word.length).head? = some ':'

def isSchemeChar (c : Char) : Bool := c.isAlphanum || c = '+' || c = '-' || c = '.'

def authority (url : List Char) : List Char :=
  let scheme := url.takeWhile (· ≠ ':')
  let rest :=
    if (scheme.head?.map Char.isAlpha).getD false && scheme.all isSchemeChar then
      url.drop (scheme.length + 1)
    else url
  match rest with
  | '/' :: '/' :: rest => rest.takeWhile fun c => c ≠ '/' && c ≠ '?' && c ≠ '#'
  | _ => []

def isFutureAddress (text : List Char) : Bool :=
  let version := (text.drop 1).takeWhile Url.isHexDigit
  !version.isEmpty && (text.drop (1 + version.length)).head? = some '.' &&
    version.length + 2 < text.length

def bracketComplaint? (inside : List Char) : Option String :=
  if inside.head? = some 'v' then
    if isFutureAddress inside then none else some "IPvFuture address is invalid"
  else if Url.isDottedAddress inside then some "An IPv4 address cannot be in brackets"
  else if Url.isColonAddress inside then none
  else some (Text.quoted (String.ofList inside) ++ " does not appear to be an IPv4 or IPv6 address")

def authorityComplaint? (text : List Char) : Option String :=
  match text.contains '[', text.contains ']' with
  | false, false => none
  | true, true =>
    bracketComplaint? (((text.dropWhile (· ≠ '[')).drop 1).takeWhile (· ≠ ']'))
  | _, _ => some "Invalid IPv6 URL"

def complaint? (url : String) : Option String :=
  let text := url.toList
  if hasWord (withoutFragment text) then authorityComplaint? (authority (lookupUrl text))
  else some ("unknown url type: " ++ Text.quoted (String.ofList (lookupUrl text)))

end HttpRetry.Cookies
