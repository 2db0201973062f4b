import SqlBackend.Address.Literal
import SqlBackend.Fault
import SqlBackend.Text.Lowercase

/-!
# Connection addresses

An address is `scheme://authority/path`, each part optional, with a query or fragment that is cut
off. `Address.ofText?` takes a text apart and refuses an authority with stray brackets or with
characters that some reader might take for a separator. The host and the port are read from the
authority only when they are asked for, so an address with a port that is no number can still be
asked for its host.
-/

namespace SqlBackend

open SqlBackend.Text SqlBackend.Numeric

/-- The parts of an address that a connection is made from. -/
structure Address where
  scheme : List Char
  authority : List Char
  path : List Char
  deriving DecidableEq, Repr, Inhabited

namespace Address

/-- The text without control characters and spaces in front and without tabs and line ends. -/
def clean (cs : List Char) : List Char :=
  (cs.dropWhile (·.toNat ≤ 0x20)).filter fun c => !(c == '\t' || c == '\n' || c == '\r')

/-- A character that a scheme may hold; the first one must be a letter. -/
def isSchemeChar (c : Char) : Bool :=
  isAsciiLetter c || isAsciiDigit c || c == '+' || c == '-' || c == '.'

/-- Splits off the scheme in front of the first colon, if what stands there can be one. -/
def splitScheme (cs : List Char) : List Char × List Char :=
  let front := cs.takeWhile (· != ':')
  match cs.dropWhile (· != ':') with
  | _ :: rest =>
    if front.head?.any isAsciiLetter && front.all isSchemeChar then (front.map asciiLower, rest)
    else ([], cs)
  | [] => ([], cs)

/-- A character that ends the authority. -/
def endsAuthority (c : Char) : Bool := c == '/' || c == '?' || c == '#'

/-- Splits off the authority, which two slashes announce. -/
def splitAuthority : List Char → List Char × List Char
  | '/' :: '/' :: rest =>
    (rest.takeWhile (!endsAuthority ·), rest.dropWhile (!endsAuthority ·))
  | rest => ([], rest)

/-- The schemes whose paths may end in parameters. -/
def parameterSchemes : List String :=
  ["", "ftp", "hdl", "prospero", "http", "imap", "https", "shttp", "rtsp", "rtsps", "rtspu", "sip",
   "sips", "mms", "sftp", "tel"]

/-- The part of a text after the last occurrence of a character, or all of it. -/
def afterLast (separator : Char) (cs : List Char) : List Char :=
  (cs.reverse.takeWhile (· != separator)).reverse

/-- The path without the parameters of its last segment. -/
def cutParameters (path : List Char) : List Char :=
  let segment := afterLast '/' path
  path.take (path.length - segment.length) ++ segment.takeWhile (· != ';')

/-- The part of an authority that names host and port. -/
def hostPart (authority : List Char) : List Char := afterLast '@' authority

/-- Refuses a host that stands for an internet address and is none. -/
def checkLiteral (host : List Char) : Except AddressError Unit :=
  if host.head? == some 'v' then
    if isFutureAddress host then .ok () else .error .malformedFutureAddress
  else if isIPv4 host then .error .bracketedIPv4
  else if isIPv6 host then .ok ()
  else .error (.notAnAddress (String.ofList host))

/-- In an authority with brackets these hold the whole host, and nothing but a port follows. -/
def checkBrackets (authority : List Char) : Except AddressError Unit :=
  let named := hostPart authority
  match named.dropWhile (· != '[') with
  | [] => checkLiteral (named.takeWhile (· != ':'))
  | _ :: bracketed =>
    let tail := (bracketed.dropWhile (· != ']')).drop 1
    if named.head? != some '[' || (tail.head?.any (· != ':')) then .error .unbalancedBrackets
    else checkLiteral (bracketed.takeWhile (· != ']'))

/-- The characters whose compatibility form holds one of the separators of an address. -/
def deceptive : Ranges :=
  [(0x2047, 0x2049), (0x2100, 0x2101), (0x2105, 0x2106), (0x2A74, 0x2A74), (0xFE13, 0xFE13),
   (0xFE16, 0xFE16), (0xFE55, 0xFE56), (0xFE5F, 0xFE5F), (0xFE6B, 0xFE6B), (0xFF03, 0xFF03),
   (0xFF0F, 0xFF0F), (0xFF1A, 0xFF1A), (0xFF1F, 0xFF20)]

/-- Refuses an authority with one bracket only, with a wrong host in brackets, or with a character
that could pass for a separator. -/
def checkAuthority (authority : List Char) : Except AddressError Unit := do
  if authority.contains '[' != authority.contains ']' then throw .unbalancedBrackets
  if authority.contains '[' then checkBrackets authority
  if authority.any deceptive.has then throw (.deceptiveAuthority (String.ofList authority))

/-- The address that a text spells. -/
def ofText? (s : String) : Except AddressError Address := do
  let (scheme, rest) := splitScheme (clean s.toList)
  let (authority, rest) := splitAuthority rest
  checkAuthority authority
  let path := rest.takeWhile fun c => !(c == '?' || c == '#')
  let path := if parameterSchemes.contains (String.ofList scheme) then cutParameters path else path
  return ⟨scheme, authority, path⟩

/-- Host and port as they stand in the authority. -/
def hostAndPort (authority : List Char) : List Char × List Char :=
  let named := hostPart authority
  match named.dropWhile (· != '[') with
  | [] => (named.takeWhile (· != ':'), (named.dropWhile (· != ':')).drop 1)
  | _ :: bracketed =>
    (bracketed.takeWhile (· != ']'),
      ((bracketed.dropWhile (· != ']')).dropWhile (· != ':')).drop 1)

/-- The host in lower case, its zone as it stands; `none` when there is no host. -/
def host? (a : Address) : Option String :=
  let host := (hostAndPort a.authority).1
  if host.isEmpty then none
  else some (String.ofList
    (lowerChars (host.takeWhile (· != '%')) ++ host.dropWhile (· != '%')))

def port? (a : Address) : Except AddressError (Option Nat) :=
  let port := (hostAndPort a.authority).2
  if port.isEmpty then .ok none
  else if !port.all isAsciiDigit then .error (.portNotNumeric (String.ofList port))
  else if maxDigits < port.length then .error (.portTooLong port.length)
  else if 65535 < ofAsciiDigits port then .error .portOutOfRange
  else .ok (some (ofAsciiDigits port))

/-- What follows the first character of the path. -/
def pathTail (a : Address) : String := String.ofList (a.path.drop 1)

/-- The path without the slashes in front. -/
def pathName (a : Address) : String := String.ofList (a.path.dropWhile (· == '/'))

end Address

end SqlBackend
