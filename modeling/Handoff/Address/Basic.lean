import Handoff.Address.Host
import Handoff.Number.Whole

/-! # Addresses

An address has a scheme, an authority, a path and perhaps a query and a fragment. The authority is a
host, perhaps with a user before it and the number of a port behind it. Every part is brought into
the form in which it is sent. An address without a scheme or a host is relative, and all that counts
of it is its path and its query.
-/

namespace Handoff

/-- An address in the form in which it is sent, part by part. -/
structure Address where
  scheme : List Char := []
  user : List Char := []
  host : List Char := []
  port : Option Int := none
  path : List Char := []
  query : Option (List Char) := none
  fragment : Option (List Char) := none
deriving Repr, DecidableEq

/-- The parts of an address that are checked for their length one by one. -/
inductive AddressPart where
  | path | query
deriving Repr, DecidableEq

def AddressPart.name : AddressPart → String
  | path => "path"
  | query => "query"

inductive AddressFault where
  | tooLong
  | partTooLong (part : AddressPart)
  /-- No address can hold the character, before which so many others stand. -/
  | control (char : Char) (position : Nat)
  | host (fault : Address.HostFault) (text : List Char)
  | port (text : List Char)
  /-- A relative path starts with something that would be taken for another part. -/
  | pathStart (start : String)
deriving Repr, DecidableEq

def AddressFault.message : AddressFault → String
  | tooLong => "URL too long"
  | partTooLong part => s!"URL component '{part.name}' too long"
  | control char position =>
    "Invalid non-printable ASCII character in URL, " ++ String.ofList (Text.quoted [char]) ++
      " at position " ++ intText position ++ "."
  | host fault text => "Invalid " ++ fault.words ++ ": " ++ String.ofList (Text.quoted text)
  | port text => "Invalid port: " ++ String.ofList (Text.quoted text)
  | pathStart start => s!"Relative URLs cannot have a path starting with '{start}'"

namespace Address

/-! ## Paths -/

/-- The steps of a path without those that stay where they are and those that go back up, given the
steps so far, last first. Nothing goes up beyond the start. -/
def resolveSteps (taken : List (List Char)) : List (List Char) → List (List Char)
  | [] => taken.reverse
  | step :: rest =>
    if step == ['.'] then resolveSteps taken rest
    else if step == ['.', '.'] then
      resolveSteps (if taken == [[]] then taken else taken.drop 1) rest
    else resolveSteps (step :: taken) rest

def resolvePath (path : List Char) : List Char :=
  Text.joinWith ['/'] (resolveSteps [] (Text.pieces '/' path))

/-- A path that is not part of an address with a scheme or an authority. -/
def relativePath (path : List Char) : Except AddressFault (List Char) :=
  if "//".toList.isPrefixOf path then .error (.pathStart "//")
  else if path.head? == some ':' then .error (.pathStart ":")
  else .ok path

/-! ## Parts -/

/-- What stands before the first character of a class, and the rest. -/
def spanUntil (isEnd : Char → Bool) (text : List Char) : List Char × List Char :=
  (text.takeWhile (!isEnd ·), text.dropWhile (!isEnd ·))

def behindMark? (mark : Char) : List Char → Option (List Char)
  | [] => none
  | c :: rest => if c == mark then some rest else none

/-- Whether a character can stand in a scheme behind the first one. -/
def isSchemeChar (c : Char) : Bool := c.isAlphanum || "+.-".toList.contains c

/-- The scheme of an address, which may be empty, and what follows the colon behind it. -/
def splitScheme (text : List Char) : List Char × List Char :=
  let (scheme, rest) := spanUntil (!isSchemeChar ·) text
  match behindMark? ':' rest with
  | some after => if (scheme.head?.map Char.isAlpha).getD true then (scheme, after) else ([], text)
  | none => ([], text)

/-- The authority of an address, which may be empty, and what follows it. -/
def splitAuthority : List Char → List Char × List Char
  | '/' :: '/' :: rest => spanUntil "/?#".toList.contains rest
  | text => ([], text)

/-- The user in an authority, and what follows the last sign behind it. -/
def splitUser (authority : List Char) : List Char × List Char :=
  let rest := (authority.reverse.takeWhile (· != '@')).reverse
  (authority.take (authority.length - rest.length - 1), rest)

/-- The host in an authority without its user, and what follows. A host in brackets ends at the last
bracket, any other at a colon. -/
def splitHost (authority : List Char) : List Char × List Char :=
  let rest := (authority.reverse.takeWhile (· != ']')).reverse
  if authority.head? == some '[' && rest.length < authority.length then
    (authority.take (authority.length - rest.length), rest)
  else spanUntil (· == ':') authority

def defaultPorts : List (String × Int) :=
  [("ftp", 21), ("http", 80), ("https", 443), ("ws", 80), ("wss", 443)]

/-- The port behind a host, unless it goes without saying for a scheme. -/
def readPort (scheme text : List Char) : Except AddressFault (Option Int) :=
  let text := (behindMark? ':' text).getD text
  if text.isEmpty then .ok none
  else match int? text with
    | some port =>
      .ok (if defaultPorts.lookup (String.ofList scheme) == some port then none else some port)
    | none => .error (.port text)

/-- The address with the given scheme and authority, in front of a path and all that follows. -/
def ofParts (scheme authority rest : List Char) : Except AddressFault Address := do
  let (path, rest) := spanUntil "?#".toList.contains rest
  let (query, rest) := match behindMark? '?' rest with
    | some rest => let (query, rest) := spanUntil (· == '#') rest; (some query, rest)
    | none => (none, rest)
  let (user, authority) := splitUser authority
  let (host, behindHost) := splitHost authority
  let address : Address := {
    scheme := scheme.map Char.toLower
    user := percentEncode isUserSafe user
    host := ← (encodeHost host).mapError (.host · host)
    port := ← readPort scheme behindHost
    query := query.map (percentEncode isQuerySafe)
    fragment := (behindMark? '#' rest).map (percentEncode isFragmentSafe) }
  let isBare := address.scheme.isEmpty && address.user.isEmpty && address.host.isEmpty &&
    address.port.isNone
  let path ← if isBare then relativePath path else .ok (resolvePath path)
  pure { address with path := percentEncode isPathSafe path }

/-! ## Reading and writing -/

/-- How many characters an address can have, and each of its parts. -/
def lengthLimit : Nat := 65536

/-- Whether a character is an ASCII character that cannot be printed. -/
def isControl (c : Char) : Bool := c.toNat < 0x20 || c.toNat == 0x7F

def read (text : List Char) : Except AddressFault Address :=
  if lengthLimit < text.length then .error .tooLong
  else match text.find? isControl with
    | some c => .error (.control c (text.takeWhile (!isControl ·)).length)
    | none =>
      let (scheme, rest) := splitScheme text
      let (authority, rest) := splitAuthority rest
      ofParts scheme authority rest

/-- The host and the port. A host that holds a colon is put in brackets. -/
def location (address : Address) : List Char :=
  (if address.host.contains ':' then '[' :: address.host ++ [']'] else address.host) ++
    (address.port.map fun port => ':' :: (intText port).toList).getD []

def authority (address : Address) : List Char :=
  (if address.user.isEmpty then [] else address.user ++ ['@']) ++ address.location

def marked (mark : Char) (part : Option (List Char)) : List Char :=
  (part.map (mark :: ·)).getD []

def text (address : Address) : List Char :=
  (if address.scheme.isEmpty then [] else address.scheme ++ [':']) ++
    (if address.authority.isEmpty then [] else '/' :: '/' :: address.authority) ++
    address.path ++ marked '?' address.query ++ marked '#' address.fragment

def isAbsolute (address : Address) : Bool := !address.scheme.isEmpty && !address.host.isEmpty

def limited (address : Address) : Except AddressFault Address :=
  if lengthLimit < address.path.length then .error (.partTooLong .path)
  else if lengthLimit < (address.query.getD []).length then .error (.partTooLong .query)
  else .ok address

/-- What counts of an address: of a relative one, the path from the root on and the query. -/
def rooted (address : Address) : Except AddressFault Address :=
  if address.isAbsolute then .ok address
  else limited { path := '/' :: address.path.dropWhile (· == '/'), query := address.query }

def withFields (fields : List (String × String)) (address : Address) :
    Except AddressFault Address :=
  limited { address with
    query := some (Text.joinWith ['&'] (fields.map fun (name, value) =>
      fieldValue name.toList ++ '=' :: fieldValue value.toList)) }

end Address

end Handoff
