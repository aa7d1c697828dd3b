import Handoff.Address.Label
import Handoff.Address.Numeric
import Handoff.Address.Percent
import Handoff.Address.Punycode
import Handoff.Text.Encoding

/-! # Hosts

A host is a number, a name in ASCII, or a name in other characters, which is written in ASCII label
by label. Names are in lower case. A host that looks like a number has to be one.
-/

namespace Handoff.Address

def encodedSign : List Char := "xn--".toList

/-- The most characters that an encoded label can have. -/
def encodedLimit : Nat := 63

def nameLimit : Nat := 253

def standsForLabel (text : List Char) : Bool :=
  if encodedSign.isPrefixOf text then
    let code := text.drop encodedSign.length
    !code.isEmpty && code.getLast? != some '-' &&
      ((Punycode.decode? code).map isLabel).getD false
  else isLabel text

/-- A label in ASCII, if it can be written so. -/
def encodeLabel? (label : List Char) : Option (List Char) :=
  let (isValid, encoded) :=
    if label.all Text.isAscii then (standsForLabel label, label)
    else (isLabel label, encodedSign ++ Punycode.encode label)
  if isValid && encoded.length ≤ encodedLimit then some encoded else none

def isLabelEnd (c : Char) : Bool := ".\u3002\uFF0E\uFF61".toList.contains c

/-- The labels of a name, and whether there is an empty one behind the last. -/
def labelsOf (name : List Char) : List (List Char) × Bool :=
  let labels := Text.pieces '.' (name.map fun c => if isLabelEnd c then '.' else c)
  if labels.getLast? == some [] then (labels.dropLast, true) else (labels, false)

/-- A name in ASCII, if it can be written so. -/
def encodeName? (name : List Char) : Option (List Char) :=
  if nameLimit + 1 < name.length then none
  else do
    let (labels, isClosed) := labelsOf name
    let encoded ← labels.mapM encodeLabel?
    let text := Text.joinWith ['.'] (encoded ++ if isClosed then [[]] else [])
    let limit := if isClosed then nameLimit + 1 else nameLimit
    if text.length ≤ limit then some text else none

inductive HostFault where
  | shortNumber
  | longNumber
  | name
deriving Repr, DecidableEq

def HostFault.words : HostFault → String
  | shortNumber => "IPv4 address"
  | longNumber => "IPv6 address"
  | name => "IDNA hostname"

/-- A text without its first and its last character. -/
def inner (text : List Char) : List Char := (text.drop 1).dropLast

/-- A host in the form in which it is sent, without brackets. -/
def encodeHost (host : List Char) : Except HostFault (List Char) :=
  if looksNumeric host then if isFourOctets host then .ok host else .error .shortNumber
  else if host.head? == some '[' && host.getLast? == some ']' then
    if isScopedNumber (inner host) then .ok (inner host) else .error .longNumber
  else
    let name := Text.lower host
    if host.all Text.isAscii then .ok (percentEncode isHostSafe name)
    else match encodeName? name with
      | some encoded => .ok encoded
      | none => .error .name

end Handoff.Address
