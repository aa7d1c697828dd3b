import Handoff.Text.Quoted

/-! # Percent signs

Characters that a part of an address cannot hold are written as the bytes of their encoding, each as
a percent sign and two hexadecimal digits. Which ones that are depends on the part.
-/

namespace Handoff.Address

/-- A byte as a percent sign and two hexadecimal digits. -/
def percentByte (byte : UInt8) : List Char :=
  '%' :: (Text.hexDigits 2 byte.toNat).map Char.toUpper

def percentChar (c : Char) : List Char := (String.utf8EncodeChar c).flatMap percentByte

def percentEncode (isSafe : Char → Bool) (text : List Char) : List Char :=
  text.flatMap fun c => if isSafe c then [c] else percentChar c

def isUnreserved (c : Char) : Bool := c.isAlphanum || "-._~".toList.contains c

/-- Whether a character is printable and ASCII, but no space. -/
def isGraphic (c : Char) : Bool := '!' ≤ c && c ≤ '~'

def isQuerySafe (c : Char) : Bool := isGraphic c && !"\"#<>".toList.contains c

def isPathSafe (c : Char) : Bool := isQuerySafe c && !"?`\x7b\x7d".toList.contains c

def isFragmentSafe (c : Char) : Bool := isGraphic c && !"\"<>`".toList.contains c

/-- The characters that stand as they are in the name of a user and in a password. -/
def isUserSafe (c : Char) : Bool := isPathSafe c && !"/;=@[\\]^|".toList.contains c

/-- The characters that stand as they are in the name of a host. -/
def isHostSafe (c : Char) : Bool :=
  isUnreserved c || "!$&'()*+,;=\"`\x7b\x7d%|\\".toList.contains c

/-- The value of a field in a query, in which a plus sign stands for a space. -/
def fieldValue (value : List Char) : List Char :=
  value.flatMap fun c =>
    if c == ' ' then ['+'] else if isUnreserved c then [c] else percentChar c

end Handoff.Address
