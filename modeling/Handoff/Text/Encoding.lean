import Handoff.Number.Text
import Handoff.Text.Quoted

/-! # Encodings

A text travels as bytes. Which encoding they are in can be told from where the zero bytes stand
among the first four, if the first two characters of the text are known to be ASCII. Bytes that end
in the middle of a unit cannot be decoded, and pure ASCII cannot hold every text.
-/

namespace Handoff.Text

inductive ByteOrder where
  | big | little
deriving Repr, DecidableEq

inductive Encoding where
  | utf8
  | utf16 (order : ByteOrder)
  | utf32 (order : ByteOrder)
deriving Repr, DecidableEq

namespace ByteOrder

def name : ByteOrder → String
  | big => "be"
  | little => "le"

/-- The number that the bytes of a unit spell. -/
def value (order : ByteOrder) (bytes : List UInt8) : Nat :=
  match order with
  | big => bytes.foldl (fun value byte => 256 * value + byte.toNat) 0
  | little => bytes.foldr (fun byte value => 256 * value + byte.toNat) 0

end ByteOrder

namespace Encoding

def name : Encoding → String
  | utf8 => "utf-8"
  | utf16 order => "utf-16-" ++ order.name
  | utf32 order => "utf-32-" ++ order.name

def ofBytes : List UInt8 → Encoding
  | [0, _] => utf16 .big
  | [_, 0] => utf16 .little
  | 0 :: 0 :: _ :: _ :: _ => utf32 .big
  | 0 :: _ :: _ :: _ :: _ => utf16 .big
  | _ :: 0 :: 0 :: 0 :: _ => utf32 .little
  | _ :: 0 :: _ :: _ :: _ => utf16 .little
  | _ => utf8

end Encoding

/-! ## Decoding -/

inductive DecodingReason where
  | truncated
  | outOfRange
deriving Repr, DecidableEq

def DecodingReason.words : DecodingReason → String
  | truncated => "truncated data"
  | outOfRange => "code point not in range(0x110000)"

/-- Bytes that cannot be decoded, and how many bytes stand before them. -/
structure DecodingFault where
  encoding : Encoding
  position : Nat
  bytes : List UInt8
  reason : DecodingReason
deriving Repr, DecidableEq

def placesFrom (position count : Nat) : String :=
  if count == 1 then "position " ++ intText position
  else "position " ++ intText position ++ "-" ++ intText (position + count - 1)

def DecodingFault.message (fault : DecodingFault) : String :=
  let what := match fault.bytes with
    | [byte] => "byte 0x" ++ hexPair byte.toNat
    | _ => "bytes"
  s!"'{fault.encoding.name}' codec can't decode {what} in " ++
    placesFrom fault.position fault.bytes.length ++ ": " ++ fault.reason.words

/-- Half a surrogate pair that comes first. -/
def isHighUnit (unit : Nat) : Bool := 0xD800 ≤ unit && unit ≤ 0xDBFF

/-- Half a surrogate pair that comes second. -/
def isLowUnit (unit : Nat) : Bool := 0xDC00 ≤ unit && unit ≤ 0xDFFF

def pairValue (high low : Nat) : Nat := 0x10000 + (high - 0xD800) * 0x400 + (low - 0xDC00)

/-- The characters of UTF-16 units; half a pair becomes the replacement character. -/
def charsOfUnits : List Nat → List Char
  | [] => []
  | high :: low :: rest =>
    if isHighUnit high && isLowUnit low then Char.ofNat (pairValue high low) :: charsOfUnits rest
    else unitOrReplacement high :: charsOfUnits (low :: rest)
  | [unit] => [unitOrReplacement unit]
where
  /-- The character of a unit by itself. -/
  unitOrReplacement (unit : Nat) : Char :=
    if isHighUnit unit || isLowUnit unit then '\uFFFD' else Char.ofNat unit

/-- The UTF-16 units of bytes, of which so many stand before. -/
def units16 (order : ByteOrder) (position : Nat) : List UInt8 → Except DecodingFault (List Nat)
  | [] => .ok []
  | [byte] => .error ⟨.utf16 order, position, [byte], .truncated⟩
  | a :: b :: rest => (units16 order (position + 2) rest).map (order.value [a, b] :: ·)

/-- The characters of bytes in UTF-32, of which so many stand before. -/
def chars32 (order : ByteOrder) (position : Nat) : List UInt8 → Except DecodingFault (List Char)
  | [] => .ok []
  | a :: b :: c :: d :: rest =>
    let value := order.value [a, b, c, d]
    if 0x110000 ≤ value then .error ⟨.utf32 order, position, [a, b, c, d], .outOfRange⟩
    else
      let char := if isHighUnit value || isLowUnit value then '\uFFFD' else Char.ofNat value
      (chars32 order (position + 4) rest).map (char :: ·)
  | bytes => .error ⟨.utf32 order, position, bytes, .truncated⟩

def bytesOf (text : List Char) : List UInt8 := text.flatMap String.utf8EncodeChar

/-- A text as it is read when its bytes are taken for the encoding that their zeros tell; a mark
before them tells as well, and is left out. -/
def redecoded : List Char → Except DecodingFault (List Char)
  | '\uFEFF' :: rest => .ok rest
  | text =>
    match Encoding.ofBytes (bytesOf (text.take 4)) with
    | .utf8 => .ok text
    | .utf16 order => (units16 order 0 (bytesOf text)).map charsOfUnits
    | .utf32 order => chars32 order 0 (bytesOf text)

/-! ## ASCII -/

def isAscii (c : Char) : Bool := c.toNat < 128

/-- Neighbours that are not ASCII, the first ones of a text, and how many characters stand before
them. -/
structure AsciiFault where
  position : Nat
  chars : List Char
deriving Repr, DecidableEq

def AsciiFault.message (fault : AsciiFault) : String :=
  let what := match fault.chars with
    | [c] => "character '" ++ String.ofList (codeEscape c) ++ "'"
    | _ => "characters"
  s!"'ascii' codec can't encode {what} in " ++ placesFrom fault.position fault.chars.length ++
    ": ordinal not in range(128)"

/-- Finds what pure ASCII cannot hold. -/
def asciiFault? (text : List Char) : Option AsciiFault :=
  match text.dropWhile isAscii with
  | [] => none
  | rest => some ⟨(text.takeWhile isAscii).length, rest.takeWhile (!isAscii ·)⟩

end Handoff.Text
