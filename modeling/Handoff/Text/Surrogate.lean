import Handoff.Text.Encoding

/-! # Lone surrogates

A text is a row of code points. Most of them are characters; a surrogate that stands alone is
none, and no text that holds one can be encoded. Whatever works on characters is applied to such
a text by writing private characters in the places of its surrogates: like these, they belong to
no class of characters. In two writings with different private characters a result is the same up
to the surrogates in it.
-/

namespace Handoff.Text

inductive Point where
  | char (c : Char)
  /-- A surrogate, counted from the first one. -/
  | surrogate (index : Fin 2048)
deriving Repr, DecidableEq

abbrev Points := List Point

/-- A block of private characters, with one for each surrogate. -/
inductive PrivateBlock where
  | first | second
deriving Repr, DecidableEq

def PrivateBlock.start : PrivateBlock → Nat
  | first => 0xF0000
  | second => 0x100000

namespace Point

def isChar : Point → Bool
  | char _ => true
  | surrogate _ => false

def write (block : PrivateBlock) : Point → Char
  | char c => c
  | surrogate index => Char.ofNat (block.start + index)

/-- The code point of a character that two writings have at one place: where they differ, both
stand for a surrogate. -/
def ofWritings (first second : Char) : Point :=
  if first == second then char first else surrogate (Fin.ofNat 2048 first.toNat)

end Point

namespace Points

def ofString (text : String) : Points := text.toList.map .char

def write (block : PrivateBlock) (points : Points) : String :=
  String.ofList (points.map (Point.write block))

def ofWritings (first second : String) : Points :=
  first.toList.zipWith Point.ofWritings second.toList

end Points

/-- Neighbouring surrogates, the first ones of a text, and how many code points stand before
them. -/
structure SurrogateFault where
  position : Nat
  surrogates : Points
deriving Repr, DecidableEq

def SurrogateFault.message (fault : SurrogateFault) : String :=
  let what := match fault.surrogates with
    | [.surrogate index] =>
      "character '\\u" ++ String.ofList (hexDigits 4 (0xD800 + index)) ++ "'"
    | _ => "characters"
  s!"'utf-8' codec can't encode {what} in " ++
    placesFrom fault.position fault.surrogates.length ++ ": surrogates not allowed"

/-- Finds what no encoding can hold. -/
def surrogateFault? (points : Points) : Option SurrogateFault :=
  match points.dropWhile Point.isChar with
  | [] => none
  | rest => some ⟨(points.takeWhile Point.isChar).length, rest.takeWhile (!Point.isChar ·)⟩

end Handoff.Text
