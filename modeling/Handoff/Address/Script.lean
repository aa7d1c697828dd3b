import Handoff.Text.Range

/-! # Scripts of host names

The ranges of the scripts that decide where some signs can stand, among the characters that a host
name can hold.
-/

namespace Handoff.Address

def greekRanges : List (Nat × Nat) :=
  [(0x0371, 0x03E1), (0x03F3, 0x03FC), (0x1D26, 0x1D2A), (0x1F00, 0x1FF6), (0xAB65, 0xAB65)]

def hebrewRanges : List (Nat × Nat) :=
  [(0x0591, 0x05F4), (0xFB1E, 0xFB1E)]

def japaneseRanges : List (Nat × Nat) :=
  [(0x3005, 0x3005), (0x3007, 0x3007), (0x3041, 0x3096), (0x309D, 0x30FA), (0x30FD, 0x30FE),
   (0x31F0, 0x9FFF), (0xFA0E, 0xFA29), (0x16FE3, 0x16FE3), (0x16FF0, 0x16FF1), (0x1AFF0, 0x1B167),
   (0x20000, 0x2EBE0), (0x30000, 0x3134A)]

def isGreek (c : Char) : Bool := Text.inRanges greekRanges c.toNat

def isHebrew (c : Char) : Bool := Text.inRanges hebrewRanges c.toNat

def isJapanese (c : Char) : Bool := Text.inRanges japaneseRanges c.toNat

end Handoff.Address
