import Handoff.Text.Mark

/-! # The direction of a label

Some scripts are written from right to left. A label that holds such a character has to start with
one, holds no letter of the other direction, and ends, marks aside, in a letter or a digit.
-/

namespace Handoff.Address

/-- The part that a character plays for the direction of a text. -/
inductive Direction where
  | left
  | right
  | westernDigit
  | arabicDigit
  | mark
  | neutral
deriving Repr, DecidableEq

/-- The ranges of label characters that run from right to left. -/
def rightRanges : List (Nat × Nat) :=
  [(0x05D0, 0x05F4), (0x0620, 0x064A), (0x066E, 0x066F), (0x0671, 0x06D5), (0x06E5, 0x06E6),
   (0x06EE, 0x06EF), (0x06FA, 0x0710), (0x0712, 0x072F), (0x074D, 0x07A5), (0x07B1, 0x07EA),
   (0x07F4, 0x07F5), (0x0800, 0x0815), (0x081A, 0x081A), (0x0824, 0x0824), (0x0828, 0x0828),
   (0x0840, 0x0858), (0x0860, 0x088E), (0x08A0, 0x08C9), (0xFE73, 0xFE73), (0x10800, 0x10A00),
   (0x10A10, 0x10A35), (0x10A60, 0x10AE4), (0x10B00, 0x10D23), (0x10E80, 0x10EA9),
   (0x10EB0, 0x10F45), (0x10F70, 0x10F81), (0x10FB0, 0x10FF6), (0x1E800, 0x1E8C4),
   (0x1E922, 0x1E943), (0x1E94B, 0x1E959)]

/-- The ranges of label characters without a direction. -/
def neutralRanges : List (Nat × Nat) :=
  [(0x002D, 0x002D), (0x00B7, 0x00B7), (0x02B9, 0x02BA), (0x02C6, 0x02CF), (0x02EC, 0x02EC),
   (0x0375, 0x0375), (0x200C, 0x200D), (0x2E2F, 0x2E2F), (0x30FB, 0x30FB), (0xA67F, 0xA67F),
   (0xA717, 0xA71F), (0xA788, 0xA788)]

/-- The digits that keep their order from left to right. -/
def westernDigitRanges : List (Nat × Nat) := [(0x0030, 0x0039), (0x06F0, 0x06F9)]

/-- The digits that belong to scripts from right to left. -/
def arabicDigitRanges : List (Nat × Nat) := [(0x0660, 0x0669), (0x10D30, 0x10D39)]

/-- Marks without space that run from left to right, whatever they follow. -/
def leftMarks : List Nat := [0x0CBF, 0x0CC6, 0x11A07, 0x11A08, 0x11C3F]

/-- Whether a character has the direction of what stands before it. -/
def isFollowing (c : Char) : Bool := Text.isNonspacing c && !leftMarks.contains c.toNat

def direction (c : Char) : Direction :=
  if Text.inRanges rightRanges c.toNat then .right
  else if Text.inRanges westernDigitRanges c.toNat then .westernDigit
  else if Text.inRanges arabicDigitRanges c.toNat then .arabicDigit
  else if isFollowing c then .mark
  else if Text.inRanges neutralRanges c.toNat then .neutral
  else .left

def runsRight (directions : List Direction) : Bool :=
  directions.contains .right || directions.contains .arabicDigit

def isDirected (directions : List Direction) : Bool :=
  !runsRight directions ||
    (directions.head? == some .right && !directions.contains .left &&
      !(directions.contains .westernDigit && directions.contains .arabicDigit) &&
      match directions.reverse.find? (· != .mark) with
      | some last => last == .right || last == .westernDigit || last == .arabicDigit
      | none => false)

end Handoff.Address
