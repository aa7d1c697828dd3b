import Handoff.Design.Error
import Handoff.Json.Display
import Handoff.Number.Reading
import Handoff.Text.Case

/-! # Colors and paints

A color has four channels from zero to one. A paint is a solid color or a gradient; a malformed
color, stop or paint is left out.
-/

namespace Handoff

def Json.number? : Json → NumberReading
  | .int n =>
    match floatOfInt? n with
    | some x => .ok (some x)
    | none => .error .integerTooLarge
  | .float x => .ok (some x)
  | .string s => .ok (float? s.toList)
  | _ => .ok none

def Json.numberField? (value : Json) (key : String) : NumberReading := (value.field key).number?

/-- Whether a value is visible, which it is unless it says otherwise. -/
def Json.isVisible (value : Json) : Bool :=
  match value.get? "visible" with
  | some (.bool false) => false
  | _ => true

/-- A color with an alpha channel. -/
structure Color where
  red : Float
  green : Float
  blue : Float
  alpha : Float

namespace Color

/-- The color in an object with the channels `r`, `g`, `b` and perhaps `a`. -/
def ofJson? (value : Json) : DesignResult (Option Color) :=
  if value.isObject then do
    let red ← value.numberField? "r"
    let green ← value.numberField? "g"
    let blue ← value.numberField? "b"
    match red, green, blue with
    | some red, some green, some blue =>
      let alpha ← value.numberField? "a"
      pure (some ⟨red, green, blue, alpha.getD 1⟩)
    | _, _, _ => pure none
  else pure none

/-- A channel on the scale from 0 to 255, rounded and kept within it. -/
def channel (x : Float) : DesignResult Nat :=
  match Binary64.ofFloat (x * 255) with
  | .finite value => .ok (min 255 value.round.toNat)
  | .infinite _ => .error .infiniteChannel
  | .undefined => .error .undefinedChannel

def channels (color : Color) : DesignResult (Nat × Nat × Nat) := do
  let red ← channel color.red
  let green ← channel color.green
  let blue ← channel color.blue
  pure (red, green, blue)

/-- The color as hexadecimal pairs, with a fourth pair when it is not opaque. -/
def hex (color : Color) : DesignResult String := do
  let (red, green, blue) ← color.channels
  let opaqueHex := "#" ++ hexPair red ++ hexPair green ++ hexPair blue
  if color.alpha < 1 then
    let alpha ← channel color.alpha
    pure (opaqueHex ++ hexPair alpha)
  else pure opaqueHex

def rgba (color : Color) : DesignResult String := do
  let (red, green, blue) ← color.channels
  pure s!"rgba({red}, {green}, {blue}, {twoPlacesText color.alpha})"

end Color

structure GradientStop where
  color : Color
  position : Float

structure Paint where
  kind : String
  color : Option Color
  stops : List GradientStop
  opacity : Float
  visible : Bool

namespace Paint

def isSolid (paint : Paint) : Bool := paint.kind == "SOLID" && paint.color.isSome

def isGradient (paint : Paint) : Bool :=
  "GRADIENT_".toList.isPrefixOf paint.kind.toList && !paint.stops.isEmpty

/-- The stop in one item; an item without a color is left out. -/
def stopOfJson? (value : Json) : DesignResult (Option GradientStop) := do
  match ← Color.ofJson? (value.field "color") with
  | none => pure none
  | some color =>
    let position := (← value.numberField? "position").getD 0
    pure (some ⟨color, if position == 0 then 0 else position⟩)

def stopsOfItems : List Json → DesignResult (List GradientStop)
  | [] => pure []
  | item :: rest => do
    let stop ← stopOfJson? item
    let stops ← stopsOfItems rest
    pure (stop.toList ++ stops)

/-- The stops of a gradient. An absent value has none, and so have texts and objects. -/
def stopsOfJson (value : Json) : DesignResult (List GradientStop) :=
  if !value.isTruthy then pure []
  else match value with
    | .list items => stopsOfItems items
    | .string _ | .object _ => pure []
    | value => .error (.notIterable value.kindWord)

def ofJson? (value : Json) : DesignResult (Option Paint) :=
  if value.isObject then do
    let stops ← stopsOfJson (value.field "gradientStops")
    let opacity ← value.numberField? "opacity"
    let color ← Color.ofJson? (value.field "color")
    let kind := (value.fieldOr "type" (.string "")).display
    pure (some {
      kind := String.ofList (Text.upper kind.toList)
      color := color
      stops := stops
      opacity := opacity.getD 1
      visible := value.isVisible })
  else pure none

def listOfItems : List Json → DesignResult (List Paint)
  | [] => pure []
  | item :: rest => do
    let paint ← ofJson? item
    let paints ← listOfItems rest
    pure (paint.toList ++ paints)

/-- The paints of a node; anything but a list has none. -/
def listOfJson : Json → DesignResult (List Paint)
  | .list items => listOfItems items
  | _ => pure []

end Paint

end Handoff
