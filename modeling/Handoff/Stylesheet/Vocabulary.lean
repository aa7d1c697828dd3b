/-! # The vocabulary of stylesheets

The properties that are known, the marks of vendors that may stand before them, and the words that
are values.
-/

namespace Handoff.Stylesheet

def properties : List String :=
  ["display", "position", "top", "right", "bottom", "left", "inset", "z-index", "float",
   "clear", "overflow", "overflow-x", "overflow-y", "clip", "visibility", "opacity", "filter",
   "vertical-align", "isolation", "width", "height", "min-width", "min-height", "max-width",
   "max-height", "margin", "margin-top", "margin-right", "margin-bottom", "margin-left",
   "padding", "padding-top", "padding-right", "padding-bottom", "padding-left", "border",
   "border-width", "border-style", "border-color", "border-top", "border-right",
   "border-bottom", "border-left", "border-radius", "box-sizing", "box-shadow", "outline",
   "outline-offset", "font", "font-family", "font-size", "font-weight", "font-style",
   "font-variant", "line-height", "letter-spacing", "word-spacing", "text-align",
   "text-decoration", "text-transform", "text-indent", "text-shadow", "text-overflow",
   "white-space", "word-wrap", "word-break", "list-style", "color", "background",
   "background-color", "background-image", "background-repeat", "background-position",
   "background-size", "background-attachment", "background-clip", "background-origin", "flex",
   "flex-direction", "flex-wrap", "flex-flow", "justify-content", "align-items",
   "align-content", "align-self", "flex-grow", "flex-shrink", "flex-basis", "order", "grid",
   "grid-template", "grid-template-columns", "grid-template-rows", "grid-template-areas",
   "grid-gap", "grid-column-gap", "grid-row-gap", "grid-column", "grid-row", "grid-area",
   "justify-items", "transition", "transition-property", "transition-duration",
   "transition-timing-function", "transition-delay", "animation", "animation-name",
   "animation-duration", "animation-timing-function", "animation-delay",
   "animation-iteration-count", "animation-direction", "animation-fill-mode",
   "animation-play-state", "transform", "transform-origin", "transform-style", "perspective",
   "perspective-origin", "backface-visibility", "gap", "row-gap", "column-gap", "place-items",
   "place-content", "place-self", "aspect-ratio", "object-fit", "object-position",
   "scroll-behavior", "scroll-snap-type", "scroll-snap-align", "cursor", "pointer-events",
   "user-select", "content", "will-change", "fill", "stroke", "stroke-width"]

/-- What vendors put before their own properties. -/
def vendorMarks : List String := ["-webkit-", "-moz-", "-ms-", "-o-"]

def namedColors : List String :=
  ["black", "white", "red", "green", "blue", "yellow", "orange", "purple", "pink", "gray",
   "grey", "silver", "maroon", "navy", "teal", "olive", "lime", "aqua", "fuchsia",
   "transparent", "currentcolor", "none"]

def lengthWords : List String :=
  ["auto", "none", "fit-content", "min-content", "max-content", "thin", "medium", "thick"]

def globalWords : List String := ["inherit", "initial", "unset", "revert"]

def lengthUnits : List String :=
  ["px", "em", "rem", "%", "vh", "vw", "vmin", "vmax", "dvh", "svh", "lvh", "ch", "ex", "cm", "mm",
   "in", "pt", "pc", "fr"]

/-- What marks a value that is worked out later, so that its grammar is not checked. -/
def deferredMarks : List String :=
  ["var(", "calc(", "min(", "max(", "clamp(", "env(", "$", "#\x7b"]

/-- Whether a property is known: a custom property with a name, a known one, or a known one behind
the mark of a vendor. -/
def isKnownProperty (property : List Char) : Bool :=
  if "--".toList.isPrefixOf property then 2 < property.length
  else properties.contains (String.ofList property) ||
    vendorMarks.any fun mark =>
      mark.toList.isPrefixOf property &&
        properties.contains (String.ofList (property.drop mark.length))

end Handoff.Stylesheet
