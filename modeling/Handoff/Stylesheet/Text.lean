import Handoff.Component.Name
import Handoff.Options.Config

/-! # Stylesheets of components

Each styling has its own stylesheet for the class of a component. The palette of the design is put
at the user's disposal as custom properties, as variables or as a list.
-/

namespace Handoff.Stylesheet

/-- Styled components exist for one framework only; elsewhere plain CSS takes their place. -/
def effectiveStyling (config : Config) : Styling :=
  if config.styling == .styledComponents && config.framework != .react then .css
  else config.styling

def scriptExtension (config : Config) : String := if config.typescript then "ts" else "js"

/-- The name of a stylesheet without its last ending. -/
def moduleName (name : String) (config : Config) : String :=
  match effectiveStyling config with
  | .styledComponents => name ++ ".styles"
  | _ => name

def fileName (name : String) (config : Config) : String :=
  match effectiveStyling config with
  | .scss => name ++ ".scss"
  | .styledComponents => moduleName name config ++ "." ++ scriptExtension config
  | _ => name ++ ".css"

def text (lines : List String) : String := String.join (lines.map (· ++ "\n"))

def numbered (palette : List String) : List (Nat × String) :=
  palette.zipIdx.map fun (color, index) => (index + 1, color)

def cssLines (cls : String) (palette : List String) : List String :=
  ["." ++ cls ++ " \x7b",
   "  display: inline-block;",
   "  line-height: 0;"] ++
  (numbered palette).map (fun (n, color) => s!"  --{cls}-color-{n}: {color};") ++
  ["\x7d",
   "",
   "." ++ cls ++ " svg \x7b",
   "  max-width: 100%;",
   "  height: auto;",
   "\x7d",
   "",
   "@media (max-width: 768px) \x7b",
   "  ." ++ cls ++ " \x7b",
   "    width: 100%;",
   "  \x7d",
   "\x7d"]

/-- The lines of a stylesheet with nesting and variables. -/
def scssLines (cls : String) (palette : List String) : List String :=
  ["$" ++ cls ++ "-breakpoint: 768px;"] ++
  (numbered palette).map (fun (n, color) => s!"${cls}-color-{n}: {color};") ++
  ["",
   "." ++ cls ++ " \x7b",
   "  display: inline-block;",
   "  line-height: 0;",
   "",
   "  svg \x7b",
   "    max-width: 100%;",
   "    height: auto;",
   "  \x7d",
   "",
   "  @media (max-width: $" ++ cls ++ "-breakpoint) \x7b",
   "    width: 100%;",
   "  \x7d",
   "\x7d"]

def paletteLines (palette : List String) : List String :=
  if palette.isEmpty then []
  else ["export const palette = [" ++ ", ".intercalate (palette.map fun c => s!"'{c}'") ++ "]", ""]

def styledLines (name : String) (palette : List String) : List String :=
  ["import styled from 'styled-components'", ""] ++ paletteLines palette ++
  ["export const " ++ name ++ "Wrapper = styled.span`",
   "  display: inline-block;",
   "  line-height: 0;",
   "",
   "  svg \x7b",
   "    max-width: 100%;",
   "    height: auto;",
   "  \x7d",
   "",
   "  @media (max-width: 768px) \x7b",
   "    width: 100%;",
   "  \x7d",
   "`"]

def tailwindLines (cls : String) : List String :=
  ["@tailwind base;",
   "@tailwind components;",
   "@tailwind utilities;",
   "",
   "@layer components \x7b",
   "  ." ++ cls ++ " \x7b",
   "    @apply inline-block leading-none;",
   "  \x7d",
   "\x7d"]

def generate (name : String) (config : Config) (palette : List String) : String :=
  text (match effectiveStyling config with
    | .css => cssLines (Component.classOfString name) palette
    | .scss => scssLines (Component.classOfString name) palette
    | .styledComponents => styledLines name palette
    | .tailwind => tailwindLines (Component.classOfString name))

end Handoff.Stylesheet
