import Handoff.Markup.Escape
import Handoff.Options.Config
import Handoff.Text.Lines

/-! # Preview of a component

A page of its own that shows how the source of a component begins.
-/

namespace Handoff.Preview

/-- How many characters of the source are shown. -/
def excerptLength : Nat := 300

/-- The start of a source as text of a page. -/
def excerpt (source : String) : String :=
  String.ofList (Markup.escapeQuoted (source.toList.take excerptLength))

def lines (source : String) (framework : Framework) : List String :=
  ["<!DOCTYPE html>",
   "<html>",
   "<head>",
   "    <title>Generated Component Preview</title>",
   "    <style>",
   "        body \x7b font-family: Arial, sans-serif; padding: 20px; background: #f5f5f5; \x7d",
   "        .preview \x7b background: white; border: 1px solid #ddd; padding: 20px; " ++
     "border-radius: 8px; \x7d",
   "        .code-preview \x7b background: #f8f9fa; border: 1px solid #e9ecef; " ++
     "border-radius: 4px; padding: 15px;",
   "            margin-top: 15px; font-family: 'Courier New', monospace; font-size: 12px; " ++
     "overflow-x: auto; \x7d",
   "    </style>",
   "</head>",
   "<body>",
   "    <div class=\"preview\">",
   "        <h2>Component Preview</h2>",
   "        <p>Your Figma design has been converted to a " ++ framework.name ++ " component.</p>",
   "        <div class=\"code-preview\">",
   "            <strong>Generated Code Preview:</strong>",
   "            <pre>" ++ excerpt source ++ "...</pre>",
   "        </div>",
   "        <p><em>Download the complete files to see the full implementation.</em></p>",
   "    </div>",
   "</body>",
   "</html>"]

def page (source : String) (framework : Framework) : String :=
  Text.joinLines (lines source framework)

end Handoff.Preview
