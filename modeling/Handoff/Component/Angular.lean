import Handoff.Component.Blueprint
import Handoff.Stylesheet.Text

/-! # Components for Angular

A class with a decorator that holds the template; the properties are inputs of the class.
-/

namespace Handoff.Component.Angular

open Text (joinLines)

def rootTag (blueprint : Blueprint) : String :=
  blueprint.plainRootTag
    (" [attr.class]=\"'" ++ blueprint.className ++ " ' + className\"" ++
      " [attr.width]=\"width\" [attr.height]=\"height\" [attr.fill]=\"fill\"" ++
      " [attr.stroke]=\"stroke\"")
    " [attr.aria-label]=\"title\""

def templateLines (blueprint : Blueprint) : List String :=
  ["    " ++ rootTag blueprint] ++ blueprint.plainBodyLines 6 ++ ["    </svg>"]

/-- The type of an input; without a default, the input may be missing. -/
def inputType (typescript : Bool) (default : Option String) (property : Property) : String :=
  if typescript then (if default.isNone then "?: " else ": ") ++ property.typeName else ""

def inputLine (blueprint : Blueprint) (property : Property) : String :=
  let default := blueprint.default? property
  "  @Input() " ++ property.name ++ inputType blueprint.config.typescript default property ++
    (default.map (" = " ++ ·)).getD ""

def inputLines (blueprint : Blueprint) : List String :=
  if blueprint.config.passProps then blueprint.properties.map (inputLine blueprint) else []

def importLine (blueprint : Blueprint) : String :=
  if blueprint.config.passProps then "import \x7b Component, Input \x7d from '@angular/core'"
  else "import \x7b Component \x7d from '@angular/core'"

/-- The name of the element that the component is used by. -/
def selector (blueprint : Blueprint) : String := "app-" ++ classOfString blueprint.name

def decoratorLines (blueprint : Blueprint) : List String :=
  ["@Component(\x7b",
   "  selector: '" ++ selector blueprint ++ "',",
   "  standalone: true,",
   "  styleUrls: ['./" ++ blueprint.stylesheet ++ "'],",
   "  template: `"] ++
  templateLines blueprint ++
  ["  `,", "\x7d)"]

def heritage (blueprint : Blueprint) : String :=
  if blueprint.config.typescript && blueprint.config.passProps then
    " implements " ++ blueprint.name ++ "Props"
  else ""

def classLines (blueprint : Blueprint) : List String :=
  decoratorLines blueprint ++
  ["export class " ++ blueprint.name ++ heritage blueprint ++ " \x7b"] ++
  inputLines blueprint ++
  ["\x7d"]

def source (blueprint : Blueprint) : String :=
  joinSections (
    blueprint.scriptHeader?.toList ++
    [importLine blueprint] ++
    (if blueprint.config.typescript then [joinLines (blueprint.interface "")] else []) ++
    [joinLines (classLines blueprint), "export default " ++ blueprint.name]) ++
  "\n"

def testSource (name : String) : String :=
  Stylesheet.text [
    "import \x7b TestBed \x7d from '@angular/core/testing'",
    "import \x7b " ++ name ++ " \x7d from './" ++ name ++ ".component'",
    "",
    "describe('" ++ name ++ "', () => \x7b",
    "  it('renders an svg element', async () => \x7b",
    "    await TestBed.configureTestingModule(\x7b imports: [" ++ name ++
      "] \x7d).compileComponents()",
    "    const fixture = TestBed.createComponent(" ++ name ++ ")",
    "    fixture.detectChanges()",
    "    expect(fixture.nativeElement.querySelector('svg')).toBeTruthy()",
    "  \x7d)",
    "\x7d)"]

end Handoff.Component.Angular
