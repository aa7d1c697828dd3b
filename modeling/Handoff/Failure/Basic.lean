import Handoff.Design.Error
import Handoff.Json.Display

/-! # Failures

What can go wrong around a generation: inputs, the network, the compiler, or the program itself. A
failure has a kind, a message and perhaps another failure that caused it.
-/

namespace Handoff

inductive FailureKind where
  | badValue
  | badType
  | missingAttribute
  | overflow
  | badState
  | missingKey
  | timedOut
  | tooDeep
  | badJson
  | badAddress
  | badOptions
  | missingInput
  | compiler
  | unsupportedLanguage
  | nodeExtraction
  | httpStatus (status : Int)
  | readTimeout
  | connectTimeout
  | connectError
  | readError
deriving Repr, DecidableEq

namespace FailureKind

def name : FailureKind → String
  | badValue => "ValueError"
  | badType => "TypeError"
  | missingAttribute => "AttributeError"
  | overflow => "OverflowError"
  | badState => "RuntimeError"
  | missingKey => "KeyError"
  | timedOut => "TimeoutError"
  | tooDeep => "RecursionError"
  | badJson => "JSONDecodeError"
  | badAddress => "InvalidURL"
  | badOptions => "ValidationError"
  | missingInput => "MissingInputError"
  | compiler => "CompilerError"
  | unsupportedLanguage => "UnsupportedLanguageError"
  | nodeExtraction => "NodeExtractionError"
  | httpStatus _ => "HTTPStatusError"
  | readTimeout => "ReadTimeout"
  | connectTimeout => "ConnectTimeout"
  | connectError => "ConnectError"
  | readError => "ReadError"

/-- The part of the system that a kind belongs to. -/
def home : FailureKind → String
  | badValue | badType | missingAttribute | overflow | badState | missingKey | timedOut
  | tooDeep => "builtins"
  | badJson => "json.decoder"
  | badOptions => "pydantic_core._pydantic_core"
  | missingInput => "generators.synthesizer"
  | compiler => "validators.typescript_validator"
  | unsupportedLanguage => "validators.code_validator"
  | nodeExtraction => "generators.extractor"
  | badAddress | httpStatus _ | readTimeout | connectTimeout | connectError | readError => "httpx"

/-- Whether an input is to blame, so that the message can be shown as it is. -/
def blamesInput : FailureKind → Bool
  | badValue | badJson | badOptions | missingInput | unsupportedLanguage | nodeExtraction => true
  | _ => false

/-- Whether a request took too long. -/
def isTimeout : FailureKind → Bool
  | readTimeout | connectTimeout => true
  | _ => false

def isNetwork : FailureKind → Bool
  | readTimeout | connectTimeout | connectError | readError => true
  | _ => false

end FailureKind

inductive Failure where
  | mk (kind : FailureKind) (message : Option String) (cause : Option Failure)

namespace Failure

instance : Inhabited Failure := ⟨mk .badState none none⟩

def of (kind : FailureKind) (message : String) : Failure := mk kind (some message) none

def kind : Failure → FailureKind
  | mk kind .. => kind

def cause : Failure → Option Failure
  | mk _ _ cause => cause

/-- What a failure says. A missing key is quoted; without a message nothing is said. -/
def text : Failure → String
  | mk _ none _ => ""
  | mk .missingKey (some key) _ => String.ofList (Text.quoted key.toList)
  | mk _ (some message) _ => message

def ofDesign (fault : DesignError) : Failure :=
  match fault with
  | .notIterable _ => of .badType fault.message
  | .undefinedChannel => of .badValue fault.message
  | .integerTooLarge | .infiniteChannel => of .overflow fault.message

def notAnObject (value : Json) (member : String) : Failure :=
  of .missingAttribute ("'" ++ value.kindWord ++ "' object has no attribute '" ++ member ++ "'")

end Failure

end Handoff
