import Handoff.Address.Basic
import Handoff.Failure.Basic
import Handoff.Json.Reader
import Handoff.Json.Writer

/-! # Exchanges over the network

A tool sends calls and gets replies. Calls are recorded in their order; the replies are given
beforehand and used up one by one. A call that gets no reply fails, and so does one that has a
relative address, whatever the reply.
-/

namespace Handoff.Service

inductive Body where
  | json (value : Json)
  | text (content : String)

namespace Body

def asText : Body → String
  | json value => value.oneLine
  | text content => content

/-- How deep the values of a reply may nest. -/
def nestingLimit : Nat := 980

def readFailure (text : List Char) (error : Json.ReadError) : Failure :=
  let kind : FailureKind := match error with
    | .malformed .. => .badJson
    | .numberTooLong _ => .badValue
    | .tooDeep _ => .tooDeep
  .of kind (error.message text)

def asJson : Body → Except Failure Json
  | json value => .ok value
  | text content => do
    let text ← (Text.redecoded content.toList).mapError fun fault => .of .badValue fault.message
    (Json.readWithin nestingLimit text).mapError (readFailure text)

end Body

inductive Reply where
  | response (status : Int) (body : Body)
  | failed (failure : Failure)

structure Call where
  address : Address
  token : Option String
deriving Repr, DecidableEq

namespace Call

def addressFailure (fault : AddressFault) : Failure := .of .badAddress fault.message

/-- Refuses a text that does not travel in pure ASCII. -/
def requireAscii (text : List Char) : Except Failure Unit :=
  match Text.asciiFault? text with
  | some fault => .error (.of .badValue fault.message)
  | none => .ok ()

/-- The call for an address with some fields, if it can be sent. -/
def prepare (address : Except AddressFault Address) (fields : List (String × String))
    (token : Option String) : Except Failure Call := do
  let address ← (address.bind Address.rooted).mapError addressFailure
  requireAscii ((token.map String.toList).getD [])
  let address ←
    if fields.isEmpty then pure address
    else (address.withFields fields).mapError addressFailure
  requireAscii address.location
  pure ⟨address, token⟩

end Call

/-- The replies that are left and the calls that were sent, the first one first. -/
structure Exchange where
  replies : List Reply
  calls : List Call := []

/-- A part of a tool's work. What was sent stays sent, also when it fails. -/
abbrev Client := ExceptT Failure (StateM Exchange)

namespace Client

def isSuccess (status : Int) : Bool := 200 ≤ status && status < 300

/-- The failure of an address that does not say where to send a call. -/
def relativeFailure (address : Address) : Failure :=
  .of .badValue ("unknown url type: " ++ String.ofList (Text.quoted address.text))

def bodyFor (call : Call) : Option Reply → Except Failure Body
  | none => .error (.of .connectError "no response left")
  | some (.failed failure) => .error failure
  | some (.response status body) =>
    if !call.address.isAbsolute then .error (relativeFailure call.address)
    else if isSuccess status then .ok body
    else .error (.mk (.httpStatus status) none none)

def send (call : Call) : Client Body := do
  let exchange ← getThe Exchange
  set ({ replies := exchange.replies.tail, calls := exchange.calls ++ [call] } : Exchange)
  ExceptT.mk (pure (bodyFor call exchange.replies.head?))

/-- A result as a part of a tool's work. -/
def ofExcept {α : Type} (result : Except Failure α) : Client α := ExceptT.mk (pure result)

end Client

structure Credentials where
  accessToken : Option String
  token : Option String
deriving Repr, DecidableEq

namespace Credentials

/-- What is said when no token is set. -/
def missing : String :=
  "Figma API token not found. Set FIGMA_ACCESS_TOKEN or FIGMA_TOKEN environment variable. " ++
    "Get your token from: https://www.figma.com/developers/api#access-tokens"

/-- The first token that is set and not empty. -/
def choose (credentials : Credentials) : Except Failure String :=
  let isSet (token : String) := !token.isEmpty
  match (credentials.accessToken.filter isSet).orElse fun _ => credentials.token.filter isSet with
  | some token => .ok token
  | none => .error (.of .badValue missing)

end Credentials

namespace Client

def fetch (credentials : Credentials) (address : Except AddressFault Address)
    (fields : List (String × String) := []) : Client Json := do
  let token ← ofExcept credentials.choose
  let body ← send (← ofExcept (Call.prepare address fields (some token)))
  ofExcept body.asJson

/-- Calls for a text without a token. -/
def download (address : Except AddressFault Address) : Client String := do
  let body ← send (← ofExcept (Call.prepare address [] none))
  pure body.asText

end Client

end Handoff.Service
