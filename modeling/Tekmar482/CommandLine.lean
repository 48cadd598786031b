import Tekmar482.Client
import Tekmar482.EqualMessages
import Tekmar482.TrpcNames
import Tekmar482.Library.Json
import Tekmar482.Library.Numerals

/-!
# The command line

What the command line reads from its arguments: the endpoint of the gateway, and the message that
`request` sends. A number is given in any notation of the source language, and a service or a
method by its name or its number.
-/

namespace Tekmar482

/-- The exceptions that the command line reports. -/
inductive CliException where
  | argumentTypeError (msg : String)
  | cliError (msg : String)
  deriving DecidableEq, Repr

namespace Cli

/-- A truth value or an integer in the notation of its prefix. -/
def intValue (value : String) : Except CliException Int :=
  let normalized := String.ofList ((Text.stripWhite value.toList).map Char.toLower)
  if normalized ∈ ["true", "on", "yes"] then .ok 1
  else if normalized ∈ ["false", "off", "no"] then .ok 0
  else
    match Text.readInt 0 value with
    | .ok number => .ok number
    | .error _ => .error (.argumentTypeError ("invalid integer value: " ++ Text.quote value))

/-- The loop of `parseFields`: a field that is given again keeps its place. -/
def parseFieldsLoop : List String → OrderedDict String Int →
    Except CliException (OrderedDict String Int)
  | [], fields => .ok fields
  | item :: rest, fields =>
      match Text.partition '=' item.toList with
      | some (c :: key, value) =>
          match intValue (String.ofList value) with
          | .ok number => parseFieldsLoop rest (fields.set (String.ofList (c :: key)) number)
          | .error err => .error err
      | _ => .error (.cliError ("field must be KEY=VALUE: " ++ Text.quote item))

/-- Parse command-line FIELD=VALUE pairs. -/
def parseFields (values : List String) : Except CliException (OrderedDict String Int) :=
  parseFieldsLoop values .empty

/-- Parse a service name or numeric service id. -/
def parseService (value : String) : Except CliException Int :=
  match serviceFromName value with
  | .ok service => .ok service.value
  | .error _ => intValue value

/-- Parse a method name or numeric method id. -/
def parseMethod (value : String) : Except CliException Int :=
  match methodFromName value with
  | .ok method => .ok method.value
  | .error _ => intValue value

/-- The arguments of `request`. -/
structure RequestArgs where
  method : String
  fields : List String := []
  service : String := "Request"
  responseMethod : Option String := none
  matchAddress : Option Int := none
  wait : Option Bool := none

/-- A message as JSON data. -/
def messageToDict (message : TrpcPacket) : OrderedDict String Json :=
  let text (name : Option String) : Json := (name.map Json.str).getD .null
  .ofList [("service", text message.serviceName), ("service_id", .int message.serviceId),
    ("method", text message.methodName), ("method_id", .int message.methodId),
    ("body", .ofDict (message.body.mapValues Json.int)),
    ("extra", .str (Text.hex message.extra))]

/-- The method to wait for, if the arguments name one. -/
def parseResponseMethod : Option String → Except CliException (Option Int)
  | none => .ok none
  | some name => (parseMethod name).map some

/-- The session call that sends the command of `request`. It waits for a response by default if
the message is a request. -/
def sendCall (args : RequestArgs) (command : TrpcCommand) (responseMethod : Option Int) :
    SessionCall :=
  if args.wait.getD (decide (command.service = TrpcService.request.value)) then
    let responseMatch := { ResponseMatch.forCommand command args.matchAddress with
      methodId := responseMethod.getD command.method }
    if command.service = TrpcService.update.value then .updateResponse command responseMatch
    else .requestResponse command responseMatch
  else .send command

/-- The session call of `request`. -/
def requestCall (args : RequestArgs) : Except CliException SessionCall := do
  let fields ← parseFields args.fields
  let service ← parseService args.service
  let method ← parseMethod args.method
  let responseMethod ← parseResponseMethod args.responseMethod
  pure (sendCall args { service, method, fields } responseMethod)

/-! ## Endpoints -/

/-- The text of a number of at most four bytes is read back. -/
theorem readInt_of_lt {base : Nat} (hbase : base = 0 ∨ base = 10) {z : Int}
    (h : z.natAbs < 4294967296) : Text.readInt base (toString z) = .ok z := by
  have hlength := (Nat.length_toDigits_le_iff (k := 10) (by decide : 1 < 10) (by decide)).mpr
    (Nat.lt_of_lt_of_le h (by decide))
  exact Text.readInt_toString hbase (Nat.le_trans hlength (by decide))

end Cli

end Tekmar482
