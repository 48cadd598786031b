import Tekmar482.TrpcNames
import Tekmar482.Library.Json

/-!
# Trace replay

A trace is a script: each step holds the message that is expected next and the messages that it
triggers. Traces are kept in JSON files, and a transport replays them to the packets written.
-/

namespace Tekmar482

/-- One expected outbound message and the messages it should trigger. -/
structure TraceStep where
  sent : TrpcPacket
  received : List TrpcPacket := []
  deriving DecidableEq

/-- Create a request/response replay step. -/
def TraceStep.request (method : Int) (response : Option TrpcPacket := none)
    (fields : OrderedDict String Int := .empty) : Except PyException TraceStep :=
  (TrpcPacket.create TrpcService.request.value method fields).map fun sent =>
    { sent := sent, received := response.toList }

/-! ## Messages in JSON -/

/-- A display name, or the number where there is none. -/
def nameOrId (name : Option String) (id : Int) : Json :=
  match name with
  | none => .int id
  | some name => if name = "" then .int id else .str name

def messageToDict (message : TrpcPacket) : OrderedDict String Json :=
  .ofList [("service", nameOrId message.serviceName message.serviceId),
    ("method", nameOrId message.methodName message.methodId),
    ("body", .ofDict (message.body.mapValues Json.int)),
    ("extra", .str (Text.hex message.extra))]

/-- `value[key]`. -/
def subscript (value : Json) (key : String) : Except PyException Json :=
  match value with
  | .obj members =>
      match (Json.dict members).get? key with
      | some item => .ok item
      | none => .error (.otherError (Text.quote key))
  | .str _ => .error (.otherError "string indices must be integers, not 'str'")
  | .arr _ => .error (.otherError "list indices must be integers or slices, not str")
  | value => .error (.otherError ("'" ++ value.typeName ++ "' object is not subscriptable"))

/-- What a loop over a value goes through. -/
def iterate (value : Json) : Except PyException (List Json) :=
  match value with
  | .arr items => .ok items
  | .obj members => .ok ((Json.dict members).keys.map Json.str)
  | .str text => .ok (text.toList.map fun c => .str c.toString)
  | value => .error (.otherError ("'" ++ value.typeName ++ "' object is not iterable"))

/-- A value of the type `int | str`. A truth value is an integer. -/
def intOrStr : Json → Option (Int ⊕ String)
  | .int n => some (.inl n)
  | .bool flag => some (.inl (if flag then 1 else 0))
  | .str text => some (.inr text)
  | _ => none

/-- `int(item)`. -/
def toInt (item : Json) : Except PyException Int :=
  match item with
  | .int n => .ok n
  | .bool flag => .ok (if flag then 1 else 0)
  | .float (.finite x) => .ok (x.num.tdiv x.den)
  | .float (.infinity _) => .error (.otherError "cannot convert float infinity to integer")
  | .float .nan => .error (.valueError "cannot convert float NaN to integer")
  | .str text => (Text.readInt 10 text).mapError .valueError
  | item =>
      .error (.otherError ("int() argument must be a string, a bytes-like object or a real " ++
        "number, not '" ++ item.typeName ++ "'"))

/-- An id, or the text of one: a name that is unknown is read as a number. -/
def fromTraceValue (fromName : String → Except PyException Int) :
    Int ⊕ String → Except PyException Int
  | .inl id => .ok id
  | .inr name =>
      match fromName name with
      | .ok id => .ok id
      | .error _ => (Text.readInt 0 name).mapError .valueError

def serviceFromTraceValue : Int ⊕ String → Except PyException Int :=
  fromTraceValue fun name => (serviceFromName name).map TrpcService.value

def methodFromTraceValue : Int ⊕ String → Except PyException Int :=
  fromTraceValue fun name => (methodFromName name).map TrpcMethod.value

/-- The body of a message, one item after the other. -/
def bodyFromDict (body : OrderedDict String Json) : Except PyException (OrderedDict String Int) :=
  (body.entries.mapM fun entry => (toInt entry.2).map fun n => (entry.1, n)).map OrderedDict.ofList

/-- `bytes.fromhex(extra)`. -/
def extraFromHex (extra : String) : Except PyException (List UInt8) :=
  (Text.fromHex extra).mapError fun position =>
    .valueError ("non-hexadecimal number found in fromhex() arg at position " ++ toString position)

def messageFromDict (value : Json) : Except PyException TrpcPacket := do
  let service ← subscript value "service"
  let method ← subscript value "method"
  -- Only a dictionary has got here.
  let members := match value with
    | .obj members => Json.dict members
    | _ => .empty
  let bodyValue := (members.get? "body").getD (.obj [])
  let extra := (members.get? "extra").getD (.str "")
  match intOrStr service, intOrStr method, bodyValue, extra with
  | none, _, _, _ => .error (.protocolError "trace message service must be a string or integer")
  | _, none, _, _ => .error (.protocolError "trace message method must be a string or integer")
  | some service, some method, .obj body, .str extra => do
      let serviceId ← serviceFromTraceValue service
      let methodId ← methodFromTraceValue method
      let body ← bodyFromDict (Json.dict body)
      let extra ← extraFromHex extra
      pure { serviceId := serviceId, methodId := methodId, body := body, extra := extra }
  | _, _, .obj _, _ => .error (.protocolError "trace message extra must be a hex string")
  | _, _, _, _ => .error (.protocolError "trace message body must be an object")

namespace TraceStep

/-- A JSON-friendly dictionary. -/
def asDict (self : TraceStep) : OrderedDict String Json :=
  .ofList [("sent", .ofDict (messageToDict self.sent)),
    ("received", .arr (self.received.map fun message => .ofDict (messageToDict message)))]

/-- Build a trace step from a JSON-friendly dictionary. -/
def fromDict (value : OrderedDict String Json) : Except PyException TraceStep := do
  let item ← subscript (.ofDict value) "sent"
  let sent ← messageFromDict item
  let items ← iterate ((value.get? "received").getD (.arr []))
  let received ← items.mapM messageFromDict
  pure { sent := sent, received := received }

end TraceStep

/-! ## Trace files -/

section Files

variable {File : Type} (codec : JsonCodec File PyException)

def stepFromItem : Json → Except PyException TraceStep
  | .obj members => TraceStep.fromDict (Json.dict members)
  | _ => .error (.protocolError "trace file entries must be JSON objects")

/-- Load trace replay steps from the text of a file. -/
def loadTrace (file : File) : Except PyException (List TraceStep) := do
  let payload ← codec.load file
  match payload with
  | .arr items => items.mapM stepFromItem
  | _ => .error (.protocolError "trace file must contain a JSON list")

/-- The text of a file with trace replay steps. -/
def dumpTrace (steps : List TraceStep) : File :=
  codec.dump (.arr (steps.map fun step => .ofDict step.asDict))

end Files

/-! ## The transport -/

/-- Packet transport that replays scripted responses to expected writes. -/
structure TraceReplayTransport where
  steps : List TraceStep
  written : List Packet := []
  packets : List Packet := []
  packetEvent : Bool := false
  isOpen : Bool := false
  deriving DecidableEq

def TraceReplayTransport.open (self : TraceReplayTransport) : TraceReplayTransport :=
  { self with isOpen := true }

namespace TraceReplayTransport

/-- The number of expected writes not yet observed. -/
def pendingSteps (self : TraceReplayTransport) : Nat := self.steps.length

def close (self : TraceReplayTransport) : TraceReplayTransport :=
  { self with isOpen := false, packetEvent := true }

/-- What the loop of `read_next` does before it awaits: it ends with a packet or an error, or it
waits for the event. -/
def readNext (self : TraceReplayTransport) :
    TraceReplayTransport × Option (Except PyException Packet) :=
  match self.packets with
  | packet :: rest => ({ self with packets := rest }, some (.ok packet))
  | [] =>
      if self.isOpen then ({ self with packetEvent := false }, none)
      else (self, some (.error (.connectionClosedError "trace replay transport closed")))

/-- Queue an unsolicited inbound message. -/
def queueMessage (self : TraceReplayTransport) (message : TrpcPacket) :
    Except PyException Unit × TraceReplayTransport :=
  match message.toPacket with
  | .error err => (.error err, self)
  | .ok packet =>
      (.ok (), { self with packets := self.packets ++ [packet], packetEvent := true })

/-- The loop over the responses of a step. -/
def queueResponses (self : TraceReplayTransport) :
    List TrpcPacket → Except PyException Unit × TraceReplayTransport
  | [] => (.ok (), self)
  | response :: rest =>
      match self.queueMessage response with
      | (.ok _, next) => next.queueResponses rest
      | (.error err, next) => (.error err, next)

/-- Validate an outbound packet and queue scripted responses. -/
def writePacket (self : TraceReplayTransport) (packet : Packet) :
    Except PyException Unit × TraceReplayTransport :=
  if packet.type ≠ Packet.TYPE_TRPC then
    (.error (.protocolError
      ("trace expected tRPC packet, got packet type " ++ toString packet.type.toNat)), self)
  else
    -- The message is decoded for the error texts, before and after the look at the script.
    match self.steps, TrpcPacket.fromPacket packet with
    | _, .error err => (.error err, self)
    | [], .ok message => (.error (.protocolError ("unexpected tRPC write: " ++ message.str)), self)
    | step :: rest, .ok message =>
        match step.sent.toPacket with
        | .error err => (.error err, self)
        | .ok expected =>
            if packet ≠ expected then
              (.error (.protocolError
                ("expected tRPC write " ++ step.sent.str ++ ", got " ++ message.str)), self)
            else
              { self with steps := rest, written := self.written ++ [packet] }.queueResponses
                step.received

/-- Raise if scripted writes remain unconsumed. -/
def assertComplete (self : TraceReplayTransport) : Except PyException Unit :=
  if self.steps = [] then .ok ()
  else
    .error (.otherError (toString self.steps.length ++ " trace replay step(s) were not consumed"))

end TraceReplayTransport

end Tekmar482
