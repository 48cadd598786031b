import Tekmar482.Trpc
import Tekmar482.Library.Text

/-!
# The names of services and methods

Known services and methods have a display name, and some methods have an alias. A name is
resolved through tables of its own, which hold the aliases as well.
-/

namespace Tekmar482

def serviceSpecs : TrpcService → String
  | .update => "Update"
  | .request => "Request"
  | .report => "Report"
  | .responseUpdate => "Response:Update"
  | .responseRequest => "Response:Request"

def serviceIds : OrderedDict String TrpcService :=
  .ofList (TrpcService.members.map fun service => (serviceSpecs service, service))

/-- The display names in the order of the table, and then the aliases. -/
def namedMethods : List (String × TrpcMethod) :=
  (TrpcMethod.members.map fun method => ((methodSpecs method).name, method)) ++
    TrpcMethod.members.flatMap fun method =>
      (methodSpecs method).aliases.map fun alternative => (alternative, method)

def methodIds : OrderedDict String TrpcMethod := .ofList namedMethods

/-- Resolve a known service display name. -/
def serviceFromName (name : String) : Except PyException TrpcService :=
  match serviceIds.get? name with
  | some service => .ok service
  | none => .error (.unknownServiceError ("unknown tRPC service: " ++ Text.quote name))

/-- Resolve a known method display name or alias. -/
def methodFromName (name : String) : Except PyException TrpcMethod :=
  match methodIds.get? name with
  | some method => .ok method
  | none => .error (.unknownMethodError ("unknown tRPC method: " ++ Text.quote name))

/-- A known service display name. -/
def serviceName (service : Int) : Option String := (TrpcService.ofValue? service).map serviceSpecs

/-- A known method display name. -/
def methodName (method : Int) : Option String := (methodSpec method).map MethodSpec.name

/-! ## Names are resolved to what they name -/

theorem mem_namedMethods (method : TrpcMethod) :
    ((methodSpecs method).name, method) ∈ namedMethods :=
  List.mem_append_left _ (List.mem_map_of_mem (by cases method <;> decide))

/-- No two methods share a name or an alias. -/
theorem namedMethods_nodup : (namedMethods.map Prod.fst).Nodup := by decide

theorem serviceFromName_serviceSpecs (service : TrpcService) :
    serviceFromName (serviceSpecs service) = .ok service := by
  cases service <;> decide

theorem methodFromName_name (method : TrpcMethod) :
    methodFromName (methodSpecs method).name = .ok method := by
  rw [methodFromName, methodIds,
    OrderedDict.get?_ofList_of_mem namedMethods_nodup (mem_namedMethods method)]

/-- The display name of a service id is resolved to that id. -/
theorem serviceFromName_of_serviceName {id : Int} {name : String} (h : serviceName id = some name) :
    ∃ service, serviceFromName name = .ok service ∧ service.value = id := by
  obtain ⟨service, hid, rfl⟩ := Option.map_eq_some_iff.mp h
  exact ⟨service, serviceFromName_serviceSpecs service,
    ((TrpcService.ofValue?_eq_some_iff id service).mp hid).symm⟩

/-- The display name of a method id is resolved to that id. -/
theorem methodFromName_of_methodName {id : Int} {name : String} (h : methodName id = some name) :
    ∃ method, methodFromName name = .ok method ∧ method.value = id := by
  obtain ⟨spec, hspec, rfl⟩ := Option.map_eq_some_iff.mp h
  obtain ⟨method, hid, rfl⟩ := Option.map_eq_some_iff.mp hspec
  exact ⟨method, methodFromName_name method,
    ((TrpcMethod.ofValue?_eq_some_iff id method).mp hid).symm⟩

namespace TrpcPacket

/-- The service display name, if known. -/
def serviceName (self : TrpcPacket) : Option String := Tekmar482.serviceName self.serviceId

/-- The method display name, if known. -/
def methodName (self : TrpcPacket) : Option String := Tekmar482.methodName self.methodId

/-- The text of a message. -/
def str (self : TrpcPacket) : String :=
  let service := self.serviceName.getD ("0x" ++ Text.formatHex 2 self.serviceId)
  let method := self.methodName.getD ("0x" ++ Text.formatHex 8 self.methodId)
  let values := ", ".intercalate (self.body.entries.map fun entry =>
    entry.1 ++ "=" ++ toString entry.2)
  if self.body.entries = [] then
    if self.extra = [] then service ++ " " ++ method
    else service ++ " " ++ method ++ " <extra=" ++ Text.hex self.extra ++ ">"
  else
    if self.extra = [] then service ++ " " ++ method ++ " <" ++ values ++ ">"
    else service ++ " " ++ method ++ " <" ++ values ++ ", extra=" ++ Text.hex self.extra ++ ">"

end TrpcPacket

end Tekmar482
