import Tekmar482.Simulator
import Tekmar482.EqualMessages

/-!
# Trace files hold what was dumped

A message is written with its names where they are known and with numbers where they are not, and
is read back with the same ids, body and extra bytes. A file has the keys of a body in order,
which an equality of messages does not see.
-/

namespace Tekmar482

/-! ## Ids -/

theorem nameOrId_sortKeys (name : Option String) (id : Int) :
    (nameOrId name id).sortKeys = nameOrId name id := by
  cases name with
  | none => rfl
  | some name =>
      rw [nameOrId]
      split <;> rfl

/-- A name that is resolved to the id, or no name, is read as the id. -/
theorem fromTraceValue_nameOrId {fromName : String → Except PyException Int} {id : Int}
    {name : Option String} (h : ∀ known, name = some known → fromName known = .ok id) :
    ∃ value, intOrStr (nameOrId name id) = some value ∧ fromTraceValue fromName value = .ok id := by
  cases name with
  | none => exact ⟨.inl id, rfl, rfl⟩
  | some known =>
      rw [nameOrId]
      split
      · exact ⟨.inl id, rfl, rfl⟩
      · refine ⟨.inr known, rfl, ?_⟩
        rw [fromTraceValue, h known rfl]

theorem serviceFromTraceValue_nameOrId (id : Int) :
    ∃ value, intOrStr (nameOrId (serviceName id) id) = some value ∧
      serviceFromTraceValue value = .ok id := by
  apply fromTraceValue_nameOrId
  intro name hname
  obtain ⟨service, hservice, rfl⟩ := serviceFromName_of_serviceName hname
  rw [hservice]
  rfl

theorem methodFromTraceValue_nameOrId (id : Int) :
    ∃ value, intOrStr (nameOrId (methodName id) id) = some value ∧
      methodFromTraceValue value = .ok id := by
  apply fromTraceValue_nameOrId
  intro name hname
  obtain ⟨method, hmethod, rfl⟩ := methodFromName_of_methodName hname
  rw [hmethod]
  rfl

/-! ## Messages -/

/-- Reading every item of a list that was written item by item. -/
theorem mapM_map {ι α β : Type} {write : ι → α} {read : α → Except PyException β} {value : ι → β}
    (items : List ι) (h : ∀ item ∈ items, read (write item) = .ok (value item)) :
    (items.map write).mapM read = .ok (items.map value) := by
  induction items with
  | nil => rfl
  | cons item rest ih =>
      rw [List.map_cons, List.mapM_cons, h item List.mem_cons_self,
        ih fun item hitem => h item (List.mem_cons_of_mem _ hitem)]
      rfl

theorem bodyFromDict_mapValues (body : OrderedDict String Int) :
    bodyFromDict (body.mapValues Json.int) = .ok body := by
  have hread : (body.mapValues Json.int).entries.mapM
      (fun entry => (toInt entry.2).map fun n => (entry.1, n)) = .ok (body.entries.map id) :=
    mapM_map body.entries fun _ _ => rfl
  rw [bodyFromDict, hread, List.map_id]
  exact congrArg Except.ok (OrderedDict.ext (OrderedDict.entries_ofList body.nodup))

theorem subscript_obj {members : List (String × Json)} {key : String} {item : Json}
    (h : (Json.dict members).get? key = some item) : subscript (.obj members) key = .ok item := by
  simp only [subscript, h]

/-- A message is read back from its four members, wherever they stand. -/
theorem messageFromDict_of_members {members : List (String × Json)} {message : TrpcPacket}
    {body : OrderedDict String Int}
    (hservice : (Json.dict members).get? "service" =
      some (nameOrId message.serviceName message.serviceId))
    (hmethod : (Json.dict members).get? "method" =
      some (nameOrId message.methodName message.methodId))
    (hbody : (Json.dict members).get? "body" = some (.ofDict (body.mapValues Json.int)))
    (hextra : (Json.dict members).get? "extra" = some (.str (Text.hex message.extra))) :
    messageFromDict (.obj members) = .ok { message with body := body } := by
  obtain ⟨service, hvalue, hid⟩ := serviceFromTraceValue_nameOrId message.serviceId
  obtain ⟨method, hvalue', hid'⟩ := methodFromTraceValue_nameOrId message.methodId
  have hextra' : extraFromHex (Text.hex message.extra) = .ok message.extra := by
    rw [extraFromHex, Text.fromHex_hex]
    rfl
  rw [messageFromDict, subscript_obj hservice, subscript_obj hmethod]
  simp only [bind, Except.bind, hbody, hextra, Option.getD_some, Json.ofDict]
  simp only [TrpcPacket.serviceName, TrpcPacket.methodName, hvalue, hvalue', hid, hid', hextra',
    Json.dict_entries, bodyFromDict_mapValues]
  rfl

/-- The message with the keys of its body in order. -/
def TrpcPacket.sorted (self : TrpcPacket) : TrpcPacket := { self with body := self.body.sortKeys }

theorem TrpcPacket.equals_sorted (message : TrpcPacket) : message.Equals message.sorted :=
  ⟨rfl, rfl, message.body.same_sortKeys, rfl⟩

theorem messageFromDict_messageToDict (message : TrpcPacket) :
    messageFromDict (.ofDict (messageToDict message)) = .ok message := by
  rw [Json.ofDict]
  apply messageFromDict_of_members
  all_goals rw [Json.dict_entries]; rfl

/-- The integers of a body have no keys. -/
theorem sortKeys_mapValues_int (body : OrderedDict String Int) :
    ((body.mapValues Json.int).mapValues Json.sortKeys).sortKeys =
      body.sortKeys.mapValues Json.int := by
  apply OrderedDict.ext
  have hentries : ((body.mapValues Json.int).mapValues Json.sortKeys).entries =
      body.entries.map fun entry => (entry.1, Json.int entry.2) := by
    simp only [OrderedDict.mapValues, List.map_map, Function.comp_def, Json.sortKeys]
  simp only [OrderedDict.sortKeys, hentries]
  exact (List.map_insertionSort (fun a b => a.1 ≤ b.1) (fun a b => a.1 ≤ b.1)
    (fun entry : String × Int => (entry.1, Json.int entry.2)) body.entries
    fun _ _ _ _ => Iff.rfl).symm

/-- Sorting a message in JSON sorts its body. -/
theorem messageFromDict_sortKeys (message : TrpcPacket) :
    messageFromDict (Json.ofDict (messageToDict message)).sortKeys = .ok message.sorted := by
  rw [Json.sortKeys_ofDict, Json.ofDict]
  apply messageFromDict_of_members
  all_goals rw [Json.dict_entries, Json.get?_sortKeys]
  · exact congrArg some (nameOrId_sortKeys _ _)
  · exact congrArg some (nameOrId_sortKeys _ _)
  · have hbody := Json.sortKeys_ofDict (message.body.mapValues Json.int)
    rw [sortKeys_mapValues_int] at hbody
    exact congrArg some hbody
  · rfl

/-! ## Steps -/

namespace TraceStep

/-- The step with the keys of all bodies in order. -/
def sorted (self : TraceStep) : TraceStep where
  sent := self.sent.sorted
  received := self.received.map TrpcPacket.sorted

/-- The equality of steps. -/
structure Equals (s t : TraceStep) : Prop where
  sent : s.sent.Equals t.sent
  received : List.Forall₂ TrpcPacket.Equals s.received t.received

theorem equals_sorted (step : TraceStep) : step.Equals step.sorted := by
  refine ⟨step.sent.equals_sorted, ?_⟩
  rw [sorted, List.forall₂_map_right_iff, List.forall₂_same]
  exact fun message _ => message.equals_sorted

/-- A step is read back from its two members, wherever they stand. -/
theorem fromDict_of_members {value : OrderedDict String Json} {step : TraceStep}
    {write : TrpcPacket → Json} {read : TrpcPacket → TrpcPacket}
    (hread : ∀ message, messageFromDict (write message) = .ok (read message))
    (hsent : value.get? "sent" = some (write step.sent))
    (hreceived : value.get? "received" = some (.arr (step.received.map write))) :
    fromDict value = .ok { sent := read step.sent, received := step.received.map read } := by
  have hmessages := mapM_map step.received fun message _ => hread message
  have hitem : subscript (.ofDict value) "sent" = .ok (write step.sent) :=
    subscript_obj (by rw [Json.dict_entries, hsent])
  rw [fromDict, hitem]
  simp only [hreceived, bind, Except.bind, hread, Option.getD_some, iterate, hmessages]
  rfl

theorem fromDict_asDict (step : TraceStep) : fromDict step.asDict = .ok step := by
  have hstep : fromDict step.asDict =
      .ok { sent := step.sent, received := step.received.map id } :=
    fromDict_of_members messageFromDict_messageToDict rfl rfl
  rwa [List.map_id] at hstep

/-- Sorting a step in JSON sorts its bodies. -/
theorem fromDict_sortKeys (step : TraceStep) :
    fromDict (step.asDict.mapValues Json.sortKeys).sortKeys = .ok step.sorted := by
  apply fromDict_of_members messageFromDict_sortKeys
  · rw [Json.get?_sortKeys]
    rfl
  · rw [Json.get?_sortKeys]
    have hmessages := Json.sortItems_eq_map
      (step.received.map fun message => Json.ofDict (messageToDict message))
    rw [List.map_map] at hmessages
    exact congrArg (fun items => some (Json.arr items)) hmessages

end TraceStep

/-! ## Files -/

theorem plain_nameOrId (name : Option String) (id : Int) : (nameOrId name id).Plain := by
  cases name with
  | none => exact .int id
  | some name =>
      rw [nameOrId]
      split
      · exact .int id
      · exact .str name

theorem plain_messageToDict (message : TrpcPacket) :
    (Json.ofDict (messageToDict message)).Plain := by
  have hbody : (Json.ofDict (message.body.mapValues Json.int)).Plain := by
    apply Json.plain_ofDict
    intro entry hentry
    obtain ⟨old, -, rfl⟩ := List.mem_map.mp hentry
    exact .int old.2
  have hentries : (messageToDict message).entries =
      [("service", nameOrId message.serviceName message.serviceId),
        ("method", nameOrId message.methodName message.methodId),
        ("body", .ofDict (message.body.mapValues Json.int)),
        ("extra", .str (Text.hex message.extra))] := rfl
  apply Json.plain_ofDict
  rw [hentries]
  simp only [List.forall_mem_cons, List.not_mem_nil, false_implies, implies_true, and_true]
  exact ⟨plain_nameOrId _ _, plain_nameOrId _ _, hbody, .str _⟩

/-- A step is written with strings, integers, lists and objects only. -/
theorem TraceStep.plain_asDict (step : TraceStep) : (Json.ofDict step.asDict).Plain := by
  have hentries : step.asDict.entries =
      [("sent", .ofDict (messageToDict step.sent)),
        ("received", .arr (step.received.map fun message => .ofDict (messageToDict message)))] :=
    rfl
  apply Json.plain_ofDict
  rw [hentries]
  simp only [List.forall_mem_cons, List.not_mem_nil, false_implies, implies_true, and_true]
  refine ⟨plain_messageToDict _, .arr fun item hitem => ?_⟩
  obtain ⟨message, -, rfl⟩ := List.mem_map.mp hitem
  exact plain_messageToDict message

section Files

variable {File : Type} (codec : JsonCodec File PyException)

/-- A dumped trace is loaded with its bodies sorted. -/
theorem loadTrace_dumpTrace (steps : List TraceStep) :
    loadTrace codec (dumpTrace codec steps) = .ok (steps.map TraceStep.sorted) := by
  have hitem : ∀ step : TraceStep,
      stepFromItem (Json.ofDict step.asDict).sortKeys = .ok step.sorted := by
    intro step
    rw [Json.sortKeys_ofDict, Json.ofDict, stepFromItem, Json.dict_entries]
    exact step.fromDict_sortKeys
  have hplain : (Json.arr (steps.map fun step => .ofDict step.asDict)).Plain := by
    refine .arr fun item hmem => ?_
    obtain ⟨step, -, rfl⟩ := List.mem_map.mp hmem
    exact step.plain_asDict
  calc
    loadTrace codec (dumpTrace codec steps) =
        (steps.map fun step => (Json.ofDict step.asDict).sortKeys).mapM stepFromItem := by
      rw [loadTrace, dumpTrace, codec.load_dump _ hplain, Json.sortKeys, Json.sortItems_eq_map,
        List.map_map]
      rfl
    _ = .ok (steps.map TraceStep.sorted) := mapM_map steps fun step _ => hitem step

/-- Trace steps survive their JSON form. Every step is built again from its dictionary, and a
dumped trace is loaded as an equal list. -/
theorem trace_steps_survive_json (steps : List TraceStep) :
    (∀ step ∈ steps, TraceStep.fromDict step.asDict = .ok step) ∧
      ∃ loaded, loadTrace codec (dumpTrace codec steps) = .ok loaded ∧
        List.Forall₂ TraceStep.Equals steps loaded := by
  refine ⟨fun step _ => step.fromDict_asDict, _, loadTrace_dumpTrace codec steps, ?_⟩
  rw [List.forall₂_map_right_iff, List.forall₂_same]
  exact fun step _ => step.equals_sorted

end Files

/-- An update whose method has no name, answered with a body that is not in order. -/
def unknownMethodStep : TraceStep where
  sent := { serviceId := TrpcService.update.value, methodId := 0xFFFE, extra := [0xAB, 5] }
  received :=
    [{ serviceId := 77, methodId := TrpcMethod.setpointGroupEnable.value
       body := .ofList [("group_id", 1), ("enable", -1)] }]

theorem trace_steps_survive_json_unknownMethod :
    TraceStep.fromDict unknownMethodStep.asDict = .ok unknownMethodStep ∧
      ∃ loaded, loadTrace (JsonCodec.values PyException)
          (dumpTrace (JsonCodec.values PyException) [unknownMethodStep]) = .ok loaded ∧
        List.Forall₂ TraceStep.Equals [unknownMethodStep] loaded := by
  obtain ⟨hsteps, hfile⟩ :=
    trace_steps_survive_json (JsonCodec.values PyException) [unknownMethodStep]
  exact ⟨hsteps _ (List.mem_singleton_self _), hfile⟩

end Tekmar482
