import Tekmar482.CommandLine
import Tekmar482.TraceFiles

/-!
# Printed messages are sent again

What the command line prints of a received message, `request` takes as arguments: the service and
the method by name or by number, and the fields as they stand in the text of the message.
-/

namespace Tekmar482

/-! ## Received messages -/

namespace TrpcPacket

/-- A message within the ranges of its bytes, with the fields of its layout. -/
structure Received (message : TrpcPacket) : Prop where
  service : 0 ≤ message.serviceId ∧ message.serviceId < 256
  method : 0 ≤ message.methodId ∧ message.methodId < 4294967296
  values : ∀ entry ∈ message.body.entries, 0 ≤ entry.2 ∧ entry.2 < 4294967296
  known : ∀ spec, methodSpec message.methodId = some spec →
    message.body.keys = spec.fields.map FieldSpec.name
  unknown : methodSpec message.methodId = none → message.body = .empty

theorem unpackInt_lt {data : List UInt8} {size : Nat} (h : data.length ≤ size) :
    unpackInt data < 256 ^ size := by
  have hpow := Nat.pow_le_pow_right (by decide : 0 < 256) h
  rw [unpackInt]
  exact_mod_cast Nat.lt_of_lt_of_le (leNat_lt data) hpow

theorem unpackInt_range {data : List UInt8} (h : data.length ≤ 4) :
    0 ≤ unpackInt data ∧ unpackInt data < 4294967296 := by
  have hlt := unpackInt_lt h
  have hpow : (256 : Int) ^ 4 = 4294967296 := by decide
  exact ⟨Int.natCast_nonneg _, hpow ▸ hlt⟩

theorem values_cut {fields : List FieldSpec} (hsize : ∀ item ∈ fields, item.size ≤ 4)
    (data : List UInt8) : ∀ entry ∈ cut fields data, 0 ≤ entry.2 ∧ entry.2 < 4294967296 := by
  induction fields generalizing data with
  | nil =>
      intro entry hentry
      cases hentry
  | cons item rest ih =>
      intro entry hentry
      rw [cut] at hentry
      rcases List.mem_cons.mp hentry with rfl | hentry
      · have htake : (data.take item.size).length ≤ 4 := by
          rw [List.length_take]
          have hitem := hsize item List.mem_cons_self
          omega
        exact unpackInt_range htake
      · exact ih (fun other hother => hsize other (List.mem_cons_of_mem _ hother)) _ entry hentry

theorem size_le (method : TrpcMethod) : ∀ item ∈ (methodSpecs method).fields, item.size ≤ 4 := by
  cases method <;> decide

theorem length_of_fromBytes {data : List UInt8} {message : TrpcPacket}
    (h : fromBytes data = .ok message) : 5 ≤ data.length := by
  by_contra hshort
  rw [fromBytes, HEADER_SIZE, if_pos (Nat.lt_of_not_le hshort)] at h
  cases h

theorem received_of_fromBytes {data : List UInt8} {message : TrpcPacket}
    (h : fromBytes data = .ok message) : message.Received := by
  have hlen := length_of_fromBytes h
  have hbyte : unpackInt (data.take 1) < 256 ^ 1 := unpackInt_lt (by simp)
  have hservice : 0 ≤ unpackInt (data.take 1) ∧ unpackInt (data.take 1) < 256 :=
    ⟨Int.natCast_nonneg _, by simpa using hbyte⟩
  have hmethod : 0 ≤ unpackInt ((data.drop 1).take 4) ∧
      unpackInt ((data.drop 1).take 4) < 4294967296 := unpackInt_range (by simp)
  cases hspec : methodSpec (unpackInt ((data.drop 1).take 4)) with
  | none =>
      rw [fromBytes_unknown hlen hspec] at h
      obtain rfl := Except.ok.inj h
      exact {
        service := hservice
        method := hmethod
        values := fun entry hentry => absurd hentry List.not_mem_nil
        known := fun spec hknown => by
          rw [hspec] at hknown
          cases hknown
        unknown := fun _ => rfl }
  | some spec =>
      rw [fromBytes_known hlen hspec] at h
      obtain rfl := Except.ok.inj h
      obtain ⟨method, -, hmethodSpec⟩ := Option.map_eq_some_iff.mp hspec
      refine { service := hservice, method := hmethod, values := ?_, known := ?_, unknown := ?_ }
      · intro entry hentry
        rw [entries_decoded] at hentry
        exact values_cut (hmethodSpec ▸ size_le method) _ entry hentry
      · intro other hother
        obtain rfl := Option.some.inj (hspec.symm.trans hother)
        rw [OrderedDict.keys, entries_decoded, keys_cut]
      · intro hunknown
        rw [hspec] at hunknown
        cases hunknown

end TrpcPacket

/-! ## What is printed is read back -/

namespace Cli

/-- A text that is read as a number and shows a digit of it. -/
structure Numeral (text : String) (number : Int) : Prop where
  read : Text.readInt 0 text = .ok number
  digit : ∃ c ∈ text.toList, c.isDigit = true

theorem numeral_toString {number : Int} (h : number.natAbs < 4294967296) :
    Numeral (toString number) number := by
  obtain ⟨c, hc⟩ := List.exists_mem_of_ne_nil _ (Nat.toDigits_ne_nil (n := number.natAbs) (b := 10))
  refine ⟨readInt_of_lt (.inl rfl) h, c, ?_, ?_⟩
  · rw [Text.toList_toString_int]
    exact List.mem_append_right _ hc
  · exact Nat.isDigit_of_mem_toDigits (by decide) (by decide) hc

theorem numeral_formatHex (width : Nat) {number : Int} (h : 0 ≤ number) :
    Numeral ("0x" ++ Text.formatHex width number) number := by
  refine ⟨Text.readInt_formatHex width h, '0', ?_, by decide⟩
  rw [String.toList_append]
  exact List.mem_append_left _ (by decide)

/-- A text without a digit. -/
def digitless (word : String) : Bool := word.toList.all fun c => !c.isDigit

/-- No service has a digit in its name. -/
theorem digitless_services :
    ∀ word ∈ (TrpcService.members.map fun service => (serviceSpecs service, service)).map Prod.fst,
      digitless word = true := by
  have hnames (service : TrpcService) : digitless (serviceSpecs service) = true := by
    cases service <;> rfl
  intro word hword
  obtain ⟨entry, hentry, rfl⟩ := List.mem_map.mp hword
  obtain ⟨service, -, rfl⟩ := List.mem_map.mp hentry
  exact hnames service

/-- No method has a digit in its name or its aliases. -/
theorem digitless_methods : ∀ word ∈ namedMethods.map Prod.fst, digitless word = true := by
  have hnames (method : TrpcMethod) : digitless (methodSpecs method).name = true := by
    cases method <;> decide
  have haliases (method : TrpcMethod) :
      ∀ word ∈ (methodSpecs method).aliases, digitless word = true := by
    cases method <;> decide
  intro word hword
  obtain ⟨entry, hentry, rfl⟩ := List.mem_map.mp hword
  rcases List.mem_append.mp hentry with hname | halias
  · obtain ⟨method, -, rfl⟩ := List.mem_map.mp hname
    exact hnames method
  · obtain ⟨method, -, hmem⟩ := List.mem_flatMap.mp halias
    obtain ⟨alternative, halternative, rfl⟩ := List.mem_map.mp hmem
    exact haliases method alternative halternative

theorem not_mem_of_isDigit {text : String} {c : Char} (hc : c ∈ text.toList)
    (hdigit : c.isDigit = true) {words : List String}
    (hwords : ∀ word ∈ words, digitless word = true) : text ∉ words := by
  intro hword
  have hnot := List.all_eq_true.mp (hwords text hword) c hc
  rw [hdigit] at hnot
  cases hnot

namespace Numeral

variable {text : String} {number : Int}

/-- A numeral is none of the words of a list without digits. -/
theorem not_mem (h : Numeral text number) {words : List String}
    (hwords : ∀ word ∈ words, digitless word = true) : text ∉ words := by
  obtain ⟨c, hc, hdigit⟩ := h.digit
  exact not_mem_of_isDigit hc hdigit hwords

theorem intValue (h : Numeral text number) : intValue text = .ok number := by
  obtain ⟨c, hc, hdigit⟩ := h.digit
  have hmem : c ∈ (String.ofList ((Text.stripWhite text.toList).map Char.toLower)).toList := by
    rw [String.toList_ofList]
    exact List.mem_map.mpr ⟨c, Text.mem_stripWhite (Text.isWhite_of_isDigit hdigit) hc,
      Text.toLower_of_isDigit hdigit⟩
  have htrue : String.ofList ((Text.stripWhite text.toList).map Char.toLower) ∉
      ["true", "on", "yes"] := not_mem_of_isDigit hmem hdigit (by decide)
  have hfalse : String.ofList ((Text.stripWhite text.toList).map Char.toLower) ∉
      ["false", "off", "no"] := not_mem_of_isDigit hmem hdigit (by decide)
  simp only [Cli.intValue, h.read, if_neg htrue, if_neg hfalse]

theorem parseService (h : Numeral text number) : parseService text = .ok number := by
  have hnone : serviceIds.get? text = none :=
    OrderedDict.get?_ofList_eq_none_iff.mpr (h.not_mem digitless_services)
  simp only [Cli.parseService, serviceFromName, hnone, h.intValue]

theorem parseMethod (h : Numeral text number) : parseMethod text = .ok number := by
  have hnone : methodIds.get? text = none :=
    OrderedDict.get?_ofList_eq_none_iff.mpr (h.not_mem digitless_methods)
  simp only [Cli.parseMethod, methodFromName, hnone, h.intValue]

end Numeral

/-- The texts that stand for an id: its name, if it has one, and its decimal and hexadecimal
numbers. -/
def spellings (name : Option String) (width : Nat) (id : Int) : List String :=
  name.toList ++ [toString id, "0x" ++ Text.formatHex width id]

/-- A text that stands for an id is its name or a numeral. -/
theorem spelling_cases {name : Option String} {width : Nat} {id : Int} {text : String}
    (hid : 0 ≤ id ∧ id < 4294967296) (h : text ∈ spellings name width id) :
    name = some text ∨ Numeral text id := by
  rcases List.mem_append.mp h with hname | hnumber
  · exact .inl (Option.mem_toList.mp hname)
  · rcases List.mem_cons.mp hnumber with rfl | hhex
    · exact .inr (numeral_toString (by omega))
    · rw [List.mem_singleton.mp hhex]
      exact .inr (numeral_formatHex width hid.1)

theorem parseService_spelling {id : Int} (hid : 0 ≤ id ∧ id < 4294967296) {width : Nat}
    {text : String} (h : text ∈ spellings (serviceName id) width id) :
    parseService text = .ok id := by
  rcases spelling_cases hid h with hname | hnumeral
  · obtain ⟨service, hservice, rfl⟩ := serviceFromName_of_serviceName hname
    simp only [parseService, hservice]
  · exact hnumeral.parseService

theorem parseMethod_spelling {id : Int} (hid : 0 ≤ id ∧ id < 4294967296) {width : Nat}
    {text : String} (h : text ∈ spellings (methodName id) width id) :
    parseMethod text = .ok id := by
  rcases spelling_cases hid h with hname | hnumeral
  · obtain ⟨method, hmethod, rfl⟩ := methodFromName_of_methodName hname
    simp only [parseMethod, hmethod]
  · exact hnumeral.parseMethod

/-- A field as the text of a message shows it. -/
def fieldText (entry : String × Int) : String := entry.1 ++ "=" ++ toString entry.2

/-- A name that can stand before the equals sign. -/
def IsKey (key : String) : Prop := key ≠ "" ∧ '=' ∉ key.toList

theorem parseFieldsLoop_fieldText (pairs : List (String × Int)) (fields : OrderedDict String Int)
    (hkeys : ∀ entry ∈ pairs, IsKey entry.1)
    (hvalues : ∀ entry ∈ pairs, entry.2.natAbs < 4294967296) :
    parseFieldsLoop (pairs.map fieldText) fields =
      .ok (pairs.foldl (fun d entry => d.set entry.1 entry.2) fields) := by
  induction pairs generalizing fields with
  | nil => rfl
  | cons entry rest ih =>
      obtain ⟨hne, hnot⟩ := hkeys entry List.mem_cons_self
      have hvalue := (numeral_toString (hvalues entry List.mem_cons_self)).intValue
      have hrest := ih (fields.set entry.1 entry.2)
        (fun other hother => hkeys other (List.mem_cons_of_mem _ hother))
        (fun other hother => hvalues other (List.mem_cons_of_mem _ hother))
      obtain ⟨c, key, hkey⟩ : ∃ c key, entry.1.toList = c :: key :=
        List.exists_cons_of_ne_nil fun hnil => hne (String.toList_eq_nil_iff.mp hnil)
      have hsplit : Text.partition '=' (fieldText entry).toList =
          some (c :: key, (toString entry.2).toList) := by
        rw [← hkey]
        exact Text.partition_eq_some_iff.mpr ⟨by simp [fieldText], hnot⟩
      have hname : String.ofList (c :: key) = entry.1 := by rw [← hkey, String.ofList_toList]
      rw [List.map_cons, parseFieldsLoop, hsplit]
      simp only [String.ofList_toList, hvalue, hname, hrest, List.foldl_cons]

/-- The fields of a dictionary are read back in the order in which they are given. -/
theorem parseFields_fieldText {pairs : List (String × Int)}
    (hkeys : ∀ entry ∈ pairs, IsKey entry.1)
    (hvalues : ∀ entry ∈ pairs, entry.2.natAbs < 4294967296) :
    parseFields (pairs.map fieldText) = .ok (.ofList pairs) :=
  parseFieldsLoop_fieldText pairs .empty hkeys hvalues

/-- Every field of a layout has a name that can stand before the equals sign. -/
theorem isKey_name (method : TrpcMethod) :
    ∀ item ∈ (methodSpecs method).fields, IsKey item.name := by
  unfold IsKey
  cases method <;> decide

end Cli

/-! ## What is sent again -/

/-- The command that a session call sends. -/
def SessionCall.command? : SessionCall → Option TrpcCommand
  | .send command | .requestResponse command _ | .updateResponse command _ => some command
  | _ => none

/-- Arguments that repeat what is shown of a message, with its fields in any order. -/
structure Cli.RequestArgs.Repeats (args : RequestArgs) (message : TrpcPacket) : Prop where
  service : args.service ∈ spellings message.serviceName 2 message.serviceId
  method : args.method ∈ spellings message.methodName 8 message.methodId
  fields : ∃ pairs : List (String × Int), pairs.Perm message.body.entries ∧
    args.fields = pairs.map fieldText
  responseMethod : ∃ id, parseResponseMethod args.responseMethod = .ok id

namespace TrpcPacket

variable {message : TrpcPacket}

theorem Received.canonical (h : message.Received) {spec : MethodSpec}
    (hspec : methodSpec message.methodId = some spec) : spec.Canonical message.body := by
  intro key hkey
  rw [h.known spec hspec] at hkey
  exact List.mem_map.mp hkey

theorem Received.isKey (h : message.Received) {key : String} (hkey : key ∈ message.body.keys) :
    Cli.IsKey key := by
  cases hspec : methodSpec message.methodId with
  | none =>
      rw [h.unknown hspec] at hkey
      cases hkey
  | some spec =>
      obtain ⟨method, -, rfl⟩ := Option.map_eq_some_iff.mp hspec
      obtain ⟨item, hitem, rfl⟩ := h.canonical hspec key hkey
      exact Cli.isKey_name method item hitem

/-- A command with the fields of a received message in any order makes an equal message. -/
theorem Received.toMessage (h : message.Received) (hextra : message.extra = [])
    {fields : OrderedDict String Int} (hfields : fields.Same message.body) :
    ∃ sent, TrpcCommand.toMessage ⟨message.serviceId, message.methodId, fields⟩ = .ok sent ∧
      sent.Equals message := by
  have hkeys : ∀ key ∈ fields.keys, key ∈ message.body.keys := by
    intro key hkey
    exact ((OrderedDict.same_iff_perm.mp hfields).map Prod.fst).mem_iff.mp hkey
  refine ⟨⟨message.serviceId, message.methodId, fields, []⟩, ?_, ⟨rfl, rfl, hfields, hextra.symm⟩⟩
  cases hspec : methodSpec message.methodId with
  | none => simp only [TrpcCommand.toMessage, create, hspec]
  | some spec =>
      have hnormal := spec.normalizeFields_of_canonical fun key hkey =>
        h.canonical hspec key (hkeys key hkey)
      simp only [TrpcCommand.toMessage, create, hspec, hnormal, Except.map]

/-- The payload of the message, filled up with zeros to the size of the layout. -/
theorem toBytes_of_fromBytes {data : List UInt8} (h : fromBytes data = .ok message) :
    message.toBytes =
      .ok (ljust data (5 + ((methodSpec message.methodId).map MethodSpec.size).getD 0)) := by
  have hlen := length_of_fromBytes h
  obtain ⟨decoded, hdecoded, -, hbytes⟩ := toBytes_fromBytes hlen
  obtain rfl := Except.ok.inj (hdecoded.symm.trans h)
  rw [hbytes]
  cases methodSpec decoded.methodId with
  | none => rw [Option.map_none, Option.getD_none, Nat.add_zero, ljust_of_le hlen]
  | some spec => rfl

/-- A created message that is equal to a received one is sent with its bytes. -/
theorem toBytes_of_equals {service method : Int} {fields : OrderedDict String Int}
    {sent : TrpcPacket} (hcreate : create service method fields = .ok sent)
    (hequals : sent.Equals message) {data : List UInt8} (h : message.toBytes = .ok data) :
    sent.toBytes = .ok data := by
  have hsame := hequals.sameOutcome_iff.mpr
    ((unambiguous_of_create hcreate).lastNamesAgree hequals)
  rw [h] at hsame
  cases hsent : sent.toBytes with
  | error err =>
      rw [hsent] at hsame
      exact hsame.elim
  | ok other =>
      rw [hsent] at hsame
      exact congrArg Except.ok hsame

end TrpcPacket

namespace Cli

/-- Equal messages are printed alike. -/
theorem messageToDict_sortKeys {p q : TrpcPacket} (h : p.Equals q) :
    (Json.ofDict (messageToDict p)).sortKeys = (Json.ofDict (messageToDict q)).sortKeys := by
  have hbody : (Json.ofDict (p.body.mapValues Json.int)).sortKeys =
      (Json.ofDict (q.body.mapValues Json.int)).sortKeys := by
    rw [Json.sortKeys_ofDict, Json.sortKeys_ofDict, sortKeys_mapValues_int, sortKeys_mapValues_int,
      h.body.sortKeys_eq]
  rw [Json.sortKeys_ofDict, Json.sortKeys_ofDict]
  simp only [messageToDict, OrderedDict.mapValues_ofList, List.map_cons, List.map_nil, hbody,
    TrpcPacket.serviceName, TrpcPacket.methodName, h.serviceId, h.methodId, h.extra]

theorem command?_sendCall (args : RequestArgs) (command : TrpcCommand)
    (responseMethod : Option Int) :
    (sendCall args command responseMethod).command? = some command := by
  unfold sendCall
  split
  · split <;> rfl
  · rfl

/-- The command of `request` has what its arguments are read as. -/
theorem command_requestCall {args : RequestArgs} {service method : Int}
    {responseMethod : Option Int} {fields : OrderedDict String Int}
    (hfields : parseFields args.fields = .ok fields)
    (hservice : parseService args.service = .ok service)
    (hmethod : parseMethod args.method = .ok method)
    (hresponse : parseResponseMethod args.responseMethod = .ok responseMethod) :
    ∃ call, requestCall args = .ok call ∧ call.command? = some ⟨service, method, fields⟩ := by
  refine ⟨sendCall args ⟨service, method, fields⟩ responseMethod, ?_, command?_sendCall _ _ _⟩
  simp only [requestCall, hfields, hservice, hmethod, hresponse, bind, Except.bind]
  rfl

/-- What is printed of a received message without extra bytes, `request` sends again, in whatever
order the fields are given: an equal message, which is printed alike, and whose bytes are those
that were received, filled up with zeros if they were short. -/
theorem request_repeats {data : List UInt8} {message : TrpcPacket}
    (hmessage : TrpcPacket.fromBytes data = .ok message) (hextra : message.extra = [])
    {args : RequestArgs} (h : args.Repeats message) :
    ∃ call command sent, requestCall args = .ok call ∧ call.command? = some command ∧
      command.toMessage = .ok sent ∧ sent.Equals message ∧
      (Json.ofDict (messageToDict sent)).sortKeys =
        (Json.ofDict (messageToDict message)).sortKeys ∧
      sent.toBytes = .ok (TrpcPacket.ljust data
        (5 + ((methodSpec message.methodId).map MethodSpec.size).getD 0)) := by
  have hreceived := TrpcPacket.received_of_fromBytes hmessage
  obtain ⟨pairs, hperm, hfields⟩ := h.fields
  have hnodup : (pairs.map Prod.fst).Nodup := (hperm.map Prod.fst).nodup_iff.mpr message.body.nodup
  have hsame : (OrderedDict.ofList pairs).Same message.body := by
    rw [OrderedDict.same_iff_perm, OrderedDict.entries_ofList hnodup]
    exact hperm
  have hparsed : parseFields args.fields = .ok (.ofList pairs) := by
    rw [hfields]
    apply parseFields_fieldText
    · intro entry hentry
      exact hreceived.isKey (List.mem_map_of_mem (hperm.mem_iff.mp hentry))
    · intro entry hentry
      have hrange := hreceived.values entry (hperm.mem_iff.mp hentry)
      omega
  have hservice := parseService_spelling ⟨hreceived.service.1, by
    have hbyte := hreceived.service.2
    omega⟩ h.service
  have hmethod := parseMethod_spelling hreceived.method h.method
  obtain ⟨responseMethod, hresponse⟩ := h.responseMethod
  obtain ⟨call, hcall, hcommand⟩ := command_requestCall hparsed hservice hmethod hresponse
  obtain ⟨sent, hsent, hequals⟩ := hreceived.toMessage hextra hsame
  exact ⟨call, _, sent, hcall, hcommand, hsent, hequals, messageToDict_sortKeys hequals,
    TrpcPacket.toBytes_of_equals hsent hequals (TrpcPacket.toBytes_of_fromBytes hmessage)⟩

/-- A device type report as it was received. -/
def sampleData : List UInt8 := [4, 0x97, 1, 0, 0, 0xE9, 3, 0x05, 0x87, 1, 0]

def sampleMessage : TrpcPacket where
  serviceId := TrpcService.responseRequest.value
  methodId := TrpcMethod.deviceType.value
  body := .ofList [("address", 1001), ("type", 100101)]

/-- Arguments that repeat the report, with the method by number and the fields exchanged. -/
def sampleArgs : RequestArgs where
  method := "0x00000197"
  fields := ["type=100101", "address=1001"]
  service := "Response:Request"

theorem request_repeats_deviceType :
    ∃ call command sent, requestCall sampleArgs = .ok call ∧ call.command? = some command ∧
      command.toMessage = .ok sent ∧ sent.Equals sampleMessage ∧
      (Json.ofDict (messageToDict sent)).sortKeys =
        (Json.ofDict (messageToDict sampleMessage)).sortKeys ∧
      sent.toBytes = .ok (TrpcPacket.ljust sampleData
        (5 + ((methodSpec sampleMessage.methodId).map MethodSpec.size).getD 0)) :=
  request_repeats rfl rfl
    { service := by decide
      method := by decide
      fields := ⟨[("type", 100101), ("address", 1001)], by decide, by decide⟩
      responseMethod := ⟨none, rfl⟩ }

end Cli

end Tekmar482
