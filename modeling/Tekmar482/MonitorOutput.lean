import Tekmar482.PrintedMessages

/-!
# What the monitor prints

The monitor prints every message that it reads as a line, until the limit is reached or the
deadline. The lines tell which messages were read, with all their fields and extra bytes.
-/

namespace Tekmar482

namespace Cli

/-- The loop of `monitor`, after some messages were printed. It goes over what its reads return,
which is nothing after a read timeout, as long as the deadline is not reached. -/
def monitorLoop (limit : Option Int) : Nat → List (Option TrpcPacket) → String
  | _, [] => ""
  | count, outcome :: rest =>
      if limit.any fun bound => bound ≤ (count : Int) then ""
      else
        match outcome with
        | none => monitorLoop limit count rest
        | some message => message.str ++ "\n" ++ monitorLoop limit (count + 1) rest

/-- Print incoming messages, as text. -/
def monitor (limit : Option Int) (reads : List (Option TrpcPacket)) : String :=
  monitorLoop limit 0 reads

/-! ## Fields -/

/-- The fields after the first one. -/
def fieldsText (entries : List (String × Int)) : List Char :=
  entries.flatMap fun entry => ", ".toList ++ (fieldText entry).toList

theorem toList_intercalate_fieldText (entry : String × Int) (rest : List (String × Int)) :
    (", ".intercalate ((entry :: rest).map fieldText)).toList =
      (fieldText entry).toList ++ fieldsText rest := by
  induction rest generalizing entry with
  | nil => rw [List.map_singleton, String.intercalate_singleton, fieldsText, List.flatMap_nil,
      List.append_nil]
  | cons next rest ih =>
      rw [List.map_cons, List.map_cons, String.intercalate_cons_cons, ← List.map_cons,
        String.toList_append, String.toList_append, ih next, fieldsText, fieldsText,
        List.flatMap_cons, List.append_assoc, List.append_assoc]

/-- The text does not go on with a digit. -/
def NoDigit (text : List Char) : Prop := ∀ c ∈ text.head?, c.isDigit = false

theorem noDigit_fieldsText (entries : List (String × Int)) {last : List Char}
    (h : NoDigit last) : NoDigit (fieldsText entries ++ last) := by
  cases entries with
  | nil => exact h
  | cons entry rest =>
      intro c hc
      obtain rfl := Option.some.inj hc
      rfl

theorem toString_unique {v w : Int} (hv : 0 ≤ v ∧ v < 4294967296) (hw : 0 ≤ w ∧ w < 4294967296)
    (h : toString v = toString w) : v = w := by
  have hread : Text.readInt 10 (toString v) = .ok v := readInt_of_lt (.inr rfl) (by omega)
  rw [h, readInt_of_lt (.inr rfl) (by omega)] at hread
  exact (Except.ok.inj hread).symm

/-- A field of a known name ends where its digits end. -/
theorem fieldText_unique {entry other : String × Int} {last last' : List Char}
    (hkey : entry.1 = other.1) (hentry : 0 ≤ entry.2 ∧ entry.2 < 4294967296)
    (hother : 0 ≤ other.2 ∧ other.2 < 4294967296) (hlast : NoDigit last) (hlast' : NoDigit last')
    (h : (fieldText entry).toList ++ last = (fieldText other).toList ++ last') :
    entry = other ∧ last = last' := by
  simp only [fieldText, String.toList_append, hkey, List.append_assoc] at h
  have hrest := List.append_cancel_left (List.append_cancel_left h)
  obtain ⟨hdigits, hlasts⟩ := Text.append_unique
    (fun c hc => Text.isDigit_of_mem_toString hentry.1 hc)
    (fun c hc => Text.isDigit_of_mem_toString hother.1 hc) hlast hlast' hrest
  exact ⟨Prod.ext hkey (toString_unique hentry hother (String.toList_inj.mp hdigits)), hlasts⟩

theorem fieldsText_unique {entries others : List (String × Int)} {last last' : List Char}
    (hkeys : entries.map Prod.fst = others.map Prod.fst)
    (hentries : ∀ entry ∈ entries, 0 ≤ entry.2 ∧ entry.2 < 4294967296)
    (hothers : ∀ entry ∈ others, 0 ≤ entry.2 ∧ entry.2 < 4294967296)
    (hlast : NoDigit last) (hlast' : NoDigit last')
    (h : fieldsText entries ++ last = fieldsText others ++ last') :
    entries = others ∧ last = last' := by
  induction entries generalizing others with
  | nil =>
      obtain rfl := List.map_eq_nil_iff.mp hkeys.symm
      exact ⟨rfl, h⟩
  | cons entry rest ih =>
      cases others with
      | nil => cases hkeys
      | cons other others =>
          obtain ⟨hkey, hrest⟩ := List.cons.inj hkeys
          simp only [fieldsText, List.flatMap_cons, List.append_assoc] at h
          obtain ⟨rfl, htail⟩ := fieldText_unique hkey (hentries entry List.mem_cons_self)
            (hothers other List.mem_cons_self) (noDigit_fieldsText rest hlast)
            (noDigit_fieldsText others hlast') (List.append_cancel_left h)
          obtain ⟨rfl, hlasts⟩ := ih hrest
            (fun item hitem => hentries item (List.mem_cons_of_mem _ hitem))
            (fun item hitem => hothers item (List.mem_cons_of_mem _ hitem)) htail
          exact ⟨rfl, hlasts⟩

/-- What follows the fields. -/
def endText (extra : List UInt8) : List Char :=
  if extra = [] then ['>'] else ", extra=".toList ++ ((Text.hex extra).toList ++ ['>'])

theorem noDigit_endText (extra : List UInt8) : NoDigit (endText extra) := by
  intro c hc
  rw [endText] at hc
  split at hc
  · obtain rfl := Option.some.inj hc
    rfl
  · obtain rfl := Option.some.inj hc
    rfl

theorem hex_unique {extra other : List UInt8}
    (h : (Text.hex extra).toList ++ ['>'] = (Text.hex other).toList ++ ['>']) : extra = other := by
  have hread := Text.fromHex_hex extra
  rw [String.toList_inj.mp (List.append_cancel_right h), Text.fromHex_hex] at hread
  exact (Except.ok.inj hread).symm

theorem endText_unique {extra other : List UInt8} (h : endText extra = endText other) :
    extra = other := by
  rw [endText, endText] at h
  split at h
  · rename_i hnil
    split at h
    · rename_i hnil'
      rw [hnil, hnil']
    · exact absurd (List.cons.inj h).1 (by decide)
  · split at h
    · exact absurd (List.cons.inj h).1 (by decide)
    · exact hex_unique (List.append_cancel_left h)

end Cli

/-! ## Messages -/

namespace TrpcPacket

open Cli

/-- The service as the text of a message shows it. -/
def serviceText (self : TrpcPacket) : String :=
  self.serviceName.getD ("0x" ++ Text.formatHex 2 self.serviceId)

/-- The method as the text of a message shows it. -/
def methodText (self : TrpcPacket) : String :=
  self.methodName.getD ("0x" ++ Text.formatHex 8 self.methodId)

/-- What the text of a message shows after the method. -/
def restText (self : TrpcPacket) : List Char :=
  match self.body.entries with
  | [] =>
      if self.extra = [] then []
      else " <extra=".toList ++ ((Text.hex self.extra).toList ++ ['>'])
  | entry :: rest =>
      " <".toList ++ ((fieldText entry).toList ++ (fieldsText rest ++ endText self.extra))

theorem toList_str (self : TrpcPacket) :
    self.str.toList =
      self.serviceText.toList ++ ' ' :: (self.methodText.toList ++ self.restText) := by
  have hfield : (fun entry : String × Int => entry.1 ++ "=" ++ toString entry.2) = fieldText := rfl
  cases hentries : self.body.entries with
  | nil =>
      by_cases hextra : self.extra = []
      · simp [str, restText, serviceText, methodText, hentries, hextra]
      · simp [str, restText, serviceText, methodText, hentries, hextra]
  | cons entry rest =>
      have hvalues := toList_intercalate_fieldText entry rest
      simp only [str, restText, serviceText, methodText, hentries, hfield, endText]
      generalize ", ".intercalate ((entry :: rest).map fieldText) = values at hvalues ⊢
      by_cases hextra : self.extra = []
      · simp [hvalues, hextra]
      · simp [hvalues, hextra]

/-! ## Solid parts -/

/-- A character that neither separates the parts of a line nor ends it. -/
def solid (c : Char) : Bool := c != ' ' && c != '\n'

theorem solid_of_plain {c : Char} (h : Text.Plain c) : solid c = true := by
  rw [solid, Bool.and_eq_true, bne_iff_ne, bne_iff_ne]
  constructor
  · rintro rfl
    exact absurd h.2 (by decide)
  · rintro rfl
    exact absurd h.2 (by decide)

/-- A name, or a number in hexadecimal. -/
theorem solid_getD {name : Option String} (hname : ∀ text ∈ name, text.toList.all solid = true)
    (width : Nat) {id : Int} (hid : 0 ≤ id) :
    ∀ c ∈ (name.getD ("0x" ++ Text.formatHex width id)).toList, solid c = true := by
  cases name with
  | none => exact fun c hc => solid_of_plain (Text.plain_formatHex width hid c hc)
  | some text => exact List.all_eq_true.mp (hname text rfl)

theorem solid_serviceText {message : TrpcPacket} (h : message.Received) :
    ∀ c ∈ message.serviceText.toList, solid c = true := by
  refine solid_getD (fun text htext => ?_) 2 h.service.1
  obtain ⟨service, -, rfl⟩ := Option.map_eq_some_iff.mp htext
  cases service <;> decide

theorem solid_methodText {message : TrpcPacket} (h : message.Received) :
    ∀ c ∈ message.methodText.toList, solid c = true := by
  refine solid_getD (fun text htext => ?_) 8 h.method.1
  obtain ⟨spec, hspec, rfl⟩ := Option.map_eq_some_iff.mp htext
  obtain ⟨method, -, rfl⟩ := Option.map_eq_some_iff.mp hspec
  cases method <;> decide

theorem solid_name (method : TrpcMethod) :
    ∀ item ∈ (methodSpecs method).fields, item.name.toList.all solid = true := by
  cases method <;> decide

/-- What follows the method is set off by a space. -/
theorem restText_head (self : TrpcPacket) : ∀ c ∈ self.restText.head?, solid c = false := by
  intro c hc
  rw [restText] at hc
  split at hc
  · split at hc
    · cases hc
    · obtain rfl := Option.some.inj hc
      decide
  · obtain rfl := Option.some.inj hc
    decide

theorem restText_unique {p q : TrpcPacket} (hp : p.Received) (hq : q.Received)
    (hmethod : p.methodId = q.methodId) (h : p.restText = q.restText) :
    p.body = q.body ∧ p.extra = q.extra := by
  have hkeys : p.body.keys = q.body.keys := by
    cases hspec : methodSpec p.methodId with
    | none => rw [hp.unknown hspec, hq.unknown (hmethod ▸ hspec)]
    | some spec => rw [hp.known spec hspec, hq.known spec (hmethod ▸ hspec)]
  have hbody (hentries : p.body.entries = q.body.entries) : p.body = q.body :=
    OrderedDict.ext hentries
  rw [restText, restText] at h
  cases hpe : p.body.entries with
  | nil =>
      have hqe : q.body.entries = [] := by
        rw [OrderedDict.keys, OrderedDict.keys, hpe] at hkeys
        exact List.map_eq_nil_iff.mp hkeys.symm
      simp only [hpe, hqe] at h
      refine ⟨hbody (by rw [hpe, hqe]), ?_⟩
      split at h
      · rename_i hnil
        split at h
        · rename_i hnil'
          rw [hnil, hnil']
        · cases h
      · split at h
        · cases h
        · exact hex_unique (List.append_cancel_left h)
  | cons entry rest =>
      cases hqe : q.body.entries with
      | nil =>
          rw [OrderedDict.keys, OrderedDict.keys, hpe, hqe] at hkeys
          cases hkeys
      | cons other others =>
          rw [OrderedDict.keys, OrderedDict.keys, hpe, hqe] at hkeys
          simp only [hpe, hqe] at h
          have hpv := hp.values
          have hqv := hq.values
          rw [hpe] at hpv
          rw [hqe] at hqv
          have hall := fieldsText_unique hkeys hpv hqv (noDigit_endText p.extra)
            (noDigit_endText q.extra) (by
              simp only [fieldsText, List.flatMap_cons, List.append_assoc]
              exact congrArg (", ".toList ++ ·) (List.append_cancel_left h))
          exact ⟨hbody (by rw [hpe, hqe, hall.1]), endText_unique hall.2⟩

theorem getD_mem_spellings (name : Option String) (width : Nat) (id : Int) :
    name.getD ("0x" ++ Text.formatHex width id) ∈ spellings name width id := by
  cases name with
  | none => exact List.mem_cons_of_mem _ List.mem_cons_self
  | some text => exact List.mem_cons_self

theorem parseService_serviceText {message : TrpcPacket} (h : message.Received) :
    parseService message.serviceText = .ok message.serviceId := by
  have hbyte := h.service.2
  exact parseService_spelling ⟨h.service.1, by omega⟩ (getD_mem_spellings _ 2 _)

theorem parseMethod_methodText {message : TrpcPacket} (h : message.Received) :
    parseMethod message.methodText = .ok message.methodId :=
  parseMethod_spelling h.method (getD_mem_spellings _ 8 _)

/-- The text of a received message tells the message. -/
theorem str_unique {p q : TrpcPacket} (hp : p.Received) (hq : q.Received) (h : p.str = q.str) :
    p = q := by
  have htext := congrArg String.toList h
  rw [toList_str, toList_str] at htext
  have hspace (rest : List Char) : ∀ c ∈ (' ' :: rest).head?, solid c = false := by
    intro c hc
    obtain rfl := Option.some.inj hc
    decide
  obtain ⟨hservice, hrest⟩ := Text.append_unique (solid_serviceText hp) (solid_serviceText hq)
    (hspace _) (hspace _) htext
  obtain ⟨hmethod, hrest⟩ := Text.append_unique (solid_methodText hp) (solid_methodText hq)
    p.restText_head q.restText_head (List.cons.inj hrest).2
  have hserviceId := parseService_serviceText hp
  rw [String.toList_inj.mp hservice, parseService_serviceText hq] at hserviceId
  have hmethodId := parseMethod_methodText hp
  rw [String.toList_inj.mp hmethod, parseMethod_methodText hq] at hmethodId
  have hids : p.methodId = q.methodId := (Except.ok.inj hmethodId).symm
  obtain ⟨hbody, hextra⟩ := restText_unique hp hq hids hrest
  cases p
  cases q
  cases hids
  cases hbody
  cases hextra
  cases Except.ok.inj hserviceId
  rfl

/-! ## Lines -/

theorem newline_not_mem {text : List Char} (h : ∀ c ∈ text, solid c = true) : '\n' ∉ text :=
  fun hmem => absurd (h _ hmem) (by decide)

theorem newline_not_mem_fieldText {message : TrpcPacket} (h : message.Received)
    {entry : String × Int} (hentry : entry ∈ message.body.entries) :
    '\n' ∉ (fieldText entry).toList := by
  have hkey : entry.1.toList.all solid = true := by
    have hmem : entry.1 ∈ message.body.keys := List.mem_map_of_mem hentry
    cases hspec : methodSpec message.methodId with
    | none =>
        rw [h.unknown hspec] at hmem
        cases hmem
    | some spec =>
        obtain ⟨method, -, rfl⟩ := Option.map_eq_some_iff.mp hspec
        obtain ⟨item, hitem, hname⟩ := h.canonical hspec entry.1 hmem
        rw [← hname]
        exact solid_name method item hitem
  rw [fieldText, String.toList_append, String.toList_append, List.mem_append, List.mem_append]
  rintro ((hmem | hmem) | hmem)
  · exact newline_not_mem (List.all_eq_true.mp hkey) hmem
  · exact absurd hmem (by decide)
  · exact absurd (Text.isDigit_of_mem_toString (h.values entry hentry).1 hmem) (by decide)

theorem newline_not_mem_hex (extra : List UInt8) : '\n' ∉ (Text.hex extra).toList := by
  rw [Text.hex, String.toList_ofList]
  intro hmem
  obtain ⟨byte, -, hmem⟩ := List.mem_flatMap.mp hmem
  have hbyte : byte.toNat < 256 := byte.toNat_lt
  have hdigit (n : Nat) (hn : n < 16) : Text.hexDigit n ≠ '\n' := by
    intro hn'
    have hspace := (Text.hexDigit_spec n hn).2.1
    rw [hn'] at hspace
    exact absurd hspace (by decide)
  rcases List.mem_cons.mp hmem with hhigh | hmem
  · exact hdigit (byte.toNat / 16) (by omega) hhigh.symm
  · exact hdigit (byte.toNat % 16) (by omega) (List.mem_singleton.mp hmem).symm

theorem newline_not_mem_endText (extra : List UInt8) : '\n' ∉ endText extra := by
  rw [endText]
  split
  · decide
  · rw [List.mem_append, List.mem_append]
    rintro (hmem | hmem | hmem)
    · exact absurd hmem (by decide)
    · exact newline_not_mem_hex extra hmem
    · exact absurd hmem (by decide)

theorem newline_not_mem_restText {message : TrpcPacket} (h : message.Received) :
    '\n' ∉ message.restText := by
  rw [restText]
  cases hentries : message.body.entries with
  | nil =>
      simp only
      split
      · exact List.not_mem_nil
      · rw [List.mem_append, List.mem_append]
        rintro (hmem | hmem | hmem)
        · exact absurd hmem (by decide)
        · exact newline_not_mem_hex message.extra hmem
        · exact absurd hmem (by decide)
  | cons entry rest =>
      have hfields : '\n' ∉ fieldsText rest := by
        intro hmem
        obtain ⟨other, hother, hmem⟩ := List.mem_flatMap.mp hmem
        rcases List.mem_append.mp hmem with hmem | hmem
        · exact absurd hmem (by decide)
        · refine newline_not_mem_fieldText h ?_ hmem
          rw [hentries]
          exact List.mem_cons_of_mem _ hother
      simp only [List.mem_append]
      rintro (hmem | hmem | hmem | hmem)
      · exact absurd hmem (by decide)
      · refine newline_not_mem_fieldText h ?_ hmem
        rw [hentries]
        exact List.mem_cons_self
      · exact hfields hmem
      · exact newline_not_mem_endText message.extra hmem

/-- The text of a message is one line. -/
theorem newline_not_mem_str {message : TrpcPacket} (h : message.Received) :
    '\n' ∉ message.str.toList := by
  rw [toList_str, List.mem_append, List.mem_cons, List.mem_append]
  rintro (hmem | hmem | hmem | hmem)
  · exact newline_not_mem (solid_serviceText h) hmem
  · exact absurd hmem (by decide)
  · exact newline_not_mem (solid_methodText h) hmem
  · exact newline_not_mem_restText h hmem

end TrpcPacket

namespace Cli

/-- The lines of messages. -/
def lines : List TrpcPacket → String
  | [] => ""
  | message :: rest => message.str ++ "\n" ++ lines rest

/-- The messages that a limit leaves after some were printed. -/
def allowed (limit : Option Int) (count : Nat) (messages : List TrpcPacket) : List TrpcPacket :=
  match limit with
  | none => messages
  | some bound => messages.take (bound - count).toNat

theorem allowed_of_reached {limit : Option Int} {count : Nat}
    (h : (limit.any fun bound => bound ≤ (count : Int)) = true) (messages : List TrpcPacket) :
    allowed limit count messages = [] := by
  cases limit with
  | none => cases h
  | some bound =>
      have hle : bound ≤ count := of_decide_eq_true h
      have hzero : (bound - count).toNat = 0 := by omega
      rw [allowed, hzero, List.take_zero]

theorem allowed_cons {limit : Option Int} {count : Nat}
    (h : ¬ (limit.any fun bound => bound ≤ (count : Int)) = true) (message : TrpcPacket)
    (messages : List TrpcPacket) :
    allowed limit count (message :: messages) = message :: allowed limit (count + 1) messages := by
  cases limit with
  | none => rfl
  | some bound =>
      have hlt : ¬ bound ≤ count := fun hle => h (decide_eq_true hle)
      have hsucc : (bound - count).toNat = (bound - (count + 1 : Nat)).toNat + 1 := by omega
      rw [allowed, allowed, hsucc, List.take_succ_cons]

/-- The monitor prints the messages that the limit leaves, whenever its reads time out. -/
theorem monitorLoop_eq (limit : Option Int) (count : Nat) (reads : List (Option TrpcPacket)) :
    monitorLoop limit count reads = lines (allowed limit count (reads.filterMap id)) := by
  induction reads generalizing count with
  | nil =>
      cases limit with
      | none => rfl
      | some bound => rw [List.filterMap_nil, allowed, List.take_nil, monitorLoop, lines]
  | cons outcome rest ih =>
      by_cases hreached : (limit.any fun bound => bound ≤ (count : Int)) = true
      · rw [allowed_of_reached hreached, lines]
        cases outcome with
        | none => rw [monitorLoop, if_pos hreached]
        | some message => rw [monitorLoop, if_pos hreached]
      · cases outcome with
        | none =>
            rw [monitorLoop, if_neg hreached]
            exact ih count
        | some message =>
            have hread : (some message :: rest).filterMap id = message :: rest.filterMap id :=
              List.filterMap_cons_some rfl
            rw [monitorLoop, if_neg hreached, hread, allowed_cons hreached, lines, ← ih (count + 1)]

/-- Lines tell their messages. -/
theorem lines_unique {messages others : List TrpcPacket} (h : ∀ m ∈ messages, m.Received)
    (h' : ∀ m ∈ others, m.Received) (hlines : lines messages = lines others) :
    messages = others := by
  have hne (message : TrpcPacket) (rest : List TrpcPacket) : lines (message :: rest) ≠ "" := by
    intro hempty
    have hlist := congrArg String.toList hempty
    simp [lines] at hlist
  induction messages generalizing others with
  | nil =>
      cases others with
      | nil => rfl
      | cons other others => exact absurd hlines.symm (hne other others)
  | cons message rest ih =>
      cases others with
      | nil => exact absurd hlines (hne message rest)
      | cons other others =>
          have hmessage := h message List.mem_cons_self
          have hother := h' other List.mem_cons_self
          have htext := congrArg String.toList hlines
          rw [lines, lines] at htext
          simp only [String.toList_append, List.append_assoc] at htext
          have hsplit := Text.partition_append (TrpcPacket.newline_not_mem_str hmessage)
            (lines rest).toList
          have hnewline : "\n".toList = ['\n'] := by decide
          rw [hnewline, List.singleton_append, List.singleton_append] at htext
          rw [htext, Text.partition_append (TrpcPacket.newline_not_mem_str hother)] at hsplit
          obtain ⟨hstr, hrest⟩ := Prod.mk.inj (Option.some.inj hsplit)
          rw [TrpcPacket.str_unique hmessage hother (String.toList_inj.mp hstr).symm,
            ih (fun m hm => h m (List.mem_cons_of_mem _ hm))
              (fun m hm => h' m (List.mem_cons_of_mem _ hm)) (String.toList_inj.mp hrest).symm]

theorem received_allowed {limit : Option Int} {reads : List (Option TrpcPacket)}
    (h : ∀ message, some message ∈ reads → ∃ data, TrpcPacket.fromBytes data = .ok message) :
    ∀ m ∈ allowed limit 0 (reads.filterMap id), m.Received := by
  have hmem (m : TrpcPacket) (hm : m ∈ allowed limit 0 (reads.filterMap id)) : some m ∈ reads := by
    have hread : m ∈ reads.filterMap id := by
      cases limit with
      | none => exact hm
      | some bound => exact List.mem_of_mem_take hm
    obtain ⟨outcome, houtcome, hid⟩ := List.mem_filterMap.mp hread
    exact hid ▸ houtcome
  intro m hm
  obtain ⟨data, hdata⟩ := h m (hmem m hm)
  exact TrpcPacket.received_of_fromBytes hdata

/-- The monitor prints the same text exactly if it has read the same messages, as far as the limit
goes, whenever its reads timed out in between. -/
theorem monitor_exact {limit : Option Int} {reads others : List (Option TrpcPacket)}
    (h : ∀ message, some message ∈ reads → ∃ data, TrpcPacket.fromBytes data = .ok message)
    (h' : ∀ message, some message ∈ others → ∃ data, TrpcPacket.fromBytes data = .ok message) :
    monitor limit reads = monitor limit others ↔
      allowed limit 0 (reads.filterMap id) = allowed limit 0 (others.filterMap id) := by
  rw [monitor, monitor, monitorLoop_eq, monitorLoop_eq]
  constructor
  · exact lines_unique (received_allowed h) (received_allowed h')
  · intro hallowed
    rw [hallowed]

/-- With a limit of one message, neither a timeout before it nor a message after it is seen. -/
theorem monitor_exact_limited :
    monitor (some 1) [none, some sampleMessage] =
      monitor (some 1) [some sampleMessage, some sampleMessage] := by
  have hreads (reads : List (Option TrpcPacket))
      (hall : ∀ outcome ∈ reads, outcome = none ∨ outcome = some sampleMessage)
      (message : TrpcPacket) (h : some message ∈ reads) :
      ∃ data, TrpcPacket.fromBytes data = .ok message := by
    rcases hall _ h with hnone | hsome
    · cases hnone
    · exact ⟨sampleData, by rw [Option.some.inj hsome]; rfl⟩
  exact (monitor_exact (hreads _ (by simp)) (hreads _ (by simp))).mpr rfl

end Cli

end Tekmar482
