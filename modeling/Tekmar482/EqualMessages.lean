import Tekmar482.TrpcCodec
import Tekmar482.Library.DictOrder

/-!
# Equal messages and their bytes

Messages are equal whatever the order of their fields. A field may be given under several of its
names; normalization then keeps the value of the name that comes last, so the order may show in
the bytes.
-/

namespace Tekmar482

/-- The equality of messages. -/
structure TrpcPacket.Equals (p q : TrpcPacket) : Prop where
  serviceId : p.serviceId = q.serviceId
  methodId : p.methodId = q.methodId
  body : p.body.Same q.body
  extra : p.extra = q.extra

/-- Both calls raise, or both return the same. -/
def SameOutcome {α : Type} : Except PyException α → Except PyException α → Prop
  | .ok a, .ok b => a = b
  | .error _, .error _ => True
  | _, _ => False

theorem SameOutcome.cases {α : Type} {x y : Except PyException α} (h : SameOutcome x y) :
    (∃ err err', x = .error err ∧ y = .error err') ∨ ∃ a, x = .ok a ∧ y = .ok a := by
  cases x with
  | error err =>
      cases y with
      | error err' => exact .inl ⟨err, err', rfl, rfl⟩
      | ok b => exact h.elim
  | ok a =>
      cases y with
      | error err' => exact h.elim
      | ok b =>
          obtain rfl : a = b := h
          exact .inr ⟨a, rfl, rfl⟩

/-! ## What a body gives to a field -/

/-- The values that a body gives to a field, under whichever of its names, in order. -/
def FieldSpec.given (self : FieldSpec) (body : OrderedDict String Int) : List Int :=
  (body.entries.filter fun entry => entry.1 ∈ self.names).map Prod.snd

/-- The value of the last of the names of a field, or zero. -/
def FieldSpec.last (self : FieldSpec) (body : OrderedDict String Int) : Int :=
  (self.given body).getLast?.getD 0

namespace MethodSpec

variable (spec : MethodSpec)

/-- All keys of a body are names of fields. -/
def Accepts (body : OrderedDict String Int) : Prop :=
  ∀ key ∈ body.keys, key ∈ spec.fields.flatMap FieldSpec.names

instance (body : OrderedDict String Int) : Decidable (spec.Accepts body) :=
  inferInstanceAs (Decidable (∀ key ∈ body.keys, key ∈ spec.fields.flatMap FieldSpec.names))

variable {spec}

/-- A name is resolved to a field exactly if it is one of the names of the field. -/
theorem get?_fieldAliases_iff {item : FieldSpec} (hitem : item ∈ spec.fields) (key : String) :
    spec.fieldAliases.get? key = some item.name ↔ key ∈ item.names := by
  rw [get?_fieldAliases]
  constructor
  · rintro ⟨other, hother, hkey, hname⟩
    obtain rfl := List.inj_on_of_nodup_map spec.names_nodup hother hitem hname
    exact hkey
  · intro hkey
    exact ⟨item, hitem, hkey, rfl⟩

theorem get?_fieldAliases_eq_none_iff (key : String) :
    spec.fieldAliases.get? key = none ↔ key ∉ spec.fields.flatMap FieldSpec.names := by
  rw [OrderedDict.get?_eq_none_iff, OrderedDict.keys, entries_fieldAliases]
  simp [FieldSpec.names, List.map_flatMap]

/-- The loop lists the names that no field has. -/
theorem unknown_normalizeLoop (entries : List (String × Int)) (normalized : OrderedDict String Int)
    (unknown : List String) :
    (normalizeLoop spec.fieldAliases entries normalized unknown).2 =
      unknown ++ (entries.map Prod.fst).filter fun key =>
        key ∉ spec.fields.flatMap FieldSpec.names := by
  induction entries generalizing normalized unknown with
  | nil => simp [normalizeLoop]
  | cons entry rest ih =>
      obtain ⟨key, value⟩ := entry
      rw [normalizeLoop, List.map_cons]
      cases halias : spec.fieldAliases.get? key with
      | none =>
          have hkey := (get?_fieldAliases_eq_none_iff key).mp halias
          rw [List.filter_cons_of_pos (by simpa using hkey), ih, List.append_assoc,
            List.singleton_append]
      | some canonical =>
          have hkey : key ∈ spec.fields.flatMap FieldSpec.names := by
            by_contra hnot
            rw [(get?_fieldAliases_eq_none_iff key).mpr hnot] at halias
            cases halias
          rw [List.filter_cons_of_neg (by simpa using hkey), ih]

/-- The loop keeps the last value that is given to a field. -/
theorem get?_normalizeLoop {item : FieldSpec} (hitem : item ∈ spec.fields)
    (entries : List (String × Int)) (normalized : OrderedDict String Int)
    (unknown : List String) :
    (normalizeLoop spec.fieldAliases entries normalized unknown).1.get? item.name =
      ((entries.filter fun entry => entry.1 ∈ item.names).map Prod.snd).getLast?.or
        (normalized.get? item.name) := by
  induction entries generalizing normalized unknown with
  | nil => rfl
  | cons entry rest ih =>
      obtain ⟨key, value⟩ := entry
      have hresolve := get?_fieldAliases_iff hitem key
      rw [normalizeLoop]
      cases halias : spec.fieldAliases.get? key with
      | none =>
          have hkey : key ∉ item.names := fun h => by
            rw [hresolve.mpr h] at halias
            cases halias
          rw [List.filter_cons_of_neg (by simpa using hkey), ih]
      | some canonical =>
          rw [halias, Option.some.injEq] at hresolve
          simp only [ih, OrderedDict.get?_set]
          by_cases hkey : key ∈ item.names
          · rw [List.filter_cons_of_pos (by simpa using hkey), if_pos (hresolve.mpr hkey).symm,
              List.map_cons, List.getLast?_cons]
            cases ((rest.filter fun entry => entry.1 ∈ item.names).map Prod.snd).getLast? <;> rfl
          · rw [List.filter_cons_of_neg (by simpa using hkey),
              if_neg fun h => hkey (hresolve.mp h.symm)]

/-- Normalization keeps the last value of every field, if all names are known. -/
theorem normalizeFields_of_accepts {body : OrderedDict String Int} (h : spec.Accepts body) :
    ∃ normalized, spec.normalizeFields body = .ok normalized ∧
      ∀ item ∈ spec.fields, (normalized.get? item.name).getD 0 = item.last body := by
  have hunknown := @unknown_normalizeLoop spec body.entries .empty []
  rw [List.nil_append, List.filter_eq_nil_iff.mpr fun key hkey => by simpa using h key hkey]
    at hunknown
  refine ⟨(normalizeLoop spec.fieldAliases body.entries .empty []).1, ?_, ?_⟩
  · rw [normalizeFields, ← Prod.eta (normalizeLoop spec.fieldAliases body.entries .empty []),
      hunknown]
  · intro item hitem
    rw [get?_normalizeLoop hitem, OrderedDict.get?_empty, Option.or_none]
    rfl

/-- Normalization raises on an unknown name. -/
theorem normalizeFields_of_not_accepts {body : OrderedDict String Int} (h : ¬ spec.Accepts body) :
    ∃ err, spec.normalizeFields body = .error err := by
  have hunknown := @unknown_normalizeLoop spec body.entries .empty []
  rw [normalizeFields]
  cases hloop : normalizeLoop spec.fieldAliases body.entries .empty [] with
  | mk normalized unknown =>
      cases unknown with
      | cons key rest => exact ⟨_, rfl⟩
      | nil =>
          rw [hloop, List.nil_append, eq_comm, List.filter_eq_nil_iff] at hunknown
          exact absurd (fun key hkey => by simpa using hunknown key hkey) h

theorem Accepts.same {body other : OrderedDict String Int} (h : spec.Accepts body)
    (hsame : body.Same other) : spec.Accepts other := by
  intro key hkey
  apply h key
  have hperm := (OrderedDict.same_iff_perm.mp hsame).map Prod.fst
  exact hperm.mem_iff.mpr hkey

theorem Canonical.accepts {body : OrderedDict String Int} (h : spec.Canonical body) :
    spec.Accepts body := by
  intro key hkey
  obtain ⟨item, hitem, rfl⟩ := h key hkey
  exact List.mem_flatMap.mpr ⟨item, hitem, List.mem_cons_self⟩

/-- Under canonical names a field is given nothing but the value of its own name. -/
theorem Canonical.get?_of_mem_given {body : OrderedDict String Int} (h : spec.Canonical body)
    {item : FieldSpec} (hitem : item ∈ spec.fields) {v : Int} (hv : v ∈ item.given body) :
    body.get? item.name = some v := by
  obtain ⟨⟨key, value⟩, hentry, rfl⟩ := List.mem_map.mp hv
  obtain ⟨hmem, hkey⟩ := List.mem_filter.mp hentry
  obtain ⟨other, hother, rfl⟩ := h key (List.mem_map_of_mem hmem)
  have hresolved := (get?_fieldAliases_iff hitem _).mpr (of_decide_eq_true hkey)
  rw [spec.get?_fieldAliases_name hother] at hresolved
  rw [← Option.some.inj hresolved]
  exact (body.get?_eq_some_iff _ _).mpr hmem

end MethodSpec

/-! ## The bytes of a message -/

theorem packInt_eq_iff (v w : Int) (size : Nat) :
    packInt v size = packInt w size ↔ v % 256 ^ size = w % 256 ^ size := by
  constructor
  · intro h
    rw [← unpackInt_packInt, h, unpackInt_packInt]
  · intro h
    rw [packInt, packInt, h]

/-- Packed fields are the same exactly if all values are, modulo the widths. -/
theorem flatMap_packInt_eq_iff (fields : List FieldSpec) (f g : FieldSpec → Int) :
    (fields.flatMap fun item => packInt (f item) item.size) =
        (fields.flatMap fun item => packInt (g item) item.size) ↔
      ∀ item ∈ fields, f item % 256 ^ item.size = g item % 256 ^ item.size := by
  induction fields with
  | nil => simp
  | cons item rest ih =>
      rw [List.flatMap_cons, List.flatMap_cons, List.forall_mem_cons, ← ih, ← packInt_eq_iff]
      constructor
      · intro h
        exact List.append_inj h (by rw [length_packInt, length_packInt])
      · rintro ⟨hfirst, hrest⟩
        rw [hfirst, hrest]

namespace TrpcPacket

/-- The bytes before the body. -/
def header (self : TrpcPacket) : List UInt8 := packInt self.serviceId 1 ++ packInt self.methodId 4

variable {p q : TrpcPacket}

theorem Equals.header (h : p.Equals q) : p.header = q.header := by
  rw [TrpcPacket.header, h.serviceId, h.methodId]
  rfl

theorem toBytes_of_unknown (hspec : methodSpec p.methodId = none) :
    p.toBytes = .ok (p.header ++ p.extra) := by
  simp only [toBytes, hspec, header]

theorem toBytes_of_not_accepts {spec : MethodSpec} (hspec : methodSpec p.methodId = some spec)
    (h : ¬ spec.Accepts p.body) : ∃ err, p.toBytes = .error err := by
  obtain ⟨err, herr⟩ := MethodSpec.normalizeFields_of_not_accepts h
  refine ⟨err, ?_⟩
  simp only [toBytes, hspec, herr, Except.map]

/-- A message of a known method is packed from the last values of its fields. -/
theorem toBytes_of_accepts {spec : MethodSpec} (hspec : methodSpec p.methodId = some spec)
    (h : spec.Accepts p.body) :
    p.toBytes = .ok (p.header ++
      ((spec.fields.flatMap fun item => packInt (item.last p.body) item.size) ++ p.extra)) := by
  obtain ⟨normalized, hnormalized, hlast⟩ := MethodSpec.normalizeFields_of_accepts h
  have hpacked : packFields normalized spec.fields =
      spec.fields.flatMap fun item => packInt (item.last p.body) item.size :=
    (flatMap_packInt_eq_iff _ _ _).mpr fun item hitem => by rw [hlast item hitem]
  simp only [toBytes, hspec, hnormalized, Except.map, hpacked, header]

/-! ## When the order shows -/

/-- The last names of every field carry the same value, modulo the width of the field. -/
def LastNamesAgree (self other : TrpcPacket) : Prop :=
  ∀ spec, methodSpec self.methodId = some spec → spec.Accepts self.body →
    ∀ item ∈ spec.fields,
      item.last self.body % 256 ^ item.size = item.last other.body % 256 ^ item.size

/-- No field has two values under its names that differ modulo its width. -/
def Unambiguous (self : TrpcPacket) : Prop :=
  ∀ spec, methodSpec self.methodId = some spec → spec.Accepts self.body →
    ∀ item ∈ spec.fields, ∀ v ∈ item.given self.body, ∀ w ∈ item.given self.body,
      v % 256 ^ item.size = w % 256 ^ item.size

/-- Equal messages serialize equally exactly if their last names agree. -/
theorem Equals.sameOutcome_iff (h : p.Equals q) :
    SameOutcome p.toBytes q.toBytes ↔ p.LastNamesAgree q := by
  cases hspec : methodSpec p.methodId with
  | none =>
      have hspec' : methodSpec q.methodId = none := h.methodId ▸ hspec
      rw [toBytes_of_unknown hspec, toBytes_of_unknown hspec', h.header, h.extra]
      exact iff_of_true rfl fun spec hknown => by
        rw [hspec] at hknown
        cases hknown
  | some spec =>
      have hspec' : methodSpec q.methodId = some spec := h.methodId ▸ hspec
      by_cases haccepts : spec.Accepts p.body
      · rw [toBytes_of_accepts hspec haccepts, toBytes_of_accepts hspec' (haccepts.same h.body),
          h.header, h.extra]
        rw [SameOutcome, List.append_cancel_left_eq, List.append_cancel_right_eq,
          flatMap_packInt_eq_iff]
        constructor
        · intro hlast spec' hknown _
          obtain rfl := Option.some.inj (hspec.symm.trans hknown)
          exact hlast
        · intro hlast
          exact hlast spec hspec haccepts
      · have hother : ¬ spec.Accepts q.body := fun hq => haccepts (hq.same h.body.symm)
        obtain ⟨err, herr⟩ := toBytes_of_not_accepts hspec haccepts
        obtain ⟨err', herr'⟩ := toBytes_of_not_accepts hspec' hother
        rw [herr, herr']
        refine iff_of_true trivial fun spec' hknown hknown' => ?_
        obtain rfl := Option.some.inj (hspec.symm.trans hknown)
        exact absurd hknown' haccepts

/-- Equal bodies give a field the same values, in another order. -/
theorem given_perm (item : FieldSpec) {body other : OrderedDict String Int}
    (h : body.Same other) : (item.given body).Perm (item.given other) :=
  ((OrderedDict.same_iff_perm.mp h).filter _).map Prod.snd

/-- The value of a name that is assigned anew at the end is the last one. -/
theorem last_moveToEnd (item : FieldSpec) (body : OrderedDict String Int) {key : String}
    (hkey : key ∈ item.names) (v : Int) : item.last (body.moveToEnd key v) = v := by
  have hlast : [(key, v)].filter (fun entry => entry.1 ∈ item.names) = [(key, v)] :=
    List.filter_eq_self.mpr fun entry hentry => by
      rw [List.mem_singleton.mp hentry]
      exact decide_eq_true hkey
  rw [FieldSpec.last, FieldSpec.given, OrderedDict.entries_moveToEnd, List.filter_append, hlast,
    List.map_append, List.map_singleton, List.getLast?_concat]
  rfl

theorem Unambiguous.lastNamesAgree (h : p.Unambiguous) (hequals : p.Equals q) :
    p.LastNamesAgree q := by
  intro spec hspec haccepts item hitem
  have hperm := given_perm item hequals.body
  have hresidues := h spec hspec haccepts item hitem
  rw [FieldSpec.last, FieldSpec.last]
  cases hlast : (item.given p.body).getLast? with
  | none =>
      rw [List.getLast?_eq_none_iff.mp hlast] at hperm
      rw [List.nil_perm.mp hperm]
      rfl
  | some v =>
      obtain ⟨w, hother⟩ : ∃ w, (item.given q.body).getLast? = some w := by
        rw [← Option.ne_none_iff_exists', Ne, List.getLast?_eq_none_iff]
        intro hnil
        rw [hnil, List.perm_nil] at hperm
        rw [hperm] at hlast
        cases hlast
      rw [hother]
      exact hresidues v (List.mem_of_getLast? hlast) w
        (hperm.mem_iff.mpr (List.mem_of_getLast? hother))

/-- All messages equal to a message serialize as it does exactly if no field has values that
differ under its names. -/
theorem forall_sameOutcome_iff (p : TrpcPacket) :
    (∀ q, p.Equals q → SameOutcome p.toBytes q.toBytes) ↔ p.Unambiguous := by
  constructor
  · intro h spec hspec haccepts item hitem
    -- Each value is the last one of an equal message, so it agrees with the last one here.
    have hlast : ∀ v ∈ item.given p.body,
        item.last p.body % 256 ^ item.size = v % 256 ^ item.size := by
      intro v hv
      obtain ⟨⟨key, value⟩, hentry, rfl⟩ := List.mem_map.mp hv
      obtain ⟨hmem, hkey⟩ := List.mem_filter.mp hentry
      have hequals : p.Equals { p with body := p.body.moveToEnd key value } :=
        ⟨rfl, rfl, OrderedDict.same_moveToEnd ((p.body.get?_eq_some_iff key value).mpr hmem), rfl⟩
      have hagree := hequals.sameOutcome_iff.mp (h _ hequals) spec hspec haccepts item hitem
      rwa [last_moveToEnd item p.body (of_decide_eq_true hkey)] at hagree
    intro v hv w hw
    exact (hlast v hv).symm.trans (hlast w hw)
  · intro h q hequals
    exact hequals.sameOutcome_iff.mpr (h.lastNamesAgree hequals)

/-! ## Messages that were created -/

variable {service method : Int} {fields : OrderedDict String Int} {message : TrpcPacket}

theorem canonical_of_create (h : create service method fields = .ok message) {spec : MethodSpec}
    (hspec : methodSpec message.methodId = some spec) : spec.Canonical message.body := by
  rw [create] at h
  cases hmethod : methodSpec method with
  | none =>
      rw [hmethod] at h
      obtain rfl := Except.ok.inj h
      cases hmethod.symm.trans hspec
  | some known =>
      rw [hmethod] at h
      cases hnormalized : known.normalizeFields fields with
      | error err =>
          simp only [hnormalized] at h
          cases h
      | ok body =>
          simp only [hnormalized] at h
          obtain rfl := Except.ok.inj h
          obtain rfl := Option.some.inj (hmethod.symm.trans hspec)
          exact known.canonical_of_normalizeFields hnormalized

/-- A created message has its fields under their own names, so each has one value. -/
theorem unambiguous_of_create (h : create service method fields = .ok message) :
    message.Unambiguous := by
  intro spec hspec _ item hitem v hv w hw
  have hcanonical := canonical_of_create h hspec
  have hvalue := hcanonical.get?_of_mem_given hitem hv
  rw [Option.some.inj (hvalue.symm.trans (hcanonical.get?_of_mem_given hitem hw))]

end TrpcPacket

end Tekmar482
