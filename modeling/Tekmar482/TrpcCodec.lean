import Tekmar482.Trpc
import Mathlib.Algebra.Order.Ring.Int

/-!
# Decoding and encoding undo each other

The layout of a method cuts a body into named little-endian numbers. The two
loops of the source agree with this cut: decoding appends its values to the
body, and encoding the values of the cut gives back the bytes.
-/

namespace Tekmar482

/-! ## Little-endian numbers -/

@[simp] theorem length_leBytes (size n : Nat) : (leBytes size n).length = size := by
  induction size generalizing n with
  | zero => rfl
  | succ size ih => simp [leBytes, ih]

theorem leNat_lt (data : List UInt8) : leNat data < 256 ^ data.length := by
  induction data with
  | nil => simp [leNat]
  | cons b rest ih =>
      have hb : b.toNat < 256 := b.toNat_lt
      simp only [leNat, List.length_cons, Nat.pow_succ]
      omega

theorem leNat_leBytes (size n : Nat) : leNat (leBytes size n) = n % 256 ^ size := by
  induction size generalizing n with
  | zero => simp [leBytes, leNat, Nat.mod_one]
  | succ size ih =>
      have hsplit := Nat.mod_mul (x := n) (a := 256) (b := 256 ^ size)
      simp only [leBytes, leNat, ih, UInt8.toNat_ofNat', Nat.pow_succ']
      omega

theorem leBytes_leNat (data : List UInt8) : leBytes data.length (leNat data) = data := by
  induction data with
  | nil => rfl
  | cons b rest ih =>
      have hb : b.toNat < 256 := b.toNat_lt
      have hdiv : (b.toNat + 256 * leNat rest) / 256 = leNat rest := by omega
      have hmod : UInt8.ofNat (b.toNat + 256 * leNat rest) = b := by
        apply UInt8.toNat_inj.mp
        rw [UInt8.toNat_ofNat']
        omega
      simp only [List.length_cons, leBytes, leNat, hdiv, hmod, ih]

@[simp] theorem length_packInt (value : Int) (size : Nat) :
    (packInt value size).length = size := by
  simp [packInt]

theorem packInt_unpackInt (data : List UInt8) : packInt (unpackInt data) data.length = data := by
  have hlt : ((leNat data : Nat) : Int) < 256 ^ data.length := by
    exact_mod_cast leNat_lt data
  have hmod : ((leNat data : Nat) : Int) % 256 ^ data.length = leNat data :=
    Int.emod_eq_of_lt (by omega) hlt
  simp only [packInt, unpackInt, hmod, Int.toNat_natCast, leBytes_leNat]

theorem unpackInt_packInt (value : Int) (size : Nat) :
    unpackInt (packInt value size) = value % 256 ^ size := by
  have hpos : (0 : Int) < 256 ^ size := pow_pos (by decide) size
  have hnonneg := Int.emod_nonneg value hpos.ne'
  have hlt : (value % 256 ^ size).toNat < 256 ^ size := by
    have hbound := Int.emod_lt_of_pos value hpos
    have hcast : ((256 ^ size : Nat) : Int) = 256 ^ size := by push_cast; rfl
    omega
  simp only [unpackInt, packInt, leNat_leBytes, Nat.mod_eq_of_lt hlt]
  omega

/-! ## Field names -/

namespace MethodSpec

variable (spec : MethodSpec)

theorem entries_fieldAliases :
    spec.fieldAliases.entries =
      spec.fields.flatMap fun item => item.names.map fun accepted => (accepted, item.name) := by
  apply OrderedDict.entries_ofList
  have hnames : (spec.fields.flatMap fun item =>
      item.names.map fun accepted => (accepted, item.name)).map Prod.fst =
        spec.fields.flatMap FieldSpec.names := by
    simp [List.map_flatMap, Function.comp_def]
  rw [hnames]
  exact spec.distinct

/-- An accepted name is resolved to the name of the field that accepts it. -/
theorem get?_fieldAliases (accepted canonical : String) :
    spec.fieldAliases.get? accepted = some canonical ↔
      ∃ item ∈ spec.fields, accepted ∈ item.names ∧ item.name = canonical := by
  rw [OrderedDict.get?_eq_some_iff, entries_fieldAliases]
  simp

/-- Canonical names are accepted and resolve to themselves. -/
theorem get?_fieldAliases_name {item : FieldSpec} (h : item ∈ spec.fields) :
    spec.fieldAliases.get? item.name = some item.name :=
  (spec.get?_fieldAliases _ _).mpr ⟨item, h, by simp [FieldSpec.names], rfl⟩

theorem names_nodup : (spec.fields.map FieldSpec.name).Nodup := by
  have hsub : ∀ fields : List FieldSpec,
      (fields.map FieldSpec.name).Sublist (fields.flatMap FieldSpec.names) := by
    intro fields
    induction fields with
    | nil => exact List.Sublist.refl _
    | cons item rest ih =>
        simp only [List.map_cons, List.flatMap_cons, FieldSpec.names, List.cons_append]
        exact (ih.trans (List.sublist_append_right _ _)).cons_cons _
  exact spec.distinct.sublist (hsub spec.fields)

/-- The keys of a dictionary are canonical names of the layout. -/
def Canonical (d : OrderedDict String Int) : Prop :=
  ∀ key ∈ d.keys, ∃ item ∈ spec.fields, item.name = key

/-- The loop only assigns canonical names. -/
theorem canonical_normalizeLoop (entries : List (String × Int))
    (normalized : OrderedDict String Int) (unknown : List String)
    (h : spec.Canonical normalized) :
    spec.Canonical (normalizeLoop spec.fieldAliases entries normalized unknown).1 := by
  induction entries generalizing normalized unknown with
  | nil => exact h
  | cons entry rest ih =>
      obtain ⟨key, value⟩ := entry
      simp only [normalizeLoop]
      cases halias : spec.fieldAliases.get? key with
      | none => exact ih normalized _ h
      | some canonical =>
          obtain ⟨item, hitem, _, hname⟩ := (spec.get?_fieldAliases _ _).mp halias
          apply ih
          intro k hk
          rw [OrderedDict.keys_set] at hk
          split at hk
          · exact h k hk
          · rcases List.mem_append.mp hk with hold | hnew
            · exact h k hold
            · exact ⟨item, hitem, hname.trans (List.mem_singleton.mp hnew).symm⟩

/-- On canonical names the loop copies the entries. -/
theorem normalizeLoop_of_canonical (entries : List (String × Int))
    (normalized : OrderedDict String Int)
    (hcanonical : ∀ entry ∈ entries, spec.fieldAliases.get? entry.1 = some entry.1) :
    normalizeLoop spec.fieldAliases entries normalized [] =
      (entries.foldl (fun d entry => d.set entry.1 entry.2) normalized, []) := by
  induction entries generalizing normalized with
  | nil => rfl
  | cons entry rest ih =>
      obtain ⟨key, value⟩ := entry
      have hkey := hcanonical _ List.mem_cons_self
      simp only at hkey
      simp only [normalizeLoop, hkey, List.foldl_cons]
      exact ih _ fun e he => hcanonical e (List.mem_cons_of_mem _ he)

theorem canonical_of_normalizeFields {fields normalized : OrderedDict String Int}
    (h : spec.normalizeFields fields = .ok normalized) : spec.Canonical normalized := by
  have hloop := spec.canonical_normalizeLoop fields.entries .empty []
    (by intro key hkey; simp at hkey)
  simp only [normalizeFields] at h
  split at h
  · rename_i heq
    injection h with h
    rw [heq, h] at hloop
    exact hloop
  · cases h

/-- Normalizing canonical fields changes nothing. -/
theorem normalizeFields_of_canonical {d : OrderedDict String Int} (h : spec.Canonical d) :
    spec.normalizeFields d = .ok d := by
  have hself : ∀ entry ∈ d.entries, spec.fieldAliases.get? entry.1 = some entry.1 := by
    intro entry hentry
    obtain ⟨item, hitem, hname⟩ := h entry.1 (List.mem_map_of_mem hentry)
    rw [← hname]
    exact spec.get?_fieldAliases_name hitem
  have hcopy : d.entries.foldl (fun d entry => d.set entry.1 entry.2) .empty = d :=
    OrderedDict.ext (OrderedDict.entries_ofList d.nodup)
  simp only [normalizeFields, spec.normalizeLoop_of_canonical _ _ hself, hcopy]

end MethodSpec

/-! ## The layout as a cut of the body -/

namespace TrpcPacket

/-- The named numbers of a layout in a body. -/
def cut : List FieldSpec → List UInt8 → List (String × Int)
  | [], _ => []
  | item :: rest, data =>
      (item.name, unpackInt (data.take item.size)) :: cut rest (data.drop item.size)

@[simp] theorem keys_cut (fields : List FieldSpec) (data : List UInt8) :
    (cut fields data).map Prod.fst = fields.map FieldSpec.name := by
  induction fields generalizing data with
  | nil => rfl
  | cons item rest ih => simp [cut, ih]

/-- The decoding loop appends the cut of the rest of the body. -/
theorem entries_unpackFields (padded : List UInt8) (offset : Nat) (fields : List FieldSpec)
    (body : OrderedDict String Int) (hnodup : (fields.map FieldSpec.name).Nodup)
    (hnew : ∀ item ∈ fields, item.name ∉ body.keys) :
    (unpackFields padded offset fields body).entries =
      body.entries ++ cut fields (padded.drop offset) := by
  induction fields generalizing offset body with
  | nil => simp [unpackFields, cut]
  | cons item rest ih =>
      obtain ⟨hfirst, hrest⟩ := List.nodup_cons.mp hnodup
      have hset := body.entries_set_of_not_mem
        (unpackInt ((padded.drop offset).take item.size)) (hnew item List.mem_cons_self)
      have hnext : ∀ other ∈ rest, other.name ∉
          (body.set item.name (unpackInt ((padded.drop offset).take item.size))).keys := by
        intro other hother hmem
        simp only [OrderedDict.keys, hset, List.map_append, List.map_cons, List.map_nil,
          List.mem_append, List.mem_singleton] at hmem
        rcases hmem with hold | hsame
        · exact hnew other (List.mem_cons_of_mem _ hother) hold
        · exact hfirst (hsame ▸ List.mem_map_of_mem hother)
      simp only [unpackFields, ih _ _ hrest hnext, hset, cut, List.drop_drop,
        List.append_assoc, List.singleton_append]

/-- The decoded body of a known method is the cut of its padded bytes. -/
theorem entries_decoded (spec : MethodSpec) (padded : List UInt8) :
    (unpackFields padded 0 spec.fields .empty).entries = cut spec.fields padded := by
  simpa using
    entries_unpackFields padded 0 spec.fields .empty spec.names_nodup (by simp)

/-- Packing the numbers of a cut gives back the bytes. -/
theorem packFields_of_cut (fields : List FieldSpec) (data : List UInt8)
    (d : OrderedDict String Int) (hlen : data.length = (fields.map FieldSpec.size).sum)
    (hcut : ∀ entry ∈ cut fields data, d.get? entry.1 = some entry.2) :
    packFields d fields = data := by
  induction fields generalizing data with
  | nil =>
      simp only [List.map_nil, List.sum_nil, List.length_eq_zero_iff] at hlen
      simp [packFields, hlen]
  | cons item rest ih =>
      simp only [List.map_cons, List.sum_cons] at hlen
      have hfirst := hcut _ List.mem_cons_self
      have htake : (data.take item.size).length = item.size := by
        rw [List.length_take]
        omega
      have hpack := packInt_unpackInt (data.take item.size)
      rw [htake] at hpack
      have hrest := ih (data.drop item.size) (by rw [List.length_drop]; omega)
        fun entry hentry => hcut entry (List.mem_cons_of_mem _ hentry)
      simp only at hfirst
      simp only [packFields] at hrest
      simp only [packFields, List.flatMap_cons, hfirst, Option.getD_some, hpack, hrest,
        List.take_append_drop]

/-- The cut of packed fields holds the packed values modulo their width. -/
theorem cut_packFields (d : OrderedDict String Int) (fields : List FieldSpec) :
    cut fields (packFields d fields) =
      fields.map fun item =>
        (item.name, (d.get? item.name).getD 0 % 256 ^ item.size) := by
  induction fields with
  | nil => rfl
  | cons item rest ih =>
      have hlen := length_packInt ((d.get? item.name).getD 0) item.size
      simp only [packFields] at ih
      simp only [cut, packFields, List.flatMap_cons, List.take_left' hlen,
        List.drop_left' hlen, unpackInt_packInt, ih, List.map_cons]

theorem length_packFields (d : OrderedDict String Int) (fields : List FieldSpec) :
    (packFields d fields).length = (fields.map FieldSpec.size).sum := by
  induction fields with
  | nil => rfl
  | cons item rest ih =>
      simp only [packFields] at ih
      simp [packFields, ih]

@[simp] theorem length_ljust (data : List UInt8) (size : Nat) :
    (ljust data size).length = max data.length size := by
  simp only [ljust, List.length_append, List.length_replicate]
  omega

theorem ljust_of_le {data : List UInt8} {size : Nat} (h : size ≤ data.length) :
    ljust data size = data := by
  simp [ljust, Nat.sub_eq_zero_of_le h]

/-- The body of a decoded message of a known method normalizes to itself. -/
theorem normalizeFields_decoded (spec : MethodSpec) (padded : List UInt8) :
    spec.normalizeFields (unpackFields padded 0 spec.fields .empty) =
      .ok (unpackFields padded 0 spec.fields .empty) := by
  apply spec.normalizeFields_of_canonical
  intro key hkey
  simp only [OrderedDict.keys, entries_decoded, keys_cut] at hkey
  exact List.mem_map.mp hkey

theorem packFields_decoded (spec : MethodSpec) (padded : List UInt8)
    (hlen : padded.length = spec.size) :
    packFields (unpackFields padded 0 spec.fields .empty) spec.fields = padded := by
  apply packFields_of_cut _ _ _ hlen
  intro entry hentry
  rw [OrderedDict.get?_eq_some_iff, entries_decoded]
  exact hentry

/-! ## Whole messages -/

theorem methodSpec_value (method : TrpcMethod) :
    methodSpec method.value = some (methodSpecs method) := by
  simp [methodSpec]

section Decode

variable {data : List UInt8} (h : 5 ≤ data.length)
include h

/-- A message of an unknown method carries its body as extra bytes. -/
theorem fromBytes_unknown (hspec : methodSpec (unpackInt ((data.drop 1).take 4)) = none) :
    fromBytes data = .ok {
      serviceId := unpackInt (data.take 1)
      methodId := unpackInt ((data.drop 1).take 4)
      extra := data.drop 5 } := by
  have hlen : ¬ data.length < 5 := by omega
  simp only [fromBytes, HEADER_SIZE, if_neg hlen, hspec]

/-- A message of a known method is cut by the method's layout. -/
theorem fromBytes_known {spec : MethodSpec}
    (hspec : methodSpec (unpackInt ((data.drop 1).take 4)) = some spec) :
    fromBytes data = .ok {
      serviceId := unpackInt (data.take 1)
      methodId := unpackInt ((data.drop 1).take 4)
      body := unpackFields (ljust ((data.drop 5).take spec.size) spec.size) 0 spec.fields .empty
      extra := (data.drop 5).drop spec.size } := by
  have hlen : ¬ data.length < 5 := by omega
  simp only [fromBytes, HEADER_SIZE, if_neg hlen, hspec]

end Decode

/-- A decoded message of a known method has exactly the fields of the layout. -/
theorem keys_fromBytes {data : List UInt8} {message : TrpcPacket} {method : TrpcMethod}
    (h : fromBytes data = .ok message) (hmethod : message.methodId = method.value) :
    message.body.keys = (methodSpecs method).fields.map FieldSpec.name := by
  have hlen : 5 ≤ data.length := by
    by_contra hshort
    rw [fromBytes, HEADER_SIZE, if_pos (Nat.lt_of_not_le hshort)] at h
    cases h
  cases hspec : methodSpec (unpackInt ((data.drop 1).take 4)) with
  | none =>
      rw [fromBytes_unknown hlen hspec] at h
      injection h with h
      subst h
      simp only at hmethod
      rw [hmethod, methodSpec_value] at hspec
      cases hspec
  | some spec =>
      rw [fromBytes_known hlen hspec] at h
      injection h with h
      subst h
      simp only at hmethod
      rw [hmethod, methodSpec_value] at hspec
      injection hspec with hspec
      subst hspec
      simp only [OrderedDict.keys, entries_decoded, keys_cut]

/-- Every field of the layout has a value in a decoded message. -/
theorem get_fromBytes {data : List UInt8} {message : TrpcPacket} {method : TrpcMethod}
    (h : fromBytes data = .ok message) (hmethod : message.methodId = method.value)
    {field : String} (hfield : field ∈ (methodSpecs method).fields.map FieldSpec.name) :
    ∃ value, message.get field = some value := by
  obtain ⟨item, hitem, rfl⟩ := List.mem_map.mp hfield
  have hkey : item.name ∈ message.body.keys := by
    rw [keys_fromBytes h hmethod]
    exact hfield
  obtain ⟨value, hvalue⟩ := (message.body.mem_keys_iff item.name).mp hkey
  refine ⟨value, ?_⟩
  simp only [get, hmethod, methodSpec_value,
    MethodSpec.get?_fieldAliases_name (methodSpecs method) hitem, Option.getD_some, hvalue]

/-- A name that the layout does not accept has no value in a decoded message. -/
theorem get_fromBytes_eq_none {data : List UInt8} {message : TrpcPacket} {method : TrpcMethod}
    (h : fromBytes data = .ok message) (hmethod : message.methodId = method.value)
    {field : String} (hfield : field ∉ (methodSpecs method).fields.map FieldSpec.name)
    (haccepted : (methodSpecs method).fieldAliases.get? field = none) :
    message.get field = none := by
  simp only [get, hmethod, methodSpec_value, haccepted, Option.getD_none]
  rw [message.body.get?_eq_none_iff, keys_fromBytes h hmethod]
  exact hfield

/-- The header bytes are packed back from the decoded ids. -/
theorem packed_header {data : List UInt8} (h : 5 ≤ data.length) :
    packInt (unpackInt (data.take 1)) 1 ++ packInt (unpackInt ((data.drop 1).take 4)) 4 ++
      data.drop 5 = data := by
  have hservice := packInt_unpackInt (data.take 1)
  have hmethod := packInt_unpackInt ((data.drop 1).take 4)
  have hone : (data.take 1).length = 1 := by rw [List.length_take]; omega
  have hfour : ((data.drop 1).take 4).length = 4 := by
    rw [List.length_take, List.length_drop]
    omega
  rw [hone] at hservice
  rw [hfour] at hmethod
  have hdrop : data.drop 5 = (data.drop 1).drop 4 := by rw [List.drop_drop]
  rw [hservice, hmethod, List.append_assoc, hdrop, List.take_append_drop,
    List.take_append_drop]

/-- Padding a short body before or after cutting it makes no difference. -/
theorem body_ljust (body : List UInt8) (size : Nat) :
    ljust (body.take size) size ++ body.drop size = ljust body size := by
  by_cases h : size ≤ body.length
  · rw [ljust_of_le (by rw [List.length_take]; omega), ljust_of_le h,
      List.take_append_drop]
  · rw [List.take_of_length_le (by omega), List.drop_eq_nil_of_le (by omega),
      List.append_nil]

/-- Encoding a decoded message gives the bytes, padded to the layout's size. -/
theorem toBytes_fromBytes {data : List UInt8} (h : 5 ≤ data.length) :
    ∃ message, fromBytes data = .ok message ∧
      message.methodId = unpackInt ((data.drop 1).take 4) ∧
      message.toBytes = .ok (match methodSpec message.methodId with
        | none => data
        | some spec => ljust data (5 + spec.size)) := by
  have hheader := packed_header h
  cases hspec : methodSpec (unpackInt ((data.drop 1).take 4)) with
  | none =>
      refine ⟨_, fromBytes_unknown h hspec, rfl, ?_⟩
      simp only [toBytes, hspec, hheader]
  | some spec =>
      refine ⟨_, fromBytes_known h hspec, rfl, ?_⟩
      have hlen : (ljust ((data.drop 5).take spec.size) spec.size).length = spec.size := by
        rw [length_ljust, List.length_take]
        omega
      have hpad : spec.size - (data.length - 5) = 5 + spec.size - data.length := by omega
      simp only [toBytes, hspec, normalizeFields_decoded, Except.map,
        packFields_decoded spec _ hlen, body_ljust]
      rw [ljust, ljust, ← List.append_assoc, hheader, List.length_drop, hpad]

/-- Padding with zero bytes up to the layout's size does not change what is decoded. -/
theorem fromBytes_ljust {data : List UInt8} {spec : MethodSpec} (h : 5 ≤ data.length)
    (hspec : methodSpec (unpackInt ((data.drop 1).take 4)) = some spec) :
    fromBytes (ljust data (5 + spec.size)) = fromBytes data := by
  have htake (n : Nat) (hn : n ≤ data.length) (m : Nat) :
      (ljust data m).take n = data.take n := by
    rw [ljust, List.take_append_of_le_length hn]
  have hdrop (n : Nat) (hn : n ≤ data.length) (m : Nat) :
      (ljust data m).drop n = ljust (data.drop n) (m - n) := by
    rw [ljust, List.drop_append_of_le_length hn, ljust, List.length_drop]
    congr 2
    omega
  have hlong : 5 ≤ (ljust data (5 + spec.size)).length := by
    rw [length_ljust]
    omega
  have hid : ((ljust data (5 + spec.size)).drop 1).take 4 = (data.drop 1).take 4 := by
    rw [hdrop 1 (by omega), ljust, List.take_append_of_le_length (by
      rw [List.length_drop]; omega)]
  have hbody : ljust ((ljust (data.drop 5) spec.size).take spec.size) spec.size =
      ljust ((data.drop 5).take spec.size) spec.size ∧
      (ljust (data.drop 5) spec.size).drop spec.size = (data.drop 5).drop spec.size := by
    have hfull := length_ljust (data.drop 5) spec.size
    by_cases hshort : spec.size ≤ (data.drop 5).length
    · rw [ljust_of_le hshort]
      exact ⟨rfl, rfl⟩
    · have hfilled : (ljust (data.drop 5) spec.size).length = spec.size := by omega
      constructor
      · rw [List.take_of_length_le (le_of_eq hfilled), ljust_of_le (le_of_eq hfilled.symm),
          List.take_of_length_le (by omega)]
      · rw [List.drop_eq_nil_of_le (le_of_eq hfilled), List.drop_eq_nil_of_le (by omega)]
  have hsize : 5 + spec.size - 5 = spec.size := by omega
  have hknown := fromBytes_known hlong (hid ▸ hspec)
  rw [hid, htake 1 (by omega), hdrop 5 h, hsize, hbody.1, hbody.2] at hknown
  rw [hknown, fromBytes_known h hspec]

/-- A message built by `create` is decoded from its bytes with the same ids, no
extra bytes, and every field of the layout modulo its width. -/
theorem fromBytes_toBytes_create {service : Int} {method : TrpcMethod}
    {fields : OrderedDict String Int} {message : TrpcPacket}
    (hservice : 0 ≤ service ∧ service ≤ 255)
    (h : create service method.value fields = .ok message) :
    ∃ normalized data decoded,
      (methodSpecs method).normalizeFields fields = .ok normalized ∧
      message.toBytes = .ok data ∧ fromBytes data = .ok decoded ∧
      decoded.serviceId = service ∧ decoded.methodId = method.value ∧
      decoded.extra = [] ∧
      ∀ item ∈ (methodSpecs method).fields, decoded.body.get? item.name =
        some ((normalized.get? item.name).getD 0 % 256 ^ item.size) := by
  simp only [create, methodSpec_value] at h
  cases hnormalized : (methodSpecs method).normalizeFields fields with
  | error err =>
      rw [hnormalized] at h
      cases h
  | ok normalized =>
      rw [hnormalized] at h
      injection h with h
      subst h
      have hagain := (methodSpecs method).normalizeFields_of_canonical
        ((methodSpecs method).canonical_of_normalizeFields hnormalized)
      have hbody : (packFields normalized (methodSpecs method).fields).length =
          (methodSpecs method).size := length_packFields _ _
      have hone : (packInt service 1).length = 1 := length_packInt service 1
      have hfour : (packInt method.value 4).length = 4 := length_packInt method.value 4
      have hrange := method.value_range
      have hid : unpackInt (packInt method.value 4) = method.value := by
        rw [unpackInt_packInt, Int.emod_eq_of_lt hrange.1 (by omega)]
      have hsid : unpackInt (packInt service 1) = service := by
        rw [unpackInt_packInt, Int.emod_eq_of_lt hservice.1 (by omega)]
      let body := packFields normalized (methodSpecs method).fields
      let data := packInt service 1 ++ packInt method.value 4 ++ (body ++ [])
      have hdata : 5 ≤ data.length := by
        simp only [data, List.length_append, hone, hfour]
        omega
      have hparts : data.take 1 = packInt service 1 ∧
          (data.drop 1).take 4 = packInt method.value 4 ∧ data.drop 5 = body := by
        have hheader : (packInt service 1 ++ packInt method.value 4).length = 5 := by
          rw [List.length_append, hone, hfour]
        refine ⟨?_, ?_, ?_⟩
        · simp only [data, List.append_assoc]
          exact List.take_left' hone
        · simp only [data, List.append_assoc]
          rw [List.drop_left' hone, List.take_left' hfour]
        · simp only [data]
          rw [List.drop_left' hheader, List.append_nil]
      have hspec : methodSpec (unpackInt ((data.drop 1).take 4)) = some (methodSpecs method) := by
        rw [hparts.2.1, hid, methodSpec_value]
      have htake : ljust (body.take (methodSpecs method).size) (methodSpecs method).size =
          body := by
        rw [List.take_of_length_le (le_of_eq hbody), ljust_of_le (le_of_eq hbody.symm)]
      have hdecode := fromBytes_known hdata hspec
      rw [hparts.1, hparts.2.1, hparts.2.2, hid, hsid, htake] at hdecode
      refine ⟨normalized, data, _, rfl, ?_, hdecode, rfl, rfl, ?_, ?_⟩
      · simp only [toBytes, methodSpec_value, hagain, Except.map, data, body]
      · exact List.drop_eq_nil_of_le (le_of_eq hbody)
      · intro item hitem
        rw [OrderedDict.get?_eq_some_iff, entries_decoded, cut_packFields]
        exact List.mem_map.mpr ⟨item, hitem, rfl⟩

/-- A command with canonical fields is decoded from its bytes with every field
of the layout modulo its width. -/
theorem decode_canonical {service : Int} {method : TrpcMethod} {fields : OrderedDict String Int}
    (hservice : 0 ≤ service ∧ service ≤ 255) (hfields : (methodSpecs method).Canonical fields) :
    ∃ message data decoded, create service method.value fields = .ok message ∧
      message.toBytes = .ok data ∧ fromBytes data = .ok decoded ∧
      decoded.serviceId = service ∧ decoded.methodId = method.value ∧
      ∀ item ∈ (methodSpecs method).fields, decoded.get item.name =
        some ((fields.get? item.name).getD 0 % 256 ^ item.size) := by
  have hnormal := (methodSpecs method).normalizeFields_of_canonical hfields
  have hcreate : create service method.value fields =
      .ok { serviceId := service, methodId := method.value, body := fields } := by
    simp only [create, methodSpec_value, hnormal, Except.map]
  obtain ⟨normalized, data, decoded, hnormalized, hdata, hdecoded, hid, hmethod, -, hbody⟩ :=
    fromBytes_toBytes_create hservice hcreate
  rw [hnormal] at hnormalized
  injection hnormalized with hnormalized
  refine ⟨_, data, decoded, hcreate, hdata, hdecoded, hid, hmethod, fun item hitem => ?_⟩
  simp only [get, hmethod, methodSpec_value,
    MethodSpec.get?_fieldAliases_name (methodSpecs method) hitem, Option.getD_some, hbody item hitem,
    hnormalized]

/-- The service is the first byte of a message, and nothing else depends on it. -/
theorem toBytes_withService {message : TrpcPacket} {data : List UInt8} (service : Int)
    (h : message.toBytes = .ok data) :
    { message with serviceId := service }.toBytes =
      .ok (data.set 0 (UInt8.ofNat (service % 256).toNat)) := by
  simp only [toBytes] at h ⊢
  cases hspec : methodSpec message.methodId with
  | none =>
      rw [hspec] at h
      injection h with h
      rw [← h]
      rfl
  | some spec =>
      simp only [hspec] at h ⊢
      cases hnormalized : spec.normalizeFields message.body with
      | error err =>
          rw [hnormalized] at h
          cases h
      | ok normalized =>
          rw [hnormalized] at h
          injection h with h
          rw [← h]
          rfl

/-- Decoding and encoding undo each other. Encoding a decoded message gives the
bytes themselves, or the bytes padded to the layout of a known method, and is
decoded to the same message; a created message is decoded to its ids and its
normalized fields modulo their width. -/
theorem toBytes_fromBytes_inverse :
    (∀ data : List UInt8, 5 ≤ data.length →
      ∃ message encoded, fromBytes data = .ok message ∧ message.toBytes = .ok encoded ∧
        fromBytes encoded = .ok message ∧
        (methodSpec message.methodId = none → encoded = data) ∧
        ∀ spec, methodSpec message.methodId = some spec →
          (5 + spec.size ≤ data.length → encoded = data) ∧
          (data.length < 5 + spec.size →
            encoded = data ++ List.replicate (5 + spec.size - data.length) 0)) ∧
    (∀ (method : TrpcMethod) (service : Int) (fields : OrderedDict String Int)
        (message : TrpcPacket), 0 ≤ service → service ≤ 255 →
      create service method.value fields = .ok message →
      ∃ normalized data decoded,
        (methodSpecs method).normalizeFields fields = .ok normalized ∧
        message.toBytes = .ok data ∧ fromBytes data = .ok decoded ∧
        decoded.serviceId = service ∧ decoded.methodId = method.value ∧
        decoded.extra = [] ∧
        ∀ item ∈ (methodSpecs method).fields, decoded.body.get? item.name =
          some ((normalized.get? item.name).getD 0 % 256 ^ item.size)) := by
  constructor
  · intro data h
    obtain ⟨message, hdecode, hid, hencode⟩ := toBytes_fromBytes h
    refine ⟨message, _, hdecode, hencode, ?_, ?_, ?_⟩
    · cases hspec : methodSpec message.methodId with
      | none => exact hdecode
      | some spec =>
          simp only
          rw [fromBytes_ljust h (hid ▸ hspec), hdecode]
    · intro hspec
      simp only [hspec]
    · intro spec hspec
      simp only [hspec]
      exact ⟨fun hlong => ljust_of_le hlong, fun _ => rfl⟩
  · intro method service fields message hlow hhigh hcreate
    exact fromBytes_toBytes_create ⟨hlow, hhigh⟩ hcreate

/-- A setpoint group response without its last byte, and a setpoint group update
written with an alias, an oversized group and a negative flag. -/
theorem toBytes_fromBytes_inverse_setpointGroup :
    (∃ message, fromBytes [4, 0x3D, 1, 0, 0, 7] = .ok message ∧
      message.toBytes = .ok [4, 0x3D, 1, 0, 0, 7, 0] ∧
      fromBytes [4, 0x3D, 1, 0, 0, 7, 0] = .ok message) ∧
    ∃ message data decoded,
      create 0 TrpcMethod.setpointGroupEnable.value
        (.ofList [("Enable", -1), ("IDnumber", 260)]) = .ok message ∧
      message.toBytes = .ok data ∧ fromBytes data = .ok decoded ∧
      decoded.serviceId = 0 ∧ decoded.extra = [] ∧
      decoded.body.get? "group_id" = some 4 ∧ decoded.body.get? "enable" = some 255 := by
  constructor
  · obtain ⟨message, encoded, hdecode, hencode, hagain, -, hknown⟩ :=
      toBytes_fromBytes_inverse.1 [4, 0x3D, 1, 0, 0, 7] (by decide)
    have hid : message.methodId = TrpcMethod.setpointGroupEnable.value := by
      rw [show fromBytes [4, 0x3D, 1, 0, 0, 7] = .ok {
        serviceId := 4
        methodId := TrpcMethod.setpointGroupEnable.value
        body := .ofList [("group_id", 7), ("enable", 0)] } by decide] at hdecode
      injection hdecode with hdecode
      rw [← hdecode]
    have hpadded : encoded = [4, 0x3D, 1, 0, 0, 7, 0] :=
      (hknown (methodSpecs .setpointGroupEnable) (by rw [hid]; rfl)).2 (by decide)
    subst hpadded
    exact ⟨message, hdecode, hencode, hagain⟩
  · obtain ⟨normalized, data, decoded, hnormalized, hencode, hdecode, hservice, -, hextra,
      hfields⟩ := toBytes_fromBytes_inverse.2 .setpointGroupEnable 0
        (.ofList [("Enable", -1), ("IDnumber", 260)])
        { serviceId := 0
          methodId := TrpcMethod.setpointGroupEnable.value
          body := .ofList [("enable", -1), ("group_id", 260)] }
        (by decide) (by decide) (by decide)
    have hbody : normalized = .ofList [("enable", -1), ("group_id", 260)] := by
      rw [show (methodSpecs .setpointGroupEnable).normalizeFields
        (.ofList [("Enable", -1), ("IDnumber", 260)]) =
          .ok (.ofList [("enable", -1), ("group_id", 260)]) by decide] at hnormalized
      injection hnormalized with hnormalized
      exact hnormalized.symm
    subst hbody
    refine ⟨_, data, decoded, by decide, hencode, hdecode, hservice, hextra, ?_, ?_⟩
    · exact hfields ⟨"group_id", 1, ["IDnumber", "groupid"]⟩ (by decide)
    · exact hfields ⟨"enable", 1, ["Enable"]⟩ (by decide)

end TrpcPacket

end Tekmar482
