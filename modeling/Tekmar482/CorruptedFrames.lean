import Tekmar482.TpckStream

/-!
# Frames with one wrong value

The checksum is additive, so a frame with one value of its packet type, payload or
checksum replaced no longer adds up. The replaced value is stuffed like any other: the
parser reads the frame to its end byte, returns nothing and waits for the next frame.
-/

namespace Tekmar482

namespace Tpck

/-- The frame of any values, each stuffed as in `serialize`. -/
def frameOfValues (values : List UInt8) : List UInt8 := SOF :: values.flatMap stuff ++ [EOF]

theorem sum_set (data : List UInt8) {i : Nat} {old : UInt8} (value : UInt8)
    (hold : data[i]? = some old) :
    ((data.set i value).map UInt8.toNat).sum + old.toNat =
      (data.map UInt8.toNat).sum + value.toNat := by
  induction data generalizing i with
  | nil => cases hold
  | cons head rest ih =>
      cases i with
      | zero =>
          simp only [List.getElem?_cons_zero, Option.some.injEq] at hold
          subst hold
          simp only [List.set_cons_zero, List.map_cons, List.sum_cons]
          omega
      | succ j =>
          have hrest := ih hold
          simp only [List.set_cons_succ, List.map_cons, List.sum_cons]
          omega

theorem toNat_checksum (type : UInt8) (data : List UInt8) :
    (checksum type data).toNat =
      (type.toNat + data.length + (data.map UInt8.toNat).sum) % 256 := by
  rw [checksum, UInt8.toNat_ofNat']

/-- Another packet type has another checksum. -/
theorem checksum_type_ne {type value : UInt8} (data : List UInt8) (hne : value ≠ type) :
    checksum value data ≠ checksum type data := by
  intro heq
  have hsum := congrArg UInt8.toNat heq
  rw [toNat_checksum, toNat_checksum] at hsum
  have hvalue := value.toNat_lt
  have htype := type.toNat_lt
  exact hne (UInt8.toNat_inj.mp (by omega))

/-- A payload with one other value has another checksum. -/
theorem checksum_set_ne (type : UInt8) {data : List UInt8} {i : Nat} {old value : UInt8}
    (hold : data[i]? = some old) (hne : value ≠ old) :
    checksum type (data.set i value) ≠ checksum type data := by
  intro heq
  have hsum := congrArg UInt8.toNat heq
  rw [toNat_checksum, toNat_checksum, List.length_set] at hsum
  have hset := sum_set data value hold
  have hvalue := value.toNat_lt
  have hold' := old.toNat_lt
  exact hne (UInt8.toNat_inj.mp (by omega))

/-- A frame with one value after the length replaced still has a packet type, a payload
of the right length and a checksum, and the checksum does not match. -/
theorem frameValues_set {packet : Packet} {i : Nat} {old value : UInt8} (hi : 0 < i)
    (hold : (frameValues packet)[i]? = some old) (hne : value ≠ old) :
    ∃ type data sum, (frameValues packet).set i value =
        UInt8.ofNat data.length :: type :: data ++ [sum] ∧
      data.length = packet.data.length ∧ checksum type data ≠ sum := by
  obtain ⟨type, data⟩ := packet
  obtain ⟨i, rfl⟩ := Nat.exists_eq_add_one_of_ne_zero (Nat.ne_of_gt hi)
  cases i with
  | zero =>
      have htype : type = old := by simpa [frameValues] using hold
      refine ⟨value, data, checksum type data, by simp [frameValues], rfl, ?_⟩
      exact checksum_type_ne data (htype ▸ hne)
  | succ j =>
      simp only [frameValues, List.cons_append, List.getElem?_cons_succ] at hold
      by_cases hj : j < data.length
      · rw [List.getElem?_append_left hj] at hold
        refine ⟨type, data.set j value, checksum type data, ?_, data.length_set, ?_⟩
        · simp [frameValues, List.set_append_left _ _ hj]
        · exact checksum_set_ne type hold hne
      · rw [List.getElem?_append_right (by omega)] at hold
        have hlast : j = data.length ∧ checksum type data = old := by
          cases hsub : j - data.length with
          | zero => exact ⟨by omega, by simpa [hsub] using hold⟩
          | succ k => simp [hsub] at hold
        obtain ⟨rfl, hsum⟩ := hlast
        refine ⟨type, data, value, ?_, rfl, ?_⟩
        · simp [frameValues, List.set_append_right]
        · exact hsum ▸ hne.symm

end Tpck

namespace TpckParser

open Tpck

/-- A lenient parser reads a frame with a wrong checksum to its end and returns nothing. -/
theorem feeds_wrong_checksum {self : TpckParser} (hlenient : self.strictChecksum = false)
    (hesc : self.escaped = false) {type sum : UInt8} {data : List UInt8}
    (hlen : data.length ≤ 255) (hsum : Tpck.checksum type data ≠ sum) :
    Feeds self (frameOfValues (UInt8.ofNat data.length :: type :: data ++ [sum])) (fresh false)
      [] := by
  have hfinish : ({ self.startFrame with type := type, data := data, checksum := sum } :
      TpckParser).finishFrame = .ok none := by
    simp [finishFrame, hlenient, hsum]
  have hframe := feeds_values hesc hlen hfinish
  rwa [hlenient] at hframe

/-- One wrong value is always detected. The frame of a packet with one value of its packet
type, payload or checksum replaced gives no packet, leaves the lenient parser in its
initial state, and the next valid frame is delivered. -/
theorem feedMany_corrupted {self : TpckParser} (hlenient : self.strictChecksum = false)
    (hesc : self.escaped = false) {packet : Packet} (hlen : packet.data.length ≤ 255)
    {i : Nat} {old value : UInt8} (hi : 0 < i) (hold : (frameValues packet)[i]? = some old)
    (hne : value ≠ old) :
    self.feedMany (frameOfValues ((frameValues packet).set i value)) = (fresh false, .ok []) ∧
    ∀ next : Packet, next.data.length ≤ 255 → ∃ frame, serialize next = .ok frame ∧
      self.feedMany (frameOfValues ((frameValues packet).set i value) ++ frame) =
        (fresh false, .ok [next]) := by
  obtain ⟨type, data, sum, hvalues, hlength, hsum⟩ := frameValues_set hi hold hne
  rw [hvalues]
  have hbad := feeds_wrong_checksum hlenient hesc (hlength ▸ hlen) hsum
  refine ⟨hbad, fun next hnext => ⟨_, serialize_eq_ok hnext, ?_⟩⟩
  have hgood : Feeds (fresh false) _ (fresh false) [next] := feeds_frame rfl hnext
  exact hbad.append_of_nil hgood

/-- A payload value that becomes a start byte, read by a parser in the middle of a frame. -/
theorem feedMany_corrupted_startByte :
    ({ state := .data, length := 3 } : TpckParser).feedMany
        (frameOfValues ((frameValues ⟨6, [1, 2]⟩).set 2 SOF)) = (fresh false, .ok []) ∧
    ∀ next : Packet, next.data.length ≤ 255 → ∃ frame, serialize next = .ok frame ∧
      ({ state := .data, length := 3 } : TpckParser).feedMany
          (frameOfValues ((frameValues ⟨6, [1, 2]⟩).set 2 SOF) ++ frame) =
        (fresh false, .ok [next]) :=
  feedMany_corrupted rfl rfl (by decide) (by decide) (show _ = some 1 from rfl) (by decide)

end TpckParser

end Tekmar482
