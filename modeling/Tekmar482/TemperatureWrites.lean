import Tekmar482.Setters

/-!
# Temperature writes

A Celsius setter rounds, masks and writes a temperature without a range check. The
written field holds the temperature, up to half an encoding step, exactly when the
rounded number fits the field below the not-available value.
-/

namespace Tekmar482

/-- The Celsius setters, by the map that they write. -/
inductive CelsiusSetter where
  | heat
  | cool
  | slab
  | setpointDevice
  deriving DecidableEq, Repr

/-- A setter writes at once, or replaces the older unsent value. -/
inductive SetterForm where
  | now
  | latest (confirm : Bool)
  deriving DecidableEq, Repr

namespace CelsiusSetter

def map : CelsiusSetter → SetpointMap
  | .heat => .heatSetpoints
  | .cool => .coolSetpoints
  | .slab => .slabSetpoints
  | .setpointDevice => .setpointTargets

/-- The call of a setter. -/
def call (setter : CelsiusSetter) (form : SetterForm) (address setback : Int)
    (hasTimeout : Bool) (celsius : ℚ) : SessionRequest (List Int) :=
  match setter, form with
  | .heat, .now => Client.setHeatSetpointCelsius address setback hasTimeout celsius
  | .heat, .latest confirm =>
      Client.setLatestHeatSetpointCelsius address setback hasTimeout celsius confirm
  | .cool, .now => Client.setCoolSetpointCelsius address setback hasTimeout celsius
  | .cool, .latest confirm =>
      Client.setLatestCoolSetpointCelsius address setback hasTimeout celsius confirm
  | .slab, .now => Client.setSlabSetpointCelsius address setback hasTimeout celsius
  | .slab, .latest confirm =>
      Client.setLatestSlabSetpointCelsius address setback hasTimeout celsius confirm
  | .setpointDevice, .now =>
      Client.setSetpointDeviceCelsius address setback hasTimeout celsius
  | .setpointDevice, .latest confirm =>
      Client.setLatestSetpointDeviceCelsius address setback hasTimeout celsius confirm

/-- The encoding of a setter. -/
def encode : CelsiusSetter → ℚ → Int
  | .setpointDevice => celsiusToDegh
  | .heat | .cool | .slab => celsiusToDege

/-- What a written number stands for; the not-available value is no temperature. -/
def decode : CelsiusSetter → Int → Option ℚ
  | .setpointDevice => deghToCelsius
  | .heat | .cool | .slab => degeToCelsius

/-- Half an encoding step in degrees Celsius. -/
def halfStep : CelsiusSetter → ℚ
  | .setpointDevice => 1 / 36
  | .heat | .cool | .slab => 1 / 4

/-- The temperatures whose rounded number fits the field. -/
def InRange : CelsiusSetter → ℚ → Prop
  | .setpointDevice, celsius => -2341 / 36 ≤ celsius ∧ celsius ≤ 128729 / 36
  | .heat, celsius | .cool, celsius | .slab, celsius => -1 / 4 ≤ celsius ∧ celsius ≤ 509 / 4

/-- The payload of a setter. -/
def payload (setter : CelsiusSetter) (address setback : Int) (celsius : ℚ) : SetbackPayload :=
  ⟨address, setback, setter.map.field, setter.encode celsius⟩

theorem command_call (setter : CelsiusSetter) (form : SetterForm) (address setback : Int)
    (hasTimeout : Bool) (celsius : ℚ) :
    (Call.create (setter.call form address setback hasTimeout celsius)).command =
      TrpcCommand.update setter.map.method (setter.payload address setback celsius).asFields := by
  cases form with
  | now => cases setter <;> rfl
  | latest confirm => cases confirm <;> cases setter <;> rfl

end CelsiusSetter

/-- A masked rounded number is near the number it came from exactly when nothing
was masked; the largest field value stands for not available. -/
theorem masked_round_iff (width : Int) (hwidth : 2 < width) (heven : width % 2 = 0) (q : ℚ) :
    (HalfEven.round q % width ≠ width - 1 ∧
        |((HalfEven.round q % width : Int) : ℚ) - q| ≤ 1 / 2) ↔
      -1 / 2 ≤ q ∧ q ≤ width - 3 / 2 := by
  have hlow : 0 ≤ HalfEven.round q ↔ -1 / 2 ≤ q := by
    have h := HalfEven.le_round_iff (n := 0) rfl q
    rw [h]
    norm_num
  have hhigh : HalfEven.round q ≤ width - 2 ↔ q ≤ width - 3 / 2 := by
    have h := HalfEven.round_le_iff (n := width - 2) (by omega) q
    rw [h]
    push_cast
    constructor <;> intro hle <;> linarith
  rw [← hlow, ← hhigh]
  have hround := HalfEven.round_bounds q
  have hnonneg := Int.emod_nonneg (HalfEven.round q) (show width ≠ 0 by omega)
  have hlt := Int.emod_lt_of_pos (HalfEven.round q) (show 0 < width by omega)
  have hsplit := Int.emod_add_mul_ediv (HalfEven.round q) width
  constructor
  · rintro ⟨hreal, hnear⟩
    obtain ⟨hbelow, habove⟩ := abs_le.mp hnear
    have hupper : HalfEven.round q % width ≤ HalfEven.round q + 1 := by
      have hcast : ((HalfEven.round q % width : Int) : ℚ) ≤ HalfEven.round q + 1 := by linarith
      exact_mod_cast hcast
    have hlower : HalfEven.round q - 1 ≤ HalfEven.round q % width := by
      have hcast : (HalfEven.round q : ℚ) - 1 ≤ ((HalfEven.round q % width : Int) : ℚ) := by
        linarith
      exact_mod_cast hcast
    have hquotient : HalfEven.round q / width = 0 := by
      have hprevious : -1 < HalfEven.round q / width := by
        by_contra hle
        have hmul : width * (HalfEven.round q / width) ≤ width * (-1) :=
          mul_le_mul_of_nonneg_left (by omega) (by omega)
        omega
      have hnext : HalfEven.round q / width < 1 := by
        by_contra hle
        have hmul : width * 1 ≤ width * (HalfEven.round q / width) :=
          mul_le_mul_of_nonneg_left (by omega) (by omega)
        omega
      omega
    rw [hquotient, mul_zero, add_zero] at hsplit
    omega
  · rintro ⟨hzero, hfits⟩
    rw [Int.emod_eq_of_lt hzero (by omega)]
    exact ⟨by omega, HalfEven.abs_round_sub_le q⟩

/-- A value that stands unless a number is the not-available one. -/
theorem exists_real_iff {real : Prop} [Decidable real] {value : ℚ} {P : ℚ → Prop} :
    (∃ shown, (if real then none else some value) = some shown ∧ P shown) ↔ ¬ real ∧ P value := by
  by_cases h : real
  · simp [h]
  · simp [h]

theorem degeToCelsius_encode_iff (celsius : ℚ) :
    (∃ value, degeToCelsius (celsiusToDege celsius % 256) = some value ∧
        |value - celsius| ≤ 1 / 4) ↔ -1 / 4 ≤ celsius ∧ celsius ≤ 509 / 4 := by
  have hscale (raw : ℚ) : |raw / 2 - celsius| ≤ 1 / 4 ↔ |raw - celsius * 2| ≤ 1 / 2 := by
    rw [abs_le, abs_le]
    constructor <;> rintro ⟨hlow, hhigh⟩ <;> constructor <;> linarith
  calc (∃ value, degeToCelsius (celsiusToDege celsius % 256) = some value ∧
          |value - celsius| ≤ 1 / 4)
      ↔ celsiusToDege celsius % 256 ≠ 256 - 1 ∧
          |((celsiusToDege celsius % 256 : Int) : ℚ) - celsius * 2| ≤ 1 / 2 := by
        rw [← hscale]
        exact exists_real_iff
    _ ↔ -1 / 2 ≤ celsius * 2 ∧ celsius * 2 ≤ 256 - 3 / 2 :=
        masked_round_iff 256 (by decide) (by decide) (celsius * 2)
    _ ↔ -1 / 4 ≤ celsius ∧ celsius ≤ 509 / 4 := by
        constructor <;> rintro ⟨hlow, hhigh⟩ <;> constructor <;> linarith

theorem deghToCelsius_encode_iff (celsius : ℚ) :
    (∃ value, deghToCelsius (celsiusToDegh celsius % 65536) = some value ∧
        |value - celsius| ≤ 1 / 36) ↔ -2341 / 36 ≤ celsius ∧ celsius ≤ 128729 / 36 := by
  have hscale (raw : ℚ) : |(raw - 1170) / 18 - celsius| ≤ 1 / 36 ↔
      |raw - (celsius * 18 + 1170)| ≤ 1 / 2 := by
    rw [abs_le, abs_le]
    constructor <;> rintro ⟨hlow, hhigh⟩ <;> constructor <;> linarith
  calc (∃ value, deghToCelsius (celsiusToDegh celsius % 65536) = some value ∧
          |value - celsius| ≤ 1 / 36)
      ↔ celsiusToDegh celsius % 65536 ≠ 65536 - 1 ∧
          |((celsiusToDegh celsius % 65536 : Int) : ℚ) - (celsius * 18 + 1170)| ≤ 1 / 2 := by
        rw [← hscale, deghToCelsius_eq]
        exact exists_real_iff
    _ ↔ -1 / 2 ≤ celsius * 18 + 1170 ∧ celsius * 18 + 1170 ≤ 65536 - 3 / 2 := by
        rw [celsiusToDegh_eq]
        exact masked_round_iff 65536 (by decide) (by decide) (celsius * 18 + 1170)
    _ ↔ -2341 / 36 ≤ celsius ∧ celsius ≤ 128729 / 36 := by
        constructor <;> rintro ⟨hlow, hhigh⟩ <;> constructor <;> linarith

/-- A written number stands for the temperature, up to half an encoding step,
exactly for the temperatures in range. -/
theorem CelsiusSetter.decode_encode_iff (setter : CelsiusSetter) (celsius : ℚ) :
    (∃ value, setter.decode (setter.encode celsius % 256 ^ setter.map.size) = some value ∧
        |value - celsius| ≤ setter.halfStep) ↔ setter.InRange celsius := by
  cases setter with
  | heat => exact degeToCelsius_encode_iff celsius
  | cool => exact degeToCelsius_encode_iff celsius
  | slab => exact degeToCelsius_encode_iff celsius
  | setpointDevice => exact deghToCelsius_encode_iff celsius

/-! ## The written packet -/

/-- A write that was refused, or whose packet holds the temperature: the field that
is decoded from it is a real temperature, at most half an encoding step away. -/
def FaithfulOrRefused (setter : CelsiusSetter) (celsius : ℚ) :
    Except PyException TrpcPacket → Prop
  | .error _ => True
  | .ok message => ∃ packet decoded raw value, message.toPacket = .ok packet ∧
      TrpcPacket.fromPacket packet = .ok decoded ∧
      decoded.get setter.map.field = some raw ∧ setter.decode raw = some value ∧
      |value - celsius| ≤ setter.halfStep

/-- The packet of a setter, and what is decoded from it. -/
theorem CelsiusSetter.packet (setter : CelsiusSetter) (address setback : Int) (celsius : ℚ) :
    ∃ message packet decoded,
      (TrpcCommand.update setter.map.method
        (setter.payload address setback celsius).asFields).toMessage = .ok message ∧
      message.toPacket = .ok packet ∧ TrpcPacket.fromPacket packet = .ok decoded ∧
      decoded.get setter.map.field =
        some (setter.encode celsius % 256 ^ setter.map.size) := by
  let payload := setter.payload address setback celsius
  have hname : payload.name = setter.map.field := rfl
  obtain ⟨message, data, decoded, hmessage, hdata, hdecoded, -, -, hfields⟩ :=
    @TrpcPacket.decode_canonical TrpcService.update.value _ _ (by decide)
      (payload.canonical_asFields hname)
  obtain ⟨-, -, hvalue⟩ := payload.get_of_fields hname hfields
  refine ⟨message, ⟨Packet.TYPE_TRPC, data⟩, decoded, hmessage, ?_, ?_, hvalue⟩
  · rw [TrpcPacket.toPacket, hdata]
    rfl
  · rw [TrpcPacket.fromPacket, if_neg (by simp)]
    exact hdecoded

/-- The start of a write raises when the session is unavailable, and hands the
command's message to the transport otherwise. -/
theorem startWrite_eq {session : Session (List Int)} {call : Call (List Int)}
    {message : TrpcPacket} {packet : Packet} (hmessage : call.command.toMessage = .ok message)
    (hpacket : message.toPacket = .ok packet) :
    session.startWrite call = session.dispatcher.raiseIfUnavailable.map fun _ => message := by
  have hwrite : session.dispatcher.writeMessage message =
      session.dispatcher.raiseIfUnavailable.map fun _ => packet := by
    rw [Dispatcher.writeMessage, hpacket]
    cases session.dispatcher.raiseIfUnavailable <;> rfl
  have hupdate : session.dispatcher.sendUpdate call.command =
      session.dispatcher.raiseIfUnavailable.map fun _ => message := by
    rw [Dispatcher.sendUpdate, hmessage]
    change (session.dispatcher.writeMessage message >>= fun _ => Except.ok message) = _
    rw [hwrite]
    cases session.dispatcher.raiseIfUnavailable <;> rfl
  have hsend : session.dispatcher.sendUnlocked call.command =
      session.dispatcher.raiseIfUnavailable.map fun _ => message := by
    rw [Dispatcher.sendUnlocked, hmessage]
    change (session.dispatcher.raiseIfUnavailable >>= fun _ =>
      session.dispatcher.writeMessage message >>= fun _ => Except.ok message) = _
    rw [hwrite]
    cases session.dispatcher.raiseIfUnavailable <;> rfl
  rw [Session.startWrite]
  split
  · exact hupdate
  · exact hsend

/-- The packet of a setter holds the temperatures in range. -/
theorem faithful_written_iff {setter : CelsiusSetter} {celsius : ℚ}
    {message decoded : TrpcPacket} {packet : Packet} (hpacket : message.toPacket = .ok packet)
    (hdecoded : TrpcPacket.fromPacket packet = .ok decoded)
    (hvalue : decoded.get setter.map.field =
      some (setter.encode celsius % 256 ^ setter.map.size)) :
    FaithfulOrRefused setter celsius (.ok message) ↔ setter.InRange celsius := by
  rw [← setter.decode_encode_iff]
  constructor
  · rintro ⟨packet', decoded', raw, value, hpacket', hdecoded', hraw, hshown, hnear⟩
    rw [hpacket] at hpacket'
    injection hpacket' with hpacket'
    rw [← hpacket', hdecoded] at hdecoded'
    injection hdecoded' with hdecoded'
    rw [← hdecoded', hvalue] at hraw
    injection hraw with hraw
    rw [hraw]
    exact ⟨value, hshown, hnear⟩
  · rintro ⟨value, hshown, hnear⟩
    exact ⟨packet, decoded, _, value, hpacket, hdecoded, hvalue, hshown, hnear⟩

/-- A temperature write is faithful or refused exactly when the session refuses
every write or the temperature fits the field. -/
theorem faithfulOrRefused_iff (setter : CelsiusSetter) (form : SetterForm)
    (address setback : Int) (hasTimeout : Bool) (celsius : ℚ) (session : Session (List Int)) :
    FaithfulOrRefused setter celsius
        (session.startWrite
          (Call.create (setter.call form address setback hasTimeout celsius))) ↔
      session.dispatcher.raiseIfUnavailable ≠ .ok () ∨ setter.InRange celsius := by
  obtain ⟨message, packet, decoded, hmessage, hpacket, hdecoded, hvalue⟩ :=
    setter.packet address setback celsius
  rw [startWrite_eq (by rw [setter.command_call]; exact hmessage) hpacket]
  cases havailable : session.dispatcher.raiseIfUnavailable with
  | error err =>
      constructor
      · intro _
        exact Or.inl nofun
      · intro _
        trivial
  | ok _ =>
      rw [Except.map, faithful_written_iff hpacket hdecoded hvalue]
      constructor
      · exact Or.inr
      · rintro (hclosed | hrange)
        · exact absurd rfl hclosed
        · exact hrange

/-- On an open session a heat setpoint of 128 degrees is written as 0 degrees. -/
theorem not_faithful_heat_128 :
    let session : Session (List Int) := { dispatcher := { closed := false } }
    ¬ FaithfulOrRefused .heat 128
      (session.startWrite (Call.create (Client.setHeatSetpointCelsius 1011 7 true 128))) := by
  intro session
  obtain ⟨message, packet, decoded, hmessage, hpacket, hdecoded, hvalue⟩ :=
    CelsiusSetter.heat.packet 1011 7 128
  rw [startWrite_eq hmessage hpacket]
  rw [show session.dispatcher.raiseIfUnavailable = .ok () from rfl, Except.map,
    faithful_written_iff hpacket hdecoded hvalue]
  norm_num [CelsiusSetter.InRange]

end Tekmar482
