import Tekmar482.Packet

/-!
# TPCK binary framing

A frame is a start byte, the stuffed payload length, packet type, payload and
checksum, and an end byte. The parser takes one byte at a time; it keeps its
partial frame between calls, so a stream may be cut anywhere.
-/

namespace Tekmar482

def SOF : UInt8 := 0xCA
def EOF : UInt8 := 0x35
def ESC : UInt8 := 0x2F

namespace Tpck

/-- The bytes that are escaped inside a frame. -/
def stuffedBytes : List UInt8 := [SOF, EOF, ESC]

/-- The 8-bit checksum of a packet type and payload. -/
def checksum (packetType : UInt8) (data : List UInt8) : UInt8 :=
  UInt8.ofNat (packetType.toNat + data.length + (data.map UInt8.toNat).sum)

/-- One value as it stands inside a frame, with its escape when it needs one. -/
def stuff (value : UInt8) : List UInt8 :=
  if value ∈ stuffedBytes then [ESC, value] else [value]

/-- The values between the start byte and the end byte of a packet's frame. -/
def frameValues (packet : Packet) : List UInt8 :=
  UInt8.ofNat packet.data.length :: packet.type :: packet.data ++
    [checksum packet.type packet.data]

/-- Serialize a packet into a TPCK frame. -/
def serialize (packet : Packet) : Except PyException (List UInt8) :=
  if packet.data.length > 0xFF then
    .error (.protocolError "TPCK payloads are limited to 255 bytes")
  else
    .ok (SOF :: (frameValues packet).flatMap stuff ++ [EOF])

/-- The frames of several packets, one after the other. -/
def serializeAll (packets : List Packet) : Except PyException (List UInt8) :=
  match packets with
  | [] => .ok []
  | packet :: rest => do
      let frame ← serialize packet
      let frames ← serializeAll rest
      return frame ++ frames

theorem serialize_eq_ok {packet : Packet} (h : packet.data.length ≤ 255) :
    serialize packet = .ok (SOF :: (frameValues packet).flatMap stuff ++ [EOF]) := by
  simp only [serialize]
  rw [if_neg (by omega)]

theorem serializeAll_cons {packet : Packet} {rest : List Packet} {frames : List UInt8}
    (h : packet.data.length ≤ 255) (hrest : serializeAll rest = .ok frames) :
    serializeAll (packet :: rest) =
      .ok ((SOF :: (frameValues packet).flatMap stuff ++ [EOF]) ++ frames) := by
  simp only [serializeAll, serialize_eq_ok h, hrest]
  rfl

/-- Packets of at most 255 payload bytes serialize without an error. -/
theorem exists_serializeAll (packets : List Packet)
    (h : ∀ p ∈ packets, p.data.length ≤ 255) :
    ∃ stream, serializeAll packets = .ok stream := by
  induction packets with
  | nil => exact ⟨[], rfl⟩
  | cons p rest ih =>
      obtain ⟨frames, hframes⟩ := ih fun q hq => h q (List.mem_cons_of_mem _ hq)
      exact ⟨_, serializeAll_cons (h p List.mem_cons_self) hframes⟩

end Tpck

/-- The parser states of the source. -/
inductive ParserState where
  | waitSof
  | length
  | type
  | data
  | checksum
  | eof
  deriving DecidableEq, Repr

/-- Incremental TPCK stream parser. -/
structure TpckParser where
  strictChecksum : Bool := false
  state : ParserState := .waitSof
  escaped : Bool := false
  length : UInt8 := 0
  type : UInt8 := 0
  data : List UInt8 := []
  checksum : UInt8 := 0
  deriving DecidableEq, Repr

namespace TpckParser

/-- Wait for the next start of frame. -/
def reset (self : TpckParser) : TpckParser :=
  { self with
    state := .waitSof, escaped := false, length := 0, type := 0, data := [], checksum := 0 }

def startFrame (self : TpckParser) : TpckParser :=
  { self with
    state := .length, escaped := false, length := 0, type := 0, data := [], checksum := 0 }

/-- A byte as two upper-case hexadecimal digits. -/
def hex2 (value : UInt8) : String :=
  let digit (n : Nat) : Char := if n < 10 then Char.ofNat (48 + n) else Char.ofNat (55 + n)
  String.ofList [digit (value.toNat / 16), digit (value.toNat % 16)]

/-- The packet of a completed frame; a bad checksum raises only in strict mode. -/
def finishFrame (self : TpckParser) : Except PyException (Option Packet) :=
  let expected := Tpck.checksum self.type self.data
  if expected ≠ self.checksum then
    if self.strictChecksum then
      .error (.protocolError
        ("invalid TPCK checksum: expected 0x" ++ hex2 expected ++
          ", got 0x" ++ hex2 self.checksum))
    else
      .ok none
  else
    .ok (some { type := self.type, data := self.data })

/-- The part of `feed` after escapes and start bytes: one literal frame value. -/
def accept (self : TpckParser) (value : UInt8) :
    TpckParser × Except PyException (Option Packet) :=
  match self.state with
  | .waitSof => (self, .ok none)
  | .length => ({ self with length := value, state := .type }, .ok none)
  | .type =>
      ({ self with
          type := value, data := [],
          state := if self.length ≠ 0 then .data else .checksum }, .ok none)
  | .data =>
      ({ self with
          data := self.data ++ [value],
          state := if (self.data ++ [value]).length ≥ self.length.toNat
            then .checksum else .data }, .ok none)
  | .checksum => ({ self with checksum := value, state := .eof }, .ok none)
  | .eof =>
      if value = EOF then
        -- A strict checksum error leaves before the reset.
        match self.finishFrame with
        | .ok packet => (self.reset, .ok packet)
        | .error err => (self, .error err)
      else
        (self, .ok none)

/-- Feed one byte into the parser. The mask of the source is the byte type. -/
def feed (self : TpckParser) (value : UInt8) :
    TpckParser × Except PyException (Option Packet) :=
  if self.state = .waitSof then
    if value = SOF then (self.startFrame, .ok none) else (self, .ok none)
  else if self.escaped then
    { self with escaped := false }.accept value
  else if value = ESC then
    ({ self with escaped := true }, .ok none)
  else if value = SOF then
    (self.startFrame, .ok none)
  else
    self.accept value

/-- Feed bytes into the parser and return all completed packets. -/
def feedMany (self : TpckParser) :
    List UInt8 → TpckParser × Except PyException (List Packet)
  | [] => (self, .ok [])
  | value :: rest =>
      match self.feed value with
      | (parser, .error err) => (parser, .error err)
      | (parser, .ok packet) =>
          match parser.feedMany rest with
          | (parser, .error err) => (parser, .error err)
          | (parser, .ok packets) => (parser, .ok (packet.toList ++ packets))

/-! ## Feeding without an error -/

/-- Feeding the bytes raises nothing, ends in `parser` and returns `packets`. -/
def Feeds (self : TpckParser) (bytes : List UInt8) (parser : TpckParser)
    (packets : List Packet) : Prop :=
  self.feedMany bytes = (parser, .ok packets)

theorem Feeds.nil (self : TpckParser) : Feeds self [] self [] := rfl

theorem Feeds.cons {self mid last : TpckParser} {value : UInt8} {packet : Option Packet}
    {rest : List UInt8} {packets : List Packet}
    (h : self.feed value = (mid, .ok packet)) (hrest : Feeds mid rest last packets) :
    Feeds self (value :: rest) last (packet.toList ++ packets) := by
  simp only [Feeds] at hrest
  simp only [Feeds, feedMany, h, hrest]

theorem Feeds.single {self mid : TpckParser} {value : UInt8} {packet : Option Packet}
    (h : self.feed value = (mid, .ok packet)) : Feeds self [value] mid packet.toList := by
  simpa using Feeds.cons h (Feeds.nil mid)

/-- Two feeds of one stream compose, and their packets are appended. -/
theorem Feeds.append {self mid last : TpckParser} {xs ys : List UInt8}
    {ps qs : List Packet} (hxs : Feeds self xs mid ps) (hys : Feeds mid ys last qs) :
    Feeds self (xs ++ ys) last (ps ++ qs) := by
  induction xs generalizing self ps with
  | nil =>
      simp only [Feeds, feedMany, Prod.mk.injEq, Except.ok.injEq] at hxs
      obtain ⟨rfl, rfl⟩ := hxs
      exact hys
  | cons value rest ih =>
      cases hfeed : self.feed value with
      | mk next result =>
          cases result with
          | error err => simp [Feeds, feedMany, hfeed] at hxs
          | ok packet =>
              cases htail : next.feedMany rest with
              | mk parser tail =>
                  cases tail with
                  | error err => simp [Feeds, feedMany, hfeed, htail] at hxs
                  | ok packets =>
                      simp only [Feeds, feedMany, hfeed, htail, Prod.mk.injEq,
                        Except.ok.injEq] at hxs
                      obtain ⟨rfl, rfl⟩ := hxs
                      rw [List.append_assoc]
                      exact Feeds.cons hfeed (ih htail)

/-- A stream after one that returns nothing. -/
theorem Feeds.append_of_nil {self mid last : TpckParser} {xs ys : List UInt8}
    {qs : List Packet} (hxs : Feeds self xs mid []) (hys : Feeds mid ys last qs) :
    Feeds self (xs ++ ys) last qs :=
  hxs.append hys

/-! ## One literal value, by parser state -/

section Accept

variable {self : TpckParser}

theorem accept_waitSof (h : self.state = .waitSof) (value : UInt8) :
    self.accept value = (self, .ok none) := by
  simp only [accept, h]

theorem accept_length (h : self.state = .length) (value : UInt8) :
    self.accept value = ({ self with length := value, state := .type }, .ok none) := by
  simp only [accept, h]

theorem accept_type (h : self.state = .type) (value : UInt8) :
    self.accept value =
      ({ self with
          type := value, data := [],
          state := if self.length ≠ 0 then .data else .checksum }, .ok none) := by
  simp only [accept, h]

theorem accept_data (h : self.state = .data) (value : UInt8) :
    self.accept value =
      ({ self with
          data := self.data ++ [value],
          state := if (self.data ++ [value]).length ≥ self.length.toNat
            then .checksum else .data }, .ok none) := by
  simp only [accept, h]

theorem accept_checksum (h : self.state = .checksum) (value : UInt8) :
    self.accept value = ({ self with checksum := value, state := .eof }, .ok none) := by
  simp only [accept, h]

/-- The end byte completes the frame and resets the parser. -/
theorem accept_eof {packet : Option Packet} (h : self.state = .eof)
    (hfinish : self.finishFrame = .ok packet) :
    self.accept EOF = (self.reset, .ok packet) := by
  simp only [accept, h, hfinish, if_pos]

/-- After the checksum every value before the end byte is skipped. -/
theorem accept_skip {value : UInt8} (h : self.state = .eof) (hvalue : value ≠ EOF) :
    self.accept value = (self, .ok none) := by
  simp only [accept, h, if_neg hvalue]

end Accept

/-! ## The lenient parser never raises -/

@[simp] theorem reset_strictChecksum (self : TpckParser) :
    self.reset.strictChecksum = self.strictChecksum := rfl

@[simp] theorem startFrame_strictChecksum (self : TpckParser) :
    self.startFrame.strictChecksum = self.strictChecksum := rfl

theorem finishFrame_lenient {self : TpckParser} (h : self.strictChecksum = false) :
    ∃ packet, self.finishFrame = .ok packet := by
  simp only [finishFrame, h]
  split
  · exact ⟨none, rfl⟩
  · exact ⟨_, rfl⟩

/-- A literal value leaves the lenient parser lenient and outside an escape. -/
theorem accept_lenient (self : TpckParser) (h : self.strictChecksum = false)
    (hesc : self.escaped = false) (value : UInt8) :
    ∃ parser packet, self.accept value = (parser, .ok packet) ∧
      parser.strictChecksum = false ∧ parser.escaped = false := by
  cases hstate : self.state with
  | waitSof => exact ⟨_, _, accept_waitSof hstate value, h, hesc⟩
  | length => exact ⟨_, _, accept_length hstate value, h, hesc⟩
  | type => exact ⟨_, _, accept_type hstate value, h, hesc⟩
  | data => exact ⟨_, _, accept_data hstate value, h, hesc⟩
  | checksum => exact ⟨_, _, accept_checksum hstate value, h, hesc⟩
  | eof =>
      by_cases hvalue : value = EOF
      · obtain ⟨packet, hfinish⟩ := finishFrame_lenient h
        subst hvalue
        exact ⟨_, _, accept_eof hstate hfinish, h, rfl⟩
      · exact ⟨_, _, accept_skip hstate hvalue, h, hesc⟩

theorem feed_lenient {self : TpckParser} (h : self.strictChecksum = false) (value : UInt8) :
    ∃ parser packet, self.feed value = (parser, .ok packet) ∧
      parser.strictChecksum = false := by
  simp only [feed]
  split
  · split
    · exact ⟨_, _, rfl, h⟩
    · exact ⟨_, _, rfl, h⟩
  · split
    · obtain ⟨parser, packet, haccept, hstrict, _⟩ :=
        accept_lenient { self with escaped := false } h rfl value
      exact ⟨parser, packet, haccept, hstrict⟩
    · rename_i hesc
      split
      · exact ⟨_, _, rfl, h⟩
      · split
        · exact ⟨_, _, rfl, h⟩
        · obtain ⟨parser, packet, haccept, hstrict, _⟩ :=
            accept_lenient self h (by simpa using hesc) value
          exact ⟨parser, packet, haccept, hstrict⟩

/-- Whatever the bytes are, the lenient parser takes all of them. -/
theorem exists_feeds (self : TpckParser) (h : self.strictChecksum = false)
    (bytes : List UInt8) :
    ∃ parser packets, Feeds self bytes parser packets ∧ parser.strictChecksum = false := by
  induction bytes generalizing self with
  | nil => exact ⟨self, [], Feeds.nil self, h⟩
  | cons value rest ih =>
      obtain ⟨next, packet, hfeed, hnext⟩ := feed_lenient h value
      obtain ⟨parser, packets, hrest, hstrict⟩ := ih next hnext
      exact ⟨parser, _, Feeds.cons hfeed hrest, hstrict⟩

end TpckParser

end Tekmar482
