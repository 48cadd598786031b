import Tekmar482.Tpck

/-!
# Reading frames from a noisy stream

A stuffed value enters the parser as one literal value. From any parser outside
an escape, a serialized frame is therefore read as its packet; a parser inside
an escape may lose one frame, after which it stands outside an escape again.
-/

namespace Tekmar482

namespace TpckParser

open Tpck

/-- A parser that has just been created. -/
def fresh (strictChecksum : Bool) : TpckParser := { strictChecksum := strictChecksum }

theorem reset_eq_fresh (self : TpckParser) : self.reset = fresh self.strictChecksum := rfl

/-- Outside an escape a start byte always starts a frame. -/
theorem feed_sof {self : TpckParser} (h : self.escaped = false) :
    self.feed SOF = (self.startFrame, .ok none) := by
  have hne : SOF ≠ ESC := by decide
  by_cases hstate : self.state = .waitSof
  · simp only [feed, if_pos hstate, if_pos]
  · simp [feed, hstate, h, hne]

/-- A stuffed value is taken as one literal value, escaped or not. -/
theorem feeds_stuff (self : TpckParser) {parser : TpckParser} {value : UInt8} {packet : Option Packet}
    (hstate : self.state ≠ .waitSof) (hesc : self.escaped = false)
    (h : self.accept value = (parser, .ok packet)) :
    Feeds self (stuff value) parser packet.toList := by
  by_cases hmem : value ∈ stuffedBytes
  · have hopen : self.feed ESC = ({ self with escaped := true }, .ok none) := by
      simp [feed, hstate, hesc]
    have hclose : ({ self with escaped := true } : TpckParser).feed value =
        (parser, .ok packet) := by
      have hself : ({ self with escaped := false } : TpckParser) = self := by
        cases self
        simp only at hesc
        rw [hesc]
      simp only [feed, if_neg hstate, if_pos, hself, h]
    simp only [stuff, if_pos hmem]
    exact Feeds.cons hopen (Feeds.single hclose)
  · have hne : value ≠ SOF ∧ value ≠ EOF ∧ value ≠ ESC := by
      simpa [stuffedBytes] using hmem
    have hfeed : self.feed value = (parser, .ok packet) := by
      simp [feed, hstate, hesc, hne.1, hne.2.2, h]
    simp only [stuff, if_neg hmem]
    exact Feeds.single hfeed

/-- The payload loop: the remaining values are appended, and the last of them
moves the parser on to the checksum. -/
theorem feeds_payload (self : TpckParser) {rest : List UInt8}
    (hstate : self.state = .data) (hesc : self.escaped = false) (hne : rest ≠ [])
    (hlen : self.data.length + rest.length = self.length.toNat) :
    Feeds self (rest.flatMap stuff)
      { self with data := self.data ++ rest, state := .checksum } [] := by
  induction rest generalizing self with
  | nil => exact absurd rfl hne
  | cons value rest ih =>
      have haccept := accept_data hstate value
      have hunit := feeds_stuff self (by rw [hstate]; decide) hesc haccept
      simp only [List.flatMap_cons]
      by_cases hrest : rest = []
      · subst hrest
        have hfull : (self.data ++ [value]).length ≥ self.length.toNat := by
          simp only [List.length_append, List.length_cons, List.length_nil] at hlen ⊢
          omega
        rw [if_pos hfull] at hunit
        simpa using hunit
      · have hopen : ¬ (self.data ++ [value]).length ≥ self.length.toNat := by
          have hpos : 0 < rest.length := List.length_pos_iff.mpr hrest
          simp only [List.length_append, List.length_cons, List.length_nil] at hlen ⊢
          omega
        rw [if_neg hopen] at hunit
        have hremaining : (self.data ++ [value]).length + rest.length = self.length.toNat := by
          simp only [List.length_append, List.length_cons, List.length_nil] at hlen ⊢
          omega
        have htail := ih { self with data := self.data ++ [value], state := .data } rfl hesc
          hrest hremaining
        simpa [List.append_assoc] using hunit.append htail

/-- The header of a frame: start byte, length and type. -/
theorem feeds_header {self : TpckParser} (hesc : self.escaped = false)
    (length type : UInt8) :
    Feeds self (SOF :: (stuff length ++ stuff type))
      { self.startFrame with
        length := length, type := type, data := [],
        state := if length ≠ 0 then .data else .checksum } [] := by
  have hlength := feeds_stuff self.startFrame (by simp [startFrame]) rfl
    (accept_length rfl length)
  have htype := feeds_stuff
    { self.startFrame with length := length, state := .type }
    (by simp) rfl (accept_type rfl type)
  exact Feeds.cons (feed_sof hesc) (hlength.append htype)

/-- The end of a frame gives what the completed frame gives, and the parser is back in
its initial state. -/
theorem feeds_trailer (self : TpckParser) {sum : UInt8} {packet : Option Packet}
    (hstate : self.state = .checksum) (hesc : self.escaped = false)
    (hfinish : ({ self with checksum := sum, state := .eof } : TpckParser).finishFrame =
      .ok packet) :
    Feeds self (stuff sum ++ [EOF]) (fresh self.strictChecksum) packet.toList := by
  have hsum := feeds_stuff self (by rw [hstate]; decide) hesc (accept_checksum hstate sum)
  have hend : ({ self with checksum := sum, state := .eof } : TpckParser).feed EOF =
      (fresh self.strictChecksum, .ok packet) := by
    have hne : EOF ≠ ESC ∧ EOF ≠ SOF := by decide
    let filled : TpckParser := { self with checksum := sum, state := .eof }
    have haccept : filled.accept EOF = (filled.reset, .ok packet) := accept_eof rfl hfinish
    simpa [feed, hesc, hne.1, hne.2, reset_eq_fresh, filled] using haccept
  exact hsum.append (Feeds.single hend)

/-- A whole frame read from outside an escape leaves the parser in its initial state,
whatever its type, payload and checksum are. -/
theorem feeds_values {self : TpckParser} (hesc : self.escaped = false) {type sum : UInt8}
    {data : List UInt8} {packet : Option Packet} (hlen : data.length ≤ 255)
    (hfinish : ({ self.startFrame with type := type, data := data, checksum := sum } :
      TpckParser).finishFrame = .ok packet) :
    Feeds self
      (SOF :: (UInt8.ofNat data.length :: type :: data ++ [sum]).flatMap stuff ++ [EOF])
      (fresh self.strictChecksum) packet.toList := by
  have hbyte : (UInt8.ofNat data.length).toNat = data.length := by
    rw [UInt8.toNat_ofNat']
    omega
  have hheader := feeds_header hesc (UInt8.ofNat data.length) type
  have hbytes : SOF :: (UInt8.ofNat data.length :: type :: data ++ [sum]).flatMap stuff ++ [EOF] =
      SOF :: (stuff (UInt8.ofNat data.length) ++ stuff type) ++
        (data.flatMap stuff ++ (stuff sum ++ [EOF])) := by
    simp [List.flatMap_append, List.append_assoc]
  rw [hbytes]
  refine hheader.append_of_nil ?_
  by_cases hdata : data = []
  · subst hdata
    exact feeds_trailer { self.startFrame with
      length := UInt8.ofNat 0, type := type, data := [], state := .checksum } rfl rfl hfinish
  · have hne : UInt8.ofNat data.length ≠ 0 := by
      intro hzero
      have := congrArg UInt8.toNat hzero
      rw [hbyte] at this
      exact hdata (List.length_eq_zero_iff.mp this)
    rw [if_pos hne]
    have hpayload := feeds_payload
      { self.startFrame with
        length := UInt8.ofNat data.length, type := type, data := [], state := .data }
      rfl rfl hdata (by simp [hbyte])
    refine hpayload.append_of_nil ?_
    exact feeds_trailer { self.startFrame with
      length := UInt8.ofNat data.length, type := type, data := [] ++ data,
      state := .checksum } rfl rfl hfinish

/-- A whole frame read from outside an escape returns exactly its packet. -/
theorem feeds_frame {self : TpckParser} (hesc : self.escaped = false) {packet : Packet}
    (hlen : packet.data.length ≤ 255) :
    Feeds self (SOF :: (frameValues packet).flatMap stuff ++ [EOF])
      (fresh self.strictChecksum) [packet] := by
  have hfinish : ({ self.startFrame with
      type := packet.type
      data := packet.data
      checksum := Tpck.checksum packet.type packet.data } : TpckParser).finishFrame =
        .ok (some packet) := by
    simp [finishFrame]
  exact feeds_values hesc hlen hfinish

/-- From outside an escape, consecutive frames are read as their packets. -/
theorem feeds_frames {self : TpckParser} (hesc : self.escaped = false)
    {packets : List Packet} (hlen : ∀ p ∈ packets, p.data.length ≤ 255)
    {stream : List UInt8} (hstream : serializeAll packets = .ok stream)
    (hne : packets ≠ []) :
    Feeds self stream (fresh self.strictChecksum) packets := by
  induction packets generalizing self stream with
  | nil => exact absurd rfl hne
  | cons packet rest ih =>
      obtain ⟨frames, hframes⟩ :=
        exists_serializeAll rest fun q hq => hlen q (List.mem_cons_of_mem _ hq)
      have hpacket := hlen packet List.mem_cons_self
      rw [serializeAll_cons hpacket hframes] at hstream
      injection hstream with hstream
      subst hstream
      have hframe := feeds_frame hesc hpacket
      by_cases hrest : rest = []
      · subst hrest
        injection hframes with hframes
        subst hframes
        simpa using hframe
      · have htail := @ih (fresh self.strictChecksum) rfl
          (fun q hq => hlen q (List.mem_cons_of_mem _ hq)) frames hframes hrest
        exact hframe.append htail

/-! ## Losing at most one frame -/

/-- A lenient parser outside an escape. -/
structure Aligned (parser : TpckParser) : Prop where
  lenient : parser.strictChecksum = false
  unescaped : parser.escaped = false

/-- One stuffed value keeps a parser aligned, also while it waits for a start
byte and reads the escape and the value as two idle bytes. -/
theorem Aligned.stuff {self : TpckParser} (h : Aligned self) (value : UInt8) :
    ∃ parser packets, Feeds self (stuff value) parser packets ∧ Aligned parser := by
  by_cases hstate : self.state = .waitSof
  · have hidle : ∀ v, ∃ parser, self.feed v = (parser, .ok none) ∧ Aligned parser := by
      intro v
      simp only [feed, if_pos hstate]
      split
      · exact ⟨_, rfl, h.lenient, rfl⟩
      · exact ⟨_, rfl, h⟩
    obtain ⟨parser, hvalue, haligned⟩ := hidle value
    have hesc : self.feed ESC = (self, .ok none) := by
      have hne : ESC ≠ SOF := by decide
      simp only [feed, if_pos hstate, if_neg hne]
    simp only [Tpck.stuff]
    split
    · exact ⟨parser, _, Feeds.cons hesc (Feeds.single hvalue), haligned⟩
    · exact ⟨parser, _, Feeds.single hvalue, haligned⟩
  · obtain ⟨parser, packet, haccept, hlenient, hunescaped⟩ :=
      accept_lenient self h.lenient h.unescaped value
    exact ⟨parser, _, feeds_stuff self hstate h.unescaped haccept, hlenient, hunescaped⟩

theorem Aligned.stuffAll {self : TpckParser} (h : Aligned self) (values : List UInt8) :
    ∃ parser packets, Feeds self (values.flatMap Tpck.stuff) parser packets ∧
      Aligned parser := by
  induction values generalizing self with
  | nil => exact ⟨self, [], Feeds.nil self, h⟩
  | cons value rest ih =>
      obtain ⟨mid, ps, hvalue, hmid⟩ := h.stuff value
      obtain ⟨parser, qs, hrest, haligned⟩ := ih hmid
      exact ⟨parser, ps ++ qs, by simpa using hvalue.append hrest, haligned⟩

/-- The end byte of a frame keeps a parser aligned, whatever it was reading. -/
theorem Aligned.eof {self : TpckParser} (h : Aligned self) :
    ∃ parser packets, Feeds self [EOF] parser packets ∧ Aligned parser := by
  have hne : EOF ≠ SOF ∧ EOF ≠ ESC := by decide
  by_cases hstate : self.state = .waitSof
  · have hfeed : self.feed EOF = (self, .ok none) := by
      simp only [feed, if_pos hstate, if_neg hne.1]
    exact ⟨self, _, Feeds.single hfeed, h⟩
  · obtain ⟨parser, packet, haccept, hlenient, hunescaped⟩ :=
      accept_lenient self h.lenient h.unescaped EOF
    have hfeed : self.feed EOF = (parser, .ok packet) := by
      simpa [feed, hstate, h.unescaped, hne.1, hne.2] using haccept
    exact ⟨parser, _, Feeds.single hfeed, hlenient, hunescaped⟩

/-- Inside an escape the start byte is read literally; that ends the escape. -/
theorem feeds_escaped_sof {self : TpckParser} (h : self.strictChecksum = false)
    (hesc : self.escaped = true) :
    ∃ parser packets, Feeds self [SOF] parser packets ∧ Aligned parser := by
  by_cases hstate : self.state = .waitSof
  · have hfeed : self.feed SOF = (self.startFrame, .ok none) := by
      simp only [feed, if_pos hstate, if_pos]
    exact ⟨_, _, Feeds.single hfeed, h, rfl⟩
  · obtain ⟨parser, packet, haccept, hlenient, hunescaped⟩ :=
      accept_lenient { self with escaped := false } h rfl SOF
    have hfeed : self.feed SOF = (parser, .ok packet) := by
      simpa [feed, hstate, hesc] using haccept
    exact ⟨parser, _, Feeds.single hfeed, hlenient, hunescaped⟩

/-- One frame read from inside an escape brings the parser out of it. -/
theorem feeds_disturbed_frame {self : TpckParser} (h : self.strictChecksum = false)
    (hesc : self.escaped = true) (packet : Packet) :
    ∃ parser packets,
      Feeds self (SOF :: (frameValues packet).flatMap stuff ++ [EOF]) parser packets ∧
        Aligned parser := by
  obtain ⟨started, ps, hstart, hstarted⟩ := feeds_escaped_sof h hesc
  obtain ⟨filled, qs, hvalues, hfilled⟩ := hstarted.stuffAll (frameValues packet)
  obtain ⟨parser, rs, hend, haligned⟩ := hfilled.eof
  exact ⟨parser, _, (hstart.append hvalues).append hend, haligned⟩

/-- Round trip and resynchronisation. After any noise, frames that follow are
all read when the noise does not end inside an escape; otherwise at most the
first of them is disturbed. In both cases the parser ends in its initial state. -/
theorem feedMany_noise_serializeAll (noise : List UInt8) (first : Packet)
    (rest : List Packet) (hlen : ∀ p ∈ first :: rest, p.data.length ≤ 255) :
    ∃ stream after front,
      serializeAll (first :: rest) = .ok stream ∧
      (fresh false).feedMany noise = (after, .ok front) ∧
      (after.escaped = false →
        (fresh false).feedMany (noise ++ stream) =
          (fresh false, .ok (front ++ first :: rest))) ∧
      (after.escaped = true → rest ≠ [] →
        ∃ phantom, (fresh false).feedMany (noise ++ stream) =
          (fresh false, .ok (front ++ phantom ++ rest))) := by
  obtain ⟨frames, hframes⟩ :=
    exists_serializeAll rest fun q hq => hlen q (List.mem_cons_of_mem _ hq)
  have hstream := serializeAll_cons (hlen first List.mem_cons_self) hframes
  obtain ⟨after, front, hnoise, hlenient⟩ := exists_feeds (fresh false) rfl noise
  refine ⟨_, after, front, hstream, hnoise, ?_, ?_⟩
  · intro hesc
    have hall := feeds_frames hesc hlen hstream (by simp)
    rw [hlenient] at hall
    exact hnoise.append hall
  · intro hesc hrest
    obtain ⟨parser, phantom, hfirst, haligned⟩ := feeds_disturbed_frame hlenient hesc first
    have htail := feeds_frames haligned.unescaped
      (fun q hq => hlen q (List.mem_cons_of_mem _ hq)) hframes hrest
    rw [haligned.lenient] at htail
    refine ⟨phantom, ?_⟩
    have hall := hnoise.append (hfirst.append htail)
    rwa [← List.append_assoc front phantom rest] at hall

/-- Noise that ends inside an escape, and two packets with framing bytes. -/
theorem feedMany_noise_serializeAll_escape :
    ∃ stream after front,
      serializeAll [⟨6, [SOF, EOF]⟩, ⟨ESC, []⟩] = .ok stream ∧
      (fresh false).feedMany [0x00, SOF, 0x02, ESC] = (after, .ok front) ∧
      (after.escaped = false →
        (fresh false).feedMany ([0x00, SOF, 0x02, ESC] ++ stream) =
          (fresh false, .ok (front ++ [⟨6, [SOF, EOF]⟩, ⟨ESC, []⟩]))) ∧
      (after.escaped = true → [(⟨ESC, []⟩ : Packet)] ≠ [] →
        ∃ phantom, (fresh false).feedMany ([0x00, SOF, 0x02, ESC] ++ stream) =
          (fresh false, .ok (front ++ phantom ++ [⟨ESC, []⟩]))) :=
  feedMany_noise_serializeAll [0x00, SOF, 0x02, ESC] ⟨6, [SOF, EOF]⟩ [⟨ESC, []⟩] (by decide)

end TpckParser

end Tekmar482
