import Tekmar482.TpckStream
import Mathlib.Data.List.Induction

/-!
# The frame grammar of the parser

What the parser returns at a byte is a matter of the bytes since the last start
byte that began a frame. Without their escapes these are the length, type, payload and
checksum of the packet, any values other than the end byte, and the end byte.
-/

namespace Tekmar482

namespace Tpck

/-! ## The grammar -/

/-- One byte of a stuffed body: an unescaped ESC is dropped, and the byte after it
is taken literally. -/
def unstuffStep (state : List UInt8 × Bool) (value : UInt8) : List UInt8 × Bool :=
  if state.2 then (state.1 ++ [value], false)
  else if value = ESC then (state.1, true)
  else (state.1 ++ [value], false)

/-- The values of a stuffed body, and whether it ends in an unescaped ESC. -/
def unstuff (body : List UInt8) : List UInt8 × Bool := body.foldl unstuffStep ([], false)

/-- The values of the frame of a packet: its header, payload and checksum, other
values than the end byte, and the end byte. -/
def FrameOf (packet : Packet) (values : List UInt8) : Prop :=
  packet.data.length ≤ 255 ∧ ∃ junk, EOF ∉ junk ∧
    values = UInt8.ofNat packet.data.length :: packet.type ::
      (packet.data ++ checksum packet.type packet.data :: junk ++ [EOF])

/-- Whether some values have an end byte after the checksum. -/
def endsFrame (values : List UInt8) : Bool :=
  match values with
  | length :: _ :: rest => decide (EOF ∈ rest.drop (length.toNat + 1))
  | _ => false

/-- The stuffed body of the frame that a stream is inside of, one byte further. -/
def frameStep (frame : Option (List UInt8)) (value : UInt8) : Option (List UInt8) :=
  match frame with
  | none => if value = SOF then some [] else none
  | some body =>
      if value = SOF ∧ (unstuff body).2 = false then some []
      else if endsFrame (unstuff (body ++ [value])).1 then none
      else some (body ++ [value])

/-- The stuffed body of the frame that a stream is inside of, and nothing while idle. -/
def frameAfter (stream : List UInt8) : Option (List UInt8) := stream.foldl frameStep none

/-- Whether a start byte after a stream begins a frame: the stream is idle, or the
byte is unescaped inside a frame. -/
def StartsFrame (stream : List UInt8) : Prop :=
  ∀ body, frameAfter stream = some body → (unstuff body).2 = false

/-- The stream splits at its last start byte that begins a frame. -/
def LastStart (stream before body : List UInt8) : Prop :=
  stream = before ++ SOF :: body ∧ StartsFrame before ∧
    ∀ first second, body = first ++ SOF :: second → ¬ StartsFrame (before ++ SOF :: first)

/-! ## The split of a stream -/

theorem unstuff_concat (body : List UInt8) (value : UInt8) :
    unstuff (body ++ [value]) = unstuffStep (unstuff body) value := by
  rw [unstuff, List.foldl_concat]
  rfl

theorem frameAfter_concat (stream : List UInt8) (value : UInt8) :
    frameAfter (stream ++ [value]) = frameStep (frameAfter stream) value := by
  rw [frameAfter, List.foldl_concat]
  rfl

/-- The end byte is taken literally after any body. -/
theorem unstuff_concat_eof (body : List UInt8) :
    unstuff (body ++ [EOF]) = ((unstuff body).1 ++ [EOF], false) := by
  rw [unstuff_concat, unstuffStep]
  split
  · rfl
  · rw [if_neg (by decide)]

/-- More bytes only add values. -/
theorem unstuff_prefix_concat (body : List UInt8) (value : UInt8) :
    (unstuff body).1 <+: (unstuff (body ++ [value])).1 := by
  rw [unstuff_concat, unstuffStep]
  split
  · exact List.prefix_append _ _
  · split
    · exact List.prefix_rfl
    · exact List.prefix_append _ _

/-- A frame that has ended stays ended. -/
theorem endsFrame_mono {values more : List UInt8} (h : values <+: more)
    (hends : endsFrame values = true) : endsFrame more = true := by
  obtain ⟨rest, rfl⟩ := h
  cases values with
  | nil => cases hends
  | cons length values =>
      cases values with
      | nil => cases hends
      | cons type values =>
          simp only [endsFrame, decide_eq_true_eq] at hends
          simp only [List.cons_append, endsFrame, decide_eq_true_eq]
          rw [List.drop_append]
          exact List.mem_append_left _ hends

/-- A start byte that begins a frame begins it with an empty body. -/
theorem frameAfter_start {stream : List UInt8} (h : StartsFrame stream) :
    frameAfter (stream ++ [SOF]) = some [] := by
  rw [frameAfter_concat]
  cases hframe : frameAfter stream with
  | none => rfl
  | some body =>
      rw [frameStep, if_pos ⟨rfl, h body hframe⟩]

/-- The frame that a stream is inside of began at its last start. -/
theorem lastStart_of_frameAfter {stream body : List UInt8}
    (h : frameAfter stream = some body) : ∃ before, LastStart stream before body := by
  induction stream using List.reverseRecOn generalizing body with
  | nil => cases h
  | append_singleton stream value ih =>
      have hstart (hvalue : value = SOF) (hstarts : StartsFrame stream) (hbody : body = []) :
          ∃ before, LastStart (stream ++ [value]) before body := by
        refine ⟨stream, ?_, hstarts, ?_⟩
        · rw [hvalue, hbody]
        · rintro first second heq
          rw [hbody] at heq
          simp at heq
      rw [frameAfter_concat] at h
      cases hframe : frameAfter stream with
      | none =>
          rw [hframe, frameStep] at h
          split at h
          · rename_i hvalue
            injection h with h
            apply hstart hvalue _ h.symm
            intro body hbody
            rw [hframe] at hbody
            cases hbody
          · cases h
      | some inner =>
          rw [hframe, frameStep] at h
          split at h
          · rename_i hvalue
            injection h with h
            apply hstart hvalue.1 _ h.symm
            intro body hbody
            rw [hframe] at hbody
            injection hbody with hbody
            rw [← hbody]
            exact hvalue.2
          · rename_i hinside
            split at h
            · cases h
            · injection h with h
              obtain ⟨before, hstream, hstarts, hlast⟩ := ih hframe
              refine ⟨before, ?_, hstarts, ?_⟩
              · rw [hstream, ← h, List.append_assoc, List.cons_append]
              · rintro first second heq
                rw [← h] at heq
                cases second using List.reverseRecOn with
                | nil =>
                    obtain ⟨rfl, hvalue⟩ := List.append_inj' heq rfl
                    injection hvalue with hvalue
                    intro hagain
                    rw [← hstream] at hagain
                    exact hinside ⟨hvalue, hagain inner hframe⟩
                | append_singleton second last =>
                    rw [← List.cons_append, ← List.append_assoc] at heq
                    exact hlast first second (List.append_inj' heq rfl).1

/-- A stream is inside the frame of its last start until the frame has ended. -/
theorem frameAfter_of_lastStart {stream before body : List UInt8}
    (h : LastStart stream before body) :
    frameAfter stream = some body ∨ endsFrame (unstuff body).1 = true := by
  obtain ⟨rfl, hstarts, hlast⟩ := h
  induction body using List.reverseRecOn with
  | nil => exact Or.inl (frameAfter_start hstarts)
  | append_singleton body value ih =>
      have hbody := ih fun first second heq =>
        hlast first (second ++ [value]) (by rw [heq, List.append_assoc, List.cons_append])
      rcases hbody with hframe | hends
      · rw [← List.cons_append, ← List.append_assoc, frameAfter_concat, hframe, frameStep]
        rw [if_neg]
        · split
          · rename_i hends
            exact Or.inr hends
          · exact Or.inl rfl
        · rintro ⟨hvalue, hunescaped⟩
          refine hlast body [] (by rw [hvalue]) ?_
          intro inner hinner
          rw [hframe] at hinner
          injection hinner with hinner
          rw [← hinner]
          exact hunescaped
      · exact Or.inr (endsFrame_mono (unstuff_prefix_concat body value) hends)

/-- The values of a packet's frame end it, and no fewer values do. -/
theorem FrameOf.endsFrame {packet : Packet} {values : List UInt8} (h : FrameOf packet values) :
    endsFrame values = true := by
  obtain ⟨hlen, junk, -, rfl⟩ := h
  have hlength : (UInt8.ofNat packet.data.length).toNat = packet.data.length := by
    rw [UInt8.toNat_ofNat']
    omega
  simp only [Tpck.endsFrame, hlength, decide_eq_true_eq]
  rw [List.append_assoc, List.drop_length_add_append]
  simp

theorem FrameOf.not_endsFrame {packet : Packet} {values : List UInt8}
    (h : FrameOf packet (values ++ [EOF])) : Tpck.endsFrame values = false := by
  obtain ⟨hlen, junk, hjunk, heq⟩ := h
  have hlength : (UInt8.ofNat packet.data.length).toNat = packet.data.length := by
    rw [UInt8.toNat_ofNat']
    omega
  have hvalues : values = UInt8.ofNat packet.data.length :: packet.type ::
      (packet.data ++ checksum packet.type packet.data :: junk) := by
    apply @List.append_cancel_right _ _ [EOF]
    simpa using heq
  rw [hvalues]
  simp only [Tpck.endsFrame, hlength, decide_eq_false_iff_not]
  rw [List.drop_length_add_append]
  exact hjunk

end Tpck

namespace TpckParser

open Tpck

/-! ## What the parser holds of a frame -/

/-- The parser inside a frame holds the values read so far. -/
inductive Holds (parser : TpckParser) : List UInt8 → Prop
  | length (hstate : parser.state = .length) : Holds parser []
  | type (hstate : parser.state = .type) : Holds parser [parser.length]
  | data (hstate : parser.state = .data) (hshort : parser.data.length < parser.length.toNat) :
      Holds parser (parser.length :: parser.type :: parser.data)
  | checksum (hstate : parser.state = .checksum)
      (hfull : parser.data.length = parser.length.toNat) :
      Holds parser (parser.length :: parser.type :: parser.data)
  | eof (hstate : parser.state = .eof) (hfull : parser.data.length = parser.length.toNat)
      (junk : List UInt8) (hjunk : EOF ∉ junk) :
      Holds parser (parser.length :: parser.type :: (parser.data ++ parser.checksum :: junk))

variable {parser : TpckParser} {values : List UInt8}

/-- The escape flag is no part of what the parser holds. -/
theorem Holds.withEscaped (h : parser.Holds values) (escaped : Bool) :
    { parser with escaped := escaped }.Holds values := by
  cases h with
  | length hstate => exact .length hstate
  | type hstate => exact .type hstate
  | data hstate hshort => exact .data hstate hshort
  | checksum hstate hfull => exact .checksum hstate hfull
  | eof hstate hfull junk hjunk =>
      exact @Holds.eof { parser with escaped := escaped } hstate hfull junk hjunk

theorem Holds.state_ne (h : parser.Holds values) : parser.state ≠ .waitSof := by
  cases h with
  | length hstate => rw [hstate]; decide
  | type hstate => rw [hstate]; decide
  | data hstate _ => rw [hstate]; decide
  | checksum hstate _ => rw [hstate]; decide
  | eof hstate _ _ _ => rw [hstate]; decide

/-- The held values do not end the frame. -/
theorem Holds.not_endsFrame (h : parser.Holds values) : endsFrame values = false := by
  cases h with
  | length _ => rfl
  | type _ => rfl
  | data _ hshort =>
      simp only [endsFrame, decide_eq_false_iff_not]
      rw [List.drop_eq_nil_of_le (by omega)]
      exact List.not_mem_nil
  | checksum _ hfull =>
      simp only [endsFrame, decide_eq_false_iff_not]
      rw [List.drop_eq_nil_of_le (by omega)]
      exact List.not_mem_nil
  | eof _ hfull junk hjunk =>
      simp only [endsFrame, decide_eq_false_iff_not, ← hfull]
      rw [List.drop_length_add_append]
      exact hjunk

/-- One more value ends the frame when it is the end byte after the checksum. -/
theorem Holds.endsFrame_concat (h : parser.Holds values) (value : UInt8) :
    endsFrame (values ++ [value]) = true ↔ parser.state = .eof ∧ value = EOF := by
  cases h with
  | length hstate => simp [endsFrame, hstate]
  | type hstate => simp [endsFrame, hstate]
  | data hstate hshort =>
      have hnil : (parser.data ++ [value]).drop (parser.length.toNat + 1) = [] := by
        apply List.drop_eq_nil_of_le
        rw [List.length_append, List.length_singleton]
        omega
      simp [endsFrame, hstate, hnil]
  | checksum hstate hfull =>
      have hnil : (parser.data ++ [value]).drop (parser.length.toNat + 1) = [] := by
        apply List.drop_eq_nil_of_le
        rw [List.length_append, List.length_singleton]
        omega
      simp [endsFrame, hstate, hnil]
  | eof hstate hfull junk hjunk =>
      have hdrop : (parser.data ++ parser.checksum :: junk ++ [value]).drop
          (parser.length.toNat + 1) = junk ++ [value] := by
        rw [← hfull, List.append_assoc, List.drop_length_add_append]
        rfl
      simp only [List.cons_append, endsFrame, hdrop, decide_eq_true_eq, List.mem_append,
        List.mem_singleton, hjunk, false_or, hstate, true_and]
      exact eq_comm

/-- A value that does not end the frame is held with the others. -/
theorem Holds.accept (h : parser.Holds values) {value : UInt8}
    (hvalue : endsFrame (values ++ [value]) = false) :
    ∃ next : TpckParser, parser.accept value = (next, .ok none) ∧
      next.Holds (values ++ [value]) ∧ next.strictChecksum = parser.strictChecksum ∧
      next.escaped = parser.escaped := by
  have hend := h.endsFrame_concat value
  rw [hvalue] at hend
  cases h with
  | length hstate =>
      refine ⟨_, accept_length hstate value, ?_, rfl, rfl⟩
      exact @Holds.type { parser with length := value, state := .type } rfl
  | type hstate =>
      refine ⟨_, accept_type hstate value, ?_, rfl, rfl⟩
      by_cases hzero : parser.length = 0
      · simp only [ne_eq, hzero, not_true_eq_false, if_false]
        exact @Holds.checksum { parser with
          type := value, data := [], length := 0, state := .checksum } rfl rfl
      · simp only [ne_eq, hzero, not_false_eq_true, if_true]
        apply @Holds.data { parser with type := value, data := [], state := .data } rfl
        have hpositive : parser.length.toNat ≠ 0 := fun hnat => hzero (UInt8.toNat_inj.mp hnat)
        simp only [List.length_nil]
        omega
  | data hstate hshort =>
      refine ⟨_, accept_data hstate value, ?_, rfl, rfl⟩
      have hlength : (parser.data ++ [value]).length = parser.data.length + 1 := by simp
      by_cases hfull : (parser.data ++ [value]).length ≥ parser.length.toNat
      · simp only [if_pos hfull]
        apply @Holds.checksum { parser with data := parser.data ++ [value], state := .checksum } rfl
        simp only
        omega
      · simp only [if_neg hfull]
        apply @Holds.data { parser with data := parser.data ++ [value], state := .data } rfl
        simp only
        omega
  | checksum hstate hfull =>
      refine ⟨_, accept_checksum hstate value, ?_, rfl, rfl⟩
      exact @Holds.eof { parser with checksum := value, state := .eof } rfl hfull []
        List.not_mem_nil
  | eof hstate hfull junk hjunk =>
      have hskip : value ≠ EOF := fun heq => by
        have hended := hend.mpr ⟨hstate, heq⟩
        cases hended
      refine ⟨_, accept_skip hstate hskip, ?_, rfl, rfl⟩
      have hmore : EOF ∉ junk ++ [value] := by
        rw [List.mem_append, List.mem_singleton]
        rintro (hmem | heq)
        · exact hjunk hmem
        · exact hskip heq.symm
      have hnext := Holds.eof hstate hfull (junk ++ [value]) hmore
      simpa using hnext

/-- The values before the end byte fix the packet of the frame. -/
theorem frameOf_iff {length type sum : UInt8} {data junk : List UInt8} {packet : Packet}
    (hfull : data.length = length.toNat) (hjunk : EOF ∉ junk) :
    FrameOf packet (length :: type :: (data ++ sum :: junk ++ [EOF])) ↔
      packet = ⟨type, data⟩ ∧ Tpck.checksum type data = sum := by
  have hbyte : length.toNat < 256 := length.toNat_lt
  constructor
  · rintro ⟨hlen, other, -, heq⟩
    obtain ⟨hlength, htype, hrest⟩ : length = UInt8.ofNat packet.data.length ∧
        type = packet.type ∧ data ++ sum :: junk ++ [EOF] =
          packet.data ++ Tpck.checksum packet.type packet.data :: other ++ [EOF] := by
      simpa using heq
    have hsame : data.length = packet.data.length := by
      rw [hfull, hlength, UInt8.toNat_ofNat']
      omega
    rw [List.append_assoc, List.append_assoc] at hrest
    obtain ⟨hdata, htail⟩ := List.append_inj hrest hsame
    have hsum : sum = Tpck.checksum packet.type packet.data := by
      simpa using (List.cons.inj htail).1
    rw [hsum, htype, hdata]
    exact ⟨rfl, rfl⟩
  · rintro ⟨rfl, rfl⟩
    refine ⟨by simp only; omega, junk, hjunk, ?_⟩
    simp only [hfull, UInt8.ofNat_toNat]

/-- The end byte after the checksum returns the packet of the frame, if there is one. -/
theorem Holds.accept_end (h : parser.Holds values) (hstrict : parser.strictChecksum = false)
    {value : UInt8} (hvalue : endsFrame (values ++ [value]) = true) :
    ∃ packet, parser.accept value = (parser.reset, .ok packet) ∧
      ∀ p, packet = some p ↔ value = EOF ∧ FrameOf p (values ++ [value]) := by
  obtain ⟨heof, rfl⟩ := (h.endsFrame_concat value).mp hvalue
  obtain ⟨packet, hfinish⟩ := finishFrame_lenient hstrict
  refine ⟨packet, accept_eof heof hfinish, fun p => ?_⟩
  rw [eq_self, true_and]
  cases h with
  | length hstate => rw [heof] at hstate; cases hstate
  | type hstate => rw [heof] at hstate; cases hstate
  | data hstate _ => rw [heof] at hstate; cases hstate
  | checksum hstate _ => rw [heof] at hstate; cases hstate
  | eof hstate hfull junk hjunk =>
      have hiff := @frameOf_iff parser.length parser.type parser.checksum parser.data junk p
        hfull hjunk
      rw [List.cons_append, List.cons_append, hiff]
      simp only [finishFrame, hstrict] at hfinish
      split at hfinish
      · rename_i hbad
        injection hfinish with hfinish
        rw [← hfinish]
        constructor
        · intro hnone
          cases hnone
        · rintro ⟨-, hsum⟩
          exact absurd hsum hbad
      · rename_i hgood
        injection hfinish with hfinish
        rw [← hfinish, Option.some.injEq]
        constructor
        · intro hp
          exact ⟨hp.symm, not_not.mp hgood⟩
        · rintro ⟨hp, -⟩
          exact hp.symm

/-! ## The parser and the stream -/

/-- The parser is idle with the stream, or holds the values of the stream's frame. -/
structure Tracks (parser : TpckParser) (frame : Option (List UInt8)) : Prop where
  lenient : parser.strictChecksum = false
  idle : frame = none → parser.state = .waitSof
  inside : ∀ body, frame = some body →
    parser.Holds (unstuff body).1 ∧ parser.escaped = (unstuff body).2

theorem Tracks.of_idle (hstrict : parser.strictChecksum = false)
    (hstate : parser.state = .waitSof) : parser.Tracks none where
  lenient := hstrict
  idle _ := hstate
  inside _ h := by cases h

theorem Tracks.of_inside {body : List UInt8} (hstrict : parser.strictChecksum = false)
    (hholds : parser.Holds (unstuff body).1) (hescaped : parser.escaped = (unstuff body).2) :
    parser.Tracks (some body) where
  lenient := hstrict
  idle h := by cases h
  inside other h := by
    injection h with h
    rw [← h]
    exact ⟨hholds, hescaped⟩

theorem Tracks.startFrame (hstrict : parser.strictChecksum = false) :
    parser.startFrame.Tracks (some []) :=
  .of_inside hstrict (.length rfl) rfl

/-- A literal value of a frame: the parser follows, and returns the packet of the
frame that it ends. -/
theorem tracks_accept {body : List UInt8} {value : UInt8}
    (hstrict : parser.strictChecksum = false) (hholds : parser.Holds (unstuff body).1)
    (hescaped : parser.escaped = false)
    (hvalue : unstuff (body ++ [value]) = ((unstuff body).1 ++ [value], false)) :
    ∃ next packet, parser.accept value = (next, .ok packet) ∧
      next.Tracks (if endsFrame (unstuff (body ++ [value])).1 then none
        else some (body ++ [value])) ∧
      ∀ p, packet = some p ↔ value = EOF ∧ FrameOf p (unstuff (body ++ [value])).1 := by
  rw [hvalue]
  cases hends : endsFrame ((unstuff body).1 ++ [value]) with
  | true =>
      obtain ⟨packet, haccept, hpacket⟩ := hholds.accept_end hstrict hends
      exact ⟨parser.reset, packet, haccept, .of_idle hstrict rfl, hpacket⟩
  | false =>
      obtain ⟨next, haccept, hnext, hlenient, hflag⟩ := hholds.accept hends
      refine ⟨next, none, haccept, ?_, fun p => ?_⟩
      · apply Tracks.of_inside (hlenient.trans hstrict)
        · rw [hvalue]
          exact hnext
        · rw [hvalue, hflag, hescaped]
      · constructor
        · intro hnone
          cases hnone
        · rintro ⟨-, hframe⟩
          rw [hframe.endsFrame] at hends
          cases hends

/-- A byte outside a frame starts one or is dropped. -/
theorem tracks_outside (hstrict : parser.strictChecksum = false) (hstate : parser.state = .waitSof)
    (value : UInt8) :
    ∃ next, parser.feed value = (next, .ok none) ∧ next.Tracks (frameStep none value) := by
  by_cases hsof : value = SOF
  · refine ⟨parser.startFrame, ?_, ?_⟩
    · simp only [TpckParser.feed, if_pos hstate, if_pos hsof]
    · rw [frameStep, if_pos hsof]
      exact .startFrame hstrict
  · refine ⟨parser, ?_, ?_⟩
    · simp only [TpckParser.feed, if_pos hstate, if_neg hsof]
    · rw [frameStep, if_neg hsof]
      exact .of_idle hstrict hstate

/-- The byte after an escape byte is taken literally. -/
theorem tracks_escaped {body : List UInt8} (h : parser.Tracks (some body))
    (hflag : (unstuff body).2 = true) (value : UInt8) :
    ∃ next packet, parser.feed value = (next, .ok packet) ∧
      next.Tracks (frameStep (some body) value) ∧
      ∀ p, packet = some p ↔ value = EOF ∧ FrameOf p (unstuff (body ++ [value])).1 := by
  obtain ⟨hholds, hescaped⟩ := h.inside body rfl
  rw [hflag] at hescaped
  have hvalue : unstuff (body ++ [value]) = ((unstuff body).1 ++ [value], false) := by
    rw [unstuff_concat, unstuffStep, if_pos hflag]
  obtain ⟨next, packet, haccept, hnext, hpacket⟩ :=
    @tracks_accept { parser with escaped := false } body value h.lenient
      (hholds.withEscaped false) rfl hvalue
  refine ⟨next, packet, ?_, ?_, hpacket⟩
  · simp only [TpckParser.feed, if_neg hholds.state_ne, if_pos hescaped, haccept]
  · rw [frameStep, if_neg (by simp [hflag])]
    exact hnext

/-- An unescaped escape byte is dropped, and an unescaped start byte restarts the
frame. -/
theorem tracks_special {body : List UInt8} (h : parser.Tracks (some body))
    (hflag : (unstuff body).2 = false) {value : UInt8} (hspecial : value = ESC ∨ value = SOF) :
    ∃ next, parser.feed value = (next, .ok none) ∧
      next.Tracks (frameStep (some body) value) := by
  obtain ⟨hholds, hescaped⟩ := h.inside body rfl
  have hopen : ¬ parser.escaped = true := by simp [hescaped, hflag]
  by_cases hesc : value = ESC
  · have hvalue : unstuff (body ++ [value]) = ((unstuff body).1, true) := by
      rw [unstuff_concat, unstuffStep, if_neg (by simp [hflag]), if_pos hesc]
    have hne : value ≠ SOF := by rw [hesc]; decide
    refine ⟨{ parser with escaped := true }, ?_, ?_⟩
    · simp only [TpckParser.feed, if_neg hholds.state_ne, if_neg hopen, if_pos hesc]
    · rw [frameStep, if_neg fun hsof => hne hsof.1, hvalue, hholds.not_endsFrame]
      apply @Tracks.of_inside { parser with escaped := true } (body ++ [value]) h.lenient
      · rw [hvalue]
        exact hholds.withEscaped true
      · rw [hvalue]
  · have hsof := hspecial.resolve_left hesc
    refine ⟨parser.startFrame, ?_, ?_⟩
    · simp only [TpckParser.feed, if_neg hholds.state_ne, if_neg hopen, if_neg hesc, if_pos hsof]
    · rw [frameStep, if_pos ⟨hsof, hflag⟩]
      exact .startFrame h.lenient

/-- Any other byte of a frame is taken literally. -/
theorem tracks_literal {body : List UInt8} (h : parser.Tracks (some body))
    (hflag : (unstuff body).2 = false) {value : UInt8} (hesc : value ≠ ESC) (hsof : value ≠ SOF) :
    ∃ next packet, parser.feed value = (next, .ok packet) ∧
      next.Tracks (frameStep (some body) value) ∧
      ∀ p, packet = some p ↔ value = EOF ∧ FrameOf p (unstuff (body ++ [value])).1 := by
  obtain ⟨hholds, hescaped⟩ := h.inside body rfl
  rw [hflag] at hescaped
  have hopen : ¬ parser.escaped = true := by simp [hescaped]
  have hvalue : unstuff (body ++ [value]) = ((unstuff body).1 ++ [value], false) := by
    rw [unstuff_concat, unstuffStep, if_neg (by simp [hflag]), if_neg hesc]
  obtain ⟨next, packet, haccept, hnext, hpacket⟩ := tracks_accept h.lenient hholds hescaped hvalue
  refine ⟨next, packet, ?_, ?_, hpacket⟩
  · simp only [TpckParser.feed, if_neg hholds.state_ne, if_neg hopen, if_neg hesc, if_neg hsof,
      haccept]
  · rw [frameStep, if_neg fun hboth => hsof hboth.1]
    exact hnext

/-- One byte: the parser follows the stream, and returns a packet when the byte is
the end byte of the packet's frame. -/
theorem Tracks.feed {frame : Option (List UInt8)} (h : parser.Tracks frame) (value : UInt8) :
    ∃ next packet, parser.feed value = (next, .ok packet) ∧
      next.Tracks (frameStep frame value) ∧
      ∀ p, packet = some p ↔ ∃ body, frame = some body ∧ value = EOF ∧
        FrameOf p (unstuff (body ++ [value])).1 := by
  cases frame with
  | none =>
      obtain ⟨next, hfeed, hnext⟩ := tracks_outside h.lenient (h.idle rfl) value
      exact ⟨next, none, hfeed, hnext, by simp⟩
  | some body =>
      suffices ∃ next packet, parser.feed value = (next, .ok packet) ∧
          next.Tracks (frameStep (some body) value) ∧
          ∀ p, packet = some p ↔ value = EOF ∧ FrameOf p (unstuff (body ++ [value])).1 by
        simpa using this
      cases hflag : (unstuff body).2 with
      | true => exact tracks_escaped h hflag value
      | false =>
          by_cases hspecial : value = ESC ∨ value = SOF
          · obtain ⟨next, hfeed, hnext⟩ := tracks_special h hflag hspecial
            refine ⟨next, none, hfeed, hnext, fun p => ⟨nofun, ?_⟩⟩
            rintro ⟨rfl, -⟩
            exact absurd hspecial (by decide)
          · obtain ⟨hesc, hsof⟩ := not_or.mp hspecial
            exact tracks_literal h hflag hesc hsof

/-- The parser after a stream. -/
def parserAfter (stream : List UInt8) : TpckParser :=
  stream.foldl (fun parser value => (parser.feed value).1) {}

theorem tracks_parserAfter (stream : List UInt8) :
    (parserAfter stream).Tracks (frameAfter stream) := by
  induction stream using List.reverseRecOn with
  | nil => exact .of_idle rfl rfl
  | append_singleton stream value ih =>
      obtain ⟨next, packet, hfeed, hnext, -⟩ := ih.feed value
      rw [frameAfter_concat, parserAfter, List.foldl_concat]
      change ((parserAfter stream).feed value).1.Tracks _
      rw [hfeed]
      exact hnext

/-- The parser accepts exactly its frame grammar. A fresh lenient parser returns a
packet at a byte when the byte is an end byte and the bytes since the last start
of a frame are the frame of the packet; and a returned packet has at most 255
payload bytes, serializes, and is parsed back from its serialization. -/
theorem feed_returns_iff (stream : List UInt8) (value : UInt8) (packet : Packet) :
    (((parserAfter stream).feed value).2 = .ok (some packet) ↔
      value = EOF ∧ ∃ before body, LastStart stream before body ∧
        FrameOf packet (unstuff (body ++ [value])).1) ∧
    (((parserAfter stream).feed value).2 = .ok (some packet) →
      packet.data.length ≤ 255 ∧ ∃ frame, Tpck.serialize packet = .ok frame ∧
        ∃ parser, Feeds {} frame parser [packet]) := by
  obtain ⟨next, found, hfeed, -, hpacket⟩ := (tracks_parserAfter stream).feed value
  have hreturned : ((parserAfter stream).feed value).2 = .ok (some packet) ↔
      ∃ body, frameAfter stream = some body ∧ value = EOF ∧
        FrameOf packet (unstuff (body ++ [value])).1 := by
    rw [hfeed, ← hpacket]
    simp
  constructor
  · rw [hreturned]
    constructor
    · rintro ⟨body, hframe, heof, hpacket⟩
      obtain ⟨before, hstart⟩ := lastStart_of_frameAfter hframe
      exact ⟨heof, before, body, hstart, hpacket⟩
    · rintro ⟨rfl, before, body, hstart, hpacket⟩
      rcases frameAfter_of_lastStart hstart with hframe | hends
      · exact ⟨body, hframe, rfl, hpacket⟩
      · rw [unstuff_concat_eof] at hpacket
        rw [hpacket.not_endsFrame] at hends
        cases hends
  · rw [hreturned]
    rintro ⟨body, -, -, hlen, -⟩
    have hserialize := Tpck.serialize_eq_ok hlen
    exact ⟨hlen, _, hserialize, _, feeds_frame rfl hlen⟩

end TpckParser

end Tekmar482
