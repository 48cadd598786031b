import Tekmar482.TpckGrammar

/-!
# Strict and lenient parsers side by side

A strict parser raises where a lenient one drops a completed frame, but it raises before
its reset: it stays at the end of the bad frame until a start byte outside an escape.
Until then it raises again at every end byte and reads an escaped start byte as a value.
-/

namespace Tekmar482

namespace TpckParser

/-- A completed frame is dropped at this byte because of its checksum. -/
def Discards (self : TpckParser) (value : UInt8) : Prop :=
  self.state = .eof ∧ value = EOF ∧ Tpck.checksum self.type self.data ≠ self.checksum

instance (self : TpckParser) (value : UInt8) : Decidable (self.Discards value) :=
  inferInstanceAs (Decidable (_ ∧ _ ∧ _))

/-- The strict parser after a stream whose protocol errors were caught. -/
def strictAfter (stream : List UInt8) : TpckParser :=
  stream.foldl (fun parser value => (parser.feed value).1) { strictChecksum := true }

/-- At the next byte both parsers return the same packet, and the strict one raises when
the lenient one discards a frame. -/
def SameReport (stream : List UInt8) (value : UInt8) : Prop :=
  (∀ packet, ((strictAfter stream).feed value).2 = .ok (some packet) ↔
    ((parserAfter stream).feed value).2 = .ok (some packet)) ∧
  ((∃ msg, ((strictAfter stream).feed value).2 = .error (.protocolError msg)) ↔
    (parserAfter stream).Discards value)

/-- Since the end of a discarded frame there was no start byte outside an escape. The
flag tells whether the last byte opened an escape, counted from the end of that frame. -/
inductive Stalled : List UInt8 → Bool → Prop
  | discard {stream : List UInt8} (h : (parserAfter stream).Discards EOF) :
      Stalled (stream ++ [EOF]) false
  | escaped {stream : List UInt8} (value : UInt8) (h : Stalled stream true) :
      Stalled (stream ++ [value]) false
  | escape {stream : List UInt8} (h : Stalled stream false) : Stalled (stream ++ [ESC]) true
  | other {stream : List UInt8} {value : UInt8} (h : Stalled stream false) (hesc : value ≠ ESC)
      (hsof : value ≠ SOF) : Stalled (stream ++ [value]) false

theorem stalled_concat_iff {stream : List UInt8} {value : UInt8} {flag : Bool} :
    Stalled (stream ++ [value]) flag ↔
      (parserAfter stream).Discards value ∧ flag = false ∨
      Stalled stream true ∧ flag = false ∨
      Stalled stream false ∧ value = ESC ∧ flag = true ∨
      Stalled stream false ∧ value ≠ ESC ∧ value ≠ SOF ∧ flag = false := by
  constructor
  · intro h
    generalize hbytes : stream ++ [value] = bytes at h
    cases h with
    | discard hdiscards =>
        obtain ⟨rfl, hvalue⟩ := List.append_inj' hbytes rfl
        obtain rfl := List.singleton_injective hvalue
        exact .inl ⟨hdiscards, rfl⟩
    | escaped other hstalled =>
        obtain ⟨rfl, -⟩ := List.append_inj' hbytes rfl
        exact .inr (.inl ⟨hstalled, rfl⟩)
    | escape hstalled =>
        obtain ⟨rfl, hvalue⟩ := List.append_inj' hbytes rfl
        exact .inr (.inr (.inl ⟨hstalled, List.singleton_injective hvalue, rfl⟩))
    | other hstalled hesc hsof =>
        obtain ⟨rfl, hvalue⟩ := List.append_inj' hbytes rfl
        obtain rfl := List.singleton_injective hvalue
        exact .inr (.inr (.inr ⟨hstalled, hesc, hsof, rfl⟩))
  · rintro (⟨hdiscards, rfl⟩ | ⟨hstalled, rfl⟩ | ⟨hstalled, rfl, rfl⟩ | ⟨hstalled, hesc, hsof, rfl⟩)
    · obtain rfl := hdiscards.2.1
      exact .discard hdiscards
    · exact .escaped value hstalled
    · exact .escape hstalled
    · exact .other hstalled hesc hsof

/-! ## One byte -/

section Feed

variable {self : TpckParser}

/-- Outside the end of a frame, and at any other byte there, nothing is returned. -/
theorem accept_ne_eof (self : TpckParser) {value : UInt8} (h : value ≠ EOF) :
    (self.accept value).2 = .ok none := by
  simp only [accept]
  split
  all_goals first | rfl | rw [if_neg h]

theorem feed_ne_eof (self : TpckParser) {value : UInt8} (h : value ≠ EOF) :
    (self.feed value).2 = .ok none := by
  simp only [feed]
  split
  · split <;> rfl
  · split
    · exact accept_ne_eof _ h
    · split
      · rfl
      · split
        · rfl
        · exact accept_ne_eof _ h

theorem escaped_accept (hstate : self.escaped = false) (value : UInt8) :
    (self.accept value).1.escaped = false := by
  simp only [accept]
  split
  all_goals first | exact hstate | skip
  split
  · split
    · rfl
    · exact hstate
  · exact hstate

/-- Inside a frame the escape flag follows the bytes. -/
theorem escaped_feed (hstate : self.state ≠ .waitSof) (value : UInt8) :
    (self.feed value).1.escaped = (!self.escaped && value == ESC) := by
  have hne : SOF ≠ ESC := by decide
  simp only [feed, if_neg hstate]
  cases hesc : self.escaped with
  | true =>
      rw [if_pos rfl, escaped_accept rfl]
      rfl
  | false =>
      rw [if_neg Bool.false_ne_true]
      by_cases hvalue : value = ESC
      · simp [hvalue]
      · rw [if_neg hvalue]
        by_cases hsof : value = SOF
        · simp [hsof, startFrame, hne]
        · rw [if_neg hsof, escaped_accept hesc]
          simp [hvalue]

/-- An end byte after a checksum completes the frame, escaped or not. -/
theorem feed_eof (hstate : self.state = .eof) :
    self.feed EOF = ({ self with escaped := false } : TpckParser).accept EOF := by
  have hne : EOF ≠ ESC ∧ EOF ≠ SOF := by decide
  cases hesc : self.escaped with
  | true => simp [feed, hstate, hesc]
  | false =>
      have hself : ({ self with escaped := false } : TpckParser) = self := by
        cases self
        simp only at hesc
        rw [hesc]
      rw [hself, feed, if_neg (by simp [hstate]), if_neg (by simp [hesc]), if_neg hne.1,
        if_neg hne.2]

/-- A lenient parser drops the frame and waits for the next one. -/
theorem feed_discards_lenient (hlenient : self.strictChecksum = false) {value : UInt8}
    (h : self.Discards value) : self.feed value = (self.reset, .ok none) := by
  obtain ⟨hstate, rfl, hsum⟩ := h
  rw [feed_eof hstate]
  refine accept_eof hstate ?_
  simp [finishFrame, hlenient, hsum]

/-- A strict parser raises and stays where it is, outside an escape. -/
theorem feed_discards_strict (hstrict : self.strictChecksum = true) {value : UInt8}
    (h : self.Discards value) :
    ∃ msg, self.feed value = ({ self with escaped := false }, .error (.protocolError msg)) := by
  obtain ⟨hstate, rfl, hsum⟩ := h
  rw [feed_eof hstate]
  simp only [accept, hstate, if_true, finishFrame, ne_eq, hsum, not_false_eq_true, hstrict]
  exact ⟨_, rfl⟩

end Feed

/-! ## In step -/

/-- A strict parser in the same place. -/
def strict (self : TpckParser) : TpckParser := { self with strictChecksum := true }

theorem accept_strict {self : TpckParser} {value : UInt8}
    (h : ¬ self.Discards value) :
    self.strict.accept value = ((self.accept value).1.strict, (self.accept value).2) := by
  cases hstate : self.state with
  | eof =>
      by_cases hvalue : value = EOF
      · have hsum : Tpck.checksum self.type self.data = self.checksum := by
          by_contra hsum
          exact h ⟨hstate, hvalue, hsum⟩
        simp [accept, strict, hstate, hvalue, finishFrame, hsum, reset]
      · simp [accept, strict, hstate, hvalue]
  | _ => simp [accept, strict, hstate]

/-- Parsers in the same place stay in the same place and return the same packet, unless
the frame is discarded. -/
theorem feed_strict {self : TpckParser} {value : UInt8} (h : ¬ self.Discards value) :
    self.strict.feed value = ((self.feed value).1.strict, (self.feed value).2) := by
  simp only [feed]
  by_cases hstate : self.state = .waitSof
  · rw [if_pos (show self.strict.state = .waitSof from hstate), if_pos hstate]
    split <;> rfl
  · rw [if_neg (show self.strict.state ≠ .waitSof from hstate), if_neg hstate]
    by_cases hesc : self.escaped = true
    · rw [if_pos (show self.strict.escaped = true from hesc), if_pos hesc]
      have hliteral : ¬ ({ self with escaped := false } : TpckParser).Discards value := h
      exact accept_strict hliteral
    · rw [if_neg (show ¬ self.strict.escaped = true from hesc), if_neg hesc, accept_strict h]
      split
      · rfl
      · split <;> rfl

/-! ## After a bad frame -/

/-- A parser that raised and has not seen a start byte since. -/
structure AtBadFrame (parser : TpckParser) : Prop where
  strictChecksum : parser.strictChecksum = true
  state : parser.state = .eof
  sum : Tpck.checksum parser.type parser.data ≠ parser.checksum

theorem AtBadFrame.withEscaped {self : TpckParser} (h : self.AtBadFrame) (escaped : Bool) :
    ({ self with escaped := escaped } : TpckParser).AtBadFrame :=
  ⟨h.strictChecksum, h.state, h.sum⟩

section AtBadFrame

variable {self : TpckParser} (h : self.AtBadFrame)

include h

theorem AtBadFrame.state_ne : self.state ≠ .waitSof := by
  rw [h.state]
  decide

/-- Every end byte raises again. -/
theorem AtBadFrame.feed_eof :
    ∃ msg, self.feed EOF = ({ self with escaped := false }, .error (.protocolError msg)) :=
  feed_discards_strict h.strictChecksum ⟨h.state, rfl, h.sum⟩

/-- Any other byte is skipped, escape byte or not. -/
theorem AtBadFrame.feed_other {value : UInt8} (hvalue : value ≠ EOF)
    (hsof : value = SOF → self.escaped = true) :
    self.feed value =
      ({ self with escaped := !self.escaped && value == ESC }, .ok none) := by
  have hself (hesc : self.escaped = false) : ({ self with escaped := false } : TpckParser) =
      self := by
    cases self
    simp only at hesc
    rw [hesc]
  rw [feed, if_neg h.state_ne]
  cases hesc : self.escaped with
  | true =>
      rw [if_pos rfl, Bool.not_true, Bool.false_and]
      refine accept_skip ?_ hvalue
      exact h.state
  | false =>
      rw [if_neg Bool.false_ne_true, Bool.not_false, Bool.true_and]
      by_cases hescape : value = ESC
      · rw [if_pos hescape, hescape, beq_self_eq_true]
      · have hnext : value ≠ SOF := fun heq => by simp [hsof heq] at hesc
        rw [if_neg hescape, if_neg hnext, accept_skip h.state hvalue,
          beq_eq_false_iff_ne.mpr hescape, hself hesc]

end AtBadFrame

/-! ## The two parsers after a stream -/

theorem parserAfter_concat (stream : List UInt8) (value : UInt8) :
    parserAfter (stream ++ [value]) = ((parserAfter stream).feed value).1 := by
  rw [parserAfter, List.foldl_concat, parserAfter]

theorem strictAfter_concat (stream : List UInt8) (value : UInt8) :
    strictAfter (stream ++ [value]) = ((strictAfter stream).feed value).1 := by
  rw [strictAfter, List.foldl_concat, strictAfter]

theorem lenient_parserAfter (stream : List UInt8) :
    (parserAfter stream).strictChecksum = false :=
  (tracks_parserAfter stream).lenient

/-- Where the two parsers are after a stream: in the same place, or apart since the end
of a discarded frame. -/
inductive Placed (stream : List UInt8) : Prop
  | inStep (hsame : strictAfter stream = (parserAfter stream).strict)
      (hnone : ∀ flag, ¬ Stalled stream flag)
  | apart {flag : Bool} (hstalled : Stalled stream flag)
      (hunique : ∀ other, Stalled stream other → other = flag)
      (hbad : (strictAfter stream).AtBadFrame) (hescaped : (strictAfter stream).escaped = flag)
      (hframe : (parserAfter stream).state ≠ .waitSof → (parserAfter stream).escaped = flag)

/-- Until a start byte outside an escape the parsers stay apart. -/
theorem Stalled.next {stream : List UInt8} {flag : Bool} (h : Stalled stream flag) {value : UInt8}
    (hstart : ¬ (value = SOF ∧ flag = false)) :
    Stalled (stream ++ [value]) (!flag && value == ESC) := by
  cases flag with
  | true => exact .escaped value h
  | false =>
      by_cases hesc : value = ESC
      · subst hesc
        exact .escape h
      · have hsof : value ≠ SOF := fun heq => hstart ⟨heq, rfl⟩
        rw [beq_eq_false_iff_ne.mpr hesc]
        exact .other h hesc hsof

/-- A strict parser at a bad frame stays there until a start byte outside an escape. -/
theorem AtBadFrame.feed_stays {self : TpckParser} (h : self.AtBadFrame) {value : UInt8}
    (hstart : ¬ (value = SOF ∧ self.escaped = false)) :
    (self.feed value).1 = { self with escaped := !self.escaped && value == ESC } := by
  by_cases hvalue : value = EOF
  · subst hvalue
    obtain ⟨msg, hfeed⟩ := h.feed_eof
    have hne : (EOF == ESC) = false := by decide
    rw [hfeed, hne, Bool.and_false]
  · rw [h.feed_other hvalue fun hsof => by
      by_contra hesc
      exact hstart ⟨hsof, Bool.not_eq_true _ ▸ hesc⟩]

/-- The escape flag of a lenient parser that is inside a frame after a byte. -/
theorem escaped_feed_of_inside {self : TpckParser} {flag : Bool} {value : UInt8}
    (hframe : self.state ≠ .waitSof → self.escaped = flag)
    (hinside : (self.feed value).1.state ≠ .waitSof) :
    (self.feed value).1.escaped = (!flag && value == ESC) := by
  by_cases hstate : self.state = .waitSof
  · by_cases hsof : value = SOF
    · have hne : (SOF == ESC) = false := by decide
      rw [feed, if_pos hstate, if_pos hsof, hsof, hne, Bool.and_false]
      rfl
    · rw [feed, if_pos hstate, if_neg hsof] at hinside
      exact absurd hstate hinside
  · rw [escaped_feed hstate, hframe hstate]

/-- A frame that the lenient parser discards leaves the strict one at its end. -/
theorem Placed.discard {stream : List UInt8} {value : UInt8} (h : Placed stream)
    (hdiscards : (parserAfter stream).Discards value) : Placed (stream ++ [value]) := by
  obtain rfl := hdiscards.2.1
  have hunique (other : Bool) (hother : Stalled (stream ++ [EOF]) other) : other = false := by
    have hne : EOF ≠ ESC := by decide
    rcases stalled_concat_iff.mp hother with h | h | h | h
    · exact h.2
    · exact h.2
    · exact absurd h.2.1 hne
    · exact h.2.2.2
  have hwait : (parserAfter (stream ++ [EOF])).state = .waitSof := by
    rw [parserAfter_concat, feed_discards_lenient (lenient_parserAfter stream) hdiscards]
    rfl
  have hleave : strictAfter (stream ++ [EOF]) = { strictAfter stream with escaped := false } ∧
      (strictAfter stream).AtBadFrame := by
    rw [strictAfter_concat]
    cases h with
    | inStep hsame hnone =>
        have hstrict : (strictAfter stream).Discards EOF := by
          rw [hsame]
          exact hdiscards
        have hmode : (strictAfter stream).strictChecksum = true := by
          rw [hsame]
          rfl
        obtain ⟨msg, hfeed⟩ := feed_discards_strict hmode hstrict
        exact ⟨by rw [hfeed], hmode, hstrict.1, hstrict.2.2⟩
    | apart hstalled hunique hbad hescaped hframe =>
        obtain ⟨msg, hfeed⟩ := hbad.feed_eof
        exact ⟨by rw [hfeed], hbad⟩
  refine .apart (.discard hdiscards) hunique ?_ ?_ fun hstate => absurd hwait hstate
  · rw [hleave.1]
    exact hleave.2.withEscaped false
  · rw [hleave.1]

/-- The next byte keeps the two parsers in step, or apart until a start byte. -/
theorem Placed.step {stream : List UInt8} (h : Placed stream) (value : UInt8) :
    Placed (stream ++ [value]) := by
  by_cases hdiscards : (parserAfter stream).Discards value
  · exact h.discard hdiscards
  cases h with
  | inStep hsame hnone =>
      apply Placed.inStep
      · rw [strictAfter_concat, parserAfter_concat, hsame, feed_strict hdiscards]
      · intro flag hstalled
        rcases stalled_concat_iff.mp hstalled with h | h | h | h
        · exact hdiscards h.1
        · exact hnone true h.1
        · exact hnone false h.1
        · exact hnone false h.1
  | @apart flag hstalled hunique hbad hescaped hframe =>
      by_cases hstart : value = SOF ∧ flag = false
      · -- The start byte that both parsers were waiting for.
        obtain ⟨rfl, rfl⟩ := hstart
        have hlenient : (parserAfter stream).feed SOF =
            ((parserAfter stream).startFrame, .ok none) := by
          by_cases hstate : (parserAfter stream).state = .waitSof
          · rw [feed, if_pos hstate, if_pos rfl]
          · exact feed_sof (hframe hstate)
        apply Placed.inStep
        · rw [strictAfter_concat, parserAfter_concat, hlenient, feed_sof hescaped]
          have hmode := hbad.strictChecksum
          simp only [startFrame, strict, hmode]
        · intro other hother
          rcases stalled_concat_iff.mp hother with h | h | h | h
          · exact hdiscards h.1
          · exact absurd (hunique true h.1) (by decide)
          · exact absurd h.2.1 (by decide)
          · exact h.2.2.1 rfl
      · refine .apart (hstalled.next hstart) ?_ ?_ ?_ ?_
        · intro other hother
          rcases stalled_concat_iff.mp hother with h | h | h | h
          · exact absurd h.1 hdiscards
          · rw [← hunique true h.1, h.2, Bool.not_true, Bool.false_and]
          · rw [← hunique false h.1, h.2.1, h.2.2]
            rfl
          · rw [← hunique false h.1, h.2.2.2, beq_eq_false_iff_ne.mpr h.2.1, Bool.and_false]
        · rw [strictAfter_concat, hbad.feed_stays (hescaped ▸ hstart)]
          exact hbad.withEscaped _
        · rw [strictAfter_concat, hbad.feed_stays (hescaped ▸ hstart), hescaped]
        · rw [parserAfter_concat]
          exact escaped_feed_of_inside hframe

theorem placed (stream : List UInt8) : Placed stream := by
  induction stream using List.reverseRecOn with
  | nil =>
      refine .inStep rfl fun flag hstalled => ?_
      generalize hbytes : ([] : List UInt8) = bytes at hstalled
      cases hstalled <;> simp at hbytes
  | append_singleton stream value ih => exact ih.step value

/-! ## The reports -/

/-- At the next byte the reports agree, unless the parsers are apart and an end byte
arrives where the lenient parser discards nothing. -/
theorem sameReport_iff (stream : List UInt8) (value : UInt8) :
    SameReport stream value ↔ ∀ flag, Stalled stream flag → value = EOF →
      (parserAfter stream).Discards value := by
  have hlenient := lenient_parserAfter stream
  cases placed stream with
  | inStep hsame hnone =>
      refine iff_of_true ?_ fun flag hstalled => absurd hstalled (hnone flag)
      rw [SameReport, hsame]
      by_cases hdiscards : (parserAfter stream).Discards value
      · have hstrict : (parserAfter stream).strict.Discards value := hdiscards
        obtain ⟨msg, hfeed⟩ := feed_discards_strict rfl hstrict
        rw [hfeed, feed_discards_lenient hlenient hdiscards]
        exact ⟨fun packet => ⟨nofun, nofun⟩, fun _ => hdiscards, fun _ => ⟨msg, rfl⟩⟩
      · obtain ⟨next, packet, hfeed, -⟩ := feed_lenient hlenient value
        rw [feed_strict hdiscards, hfeed]
        refine ⟨fun packet => Iff.rfl, ?_, fun h => absurd h hdiscards⟩
        rintro ⟨msg, herror⟩
        cases herror
  | @apart flag hstalled hunique hbad hescaped hframe =>
      by_cases hvalue : value = EOF
      · subst hvalue
        obtain ⟨msg, hfeed⟩ := hbad.feed_eof
        rw [SameReport, hfeed]
        constructor
        · rintro ⟨-, hraises⟩ _ _ _
          exact hraises.mp ⟨msg, rfl⟩
        · intro hall
          have hdiscards := hall flag hstalled rfl
          rw [feed_discards_lenient hlenient hdiscards]
          exact ⟨fun packet => ⟨nofun, nofun⟩, fun _ => hdiscards, fun _ => ⟨msg, rfl⟩⟩
      · refine iff_of_true ?_ fun _ _ heof => absurd heof hvalue
        have hquiet : ¬ (parserAfter stream).Discards value := fun h => hvalue h.2.1
        rw [SameReport, feed_ne_eof _ hvalue, feed_ne_eof _ hvalue]
        refine ⟨fun packet => Iff.rfl, ?_, fun h => absurd h hquiet⟩
        rintro ⟨msg, herror⟩
        cases herror

/-- The reports agree at every byte of a stream. -/
def SameReports (stream : List UInt8) : Prop :=
  ∀ before value after, stream = before ++ value :: after → SameReport before value

/-- After a discarded frame both parsers are in the state that waits for a start byte. -/
def BothWait (stream : List UInt8) : Prop :=
  ∀ before value after, stream = before ++ value :: after →
    (parserAfter before).Discards value →
      (strictAfter (before ++ [value])).state = .waitSof ∧
        (parserAfter (before ++ [value])).state = .waitSof

theorem Stalled.exists_discards {stream : List UInt8} {flag : Bool} (h : Stalled stream flag) :
    ∃ front rest, stream = front ++ EOF :: rest ∧ (parserAfter front).Discards EOF := by
  induction h with
  | @discard stream h => exact ⟨stream, [], rfl, h⟩
  | escaped value _ ih =>
      obtain ⟨front, rest, rfl, hdiscards⟩ := ih
      exact ⟨front, rest ++ [value], by simp, hdiscards⟩
  | escape _ ih =>
      obtain ⟨front, rest, rfl, hdiscards⟩ := ih
      exact ⟨front, rest ++ [ESC], by simp, hdiscards⟩
  | @other _ value _ _ _ ih =>
      obtain ⟨front, rest, rfl, hdiscards⟩ := ih
      exact ⟨front, rest ++ [value], by simp, hdiscards⟩

/-- A strict parser that raised does not wait for the next start of a frame. -/
theorem not_bothWait {stream before after : List UInt8} (hstream : stream = before ++ EOF :: after)
    (hdiscards : (parserAfter before).Discards EOF) : ¬ BothWait stream := by
  intro hwait
  have hstate := (hwait before EOF after hstream hdiscards).1
  cases (placed before).discard hdiscards with
  | inStep hsame hnone => exact hnone false (.discard hdiscards)
  | apart hstalled hunique hbad hescaped hframe => exact hbad.state_ne hstate

/-- Strict and lenient parsing report the same exactly when every end byte that arrives
after a discarded frame, and before the next start byte outside an escape, is one at which
the lenient parser discards another frame. Both wait for the next start of a frame as
well exactly when no frame of the stream is discarded. -/
theorem sameReports_iff (stream : List UInt8) :
    (SameReports stream ↔ ∀ before after, stream = before ++ EOF :: after →
      ∀ flag, Stalled before flag → (parserAfter before).Discards EOF) ∧
    (SameReports stream ∧ BothWait stream ↔ ∀ before after, stream = before ++ EOF :: after →
      ¬ (parserAfter before).Discards EOF) := by
  have hfirst : SameReports stream ↔ ∀ before after, stream = before ++ EOF :: after →
      ∀ flag, Stalled before flag → (parserAfter before).Discards EOF := by
    constructor
    · intro hsame before after hstream flag hstalled
      exact (sameReport_iff before EOF).mp (hsame before EOF after hstream) flag hstalled rfl
    · intro hall before value after hstream
      rw [sameReport_iff]
      rintro flag hstalled rfl
      exact hall before after hstream flag hstalled
  refine ⟨hfirst, ?_, ?_⟩
  · rintro ⟨-, hwait⟩ before after hstream hdiscards
    exact not_bothWait hstream hdiscards hwait
  · intro hnone
    constructor
    · rw [hfirst]
      rintro before after rfl flag hstalled
      obtain ⟨front, rest, rfl, hdiscards⟩ := hstalled.exists_discards
      exact absurd hdiscards (hnone front (rest ++ EOF :: after) (by simp))
    · intro before value after hstream hdiscards
      obtain rfl := hdiscards.2.1
      exact absurd hdiscards (hnone before after hstream)

/-- A frame with a wrong checksum and a second end byte: the strict parser raises twice. -/
theorem not_sameReports_secondEof : ¬ SameReports [SOF, 0x00, 0x06, 0x00, EOF, EOF] := by
  intro hsame
  have hraises := (hsame [SOF, 0x00, 0x06, 0x00, EOF] EOF [] rfl).2
  have hdiscards := hraises.mp ⟨_, rfl⟩
  exact absurd hdiscards (by decide)

end TpckParser

end Tekmar482
