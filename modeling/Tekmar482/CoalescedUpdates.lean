import Tekmar482.SessionProgress
import Tekmar482.Library.Coalescing

/-!
# Coalescing is last value wins, without loss

While a session stays open, its writes succeed and no caller is cancelled, the
log of submissions and pops is the history of a coalescing queue, and what is
popped is written in that order.
-/

namespace Tekmar482

open Coalescing

namespace Call

variable {κ : Type}

/-- A command that can be written. -/
def Encodable (self : Call κ) : Prop :=
  ∃ message packet, self.command.toMessage = .ok message ∧ message.toPacket = .ok packet

/-- What a step keeps of a coalesced call that it is not about. -/
structure Same (before after : Call κ) : Prop where
  command : after.command = before.command
  future : after.future = before.future
  cancelRequested : after.cancelRequested = before.cancelRequested
  interrupted : after.interrupted = before.interrupted
  phase : after.phase = before.phase ∨ before.phase.locked = true ∧ after.phase.locked = true
  task : after.task = before.task ∨ after.task = before.future

theorem Same.refl (call : Call κ) : Same call call := ⟨rfl, rfl, rfl, rfl, .inl rfl, .inl rfl⟩

theorem Same.trans {first second third : Call κ} (h : Same first second)
    (h' : Same second third) : Same first third where
  command := h'.command.trans h.command
  future := h'.future.trans h.future
  cancelRequested := h'.cancelRequested.trans h.cancelRequested
  interrupted := h'.interrupted.trans h.interrupted
  phase := by
    rcases h.phase with heq | hlocked
    · rw [← heq]
      exact h'.phase
    · rcases h'.phase with heq | hlocked'
      · exact .inr ⟨hlocked.1, heq ▸ hlocked.2⟩
      · exact .inr ⟨hlocked.1, hlocked'.2⟩
  task := by
    rcases h'.task with heq | heq
    · exact h.task.imp heq.trans heq.trans
    · exact .inr (heq.trans h.future)

/-- A settled call is the same but for its future. -/
structure Settled (before after : Call κ) : Prop where
  key : after.key = before.key
  phase : after.phase = before.phase
  command : after.command = before.command
  cancelRequested : after.cancelRequested = before.cancelRequested
  interrupted : after.interrupted = before.interrupted
  task : after.task = before.task
  future : before.future ≠ .waiting → after.future = before.future

theorem settle_settled (call : Call κ) (state : FutureState CallResult) :
    Settled call (call.settle state) := by
  unfold settle
  split
  · rename_i hwaits
    exact ⟨rfl, rfl, rfl, rfl, rfl, rfl, absurd hwaits⟩
  · exact ⟨rfl, rfl, rfl, rfl, rfl, rfl, fun _ => rfl⟩

/-- What a step about a coalesced call keeps of it. -/
structure Kept (before after : Call κ) : Prop where
  key : after.key = before.key
  command : after.command = before.command
  cancelRequested : after.cancelRequested = before.cancelRequested
  interrupted : after.interrupted = before.interrupted

theorem finish_of_key {call : Call κ} {key : κ} (hkey : call.key = some key)
    (result : FutureState CallResult) :
    call.finish result = { call.settle result with phase := .ended } := by
  rw [finish, hkey]

theorem Same.phase_eq {before after : Call κ} (h : Same before after) {phase : Phase}
    (hphase : phase.locked = false) : after.phase = phase ↔ before.phase = phase := by
  rcases h.phase with heq | ⟨hbefore, hafter⟩
  · rw [heq]
  · constructor
    · rintro rfl
      rw [hphase] at hafter
      exact nomatch hafter
    · rintro rfl
      rw [hphase] at hbefore
      exact nomatch hbefore

end Call

namespace Session

variable {κ : Type}

/-- The submissions and pops of a log. -/
def history (log : List (SessionEvent κ)) : List (Event κ Nat) :=
  log.filterMap fun event => match event with
    | .submitted key c => some (.submit key c)
    | .popped key c => some (.pop key c)
    | _ => none

/-- The writes of coalesced calls in a log, with the messages written. -/
def updateWrites (log : List (SessionEvent κ)) : List ((κ × Nat) × TrpcPacket) :=
  log.filterMap fun event => match event with
    | .wrote c (some key) message => some ((key, c), message)
    | _ => none

/-- The coalesced calls whose commands are written in a log. -/
def writtenUpdates (log : List (SessionEvent κ)) : List (κ × Nat) :=
  (updateWrites log).map Prod.fst

/-- The popped update whose write has not started yet. -/
def inFlight (self : Session κ) : List (κ × Nat) :=
  match self.held with
  | none => []
  | some c =>
      match self.calls[c]? with
      | none => []
      | some call =>
          match call.key with
          | none => []
          | some key => if call.phase = .acquiring then [(key, c)] else []

/-- The steps of an open session whose writes succeed and whose callers are not
cancelled. -/
def Undisturbed (_ : Session κ) : SessionAction κ → Prop
  | .close | .readerFails _ => False
  | .onCall _ (.writeFails _) | .onCall _ .cancel => False
  | .packet packet =>
      packet.type = Packet.TYPE_TRPC → ∃ message, TrpcPacket.fromPacket packet = .ok message
  | .start request => (Call.create request).key ≠ none → (Call.create request).Encodable
  | _ => True

/-! ## Steps that the queue does not see -/

/-- What a step keeps that neither submits, pops, writes nor ends an update. -/
structure Idle (s t : Session κ) : Prop where
  updates : t.coalescedUpdates = s.coalescedUpdates
  writer : t.writer = s.writer
  history : history t.log = history s.log
  written : updateWrites t.log = updateWrites s.log
  closed : t.dispatcher.closed = s.dispatcher.closed
  readerError : t.dispatcher.readerError = s.dispatcher.readerError
  closers : t.closers = s.closers
  kept : ∀ (c : Nat) (call : Call κ), s.calls[c]? = some call →
    ∃ call' : Call κ, t.calls[c]? = some call' ∧ call'.key = call.key ∧
      (call.key ≠ none → call.Same call')
  back : ∀ (c : Nat) (call' : Call κ), t.calls[c]? = some call' →
    (∃ call : Call κ, s.calls[c]? = some call ∧ call'.key = call.key ∧
      (call.key ≠ none → call.Same call')) ∨ call'.key = none

theorem Idle.of_same {s t : Session κ} (hupdates : t.coalescedUpdates = s.coalescedUpdates)
    (hwriter : t.writer = s.writer) (hlog : t.log = s.log)
    (hclosed : t.dispatcher.closed = s.dispatcher.closed)
    (hreaderError : t.dispatcher.readerError = s.dispatcher.readerError)
    (hclosers : t.closers = s.closers) (hcalls : t.calls = s.calls) : Idle s t where
  updates := hupdates
  writer := hwriter
  history := by rw [hlog]
  written := by rw [hlog]
  closed := hclosed
  readerError := hreaderError
  closers := hclosers
  kept := fun _ call hcall => ⟨call, hcalls ▸ hcall, rfl, fun _ => .refl call⟩
  back := fun _ call hcall => .inl ⟨call, hcalls ▸ hcall, rfl, fun _ => .refl call⟩

theorem Idle.refl (s : Session κ) : Idle s s := .of_same rfl rfl rfl rfl rfl rfl rfl

theorem Idle.trans {s t u : Session κ} (h : Idle s t) (h' : Idle t u) : Idle s u where
  updates := h'.updates.trans h.updates
  writer := h'.writer.trans h.writer
  history := h'.history.trans h.history
  written := h'.written.trans h.written
  closed := h'.closed.trans h.closed
  readerError := h'.readerError.trans h.readerError
  closers := h'.closers.trans h.closers
  kept := by
    intro c call hcall
    obtain ⟨mid, hmid, hkey, hsame⟩ := h.kept c call hcall
    obtain ⟨last, hlast, hkey', hsame'⟩ := h'.kept c mid hmid
    exact ⟨last, hlast, hkey'.trans hkey, fun hsome => (hsame hsome).trans (hsame' (hkey ▸ hsome))⟩
  back := by
    intro c last hlast
    rcases h'.back c last hlast with ⟨mid, hmid, hkey', hsame'⟩ | hnone
    · rcases h.back c mid hmid with ⟨call, hcall, hkey, hsame⟩ | hnone
      · exact .inl ⟨call, hcall, hkey'.trans hkey,
          fun hsome => (hsame hsome).trans (hsame' (hkey ▸ hsome))⟩
      · exact .inr (hkey'.trans hnone)
    · exact .inr hnone

theorem idle_modifyCall (s : Session κ) (c : Nat) {f : Call κ → Call κ}
    (hf : ∀ call, s.calls[c]? = some call →
      (f call).key = call.key ∧ (call.key ≠ none → call.Same (f call))) :
    Idle s (s.modifyCall c f) where
  updates := rfl
  writer := rfl
  history := rfl
  written := rfl
  closed := rfl
  readerError := rfl
  closers := rfl
  kept := by
    intro d call hcall
    rcases eq_or_ne d c with rfl | hne
    · exact ⟨f call, calls_modifyCall_self f hcall, hf call hcall⟩
    · exact ⟨call, (calls_modifyCall_of_ne f hne).trans hcall, rfl, fun _ => .refl call⟩
  back := by
    intro d call' hcall'
    rcases calls_modifyCall_cases hcall' with ⟨rfl, call, hcall, rfl⟩ | ⟨-, hold⟩
    · exact .inl ⟨call, hcall, hf call hcall⟩
    · exact .inl ⟨call', hold, rfl, fun _ => .refl call'⟩

theorem idle_append (s : Session κ) {call : Call κ} (hkey : call.key = none) :
    Idle s { s with calls := s.calls ++ [call] } where
  updates := rfl
  writer := rfl
  history := rfl
  written := rfl
  closed := rfl
  readerError := rfl
  closers := rfl
  kept := by
    intro c call' hcall'
    refine ⟨call', ?_, rfl, fun _ => .refl call'⟩
    rw [List.getElem?_append_left (List.getElem?_eq_some_iff.mp hcall').1, hcall']
  back := by
    intro c call' hcall'
    rcases getElem?_concat hcall' with hold | ⟨-, rfl⟩
    · exact .inl ⟨call', hold, rfl, fun _ => .refl call'⟩
    · exact .inr hkey

/-- A plain call does not concern the queue. -/
theorem idle_endTransaction {s : Session κ} {c : Nat} {call : Call κ}
    (hcall : s.calls[c]? = some call) (hkey : call.key = none) (hfree : s.writer ≠ .holding c)
    (result : FutureState CallResult) : Idle s (s.endTransaction c result) := by
  have hcalls : Idle s (s.modifyCall c fun call => call.finish result) := by
    apply idle_modifyCall
    intro other hother
    cases hcall.symm.trans hother
    exact ⟨call.finish_key result, fun hsome => absurd hkey hsome⟩
  refine ⟨rfl, if_neg hfree, ?_, ?_, rfl, rfl, rfl, hcalls.kept, hcalls.back⟩
  · simp [Session.endTransaction, Session.history]
  · simp [Session.endTransaction, updateWrites]

theorem idle_acquired (s : Session κ) (c : Nat) (call : Call κ) : Idle s (s.acquired c call) := by
  unfold acquired
  split
  · exact .of_same rfl rfl rfl rfl rfl rfl rfl
  · refine ⟨rfl, rfl, ?_, ?_, rfl, rfl, rfl, (Idle.refl s).kept, (Idle.refl s).back⟩
    · simp [registerPending, Session.history]
    · simp [registerPending, updateWrites]

theorem idle_beginTransaction {s : Session κ} {c : Nat} {call : Call κ}
    (hcall : s.calls[c]? = some call) (hkey : call.key = none) (hfree : s.writer ≠ .holding c) :
    Idle s (s.beginTransaction c call) := by
  have hacquired := idle_acquired s c call
  rw [← s.acquired_calls c call] at hcall
  rw [← s.acquired_writer c call] at hfree
  unfold Session.beginTransaction
  split
  · exact hacquired.trans (idle_endTransaction hcall hkey hfree _)
  · rename_i message _
    apply hacquired.trans
    have hcalls : Idle (s.acquired c call) ((s.acquired c call).modifyCall c fun call =>
        { call with phase := .writing message }) := by
      apply idle_modifyCall
      intro other hother
      cases hcall.symm.trans hother
      exact ⟨rfl, fun hsome => absurd hkey hsome⟩
    refine ⟨rfl, rfl, ?_, ?_, rfl, rfl, rfl, hcalls.kept, hcalls.back⟩
    · simp [Session.wrote, Session.history]
    · simp [Session.wrote, updateWrites, hkey]

theorem inFlight_of_holding {s : Session κ} {c : Nat} {call : Call κ} {key : κ}
    (hwriter : s.writer = .holding c) (hcall : s.calls[c]? = some call)
    (hkey : call.key = some key) :
    s.inFlight = if call.phase = .acquiring then [(key, c)] else [] := by
  simp [inFlight, held, hwriter, hcall, hkey]

theorem inFlight_of_idle {s : Session κ} (hwriter : s.writer = .idle) : s.inFlight = [] := by
  simp [inFlight, held, hwriter]

@[simp] theorem history_concat (log : List (SessionEvent κ)) (event : SessionEvent κ) :
    history (log ++ [event]) = history log ++ history [event] :=
  List.filterMap_append

section

variable [DecidableEq κ]

/-- What holds of the coalesced calls while the session is undisturbed. -/
structure Flowing (s : Session κ) : Prop where
  closed : s.dispatcher.closed = false
  readerError : s.dispatcher.readerError = none
  started : s.writer ≠ .stopped
  closers : s.closers = []
  history : History (history s.log) s.coalescedUpdates
  sent : writtenUpdates s.log ++ s.inFlight = pops (Session.history s.log)
  submitted : ∀ (c : Nat) (call : Call κ) key, s.calls[c]? = some call → call.key = some key →
    (key, c) ∈ submissions (Session.history s.log) ∧ call.Encodable ∧
      call.cancelRequested = false ∧ call.interrupted = false
  known : ∀ key c, (key, c) ∈ submissions (Session.history s.log) →
    ∃ call, s.calls[c]? = some call ∧ call.key = some key
  queued : ∀ (c : Nat) (call : Call κ) key, s.calls[c]? = some call → call.key = some key →
    call.phase = .queued → (key, c) ∉ pops (Session.history s.log) ∧
      (call.future = .waiting ∧ s.coalescedUpdates.get? key = some c ∨
        call.future = .result .nothing ∧ s.coalescedUpdates.get? key ≠ some c)
  acquiring : ∀ (c : Nat) (call : Call κ) key, s.calls[c]? = some call → call.key = some key →
    call.phase = .acquiring → call.future = .waiting
  written : ∀ (c : Nat) (call : Call κ) key, s.calls[c]? = some call → call.key = some key →
    call.phase.locked = true ∨ call.phase = .ended → (key, c) ∈ writtenUpdates s.log
  messages : ∀ entry ∈ updateWrites s.log, ∃ call : Call κ, s.calls[entry.1.2]? = some call ∧
    call.command.toMessage = .ok entry.2
  returned : ∀ (c : Nat) (call : Call κ), s.calls[c]? = some call → call.key ≠ none →
    call.task = .waiting ∨ call.task = call.future

/-- The update in flight depends on the held call only. -/
theorem inFlight_congr {s t : Session κ} (hlinks : s.UpdateLinks) (hwriter : t.writer = s.writer)
    (hheld : ∀ (c : Nat) (call : Call κ), s.calls[c]? = some call → call.key ≠ none →
      call.phase.running = true → ∃ call', t.calls[c]? = some call' ∧ call'.key = call.key ∧
        (call'.phase = .acquiring ↔ call.phase = .acquiring)) :
    t.inFlight = s.inFlight := by
  cases hs : s.writer with
  | stopped => simp [inFlight, held, hwriter, hs]
  | idle => simp [inFlight, held, hwriter, hs]
  | holding c =>
      obtain ⟨call, hcall, hsome, hrunning, -⟩ := hlinks.holding c hs
      obtain ⟨call', hcall', hkey, hphase⟩ := hheld c call hcall hsome hrunning
      obtain ⟨key, hcallKey⟩ := Option.ne_none_iff_exists'.mp hsome
      rw [inFlight_of_holding hs hcall hcallKey,
        inFlight_of_holding (hwriter.trans hs) hcall' (hkey.trans hcallKey),
        if_congr hphase rfl rfl]

theorem Idle.inFlight {s t : Session κ} (h : Idle s t) (hlinks : s.UpdateLinks) :
    t.inFlight = s.inFlight := by
  apply inFlight_congr hlinks h.writer
  intro c call hcall hsome _
  obtain ⟨call', hcall', hkey, hsame⟩ := h.kept c call hcall
  exact ⟨call', hcall', hkey, (hsame hsome).phase_eq rfl⟩

/-- A call whose command was written as an update is a coalesced one. -/
theorem Flowing.written_key {s : Session κ} (h : s.Flowing) {entry : (κ × Nat) × TrpcPacket}
    (hmem : entry ∈ updateWrites s.log) {call : Call κ} (hcall : s.calls[entry.1.2]? = some call) :
    ∃ key, call.key = some key := by
  have hpopped : entry.1 ∈ pops (Session.history s.log) := by
    rw [← h.sent]
    exact List.mem_append_left _ (List.mem_map_of_mem hmem)
  obtain ⟨call', hcall', hkey⟩ := h.known entry.1.1 entry.1.2 (h.history.pops_subset hpopped)
  cases hcall.symm.trans hcall'
  exact ⟨_, hkey⟩

theorem Flowing.idle {s t : Session κ} (h : s.Flowing) (hlinks : s.UpdateLinks)
    (hidle : Idle s t) : t.Flowing := by
  have hback : ∀ (c : Nat) (call' : Call κ) key, t.calls[c]? = some call' → call'.key = some key →
      ∃ call, s.calls[c]? = some call ∧ call.key = some key ∧ call.Same call' := by
    intro c call' key hcall' hkey
    rcases hidle.back c call' hcall' with ⟨call, hcall, hsame, hrest⟩ | hnone
    · exact ⟨call, hcall, hsame ▸ hkey, hrest (by simp [← hsame, hkey])⟩
    · exact nomatch hkey.symm.trans hnone
  constructor
  case closed =>
    exact hidle.closed.trans h.closed
  case readerError =>
    exact hidle.readerError.trans h.readerError
  case started =>
    exact hidle.writer ▸ h.started
  case closers =>
    exact hidle.closers.trans h.closers
  case history =>
    rw [hidle.history, hidle.updates]
    exact h.history
  case sent =>
    rw [hidle.history, writtenUpdates, hidle.written, hidle.inFlight hlinks]
    exact h.sent
  case submitted =>
    intro c call' key hcall' hkey
    obtain ⟨call, hcall, hold, hsame⟩ := hback c call' key hcall' hkey
    obtain ⟨hmem, hencodable, hcancelled, hinterrupted⟩ := h.submitted c call key hcall hold
    rw [hidle.history, hsame.cancelRequested, hsame.interrupted]
    refine ⟨hmem, ?_, hcancelled, hinterrupted⟩
    rw [Call.Encodable, hsame.command]
    exact hencodable
  case known =>
    intro key c hmem
    rw [hidle.history] at hmem
    obtain ⟨call, hcall, hkey⟩ := h.known key c hmem
    obtain ⟨call', hcall', hsame, -⟩ := hidle.kept c call hcall
    exact ⟨call', hcall', hsame.trans hkey⟩
  case queued =>
    intro c call' key hcall' hkey hphase
    obtain ⟨call, hcall, hold, hsame⟩ := hback c call' key hcall' hkey
    rw [hidle.history, hidle.updates, hsame.future]
    exact h.queued c call key hcall hold ((hsame.phase_eq rfl).mp hphase)
  case acquiring =>
    intro c call' key hcall' hkey hphase
    obtain ⟨call, hcall, hold, hsame⟩ := hback c call' key hcall' hkey
    rw [hsame.future]
    exact h.acquiring c call key hcall hold ((hsame.phase_eq rfl).mp hphase)
  case written =>
    intro c call' key hcall' hkey hphase
    obtain ⟨call, hcall, hold, hsame⟩ := hback c call' key hcall' hkey
    rw [writtenUpdates, hidle.written]
    apply h.written c call key hcall hold
    rcases hsame.phase with heq | hlocked
    · exact heq ▸ hphase
    · exact .inl hlocked.1
  case messages =>
    intro entry hmem
    rw [hidle.written] at hmem
    obtain ⟨call, hcall, hmessage⟩ := h.messages entry hmem
    obtain ⟨key, hkey⟩ := h.written_key hmem hcall
    obtain ⟨call', hcall', -, hsame⟩ := hidle.kept _ call hcall
    exact ⟨call', hcall', (hsame (by simp [hkey])).command ▸ hmessage⟩
  case returned =>
    intro c call' hcall' hsome
    obtain ⟨key, hkey⟩ := Option.ne_none_iff_exists'.mp hsome
    obtain ⟨call, hcall, hold, hsame⟩ := hback c call' key hcall' hkey
    rw [hsame.future]
    rcases hsame.task with heq | heq
    · rw [heq]
      exact h.returned c call hcall (by simp [hold])
    · exact .inr heq

/-- A known submission is of a call that has started. -/
theorem Flowing.notMem_of_new {s : Session κ} (h : s.Flowing) :
    s.calls.length ∉ (submissions (Session.history s.log)).map Prod.snd := by
  intro hmem
  obtain ⟨⟨key, c⟩, hsubmitted, heq⟩ := List.mem_map.mp hmem
  simp only at heq
  obtain ⟨call, hcall, -⟩ := h.known key c hsubmitted
  rw [heq, List.getElem?_eq_none_iff.mpr le_rfl] at hcall
  exact nomatch hcall

/-- The queued update of a key waits. -/
theorem Flowing.queued_waits {s : Session κ} (h : s.Flowing) (hlinks : s.UpdateLinks) {key : κ}
    {c : Nat} {call : Call κ} (hcall : s.calls[c]? = some call)
    (hget : s.coalescedUpdates.get? key = some c) :
    call.key = some key ∧ call.phase = .queued ∧ call.future = .waiting := by
  obtain ⟨call', hcall', hkey, hphase⟩ := hlinks.queued key c hget
  cases hcall.symm.trans hcall'
  rcases (h.queued c call key hcall hkey hphase).2 with ⟨hwaits, -⟩ | ⟨-, hnot⟩
  · exact ⟨hkey, hphase, hwaits⟩
  · exact absurd hget hnot

/-- After a submission a call is the new one, the one that it replaces, or another. -/
theorem calls_submit_back {s : Session κ} (hlinks : s.UpdateLinks) {call call' : Call κ} {key : κ}
    {d : Nat} (hcall' : ({ s with calls := s.calls ++ [call] }.submit key
      s.calls.length).calls[d]? = some call') :
    d = s.calls.length ∧ call' = call ∨
      (∃ old, s.calls[d]? = some old ∧ s.coalescedUpdates.get? key = some d ∧
        call' = old.settle (.result .nothing)) ∨
      s.calls[d]? = some call' ∧ s.coalescedUpdates.get? key ≠ some d := by
  rcases calls_submit_cases hlinks hcall' with hlast | ⟨old, hold, heq⟩
  · exact .inl hlast
  · split at heq
    · rename_i hget
      exact .inr (.inl ⟨old, hold, hget, heq⟩)
    · rename_i hget
      exact .inr (.inr ⟨heq ▸ hold, hget⟩)

/-- After a submission the new call is queued, and the one that it replaces has the
result of a superseded update. -/
theorem Flowing.submit_queued {s : Session κ} (h : s.Flowing) (hlinks : s.UpdateLinks)
    {call : Call κ} {key : κ} (hkey : call.key = some key) (hfuture : call.future = .waiting)
    {d : Nat} {call' : Call κ} {key' : κ} (hcall' : ({ s with calls := s.calls ++ [call] }.submit key
      s.calls.length).calls[d]? = some call') (hkey' : call'.key = some key')
    (hphase : call'.phase = .queued) : (key', d) ∉ pops (Session.history s.log) ∧
      (call'.future = .waiting ∧
          (s.coalescedUpdates.set key s.calls.length).get? key' = some d ∨
        call'.future = .result .nothing ∧
          (s.coalescedUpdates.set key s.calls.length).get? key' ≠ some d) := by
  rw [OrderedDict.get?_set]
  rcases calls_submit_back hlinks hcall' with ⟨rfl, rfl⟩ | ⟨old, hold, hget, rfl⟩ | ⟨hold, hget⟩
  · rw [hkey] at hkey'
    cases hkey'
    rw [if_pos rfl]
    exact ⟨fun hmem => h.notMem_of_new (List.mem_map_of_mem (h.history.pops_subset hmem)),
      .inl ⟨hfuture, rfl⟩⟩
  · have hsettled := old.settle_settled (.result .nothing)
    obtain ⟨hold', -, hwaits⟩ := h.queued_waits hlinks hold hget
    rw [hsettled.key, hold'] at hkey'
    cases hkey'
    refine ⟨(h.queued d old key hold hold' (hsettled.phase ▸ hphase)).1, .inr ⟨?_, ?_⟩⟩
    · rw [Call.settle, if_pos hwaits]
    · rw [if_pos rfl]
      have hlt := (List.getElem?_eq_some_iff.mp hold).1
      exact fun heq => hlt.ne (Option.some.inj heq).symm
  · obtain ⟨hpops, hstate⟩ := h.queued d call' key' hold hkey' hphase
    refine ⟨hpops, ?_⟩
    split
    · rename_i heq
      have hlt := (List.getElem?_eq_some_iff.mp hold).1
      refine .inr ⟨?_, fun heq' => hlt.ne (Option.some.inj heq').symm⟩
      exact (hstate.resolve_left fun hqueued => hget (heq ▸ hqueued.2)).1
    · exact hstate

/-- A submitted call that is not queued was there before, as it is. -/
theorem Flowing.submit_of_ne_queued {s : Session κ} (h : s.Flowing) (hlinks : s.UpdateLinks)
    {call : Call κ} {key : κ} (hphase : call.phase = .queued) {d : Nat} {call' : Call κ}
    (hcall' : ({ s with calls := s.calls ++ [call] }.submit key s.calls.length).calls[d]? =
      some call') (hne : call'.phase ≠ .queued) : s.calls[d]? = some call' := by
  rcases calls_submit_back hlinks hcall' with ⟨-, rfl⟩ | ⟨old, hold, hget, rfl⟩ | ⟨hold, -⟩
  · exact absurd hphase hne
  · rw [(old.settle_settled _).phase] at hne
    exact absurd (h.queued_waits hlinks hold hget).2.1 hne
  · exact hold

theorem Flowing.submit {s : Session κ} (h : s.Flowing) (hlinks : s.UpdateLinks) {call : Call κ}
    {key : κ} (hkey : call.key = some key) (hphase : call.phase = .queued)
    (hfuture : call.future = .waiting) (htask : call.task = .waiting) (hinterrupted : call.interrupted = false)
    (hcancelled : call.cancelRequested = false) (hencodable : call.Encodable) :
    ({ s with calls := s.calls ++ [call] }.submit key s.calls.length).Flowing := by
  have hlog : Session.history ({ s with calls := s.calls ++ [call] }.submit key s.calls.length).log =
      Session.history s.log ++ [.submit key s.calls.length] := history_concat _ _
  have hwrites : updateWrites
      ({ s with calls := s.calls ++ [call] }.submit key s.calls.length).log =
        updateWrites s.log := by
    simp [updateWrites]
  have hwritten := congrArg (List.map Prod.fst) hwrites
  rw [← writtenUpdates, ← writtenUpdates] at hwritten
  have hsettled := fun old : Call κ => old.settle_settled (.result .nothing)
  constructor
  case closed =>
    rw [submit_dispatcher]
    exact h.closed
  case readerError =>
    rw [submit_dispatcher]
    exact h.readerError
  case started =>
    rw [submit_writer]
    exact h.started
  case closers =>
    rw [submit_closers]
    exact h.closers
  case history =>
    rw [hlog]
    exact h.history.submit key _ h.notMem_of_new
  case sent =>
    rw [hlog, pops_submit, hwritten, ← h.sent]
    congr 1
    refine inFlight_congr hlinks ?_ ?_
    · exact submit_writer _ _ _
    · intro c held hheld _ hrunning
      refine ⟨_, calls_submit_old hlinks call key hheld, ?_⟩
      split
      · exact ⟨(hsettled held).key, by rw [(hsettled held).phase]⟩
      · exact ⟨rfl, Iff.rfl⟩
  case submitted =>
    intro d call' key' hcall' hkey'
    rw [hlog, submissions_submit]
    rcases calls_submit_back hlinks hcall' with ⟨rfl, rfl⟩ | ⟨old, hold, -, rfl⟩ | ⟨hold, -⟩
    · rw [hkey] at hkey'
      cases hkey'
      exact ⟨List.mem_append_right _ (List.mem_singleton.mpr rfl), hencodable, hcancelled,
        hinterrupted⟩
    · obtain ⟨hmem, hrest⟩ := h.submitted d old key' hold ((hsettled old).key ▸ hkey')
      rw [Call.Encodable, (hsettled old).command, (hsettled old).cancelRequested,
        (hsettled old).interrupted]
      exact ⟨List.mem_append_left _ hmem, hrest⟩
    · obtain ⟨hmem, hrest⟩ := h.submitted d call' key' hold hkey'
      exact ⟨List.mem_append_left _ hmem, hrest⟩
  case known =>
    intro key' d hmem
    rw [hlog, submissions_submit, List.mem_append, List.mem_singleton, Prod.mk.injEq] at hmem
    rcases hmem with hold | ⟨rfl, rfl⟩
    · obtain ⟨old, hcall, hkey'⟩ := h.known key' d hold
      refine ⟨_, calls_submit_old hlinks call key hcall, ?_⟩
      split
      · exact (hsettled old).key.trans hkey'
      · exact hkey'
    · exact ⟨call, by rw [calls_submit hlinks, if_pos rfl], hkey⟩
  case queued =>
    intro d call' key' hcall' hkey' hphase'
    rw [hlog, pops_submit, submit_coalescedUpdates]
    exact h.submit_queued hlinks hkey hfuture hcall' hkey' hphase'
  case acquiring =>
    intro d call' key' hcall' hkey' hphase'
    have hold := h.submit_of_ne_queued hlinks hphase hcall' (by simp [hphase'])
    exact h.acquiring d call' key' hold hkey' hphase'
  case written =>
    intro d call' key' hcall' hkey' hphase'
    rw [hwritten]
    have hold := h.submit_of_ne_queued hlinks hphase hcall' fun heq => by
      rw [heq] at hphase'
      rcases hphase' with hlocked | hended
      · cases hlocked
      · cases hended
    exact h.written d call' key' hold hkey' hphase'
  case messages =>
    intro entry hmem
    rw [hwrites] at hmem
    obtain ⟨old, hold, hmessage⟩ := h.messages entry hmem
    refine ⟨_, calls_submit_old hlinks call key hold, ?_⟩
    split
    · exact (hsettled old).command ▸ hmessage
    · exact hmessage
  case returned =>
    intro d call' hcall' hkey'
    rcases calls_submit_back hlinks hcall' with ⟨rfl, rfl⟩ | ⟨old, hold, hget, rfl⟩ | ⟨hold, -⟩
    · exact .inl htask
    · obtain ⟨-, -, hwaits⟩ := h.queued_waits hlinks hold hget
      rw [(hsettled old).task]
      refine .inl ?_
      exact (h.returned d old hold ((hsettled old).key ▸ hkey')).elim id fun heq => heq.trans hwaits
    · exact h.returned d call' hold hkey'

/-- A step about one coalesced call, which is not queued after it. -/
structure Changes (s t : Session κ) (key : κ) (c : Nat) (before after : Call κ) : Prop where
  calls : ∃ f, t.calls = (s.modifyCall c f).calls ∧ f before = after
  found : s.calls[c]? = some before
  key : before.key = some key
  kept : before.Kept after
  phase : after.phase ≠ .queued
  closed : t.dispatcher.closed = s.dispatcher.closed
  readerError : t.dispatcher.readerError = s.dispatcher.readerError
  closers : t.closers = s.closers
  submissions : submissions (Session.history t.log) = submissions (Session.history s.log)
  pops : ∀ key' d, d ≠ c → (key', d) ∈ pops (Session.history t.log) →
    (key', d) ∈ pops (Session.history s.log)
  updates : ∀ key' d, d ≠ c →
    (t.coalescedUpdates.get? key' = some d ↔ s.coalescedUpdates.get? key' = some d)
  writes : ∀ entry ∈ updateWrites t.log, entry ∈ updateWrites s.log ∨
    entry.1.2 = c ∧ after.command.toMessage = .ok entry.2
  written : writtenUpdates s.log ⊆ writtenUpdates t.log

namespace Changes

variable {s t : Session κ} {key : κ} {c : Nat} {before after : Call κ}

theorem back (h : Changes s t key c before after) {d : Nat} {call' : Call κ}
    (hcall' : t.calls[d]? = some call') :
    d = c ∧ call' = after ∨ d ≠ c ∧ s.calls[d]? = some call' := by
  obtain ⟨f, hcalls, rfl⟩ := h.calls
  rw [hcalls] at hcall'
  exact calls_modifyCall_known h.found hcall'

theorem forth (h : Changes s t key c before after) {d : Nat} {call : Call κ}
    (hcall : s.calls[d]? = some call) :
    d = c ∧ call = before ∧ t.calls[d]? = some after ∨ d ≠ c ∧ t.calls[d]? = some call := by
  obtain ⟨f, hcalls, rfl⟩ := h.calls
  rw [hcalls]
  rcases eq_or_ne d c with rfl | hne
  · cases h.found.symm.trans hcall
    exact .inl ⟨rfl, rfl, calls_modifyCall_self f hcall⟩
  · exact .inr ⟨hne, (calls_modifyCall_of_ne f hne).trans hcall⟩

end Changes

theorem Flowing.changes {s t : Session κ} (h : s.Flowing) {key : κ} {c : Nat}
    {before after : Call κ} (hchanges : Changes s t key c before after)
    (hstarted : t.writer ≠ .stopped) (hhistory : History (Session.history t.log) t.coalescedUpdates)
    (hsent : writtenUpdates t.log ++ t.inFlight = pops (Session.history t.log))
    (hacquiring : after.phase = .acquiring → after.future = .waiting)
    (hwritten : after.phase.locked = true ∨ after.phase = .ended →
      (key, c) ∈ writtenUpdates t.log)
    (hreturned : after.task = .waiting ∨ after.task = after.future) : t.Flowing where
  closed := hchanges.closed.trans h.closed
  readerError := hchanges.readerError.trans h.readerError
  started := hstarted
  closers := hchanges.closers.trans h.closers
  history := hhistory
  sent := hsent
  submitted := by
    intro d call' key' hcall' hkey'
    rw [hchanges.submissions]
    rcases hchanges.back hcall' with ⟨rfl, rfl⟩ | ⟨-, hold⟩
    · have hbefore := h.submitted d before key' hchanges.found (hchanges.kept.key ▸ hkey')
      rw [Call.Encodable, hchanges.kept.command, hchanges.kept.cancelRequested,
        hchanges.kept.interrupted]
      exact hbefore
    · exact h.submitted d call' key' hold hkey'
  known := by
    intro key' d hmem
    rw [hchanges.submissions] at hmem
    obtain ⟨call, hcall, hkey'⟩ := h.known key' d hmem
    rcases hchanges.forth hcall with ⟨-, rfl, hnew⟩ | ⟨-, hsame⟩
    · exact ⟨after, hnew, hchanges.kept.key.trans hkey'⟩
    · exact ⟨call, hsame, hkey'⟩
  queued := by
    intro d call' key' hcall' hkey' hphase'
    rcases hchanges.back hcall' with ⟨-, rfl⟩ | ⟨hne, hold⟩
    · exact absurd hphase' hchanges.phase
    · obtain ⟨hpops, hstate⟩ := h.queued d call' key' hold hkey' hphase'
      refine ⟨fun hmem => hpops (hchanges.pops key' d hne hmem), ?_⟩
      rw [ne_eq, hchanges.updates key' d hne]
      exact hstate
  acquiring := by
    intro d call' key' hcall' hkey' hphase'
    rcases hchanges.back hcall' with ⟨-, rfl⟩ | ⟨-, hold⟩
    · exact hacquiring hphase'
    · exact h.acquiring d call' key' hold hkey' hphase'
  written := by
    intro d call' key' hcall' hkey' hphase'
    rcases hchanges.back hcall' with ⟨rfl, rfl⟩ | ⟨-, hold⟩
    · cases hchanges.key.symm.trans (hchanges.kept.key ▸ hkey')
      exact hwritten hphase'
    · exact hchanges.written (h.written d call' key' hold hkey' hphase')
  messages := by
    intro entry hmem
    rcases hchanges.writes entry hmem with hold | ⟨rfl, hmessage⟩
    · obtain ⟨call, hcall, hmessage⟩ := h.messages entry hold
      rcases hchanges.forth hcall with ⟨-, rfl, hnew⟩ | ⟨-, hsame⟩
      · exact ⟨after, hnew, hchanges.kept.command ▸ hmessage⟩
      · exact ⟨call, hsame, hmessage⟩
    · rcases hchanges.forth hchanges.found with ⟨-, -, hnew⟩ | ⟨hne, -⟩
      · exact ⟨after, hnew, hmessage⟩
      · exact absurd rfl hne
  returned := by
    intro d call' hcall' hkey'
    rcases hchanges.back hcall' with ⟨-, rfl⟩ | ⟨-, hold⟩
    · exact hreturned
    · exact h.returned d call' hold hkey'

theorem Flowing.hold {s : Session κ} (h : s.Flowing) (hlinks : s.UpdateLinks)
    (hidle : s.writer = .idle) {key : κ} {c : Nat} {rest : OrderedDict κ Nat} {call : Call κ}
    (hpop : s.coalescedUpdates.popFirst = some ((key, c), rest)) (hcall : s.calls[c]? = some call) :
    ((s.popped key c rest).hold c).Flowing := by
  have hfirst := OrderedDict.get?_of_popFirst hpop
  obtain ⟨hkey, -, hwaits⟩ := h.queued_waits hlinks hcall hfirst
  have hlog : Session.history ((s.popped key c rest).hold c).log =
      Session.history s.log ++ [.pop key c] := history_concat _ _
  have hwrites : updateWrites ((s.popped key c rest).hold c).log = updateWrites s.log := by
    simp [Session.hold, popped, modifyCall, updateWrites]
  have hwritten := congrArg (List.map Prod.fst) hwrites
  rw [← writtenUpdates, ← writtenUpdates] at hwritten
  have hheld : ((s.popped key c rest).hold c).calls[c]? = some { call with phase := .acquiring } :=
    calls_modifyCall_self (s := s.popped key c rest) _ hcall
  have hchanges : Changes s ((s.popped key c rest).hold c) key c call
      { call with phase := .acquiring } :=
    { calls := ⟨fun call => { call with phase := .acquiring }, rfl, rfl⟩
      found := hcall
      key := hkey
      kept := ⟨rfl, rfl, rfl, rfl⟩
      phase := by simp
      closed := rfl
      readerError := rfl
      closers := rfl
      submissions := by rw [hlog, submissions_pop]
      pops := by
        intro key' d hne hmem
        rw [hlog, pops_pop, List.mem_append, List.mem_singleton, Prod.mk.injEq] at hmem
        exact hmem.resolve_right fun heq => hne heq.2
      updates := fun key' _ hne => OrderedDict.get?_popFirst_of_ne hpop hne key'
      writes := fun entry hmem => .inl (hwrites ▸ hmem)
      written := hwritten ▸ List.Subset.refl _ }
  refine h.changes hchanges Writer.noConfusion ?_ ?_ ?_ ?_ ?_
  · rw [hlog]
    exact h.history.pop hpop
  · rw [hlog, pops_pop, hwritten, ← h.sent, inFlight_of_idle hidle, List.append_nil,
      inFlight_of_holding rfl hheld hkey, if_pos rfl]
  · exact fun _ => hwaits
  · rintro (hlocked | hended)
    · cases hlocked
    · cases hended
  · exact h.returned c call hcall (by simp [hkey])

theorem Flowing.wrote {s : Session κ} (h : s.Flowing) {c : Nat} {call : Call κ} {key : κ}
    (hcall : s.calls[c]? = some call) (hkey : call.key = some key)
    (hphase : call.phase = .acquiring) (hwriter : s.writer = .holding c) {message : TrpcPacket}
    (hmessage : call.command.toMessage = .ok message) : (s.wrote c call message).Flowing := by
  have hlog : Session.history (s.wrote c call message).log = Session.history s.log := by
    simp [Session.wrote, Session.history]
  have hwrites : updateWrites (s.wrote c call message).log =
      updateWrites s.log ++ [((key, c), message)] := by
    simp [Session.wrote, updateWrites, hkey]
  have hwritten : writtenUpdates (s.wrote c call message).log =
      writtenUpdates s.log ++ [(key, c)] := by
    rw [writtenUpdates, hwrites, List.map_append]
    rfl
  have hnew : (s.wrote c call message).calls[c]? = some { call with phase := .writing message } :=
    calls_modifyCall_self (s := s) _ hcall
  have hchanges : Changes s (s.wrote c call message) key c call
      { call with phase := .writing message } :=
    { calls := ⟨fun call => { call with phase := .writing message }, rfl, rfl⟩
      found := hcall
      key := hkey
      kept := ⟨rfl, rfl, rfl, rfl⟩
      phase := by simp
      closed := rfl
      readerError := rfl
      closers := rfl
      submissions := by rw [hlog]
      pops := fun _ _ _ hmem => hlog ▸ hmem
      updates := fun _ _ _ => Iff.rfl
      writes := by
        intro entry hmem
        rw [hwrites, List.mem_append, List.mem_singleton] at hmem
        rcases hmem with hold | rfl
        · exact .inl hold
        · exact .inr ⟨rfl, hmessage⟩
      written := hwritten ▸ List.subset_append_left _ _ }
  refine h.changes hchanges h.started ?_ ?_ (by simp) (fun _ => ?_) ?_
  · rw [hlog]
    exact h.history
  · rw [hlog, hwritten, ← h.sent, inFlight_of_holding hwriter hcall hkey, if_pos hphase,
      inFlight_of_holding (s := s.wrote c call message) hwriter hnew hkey, if_neg (by simp),
      List.append_nil]
  · rw [hwritten]
    exact List.mem_append_right _ (List.mem_singleton.mpr rfl)
  · exact h.returned c call hcall (by simp [hkey])

theorem Flowing.endTransaction {s : Session κ} (h : s.Flowing) {c : Nat} {call : Call κ} {key : κ}
    (hcall : s.calls[c]? = some call) (hkey : call.key = some key)
    (hlocked : call.phase.locked = true) (hwriter : s.writer = .holding c)
    (result : FutureState CallResult) : (s.endTransaction c result).Flowing := by
  have hlog : Session.history (s.endTransaction c result).log = Session.history s.log := by
    simp [Session.endTransaction, Session.history]
  have hwrites : updateWrites (s.endTransaction c result).log = updateWrites s.log := by
    simp [Session.endTransaction, updateWrites]
  have hwritten := congrArg (List.map Prod.fst) hwrites
  rw [← writtenUpdates, ← writtenUpdates] at hwritten
  have hidle : (s.endTransaction c result).writer = .idle := by
    simp [Session.endTransaction, hwriter]
  have hsettled := call.settle_settled result
  have hnotAcquiring : call.phase ≠ .acquiring := fun heq => by
    rw [heq] at hlocked
    cases hlocked
  have hchanges : Changes s (s.endTransaction c result) key c call
      { call.settle result with phase := .ended } :=
    { calls := ⟨fun call => call.finish result, rfl, Call.finish_of_key hkey result⟩
      found := hcall
      key := hkey
      kept := ⟨hsettled.key, hsettled.command, hsettled.cancelRequested, hsettled.interrupted⟩
      phase := by simp
      closed := rfl
      readerError := rfl
      closers := rfl
      submissions := by rw [hlog]
      pops := fun _ _ _ hmem => hlog ▸ hmem
      updates := fun _ _ _ => Iff.rfl
      writes := fun entry hmem => .inl (hwrites ▸ hmem)
      written := hwritten ▸ List.Subset.refl _ }
  refine h.changes hchanges (hidle ▸ (by simp)) ?_ ?_ (by simp) (fun _ => ?_) ?_
  · rw [hlog]
    exact h.history
  · rw [hlog, hwritten, ← h.sent, inFlight_of_holding hwriter hcall hkey, if_neg hnotAcquiring,
      inFlight_of_idle hidle]
  · rw [hwritten]
    exact h.written c call key hcall hkey (.inl hlocked)
  · have hreturned := h.returned c call hcall (by simp [hkey])
    rcases eq_or_ne call.future .waiting with hwaits | hdone
    · refine .inl (hsettled.task.trans ?_)
      exact hreturned.elim id fun heq => heq.trans hwaits
    · exact hreturned.imp hsettled.task.trans fun heq =>
        hsettled.task.trans (heq.trans (hsettled.future hdone).symm)

end

end Session

end Tekmar482
