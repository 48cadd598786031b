import Tekmar482.SessionReaders
import Tekmar482.Transactions

/-!
# Readers and what they are woken for

A reader that sleeps has nothing to read, and a session that has closed has no sleeping reader.
A reader that gives up has taken nothing. Packets are read in order, and no message is read twice.
-/

namespace Tekmar482

open BoundedQueue

/-! ## What a step of the session leaves to the readers -/

namespace Dispatcher

/-- Nothing to read arrives, and no future gets a message. -/
structure Shrinks (before after : Dispatcher) : Prop where
  messageBacklog : after.messageBacklog.Sublist before.messageBacklog
  packetBacklog : after.packetBacklog = before.packetBacklog
  maxPacketBacklog : after.maxPacketBacklog = before.maxPacketBacklog
  arrived : after.arrived = before.arrived
  results : ∀ future a, after.futures future = some (.result a) →
    before.futures future = some (.result a)

/-- Also the session stays open or closed. -/
structure Leaves (before after : Dispatcher) : Prop extends Shrinks before after where
  readerError : after.readerError = before.readerError
  closed : after.closed = before.closed

theorem Shrinks.of_same {before after : Dispatcher}
    (hmessages : after.messageBacklog.Sublist before.messageBacklog)
    (hpackets : after.packetBacklog = before.packetBacklog)
    (hlimit : after.maxPacketBacklog = before.maxPacketBacklog)
    (harrived : after.arrived = before.arrived) (hfutures : after.futures = before.futures) :
    Shrinks before after :=
  ⟨hmessages, hpackets, hlimit, harrived, fun _ _ h => hfutures ▸ h⟩

theorem Shrinks.trans {first second third : Dispatcher} (h : Shrinks first second)
    (h' : Shrinks second third) : Shrinks first third where
  messageBacklog := h'.messageBacklog.trans h.messageBacklog
  packetBacklog := h'.packetBacklog.trans h.packetBacklog
  maxPacketBacklog := h'.maxPacketBacklog.trans h.maxPacketBacklog
  arrived := h'.arrived.trans h.arrived
  results := fun future a hresult => h.results future a (h'.results future a hresult)

theorem Leaves.refl (self : Dispatcher) : Leaves self self :=
  ⟨.of_same (List.Sublist.refl _) rfl rfl rfl rfl, rfl, rfl⟩

theorem Leaves.trans {first second third : Dispatcher} (h : Leaves first second)
    (h' : Leaves second third) : Leaves first third :=
  ⟨h.toShrinks.trans h'.toShrinks, h'.readerError.trans h.readerError, h'.closed.trans h.closed⟩

theorem shrinks_failPending (self : Dispatcher) (err : PyException) :
    Shrinks self (self.failPending err) :=
  ⟨List.Sublist.refl _, rfl, rfl, rfl,
    fun other a => ((settles_failPending self err).results other a).mp⟩

theorem shrinks_setReaderError (self : Dispatcher) (err : PyException) :
    Shrinks self (self.setReaderError err) :=
  ⟨List.Sublist.refl _, rfl, rfl, rfl,
    fun other a => ((settles_setReaderError self err).results other a).mp⟩

theorem leaves_settle (self : Dispatcher) (future : Nat) :
    Leaves self (self.settle future .cancelled) := by
  have hresults := fun other a => ((settles_cancel self future).results other a).mp
  unfold settle at hresults ⊢
  split
  · rename_i hwaits
    rw [if_pos hwaits] at hresults
    exact ⟨⟨List.Sublist.refl _, rfl, rfl, rfl, hresults⟩, rfl, rfl⟩
  · exact .refl self

theorem leaves_register (self : Dispatcher) (future : Nat) (responseMatch : ResponseMatch)
    (publishMatch : Bool) : Leaves self (self.register future responseMatch publishMatch) := by
  refine ⟨⟨List.Sublist.refl _, rfl, rfl, rfl, fun other a hresult => ?_⟩, rfl, rfl⟩
  rcases (update_eq_result_iff _ _ _ _ _).mp hresult with ⟨-, heq⟩ | ⟨-, hold⟩
  · cases heq
  · exact hold

theorem leaves_removePending (self : Dispatcher) (future : Nat) :
    Leaves self (self.removePending future) :=
  ⟨.of_same (List.Sublist.refl _) rfl rfl rfl rfl, rfl, rfl⟩

/-- Readers of messages and subscribers leave the packets. -/
theorem leaves_of_reader {self after : Dispatcher} {action : DispatcherAction}
    (hreader : action.ofReader = true) (hstep : self.step action = some after) :
    Leaves self after := by
  have hreads := reads_of_reader hreader hstep
  have hpackets : after.packetBacklog = self.packetBacklog ∧
      after.maxPacketBacklog = self.maxPacketBacklog := by
    cases action <;> simp only [step, Option.some.injEq] at hstep
    case readMessage =>
      subst hstep
      rw [(readMessage_eq self).2]
      exact ⟨rfl, rfl⟩
    case readUntil predicate =>
      subst hstep
      rw [(readUntil_eq self predicate).2]
      exact ⟨rfl, rfl⟩
    case subscribe =>
      subst hstep
      unfold reports
      split <;> exact ⟨rfl, rfl⟩
    case unsubscribe =>
      subst hstep
      exact ⟨rfl, rfl⟩
    case take =>
      subst hstep
      unfold takeReport
      split <;> exact ⟨rfl, rfl⟩
    all_goals cases hreader
  exact ⟨.of_same hreads.backlog hpackets.1 hpackets.2 hreads.arrived hreads.futures,
    hreads.readerError, hreads.closed⟩

end Dispatcher

namespace Session

variable {κ : Type}

/-- A `close` that has not notified the readers yet. -/
def CloseRuns (self : Session κ) : Prop := ∃ closer ∈ self.closers, closer ≠ .closingTransport

/-- A step of the calls and of the writer loop. -/
structure Leaves (s t : Session κ) : Prop where
  dispatcher : s.dispatcher.Leaves t.dispatcher
  closers : t.closers = s.closers

theorem Leaves.refl (s : Session κ) : Leaves s s := ⟨.refl _, rfl⟩

theorem leaves_acquired (s : Session κ) (c : Nat) (call : Call κ) :
    Leaves s (s.acquired c call) := by
  unfold acquired
  split
  · exact ⟨.refl _, rfl⟩
  · exact ⟨Dispatcher.leaves_register _ c _ _, rfl⟩

theorem leaves_beginTransaction (s : Session κ) (c : Nat) (call : Call κ) :
    Leaves s (s.beginTransaction c call) := by
  have hacquired := s.leaves_acquired c call
  unfold beginTransaction
  split
  · exact ⟨hacquired.dispatcher.trans (Dispatcher.leaves_removePending _ c), hacquired.closers⟩
  · exact ⟨hacquired.dispatcher, hacquired.closers⟩

theorem leaves_interrupt (s : Session κ) (c : Nat) (call : Call κ) :
    Leaves s (s.interrupt c call) := by
  refine ⟨?_, rfl⟩
  simp only [interrupt]
  split
  · exact Dispatcher.leaves_settle _ c
  · exact .refl _

theorem leaves_cancelWriter (s : Session κ) : Leaves s s.cancelWriter := by
  unfold cancelWriter
  split
  · split
    · exact ⟨.refl _, rfl⟩
    · rename_i c _ _ call _
      have hinterrupted := s.leaves_interrupt c call
      exact ⟨hinterrupted.dispatcher, hinterrupted.closers⟩
  · exact ⟨.refl _, rfl⟩

variable [DecidableEq κ]

theorem leaves_startCall (s : Session κ) (request : SessionRequest κ) :
    Leaves s (s.startCall request) := by
  simp only [startCall]
  split
  · split
    · exact ⟨.refl _, rfl⟩
    · have hbegun := leaves_beginTransaction { s with calls := s.calls ++ [Call.create request] }
        s.calls.length (Call.create request)
      exact ⟨hbegun.dispatcher, hbegun.closers⟩
  · split
    · exact ⟨.refl _, rfl⟩
    · exact ⟨by rw [submit_dispatcher]; exact .refl _, by rw [submit_closers]⟩

theorem leaves_callStep {s t : Session κ} {c : Nat} {call : Call κ} {action : CallAction}
    (hstepped : CallStepped s c call action t) : Leaves s t := by
  cases hstepped with
  | acquire => exact s.leaves_beginTransaction c call
  | written | writeFails | resume => exact ⟨Dispatcher.leaves_removePending _ c, rfl⟩
  | awaits => exact ⟨.refl _, rfl⟩
  | timeout => exact ⟨Dispatcher.leaves_settle _ c, rfl⟩
  | cancel =>
      unfold cancelCall
      split
      · have hinterrupted := s.leaves_interrupt c call
        exact ⟨hinterrupted.dispatcher, hinterrupted.closers⟩
      · exact ⟨.refl _, rfl⟩
  | resumeCaller =>
      simp only [modifyCall, removeCoalescedUpdate]
      split
      · split <;> exact ⟨.refl _, rfl⟩
      · exact ⟨.refl _, rfl⟩

omit [DecidableEq κ] in
theorem leaves_popUpdate {s t : Session κ} (hpopped : Popped s t) : Leaves s t := by
  cases hpopped with
  | skipped | held => exact ⟨.refl _, rfl⟩
  | @began key c rest call =>
      have hbegun := leaves_beginTransaction ((s.popped key c rest).hold c) c
        { call with phase := .acquiring }
      exact ⟨hbegun.dispatcher, hbegun.closers⟩

/-- Only a packet can bring something to read. -/
theorem shrinks_step {s t : Session κ} {action : SessionAction κ} (hstepped : Stepped s action t)
    (hpacket : ∀ packet, action ≠ .packet packet) : s.dispatcher.Shrinks t.dispatcher := by
  cases hstepped with
  | @packet packet => exact absurd rfl (hpacket packet)
  | start request => exact (s.leaves_startCall request).dispatcher.toShrinks
  | onCall _ hstepped => exact (leaves_callStep hstepped).dispatcher.toShrinks
  | pop hpopped => exact (leaves_popUpdate hpopped).dispatcher.toShrinks
  | writerReturns => exact (Dispatcher.Leaves.refl _).toShrinks
  | readerFails => exact Dispatcher.shrinks_setReaderError _ _
  | backlog hreader hread => exact (Dispatcher.leaves_of_reader hreader hread).toShrinks
  | opened | close => exact .of_same (List.Sublist.refl _) rfl rfl rfl rfl
  | cancelWriter => exact s.leaves_cancelWriter.dispatcher.toShrinks
  | failOutstanding =>
      exact (Dispatcher.shrinks_failPending _ _).trans
        (.of_same (List.Sublist.refl _) rfl rfl rfl rfl)

/-- A step that notifies no reader gives none a reason to wake up, unless a `close` runs that
will notify it. -/
structure Calm (s t : Session κ) : Prop where
  readerError : s.dispatcher.readerError = none → t.dispatcher.readerError = none
  closed : t.dispatcher.closed = true → s.dispatcher.closed = true ∨ t.CloseRuns
  closeRuns : s.CloseRuns → t.CloseRuns

omit [DecidableEq κ] in
theorem Leaves.calm {s t : Session κ} (h : Leaves s t) : Calm s t where
  readerError := fun hnone => h.dispatcher.readerError.trans hnone
  closed := fun hclosed => .inl (h.dispatcher.closed ▸ hclosed)
  closeRuns := fun hruns => by
    rw [CloseRuns, h.closers]
    exact hruns

theorem calm_step {s t : Session κ} {action : SessionAction κ} (hstepped : Stepped s action t)
    (hsilent : s.notifies action = false) : Calm s t := by
  cases hstepped with
  | packet | readerFails => cases hsilent
  | start request => exact (s.leaves_startCall request).calm
  | onCall _ hstepped => exact (leaves_callStep hstepped).calm
  | pop hpopped => exact (leaves_popUpdate hpopped).calm
  | writerReturns => exact ⟨id, .inl, id⟩
  | backlog hreader hread =>
      exact Leaves.calm ⟨Dispatcher.leaves_of_reader hreader hread, rfl⟩
  | opened => exact ⟨fun _ => rfl, fun hclosed => Bool.noConfusion hclosed, id⟩
  | close =>
      refine ⟨id, fun _ => .inr ?_, ?_⟩
      · exact ⟨.awaitingReader, List.mem_append_right _ (List.mem_singleton_self _), by simp⟩
      · rintro ⟨closer, hmem, hne⟩
        exact ⟨closer, List.mem_append_left _ hmem, hne⟩
  | @cancelWriter k hcloser =>
      have hleaves := s.leaves_cancelWriter
      -- the `close` that takes this step still runs after it
      have hruns : { s.cancelWriter with
          closers := s.closers.set k (.awaitingWriter s.held) }.CloseRuns := by
        obtain ⟨hbound, -⟩ := List.getElem?_eq_some_iff.mp hcloser
        exact ⟨_, List.mem_set hbound _, by simp⟩
      exact ⟨hleaves.calm.readerError, fun _ => .inr hruns, fun _ => hruns⟩
  | failOutstanding hcloser =>
      simp only [notifies, hcloser] at hsilent
      cases hsilent

end Session

/-! ## One look -/

namespace Dispatcher

/-- A look takes from the backlogs only. -/
structure Looked (before after : Dispatcher) : Prop where
  messageBacklog : after.messageBacklog.Sublist before.messageBacklog
  packetBacklog : after.packetBacklog.Sublist before.packetBacklog
  rest : after = { before with
    messageBacklog := after.messageBacklog, packetBacklog := after.packetBacklog }

theorem Looked.arrived {before after : Dispatcher} (h : Looked before after) :
    after.arrived = before.arrived := by
  rw [h.rest]

theorem Looked.futures {before after : Dispatcher} (h : Looked before after) :
    after.futures = before.futures := by
  rw [h.rest]

theorem Looked.pending {before after : Dispatcher} (h : Looked before after) :
    after.pending = before.pending := by
  rw [h.rest]

theorem Looked.readerError {before after : Dispatcher} (h : Looked before after) :
    after.readerError = before.readerError := by
  rw [h.rest]

theorem Looked.closed {before after : Dispatcher} (h : Looked before after) :
    after.closed = before.closed := by
  rw [h.rest]

theorem readPacket_fst (self : Dispatcher) : self.readPacket.1 = self.packetBacklog.head? := by
  unfold readPacket
  split
  · rename_i hbacklog
    rw [hbacklog]
    rfl
  · rename_i hbacklog
    rw [hbacklog]
    rfl

theorem readPacket_snd (self : Dispatcher) :
    self.readPacket.2 = { self with packetBacklog := self.packetBacklog.tail } := by
  unfold readPacket
  split
  · rename_i hbacklog
    rw [hbacklog, List.tail_nil, ← hbacklog]
  · rename_i hbacklog
    rw [hbacklog]
    rfl

theorem looked (self : Dispatcher) (request : ReadRequest) :
    Looked self (self.look request).2 := by
  cases request with
  | packet =>
      simp only [look, readPacket_snd]
      exact ⟨List.Sublist.refl _, List.tail_sublist _, rfl⟩
  | message =>
      simp only [look, (readMessage_eq self).2]
      exact ⟨List.eraseP_sublist, List.Sublist.refl _, rfl⟩
  | matching predicate =>
      simp only [look, (readUntil_eq self predicate).2]
      exact ⟨List.eraseP_sublist, List.Sublist.refl _, rfl⟩

/-- With less in the backlogs a look finds nothing either. -/
theorem look_none {before after : Dispatcher}
    (hmessages : after.messageBacklog.Sublist before.messageBacklog)
    (hpackets : after.packetBacklog.Sublist before.packetBacklog) {request : ReadRequest}
    (h : (before.look request).1 = none) : (after.look request).1 = none := by
  cases request with
  | packet =>
      simp only [look, readPacket_fst, Option.map_eq_none_iff, List.head?_eq_none_iff] at h ⊢
      rw [h] at hpackets
      exact List.sublist_nil.mp hpackets
  | message =>
      simp only [look, (readMessage_eq _).1, BoundedQueue.read, Option.map_eq_none_iff,
        List.find?_eq_none] at h ⊢
      exact fun a ha => h a (hmessages.subset ha)
  | matching predicate =>
      simp only [look, (readUntil_eq _ predicate).1, BoundedQueue.read, Option.map_eq_none_iff,
        List.find?_eq_none] at h ⊢
      exact fun a ha => h a (hmessages.subset ha)

/-- A pass hands over what the look finds. -/
theorem readPass_found {self : Dispatcher} {request : ReadRequest} {item : ReadItem}
    (h : (self.look request).1 = some item) :
    self.readPass request = (.result (some item), (self.look request).2) := by
  rw [readPass, h]

theorem readPass_none {self : Dispatcher} {request : ReadRequest}
    (h : (self.look request).1 = none) : self.readPass request = (self.unread, self) := by
  rw [readPass, h]

theorem readPass_looked (self : Dispatcher) (request : ReadRequest) :
    Looked self (self.readPass request).2 := by
  cases h : (self.look request).1 with
  | none =>
      rw [readPass_none h]
      exact ⟨List.Sublist.refl _, List.Sublist.refl _, rfl⟩
  | some item =>
      rw [readPass_found h]
      exact self.looked request

theorem unread_ne_some (self : Dispatcher) (item : ReadItem) :
    self.unread ≠ .result (some item) := by
  unfold unread
  split
  · simp
  · simp
  · split <;> simp

/-- A reader goes on waiting only in an open session. -/
theorem unread_waiting {self : Dispatcher} (h : self.unread = .waiting) :
    self.readerError = none ∧ self.closed = false := by
  unfold unread at h
  split at h
  · cases h
  · cases h
  · rename_i hnone
    split at h
    · cases h
    · rename_i hopen
      exact ⟨hnone, eq_false_of_ne_true hopen⟩

/-- A reader whose pass ends without a result found nothing in an open session. -/
theorem readPass_waiting {self : Dispatcher} {request : ReadRequest}
    (h : (self.readPass request).1 = .waiting) :
    (self.look request).1 = none ∧ self.readerError = none ∧ self.closed = false ∧
      (self.readPass request).2 = self := by
  cases hlook : (self.look request).1 with
  | some item =>
      rw [readPass_found hlook] at h
      cases h
  | none =>
      rw [readPass_none hlook] at h ⊢
      obtain ⟨herror, hopen⟩ := unread_waiting h
      exact ⟨rfl, herror, hopen, rfl⟩

end Dispatcher

/-! ## No wake-up is lost -/

namespace Session

variable {κ : Type}

/-- There is nothing that a reader should wake up for now. -/
structure NothingFor (s : Session κ) (request : ReadRequest) : Prop where
  look : (s.dispatcher.look request).1 = none
  readerError : s.dispatcher.readerError = none
  closed : s.dispatcher.closed = true → s.CloseRuns

theorem NothingFor.step [DecidableEq κ] {s t : Session κ} {request : ReadRequest}
    (h : s.NothingFor request) {action : SessionAction κ} (hstepped : Stepped s action t)
    (hsilent : s.notifies action = false) : t.NothingFor request := by
  have hcalm := calm_step hstepped hsilent
  have hshrinks : s.dispatcher.Shrinks t.dispatcher := by
    apply shrinks_step hstepped
    rintro packet rfl
    cases hsilent
  constructor
  · have hpackets : t.dispatcher.packetBacklog.Sublist s.dispatcher.packetBacklog := by
      rw [hshrinks.packetBacklog]
    exact Dispatcher.look_none hshrinks.messageBacklog hpackets h.look
  · exact hcalm.readerError h.readerError
  · intro hclosed
    rcases hcalm.closed hclosed with hwas | hruns
    · exact hcalm.closeRuns (h.closed hwas)
    · exact hruns

theorem NothingFor.looked {s : Session κ} {request : ReadRequest} (h : s.NothingFor request)
    {dispatcher : Dispatcher} (hlooked : s.dispatcher.Looked dispatcher) :
    { s with dispatcher }.NothingFor request := by
  constructor
  · exact Dispatcher.look_none hlooked.messageBacklog hlooked.packetBacklog h.look
  · exact hlooked.readerError.trans h.readerError
  · exact fun hclosed => h.closed (hlooked.closed.symm.trans hclosed)

end Session

namespace SessionReaders

variable {κ : Type}

/-- The readers that sleep, but for one, have nothing to wake up for. -/
def RestedExcept (state : SessionReaders κ) (r : Nat) : Prop :=
  ∀ (i : Nat) (reader : Reader), i ≠ r → state.readers[i]? = some reader →
    reader.asleep = true → state.session.NothingFor reader.request

/-- The readers that sleep have nothing to wake up for. -/
def Rested (state : SessionReaders κ) : Prop :=
  ∀ (i : Nat) (reader : Reader), state.readers[i]? = some reader →
    reader.asleep = true → state.session.NothingFor reader.request

/-- A pass lets only a reader sleep that found nothing. -/
theorem RestedExcept.pass {s : SessionReaders κ} {r : Nat} (h : s.RestedExcept r)
    (reader : Reader) : (s.pass r reader).Rested := by
  intro i other hother hasleep
  have hlooked := s.session.dispatcher.readPass_looked reader.request
  rw [SessionReaders.pass, List.getElem?_set] at hother
  split at hother
  · split at hother
    · cases hother
      have hwaits : (s.session.dispatcher.readPass reader.request).1 = .waiting := by
        simpa [Reader.asleep] using hasleep
      obtain ⟨hlook, herror, hopen, hsame⟩ := Dispatcher.readPass_waiting hwaits
      constructor
      · simpa only [SessionReaders.pass, hsame] using hlook
      · simpa only [SessionReaders.pass, hsame] using herror
      · intro hclosed
        simp only [SessionReaders.pass, hsame, hopen] at hclosed
        cases hclosed
    · cases hother
  · rename_i hne
    exact (h i other (Ne.symm hne) hother hasleep).looked hlooked

/-- A reader that ends does not sleep. -/
theorem Rested.finishReader {s : SessionReaders κ} (h : s.Rested) (r : Nat)
    {task : FutureState (Option ReadItem)} (hdone : task ≠ .waiting) :
    (s.finishReader r task).Rested := by
  intro i other hother hasleep
  rw [SessionReaders.finishReader, List.getElem?_modify] at hother
  obtain ⟨reader, hreader, heq⟩ := Option.map_eq_some_iff.mp hother
  split at heq
  · rw [← heq] at hasleep
    simp [Reader.asleep, hdone] at hasleep
  · rw [← heq] at hasleep ⊢
    exact h i reader hreader hasleep

/-- A reader that was just created is the only one that may have something to wake up for. -/
theorem Rested.append {s : SessionReaders κ} (h : s.Rested) (reader : Reader) :
    { s with readers := s.readers ++ [reader] }.RestedExcept s.readers.length := by
  intro i other hne hother hasleep
  have hbound := (List.getElem?_eq_some_iff.mp hother).1
  rw [List.length_append, List.length_singleton] at hbound
  have hlt : i < s.readers.length := by omega
  exact h i other ((List.getElem?_append_left hlt).symm.trans hother) hasleep

/-- A notification makes no reader sleep. -/
theorem Rested.passOn {s : SessionReaders κ} (h : s.Rested) (r : Nat) :
    { s with readers := s.readers.modify r Reader.notify }.Rested := by
  intro i other hother hasleep
  rw [List.getElem?_modify] at hother
  obtain ⟨reader, hreader, heq⟩ := Option.map_eq_some_iff.mp hother
  split at heq
  · rw [← heq, Reader.notify_asleep] at hasleep
    cases hasleep
  · rw [← heq] at hasleep ⊢
    exact h i reader hreader hasleep

variable [DecidableEq κ]

theorem Rested.session {s : SessionReaders κ} (h : s.Rested) {action : SessionAction κ}
    {session : Session κ} (hstep : s.session.step action = some session) :
    ({ s with
      session
      readers := if s.session.notifies action then s.readers.map Reader.notify
        else s.readers }).Rested := by
  intro i other hother hasleep
  simp only at hother
  split at hother
  · rw [List.getElem?_map] at hother
    obtain ⟨reader, -, rfl⟩ := Option.map_eq_some_iff.mp hother
    rw [Reader.notify_asleep] at hasleep
    cases hasleep
  · rename_i hsilent
    exact (h i other hother hasleep).step (.of_step hstep) (eq_false_of_ne_true hsilent)

theorem Rested.step {s t : SessionReaders κ} (h : s.Rested) {action : ReaderAction κ}
    (hstep : s.step action = some t) : t.Rested := by
  cases Stepped.of_step hstep with
  | session _ hstepped => exact h.session hstepped
  | late request =>
      intro i other hother hasleep
      rcases eq_or_ne i s.readers.length with rfl | hne
      · rw [List.getElem?_concat_length] at hother
        cases hother
        cases hasleep
      · exact h.append _ i other hne hother hasleep
  | read request => exact (h.append { request, timeout := _ }).pass _
  | passOn r => exact h.passOn r
  | @wake r reader => exact RestedExcept.pass (fun i other _ => h i other) reader
  | timeout => exact h.finishReader _ (by simp)
  | cancel => exact h.finishReader _ (by simp)

/-- No wake-up is lost. In every reachable state a reader that sleeps, and is not notified, would
find nothing to read, the reader task has not failed, and the session is open or a `close` still
runs that is going to notify it. So a session that has closed leaves no reader asleep. -/
theorem no_lost_wakeup {start t : SessionReaders κ} {actions : List (ReaderAction κ)}
    (hfresh : start.Fresh) (hrun : Machine.Run step start actions t) :
    (∀ (r : Nat) (reader : Reader), t.readers[r]? = some reader → reader.task = .waiting →
      reader.notified = false →
        (t.session.dispatcher.look reader.request).1 = none ∧
        t.session.dispatcher.readerError = none ∧
        (t.session.dispatcher.closed = true →
          ∃ closer ∈ t.session.closers, closer ≠ .closingTransport)) ∧
    ((∀ closer ∈ t.session.closers, closer = .closingTransport) →
      t.session.dispatcher.closed = true → ∀ reader ∈ t.readers,
        reader.task ≠ .waiting ∨ reader.notified = true) := by
  have hinit : start.Rested := by
    intro i reader hreader
    rw [hfresh.2.2.1] at hreader
    cases hreader
  have hrested : t.Rested := hrun.invariant (fun s a t hs _ hstep => hs.step hstep) hinit
  have hasleep : ∀ reader : Reader, reader.task = .waiting → reader.notified = false →
      reader.asleep = true := by
    intro reader hwaits hunnotified
    rw [Reader.asleep, hwaits, hunnotified]
    rfl
  constructor
  · intro r reader hreader hwaits hunnotified
    have hnothing := hrested r reader hreader (hasleep reader hwaits hunnotified)
    exact ⟨hnothing.look, hnothing.readerError, hnothing.closed⟩
  · intro hclosers hclosed reader hmem
    by_contra hsleeps
    obtain ⟨hwaits, hunnotified⟩ := not_or.mp hsleeps
    obtain ⟨r, hreader⟩ := List.mem_iff_getElem?.mp hmem
    have hnothing := hrested r reader hreader
      (hasleep reader (not_not.mp hwaits) (eq_false_of_ne_true hunnotified))
    obtain ⟨closer, hcloser, hne⟩ := hnothing.closed hclosed
    exact hne (hclosers closer hcloser)

/-- Two readers get a packet and its message, and a third one sleeps. -/
def sampleReads : List (ReaderAction Nat) :=
  [.session .opened,
    .read .packet .unlimited,
    .read (.matching fun message => message.serviceId = 2) .positive,
    .session (.packet { type := 6, data := [2, 0x37, 1, 0, 0, 0xF3, 3, 0xC6, 2] }),
    .wake 1,
    .wake 0,
    .read .message .unlimited]

theorem fresh_empty : Fresh ({} : SessionReaders Nat) :=
  ⟨⟨⟨rfl, fun _ => rfl, rfl, rfl, rfl⟩, rfl, rfl, rfl, rfl, rfl, rfl, rfl, rfl, rfl⟩, rfl, rfl, rfl⟩

theorem no_lost_wakeup_sample :
    ∃ (t : SessionReaders Nat) (reader : Reader), Machine.Run step {} sampleReads t ∧
      t.readers[2]? = some reader ∧ reader.task = .waiting ∧ reader.notified = false ∧
      (t.session.dispatcher.look reader.request).1 = none := by
  obtain ⟨t, reader, hrun, hreader, hwaits, hunnotified⟩ :
      ∃ (t : SessionReaders Nat) (reader : Reader), Machine.Run step {} sampleReads t ∧
        t.readers[2]? = some reader ∧ reader.task = .waiting ∧ reader.notified = false :=
    ⟨_, _, Machine.run_iff_exec.mpr rfl, rfl, rfl, rfl⟩
  have hnothing := (no_lost_wakeup fresh_empty hrun).1 2 reader hreader hwaits hunnotified
  exact ⟨t, reader, hrun, hreader, hwaits, hunnotified, hnothing.1⟩

end SessionReaders

end Tekmar482
