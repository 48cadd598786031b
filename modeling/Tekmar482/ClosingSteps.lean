import Tekmar482.CoalescedUpdates

/-!
# The steps of a closed session

A closed session lets no transaction past its lock and queues no update, and
what was closed stays closed until it is opened again.
-/

namespace Tekmar482

namespace PyException

/-- The error of a connection that was closed. -/
def IsConnectionClosed (self : PyException) : Prop := ∃ text, self = .connectionClosedError text

end PyException

namespace FutureState

/-- A future that failed because the connection was closed. -/
def IsConnectionClosed {α : Type} (self : FutureState α) : Prop :=
  ∃ err : PyException, err.IsConnectionClosed ∧ self = .exception err

theorem IsConnectionClosed.ne_waiting {α : Type} {self : FutureState α}
    (h : self.IsConnectionClosed) : self ≠ .waiting := by
  obtain ⟨err, -, rfl⟩ := h
  exact nofun

end FutureState

namespace Call

variable {κ : Type}

/-- A call whose write starts with the checks of the session, or can be encoded. -/
def Writable (self : Call κ) : Prop := self.key ≠ none → self.response = none → self.Encodable

theorem raised_connectionClosed (self : Call κ) {err : PyException} (h : err.IsConnectionClosed) :
    (self.raised err).IsConnectionClosed := by
  obtain ⟨text, rfl⟩ := h
  refine ⟨.connectionClosedError text, ⟨text, rfl⟩, ?_⟩
  unfold raised
  cases self.response <;> rfl

/-- What every step keeps of a call while the session is closed. -/
structure Winds (before after : Call κ) : Prop where
  key : after.key = before.key
  response : after.response = before.response
  interrupted : before.interrupted = true → after.interrupted = true
  cancelRequested : before.cancelRequested = true → after.cancelRequested = true
  locked : after.phase.locked = true → before.phase.locked = true

theorem Winds.refl (call : Call κ) : Winds call call := ⟨rfl, rfl, id, id, id⟩

theorem Winds.trans {first second third : Call κ} (h : Winds first second)
    (h' : Winds second third) : Winds first third where
  key := h'.key.trans h.key
  response := h'.response.trans h.response
  interrupted := fun hyes => h'.interrupted (h.interrupted hyes)
  cancelRequested := fun hyes => h'.cancelRequested (h.cancelRequested hyes)
  locked := fun hlocked => h.locked (h'.locked hlocked)

theorem settle_winds (call : Call κ) (state : FutureState CallResult) :
    call.Winds (call.settle state) := by
  unfold settle
  split
  · exact ⟨rfl, rfl, id, id, id⟩
  · exact .refl call

theorem finish_winds (call : Call κ) (result : FutureState CallResult) :
    call.Winds (call.finish result) := by
  unfold finish
  split
  · exact ⟨rfl, rfl, id, id, nofun⟩
  · have hsettled := call.settle_winds result
    exact ⟨hsettled.key, hsettled.response, hsettled.interrupted, hsettled.cancelRequested, nofun⟩

end Call

namespace Session

variable {κ : Type}

/-- What every step of a closed session does, besides those of `close`. -/
structure Winds (s t : Session κ) : Prop where
  closed : s.dispatcher.closed = true → t.dispatcher.closed = true
  readerError : t.dispatcher.readerError = s.dispatcher.readerError
  reading : s.reading = false → t.reading = false
  transport : s.transportOpen = false → t.transportOpen = false
  updates : s.coalescedUpdates = .empty → t.coalescedUpdates = .empty
  closers : t.closers = s.closers
  kept : ∀ (c : Nat) (call : Call κ), s.calls[c]? = some call →
    ∃ call', t.calls[c]? = some call' ∧ call.Winds call'
  new : ∀ (c : Nat) (call' : Call κ), t.calls[c]? = some call' → s.calls[c]? = none →
    call'.phase.locked = false
  waiting : ∀ (c : Nat) (call' : Call κ), t.calls[c]? = some call' → call'.phase.locked = true →
    t.dispatcher.futures c = some .waiting → s.dispatcher.futures c = some .waiting

theorem Winds.locked {s t : Session κ} (h : Winds s t) {c : Nat} {call' : Call κ}
    (hcall' : t.calls[c]? = some call') (hlocked : call'.phase.locked = true) :
    ∃ call, s.calls[c]? = some call ∧ call.phase.locked = true ∧ call'.response = call.response := by
  cases hcall : s.calls[c]? with
  | none =>
      rw [h.new c call' hcall' hcall] at hlocked
      exact nomatch hlocked
  | some call =>
      obtain ⟨after, hafter, hwinds⟩ := h.kept c call hcall
      cases hcall'.symm.trans hafter
      exact ⟨call, rfl, hwinds.locked hlocked, hwinds.response⟩

theorem Winds.trans {s t u : Session κ} (h : Winds s t) (h' : Winds t u) : Winds s u where
  closed := fun hclosed => h'.closed (h.closed hclosed)
  readerError := h'.readerError.trans h.readerError
  reading := fun hreading => h'.reading (h.reading hreading)
  transport := fun htransport => h'.transport (h.transport htransport)
  updates := fun hupdates => h'.updates (h.updates hupdates)
  closers := h'.closers.trans h.closers
  kept := by
    intro c call hcall
    obtain ⟨mid, hmid, hwinds⟩ := h.kept c call hcall
    obtain ⟨last, hlast, hwinds'⟩ := h'.kept c mid hmid
    exact ⟨last, hlast, hwinds.trans hwinds'⟩
  new := by
    intro c last hlast hnone
    cases hmid : t.calls[c]? with
    | none => exact h'.new c last hlast hmid
    | some mid =>
        obtain ⟨last', hlast', hwinds⟩ := h'.kept c mid hmid
        cases hlast.symm.trans hlast'
        rw [← Bool.not_eq_true]
        intro hlocked
        have hnot := h.new c mid hmid hnone
        rw [hwinds.locked hlocked] at hnot
        exact nomatch hnot
  waiting := by
    intro c last hlast hlocked hwaits
    obtain ⟨mid, hmid, hlocked', -⟩ := h'.locked hlast hlocked
    exact h.waiting c mid hmid hlocked' (h'.waiting c last hlast hlocked hwaits)

theorem Winds.of_same {s t : Session κ}
    (hclosed : s.dispatcher.closed = true → t.dispatcher.closed = true)
    (hreaderError : t.dispatcher.readerError = s.dispatcher.readerError)
    (hreading : s.reading = false → t.reading = false)
    (htransport : s.transportOpen = false → t.transportOpen = false)
    (hupdates : s.coalescedUpdates = .empty → t.coalescedUpdates = .empty)
    (hclosers : t.closers = s.closers) (hcalls : t.calls = s.calls)
    (hwaiting : ∀ c, t.dispatcher.futures c = some .waiting →
      s.dispatcher.futures c = some .waiting) : Winds s t where
  closed := hclosed
  readerError := hreaderError
  reading := hreading
  transport := htransport
  updates := hupdates
  closers := hclosers
  kept := fun _ call hcall => ⟨call, hcalls ▸ hcall, .refl call⟩
  new := by
    intro c call' hcall' hnone
    rw [hcalls, hnone] at hcall'
    exact nomatch hcall'
  waiting := fun c _ _ _ => hwaiting c

theorem Winds.refl (s : Session κ) : Winds s s := .of_same id rfl id id id rfl rfl fun _ => id

theorem winds_modifyCall (s : Session κ) (c : Nat) {f : Call κ → Call κ}
    (hf : ∀ call, s.calls[c]? = some call → call.Winds (f call)) :
    Winds s (s.modifyCall c f) where
  closed := id
  readerError := rfl
  reading := id
  transport := id
  updates := id
  closers := rfl
  kept := by
    intro d call hcall
    rcases eq_or_ne d c with rfl | hne
    · exact ⟨f call, calls_modifyCall_self f hcall, hf call hcall⟩
    · exact ⟨call, (calls_modifyCall_of_ne f hne).trans hcall, .refl call⟩
  new := by
    intro d call' hcall' hnone
    rcases calls_modifyCall_cases hcall' with ⟨rfl, call, hcall, -⟩ | ⟨-, hold⟩
    · exact nomatch hcall.symm.trans hnone
    · exact nomatch hold.symm.trans hnone
  waiting := fun _ _ _ _ => id

theorem winds_append (s : Session κ) {call : Call κ} (hcall : call.phase.locked = false) :
    Winds s { s with calls := s.calls ++ [call] } where
  closed := id
  readerError := rfl
  reading := id
  transport := id
  updates := id
  closers := rfl
  kept := fun c old hold => ⟨old, by
    rw [List.getElem?_append_left (List.getElem?_eq_some_iff.mp hold).1, hold], .refl old⟩
  new := by
    intro c call' hcall' hnone
    rcases getElem?_concat hcall' with hold | ⟨-, rfl⟩
    · exact nomatch hold.symm.trans hnone
    · exact hcall
  waiting := fun _ _ _ _ => id

theorem winds_cancel (s : Session κ) (future : Nat) :
    Winds s { s with dispatcher := s.dispatcher.settle future .cancelled } := by
  have hsettles := Dispatcher.settles_cancel s.dispatcher future
  refine .of_same ?_ ?_ id id id rfl rfl fun c hwaits => (hsettles.waiting c hwaits).1
  · unfold Dispatcher.settle
    split <;> exact id
  · unfold Dispatcher.settle
    split <;> rfl

theorem winds_endTransaction (s : Session κ) (c : Nat) (result : FutureState CallResult) :
    Winds s (s.endTransaction c result) := by
  have hcalls := winds_modifyCall s c fun call _ => call.finish_winds result
  exact hcalls.trans (.of_same id rfl id id id rfl rfl fun _ => id)

/-- A call that has no lock yet registers its request. -/
theorem winds_acquired {s : Session κ} {c : Nat} {call : Call κ} (hcall : s.calls[c]? = some call)
    (hlocked : call.phase.locked = false) : Winds s (s.acquired c call) := by
  unfold acquired
  split
  · exact .of_same id rfl id id id rfl rfl fun _ => id
  · refine ⟨id, rfl, id, id, id, rfl, (Winds.refl s).kept, (Winds.refl s).new, ?_⟩
    intro d call' hcall' hlocked' hwaits
    have hne : d ≠ c := by
      rintro rfl
      cases hcall.symm.trans hcall'
      rw [hlocked] at hlocked'
      exact nomatch hlocked'
    simpa [registerPending, Dispatcher.register, Function.update_of_ne hne] using hwaits

theorem winds_interrupt (s : Session κ) (c : Nat) (call : Call κ) :
    Winds s (s.interrupt c call) := by
  have hcalls : Winds s (s.modifyCall c fun call => { call with interrupted := true }) :=
    winds_modifyCall s c fun call _ => ⟨rfl, rfl, fun _ => rfl, id, id⟩
  unfold interrupt
  split
  · exact hcalls.trans (winds_cancel _ c)
  · exact hcalls

theorem winds_cancelWriter (s : Session κ) : Winds s s.cancelWriter := by
  unfold cancelWriter
  split
  · split
    · exact .of_same id rfl id id id rfl rfl fun _ => id
    · exact (winds_interrupt s _ _).trans (.of_same id rfl id id id rfl rfl fun _ => id)
  · exact .of_same id rfl id id id rfl rfl fun _ => id

theorem winds_failCoalescedUpdates (s : Session κ) (err : PyException) :
    Winds s (s.failCoalescedUpdates err) where
  closed := id
  readerError := rfl
  reading := id
  transport := id
  updates := fun _ => rfl
  closers := rfl
  kept := by
    intro c call hcall
    refine ⟨_, by rw [failCoalescedUpdates, List.getElem?_mapIdx, hcall]; rfl, ?_⟩
    split
    · exact call.settle_winds _
    · exact .refl call
  new := by
    intro c call' hcall' hnone
    rw [failCoalescedUpdates, List.getElem?_mapIdx, hnone] at hcall'
    cases hcall'
  waiting := fun _ _ _ _ => id

/-- The checks of a closed session fail. -/
theorem startWrite_closed {s : Session κ} (hclosed : s.dispatcher.closed = true) (call : Call κ) :
    ∃ err, s.startWrite call = .error err ∧
      (s.dispatcher.readerError = none → call.Writable → err.IsConnectionClosed) := by
  have hunavailable : ∃ err, s.dispatcher.raiseIfUnavailable = .error err ∧
      (s.dispatcher.readerError = none → err.IsConnectionClosed) := by
    unfold Dispatcher.raiseIfUnavailable
    split
    · rename_i err herr
      exact ⟨err, rfl, fun hnone => nomatch herr.symm.trans hnone⟩
    · rw [if_pos hclosed]
      exact ⟨_, rfl, fun _ => ⟨_, rfl⟩⟩
  obtain ⟨err, herr, hconnection⟩ := hunavailable
  unfold startWrite
  split
  · rename_i key hkey hresponse
    unfold Dispatcher.sendUpdate
    cases hmessage : call.command.toMessage with
    | error err' =>
        refine ⟨err', rfl, fun _ hwritable => ?_⟩
        obtain ⟨message, -, hok, -⟩ := hwritable (by simp [hkey]) hresponse
        exact nomatch hmessage.symm.trans hok
    | ok message =>
        simp only [bind, Except.bind, Dispatcher.writeMessage]
        cases hpacket : message.toPacket with
        | error err' =>
            refine ⟨err', rfl, fun _ hwritable => ?_⟩
            obtain ⟨message', packet, hok, hpacket'⟩ := hwritable (by simp [hkey]) hresponse
            cases hmessage.symm.trans hok
            exact nomatch hpacket.symm.trans hpacket'
        | ok packet => exact ⟨err, by simp only [herr], fun hnone _ => hconnection hnone⟩
  · refine ⟨err, ?_, fun hnone _ => hconnection hnone⟩
    rw [Dispatcher.sendUnlocked, herr]
    rfl

/-- A transaction of a closed session ends where it takes the lock. -/
theorem beginTransaction_closed {s : Session κ} (hclosed : s.dispatcher.closed = true) (c : Nat)
    (call : Call κ) : ∃ err,
      s.beginTransaction c call = (s.acquired c call).endTransaction c (call.raised err) ∧
        (s.dispatcher.readerError = none → call.Writable → err.IsConnectionClosed) := by
  obtain ⟨err, hstart, hconnection⟩ := startWrite_closed hclosed call
  exact ⟨err, by rw [beginTransaction, hstart], hconnection⟩

theorem winds_beginTransaction {s : Session κ} (hclosed : s.dispatcher.closed = true) {c : Nat}
    {call : Call κ} (hcall : s.calls[c]? = some call) (hlocked : call.phase.locked = false) :
    Winds s (s.beginTransaction c call) := by
  obtain ⟨err, heq, -⟩ := beginTransaction_closed hclosed c call
  rw [heq]
  exact (winds_acquired hcall hlocked).trans (winds_endTransaction _ c _)

theorem winds_failOutstanding (s : Session κ) : Winds s s.failOutstanding := by
  refine (winds_failCoalescedUpdates s (.connectionClosedError "tekmar 482 session closed")).trans
    (.of_same id rfl id (fun _ => rfl) id rfl rfl fun c hwaits => ?_)
  exact ((Dispatcher.settles_failPending _ _).waiting c hwaits).1

theorem winds_popped (s : Session κ) {key : κ} {c : Nat} {rest : OrderedDict κ Nat}
    (hpop : s.coalescedUpdates.popFirst = some ((key, c), rest)) :
    Winds s (s.popped key c rest) := by
  refine .of_same id rfl id id (fun hempty => ?_) rfl rfl fun _ => id
  rw [hempty] at hpop
  exact nomatch hpop

theorem winds_hold (s : Session κ) {key : κ} {c : Nat} {rest : OrderedDict κ Nat}
    (hpop : s.coalescedUpdates.popFirst = some ((key, c), rest)) :
    Winds s ((s.popped key c rest).hold c) := by
  refine (winds_popped s hpop).trans ((winds_modifyCall (s.popped key c rest) c fun call _ =>
    ?_).trans (.of_same id rfl id id id rfl rfl fun _ => id))
  exact (⟨rfl, rfl, id, id, nofun⟩ : call.Winds { call with phase := .acquiring })

theorem winds_popUpdate {s t : Session κ} (hclosed : s.dispatcher.closed = true)
    (hpopped : Popped s t) : Winds s t := by
  cases hpopped with
  | skipped _ hpop => exact winds_popped s hpop
  | held _ hpop => exact winds_hold s hpop
  | @began key c rest call _ hpop hcall =>
      have hacquiring := calls_modifyCall_self (s := s.popped key c rest) (fun call =>
        { call with phase := .acquiring }) hcall
      apply (winds_hold s hpop).trans
      apply winds_beginTransaction
      · exact hclosed
      · exact hacquiring
      · rfl

theorem winds_cancelCall (s : Session κ) (c : Nat) (call : Call κ) :
    Winds s (s.cancelCall c call) := by
  unfold cancelCall
  split
  · exact (winds_interrupt s c call).trans
      (winds_modifyCall _ c fun call _ => ⟨rfl, rfl, id, fun _ => rfl, id⟩)
  · refine winds_modifyCall s c fun call _ => ?_
    have hsettled := call.settle_winds .cancelled
    exact ⟨hsettled.key, hsettled.response, hsettled.interrupted, fun _ => rfl, hsettled.locked⟩

section

variable [DecidableEq κ]

theorem winds_startCall {s : Session κ} (hclosed : s.dispatcher.closed = true)
    (request : SessionRequest κ) : Winds s (s.startCall request) := by
  have hnew : (Call.create request).phase.locked = false := (Call.create_new request).locked
  simp only [startCall]
  split
  · have hcreated := winds_append s hnew
    split
    · exact hcreated
    · apply hcreated.trans
      apply winds_beginTransaction
      · exact hclosed
      · exact List.getElem?_concat_length
      · exact hnew
  · split
    · exact winds_append s rfl
    · rename_i havailable
      simp [Dispatcher.raiseIfUnavailable, hclosed] at havailable
      split at havailable <;> cases havailable

theorem winds_removeCoalescedUpdate (s : Session κ) (key : κ) (c : Nat) :
    Winds s (s.removeCoalescedUpdate key c) := by
  unfold removeCoalescedUpdate
  split
  · rename_i hget
    refine .of_same id rfl id id (fun hempty => ?_) rfl rfl fun _ => id
    rw [hempty] at hget
    cases hget
  · exact .refl s

theorem winds_callStep {s t : Session κ} (hclosed : s.dispatcher.closed = true) {c : Nat}
    {call : Call κ} (hcall : s.calls[c]? = some call) {action : CallAction}
    (hstepped : CallStepped s c call action t) : Winds s t := by
  cases hstepped with
  | acquire hphase => exact winds_beginTransaction hclosed hcall (by rw [hphase]; rfl)
  | written | writeFails | resume => exact winds_endTransaction s c _
  | awaits hphase =>
      apply winds_modifyCall
      intro other hother
      cases hcall.symm.trans hother
      exact ⟨rfl, rfl, id, id, fun _ => by rw [hphase]; rfl⟩
  | timeout =>
      have hcalls : Winds s (s.modifyCall c fun call => { call with timedOut := true }) :=
        winds_modifyCall s c fun call _ => ⟨rfl, rfl, id, id, id⟩
      exact hcalls.trans (winds_cancel _ c)
  | cancel => exact winds_cancelCall s c call
  | @resumeCaller key =>
      have hremoved : Winds s (if call.wakeup = .cancelled then s.removeCoalescedUpdate key c
          else s) := by
        split
        · exact winds_removeCoalescedUpdate s key c
        · exact .refl s
      exact hremoved.trans (winds_modifyCall _ c fun other _ => ⟨rfl, rfl, id, id, id⟩)

theorem winds_step {s t : Session κ} (hclosed : s.dispatcher.closed = true)
    (hreading : s.reading = false) {action : SessionAction κ} (hopened : action ≠ .opened)
    (hclose : action ≠ .close) (hcloseStep : ∀ k, action ≠ .closeStep k)
    (hstepped : Stepped s action t) : Winds s t := by
  cases hstepped with
  | start request => exact winds_startCall hclosed request
  | onCall hcall hstepped => exact winds_callStep hclosed hcall hstepped
  | pop hpopped => exact winds_popUpdate hclosed hpopped
  | writerReturns => exact .of_same id rfl id id id rfl rfl fun _ => id
  | packet hreads | readerFails hreads => exact nomatch hreading.symm.trans hreads
  | backlog hreader hread =>
      have hreads := Dispatcher.reads_of_reader hreader hread
      exact .of_same (fun hyes => hreads.closed.trans hyes) hreads.readerError id id id rfl rfl
        fun c hwaits => hreads.futures ▸ hwaits
  | opened => exact absurd rfl hopened
  | close => exact absurd rfl hclose
  | cancelWriter | failOutstanding => exact absurd rfl (hcloseStep _)

end

end Session

end Tekmar482
