import Tekmar482.SessionLinks
import Tekmar482.MessageConservation

/-!
# What a step can do to a transaction

Every step of a session dispatches a message, starts a transaction, ends one, or
is quiet: it leaves the lock, the commands written and the messages received as
they are.
-/

namespace Tekmar482

/-! ## Steps of the readers -/

namespace Dispatcher

/-- Readers and subscribers take messages from the backlog and the queues only. -/
structure Reads (before after : Dispatcher) : Prop where
  pending : after.pending = before.pending
  futures : after.futures = before.futures
  backlog : after.messageBacklog.Sublist before.messageBacklog
  arrived : after.arrived = before.arrived
  closed : after.closed = before.closed
  readerError : after.readerError = before.readerError

theorem reads_of_reader {self after : Dispatcher} {action : DispatcherAction}
    (hreader : action.ofReader = true) (hstep : self.step action = some after) :
    Reads self after := by
  cases action <;> simp only [step, Option.some.injEq] at hstep
  case readMessage =>
    subst hstep
    rw [(readMessage_eq self).2]
    exact ⟨rfl, rfl, List.eraseP_sublist, rfl, rfl, rfl⟩
  case readUntil predicate =>
    subst hstep
    rw [(readUntil_eq self predicate).2]
    exact ⟨rfl, rfl, List.eraseP_sublist, rfl, rfl, rfl⟩
  case subscribe =>
    subst hstep
    unfold reports
    split <;> exact ⟨rfl, rfl, List.Sublist.refl _, rfl, rfl, rfl⟩
  case unsubscribe =>
    subst hstep
    exact ⟨rfl, rfl, List.Sublist.refl _, rfl, rfl, rfl⟩
  case take =>
    subst hstep
    unfold takeReport
    split <;> exact ⟨rfl, rfl, List.Sublist.refl _, rfl, rfl, rfl⟩
  all_goals cases hreader

theorem Reads.settles {before after : Dispatcher} (h : Reads before after) :
    Settles before after :=
  .of_same h.pending h.futures h.backlog h.arrived

end Dispatcher

namespace Call

variable {κ : Type}

/-- What may happen to a call besides the start and the end of its transaction:
nothing takes the lock, and a message that it has was its own. -/
structure Follows (before after : Call κ) : Prop where
  key : after.key = before.key
  response : after.response = before.response
  locked : after.phase.locked = before.phase.locked
  queued : after.phase = .queued → before.phase = .queued
  ended : after.phase = .ended ↔ before.phase = .ended
  awaiting : after.phase = .awaiting → before.phase = .awaiting ∨ before.response ≠ none
  task : before.key = none → after.task = before.task
  returned : ∀ a, after.task = .result (.response a) ∨ after.future = .result (.response a) →
    before.task = .result (.response a) ∨ before.future = .result (.response a)

theorem Follows.of_same {before after : Call κ} (hkey : after.key = before.key)
    (hresponse : after.response = before.response) (hphase : after.phase = before.phase)
    (htask : before.key = none → after.task = before.task)
    (hreturned : ∀ a, after.task = .result (.response a) ∨ after.future = .result (.response a) →
      before.task = .result (.response a) ∨ before.future = .result (.response a)) :
    Follows before after where
  key := hkey
  response := hresponse
  locked := by rw [hphase]
  queued := by rw [hphase]; exact id
  ended := by rw [hphase]
  awaiting := by rw [hphase]; exact .inl
  task := htask
  returned := hreturned

theorem Follows.refl (call : Call κ) : Follows call call :=
  .of_same rfl rfl rfl (fun _ => rfl) fun _ => id

theorem Follows.trans {first second third : Call κ} (h : Follows first second)
    (h' : Follows second third) : Follows first third where
  key := h'.key.trans h.key
  response := h'.response.trans h.response
  locked := h'.locked.trans h.locked
  queued := fun hqueued => h.queued (h'.queued hqueued)
  ended := h'.ended.trans h.ended
  awaiting := by
    intro hawaiting
    rcases h'.awaiting hawaiting with hmid | hresponse
    · exact h.awaiting hmid
    · exact .inr (h.response ▸ hresponse)
  task := fun hkey => (h'.task (h.key.trans hkey)).trans (h.task hkey)
  returned := fun a hreturned => h.returned a (h'.returned a hreturned)

/-- A call that has just come in. -/
structure New (call : Call κ) : Prop where
  locked : call.phase.locked = false
  plain : call.key = none → call.phase ≠ .queued ∧ call.phase ≠ .ended ∧ call.task = .waiting
  returned : ∀ a, call.task ≠ .result (.response a) ∧ call.future ≠ .result (.response a)

theorem raised_ne_response (call : Call κ) (err : PyException) (a : Arrival) :
    call.raised err ≠ .result (.response a) := by
  unfold raised
  split <;> exact nofun

/-- A transaction returns the message that its response future has. -/
theorem resumption_response {call : Call κ} {reply : Option (FutureState Arrival)} {a : Arrival}
    (h : call.resumption reply = some (.result (.response a))) : reply = some (.result a) := by
  unfold resumption at h
  split at h
  · split at h <;> exact nomatch h
  · split at h
    · exact nomatch h
    · split at h
      · exact nomatch h
      · split at h
        · cases h
          rfl
        · exact absurd (Option.some.inj h) (call.raised_ne_response _ a)
        · exact nomatch h
        · exact nomatch h

theorem settle_follows (call : Call κ) {state : FutureState CallResult}
    (h : ∀ a, state ≠ .result (.response a)) : call.Follows (call.settle state) := by
  unfold settle
  split
  · exact .of_same rfl rfl rfl (fun _ => rfl)
      fun a hreturned => hreturned.imp_right fun heq => absurd heq (h a)
  · exact .refl call

theorem create_new (request : SessionRequest κ) : (create request).New := by
  cases request <;> exact ⟨rfl, by simp [create], fun a => ⟨nofun, nofun⟩⟩

theorem New.follows {before after : Call κ} (h : before.New) (hfollows : before.Follows after) :
    after.New where
  locked := hfollows.locked.trans h.locked
  plain := by
    intro hkey
    rw [hfollows.key] at hkey
    obtain ⟨hqueued, hended, htask⟩ := h.plain hkey
    exact ⟨fun heq => hqueued (hfollows.queued heq), fun heq => hended (hfollows.ended.mp heq),
      (hfollows.task hkey).trans htask⟩
  returned := by
    intro a
    have hold := h.returned a
    exact not_or.mp fun hreturned => (hfollows.returned a hreturned).elim hold.1 hold.2

end Call

namespace Session

variable {κ : Type}

/-- The call whose transaction an event opens in the log. -/
def opens : SessionEvent κ → Option Nat
  | .registered c _ => some c
  | _ => none

/-- The call whose transaction an event closes in the log. -/
def closes : SessionEvent κ → Option Nat
  | .completed c => some c
  | _ => none

/-- The call whose command an event writes. -/
def writes : SessionEvent κ → Option Nat
  | .wrote c _ _ => some c
  | _ => none

/-- What every step does that neither starts nor ends a transaction nor
dispatches a message. -/
structure Quiet (s t : Session κ) : Prop where
  dispatcher : s.dispatcher.Settles t.dispatcher
  lock : t.transactionLock = s.transactionLock
  log : ∃ extra, t.log = s.log ++ extra ∧
    ∀ event ∈ extra, opens event = none ∧ closes event = none ∧ writes event = none
  kept : ∀ (c : Nat) call, s.calls[c]? = some call →
    ∃ call', t.calls[c]? = some call' ∧ call.Follows call'
  new : ∀ (c : Nat) call, t.calls[c]? = some call → s.calls[c]? = none → call.New

theorem Quiet.of_same {s t : Session κ} (hdispatcher : s.dispatcher.Settles t.dispatcher)
    (hlock : t.transactionLock = s.transactionLock) (hlog : t.log = s.log)
    (hcalls : t.calls = s.calls) : Quiet s t where
  dispatcher := hdispatcher
  lock := hlock
  log := ⟨[], by rw [hlog, List.append_nil], fun _ hmem => absurd hmem List.not_mem_nil⟩
  kept := fun c call hcall => ⟨call, hcalls ▸ hcall, .refl call⟩
  new := fun c call hcall hnone => by
    rw [hcalls, hnone] at hcall
    exact nomatch hcall

/-- A call after a quiet step follows one from before, or is new. -/
theorem Quiet.back {s t : Session κ} (h : Quiet s t) {c : Nat} {call' : Call κ}
    (hcall' : t.calls[c]? = some call') :
    (∃ call, s.calls[c]? = some call ∧ call.Follows call') ∨ s.calls[c]? = none ∧ call'.New := by
  cases hcall : s.calls[c]? with
  | none => exact .inr ⟨rfl, h.new c call' hcall' hcall⟩
  | some call =>
      obtain ⟨call'', hcall'', hfollows⟩ := h.kept c call hcall
      cases hcall'.symm.trans hcall''
      exact .inl ⟨call, rfl, hfollows⟩

theorem Quiet.trans {s t u : Session κ} (h : Quiet s t) (h' : Quiet t u) : Quiet s u where
  dispatcher := h.dispatcher.trans h'.dispatcher
  lock := h'.lock.trans h.lock
  log := by
    obtain ⟨first, hfirst, hquiet⟩ := h.log
    obtain ⟨second, hsecond, hquiet'⟩ := h'.log
    refine ⟨first ++ second, by rw [hsecond, hfirst, List.append_assoc], ?_⟩
    intro event hmem
    exact (List.mem_append.mp hmem).elim (hquiet event) (hquiet' event)
  kept := by
    intro c call hcall
    obtain ⟨mid, hmid, hfollows⟩ := h.kept c call hcall
    obtain ⟨last, hlast, hfollows'⟩ := h'.kept c mid hmid
    exact ⟨last, hlast, hfollows.trans hfollows'⟩
  new := by
    intro c call hcall hnone
    rcases h'.back hcall with ⟨mid, hmid, hfollows⟩ | ⟨-, hnew⟩
    · exact (h.new c mid hmid hnone).follows hfollows
    · exact hnew

theorem quiet_modifyCall (s : Session κ) (c : Nat) {f : Call κ → Call κ}
    (hf : ∀ call, s.calls[c]? = some call → call.Follows (f call)) :
    Quiet s (s.modifyCall c f) where
  dispatcher := .refl _
  lock := rfl
  log := ⟨[], (List.append_nil _).symm, fun _ hmem => absurd hmem List.not_mem_nil⟩
  kept := by
    intro d call hcall
    refine ⟨_, calls_modifyCall hcall c f, ?_⟩
    split
    · rename_i heq
      exact hf call (heq ▸ hcall)
    · exact .refl call
  new := by
    intro d call hcall hnone
    obtain ⟨call', hcall', -⟩ := (calls_modifyCall_iff s c d f call).mp hcall
    rw [hnone] at hcall'
    exact nomatch hcall'

theorem quiet_append (s : Session κ) {call : Call κ} (h : call.New) :
    Quiet s { s with calls := s.calls ++ [call] } where
  dispatcher := .refl _
  lock := rfl
  log := ⟨[], (List.append_nil _).symm, fun _ hmem => absurd hmem List.not_mem_nil⟩
  kept := fun c call' hcall' => ⟨call', by
    rw [List.getElem?_append_left (List.getElem?_eq_some_iff.mp hcall').1, hcall'], .refl call'⟩
  new := by
    intro c call' hcall' hnone
    have hle : s.calls.length ≤ c := List.getElem?_eq_none_iff.mp hnone
    rw [List.getElem?_append_right hle, List.getElem?_singleton] at hcall'
    split at hcall'
    · cases hcall'
      exact h
    · exact nomatch hcall'

theorem quiet_log (s : Session κ) (event : SessionEvent κ)
    (h : opens event = none ∧ closes event = none ∧ writes event = none) :
    Quiet s { s with log := s.log ++ [event] } where
  dispatcher := .refl _
  lock := rfl
  log := ⟨[event], rfl, fun event' hmem => by rwa [List.mem_singleton.mp hmem]⟩
  kept := fun c call hcall => ⟨call, hcall, .refl call⟩
  new := fun c call hcall hnone => nomatch hcall.symm.trans hnone

theorem quiet_interrupt (s : Session κ) (c : Nat) (call : Call κ) :
    Quiet s (s.interrupt c call) := by
  have hcalls : Quiet s (s.modifyCall c fun call => { call with interrupted := true }) :=
    quiet_modifyCall s c fun call _ => .of_same rfl rfl rfl (fun _ => rfl) fun _ => id
  refine hcalls.trans (.of_same ?_ rfl rfl rfl)
  simp only [interrupt, modifyCall]
  split
  · exact Dispatcher.settles_cancel _ c
  · exact .refl _

theorem quiet_failCoalescedUpdates (s : Session κ) (err : PyException) :
    Quiet s (s.failCoalescedUpdates err) where
  dispatcher := .refl _
  lock := rfl
  log := ⟨[], (List.append_nil _).symm, fun _ hmem => absurd hmem List.not_mem_nil⟩
  kept := by
    intro c call hcall
    refine ⟨_, by rw [failCoalescedUpdates, List.getElem?_mapIdx, hcall]; rfl, ?_⟩
    split
    · exact call.settle_follows (by simp)
    · exact .refl call
  new := by
    intro c call hcall hnone
    rw [failCoalescedUpdates, List.getElem?_mapIdx, hnone] at hcall
    cases hcall

theorem quiet_setReaderError (s : Session κ) (err : PyException) :
    Quiet s (s.setReaderError err) :=
  (quiet_failCoalescedUpdates s err).trans
    (.of_same (Dispatcher.settles_setReaderError _ err) rfl rfl rfl)

theorem quiet_cancelCall (s : Session κ) (c : Nat) (call : Call κ) :
    Quiet s (s.cancelCall c call) := by
  unfold cancelCall
  split
  · exact (quiet_interrupt s c call).trans
      (quiet_modifyCall _ c fun call _ => .of_same rfl rfl rfl (fun _ => rfl) fun _ => id)
  · refine quiet_modifyCall s c fun call _ => ?_
    have hsettled : call.Follows (call.settle .cancelled) := call.settle_follows nofun
    exact hsettled.trans (.of_same rfl rfl rfl (fun _ => rfl) fun _ => id)

theorem quiet_cancelWriter (s : Session κ) : Quiet s s.cancelWriter := by
  unfold cancelWriter
  split
  · split
    · exact .of_same (.refl _) rfl rfl rfl
    · exact (quiet_interrupt s _ _).trans (.of_same (.refl _) rfl rfl rfl)
  · exact .of_same (.refl _) rfl rfl rfl

theorem quiet_popped (s : Session κ) (key : κ) (c : Nat) (rest : OrderedDict κ Nat) :
    Quiet s (s.popped key c rest) :=
  (quiet_log s (.popped key c) ⟨rfl, rfl, rfl⟩).trans (.of_same (.refl _) rfl rfl rfl)

theorem not_contended {s : Session κ} (h : ¬ s.contended = true) :
    s.transactionLock = none ∧ ∀ call ∈ s.calls, call.phase ≠ .acquiring := by
  rw [contended, Bool.or_eq_true, not_or] at h
  refine ⟨by simpa using h.1, ?_⟩
  simpa using h.2

section Step

variable [DecidableEq κ]

theorem quiet_submit (s : Session κ) (key : κ) (c : Nat) : Quiet s (s.submit key c) := by
  have hlogged : ∀ u : Session κ, u.log = s.log →
      Quiet u { u with
        coalescedUpdates := s.coalescedUpdates.set key c
        log := s.log ++ [.submitted key c] } := by
    intro u hlog
    rw [← hlog]
    exact (quiet_log u _ ⟨rfl, rfl, rfl⟩).trans (.of_same (.refl _) rfl rfl rfl)
  unfold submit
  cases s.coalescedUpdates.get? key with
  | none => exact hlogged s rfl
  | some previous =>
      exact (quiet_modifyCall s previous fun call _ => call.settle_follows (by exact nofun)).trans
        (hlogged _ rfl)

theorem quiet_resumeCaller {s : Session κ} {c : Nat} {call : Call κ} {key : κ}
    (hcall : s.calls[c]? = some call) (hkey : call.key = some key) :
    Quiet s ((if call.wakeup = .cancelled then s.removeCoalescedUpdate key c else s).modifyCall c
      fun other => { other with task := call.wakeup }) := by
  have hremoved : Quiet s (if call.wakeup = .cancelled then s.removeCoalescedUpdate key c else s) := by
    split
    · unfold removeCoalescedUpdate
      split <;> exact .of_same (.refl _) rfl rfl rfl
    · exact .of_same (.refl _) rfl rfl rfl
  apply hremoved.trans
  apply quiet_modifyCall
  intro other hother
  rw [calls_removed] at hother
  cases hcall.symm.trans hother
  refine .of_same rfl rfl rfl (fun hnone => by cases hkey.symm.trans hnone) ?_
  rintro a (htask | hfuture)
  · unfold Call.wakeup at htask
    split at htask
    · cases htask
    · exact .inr htask
  · exact .inr hfuture

/-- The four kinds of steps. -/
inductive TransactionStep (s : Session κ) : Session κ → Prop
  | quiet {t : Session κ} (hquiet : Quiet s t) : TransactionStep s t
  | dispatched {u : Session κ} (hquiet : Quiet s u) (message : TrpcPacket) :
      TransactionStep s { u with dispatcher := u.dispatcher.dispatchMessage message }
  | began {u : Session κ} (hquiet : Quiet s u) {c : Nat} {call : Call κ}
      (hfree : u.transactionLock = none) (hcall : u.calls[c]? = some call)
      (hphase : call.phase = .acquiring) : TransactionStep s (u.beginTransaction c call)
  | ended {c : Nat} {call : Call κ} {result : FutureState CallResult}
      (hcall : s.calls[c]? = some call) (hrunning : call.phase.running = true)
      (hdone : result ≠ .waiting)
      (hresponse : ∀ a, result = .result (.response a) →
        s.dispatcher.futures c = some (.result a)) :
      TransactionStep s (s.endTransaction c result)

theorem startCall_step (s : Session κ) (request : SessionRequest κ) :
    TransactionStep s (s.startCall request) := by
  have hcreated := quiet_append s (Call.create_new request)
  simp only [startCall]
  split
  · rename_i hkey
    split
    · exact .quiet hcreated
    · rename_i hfree
      apply TransactionStep.began hcreated (not_contended hfree).1
      · exact List.getElem?_concat_length
      · cases request <;> first | rfl | cases hkey
  · rename_i key hkey
    split
    · apply TransactionStep.quiet
      apply quiet_append
      constructor
      · rfl
      · exact fun hnone => by cases hkey.symm.trans hnone
      · intro a
        cases request <;> constructor <;> intro hdone <;> cases hdone
    · exact .quiet (hcreated.trans (quiet_submit _ _ _))

theorem quiet_hold {s : Session κ} (hlinks : s.UpdateLinks) {key : κ} {c : Nat}
    {rest : OrderedDict κ Nat} {call : Call κ}
    (hpop : s.coalescedUpdates.popFirst = some ((key, c), rest)) (hcall : s.calls[c]? = some call) :
    Quiet s ((s.popped key c rest).hold c) := by
  -- a queued update has not run yet
  obtain ⟨-, hphase⟩ := hlinks.popped hpop hcall
  have hcalls : Quiet (s.popped key c rest) ((s.popped key c rest).modifyCall c fun call =>
      { call with phase := .acquiring }) := by
    apply quiet_modifyCall
    intro other hother
    cases hcall.symm.trans hother
    refine ⟨rfl, rfl, ?_, nofun, ?_, nofun, fun _ => rfl, fun _ => id⟩
    · rw [hphase]
      rfl
    · rw [hphase]
      exact ⟨nofun, nofun⟩
  exact ((quiet_popped s key c rest).trans hcalls).trans (.of_same (.refl _) rfl rfl rfl)

theorem popUpdate_step {s t : Session κ} (hlinks : s.UpdateLinks) (hpopped : Popped s t) :
    TransactionStep s t := by
  cases hpopped with
  | skipped => exact .quiet (quiet_popped s _ _ _)
  | held _ hpop hcall => exact .quiet (quiet_hold hlinks hpop hcall)
  | @began key c rest call _ hpop hcall _ hfree =>
      have hacquiring := calls_modifyCall_self (s := s.popped key c rest) (fun call =>
        { call with phase := .acquiring }) hcall
      exact .began (quiet_hold hlinks hpop hcall) (not_contended (ne_true_of_eq_false hfree)).1
        hacquiring rfl

theorem callStep_step {s t : Session κ} {c : Nat} {call : Call κ} (hcall : s.calls[c]? = some call)
    {action : CallAction} (hstepped : CallStepped s c call action t) : TransactionStep s t := by
  cases hstepped with
  | acquire hphase _ hfree => exact .began (.of_same (.refl _) rfl rfl rfl) hfree hcall hphase
  | written hphase => exact .ended hcall (by rw [hphase]; rfl) nofun nofun
  | awaits hphase _ hresponse =>
      apply TransactionStep.quiet
      apply quiet_modifyCall
      intro other hother
      cases hcall.symm.trans hother
      refine ⟨rfl, rfl, ?_, nofun, ?_, fun _ => .inr (by simp [hresponse]), fun _ => rfl,
        fun _ => id⟩
      · rw [hphase]
        rfl
      · rw [hphase]
        exact ⟨nofun, nofun⟩
  | writeFails hphase =>
      exact .ended hcall (by rw [hphase]; rfl) (call.raised_ne_waiting _)
        fun a ha => absurd ha (call.raised_ne_response _ a)
  | timeout =>
      have hcalls : Quiet s (s.modifyCall c fun call => { call with timedOut := true }) :=
        quiet_modifyCall s c fun call _ => .of_same rfl rfl rfl (fun _ => rfl) fun _ => id
      exact .quiet (hcalls.trans (.of_same (Dispatcher.settles_cancel _ c) rfl rfl rfl))
  | cancel => exact .quiet (quiet_cancelCall s c call)
  | resume hresult =>
      obtain ⟨hrunning, hdone⟩ := call.resumption_running hresult
      refine .ended hcall hrunning hdone fun a ha => ?_
      rw [ha] at hresult
      exact Call.resumption_response hresult
  | resumeCaller hkey => exact .quiet (quiet_resumeCaller hcall hkey)

omit [DecidableEq κ] in
theorem dispatchPacket_step (s : Session κ) (packet : Packet) :
    TransactionStep s (s.dispatchPacket packet) := by
  have hobserved : Quiet s { s with dispatcher := s.dispatcher.observePacket packet } :=
    .of_same (.of_same rfl rfl (List.Sublist.refl _) rfl) rfl rfl rfl
  unfold dispatchPacket
  split
  · split
    · exact .quiet (hobserved.trans (quiet_setReaderError _ _))
    · exact .dispatched hobserved _
  · exact .quiet hobserved

/-- Every step is of one of the four kinds. -/
theorem step_cases {s t : Session κ} (hlinks : s.UpdateLinks) {action : SessionAction κ}
    (hstep : s.step action = some t) : TransactionStep s t := by
  cases Stepped.of_step hstep with
  | start request => exact startCall_step s request
  | onCall hcall hstepped => exact callStep_step hcall hstepped
  | pop hpopped => exact popUpdate_step hlinks hpopped
  | writerReturns => exact .quiet (.of_same (.refl _) rfl rfl rfl)
  | packet => exact dispatchPacket_step s _
  | readerFails => exact .quiet (quiet_setReaderError s _)
  | backlog hreader hread =>
      exact .quiet (.of_same (Dispatcher.reads_of_reader hreader hread).settles rfl rfl rfl)
  | opened | close =>
      exact .quiet (.of_same (.of_same rfl rfl (List.Sublist.refl _) rfl) rfl rfl rfl)
  | cancelWriter => exact .quiet ((quiet_cancelWriter s).trans (.of_same (.refl _) rfl rfl rfl))
  | failOutstanding =>
      exact .quiet ((quiet_failCoalescedUpdates s _).trans (.of_same
        ((Dispatcher.settles_failPending _ _).trans (Dispatcher.settles_endReports _ _))
        rfl rfl rfl))

end Step

end Session

end Tekmar482
