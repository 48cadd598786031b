import Tekmar482.CoalescedUpdates

/-!
# The order of coalesced writes

An undisturbed step submits an update, pops one, writes one, ends one, or does
not concern the queue. So after every undisturbed run of an open session, what
became of each coalesced call follows from the history of the queue.
-/

namespace Tekmar482

open Coalescing

namespace Dispatcher

/-- A step that neither opens nor closes the session. -/
structure Stays (before after : Dispatcher) : Prop where
  closed : after.closed = before.closed
  readerError : after.readerError = before.readerError

theorem stays_settle (self : Dispatcher) (future : Nat) (state : FutureState Arrival) :
    Stays self (self.settle future state) := by
  unfold settle
  split <;> exact ⟨rfl, rfl⟩

theorem stays_dispatchMessage (self : Dispatcher) (message : TrpcPacket) :
    Stays self (self.dispatchMessage message) := by
  unfold dispatchMessage
  split
  · dsimp only
    split <;> exact ⟨rfl, rfl⟩
  · exact ⟨rfl, rfl⟩

/-- An open session writes a command that can be encoded. -/
theorem sendUpdate_ok {self : Dispatcher} {command : TrpcCommand} {message : TrpcPacket}
    {packet : Packet} (hclosed : self.closed = false) (hreaderError : self.readerError = none)
    (hmessage : command.toMessage = .ok message) (hpacket : message.toPacket = .ok packet) :
    self.sendUpdate command = .ok message ∧ self.sendUnlocked command = .ok message := by
  have havailable : self.raiseIfUnavailable = .ok () := by
    simp [raiseIfUnavailable, hclosed, hreaderError]
  have hwrite : self.writeMessage message = .ok packet := by
    rw [writeMessage, hpacket, havailable]
    rfl
  constructor
  · rw [sendUpdate, hmessage]
    simp only [bind, Except.bind, hwrite]
    rfl
  · rw [sendUnlocked, havailable, hmessage]
    simp only [bind, Except.bind, hwrite]
    rfl

end Dispatcher

namespace Session

variable {κ : Type}

/-- A step of the dispatcher that stays open does not concern the queue. -/
theorem idle_dispatcher (s : Session κ) {dispatcher : Dispatcher}
    (h : s.dispatcher.Stays dispatcher) : Idle s { s with dispatcher } :=
  .of_same rfl rfl rfl h.closed h.readerError rfl rfl

section

variable [DecidableEq κ]

/-- The write of an encodable update starts. -/
theorem Flowing.beginTransaction_eq {s : Session κ} (h : s.Flowing) (c : Nat) {call : Call κ}
    (hencodable : call.Encodable) :
    ∃ message, call.command.toMessage = .ok message ∧
      s.beginTransaction c call = (s.acquired c call).wrote c call message := by
  obtain ⟨message, packet, hmessage, hpacket⟩ := hencodable
  refine ⟨message, hmessage, ?_⟩
  obtain ⟨hupdate, hunlocked⟩ :=
    Dispatcher.sendUpdate_ok h.closed h.readerError hmessage hpacket
  have hstart : s.startWrite call = .ok message := by
    unfold startWrite
    split
    · exact hupdate
    · exact hunlocked
  rw [Session.beginTransaction, hstart]

/-- What an undisturbed step does to the coalesced calls. -/
inductive UpdateStep (s : Session κ) : Session κ → Prop
  | idle {t : Session κ} (hidle : Idle s t) : UpdateStep s t
  | submitted {call : Call κ} {key : κ} (hkey : call.key = some key) (hphase : call.phase = .queued)
      (hfuture : call.future = .waiting) (htask : call.task = .waiting)
      (hinterrupted : call.interrupted = false) (hcancelled : call.cancelRequested = false)
      (hencodable : call.Encodable) :
      UpdateStep s ({ s with calls := s.calls ++ [call] }.submit key s.calls.length)
  | held {key : κ} {c : Nat} {rest : OrderedDict κ Nat} {call : Call κ} (hidle : s.writer = .idle)
      (hpop : s.coalescedUpdates.popFirst = some ((key, c), rest)) (hcall : s.calls[c]? = some call)
      (hcontended : s.contended = true) : UpdateStep s ((s.popped key c rest).hold c)
  | sent {key : κ} {c : Nat} {rest : OrderedDict κ Nat} {call : Call κ} {message : TrpcPacket}
      (hidle : s.writer = .idle) (hpop : s.coalescedUpdates.popFirst = some ((key, c), rest))
      (hcall : s.calls[c]? = some call) (hkey : call.key = some key)
      (hmessage : call.command.toMessage = .ok message) :
      UpdateStep s ((((s.popped key c rest).hold c).acquired c { call with phase := .acquiring }).wrote
        c { call with phase := .acquiring } message)
  | began {c : Nat} {call : Call κ} {key : κ} {message : TrpcPacket}
      (hcall : s.calls[c]? = some call) (hkey : call.key = some key)
      (hphase : call.phase = .acquiring) (hwriter : s.writer = .holding c)
      (hmessage : call.command.toMessage = .ok message) :
      UpdateStep s ((s.acquired c call).wrote c call message)
  | ended {c : Nat} {call : Call κ} {key : κ} (hcall : s.calls[c]? = some call)
      (hkey : call.key = some key) (hlocked : call.phase.locked = true)
      (hwriter : s.writer = .holding c) (result : FutureState CallResult) :
      UpdateStep s (s.endTransaction c result)

theorem updateStep_startCall {s : Session κ} (h : s.Flowing) (hlinks : s.UpdateLinks)
    (request : SessionRequest κ)
    (hencodable : (Call.create request).key ≠ none → (Call.create request).Encodable) :
    UpdateStep s (s.startCall request) := by
  simp only [Session.startCall]
  split
  · rename_i hkey
    have hcreated := idle_append s hkey
    refine .idle ?_
    split
    · exact hcreated
    · apply hcreated.trans
      apply idle_beginTransaction List.getElem?_concat_length hkey
      intro hholding
      obtain ⟨call, hcall, -⟩ := hlinks.holding _ hholding
      rw [List.getElem?_eq_none_iff.mpr le_rfl] at hcall
      cases hcall
  · rename_i key hkey
    have havailable : s.dispatcher.raiseIfUnavailable = .ok () := by
      simp [Dispatcher.raiseIfUnavailable, h.closed, h.readerError]
    rw [havailable]
    have hsubmitted := hencodable (by simp [hkey])
    apply UpdateStep.submitted hkey <;>
      first
        | exact hsubmitted
        | cases request <;> first | rfl | cases hkey

theorem updateStep_endTransaction {s : Session κ} (hlinks : s.UpdateLinks) {c : Nat}
    {call : Call κ} (hcall : s.calls[c]? = some call) (hlocked : call.phase.locked = true)
    (hinterrupted : call.key ≠ none → call.interrupted = false) (result : FutureState CallResult) :
    UpdateStep s (s.endTransaction c result) := by
  cases hkey : call.key with
  | none =>
      exact .idle (idle_endTransaction hcall hkey (hlinks.not_holding hcall hkey) result)
  | some key =>
      have hsome : call.key ≠ none := by simp [hkey]
      have hrunning : call.phase.running = true := by
        cases hphase : call.phase with
        | queued | acquiring | ended =>
            rw [hphase] at hlocked
            exact nomatch hlocked
        | writing | awaiting => rfl
      refine .ended hcall hkey hlocked ?_ result
      apply (hlinks.running c call hcall hsome hrunning).resolve_right
      rw [hinterrupted hsome]
      exact nofun

theorem updateStep_acquire {s : Session κ} (h : s.Flowing) (hlinks : s.UpdateLinks) {c : Nat}
    {call : Call κ} (hcall : s.calls[c]? = some call) (hphase : call.phase = .acquiring) :
    UpdateStep s (s.beginTransaction c call) := by
  cases hkey : call.key with
  | none =>
      exact .idle (idle_beginTransaction hcall hkey (hlinks.not_holding hcall hkey))
  | some key =>
      obtain ⟨-, hencodable, -, hinterrupted⟩ := h.submitted c call key hcall hkey
      obtain ⟨message, hmessage, heq⟩ := h.beginTransaction_eq c hencodable
      rw [heq]
      refine .began hcall hkey hphase ?_ hmessage
      apply (hlinks.running c call hcall (by simp [hkey]) (by rw [hphase]; rfl)).resolve_right
      rw [hinterrupted]
      exact nofun

/-- The caller of an update does not remove it, unless it is cancelled. -/
theorem idle_resumeCaller {s : Session κ} (h : s.Flowing) (hlinks : s.UpdateLinks) {c : Nat}
    {call : Call κ} (hcall : s.calls[c]? = some call) {key : κ} (hkey : call.key = some key)
    (hwakes : call.wakeup ≠ .waiting) :
    Idle s ((if call.wakeup = .cancelled then s.removeCoalescedUpdate key c else s).modifyCall c
      fun other => { other with task := call.wakeup }) := by
  obtain ⟨-, -, hcancelled, -⟩ := h.submitted c call key hcall hkey
  have hwakeup : call.wakeup = call.future := by simp [Call.wakeup, hcancelled]
  have hnotQueued : s.coalescedUpdates.get? key ≠ some c := fun hget =>
    hwakes (hwakeup.trans (h.queued_waits hlinks hcall hget).2.2)
  have hkept : (if call.wakeup = .cancelled then s.removeCoalescedUpdate key c else s) = s := by
    rw [removeCoalescedUpdate, if_neg hnotQueued, ite_self]
  rw [hkept]
  apply idle_modifyCall
  intro other hother
  cases hcall.symm.trans hother
  exact ⟨rfl, fun _ => ⟨rfl, rfl, rfl, rfl, .inl rfl, .inr hwakeup⟩⟩

theorem updateStep_callStep {s t : Session κ} (h : s.Flowing) (hlinks : s.UpdateLinks) {c : Nat}
    {call : Call κ} (hcall : s.calls[c]? = some call) {action : CallAction}
    (hallowed : s.Undisturbed (.onCall c action)) (hstepped : CallStepped s c call action t) :
    UpdateStep s t := by
  have hinterrupted : call.key ≠ none → call.interrupted = false := by
    intro hsome
    obtain ⟨key, hkey⟩ := Option.ne_none_iff_exists'.mp hsome
    exact (h.submitted c call key hcall hkey).2.2.2
  cases hstepped with
  | acquire hphase => exact updateStep_acquire h hlinks hcall hphase
  | written hphase =>
      exact updateStep_endTransaction hlinks hcall (by rw [hphase]; rfl) hinterrupted _
  | awaits hphase =>
      refine .idle (idle_modifyCall s c fun other hother => ⟨rfl, fun _ => ?_⟩)
      cases hcall.symm.trans hother
      exact ⟨rfl, rfl, rfl, rfl, .inr ⟨by rw [hphase]; rfl, rfl⟩, .inl rfl⟩
  | writeFails | cancel => exact hallowed.elim
  | timeout =>
      have hcalls : Idle s (s.modifyCall c fun call => { call with timedOut := true }) :=
        idle_modifyCall s c fun call _ =>
          ⟨rfl, fun _ => ⟨rfl, rfl, rfl, rfl, .inl rfl, .inl rfl⟩⟩
      exact .idle (hcalls.trans (idle_dispatcher _ (Dispatcher.stays_settle _ c .cancelled)))
  | @resume result hresult =>
      cases hkey : call.key with
      | none =>
          exact .idle (idle_endTransaction hcall hkey (hlinks.not_holding hcall hkey) result)
      | some key =>
          have hphase := Call.resumption_awaiting hresult (hinterrupted (by simp [hkey]))
          exact updateStep_endTransaction hlinks hcall (by rw [hphase]; rfl) hinterrupted result
  | resumeCaller hkey _ hwakes => exact .idle (idle_resumeCaller h hlinks hcall hkey hwakes)

theorem updateStep_popUpdate {s t : Session κ} (h : s.Flowing) (hlinks : s.UpdateLinks)
    (hpopped : Popped s t) : UpdateStep s t := by
  cases hpopped with
  | skipped _ hpop hcall hcancelled =>
      obtain ⟨-, -, hwaits⟩ := h.queued_waits hlinks hcall (OrderedDict.get?_of_popFirst hpop)
      exact nomatch hwaits.symm.trans hcancelled
  | held hidle hpop hcall _ hcontended => exact .held hidle hpop hcall hcontended
  | @began key c rest call hidle hpop hcall =>
      obtain ⟨hkey, -⟩ := hlinks.popped hpop hcall
      obtain ⟨-, hencodable, -⟩ := h.submitted c call key hcall hkey
      have hheld := h.hold hlinks hidle hpop hcall
      have hencodable' : { call with phase := .acquiring }.Encodable := hencodable
      obtain ⟨message, hmessage, heq⟩ := hheld.beginTransaction_eq c hencodable'
      rw [heq]
      exact .sent hidle hpop hcall hkey hmessage

theorem updateStep_dispatchPacket (s : Session κ) {packet : Packet}
    (hallowed : s.Undisturbed (.packet packet)) : UpdateStep s (s.dispatchPacket packet) := by
  have hobserved : Idle s { s with dispatcher := s.dispatcher.observePacket packet } :=
    idle_dispatcher s ⟨rfl, rfl⟩
  unfold dispatchPacket
  split
  · rename_i htype
    obtain ⟨message, hmessage⟩ := hallowed htype
    rw [hmessage]
    exact .idle (hobserved.trans (idle_dispatcher _ (Dispatcher.stays_dispatchMessage _ message)))
  · exact .idle hobserved

/-- An undisturbed step is one of these. -/
theorem updateStep_of_stepped {s t : Session κ} (h : s.Flowing) (hlinks : s.UpdateLinks)
    {action : SessionAction κ} (hallowed : s.Undisturbed action) (hstepped : Stepped s action t) :
    UpdateStep s t := by
  cases hstepped with
  | start request => exact updateStep_startCall h hlinks request hallowed
  | onCall hcall hcallStepped => exact updateStep_callStep h hlinks hcall hallowed hcallStepped
  | pop hpopped => exact updateStep_popUpdate h hlinks hpopped
  | writerReturns _ hclosed => exact nomatch h.closed.symm.trans hclosed
  | packet => exact updateStep_dispatchPacket s hallowed
  | readerFails | close => exact hallowed.elim
  | backlog hreader hread =>
      have hreads := Dispatcher.reads_of_reader hreader hread
      exact .idle (idle_dispatcher s ⟨hreads.closed, hreads.readerError⟩)
  | opened =>
      exact .idle (.of_same rfl (if_neg h.started) rfl h.closed.symm h.readerError.symm rfl rfl)
  | cancelWriter hcloser | failOutstanding hcloser =>
      rw [h.closers] at hcloser
      exact nomatch hcloser

/-! ## What undisturbed steps preserve -/

theorem Flowing.updateStep {s t : Session κ} (h : s.Flowing) (hlinks : s.UpdateLinks)
    (hstep : UpdateStep s t) : t.Flowing := by
  cases hstep with
  | idle hidle => exact h.idle hlinks hidle
  | submitted hkey hphase hfuture htask hinterrupted hcancelled hencodable =>
      exact h.submit hlinks hkey hphase hfuture htask hinterrupted hcancelled hencodable
  | held hidle hpop hcall _ => exact h.hold hlinks hidle hpop hcall
  | @sent key c rest call message hidle hpop hcall hkey hmessage =>
      have hheld := h.hold hlinks hidle hpop hcall
      have hheldLinks := hlinks.hold hidle hpop hcall
      have hacquiring := calls_modifyCall_self (s := s.popped key c rest) (fun call =>
        { call with phase := .acquiring }) hcall
      have hacquired := hheld.idle hheldLinks (idle_acquired _ c { call with phase := .acquiring })
      have hstored : (((s.popped key c rest).hold c).acquired c
          { call with phase := .acquiring }).calls[c]? = some { call with phase := .acquiring } := by
        rw [acquired_calls]
        exact hacquiring
      exact hacquired.wrote hstored hkey rfl (acquired_writer _ _ _) hmessage
  | @began c call key message hcall hkey hphase hwriter hmessage =>
      have hacquired := h.idle hlinks (idle_acquired s c call)
      refine hacquired.wrote ?_ hkey hphase ?_ hmessage
      · rwa [acquired_calls]
      · rwa [acquired_writer]
  | ended hcall hkey hlocked hwriter result =>
      exact h.endTransaction hcall hkey hlocked hwriter result

/-- A call stays known, with its key. -/
theorem UpdateStep.kept {s t : Session κ} (hlinks : s.UpdateLinks) (hstep : UpdateStep s t)
    {d : Nat} {other : Call κ} (hother : s.calls[d]? = some other) :
    ∃ other', t.calls[d]? = some other' ∧ other'.key = other.key := by
  cases hstep with
  | idle hidle =>
      obtain ⟨other', hother', hkey, -⟩ := hidle.kept d other hother
      exact ⟨other', hother', hkey⟩
  | @submitted call key _ _ _ _ _ _ _ =>
      refine ⟨_, calls_submit_old hlinks call key hother, ?_⟩
      split
      · exact (other.settle_settled _).key
      · rfl
  | @held key c rest _ _ _ _ _ =>
      refine ⟨_, calls_modifyCall (s := s.popped key c rest) hother c _, ?_⟩
      split <;> rfl
  | @sent key c rest call _ _ _ _ _ _ =>
      have hheld := calls_modifyCall (s := s.popped key c rest) hother c fun call =>
        { call with phase := .acquiring }
      have hacquired := acquired_calls ((s.popped key c rest).hold c) c
        { call with phase := .acquiring } ▸ hheld
      refine ⟨_, calls_modifyCall hacquired c _, ?_⟩
      split <;> rfl
  | @began c call _ _ _ _ _ _ _ =>
      rw [← s.acquired_calls c call] at hother
      refine ⟨_, calls_modifyCall hother c _, ?_⟩
      split <;> rfl
  | @ended c call _ _ _ _ _ result =>
      refine ⟨_, calls_modifyCall hother c _, ?_⟩
      split
      · exact other.finish_key result
      · rfl

/-- An update that was popped waits for the lock only behind a plain call. -/
def Prompt (s : Session κ) : Prop :=
  ∀ (c : Nat) (call : Call κ), s.calls[c]? = some call → call.key ≠ none →
    call.phase = .acquiring → ∃ (d : Nat) (other : Call κ), s.calls[d]? = some other ∧
      other.key = none

/-- An idle writer loop finds the lock taken by a plain call, or free. -/
theorem plain_of_contended {s : Session κ} (h : s.Flowing) (hsound : s.Sound)
    (hidle : s.writer = .idle) (hcontended : s.contended = true) :
    ∃ (d : Nat) (other : Call κ), s.calls[d]? = some other ∧ other.key = none := by
  have hrunning : ∃ (d : Nat) (other : Call κ), s.calls[d]? = some other ∧
      other.phase.running = true := by
    rcases Bool.or_eq_true _ _ ▸ hcontended with hlock | hany
    · obtain ⟨d, hlock⟩ := Option.isSome_iff_exists.mp hlock
      obtain ⟨other, hother, hlocked⟩ := hsound.accounted.holder d hlock
      refine ⟨d, other, hother, ?_⟩
      cases hphase : other.phase with
      | queued | acquiring | ended =>
          rw [hphase] at hlocked
          exact nomatch hlocked
      | writing | awaiting => rfl
    · obtain ⟨other, hmem, hphase⟩ := List.any_eq_true.mp hany
      obtain ⟨d, hother⟩ := List.mem_iff_getElem?.mp hmem
      exact ⟨d, other, hother, by rw [of_decide_eq_true hphase]; rfl⟩
  obtain ⟨d, other, hother, hrunning⟩ := hrunning
  refine ⟨d, other, hother, ?_⟩
  cases hkey : other.key with
  | none => rfl
  | some key =>
      obtain ⟨-, -, -, hinterrupted⟩ := h.submitted d other key hother hkey
      rcases hsound.links.running d other hother (by simp [hkey]) hrunning with hholding | hyes
      · exact nomatch hidle.symm.trans hholding
      · exact nomatch hinterrupted.symm.trans hyes

theorem Prompt.updateStep {s t : Session κ} (h : s.Prompt) (hflowing : s.Flowing)
    (hsound : s.Sound) (hstep : UpdateStep s t) : t.Prompt := by
  intro c call' hcall' hsome hphase
  have hplain : ∃ (d : Nat) (other : Call κ), s.calls[d]? = some other ∧ other.key = none := by
    cases hstep with
    | idle hidle =>
        rcases hidle.back c call' hcall' with ⟨call, hcall, hkey, hsame⟩ | hnone
        · have hold : call.key ≠ none := hkey ▸ hsome
          exact h c call hcall hold (((hsame hold).phase_eq rfl).mp hphase)
        · exact absurd hnone hsome
    | submitted hkey hqueued =>
        rcases calls_submit_cases hsound.links hcall' with ⟨-, rfl⟩ | ⟨old, hold, rfl⟩
        · cases hqueued.symm.trans hphase
        · have hsettled := old.settle_settled (.result .nothing)
          apply h c old hold
          · split at hsome
            · exact hsettled.key ▸ hsome
            · exact hsome
          · split at hphase
            · exact hsettled.phase ▸ hphase
            · exact hphase
    | held hidle _ _ hcontended => exact plain_of_contended hflowing hsound hidle hcontended
    | @sent key d rest call _ _ _ hcall _ _ =>
        rcases calls_modifyCall_cases hcall' with ⟨-, other, -, rfl⟩ | ⟨hne, hold⟩
        · cases hphase
        · rw [acquired_calls] at hold
          have hbefore := (calls_modifyCall_of_ne (s := s.popped key d rest) _ hne).symm.trans hold
          exact h c call' hbefore hsome hphase
    | began =>
        rcases calls_modifyCall_cases hcall' with ⟨-, other, -, rfl⟩ | ⟨-, hold⟩
        · cases hphase
        · rw [acquired_calls] at hold
          exact h c call' hold hsome hphase
    | ended _ _ _ _ result =>
        rcases calls_modifyCall_cases hcall' with ⟨-, other, -, rfl⟩ | ⟨-, hold⟩
        · cases (other.finish_phase result).symm.trans hphase
        · exact h c call' hold hsome hphase
  obtain ⟨d, other, hother, hnone⟩ := hplain
  obtain ⟨other', hother', hkey⟩ := hstep.kept hsound.links hother
  exact ⟨d, other', hother', hkey.trans hnone⟩

/-! ## Undisturbed runs -/

/-- What holds throughout an undisturbed run. -/
structure Undelayed (s : Session κ) : Prop where
  sound : s.Sound
  flowing : s.Flowing
  prompt : s.Prompt

theorem Fresh.undelayed {s : Session κ} (h : s.Fresh) : s.opened.Undelayed := by
  have hopened : s.step .opened = some s.opened := rfl
  have hsound := h.sound.step hopened
  obtain ⟨-, -, -, hcalls, -, hupdates, hwriter, -, hclosers, hlog⟩ := h
  have hnone : ∀ (c : Nat) (call : Call κ), s.opened.calls[c]? ≠ some call := by
    intro c call
    rw [opened, hcalls]
    exact nofun
  refine ⟨hsound, ?_, fun c call hcall => absurd hcall (hnone c call)⟩
  constructor
  case closed =>
    rfl
  case readerError =>
    rfl
  case started =>
    simp [opened, hwriter]
  case closers =>
    exact hclosers
  case history =>
    rw [opened, hlog, hupdates]
    exact .nil
  case sent =>
    rw [inFlight_of_idle (by simp [opened, hwriter]), opened, hlog]
    rfl
  case submitted =>
    exact fun c call key hcall => absurd hcall (hnone c call)
  case known =>
    rw [opened, hlog]
    exact fun key c hmem => absurd hmem List.not_mem_nil
  case queued =>
    exact fun c call key hcall => absurd hcall (hnone c call)
  case acquiring =>
    exact fun c call key hcall => absurd hcall (hnone c call)
  case written =>
    exact fun c call key hcall => absurd hcall (hnone c call)
  case messages =>
    rw [opened, hlog]
    exact fun entry hmem => absurd hmem List.not_mem_nil
  case returned =>
    exact fun c call hcall => absurd hcall (hnone c call)

theorem Undelayed.step {s t : Session κ} (h : s.Undelayed) {action : SessionAction κ}
    (hallowed : s.Undisturbed action) (hstep : s.step action = some t) : t.Undelayed := by
  have hupdate := updateStep_of_stepped h.flowing h.sound.links hallowed (.of_step hstep)
  exact ⟨h.sound.step hstep, h.flowing.updateStep h.sound.links hupdate,
    h.prompt.updateStep h.flowing h.sound hupdate⟩

/-- Some task can go on, or a transaction waits for its response. -/
def CanGoOn (s : Session κ) : Prop :=
  (s.step .pop).isSome ∨
    (∃ c, (s.step (.onCall c .acquire)).isSome ∨ (s.step (.onCall c .written)).isSome ∨
      (s.step (.onCall c .resume)).isSome) ∨
    ∃ call ∈ s.calls, call.phase = .awaiting

theorem canGoOn_of_locked {s : Session κ} {c : Nat} {call : Call κ}
    (hcall : s.calls[c]? = some call) (hlocked : call.phase.locked = true) : s.CanGoOn := by
  cases hphase : call.phase with
  | queued | acquiring | ended =>
      rw [hphase] at hlocked
      exact nomatch hlocked
  | awaiting => exact .inr (.inr ⟨call, List.mem_of_getElem? hcall, hphase⟩)
  | writing message =>
      refine .inr (.inl ⟨c, .inr ?_⟩)
      cases hinterrupted : call.interrupted with
      | false =>
          left
          simp [Session.step, callStep, hcall, hphase, hinterrupted]
      | true =>
          right
          simp [Session.step, callStep, hcall, Call.resumption, hphase, hinterrupted, Phase.running]

/-- A task that waits for the lock gets it, or waits for one that can go on. -/
theorem canGoOn_of_running {s : Session κ} (hsound : s.Sound) {c : Nat} {call : Call κ}
    (hcall : s.calls[c]? = some call) (hrunning : call.phase.running = true)
    (hinterrupted : call.interrupted = false) : s.CanGoOn := by
  cases hphase : call.phase with
  | queued | ended =>
      rw [hphase] at hrunning
      exact nomatch hrunning
  | writing message => exact canGoOn_of_locked hcall (by rw [hphase]; rfl)
  | awaiting => exact canGoOn_of_locked hcall (by rw [hphase]; rfl)
  | acquiring =>
      cases hlock : s.transactionLock with
      | none =>
          refine .inr (.inl ⟨c, .inl ?_⟩)
          simp [Session.step, callStep, hcall, hphase, hinterrupted, hlock]
      | some d =>
          obtain ⟨other, hother, hlocked⟩ := hsound.accounted.holder d hlock
          exact canGoOn_of_locked hother hlocked

/-- No unwritten update is stuck: a task can go on, or a response is awaited. -/
theorem Undelayed.canGoOn {s : Session κ} (h : s.Undelayed)
    (hunwritten : s.coalescedUpdates ≠ .empty ∨ s.inFlight ≠ []) : s.CanGoOn := by
  cases hwriter : s.writer with
  | stopped => exact absurd hwriter h.flowing.started
  | holding c =>
      obtain ⟨call, hcall, -, hrunning, hinterrupted⟩ := h.sound.links.holding c hwriter
      exact canGoOn_of_running h.sound hcall hrunning hinterrupted
  | idle =>
      have hqueue := hunwritten.resolve_right (not_not.mpr (inFlight_of_idle hwriter))
      have hpop : s.coalescedUpdates.popFirst ≠ none := fun hnone =>
        hqueue ((OrderedDict.entries_eq_nil_iff _).mp
          ((OrderedDict.popFirst_eq_none_iff _).mp hnone))
      obtain ⟨⟨⟨key, c⟩, rest⟩, hpop⟩ := Option.ne_none_iff_exists'.mp hpop
      obtain ⟨call, hcall, -⟩ := h.sound.links.queued key c
        (OrderedDict.get?_of_popFirst hpop)
      left
      simp only [Session.step, Session.popUpdate, hwriter, hpop, hcall]
      split
      · rfl
      · split <;> rfl

/-- What becomes of the coalesced calls of a session, by the history of their
queue. -/
structure LastValueWins (s : Session κ) : Prop where
  submitted : ∀ (c : Nat) (call : Call κ) key, s.calls[c]? = some call → call.key = some key →
    (key, c) ∈ submissions (history s.log)
  queue : ∀ key c, s.coalescedUpdates.get? key = some c ↔
    (ofKey key (submissions (history s.log))).getLast? = some (key, c) ∧
      (key, c) ∉ pops (history s.log)
  superseded : ∀ (c : Nat) (call : Call κ) key, s.calls[c]? = some call → call.key = some key →
    (call.future = .result .nothing ∧ (key, c) ∉ writtenUpdates s.log ↔
      Superseded (history s.log) key c)
  returned : ∀ (c : Nat) (call : Call κ), s.calls[c]? = some call → call.key ≠ none →
    call.task = .waiting ∨ call.task = call.future
  written : ∀ key c, (key, c) ∈ submissions (history s.log) → ¬ Superseded (history s.log) key c →
    s.coalescedUpdates.get? key = some c ∨ (key, c) ∈ writtenUpdates s.log ++ s.inFlight
  once : (writtenUpdates s.log ++ s.inFlight).Nodup
  messages : ∀ entry ∈ updateWrites s.log, ∃ call : Call κ, s.calls[entry.1.2]? = some call ∧
    call.command.toMessage = .ok entry.2
  inOrder : ∀ key, (ofKey key (writtenUpdates s.log ++ s.inFlight)).Sublist
    (ofKey key (submissions (history s.log)))
  last : s.coalescedUpdates = .empty → ∀ key,
    (ofKey key (writtenUpdates s.log ++ s.inFlight)).getLast? =
      (ofKey key (submissions (history s.log))).getLast?
  atOnce : (∀ call ∈ s.calls, call.key ≠ none) → s.inFlight = []
  goesOn : s.coalescedUpdates ≠ .empty ∨ s.inFlight ≠ [] → s.CanGoOn
  popped : ∀ before key c after, history s.log = before ++ .pop key c :: after →
    ((unsent before).map Prod.fst).head? = some key ∧
      (ofKey key (unsent before)).getLast?.map Prod.snd = some c

theorem Undelayed.lastValueWins {s : Session κ} (h : s.Undelayed) : s.LastValueWins := by
  have hflowing := h.flowing
  have hhistory := hflowing.history
  have hsent := hflowing.sent
  have hwritten : ∀ {key c}, (key, c) ∈ writtenUpdates s.log → (key, c) ∈ pops (history s.log) :=
    fun hmem => hsent ▸ List.mem_append_left _ hmem
  constructor
  case submitted => exact fun c call key hcall hkey => (hflowing.submitted c call key hcall hkey).1
  case queue => exact hhistory.get?_eq_some_iff
  case superseded =>
    intro c call key hcall hkey
    have hsome : call.key ≠ none := by simp [hkey]
    obtain ⟨hmem, -, -, hinterrupted⟩ := hflowing.submitted c call key hcall hkey
    rw [hhistory.superseded_iff hmem]
    cases hphase : call.phase with
    | queued =>
        obtain ⟨hpopped, hstate⟩ := hflowing.queued c call key hcall hkey hphase
        rcases hstate with ⟨hwaits, hget⟩ | ⟨hnothing, hget⟩
        · rw [hwaits]
          exact ⟨fun hboth => (nomatch hboth.1), fun hboth => absurd hget hboth.1⟩
        · exact ⟨fun _ => ⟨hget, hpopped⟩, fun _ => ⟨hnothing, fun hmem => hpopped (hwritten hmem)⟩⟩
    | acquiring =>
        have hholding : s.writer = .holding c := by
          apply (h.sound.links.running c call hcall hsome (by rw [hphase]; rfl)).resolve_right
          rw [hinterrupted]
          exact nofun
        have hpopped : (key, c) ∈ pops (history s.log) := by
          rw [← hsent, inFlight_of_holding hholding hcall hkey, if_pos hphase]
          exact List.mem_append_right _ (List.mem_singleton.mpr rfl)
        rw [hflowing.acquiring c call key hcall hkey hphase]
        exact ⟨fun hboth => (nomatch hboth.1), fun hboth => absurd hpopped hboth.2⟩
    | writing | awaiting | ended =>
        have hmem := hflowing.written c call key hcall hkey (by simp [hphase, Phase.locked])
        exact ⟨fun hboth => absurd hmem hboth.2, fun hboth => absurd (hwritten hmem) hboth.2⟩
  case returned => exact hflowing.returned
  case written =>
    intro key c hmem hnot
    rw [hhistory.superseded_iff hmem, not_and_or, not_not, not_not] at hnot
    rwa [hsent]
  case once =>
    rw [hsent]
    exact hhistory.nodup_pops
  case messages => exact hflowing.messages
  case inOrder =>
    intro key
    rw [hsent]
    exact (List.sublist_append_left _ _).trans (hhistory.ofKey_pops key).1
  case last =>
    intro hempty key
    have hlast := (hhistory.ofKey_pops key).2
    rw [hempty] at hlast
    rw [hsent, ← hlast]
    simp
  case atOnce =>
    intro hcoalesced
    cases hwriter : s.writer with
    | stopped => exact absurd hwriter hflowing.started
    | idle => exact inFlight_of_idle hwriter
    | holding c =>
        obtain ⟨call, hcall, hsome, -⟩ := h.sound.links.holding c hwriter
        obtain ⟨key, hkey⟩ := Option.ne_none_iff_exists'.mp hsome
        rw [inFlight_of_holding hwriter hcall hkey, if_neg]
        intro hphase
        obtain ⟨d, other, hother, hplain⟩ := h.prompt c call hcall hsome hphase
        exact hcoalesced other (List.mem_of_getElem? hother) hplain
  case goesOn => exact h.canGoOn
  case popped =>
    intro before key c after hlog
    rw [hlog] at hhistory
    exact hhistory.pop_oldest

/-- A cancelled caller removes no update but its own. -/
theorem cancel_keeps {s t : Session κ} {c : Nat} {action : CallAction}
    (haction : action = .cancel ∨ action = .resumeCaller)
    (hstep : s.step (.onCall c action) = some t) (key : κ) (d : Nat) :
    (t.coalescedUpdates.get? key = some d → s.coalescedUpdates.get? key = some d) ∧
      (d ≠ c → s.coalescedUpdates.get? key = some d → t.coalescedUpdates.get? key = some d) := by
  have hstepped : ∃ call, CallStepped s c call action t := by
    cases Stepped.of_step hstep with
    | onCall _ hstepped => exact ⟨_, hstepped⟩
  obtain ⟨call, hstepped⟩ := hstepped
  rcases haction with rfl | rfl
  · cases hstepped
    unfold cancelCall
    split <;> exact ⟨id, fun _ => id⟩
  · cases hstepped
    simp only [modifyCall]
    split
    · unfold removeCoalescedUpdate
      split
      · rename_i hown
        simp only [OrderedDict.get?_erase]
        split
        · rename_i hsame
          rw [hsame, hown]
          exact ⟨by simp, fun hne heq => absurd (Option.some.inj heq).symm hne⟩
        · exact ⟨id, fun _ => id⟩
      · exact ⟨id, fun _ => id⟩
    · exact ⟨id, fun _ => id⟩

/-- While a session stays open, its writes succeed and no caller is cancelled,
the last value wins for each key and no other is lost; and a caller that is
cancelled, in any session, removes at most its own queued update. -/
theorem updates_coalesced :
    (∀ (s t : Session κ) (actions : List (SessionAction κ)), s.Fresh →
      Machine.RunWhere step Undisturbed s.opened actions t → t.LastValueWins) ∧
    ∀ (s t : Session κ) (c : Nat) (action : CallAction),
      action = .cancel ∨ action = .resumeCaller → s.step (.onCall c action) = some t →
        ∀ key d, (t.coalescedUpdates.get? key = some d → s.coalescedUpdates.get? key = some d) ∧
          (d ≠ c → s.coalescedUpdates.get? key = some d →
            t.coalescedUpdates.get? key = some d) := by
  constructor
  · intro s t actions hfresh hrun
    have hundelayed : t.Undelayed := hrun.invariant
      (fun _ _ _ h hallowed hstep => h.step hallowed hstep) hfresh.undelayed
    exact hundelayed.lastValueWins
  · exact fun s t c action haction hstep => cancel_keeps haction hstep

/-- Two updates of one key, of which the second is written, and a queued update of
another key. -/
def sampleUpdates : List (SessionAction Nat) :=
  [.start (.coalescedUpdate (.update .reportingState (reportingStateFields true)) 0),
    .start (.coalescedUpdate (.update .reportingState (reportingStateFields false)) 0),
    .pop,
    .start (.coalescedUpdate (.update .reportingState (reportingStateFields true)) 1)]

theorem updates_coalesced_sample :
    ∃ s t : Session Nat, Machine.RunWhere step Undisturbed (opened {}) sampleUpdates s ∧
      writtenUpdates s.log = [(0, 1)] ∧ s.LastValueWins ∧
      s.step (.onCall 0 .resumeCaller) = some t ∧ t.coalescedUpdates.get? 1 = some 2 := by
  have hfresh : Fresh ({} : Session Nat) :=
    ⟨⟨rfl, fun _ => rfl, rfl, rfl, rfl⟩, rfl, rfl, rfl, rfl, rfl, rfl, rfl, rfl, rfl⟩
  have hrun : ∃ s t : Session Nat,
      Machine.RunWhere step Undisturbed (opened {}) sampleUpdates s ∧
        writtenUpdates s.log = [(0, 1)] ∧ s.step (.onCall 0 .resumeCaller) = some t ∧
        s.coalescedUpdates.get? 1 = some 2 := by
    refine ⟨_, _, .of_mem (Machine.run_iff_exec.mpr rfl) ?_, rfl, rfl, rfl⟩
    intro action hmem _
    simp only [sampleUpdates, List.mem_cons, List.not_mem_nil, or_false] at hmem
    rcases hmem with rfl | rfl | rfl | rfl
    · exact fun _ => ⟨_, _, rfl, rfl⟩
    · exact fun _ => ⟨_, _, rfl, rfl⟩
    · trivial
    · exact fun _ => ⟨_, _, rfl, rfl⟩
  obtain ⟨s, t, hrun, hwritten, hstep, hqueued⟩ := hrun
  obtain ⟨hruns, hcancels⟩ := updates_coalesced (κ := Nat)
  exact ⟨s, t, hrun, hwritten, hruns _ s _ hfresh hrun, hstep,
    (hcancels s t 0 .resumeCaller (.inr rfl) hstep 1 2).2 (by decide) hqueued⟩

end

end Session

end Tekmar482
