import Tekmar482.TransactionSteps

/-!
# Writes of a session

A step starts one write at most. It is the write of a call whose transaction has just taken the
lock, so a call is written once, and only a written call returns a message or a response.
-/

namespace Tekmar482

namespace Call

variable {κ : Type}

/-- A result that only the write of a call leads to. -/
def answered : FutureState CallResult → Bool
  | .result (.written _) | .result (.response _) => true
  | _ => false

/-- The write of the call has been started, and not failed. -/
def Wrote (self : Call κ) : Prop :=
  self.phase.locked = true ∨ answered self.task = true ∨ answered self.future = true

/-- The transaction of the call has not had the lock yet. -/
def Unstarted (self : Call κ) : Prop := self.phase = .queued ∨ self.phase = .acquiring

/-- What may happen to a call besides the start of its write. -/
structure Trails (before after : Call κ) : Prop where
  command : after.command = before.command
  unstarted : after.Unstarted → before.Unstarted
  wrote : after.Wrote → before.Wrote

theorem Trails.refl (call : Call κ) : Trails call call := ⟨rfl, id, id⟩

theorem Trails.trans {first second third : Call κ} (h : Trails first second)
    (h' : Trails second third) : Trails first third where
  command := h'.command.trans h.command
  unstarted := fun hunstarted => h.unstarted (h'.unstarted hunstarted)
  wrote := fun hwrote => h.wrote (h'.wrote hwrote)

/-- The phase stays, and the task takes over what the future has. -/
theorem Trails.of_phase {before after : Call κ} (hcommand : after.command = before.command)
    (hphase : after.phase = before.phase)
    (htask : answered after.task = true → answered before.task = true ∨
      answered before.future = true)
    (hfuture : answered after.future = true → answered before.future = true) :
    Trails before after where
  command := hcommand
  unstarted := by
    rw [Unstarted, hphase]
    exact id
  wrote := by
    rintro (hlocked | hanswered | hanswered)
    · exact .inl (hphase ▸ hlocked)
    · exact .inr (htask hanswered)
    · exact .inr (.inr (hfuture hanswered))

theorem answered_raised (call : Call κ) (err : PyException) :
    answered (call.raised err) = false := by
  unfold raised
  split <;> rfl

theorem settle_trails (call : Call κ) {state : FutureState CallResult}
    (h : answered state = false) : call.Trails (call.settle state) := by
  unfold settle
  split
  · exact .of_phase rfl rfl .inl fun hanswered => absurd hanswered (by simp [h])
  · exact .refl call

@[simp] theorem finish_command (call : Call κ) (result : FutureState CallResult) :
    (call.finish result).command = call.command := by
  unfold finish settle
  split
  · rfl
  · split <;> rfl

theorem finish_not_unstarted (call : Call κ) (result : FutureState CallResult) :
    ¬ (call.finish result).Unstarted := by
  rw [Unstarted, finish_phase]
  rintro (hqueued | hacquiring)
  · cases hqueued
  · cases hacquiring

/-- The answer of an ended call is the result, or was there before. -/
theorem wrote_finish {call : Call κ} {result : FutureState CallResult}
    (h : (call.finish result).Wrote) :
    answered result = true ∨ answered call.task = true ∨ answered call.future = true := by
  rcases h with hlocked | hanswered | hanswered
  · rw [finish_phase] at hlocked
    cases hlocked
  · unfold finish settle at hanswered
    split at hanswered
    · exact .inl hanswered
    · split at hanswered <;> exact .inr (.inl hanswered)
  · unfold finish settle at hanswered
    split at hanswered
    · exact .inr (.inr hanswered)
    · split at hanswered
      · exact .inl hanswered
      · exact .inr (.inr hanswered)

/-- A transaction that ends with an answer was written. -/
theorem finish_trails (call : Call κ) {result : FutureState CallResult}
    (h : answered result = true → call.phase.locked = true) : call.Trails (call.finish result) where
  command := call.finish_command result
  unstarted := fun hunstarted => absurd hunstarted (call.finish_not_unstarted result)
  wrote := by
    intro hwrote
    rcases wrote_finish hwrote with hanswered | hbefore
    · exact .inl (h hanswered)
    · exact .inr hbefore

/-- A suspended transaction resumes with an answer from its wait only. -/
theorem resumption_answered {call : Call κ} {reply : Option (FutureState Arrival)}
    {result : FutureState CallResult} (h : call.resumption reply = some result)
    (hanswered : answered result = true) : call.phase.locked = true := by
  unfold resumption at h
  split at h
  · split at h
    · cases h
      cases hanswered
    · cases h
  · split at h
    · cases h
    · rename_i hphase
      rw [not_not.mp hphase]
      rfl

theorem create_unwritten (request : SessionRequest κ) : ¬ (create request).Wrote := by
  cases request <;> simp [create, Wrote, answered, Phase.locked]

end Call

namespace Dispatcher

variable {self : Dispatcher} {command : TrpcCommand} {message : TrpcPacket}

theorem sendUpdate_eq_ok (h : self.sendUpdate command = .ok message) :
    command.toMessage = .ok message := by
  rw [sendUpdate] at h
  cases hmessage : command.toMessage with
  | error err =>
      rw [hmessage] at h
      cases h
  | ok created =>
      rw [hmessage] at h
      cases hwrite : self.writeMessage created with
      | error err =>
          simp only [bind, Except.bind, hwrite] at h
          cases h
      | ok packet =>
          simp only [bind, Except.bind, hwrite] at h
          exact h

theorem sendUnlocked_eq_ok (h : self.sendUnlocked command = .ok message) :
    command.toMessage = .ok message := by
  cases havailable : self.raiseIfUnavailable with
  | error err =>
      rw [sendUnlocked, havailable] at h
      cases h
  | ok _ =>
      rw [sendUnlocked, havailable] at h
      exact sendUpdate_eq_ok h

end Dispatcher

namespace Session

variable {κ : Type}

/-- What a step keeps of the calls that starts no write. -/
structure Trails (s t : Session κ) : Prop where
  kept : ∀ (c : Nat) call, s.calls[c]? = some call →
    ∃ call', t.calls[c]? = some call' ∧ call.Trails call'
  new : ∀ (c : Nat) call, t.calls[c]? = some call → s.calls[c]? = none → ¬ call.Wrote

/-- A call after such a step was there before, or is not written. -/
theorem Trails.back {s t : Session κ} (h : Trails s t) {c : Nat} {call' : Call κ}
    (hcall' : t.calls[c]? = some call') :
    (∃ call, s.calls[c]? = some call ∧ call.Trails call') ∨ ¬ call'.Wrote := by
  cases hcall : s.calls[c]? with
  | none => exact .inr (h.new c call' hcall' hcall)
  | some call =>
      obtain ⟨call'', hcall'', htrails⟩ := h.kept c call hcall
      cases hcall'.symm.trans hcall''
      exact .inl ⟨call, rfl, htrails⟩

theorem Trails.trans {s t u : Session κ} (h : Trails s t) (h' : Trails t u) : Trails s u where
  kept := by
    intro c call hcall
    obtain ⟨mid, hmid, htrails⟩ := h.kept c call hcall
    obtain ⟨last, hlast, htrails'⟩ := h'.kept c mid hmid
    exact ⟨last, hlast, htrails.trans htrails'⟩
  new := by
    intro c call hcall hnone hwrote
    rcases h'.back hcall with ⟨mid, hmid, htrails⟩ | hunwritten
    · exact h.new c mid hmid hnone (htrails.wrote hwrote)
    · exact hunwritten hwrote

/-- No write is in the log of the step either. -/
structure Silent (s t : Session κ) : Prop extends Trails s t where
  log : ∃ extra, t.log = s.log ++ extra ∧ ∀ event ∈ extra, writes event = none

theorem Silent.of_same {s t : Session κ} (hlog : t.log = s.log) (hcalls : t.calls = s.calls) :
    Silent s t where
  log := ⟨[], by rw [hlog, List.append_nil], fun _ hmem => absurd hmem List.not_mem_nil⟩
  kept := fun c call hcall => ⟨call, hcalls ▸ hcall, .refl call⟩
  new := fun c call hcall hnone => by
    rw [hcalls, hnone] at hcall
    cases hcall

theorem Silent.refl (s : Session κ) : Silent s s := .of_same rfl rfl

theorem Silent.trans {s t u : Session κ} (h : Silent s t) (h' : Silent t u) : Silent s u where
  toTrails := h.toTrails.trans h'.toTrails
  log := by
    obtain ⟨first, hfirst, hsilent⟩ := h.log
    obtain ⟨second, hsecond, hsilent'⟩ := h'.log
    refine ⟨first ++ second, by rw [hsecond, hfirst, List.append_assoc], ?_⟩
    intro event hmem
    exact (List.mem_append.mp hmem).elim (hsilent event) (hsilent' event)

/-- Calls change one by one. -/
theorem Silent.of_calls {s t : Session κ} (hlog : t.log = s.log) (f : Nat → Call κ → Call κ)
    (hcalls : ∀ c : Nat, t.calls[c]? = s.calls[c]?.map (f c))
    (hf : ∀ (c : Nat) (call : Call κ), s.calls[c]? = some call → call.Trails (f c call)) :
    Silent s t where
  log := ⟨[], by rw [hlog, List.append_nil], fun _ hmem => absurd hmem List.not_mem_nil⟩
  kept := fun c call hcall => ⟨f c call, by rw [hcalls, hcall]; rfl, hf c call hcall⟩
  new := fun c call hcall hnone => by
    rw [hcalls, hnone] at hcall
    cases hcall

theorem silent_modifyCall (s : Session κ) (c : Nat) {f : Call κ → Call κ}
    (hf : ∀ call, s.calls[c]? = some call → call.Trails (f call)) :
    Silent s (s.modifyCall c f) := by
  refine Silent.of_calls rfl (fun d call => if c = d then f call else call) ?_ ?_
  · exact fun d => List.getElem?_modify f c s.calls d
  · intro d call hcall
    split
    · rename_i hsame
      exact hf call (hsame ▸ hcall)
    · exact .refl call

theorem silent_append (s : Session κ) {call : Call κ} (h : ¬ call.Wrote) :
    Silent s { s with calls := s.calls ++ [call] } where
  log := ⟨[], (List.append_nil _).symm, fun _ hmem => absurd hmem List.not_mem_nil⟩
  kept := fun c call' hcall' => ⟨call', by
    rw [List.getElem?_append_left (List.getElem?_eq_some_iff.mp hcall').1, hcall'], .refl call'⟩
  new := by
    intro c call' hcall' hnone
    have hle : s.calls.length ≤ c := List.getElem?_eq_none_iff.mp hnone
    rw [List.getElem?_append_right hle, List.getElem?_singleton] at hcall'
    obtain ⟨-, hcall'⟩ := Option.ite_none_right_eq_some.mp hcall'
    rwa [← Option.some.inj hcall']

theorem silent_log (s : Session κ) (event : SessionEvent κ) (h : writes event = none) :
    Silent s { s with log := s.log ++ [event] } where
  log := ⟨[event], rfl, fun other hmem => by rwa [List.mem_singleton.mp hmem]⟩
  kept := fun c call hcall => ⟨call, hcall, .refl call⟩
  new := fun c call hcall hnone => by cases hcall.symm.trans hnone

theorem silent_interrupt (s : Session κ) (c : Nat) (call : Call κ) :
    Silent s (s.interrupt c call) := by
  have hcalls : Silent s (s.modifyCall c fun call => { call with interrupted := true }) :=
    silent_modifyCall s c fun call _ => .of_phase rfl rfl .inl id
  exact hcalls.trans (.of_same rfl rfl)

theorem silent_failCoalescedUpdates (s : Session κ) (err : PyException) :
    Silent s (s.failCoalescedUpdates err) := by
  refine Silent.of_calls rfl (fun c call =>
    if c ∈ s.coalescedUpdates.values then call.settle (.exception err) else call) ?_ ?_
  · exact fun c => List.getElem?_mapIdx
  · intro c call _
    split
    · exact call.settle_trails rfl
    · exact .refl call

theorem silent_setReaderError (s : Session κ) (err : PyException) :
    Silent s (s.setReaderError err) :=
  (silent_failCoalescedUpdates s err).trans (.of_same rfl rfl)

theorem silent_dispatchPacket (s : Session κ) (packet : Packet) :
    Silent s (s.dispatchPacket packet) := by
  unfold dispatchPacket
  simp only
  split
  · split
    · exact (silent_setReaderError s _).trans (.of_same rfl rfl)
    · exact .of_same rfl rfl
  · exact .of_same rfl rfl

theorem silent_cancelCall (s : Session κ) (c : Nat) (call : Call κ) :
    Silent s (s.cancelCall c call) := by
  unfold cancelCall
  split
  · exact (silent_interrupt s c call).trans
      (silent_modifyCall _ c fun call _ => .of_phase rfl rfl .inl id)
  · refine silent_modifyCall s c fun call _ => ?_
    have hsettled : call.Trails (call.settle .cancelled) := call.settle_trails rfl
    exact hsettled.trans (.of_phase rfl rfl .inl id)

theorem silent_cancelWriter (s : Session κ) : Silent s s.cancelWriter := by
  unfold cancelWriter
  split
  · rename_i c _
    split
    · exact .of_same rfl rfl
    · rename_i call _
      exact (silent_interrupt s c call).trans (.of_same rfl rfl)
  · exact .of_same rfl rfl

/-- A transaction ends with an answer only if it has written. -/
theorem silent_endTransaction (s : Session κ) (c : Nat) {result : FutureState CallResult}
    (h : ∀ call, s.calls[c]? = some call → Call.answered result = true →
      call.phase.locked = true) : Silent s (s.endTransaction c result) := by
  have hcalls : Silent s (s.modifyCall c fun call => call.finish result) :=
    silent_modifyCall s c fun call hcall => call.finish_trails (h call hcall)
  exact (hcalls.trans (silent_log _ (.completed c) rfl)).trans (.of_same rfl rfl)

theorem silent_acquired (s : Session κ) (c : Nat) (call : Call κ) :
    Silent s (s.acquired c call) := by
  unfold acquired
  simp only
  split
  · exact .of_same rfl rfl
  · exact (silent_log s (.registered c s.dispatcher.arrived) rfl).trans (.of_same rfl rfl)

theorem silent_popped (s : Session κ) (key : κ) (c : Nat) (rest : OrderedDict κ Nat) :
    Silent s (s.popped key c rest) :=
  (silent_log s (.popped key c) rfl).trans (.of_same rfl rfl)

/-- The message that a call starts to write is that of its command. -/
theorem startWrite_eq_ok {s : Session κ} {call : Call κ} {message : TrpcPacket}
    (h : s.startWrite call = .ok message) : call.command.toMessage = .ok message := by
  unfold startWrite at h
  split at h
  · exact Dispatcher.sendUpdate_eq_ok h
  · exact Dispatcher.sendUnlocked_eq_ok h

/-- The two kinds of steps: the second one starts the write of a call. -/
inductive WriteStep (s : Session κ) : Session κ → Prop
  | silent {t : Session κ} (hsilent : Silent s t) : WriteStep s t
  | writes {t u : Session κ} (hsilent : Silent s u) {c : Nat} {call : Call κ}
      {message : TrpcPacket} (hcall : u.calls[c]? = some call) (hphase : call.phase = .acquiring)
      (hmessage : call.command.toMessage = .ok message)
      (hwrote : t = u.wrote c call message) : WriteStep s t

theorem beginTransaction_write {s u : Session κ} (h : Silent s u) {c : Nat} {call : Call κ}
    (hcall : u.calls[c]? = some call) (hphase : call.phase = .acquiring) :
    WriteStep s (u.beginTransaction c call) := by
  have hacquired := h.trans (silent_acquired u c call)
  unfold beginTransaction
  split
  · apply WriteStep.silent (hacquired.trans (silent_endTransaction _ c fun other _ hanswered => ?_))
    rw [call.answered_raised] at hanswered
    cases hanswered
  · rename_i message hmessage
    refine .writes hacquired ?_ hphase (startWrite_eq_ok hmessage) rfl
    rw [acquired_calls]
    exact hcall

/-- A write that fails leaves the calls as if it had not been started. -/
theorem trails_writeFails (s : Session κ) {c : Nat} {call : Call κ} (message : TrpcPacket)
    {result : FutureState CallResult} (h : Call.answered result = false) :
    Trails s ((s.wrote c call message).endTransaction c result) := by
  have hcalls : Trails s (s.modifyCall c fun call =>
      ({ call with phase := .writing message } : Call κ).finish result) := by
    refine Silent.toTrails (silent_modifyCall s c fun other _ => ?_)
    refine ⟨Call.finish_command _ _, fun hunstarted => ?_, fun hwrote => ?_⟩
    · exact absurd hunstarted (Call.finish_not_unstarted _ _)
    · rcases Call.wrote_finish hwrote with hanswered | hbefore
      · cases h.symm.trans hanswered
      · exact .inr hbefore
  have hsame : ((s.wrote c call message).endTransaction c result).calls =
      (s.modifyCall c fun call =>
        ({ call with phase := .writing message } : Call κ).finish result).calls :=
    List.modify_modify_eq _ _ c s.calls
  exact ⟨hsame ▸ hcalls.kept, hsame ▸ hcalls.new⟩

section Step

variable [DecidableEq κ]

theorem silent_submit (s : Session κ) (key : κ) (c : Nat) : Silent s (s.submit key c) := by
  have hlogged (u : Session κ) (hlog : u.log = s.log) : Silent u { u with
      coalescedUpdates := s.coalescedUpdates.set key c
      log := s.log ++ [.submitted key c] } := by
    rw [← hlog]
    exact (silent_log u (.submitted key c) rfl).trans (.of_same rfl rfl)
  unfold submit
  cases s.coalescedUpdates.get? key with
  | none => exact hlogged s rfl
  | some previous =>
      exact (silent_modifyCall s previous fun call _ => call.settle_trails rfl).trans
        (hlogged _ rfl)

theorem startCall_write (s : Session κ) (request : SessionRequest κ) :
    WriteStep s (s.startCall request) := by
  have hcreated := silent_append s (Call.create_unwritten request)
  simp only [startCall]
  split
  · rename_i hkey
    split
    · exact .silent hcreated
    · refine beginTransaction_write hcreated List.getElem?_concat_length ?_
      cases request with
      | send | requestResponse | updateResponse => rfl
      | coalescedUpdate | coalescedUpdateResponse => cases hkey
  · split
    · apply WriteStep.silent (silent_append s ?_)
      cases request <;> simp [Call.create, Call.Wrote, Call.answered, Phase.locked]
    · exact .silent (hcreated.trans (silent_submit _ _ _))

omit [DecidableEq κ] in
theorem silent_hold (s : Session κ) (c : Nat)
    (h : ∀ call, s.calls[c]? = some call → call.phase = .queued) : Silent s (s.hold c) := by
  have hcalls : Silent s (s.modifyCall c fun call => { call with phase := .acquiring }) := by
    refine silent_modifyCall s c fun call hcall => ⟨rfl, fun _ => .inl (h call hcall), ?_⟩
    rintro (hlocked | hanswered)
    · cases hlocked
    · exact .inr hanswered
  exact hcalls.trans (.of_same rfl rfl)

theorem popUpdate_write {s t : Session κ} (hlinks : s.UpdateLinks) (hpopped : Popped s t) :
    WriteStep s t := by
  have hheld {key : κ} {c : Nat} {rest : OrderedDict κ Nat} {call : Call κ}
      (hpop : s.coalescedUpdates.popFirst = some ((key, c), rest))
      (hcall : s.calls[c]? = some call) : Silent s ((s.popped key c rest).hold c) := by
    refine (silent_popped s key c rest).trans (silent_hold _ c fun other hother => ?_)
    cases hcall.symm.trans hother
    exact (hlinks.popped hpop hcall).2
  cases hpopped with
  | skipped => exact .silent (silent_popped s _ _ _)
  | held _ hpop hcall => exact .silent (hheld hpop hcall)
  | @began key c rest call _ hpop hcall =>
      have hacquiring := calls_modifyCall_self (s := s.popped key c rest) (fun call =>
        { call with phase := .acquiring }) hcall
      exact beginTransaction_write (hheld hpop hcall) hacquiring rfl

theorem callStep_write {s t : Session κ} {c : Nat} {call : Call κ} (hcall : s.calls[c]? = some call)
    {action : CallAction} (hstepped : CallStepped s c call action t) : WriteStep s t := by
  cases hstepped with
  | acquire hphase => exact beginTransaction_write (.refl s) hcall hphase
  | written hphase =>
      refine .silent (silent_endTransaction s c fun other hother _ => ?_)
      cases hcall.symm.trans hother
      rw [hphase]
      rfl
  | awaits hphase =>
      refine .silent (silent_modifyCall s c fun other hother => ?_)
      cases hcall.symm.trans hother
      refine ⟨rfl, ?_, fun _ => .inl (by rw [hphase]; rfl)⟩
      rintro (hqueued | hacquiring)
      · cases hqueued
      · cases hacquiring
  | @writeFails _ err =>
      refine .silent (silent_endTransaction s c fun other _ hanswered => ?_)
      rw [call.answered_raised] at hanswered
      cases hanswered
  | timeout =>
      have hcalls : Silent s (s.modifyCall c fun call => { call with timedOut := true }) :=
        silent_modifyCall s c fun call _ => .of_phase rfl rfl .inl id
      exact .silent (hcalls.trans (.of_same rfl rfl))
  | cancel => exact .silent (silent_cancelCall s c call)
  | resume hresult =>
      refine .silent (silent_endTransaction s c fun other hother hanswered => ?_)
      cases hcall.symm.trans hother
      exact Call.resumption_answered hresult hanswered
  | @resumeCaller key =>
      have hremoved : Silent s
          (if call.wakeup = .cancelled then s.removeCoalescedUpdate key c else s) := by
        split
        · unfold removeCoalescedUpdate
          split <;> exact .of_same rfl rfl
        · exact .refl s
      refine .silent (hremoved.trans (silent_modifyCall _ c fun other hother => ?_))
      rw [calls_removed] at hother
      cases hcall.symm.trans hother
      refine .of_phase rfl rfl (fun hanswered => ?_) id
      simp only [Call.wakeup] at hanswered
      split at hanswered
      · cases hanswered
      · exact .inr hanswered

/-- Every step is of one of the two kinds. -/
theorem step_write {s t : Session κ} (hlinks : s.UpdateLinks) {action : SessionAction κ}
    (hstep : s.step action = some t) : WriteStep s t := by
  cases Stepped.of_step hstep with
  | start request => exact startCall_write s request
  | onCall hcall hstepped => exact callStep_write hcall hstepped
  | pop hpopped => exact popUpdate_write hlinks hpopped
  | packet => exact .silent (silent_dispatchPacket s _)
  | readerFails => exact .silent (silent_setReaderError s _)
  | writerReturns | backlog | opened | close => exact .silent (.of_same rfl rfl)
  | cancelWriter => exact .silent ((silent_cancelWriter s).trans (.of_same rfl rfl))
  | failOutstanding =>
      exact .silent ((silent_failCoalescedUpdates s _).trans (.of_same rfl rfl))

end Step

end Session

end Tekmar482
