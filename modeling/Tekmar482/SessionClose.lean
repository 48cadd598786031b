import Tekmar482.FailingCalls

/-!
# Closing a session

A running `close` goes on until the transport is closed. When no task of the
session can go on after it, every call has returned, and each outstanding call
with the error of the closed connection.
-/

namespace Tekmar482

namespace Session

variable {κ : Type}

/-- What holds while the `close` with a number runs, and after it. -/
structure Closing (k : Nat) (s : Session κ) : Prop where
  closed : s.dispatcher.closed = true
  readerError : s.dispatcher.readerError = none
  reading : s.reading = false
  running : k < s.closers.length
  waited : ∀ c, s.closers[k]? = some (.awaitingWriter (some c)) →
    ∃ call, s.calls[c]? = some call ∧ call.interrupted = true
  done : s.closers[k]? = some .closingTransport → s.transportOpen = false ∧
    s.coalescedUpdates = .empty ∧
    ∀ (c : Nat) (call : Call κ), s.calls[c]? = some call → call.phase.locked = true →
      call.response ≠ none → s.dispatcher.futures c ≠ some .waiting

theorem Closing.winds {k : Nat} {s t : Session κ} (h : s.Closing k) (hwinds : Winds s t) :
    t.Closing k where
  closed := hwinds.closed h.closed
  readerError := hwinds.readerError.trans h.readerError
  reading := hwinds.reading h.reading
  running := hwinds.closers ▸ h.running
  waited := by
    intro c hcloser
    obtain ⟨call, hcall, hinterrupted⟩ := h.waited c (hwinds.closers ▸ hcloser)
    obtain ⟨call', hcall', hkept⟩ := hwinds.kept c call hcall
    exact ⟨call', hcall', hkept.interrupted hinterrupted⟩
  done := by
    intro hcloser
    obtain ⟨htransport, hupdates, hfutures⟩ := h.done (hwinds.closers ▸ hcloser)
    refine ⟨hwinds.transport htransport, hwinds.updates hupdates, ?_⟩
    intro c call' hcall' hlocked hresponse hwaits
    obtain ⟨call, hcall, hlocked', hsame⟩ := hwinds.locked hcall' hlocked
    exact hfutures c call hcall hlocked' (hsame ▸ hresponse)
      (hwinds.waiting c call' hcall' hlocked hwaits)

/-- A step of another `close` does not concern this one. -/
theorem Closing.closers {k : Nat} {s : Session κ} (h : s.Closing k) {closers : List Closer}
    (hcloser : closers[k]? = s.closers[k]?) : { s with closers := closers }.Closing k where
  closed := h.closed
  readerError := h.readerError
  reading := h.reading
  running := by
    rw [List.getElem?_eq_getElem h.running] at hcloser
    exact (List.getElem?_eq_some_iff.mp hcloser).1
  waited := fun c heq => h.waited c (hcloser ▸ heq)
  done := fun heq => h.done (hcloser ▸ heq)

theorem closing_starts {s : Session κ} (hopen : s.dispatcher.raiseIfUnavailable = .ok ()) :
    s.closing.Closing s.closers.length := by
  have hreaderError : s.dispatcher.readerError = none := by
    unfold Dispatcher.raiseIfUnavailable at hopen
    split at hopen
    · exact nomatch hopen
    · assumption
  have hcloser : s.closing.closers[s.closers.length]? = some .awaitingReader :=
    List.getElem?_concat_length
  refine ⟨rfl, hreaderError, rfl, (List.getElem?_eq_some_iff.mp hcloser).1, ?_, ?_⟩
  · intro c heq
    exact nomatch hcloser.symm.trans heq
  · intro heq
    exact nomatch hcloser.symm.trans heq

theorem Outstanding.fails {s : Session κ} {c : Nat} (h : s.Outstanding c)
    (hunderWay : s.NoneUnderWay) : s.closing.Fails c := by
  obtain ⟨call, hcall, htask, -, hrest⟩ := h
  refine ⟨call, hcall, .inr ⟨.inl htask, ?_⟩⟩
  cases hkey : call.key with
  | none =>
      obtain ⟨hresponse, hinterrupted, htimedOut, hreply⟩ := hkey ▸ hrest
      refine ⟨hresponse, hinterrupted, htimedOut, fun state hstate => ?_⟩
      rcases hreply with hnone | hwaits
      · exact nomatch hnone.symm.trans hstate
      · exact .inl (Option.some.inj (hwaits.symm.trans hstate)).symm
  | some key =>
      rw [hkey] at hrest
      exact .inl ⟨hrest, hunderWay c call hcall (by simp [hkey]) hrest⟩

theorem Closing.failOutstanding {k : Nat} {s : Session κ} (h : s.Closing k)
    (haccounted : s.Accounted) :
    { s.failOutstanding with closers := s.closers.set k .closingTransport }.Closing k := by
  have hwinds := winds_failOutstanding s
  have hclosing := h.winds hwinds
  refine ⟨hclosing.closed, hclosing.readerError, hclosing.reading, ?_, ?_, ?_⟩
  · rw [List.length_set]
    exact h.running
  · intro c hcloser
    rw [List.getElem?_set_self h.running] at hcloser
    exact nomatch hcloser
  · intro _
    refine ⟨rfl, rfl, ?_⟩
    intro c call' hcall' hlocked hresponse hwaits
    obtain ⟨call, hcall, hlocked', hsame⟩ := hwinds.locked hcall' hlocked
    -- a request that still waits is pending, and every pending one has failed
    have hsettles := Dispatcher.settles_failPending s.dispatcher
      (.connectionClosedError "tekmar 482 session closed")
    obtain ⟨hbefore, hkept⟩ := hsettles.waiting c hwaits
    obtain ⟨item, hmem, hfuture⟩ :=
      (haccounted.requested c call hcall hlocked' (hsame ▸ hresponse)).2 hbefore
    exact nomatch hkept item hmem hfuture

section

variable [DecidableEq κ]

theorem Closing.cancelWriter {k : Nat} {s : Session κ} (h : s.Closing k) (hlinks : s.UpdateLinks) :
    { s.cancelWriter with closers := s.closers.set k (.awaitingWriter s.held) }.Closing k := by
  have hwinds := h.winds (winds_cancelWriter s)
  refine ⟨hwinds.closed, hwinds.readerError, hwinds.reading, ?_, ?_, ?_⟩
  · rw [List.length_set]
    exact h.running
  · intro c hcloser
    rw [List.getElem?_set_self h.running] at hcloser
    have hheld : s.held = some c := Closer.awaitingWriter.inj (Option.some.inj hcloser)
    unfold held at hheld
    split at hheld
    · rename_i hholding
      cases hheld
      obtain ⟨call, hcall, -⟩ := hlinks.holding c hholding
      simp only [Session.cancelWriter, hholding, hcall]
      exact ⟨_, calls_modifyCall_self (fun call => { call with interrupted := true }) hcall, rfl⟩
    · exact nomatch hheld
  · intro hcloser
    rw [List.getElem?_set_self h.running] at hcloser
    exact nomatch hcloser

theorem Closing.step {k : Nat} {s t : Session κ} (h : s.Closing k) (hsound : s.Sound)
    {action : SessionAction κ} (hopened : action ≠ .opened) (hstep : s.step action = some t) :
    t.Closing k := by
  have hstepped := Stepped.of_step hstep
  by_cases hclose : action = .close
  · subst hclose
    cases hstepped
    have hclosing : { s with
        dispatcher := s.dispatcher.closing
        reading := false }.Closing k :=
      h.winds (.of_same (fun _ => rfl) rfl (fun _ => rfl) id id rfl rfl fun _ => id)
    exact hclosing.closers (List.getElem?_append_left h.running)
  by_cases hcloseStep : ∃ j, action = .closeStep j
  · obtain ⟨j, rfl⟩ := hcloseStep
    cases hstepped with
    | cancelWriter =>
        rcases eq_or_ne j k with rfl | hne
        · exact h.cancelWriter hsound.links
        · have hwinds := winds_cancelWriter s
          apply (h.winds hwinds).closers
          rw [hwinds.closers, List.getElem?_set_ne hne]
    | failOutstanding =>
        rcases eq_or_ne j k with rfl | hne
        · exact h.failOutstanding hsound.accounted
        · have hwinds := winds_failOutstanding s
          apply (h.winds hwinds).closers
          rw [hwinds.closers, List.getElem?_set_ne hne]
  · exact h.winds (winds_step h.closed h.reading hopened hclose
      (fun j heq => hcloseStep ⟨j, heq⟩) hstepped)

/-! ## A closed session at rest -/

/-- The steps that a task takes without anything from outside. Once the transport
is closed, a suspended write fails. -/
def Forced (s : Session κ) : SessionAction κ → Prop
  | .onCall _ .acquire | .onCall _ .resume | .onCall _ .resumeCaller => True
  | .onCall _ (.writeFails err) => s.transportOpen = false ∧ err.IsConnectionClosed
  | .pop | .writerReturns | .closeStep _ => True
  | _ => False

/-- No task can go on. -/
def AtRest (s : Session κ) : Prop := ∀ action, s.Forced action → s.step action = none

theorem AtRest.not_resumes {s : Session κ} (h : s.AtRest) {c : Nat} {call : Call κ}
    (hcall : s.calls[c]? = some call) : call.resumption (s.dispatcher.futures c) = none := by
  have hnone := h (.onCall c .resume) trivial
  simpa [Session.step, callStep, hcall] using hnone

theorem AtRest.not_interrupted {s : Session κ} (h : s.AtRest) {c : Nat} {call : Call κ}
    (hcall : s.calls[c]? = some call) (hrunning : call.phase.running = true) :
    call.interrupted = false := by
  have hnone := h.not_resumes hcall
  rw [← Bool.not_eq_true]
  intro hinterrupted
  unfold Call.resumption at hnone
  rw [if_pos hinterrupted, if_pos hrunning] at hnone
  exact nomatch hnone

/-- A `close` whose session is at rest has come to its last section. -/
theorem Closing.closer_atRest {k : Nat} {s : Session κ} (h : s.Closing k) (hrest : s.AtRest) :
    s.closers[k]? = some .closingTransport := by
  have hnone := hrest (.closeStep k) trivial
  obtain ⟨closer, hcloser⟩ : ∃ closer, s.closers[k]? = some closer :=
    ⟨_, List.getElem?_eq_getElem h.running⟩
  simp only [Session.step, closeStep, hcloser] at hnone
  cases closer with
  | awaitingReader => cases hnone
  | closingTransport => exact hcloser
  | awaitingWriter held =>
      simp only at hnone
      split at hnone
      · cases hnone
      · rename_i hheld
        cases held with
        | none => exact absurd rfl hheld
        | some c =>
            obtain ⟨call, hcall, hinterrupted⟩ := h.waited c hcloser
            simp only [released, hcall, Option.all_some, Bool.not_eq_true, Bool.not_eq_false']
              at hheld
            cases hinterrupted.symm.trans (hrest.not_interrupted hcall hheld)

/-- No transaction has the lock of a closed session at rest. -/
theorem Closing.not_locked {k : Nat} {s : Session κ} (h : s.Closing k) (hsound : s.Sound)
    (hrest : s.AtRest) {c : Nat} {call : Call κ} (hcall : s.calls[c]? = some call) :
    call.phase.locked = false := by
  obtain ⟨htransport, -, hfutures⟩ := h.done (h.closer_atRest hrest)
  cases hphase : call.phase with
  | queued | acquiring | ended => rfl
  | writing message =>
      have hinterrupted := hrest.not_interrupted hcall (by rw [hphase]; rfl)
      have hnone := hrest (.onCall c (.writeFails (.connectionClosedError "")))
        ⟨htransport, _, rfl⟩
      simp [Session.step, callStep, hcall, hphase, hinterrupted] at hnone
  | awaiting =>
      have hinterrupted := hrest.not_interrupted hcall (by rw [hphase]; rfl)
      have hlocked : call.phase.locked = true := by rw [hphase]; rfl
      have hresponse := hsound.accounted.awaiting c call hcall hphase
      have hcreated := (hsound.accounted.requested c call hcall hlocked hresponse).1
      have hresolved := hfutures c call hcall hlocked hresponse
      have hnone := hrest.not_resumes hcall
      unfold Call.resumption at hnone
      rw [if_neg (Bool.eq_false_iff.mp hinterrupted), if_neg (not_not.mpr hphase)] at hnone
      split at hnone
      · cases hnone
      · cases hreply : s.dispatcher.futures c with
        | none => exact absurd hreply hcreated
        | some state =>
            rw [hreply] at hnone
            cases state with
            | waiting => exact absurd hreply hresolved
            | result | exception | cancelled => cases hnone

theorem Closing.not_running {k : Nat} {s : Session κ} (h : s.Closing k) (hsound : s.Sound)
    (hrest : s.AtRest) {c : Nat} {call : Call κ} (hcall : s.calls[c]? = some call) :
    call.phase.running = false := by
  have hnotLocked := h.not_locked hsound hrest hcall
  cases hphase : call.phase with
  | queued | ended => rfl
  | writing | awaiting =>
      rw [hphase] at hnotLocked
      exact nomatch hnotLocked
  | acquiring =>
      have hinterrupted := hrest.not_interrupted hcall (by rw [hphase]; rfl)
      have hfree : s.transactionLock = none := by
        cases hlock : s.transactionLock with
        | none => rfl
        | some d =>
            obtain ⟨other, hother, hlocked⟩ := hsound.accounted.holder d hlock
            exact nomatch hlocked.symm.trans (h.not_locked hsound hrest hother)
      have hnone := hrest (.onCall c .acquire) trivial
      simp [Session.step, callStep, hcall, hphase, hinterrupted, hfree] at hnone

/-- Every call of a closed session at rest has returned. -/
theorem Closing.returned {k : Nat} {s : Session κ} (h : s.Closing k) (hsound : s.Sound)
    (hrest : s.AtRest) {c : Nat} {call : Call κ} (hcall : s.calls[c]? = some call) :
    call.task ≠ .waiting := by
  have hnotRunning := h.not_running hsound hrest hcall
  cases hkey : call.key with
  | none =>
      obtain ⟨hqueued, hended⟩ := hsound.accounted.plain c call hcall hkey
      exact hended.mp (call.ended_iff.mpr ⟨hqueued, hnotRunning⟩)
  | some key =>
      intro hwaits
      have hsome : call.key ≠ none := by simp [hkey]
      -- the caller of a resolved call can go on
      have hunresolved : call.future = .waiting := by
        have hnone := hrest (.onCall c .resumeCaller) trivial
        simp only [Session.step, hcall, Option.bind_some, callStep, resumeCaller, hkey] at hnone
        split at hnone
        · cases hnone
        · rename_i hnot
          have hwakeup := not_not.mp fun hne => hnot ⟨hwaits, hne⟩
          unfold Call.wakeup at hwakeup
          split at hwakeup
          · cases hwakeup
          · exact hwakeup
      have hempty := (h.done (h.closer_atRest hrest)).2.1
      have hnotQueued : call.phase ≠ .queued := by
        intro hphase
        have hget := hsound.links.waiting c call key hcall hkey hphase hunresolved
        rw [hempty] at hget
        cases hget
      have hended := call.ended_iff.mpr ⟨hnotQueued, hnotRunning⟩
      rcases hsound.links.ended c call hcall hsome hended with hfuture | htask
      · exact hfuture hunresolved
      · exact htask hwaits

/-! ## Closing an open session -/

/-- When an open session with no update under way is closed, in a run that leaves
its outstanding calls to `close`, each of them whose caller is not cancelled
waits, or has failed with the error of a closed connection; when no task can go
on it has failed, and the tasks can go on for so many steps only. -/
theorem close_fails_outstanding {s t : Session κ} (hreach : Machine.Reachable step Fresh s)
    (hopen : s.dispatcher.raiseIfUnavailable = .ok ()) (hunderWay : s.NoneUnderWay)
    {actions : List (SessionAction κ)}
    (hrun : Machine.RunWhere step (LeavesToClose s) s.closing actions t) {c : Nat}
    (hout : s.Outstanding c) :
    (∃ call, t.calls[c]? = some call ∧ (call.cancelRequested = false →
      (call.task = .waiting ∨ call.task.IsConnectionClosed) ∧
        (t.AtRest → call.task.IsConnectionClosed))) ∧
    ∀ more u, Machine.RunWhere step (fun _ action => action.ofTask = true) t more u →
      more.length ≤ t.rank := by
  have hclose : s.step .close = some s.closing := rfl
  have hpreserved : ∀ (u : Session κ) action (v : Session κ), (u.Sound ∧ u.Closing s.closers.length ∧ u.Fails c) →
      LeavesToClose s u action → u.step action = some v →
        v.Sound ∧ v.Closing s.closers.length ∧ v.Fails c := by
    rintro u action v ⟨hsound, hclosing, hfails⟩ hallowed hstep
    have hopened : action ≠ .opened := by
      rintro rfl
      exact hallowed
    exact ⟨hsound.step hstep, hclosing.step hsound hopened hstep,
      hfails.step hsound hclosing.closed hclosing.readerError hclosing.reading hout hallowed
        hstep⟩
  obtain ⟨hsound, hclosing, hfails⟩ := hrun.invariant hpreserved
    ⟨(sound_of_reachable hreach).step hclose, closing_starts hopen, hout.fails hunderWay⟩
  obtain ⟨call, hcall, hfailing⟩ := hfails
  refine ⟨⟨call, hcall, fun hcancelled => ?_⟩, fun more u => tasks_rest hsound⟩
  have htask : call.task = .waiting ∨ call.task.IsConnectionClosed := by
    cases hkey : call.key with
    | none => exact (hfailing.plain hcancelled hkey).1
    | some key => exact (hfailing.update hcancelled (by simp [hkey])).1
  exact ⟨htask, fun hrest => htask.resolve_left (hclosing.returned hsound hrest hcall)⟩

/-- An update that the writer loop has not taken yet when its session is closed. -/
def sampleOutstanding : List (SessionAction Nat) :=
  [.opened, .start (.coalescedUpdate (.update .reportingState (reportingStateFields true)) 0)]

/-- While `close` waits for the reader, the writer loop wakes up: it takes the update,
which fails, and returns. -/
def sampleClosing : List (SessionAction Nat) :=
  [.pop, .writerReturns, .closeStep 0, .closeStep 0, .onCall 0 .resumeCaller]

theorem close_fails_outstanding_sample :
    ∃ (s t : Session Nat) (call : Call Nat), Machine.Run step {} sampleOutstanding s ∧
      s.Outstanding 0 ∧ Machine.RunWhere step (LeavesToClose s) s.closing sampleClosing t ∧
      t.calls[0]? = some call ∧ call.cancelRequested = false ∧
      (call.task = .waiting ∨ call.task.IsConnectionClosed) ∧ call.task ≠ .waiting := by
  have hfresh : Fresh ({} : Session Nat) :=
    ⟨⟨rfl, fun _ => rfl, rfl, rfl, rfl⟩, rfl, rfl, rfl, rfl, rfl, rfl, rfl, rfl, rfl⟩
  have hrun : ∃ (s t : Session Nat) (call : Call Nat), Machine.Run step {} sampleOutstanding s ∧
      s.dispatcher.raiseIfUnavailable = .ok () ∧ s.NoneUnderWay ∧ s.Outstanding 0 ∧
      Machine.RunWhere step (LeavesToClose s) s.closing sampleClosing t ∧
      t.calls[0]? = some call ∧ call.cancelRequested = false ∧ call.task ≠ .waiting := by
    refine ⟨_, _, _, Machine.run_iff_exec.mpr rfl, rfl, ?_, ⟨_, rfl, rfl, rfl, rfl⟩,
      .cons ?_ rfl (.cons trivial rfl (.cons ?_ rfl (.cons ?_ rfl (.cons trivial rfl (.nil _))))),
      rfl, rfl, nofun⟩
    · rintro (_ | c) call hcall _ _ hrunning
      · cases hcall
        exact nomatch hrunning
      · exact nomatch hcall
    · rintro key c rest call hpop hcall - - -
      cases hpop
      cases hcall
      exact ⟨_, _, rfl, rfl⟩
    · exact fun _ _ _ hholding => nomatch hholding
    · exact fun _ _ _ hholding => nomatch hholding
  obtain ⟨s, t, call, hrun, hopen, hunderWay, hout, hclose, hcall, hcancelled, hdone⟩ := hrun
  obtain ⟨⟨call', hcall', hfails⟩, -⟩ :=
    close_fails_outstanding ⟨_, _, hfresh, hrun⟩ hopen hunderWay hclose hout
  cases hcall.symm.trans hcall'
  exact ⟨s, t, call, hrun, hout, hclose, hcall, hcancelled, (hfails hcancelled).1, hdone⟩

/-- An update in the middle of its write when its session is closed. -/
def sampleWrittenUpdate : List (SessionAction Nat) :=
  [.opened,
    .start (.coalescedUpdate (.update .reportingState (reportingStateFields true)) 0),
    .pop]

/-- The update that the writer loop writes is cancelled, though its caller is
not. -/
theorem close_cancels_update :
    ∃ (s t : Session Nat) (call : Call Nat), Machine.Reachable step Fresh s ∧
      s.dispatcher.raiseIfUnavailable = .ok () ∧ s.Outstanding 0 ∧
      Machine.RunWhere step (fun _ action => action.ofTask = true) s.closing
        [.closeStep 0, .onCall 0 .resume, .closeStep 0, .onCall 0 .resumeCaller] t ∧
      t.calls[0]? = some call ∧ call.cancelRequested = false ∧ call.task = .cancelled := by
  have hfresh : Fresh ({} : Session Nat) :=
    ⟨⟨rfl, fun _ => rfl, rfl, rfl, rfl⟩, rfl, rfl, rfl, rfl, rfl, rfl, rfl, rfl, rfl⟩
  refine ⟨_, _, _, ⟨{}, sampleWrittenUpdate, hfresh, Machine.run_iff_exec.mpr rfl⟩, rfl,
    ⟨_, rfl, rfl, rfl, rfl⟩, .of_mem (Machine.run_iff_exec.mpr rfl) ?_, rfl, rfl, rfl⟩
  intro action hmem _
  simp only [List.mem_cons, List.not_mem_nil, or_false] at hmem
  rcases hmem with rfl | rfl | rfl | rfl <;> rfl

end

end Session

end Tekmar482
