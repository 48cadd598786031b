import Tekmar482.ClosingSteps
import Tekmar482.SessionRank

/-!
# The calls that `close` fails

What waits for its response fails in the last section of `close`, and what waits
for the lock or in the queue fails there or with the checks of the closed
session. An update that the writer loop holds when `close` cancels it is
cancelled with it: so the steps are told apart by whether the writer loop holds
an unresolved update then.
-/

namespace Tekmar482

namespace Session

variable {κ : Type}

/-- A call with a response, or a coalesced call, that has no result yet and whose
caller was not cancelled. -/
def Outstanding (s : Session κ) (c : Nat) : Prop :=
  ∃ call, s.calls[c]? = some call ∧ call.task = .waiting ∧ call.cancelRequested = false ∧
    match call.key with
    | none => call.response ≠ none ∧ call.interrupted = false ∧ call.timedOut = false ∧
        (s.dispatcher.futures c = none ∨ s.dispatcher.futures c = some .waiting)
    | some _ => call.future = .waiting

/-- No unresolved update is past its wait for the lock. -/
def NoneUnderWay (s : Session κ) : Prop :=
  ∀ (c : Nat) (call : Call κ), s.calls[c]? = some call → call.key ≠ none → call.future = .waiting →
    call.phase.running = true → call.phase = .acquiring ∧ call.interrupted = false

/-- The steps after `close` that leave its outstanding calls to it. -/
def LeavesToClose (start : Session κ) (s : Session κ) : SessionAction κ → Prop
  | .opened => False
  | .onCall _ (.writeFails err) => err.IsConnectionClosed
  | .onCall c .timeout => start.Outstanding c → ∀ call, s.calls[c]? = some call →
      call.cancelRequested = true
  | .onCall c .acquire => ∀ call, s.calls[c]? = some call → call.future = .waiting → call.Writable
  | .pop => ∀ key c rest call, s.coalescedUpdates.popFirst = some ((key, c), rest) →
      s.calls[c]? = some call → call.future = .waiting → call.Writable
  | .closeStep k => s.closers[k]? = some .awaitingReader → ∀ c call, s.writer = .holding c →
      s.calls[c]? = some call → call.future ≠ .waiting
  | _ => True

end Session

namespace Call

variable {κ : Type}

/-- A call that `close` fails, by the state of its response future. -/
def Failing (self : Call κ) (reply : Option (FutureState Arrival)) : Prop :=
  self.cancelRequested = true ∨
    (self.task = .waiting ∨ self.task.IsConnectionClosed) ∧
    match self.key with
    | none => self.response ≠ none ∧ self.interrupted = false ∧ self.timedOut = false ∧
        ∀ state, reply = some state → state = .waiting ∨ state.IsConnectionClosed
    | some _ => self.future = .waiting ∧
          (self.phase.running = true → self.phase = .acquiring ∧ self.interrupted = false) ∨
        self.future.IsConnectionClosed

/-- The future of a failing coalesced call. -/
theorem Failing.update {self : Call κ} {reply : Option (FutureState Arrival)}
    (h : self.Failing reply) (hcancelled : self.cancelRequested = false) (hkey : self.key ≠ none) :
    (self.task = .waiting ∨ self.task.IsConnectionClosed) ∧
      (self.future = .waiting ∧
          (self.phase.running = true → self.phase = .acquiring ∧ self.interrupted = false) ∨
        self.future.IsConnectionClosed) := by
  obtain ⟨key, hkey⟩ := Option.ne_none_iff_exists'.mp hkey
  rw [Failing, hkey, hcancelled] at h
  exact h.resolve_left nofun

/-- The response future of a failing plain call. -/
theorem Failing.plain {self : Call κ} {reply : Option (FutureState Arrival)}
    (h : self.Failing reply) (hcancelled : self.cancelRequested = false) (hkey : self.key = none) :
    (self.task = .waiting ∨ self.task.IsConnectionClosed) ∧ self.response ≠ none ∧
      self.interrupted = false ∧ self.timedOut = false ∧
      ∀ state, reply = some state → state = .waiting ∨ state.IsConnectionClosed := by
  rw [Failing, hkey, hcancelled] at h
  exact h.resolve_left nofun

/-- A call goes on failing when its response future fails with the connection.
The response future of an update does not matter. -/
theorem Failing.reply {self : Call κ} {reply reply' : Option (FutureState Arrival)}
    (h : self.Failing reply) (hreply : self.key = none → ∀ state, reply' = some state →
      reply = some state ∨ state = .waiting ∨ state.IsConnectionClosed) : self.Failing reply' := by
  refine h.imp id fun hrest => ⟨hrest.1, ?_⟩
  cases hkey : self.key with
  | some key => simpa only [hkey] using hrest.2
  | none =>
      obtain ⟨hresponse, hinterrupted, htimedOut, hold⟩ := hkey ▸ hrest.2
      refine ⟨hresponse, hinterrupted, htimedOut, fun state heq => ?_⟩
      exact (hreply hkey state heq).elim (hold state) id

/-- A call goes on failing while its results stay and it does not get past its
wait for the lock. -/
theorem Failing.of_same {before after : Call κ} {reply : Option (FutureState Arrival)}
    (h : before.Failing reply) (hkey : after.key = before.key)
    (hresponse : after.response = before.response) (htask : after.task = before.task)
    (hfuture : after.future = before.future)
    (hcancelled : before.cancelRequested = true → after.cancelRequested = true)
    (hplain : before.key = none → after.interrupted = before.interrupted ∧
      after.timedOut = before.timedOut)
    (hupdate : before.key ≠ none → before.future = .waiting → after.phase.running = true →
      after.phase = .acquiring ∧ after.interrupted = false) : after.Failing reply := by
  rcases h with hyes | ⟨hold, hrest⟩
  · exact .inl (hcancelled hyes)
  · right
    rw [htask]
    refine ⟨hold, ?_⟩
    cases hcase : before.key with
    | none =>
        rw [hcase] at hrest hkey
        obtain ⟨hinterrupted, htimedOut⟩ := hplain hcase
        simp only [hkey, hresponse, hinterrupted, htimedOut]
        exact hrest
    | some key =>
        rw [hcase] at hrest hkey
        simp only [hkey, hfuture]
        exact hrest.imp_left fun hboth => ⟨hboth.1, hupdate (by simp [hcase]) hboth.1⟩

/-- A failing call goes on failing when its future is failed. -/
theorem Failing.settle {self : Call κ} {reply : Option (FutureState Arrival)}
    (h : self.Failing reply) {state : FutureState CallResult} (hstate : state.IsConnectionClosed) :
    (self.settle state).Failing reply := by
  unfold Call.settle
  split
  · refine h.imp id fun hrest => ⟨hrest.1, ?_⟩
    cases hkey : self.key with
    | none => simpa only [hkey] using hrest.2
    | some key => exact .inr hstate
  · exact h

/-- A plain call that resumes has the error, and an update that waits does not
resume. -/
theorem Failing.resumption {self : Call κ} {reply : Option (FutureState Arrival)}
    (h : self.Failing reply) (hcancelled : self.cancelRequested = false)
    {result : FutureState CallResult} (hresult : self.resumption reply = some result)
    (hunresolved : self.key = none ∨ self.future = .waiting) : result.IsConnectionClosed := by
  cases hkey : self.key with
  | none =>
      obtain ⟨-, -, hinterrupted, htimedOut, hreply⟩ := h.plain hcancelled hkey
      unfold Call.resumption at hresult
      rw [if_neg (Bool.eq_false_iff.mp hinterrupted), if_neg (Bool.eq_false_iff.mp htimedOut)]
        at hresult
      split at hresult
      · exact nomatch hresult
      · split at hresult
        · exact (hreply _ rfl).elim nofun fun hclosed => nomatch hclosed.choose_spec.2
        · obtain ⟨err, hclosed, heq⟩ := (hreply _ rfl).resolve_left nofun
          cases heq
          cases hresult
          exact self.raised_connectionClosed hclosed
        · exact (hreply _ rfl).elim nofun fun hclosed => nomatch hclosed.choose_spec.2
        · exact nomatch hresult
  | some key =>
      have hwaits := hunresolved.resolve_left (by simp [hkey])
      obtain ⟨-, hfuture⟩ := h.update hcancelled (by simp [hkey])
      rcases hfuture with ⟨-, hrunning⟩ | hclosed
      · obtain ⟨hphase, hinterrupted⟩ := hrunning (self.resumption_running hresult).1
        have hawaiting := Call.resumption_awaiting hresult hinterrupted
        exact nomatch hphase.symm.trans hawaiting
      · exact absurd hwaits hclosed.ne_waiting

/-- A transaction that ends with the connection error fails its call. -/
theorem Failing.finish {self : Call κ} {reply : Option (FutureState Arrival)}
    (h : self.Failing reply) {result : FutureState CallResult}
    (hresult : self.key = none ∨ self.future = .waiting → result.IsConnectionClosed) :
    (self.finish result).Failing reply := by
  unfold Call.finish
  split
  · rename_i hkey
    refine h.imp id fun hrest => ⟨.inr (hresult (.inl hkey)), ?_⟩
    simpa only [hkey] using hrest.2
  · rename_i key hkey
    have hsettled : (self.settle result).Failing reply := by
      unfold Call.settle
      split
      · rename_i hwaits
        have hfailed := h.settle (hresult (.inr hwaits))
        rwa [Call.settle, if_pos hwaits] at hfailed
      · exact h
    exact hsettled.of_same rfl rfl rfl rfl id (fun _ => ⟨rfl, rfl⟩) fun _ _ hrunning => by
      cases hrunning

end Call

namespace Session

variable {κ : Type}

/-! ## Steps that do not concern a call -/

/-- A step that leaves a call and its response future as they are. -/
structure Spares (c : Nat) (s t : Session κ) : Prop where
  call : ∀ call : Call κ, s.calls[c]? = some call → t.calls[c]? = some call
  future : t.dispatcher.futures c = s.dispatcher.futures c

theorem Spares.trans {c : Nat} {s t u : Session κ} (h : Spares c s t) (h' : Spares c t u) :
    Spares c s u where
  call := fun call hcall => h'.call call (h.call call hcall)
  future := h'.future.trans h.future

theorem Spares.of_same {c : Nat} {s t : Session κ} (hcalls : t.calls = s.calls)
    (hfutures : t.dispatcher.futures = s.dispatcher.futures) : Spares c s t where
  call := fun _ hcall => hcalls ▸ hcall
  future := by rw [hfutures]

theorem spares_modifyCall {c d : Nat} (hne : c ≠ d) (s : Session κ) (f : Call κ → Call κ) :
    Spares c s (s.modifyCall d f) where
  call := fun _ hcall => (calls_modifyCall_of_ne f hne).trans hcall
  future := rfl

theorem spares_append (c : Nat) (s : Session κ) (call : Call κ) :
    Spares c s { s with calls := s.calls ++ [call] } where
  call := fun other hother => by
    rw [List.getElem?_append_left (List.getElem?_eq_some_iff.mp hother).1, hother]
  future := rfl

theorem spares_cancel {c d : Nat} (hne : c ≠ d) (s : Session κ) :
    Spares c s { s with dispatcher := s.dispatcher.settle d .cancelled } where
  call := fun _ => id
  future := by
    simp only [Dispatcher.settle_futures]
    split
    · exact Function.update_of_ne hne _ _
    · rfl

theorem spares_endTransaction {c d : Nat} (hne : c ≠ d) (s : Session κ)
    (result : FutureState CallResult) : Spares c s (s.endTransaction d result) :=
  (spares_modifyCall hne s fun call => call.finish result).trans (.of_same rfl rfl)

theorem spares_beginTransaction {c d : Nat} (hne : c ≠ d) (s : Session κ) (call : Call κ) :
    Spares c s (s.beginTransaction d call) := by
  have hacquired : Spares c s (s.acquired d call) := by
    unfold acquired
    split
    · exact .of_same rfl rfl
    · exact ⟨fun _ => id, Function.update_of_ne hne _ _⟩
  unfold beginTransaction
  split
  · exact hacquired.trans (spares_endTransaction hne _ _)
  · rename_i message _
    exact hacquired.trans ((spares_modifyCall hne _ fun call =>
      { call with phase := .writing message }).trans (.of_same rfl rfl))

theorem spares_interrupt {c d : Nat} (hne : c ≠ d) (s : Session κ) (call : Call κ) :
    Spares c s (s.interrupt d call) := by
  have hcalls := spares_modifyCall hne s fun call => { call with interrupted := true }
  unfold interrupt
  split
  · exact hcalls.trans (spares_cancel hne _)
  · exact hcalls

theorem spares_hold {c d : Nat} (hne : c ≠ d) (s : Session κ) (key : κ)
    (rest : OrderedDict κ Nat) : Spares c s ((s.popped key d rest).hold d) := by
  have hpopped : Spares c s (s.popped key d rest) := .of_same rfl rfl
  exact hpopped.trans ((spares_modifyCall hne _ fun call =>
    { call with phase := .acquiring }).trans (.of_same rfl rfl))

theorem spares_popUpdate {c : Nat} {s t : Session κ} (hpopped : Popped s t)
    (hne : ∀ key d rest, s.coalescedUpdates.popFirst = some ((key, d), rest) → c ≠ d) :
    Spares c s t := by
  cases hpopped with
  | skipped => exact .of_same rfl rfl
  | @held key d rest _ _ hpop => exact spares_hold (hne key d rest hpop) s key rest
  | @began key d rest _ _ hpop =>
      have hother := hne key d rest hpop
      exact (spares_hold hother s key rest).trans (spares_beginTransaction hother _ _)

theorem spares_cancelCall {c d : Nat} (hne : c ≠ d) (s : Session κ) (call : Call κ) :
    Spares c s (s.cancelCall d call) := by
  unfold cancelCall
  split
  · exact (spares_interrupt hne s call).trans (spares_modifyCall hne _ _)
  · exact spares_modifyCall hne s _

section

variable [DecidableEq κ]

theorem spares_callStep {c d : Nat} (hne : c ≠ d) {s t : Session κ} {call : Call κ}
    {action : CallAction} (hstepped : CallStepped s d call action t) : Spares c s t := by
  cases hstepped with
  | acquire => exact spares_beginTransaction hne s call
  | written | writeFails | resume => exact spares_endTransaction hne s _
  | awaits => exact spares_modifyCall hne s _
  | timeout =>
      exact (spares_modifyCall hne s fun call => { call with timedOut := true }).trans
        (spares_cancel hne _)
  | cancel => exact spares_cancelCall hne s call
  | @resumeCaller key =>
      have hremoved : Spares c s (if call.wakeup = .cancelled then s.removeCoalescedUpdate key d
          else s) := by
        split
        · unfold removeCoalescedUpdate
          split <;> exact .of_same rfl rfl
        · exact .of_same rfl rfl
      exact hremoved.trans (spares_modifyCall hne _ _)

theorem spares_startCall {c : Nat} {s : Session κ} (hclosed : s.dispatcher.closed = true)
    (hlt : c < s.calls.length) (request : SessionRequest κ) :
    Spares c s (s.startCall request) := by
  have hcreated := spares_append c s (Call.create request)
  simp only [startCall]
  split
  · split
    · exact hcreated
    · exact hcreated.trans (spares_beginTransaction hlt.ne _ _)
  · split
    · exact spares_append c s _
    · rename_i havailable
      simp [Dispatcher.raiseIfUnavailable, hclosed] at havailable
      split at havailable <;> cases havailable

end

/-! ## What the steps do to a failing call -/

/-- A call of a session that `close` fails. -/
def Fails (s : Session κ) (c : Nat) : Prop :=
  ∃ call, s.calls[c]? = some call ∧ call.Failing (s.dispatcher.futures c)

theorem Fails.spares {c : Nat} {s t : Session κ} (h : s.Fails c) (hspares : Spares c s t) :
    t.Fails c := by
  obtain ⟨call, hcall, hfailing⟩ := h
  exact ⟨call, hspares.call call hcall, hspares.future ▸ hfailing⟩

theorem fails_endTransaction {s : Session κ} {c : Nat} {call : Call κ}
    (hcall : s.calls[c]? = some call) (hfailing : call.Failing (s.dispatcher.futures c))
    {result : FutureState CallResult}
    (hresult : call.key = none ∨ call.future = .waiting → result.IsConnectionClosed) :
    (s.endTransaction c result).Fails c :=
  ⟨_, calls_modifyCall_self _ hcall, hfailing.finish hresult⟩

/-- A transaction that takes the lock of a closed session fails its call. -/
theorem fails_beginTransaction {s : Session κ} (hclosed : s.dispatcher.closed = true)
    (hreaderError : s.dispatcher.readerError = none) {c : Nat} {call : Call κ}
    (hcall : s.calls[c]? = some call) (hfailing : call.Failing (s.dispatcher.futures c))
    (hwritable : call.future = .waiting → call.Writable) : (s.beginTransaction c call).Fails c := by
  obtain ⟨err, heq, hconnection⟩ := beginTransaction_closed hclosed c call
  rw [heq]
  rw [← s.acquired_calls c call] at hcall
  have hregistered : call.Failing ((s.acquired c call).dispatcher.futures c) := by
    apply hfailing.reply
    intro _ state hstate
    unfold acquired at hstate
    split at hstate
    · exact .inl hstate
    · simp only [registerPending, Dispatcher.register, Function.update_self] at hstate
      exact .inr (.inl (Option.some.inj hstate).symm)
  apply fails_endTransaction hcall hregistered
  rintro (hkey | hwaits)
  · exact call.raised_connectionClosed (hconnection hreaderError fun hsome => absurd hkey hsome)
  · exact call.raised_connectionClosed (hconnection hreaderError (hwritable hwaits))

theorem fails_interrupt {s : Session κ} {c : Nat} {call : Call κ}
    (hcall : s.calls[c]? = some call) (hkey : call.key ≠ none)
    (hfailing : call.Failing (s.dispatcher.futures c)) (hdone : call.future ≠ .waiting) :
    (s.interrupt c call).Fails c := by
  have hmodified := calls_modifyCall_self (fun call => { call with interrupted := true }) hcall
  have hreply : call.Failing ((s.interrupt c call).dispatcher.futures c) :=
    hfailing.reply fun hnone => absurd hnone hkey
  refine ⟨_, hmodified, hreply.of_same rfl rfl rfl rfl id ?_ ?_⟩
  · exact fun hnone => absurd hnone hkey
  · exact fun _ hwaits => absurd hwaits hdone

/-- The last section of `close` fails whatever still waits. -/
theorem fails_failOutstanding {s : Session κ} {c : Nat} (h : s.Fails c) :
    s.failOutstanding.Fails c := by
  obtain ⟨call, hcall, hfailing⟩ := h
  have herr : (FutureState.exception (α := CallResult)
      (.connectionClosedError "tekmar 482 session closed")).IsConnectionClosed :=
    ⟨_, ⟨_, rfl⟩, rfl⟩
  have hsettled : (if c ∈ s.coalescedUpdates.values then
      call.settle (.exception (.connectionClosedError "tekmar 482 session closed"))
      else call).Failing (s.failOutstanding.dispatcher.futures c) := by
    have hreply : call.Failing (s.failOutstanding.dispatcher.futures c) := by
      apply hfailing.reply
      intro _ state hstate
      simp only [failOutstanding, Dispatcher.endReports, Dispatcher.publishReport,
        Dispatcher.failPending] at hstate
      split at hstate
      · cases hstate
        exact .inr (.inr ⟨_, ⟨_, rfl⟩, rfl⟩)
      · exact .inl hstate
    split
    · exact hreply.settle herr
    · exact hreply
  refine ⟨_, ?_, hsettled⟩
  simp only [failOutstanding, failCoalescedUpdates]
  rw [List.getElem?_mapIdx, hcall]
  rfl

theorem fails_cancelCall {s : Session κ} {c : Nat} {call : Call κ}
    (hcall : s.calls[c]? = some call) : (s.cancelCall c call).Fails c := by
  unfold cancelCall
  split
  · have hinterrupted := calls_modifyCall_self (fun call => { call with interrupted := true }) hcall
    exact ⟨_, calls_modifyCall_self (s := s.interrupt c call) _ hinterrupted, .inl rfl⟩
  · exact ⟨_, calls_modifyCall_self _ hcall, .inl rfl⟩

/-- An update that is being written is resolved. -/
theorem failing_written {call : Call κ} {reply : Option (FutureState Arrival)}
    (h : call.Failing reply) (hcancelled : call.cancelRequested = false) {message : TrpcPacket}
    (hphase : call.phase = .writing message) (hkey : call.key ≠ none) :
    call.future.IsConnectionClosed := by
  refine (h.update hcancelled hkey).2.resolve_left fun hboth => ?_
  have hacquiring := (hboth.2 (by rw [hphase]; rfl)).1
  exact nomatch hphase.symm.trans hacquiring

section

variable [DecidableEq κ]

theorem fails_callStep {start s t : Session κ} (hclosed : s.dispatcher.closed = true)
    (hreaderError : s.dispatcher.readerError = none) {c : Nat} {call : Call κ}
    (hout : start.Outstanding c) (hcall : s.calls[c]? = some call)
    (hfailing : call.Failing (s.dispatcher.futures c)) (hcancelled : call.cancelRequested = false)
    {action : CallAction} (hallowed : LeavesToClose start s (.onCall c action))
    (hstepped : CallStepped s c call action t) : t.Fails c := by
  cases hstepped with
  | acquire =>
      exact fails_beginTransaction hclosed hreaderError hcall hfailing (hallowed call hcall)
  | written hphase _ hresponse =>
      apply fails_endTransaction hcall hfailing
      intro hunresolved
      cases hkey : call.key with
      | none => exact absurd hresponse (hfailing.plain hcancelled hkey).2.1
      | some key =>
          have hsome : call.key ≠ none := by simp [hkey]
          have hdone := failing_written hfailing hcancelled hphase hsome
          exact absurd (hunresolved.resolve_left hsome) hdone.ne_waiting
  | awaits hphase =>
      have hmodified := calls_modifyCall_self (fun call => { call with phase := .awaiting }) hcall
      refine ⟨_, hmodified, hfailing.of_same rfl rfl rfl rfl id (fun _ => ⟨rfl, rfl⟩) ?_⟩
      exact fun hsome hwaits =>
        absurd hwaits (failing_written hfailing hcancelled hphase hsome).ne_waiting
  | writeFails =>
      exact fails_endTransaction hcall hfailing fun _ => call.raised_connectionClosed hallowed
  | timeout => exact nomatch hcancelled.symm.trans (hallowed hout call hcall)
  | cancel => exact fails_cancelCall hcall
  | resume hresult =>
      exact fails_endTransaction hcall hfailing (hfailing.resumption hcancelled hresult)
  | @resumeCaller key hkey _ hwakes =>
      have hwakeup : call.wakeup = call.future := by simp [Call.wakeup, hcancelled]
      obtain ⟨-, hfuture⟩ := hfailing.update hcancelled (by simp [hkey])
      have hdone := hfuture.resolve_left fun hboth => hwakes (hwakeup.trans hboth.1)
      have hcall' : (if call.wakeup = .cancelled then s.removeCoalescedUpdate key c
          else s).calls[c]? = some call := by
        rw [calls_removed]
        exact hcall
      refine ⟨_, calls_modifyCall_self _ hcall', .inr ⟨.inr (hwakeup ▸ hdone), ?_⟩⟩
      simp only [hkey]
      exact .inr hdone

theorem fails_popUpdate {s t : Session κ} (hlinks : s.UpdateLinks)
    (hclosed : s.dispatcher.closed = true) (hreaderError : s.dispatcher.readerError = none) {c : Nat}
    (h : s.Fails c)
    (hallowed : ∀ key d rest call, s.coalescedUpdates.popFirst = some ((key, d), rest) →
      s.calls[d]? = some call → call.future = .waiting → call.Writable)
    (hpopped : Popped s t) : t.Fails c := by
  by_cases hfirst : ∃ key rest, s.coalescedUpdates.popFirst = some ((key, c), rest)
  · obtain ⟨key, rest, hpop⟩ := hfirst
    obtain ⟨call, hcall, hfailing⟩ := h
    obtain ⟨hkey, hphase⟩ := hlinks.popped hpop hcall
    have hsome : call.key ≠ none := by simp [hkey]
    have hinterrupted := hlinks.notInterrupted c call hcall hsome hphase
    -- the popped update waits for the lock
    have hacquiring := calls_modifyCall_self (s := s.popped key c rest) (fun call =>
      { call with phase := .acquiring }) hcall
    have hheld : { call with phase := .acquiring }.Failing (s.dispatcher.futures c) :=
      hfailing.of_same rfl rfl rfl rfl id (fun _ => ⟨rfl, rfl⟩) fun _ _ _ => ⟨rfl, hinterrupted⟩
    cases hpopped with
    | skipped => exact ⟨call, hcall, hfailing⟩
    | held _ hpop' =>
        cases hpop.symm.trans hpop'
        exact ⟨_, hacquiring, hheld⟩
    | began _ hpop' hcall' =>
        cases hpop.symm.trans hpop'
        cases hcall.symm.trans hcall'
        have hwritable := hallowed key c rest call hpop hcall
        apply fails_beginTransaction (s := (s.popped key c rest).hold c) hclosed hreaderError
        · exact hacquiring
        · exact hheld
        · exact hwritable
  · apply h.spares
    apply spares_popUpdate hpopped
    rintro key d rest hpop rfl
    exact hfirst ⟨key, rest, hpop⟩

theorem fails_cancelWriter {s : Session κ} (hlinks : s.UpdateLinks) {c : Nat} (h : s.Fails c)
    (hallowed : ∀ d call, s.writer = .holding d → s.calls[d]? = some call →
      call.future ≠ .waiting) : s.cancelWriter.Fails c := by
  have hstopped : ∀ u : Session κ, u.Fails c → { u with writer := .stopped }.Fails c :=
    fun u hu => hu
  unfold cancelWriter
  split
  · rename_i d hholding
    obtain ⟨call, hcall, hkey, -⟩ := hlinks.holding d hholding
    simp only [hcall]
    apply hstopped
    rcases eq_or_ne c d with rfl | hne
    · obtain ⟨call', hcall', hfailing⟩ := h
      cases hcall.symm.trans hcall'
      exact fails_interrupt hcall hkey hfailing (hallowed c call hholding hcall)
    · exact h.spares (spares_interrupt hne s call)
  · exact hstopped s h

/-- A call that `close` fails goes on failing. -/
theorem Fails.step {start s t : Session κ} {c : Nat} (h : s.Fails c) (hsound : s.Sound)
    (hclosed : s.dispatcher.closed = true) (hreaderError : s.dispatcher.readerError = none)
    (hreading : s.reading = false) (hout : start.Outstanding c) {action : SessionAction κ}
    (hallowed : LeavesToClose start s action) (hstep : s.step action = some t) : t.Fails c := by
  obtain ⟨call, hcall, hfailing⟩ := h
  have hfails : s.Fails c := ⟨call, hcall, hfailing⟩
  cases Stepped.of_step hstep with
  | start request =>
      exact hfails.spares (spares_startCall hclosed (List.getElem?_eq_some_iff.mp hcall).1 request)
  | @onCall d other action _ hother hstepped =>
      rcases eq_or_ne c d with rfl | hne
      · cases hcall.symm.trans hother
        cases hcancelled : call.cancelRequested with
        | true =>
            obtain ⟨call', hcall', hwinds⟩ :=
              (winds_callStep hclosed hcall hstepped).kept c call hcall
            exact ⟨call', hcall', .inl (hwinds.cancelRequested hcancelled)⟩
        | false =>
            exact fails_callStep hclosed hreaderError hout hcall hfailing hcancelled hallowed
              hstepped
      · exact hfails.spares (spares_callStep hne hstepped)
  | pop hpopped => exact fails_popUpdate hsound.links hclosed hreaderError hfails hallowed hpopped
  | writerReturns | close => exact hfails
  | packet hreads | readerFails hreads => exact nomatch hreading.symm.trans hreads
  | backlog hreader hread =>
      exact hfails.spares (.of_same rfl (Dispatcher.reads_of_reader hreader hread).futures)
  | opened => exact hallowed.elim
  | cancelWriter hcloser =>
      exact (fails_cancelWriter hsound.links hfails (hallowed hcloser) : s.cancelWriter.Fails c)
  | failOutstanding => exact (fails_failOutstanding hfails : s.failOutstanding.Fails c)

end

end Session

end Tekmar482
