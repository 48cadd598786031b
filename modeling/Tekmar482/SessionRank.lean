import Tekmar482.SessionProgress

/-!
# The session comes to rest

Every step of the tasks of a session brings it nearer to rest: a call moves on
in its transaction or returns to its caller, an update leaves the queue, and the
writer loop and a running `close` go on.
-/

namespace Tekmar482

/-- How far a transaction is from its end. -/
def Phase.rank : Phase → Nat
  | .queued => 4
  | .acquiring => 3
  | .writing _ => 2
  | .awaiting => 1
  | .ended => 0

theorem Phase.rank_pos {phase : Phase} (h : phase.running = true) : 0 < phase.rank := by
  cases phase <;> simp_all [Phase.rank, Phase.running]

@[simp] theorem Phase.rank_ended : Phase.rank .ended = 0 := rfl

/-- How far a call is from its return. -/
def Call.rank {κ : Type} (self : Call κ) : Nat :=
  self.phase.rank + if self.task = .waiting then 1 else 0

def Writer.rank : Writer → Nat
  | .stopped => 0
  | .idle | .holding _ => 1

def Closer.rank : Closer → Nat
  | .awaitingReader => 2
  | .awaitingWriter _ => 1
  | .closingTransport => 0

/-- The steps that the tasks of a session take on their own. -/
def CallAction.ofTask : CallAction → Bool
  | .acquire | .written | .writeFails _ | .resume | .resumeCaller => true
  | .timeout | .cancel => false

/-- The steps that the tasks of a session take on their own. -/
def SessionAction.ofTask {κ : Type} : SessionAction κ → Bool
  | .onCall _ action => action.ofTask
  | .pop | .writerReturns | .closeStep _ => true
  | _ => false

namespace Call

variable {κ : Type}

theorem rank_settle (self : Call κ) (state : FutureState CallResult) :
    (self.settle state).rank = self.rank := by
  unfold settle
  split <;> rfl

/-- The end of a transaction brings its call nearer to its return. -/
theorem rank_finish {self : Call κ} (hrunning : self.phase.running = true)
    {result : FutureState CallResult} (hdone : result ≠ .waiting) :
    (self.finish result).rank < self.rank := by
  have hpos := Phase.rank_pos hrunning
  unfold finish
  split
  · simp only [rank, Phase.rank_ended, if_neg hdone]
    omega
  · have htask : (self.settle result).task = self.task := by
      unfold settle
      split <;> rfl
    simp only [rank, Phase.rank_ended, htask]
    omega

end Call

namespace Session

variable {κ : Type}

/-- How far a session is from rest. -/
def rank (self : Session κ) : Nat :=
  (self.calls.map Call.rank).sum + self.coalescedUpdates.entries.length + self.writer.rank +
    (self.closers.map Closer.rank).sum

/-- A changed entry changes the sum by its difference. -/
theorem sum_map_modify {α : Type} (rank : α → Nat) {entries : List α} {c : Nat} {entry : α}
    (hentry : entries[c]? = some entry) (f : α → α) :
    ((entries.modify c f).map rank).sum + rank entry = (entries.map rank).sum + rank (f entry) := by
  induction entries generalizing c with
  | nil => exact nomatch hentry
  | cons first rest ih =>
      cases c with
      | zero =>
          cases hentry
          simp only [List.modify_zero_cons, List.map_cons, List.sum_cons]
          omega
      | succ c =>
          have hrest := ih hentry
          simp only [List.modify_succ_cons, List.map_cons, List.sum_cons]
          omega

theorem rank_modifyCall {s : Session κ} {c : Nat} {call : Call κ} (hcall : s.calls[c]? = some call)
    (f : Call κ → Call κ) : (s.modifyCall c f).rank + call.rank = s.rank + (f call).rank := by
  have hsum := sum_map_modify Call.rank hcall f
  simp only [rank, modifyCall]
  omega

theorem rank_endTransaction {s : Session κ} {c : Nat} {call : Call κ}
    (hcall : s.calls[c]? = some call) (hrunning : call.phase.running = true)
    {result : FutureState CallResult} (hdone : result ≠ .waiting) :
    (s.endTransaction c result).rank < s.rank := by
  have hsum := rank_modifyCall hcall fun call => call.finish result
  have hcallRank := Call.rank_finish hrunning hdone
  have hwriter : (s.endTransaction c result).writer.rank ≤ s.writer.rank := by
    simp only [endTransaction]
    split
    · rename_i hholding
      rw [hholding]
      exact Nat.le_refl _
    · exact Nat.le_refl _
  simp only [rank, endTransaction, modifyCall] at hsum hwriter ⊢
  omega

theorem rank_acquired (s : Session κ) (c : Nat) (call : Call κ) :
    (s.acquired c call).rank = s.rank := by
  unfold acquired
  split <;> rfl

theorem rank_beginTransaction {s : Session κ} {c : Nat} {call : Call κ}
    (hcall : s.calls[c]? = some call) (hphase : call.phase = .acquiring) :
    (s.beginTransaction c call).rank < s.rank := by
  have hacquired := s.rank_acquired c call
  have hcall' := (s.acquired_calls c call).symm ▸ hcall
  unfold beginTransaction
  split
  · rw [← hacquired]
    exact rank_endTransaction hcall' (by rw [hphase]; rfl) (call.raised_ne_waiting _)
  · rename_i message _
    have hsum := rank_modifyCall hcall' fun call => { call with phase := .writing message }
    simp only [Call.rank, hphase, Phase.rank] at hsum
    simp only [rank, wrote, modifyCall] at hsum hacquired ⊢
    omega

theorem rank_failCoalescedUpdates (s : Session κ) (err : PyException) :
    (s.failCoalescedUpdates err).rank ≤ s.rank := by
  have hcalls : (s.failCoalescedUpdates err).calls.map Call.rank = s.calls.map Call.rank := by
    apply List.ext_getElem?
    intro c
    rw [List.getElem?_map, List.getElem?_map, failCoalescedUpdates, List.getElem?_mapIdx,
      Option.map_map]
    congr 1
    funext call
    simp only [Function.comp_apply]
    split
    · exact call.rank_settle _
    · rfl
  simp only [rank, hcalls]
  simp only [failCoalescedUpdates, OrderedDict.entries_empty, List.length_nil]
  omega

theorem rank_cancelWriter (s : Session κ) : s.cancelWriter.rank ≤ s.rank := by
  have hstopped : ∀ u : Session κ, u.rank ≤ s.rank → { u with writer := .stopped }.rank ≤ s.rank := by
    intro u hle
    simp only [rank, Writer.rank] at hle ⊢
    omega
  unfold cancelWriter
  split
  · rename_i c _
    split
    · exact hstopped s (Nat.le_refl _)
    · rename_i call hcall
      apply hstopped
      have hsum := rank_modifyCall hcall fun call => { call with interrupted := true }
      simp only [rank, interrupt, modifyCall, Call.rank] at hsum ⊢
      omega
  · exact hstopped s (Nat.le_refl _)

/-- A `close` that goes on lowers the sum of the closers. -/
theorem rank_closers {s : Session κ} {k : Nat} {before : Closer} (hcloser : s.closers[k]? = some before)
    (after : Closer) : ((s.closers.set k after).map Closer.rank).sum + before.rank =
      (s.closers.map Closer.rank).sum + after.rank := by
  rw [List.set_eq_modify, sum_map_modify Closer.rank hcloser fun _ => after]

theorem rank_closeCancels {s : Session κ} {k : Nat} (hcloser : s.closers[k]? = some .awaitingReader) :
    { s.cancelWriter with closers := s.closers.set k (.awaitingWriter s.held) }.rank < s.rank := by
  have hsum := rank_closers hcloser (.awaitingWriter s.held)
  have hcancelled := rank_cancelWriter s
  have hclosers : s.cancelWriter.closers = s.closers := by
    unfold cancelWriter
    split
    · split <;> rfl
    · rfl
  simp only [rank, hclosers, Closer.rank] at hsum hcancelled ⊢
  omega

theorem rank_closeFails {s : Session κ} {k : Nat} {held : Option Nat}
    (hcloser : s.closers[k]? = some (.awaitingWriter held)) :
    { s.failOutstanding with closers := s.closers.set k .closingTransport }.rank < s.rank := by
  have hsum := rank_closers hcloser .closingTransport
  have hfailed := rank_failCoalescedUpdates s (.connectionClosedError "tekmar 482 session closed")
  simp only [rank, Closer.rank, failOutstanding, failCoalescedUpdates] at hsum hfailed ⊢
  omega

theorem rank_popped {s : Session κ} {key : κ} {c : Nat} {rest : OrderedDict κ Nat}
    (hpop : s.coalescedUpdates.popFirst = some ((key, c), rest)) :
    (s.popped key c rest).rank < s.rank := by
  have hentries := (OrderedDict.popFirst_eq_some_iff _ _ _).mp hpop
  simp only [rank, popped, hentries, List.length_cons]
  omega

/-- The writer loop leaves its idle rank to the update that it holds. -/
theorem rank_hold {s : Session κ} (hidle : s.writer = .idle) {key : κ} {c : Nat}
    {rest : OrderedDict κ Nat} (hpop : s.coalescedUpdates.popFirst = some ((key, c), rest))
    {call : Call κ} (hcall : s.calls[c]? = some call) (hphase : call.phase = .queued) :
    ((s.popped key c rest).hold c).rank < s.rank := by
  have hpopped := rank_popped hpop
  have hsum := rank_modifyCall (s := s.popped key c rest) hcall fun call =>
    { call with phase := .acquiring }
  simp only [Call.rank, hphase, Phase.rank] at hsum
  simp only [rank, hold, modifyCall, popped, hidle, Writer.rank] at hsum hpopped ⊢
  omega

section

variable [DecidableEq κ]

theorem rank_popUpdate {s t : Session κ} (hlinks : s.UpdateLinks) (hpopped : Popped s t) :
    t.rank < s.rank := by
  cases hpopped with
  | skipped _ hpop => exact rank_popped hpop
  | held hidle hpop hcall => exact rank_hold hidle hpop hcall (hlinks.popped hpop hcall).2
  | @began key c rest call hidle hpop hcall =>
      have hheld := rank_hold hidle hpop hcall (hlinks.popped hpop hcall).2
      have hacquiring := calls_modifyCall_self (s := s.popped key c rest) (fun call =>
        { call with phase := .acquiring }) hcall
      refine Nat.lt_trans (rank_beginTransaction ?_ rfl) hheld
      exact hacquiring

theorem rank_removeCoalescedUpdate (s : Session κ) (key : κ) (c : Nat) :
    (s.removeCoalescedUpdate key c).rank ≤ s.rank := by
  unfold removeCoalescedUpdate
  split
  · simp only [rank, OrderedDict.erase]
    have hle := List.length_filter_le (fun e => e.1 ≠ key) s.coalescedUpdates.entries
    omega
  · exact Nat.le_refl _

theorem rank_callStep {s t : Session κ} {c : Nat} {call : Call κ} (hcall : s.calls[c]? = some call)
    {action : CallAction} (htask : action.ofTask = true) (hstepped : CallStepped s c call action t) :
    t.rank < s.rank := by
  cases hstepped with
  | acquire hphase => exact rank_beginTransaction hcall hphase
  | written hphase => exact rank_endTransaction hcall (by rw [hphase]; rfl) nofun
  | awaits hphase =>
      have hsum := rank_modifyCall hcall fun call => { call with phase := .awaiting }
      simp only [Call.rank, hphase, Phase.rank] at hsum
      omega
  | writeFails hphase =>
      exact rank_endTransaction hcall (by rw [hphase]; rfl) (call.raised_ne_waiting _)
  | timeout | cancel => exact nomatch htask
  | resume hresult =>
      obtain ⟨hrunning, hdone⟩ := call.resumption_running hresult
      exact rank_endTransaction hcall hrunning hdone
  | @resumeCaller key _ hwaits hwakes =>
      have hremoved : (if call.wakeup = .cancelled then s.removeCoalescedUpdate key c else s).rank ≤
          s.rank := by
        split
        · exact rank_removeCoalescedUpdate s key c
        · exact Nat.le_refl _
      have hcall' : (if call.wakeup = .cancelled then s.removeCoalescedUpdate key c
          else s).calls[c]? = some call := by
        rw [calls_removed]
        exact hcall
      have hsum := rank_modifyCall hcall' fun other => { other with task := call.wakeup }
      simp only [Call.rank, hwaits, hwakes, if_true, if_false] at hsum
      omega

/-- Every step of the tasks lowers the rank. -/
theorem rank_step {s t : Session κ} (hlinks : s.UpdateLinks) {action : SessionAction κ}
    (htask : action.ofTask = true) (hstepped : Stepped s action t) : t.rank < s.rank := by
  cases hstepped with
  | onCall hcall hcallStepped => exact rank_callStep hcall htask hcallStepped
  | pop hpopped => exact rank_popUpdate hlinks hpopped
  | writerReturns hidle =>
      simp only [rank, hidle, Writer.rank]
      omega
  | cancelWriter hcloser => exact rank_closeCancels hcloser
  | failOutstanding hcloser => exact rank_closeFails hcloser
  | start | packet | readerFails | backlog | opened | close => exact nomatch htask

/-- The tasks of a session come to rest, however they are scheduled. -/
theorem tasks_rest {s t : Session κ} (hsound : s.Sound) {actions : List (SessionAction κ)}
    (hrun : Machine.RunWhere Session.step (fun _ action => action.ofTask = true) s actions t) :
    actions.length ≤ s.rank := by
  have hlower : ∀ (s : Session κ) action (t : Session κ), s.Sound → action.ofTask = true →
      s.step action = some t → t.Sound ∧ t.rank < s.rank :=
    fun _ _ _ hinv htask hstep => ⟨hinv.step hstep, rank_step hinv.links htask (.of_step hstep)⟩
  have hbound := hrun.length_le_rank hlower hsound
  omega

end

end Session

end Tekmar482
