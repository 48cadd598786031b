import Tekmar482.SessionSteps

/-!
# What refers to a coalesced call

The queue, the writer loop and the caller hold a coalesced call at different
times. The invariant says which of them has it in each phase, so that no update
is popped twice and none is left without a task.
-/

namespace Tekmar482

namespace Call

variable {κ : Type}

/-- What the steps of a transaction keep of a coalesced call. -/
structure Steady (before after : Call κ) : Prop where
  key : after.key = before.key
  queued : after.phase = .queued ↔ before.phase = .queued
  running : after.phase.running = before.phase.running
  interrupted : before.key ≠ none → after.interrupted = before.interrupted
  future : after.future = .waiting → before.future = .waiting
  task : after.task = .waiting → before.task = .waiting
  cancelled : before.key ≠ none → after.cancelRequested = true →
    before.cancelRequested = true ∨ after.future ≠ .waiting

theorem Steady.refl (call : Call κ) : Steady call call :=
  ⟨rfl, Iff.rfl, rfl, fun _ => rfl, id, id, fun _ => .inl⟩

/-- A transaction that no task runs and that is not queued has ended. -/
theorem ended_iff (call : Call κ) :
    call.phase = .ended ↔ call.phase ≠ .queued ∧ call.phase.running = false := by
  cases call.phase <;> simp [Phase.running]

theorem Steady.ended {before after : Call κ} (h : Steady before after) :
    after.phase = .ended ↔ before.phase = .ended := by
  rw [ended_iff, ended_iff, h.running, Ne, Ne, not_congr h.queued]

theorem raised_ne_waiting (call : Call κ) (err : PyException) : call.raised err ≠ .waiting := by
  unfold raised
  split <;> exact nofun

/-- A transaction resumes when some task runs it, to a result. -/
theorem resumption_running {call : Call κ} {reply : Option (FutureState Arrival)}
    {result : FutureState CallResult} (h : call.resumption reply = some result) :
    call.phase.running = true ∧ result ≠ .waiting := by
  unfold resumption at h
  split at h
  · split at h
    · rename_i hrunning
      cases h
      exact ⟨hrunning, nofun⟩
    · exact nomatch h
  · split at h
    · exact nomatch h
    · rename_i hphase
      rw [not_not.mp hphase]
      refine ⟨rfl, ?_⟩
      split at h
      · cases h
        exact nofun
      · split at h
        · cases h
          exact nofun
        · cases h
          exact call.raised_ne_waiting _
        · cases h
          exact nofun
        · exact nomatch h

/-- A transaction that was not interrupted resumes from its wait. -/
theorem resumption_awaiting {call : Call κ} {reply : Option (FutureState Arrival)}
    {result : FutureState CallResult} (h : call.resumption reply = some result)
    (hinterrupted : call.interrupted = false) : call.phase = .awaiting := by
  unfold resumption at h
  rw [if_neg (by simp [hinterrupted])] at h
  split at h
  · exact nomatch h
  · rename_i hphase
    exact not_not.mp hphase

theorem settle_future (call : Call κ) {state : FutureState CallResult} (h : state ≠ .waiting) :
    (call.settle state).future ≠ .waiting := by
  unfold settle
  split
  · exact h
  · assumption

theorem settle_steady (call : Call κ) {state : FutureState CallResult} (h : state ≠ .waiting) :
    call.Steady (call.settle state) := by
  unfold settle
  split
  · exact ⟨rfl, Iff.rfl, rfl, fun _ => rfl, fun heq => absurd heq h, id, fun _ => .inl⟩
  · exact .refl call

end Call

namespace Session

variable {κ : Type}

/-- What a step keeps that touches neither the queue nor the writer loop. -/
structure Steady (s t : Session κ) : Prop where
  updates : t.coalescedUpdates = s.coalescedUpdates
  writer : t.writer = s.writer
  kept : ∀ (c : Nat) call, s.calls[c]? = some call →
    ∃ call', t.calls[c]? = some call' ∧ call.Steady call'
  back : ∀ (c : Nat) call', t.calls[c]? = some call' →
    (∃ call, s.calls[c]? = some call ∧ call.Steady call') ∨ call'.key = none

theorem Steady.of_same {s t : Session κ} (hupdates : t.coalescedUpdates = s.coalescedUpdates)
    (hwriter : t.writer = s.writer) (hcalls : t.calls = s.calls) : Steady s t where
  updates := hupdates
  writer := hwriter
  kept := fun _ call hcall => ⟨call, hcalls ▸ hcall, .refl call⟩
  back := fun _ call hcall => .inl ⟨call, hcalls ▸ hcall, .refl call⟩

theorem steady_modifyCall (s : Session κ) (c : Nat) {f : Call κ → Call κ}
    (hf : ∀ call, s.calls[c]? = some call → call.Steady (f call)) :
    Steady s (s.modifyCall c f) where
  updates := rfl
  writer := rfl
  kept := by
    intro d call hcall
    refine ⟨_, calls_modifyCall hcall c f, ?_⟩
    split
    · rename_i heq
      exact hf call (heq ▸ hcall)
    · exact .refl call
  back := by
    intro d call' hcall'
    obtain ⟨call, hcall, rfl⟩ := (calls_modifyCall_iff s c d f call').mp hcall'
    refine .inl ⟨call, hcall, ?_⟩
    split
    · rename_i heq
      exact hf call (heq ▸ hcall)
    · exact .refl call

theorem getElem?_concat {calls : List (Call κ)} {call call' : Call κ} {c : Nat}
    (h : (calls ++ [call])[c]? = some call') :
    calls[c]? = some call' ∨ c = calls.length ∧ call' = call := by
  rcases Nat.lt_or_ge c calls.length with hlt | hge
  · rw [List.getElem?_append_left hlt] at h
    exact .inl h
  · rw [List.getElem?_append_right hge, List.getElem?_singleton] at h
    split at h
    · cases h
      exact .inr ⟨by omega, rfl⟩
    · exact nomatch h

theorem steady_wrote {s : Session κ} {c : Nat} {call : Call κ} (hcall : s.calls[c]? = some call)
    (hphase : call.phase = .acquiring) (message : TrpcPacket) :
    Steady s (s.wrote c call message) := by
  have hcalls : Steady s (s.modifyCall c fun call => { call with phase := .writing message }) := by
    apply steady_modifyCall
    intro call' hcall'
    rw [hcall] at hcall'
    cases hcall'
    refine ⟨rfl, ?_, ?_, fun _ => rfl, id, id, fun _ => .inl⟩
    · simp [hphase]
    · simp [hphase, Phase.running]
  exact ⟨rfl, rfl, hcalls.kept, hcalls.back⟩

theorem steady_interrupt {s : Session κ} {c : Nat} {call : Call κ} (hcall : s.calls[c]? = some call)
    (hkey : call.key = none) : Steady s (s.interrupt c call) := by
  have hcalls : Steady s (s.modifyCall c fun call => { call with interrupted := true }) := by
    apply steady_modifyCall
    intro call' hcall'
    rw [hcall] at hcall'
    cases hcall'
    exact ⟨rfl, Iff.rfl, rfl, fun hsome => absurd hkey hsome, id, id, fun _ => .inl⟩
  exact ⟨rfl, rfl, hcalls.kept, hcalls.back⟩

section

variable [DecidableEq κ]

/-- Who has a coalesced call: the queue, the writer loop, or only its caller. -/
structure UpdateLinks (s : Session κ) : Prop where
  queued : ∀ key c, s.coalescedUpdates.get? key = some c →
    ∃ call, s.calls[c]? = some call ∧ call.key = some key ∧ call.phase = .queued
  waiting : ∀ (c : Nat) (call : Call κ) key, s.calls[c]? = some call → call.key = some key →
    call.phase = .queued → call.future = .waiting → s.coalescedUpdates.get? key = some c
  notInterrupted : ∀ (c : Nat) (call : Call κ), s.calls[c]? = some call → call.key ≠ none →
    call.phase = .queued → call.interrupted = false
  holding : ∀ c, s.writer = .holding c → ∃ call, s.calls[c]? = some call ∧ call.key ≠ none ∧
    call.phase.running = true ∧ call.interrupted = false
  running : ∀ (c : Nat) (call : Call κ), s.calls[c]? = some call → call.key ≠ none → call.phase.running = true →
    s.writer = .holding c ∨ call.interrupted = true
  ended : ∀ (c : Nat) (call : Call κ), s.calls[c]? = some call → call.key ≠ none → call.phase = .ended →
    call.future ≠ .waiting ∨ call.task ≠ .waiting
  cancelled : ∀ (c : Nat) (call : Call κ), s.calls[c]? = some call → call.key ≠ none →
    call.cancelRequested = true → call.future ≠ .waiting

theorem Fresh.updateLinks {s : Session κ} (h : s.Fresh) : s.UpdateLinks := by
  obtain ⟨-, -, -, hcalls, -, hupdates, hwriter, -⟩ := h
  constructor
  case queued =>
    rw [hupdates]
    exact fun key c hget => nomatch hget
  case waiting =>
    rw [hcalls]
    exact fun c call key hcall => nomatch hcall
  case notInterrupted =>
    rw [hcalls]
    exact fun c call hcall => nomatch hcall
  case holding =>
    rw [hwriter]
    exact fun c hholding => nomatch hholding
  case running =>
    rw [hcalls]
    exact fun c call hcall => nomatch hcall
  case ended =>
    rw [hcalls]
    exact fun c call hcall => nomatch hcall
  case cancelled =>
    rw [hcalls]
    exact fun c call hcall => nomatch hcall

theorem UpdateLinks.steady {s t : Session κ} (h : s.UpdateLinks) (hsteady : Steady s t) :
    t.UpdateLinks := by
  have hback : ∀ (c : Nat) (call' : Call κ), t.calls[c]? = some call' → call'.key ≠ none →
      ∃ call, s.calls[c]? = some call ∧ call.Steady call' ∧ call.key ≠ none := by
    intro c call' hcall' hkey
    obtain ⟨call, hcall, hcalls⟩ := (hsteady.back c call' hcall').resolve_right hkey
    exact ⟨call, hcall, hcalls, hcalls.key ▸ hkey⟩
  constructor
  case queued =>
    intro key c hget
    rw [hsteady.updates] at hget
    obtain ⟨call, hcall, hkey, hphase⟩ := h.queued key c hget
    obtain ⟨call', hcall', hcalls⟩ := hsteady.kept c call hcall
    exact ⟨call', hcall', hcalls.key.trans hkey, hcalls.queued.mpr hphase⟩
  case waiting =>
    intro c call' key hcall' hkey hphase hfuture
    rw [hsteady.updates]
    obtain ⟨call, hcall, hcalls, -⟩ := hback c call' hcall' (by simp [hkey])
    exact h.waiting c call key hcall (hcalls.key ▸ hkey) (hcalls.queued.mp hphase)
      (hcalls.future hfuture)
  case notInterrupted =>
    intro c call' hcall' hkey hphase
    obtain ⟨call, hcall, hcalls, hold⟩ := hback c call' hcall' hkey
    rw [hcalls.interrupted hold]
    exact h.notInterrupted c call hcall hold (hcalls.queued.mp hphase)
  case holding =>
    intro c hwriter
    rw [hsteady.writer] at hwriter
    obtain ⟨call, hcall, hkey, hrunning, hinterrupted⟩ := h.holding c hwriter
    obtain ⟨call', hcall', hcalls⟩ := hsteady.kept c call hcall
    exact ⟨call', hcall', hcalls.key ▸ hkey, hcalls.running.trans hrunning,
      (hcalls.interrupted hkey).trans hinterrupted⟩
  case running =>
    intro c call' hcall' hkey hrunning
    rw [hsteady.writer]
    obtain ⟨call, hcall, hcalls, hold⟩ := hback c call' hcall' hkey
    rw [hcalls.interrupted hold]
    exact h.running c call hcall hold (hcalls.running ▸ hrunning)
  case ended =>
    intro c call' hcall' hkey hended
    obtain ⟨call, hcall, hcalls, hold⟩ := hback c call' hcall' hkey
    rcases h.ended c call hcall hold (hcalls.ended.mp hended) with hfuture | htask
    · exact .inl fun heq => hfuture (hcalls.future heq)
    · exact .inr fun heq => htask (hcalls.task heq)
  case cancelled =>
    intro c call' hcall' hkey hcancelled
    obtain ⟨call, hcall, hcalls, hold⟩ := hback c call' hcall' hkey
    rcases hcalls.cancelled hold hcancelled with hbefore | hafter
    · exact fun heq => h.cancelled c call hcall hold hbefore (hcalls.future heq)
    · exact hafter

/-- A call that some task runs is not in the queue. -/
theorem UpdateLinks.not_queued {s : Session κ} (h : s.UpdateLinks) {c : Nat} {call : Call κ}
    (hcall : s.calls[c]? = some call) (hrunning : call.phase.running = true) (key : κ) :
    s.coalescedUpdates.get? key ≠ some c := by
  intro hget
  obtain ⟨call', hcall', -, hphase⟩ := h.queued key c hget
  cases hcall.symm.trans hcall'
  rw [hphase] at hrunning
  exact nomatch hrunning

/-- The call that leaves the queue is queued under its key. -/
theorem UpdateLinks.popped {s : Session κ} (h : s.UpdateLinks) {key : κ} {c : Nat}
    {rest : OrderedDict κ Nat} (hpop : s.coalescedUpdates.popFirst = some ((key, c), rest))
    {call : Call κ} (hcall : s.calls[c]? = some call) :
    call.key = some key ∧ call.phase = .queued := by
  obtain ⟨call', hcall', hqueued⟩ := h.queued key c (OrderedDict.get?_of_popFirst hpop)
  cases hcall.symm.trans hcall'
  exact hqueued

/-- The writer loop holds coalesced calls only. -/
theorem UpdateLinks.not_holding {s : Session κ} (h : s.UpdateLinks) {c : Nat} {call : Call κ}
    (hcall : s.calls[c]? = some call) (hkey : call.key = none) : s.writer ≠ .holding c := by
  intro hholding
  obtain ⟨call', hcall', hsome, -⟩ := h.holding c hholding
  cases hcall.symm.trans hcall'
  exact hsome hkey

/-- One call changes, and is not queued after that. -/
theorem UpdateLinks.modified {s t : Session κ} (h : s.UpdateLinks) {c : Nat} {call : Call κ}
    {f : Call κ → Call κ} (hcall : s.calls[c]? = some call)
    (hcalls : t.calls = (s.modifyCall c f).calls) (hphase : (f call).phase ≠ .queued)
    (hupdates : ∀ key d, d ≠ c →
      (t.coalescedUpdates.get? key = some d ↔ s.coalescedUpdates.get? key = some d))
    (hgone : ∀ key, t.coalescedUpdates.get? key ≠ some c)
    (hwriter : ∀ d, d ≠ c → (t.writer = .holding d ↔ s.writer = .holding d))
    (hholding : t.writer = .holding c → (f call).key ≠ none ∧ (f call).phase.running = true ∧
      (f call).interrupted = false)
    (hrunning : (f call).key ≠ none → (f call).phase.running = true →
      t.writer = .holding c ∨ (f call).interrupted = true)
    (hended : (f call).key ≠ none → (f call).phase = .ended →
      (f call).future ≠ .waiting ∨ (f call).task ≠ .waiting)
    (hcancelled : (f call).key ≠ none → (f call).cancelRequested = true →
      (f call).future ≠ .waiting) : t.UpdateLinks := by
  have hback : ∀ {d : Nat} {call' : Call κ}, t.calls[d]? = some call' →
      d = c ∧ call' = f call ∨ d ≠ c ∧ s.calls[d]? = some call' :=
    fun hcall' => calls_modifyCall_known hcall (hcalls ▸ hcall')
  have hkept : ∀ {d : Nat} {call' : Call κ}, s.calls[d]? = some call' → d ≠ c →
      t.calls[d]? = some call' := by
    intro d call' hcall' hne
    rw [hcalls]
    exact (calls_modifyCall_of_ne f hne).trans hcall'
  have hself : t.calls[c]? = some (f call) := hcalls ▸ calls_modifyCall_self f hcall
  constructor
  case queued =>
    intro key d hget
    have hne : d ≠ c := fun heq => hgone key (heq ▸ hget)
    obtain ⟨call', hcall', hrest⟩ := h.queued key d ((hupdates key d hne).mp hget)
    exact ⟨call', hkept hcall' hne, hrest⟩
  case waiting =>
    intro d call' key hcall' hkey hqueued hwaits
    rcases hback hcall' with ⟨-, rfl⟩ | ⟨hne, hold⟩
    · exact absurd hqueued hphase
    · exact (hupdates key d hne).mpr (h.waiting d call' key hold hkey hqueued hwaits)
  case notInterrupted =>
    intro d call' hcall' hkey hqueued
    rcases hback hcall' with ⟨-, rfl⟩ | ⟨-, hold⟩
    · exact absurd hqueued hphase
    · exact h.notInterrupted d call' hold hkey hqueued
  case holding =>
    intro d hholds
    rcases eq_or_ne d c with rfl | hne
    · exact ⟨f call, hself, hholding hholds⟩
    · obtain ⟨call', hcall', hrest⟩ := h.holding d ((hwriter d hne).mp hholds)
      exact ⟨call', hkept hcall' hne, hrest⟩
  case running =>
    intro d call' hcall' hkey hruns
    rcases hback hcall' with ⟨rfl, rfl⟩ | ⟨hne, hold⟩
    · exact hrunning hkey hruns
    · exact (h.running d call' hold hkey hruns).imp_left (hwriter d hne).mpr
  case ended =>
    intro d call' hcall' hkey hends
    rcases hback hcall' with ⟨-, rfl⟩ | ⟨-, hold⟩
    · exact hended hkey hends
    · exact h.ended d call' hold hkey hends
  case cancelled =>
    intro d call' hcall' hkey hrequested
    rcases hback hcall' with ⟨-, rfl⟩ | ⟨-, hold⟩
    · exact hcancelled hkey hrequested
    · exact h.cancelled d call' hold hkey hrequested

/-! ## The end of a transaction -/

theorem UpdateLinks.endTransaction {s : Session κ} (h : s.UpdateLinks) {c : Nat} {call : Call κ}
    (hcall : s.calls[c]? = some call) (hrunning : call.phase.running = true)
    {result : FutureState CallResult} (hresult : result ≠ .waiting) :
    (s.endTransaction c result).UpdateLinks := by
  have hphase : (call.finish result).phase = .ended := call.finish_phase result
  have hfuture : (call.finish result).key ≠ none → (call.finish result).future ≠ .waiting := by
    rw [call.finish_key]
    intro hkey
    unfold Call.finish
    split
    · contradiction
    · exact call.settle_future hresult
  apply h.modified (t := s.endTransaction c result) hcall rfl
  · rw [hphase]
    exact nofun
  · exact fun _ _ _ => Iff.rfl
  · exact h.not_queued hcall hrunning
  · intro d hne
    simp only [Session.endTransaction]
    split
    · rename_i hholding
      rw [hholding]
      exact ⟨nofun, fun heq => absurd (Writer.holding.inj heq).symm hne⟩
    · exact Iff.rfl
  · intro hholding
    simp only [Session.endTransaction] at hholding
    split at hholding
    · exact nomatch hholding
    · contradiction
  · intro _ hruns
    rw [hphase] at hruns
    exact nomatch hruns
  · exact fun hkey _ => .inl (hfuture hkey)
  · exact fun hkey _ => hfuture hkey

theorem UpdateLinks.beginTransaction {s : Session κ} (h : s.UpdateLinks) {c : Nat} {call : Call κ}
    (hcall : s.calls[c]? = some call) (hphase : call.phase = .acquiring) :
    (s.beginTransaction c call).UpdateLinks := by
  have hrunning : call.phase.running = true := by
    rw [hphase]
    rfl
  have hacquired : (s.acquired c call).UpdateLinks :=
    h.steady (.of_same (s.acquired_coalescedUpdates c call) (s.acquired_writer c call)
      (s.acquired_calls c call))
  rw [← s.acquired_calls c call] at hcall
  unfold Session.beginTransaction
  split
  · exact hacquired.endTransaction hcall hrunning (call.raised_ne_waiting _)
  · exact hacquired.steady (steady_wrote hcall hphase _)

/-! ## The queue -/

/-- A submission adds its call, and gives the one that it replaces its result. -/
theorem calls_submit {s : Session κ} (h : s.UpdateLinks) (call : Call κ) (key : κ) (d : Nat) :
    ({ s with calls := s.calls ++ [call] }.submit key s.calls.length).calls[d]? =
      if d = s.calls.length then some call
      else s.calls[d]?.map fun old =>
        if s.coalescedUpdates.get? key = some d then old.settle (.result .nothing) else old := by
  have hconcat : (s.calls ++ [call])[d]? = if d = s.calls.length then some call else s.calls[d]? := by
    split
    · rename_i heq
      rw [heq]
      exact List.getElem?_concat_length
    · rename_i hne
      rcases Nat.lt_or_ge d s.calls.length with hlt | hge
      · exact List.getElem?_append_left hlt
      · rw [List.getElem?_eq_none_iff.mpr (by simp; omega), List.getElem?_eq_none_iff.mpr hge]
  unfold Session.submit
  cases hget : s.coalescedUpdates.get? key with
  | none =>
      simp only [reduceCtorEq, if_false, Option.map_id']
      exact hconcat
  | some previous =>
      obtain ⟨old, hold, -, -⟩ := h.queued key previous hget
      have hlt := (List.getElem?_eq_some_iff.mp hold).1
      simp only [modifyCall, List.getElem?_modify, Option.some.injEq]
      rw [hconcat]
      split
      · rename_i heq
        subst heq
        rw [if_neg hlt.ne, if_neg hlt.ne]
        rfl
      · simp only [Option.map_eq_map, Option.map_id']

theorem calls_submit_cases {s : Session κ} (h : s.UpdateLinks) {call call' : Call κ} {key : κ}
    {d : Nat} (hcall' : ({ s with calls := s.calls ++ [call] }.submit key
      s.calls.length).calls[d]? = some call') :
    d = s.calls.length ∧ call' = call ∨ ∃ old, s.calls[d]? = some old ∧
      call' = if s.coalescedUpdates.get? key = some d then old.settle (.result .nothing)
        else old := by
  rw [calls_submit h] at hcall'
  split at hcall'
  · rename_i heq
    cases hcall'
    exact .inl ⟨heq, rfl⟩
  · obtain ⟨old, hold, heq⟩ := Option.map_eq_some_iff.mp hcall'
    exact .inr ⟨old, hold, heq.symm⟩

theorem calls_submit_old {s : Session κ} (h : s.UpdateLinks) (call : Call κ) (key : κ) {d : Nat}
    {old : Call κ} (hold : s.calls[d]? = some old) :
    ({ s with calls := s.calls ++ [call] }.submit key s.calls.length).calls[d]? =
      some (if s.coalescedUpdates.get? key = some d then old.settle (.result .nothing)
        else old) := by
  rw [calls_submit h, if_neg (List.getElem?_eq_some_iff.mp hold).1.ne, hold]
  rfl

theorem UpdateLinks.submit {s : Session κ} (h : s.UpdateLinks) {call : Call κ} {key : κ}
    (hkey : call.key = some key) (hphase : call.phase = .queued)
    (hinterrupted : call.interrupted = false) (hcancelled : call.cancelRequested = false) :
    ({ s with calls := s.calls ++ [call] }.submit key s.calls.length).UpdateLinks := by
  have hsettled : ∀ (d : Nat) (old : Call κ), old.Steady (if s.coalescedUpdates.get? key = some d
      then old.settle (.result .nothing) else old) := by
    intro d old
    split
    · exact old.settle_steady (by simp)
    · exact .refl old
  have hback : ∀ (d : Nat) (call' : Call κ),
      ({ s with calls := s.calls ++ [call] }.submit key s.calls.length).calls[d]? = some call' →
        d = s.calls.length ∧ call' = call ∨ ∃ call'', s.calls[d]? = some call'' ∧ call''.Steady call' ∧
          (s.coalescedUpdates.get? key = some d → call'.future ≠ .waiting) := by
    intro d call' hcall'
    rcases calls_submit_cases h hcall' with hlast | ⟨old, hold, heq⟩
    · exact .inl hlast
    · refine .inr ⟨old, hold, heq ▸ hsettled d old, fun hget => ?_⟩
      rw [heq, if_pos hget]
      exact old.settle_future (by simp)
  have hkept : ∀ (d : Nat) (call' : Call κ), s.calls[d]? = some call' →
      ∃ call'', ({ s with calls := s.calls ++ [call] }.submit key s.calls.length).calls[d]? =
        some call'' ∧ call'.Steady call'' := fun d call' hcall' =>
    ⟨_, calls_submit_old h call key hcall', hsettled d call'⟩
  have hself : ({ s with calls := s.calls ++ [call] }.submit key s.calls.length).calls[s.calls.length]? =
      some call := by
    rw [calls_submit h, if_pos rfl]
  have hwriter : ({ s with calls := s.calls ++ [call] }.submit key s.calls.length).writer =
      s.writer := submit_writer _ _ _
  constructor
  case queued =>
    intro key' d hget
    rw [submit_coalescedUpdates, OrderedDict.get?_set] at hget
    split at hget
    · rename_i heq
      cases hget
      exact ⟨call, hself, heq ▸ hkey, hphase⟩
    · obtain ⟨call', hcall', hkey', hphase'⟩ := h.queued key' d hget
      obtain ⟨call'', hcall'', hsteady⟩ := hkept d call' hcall'
      exact ⟨call'', hcall'', hsteady.key.trans hkey', hsteady.queued.mpr hphase'⟩
  case waiting =>
    intro d call' key' hcall' hkey' hphase' hwaits
    rw [submit_coalescedUpdates, OrderedDict.get?_set]
    rcases hback d call' hcall' with ⟨rfl, rfl⟩ | ⟨call'', hcall'', hsteady, hsuperseded⟩
    · rw [hkey] at hkey'
      rw [if_pos (Option.some.inj hkey').symm]
    · have hget := h.waiting d call'' key' hcall'' (hsteady.key ▸ hkey')
        (hsteady.queued.mp hphase') (hsteady.future hwaits)
      rw [if_neg, hget]
      rintro rfl
      exact hsuperseded hget hwaits
  case notInterrupted =>
    intro d call' hcall' hkey' hphase'
    rcases hback d call' hcall' with ⟨-, rfl⟩ | ⟨call'', hcall'', hsteady, -⟩
    · exact hinterrupted
    · rw [hsteady.key] at hkey'
      rw [hsteady.interrupted hkey']
      exact h.notInterrupted d call'' hcall'' hkey' (hsteady.queued.mp hphase')
  case holding =>
    intro d hholding
    rw [hwriter] at hholding
    obtain ⟨call', hcall', hkey', hrunning, hfree⟩ := h.holding d hholding
    obtain ⟨call'', hcall'', hsteady⟩ := hkept d call' hcall'
    exact ⟨call'', hcall'', hsteady.key ▸ hkey', hsteady.running.trans hrunning,
      (hsteady.interrupted hkey').trans hfree⟩
  case running =>
    intro d call' hcall' hkey' hrunning
    rw [hwriter]
    rcases hback d call' hcall' with ⟨-, rfl⟩ | ⟨call'', hcall'', hsteady, -⟩
    · rw [hphase] at hrunning
      cases hrunning
    · rw [hsteady.key] at hkey'
      rw [hsteady.interrupted hkey']
      exact h.running d call'' hcall'' hkey' (hsteady.running ▸ hrunning)
  case ended =>
    intro d call' hcall' hkey' hended
    rcases hback d call' hcall' with ⟨-, rfl⟩ | ⟨call'', hcall'', hsteady, -⟩
    · rw [hphase] at hended
      cases hended
    · rw [hsteady.key] at hkey'
      exact (h.ended d call'' hcall'' hkey' (hsteady.ended.mp hended)).imp
        (fun hfuture heq => hfuture (hsteady.future heq)) fun htask heq => htask (hsteady.task heq)
  case cancelled =>
    intro d call' hcall' hkey' hrequested
    rcases hback d call' hcall' with ⟨-, rfl⟩ | ⟨call'', hcall'', hsteady, -⟩
    · rw [hcancelled] at hrequested
      cases hrequested
    · rw [hsteady.key] at hkey'
      exact (hsteady.cancelled hkey' hrequested).elim
        (fun hold heq => h.cancelled d call'' hcall'' hkey' hold (hsteady.future heq)) id

/-- An update leaves the queue when its future is not waiting any more. -/
theorem UpdateLinks.shrink {s : Session κ} (h : s.UpdateLinks) {updates : OrderedDict κ Nat}
    (hsub : ∀ key c, updates.get? key = some c → s.coalescedUpdates.get? key = some c)
    (hleft : ∀ key c call, s.coalescedUpdates.get? key = some c → updates.get? key ≠ some c →
      s.calls[c]? = some call → call.future ≠ .waiting) :
    { s with coalescedUpdates := updates }.UpdateLinks where
  queued := fun key c hget => h.queued key c (hsub key c hget)
  waiting := by
    intro c call key hcall hkey hphase hwaits
    by_contra hnot
    exact hleft key c call (h.waiting c call key hcall hkey hphase hwaits) hnot hcall hwaits
  notInterrupted := h.notInterrupted
  holding := h.holding
  running := h.running
  ended := h.ended
  cancelled := h.cancelled

/-- The writer loop holds the update that it has popped. -/
theorem UpdateLinks.hold {s : Session κ} (h : s.UpdateLinks) (hidle : s.writer = .idle) {key : κ}
    {c : Nat} {rest : OrderedDict κ Nat} {call : Call κ}
    (hpop : s.coalescedUpdates.popFirst = some ((key, c), rest)) (hcall : s.calls[c]? = some call) :
    ((s.popped key c rest).hold c).UpdateLinks := by
  have hget := OrderedDict.get?_popFirst hpop
  have hgone := OrderedDict.get?_popFirst_rest hpop
  obtain ⟨hkey, hphase⟩ := h.popped hpop hcall
  have hfree := h.notInterrupted c call hcall (by simp [hkey]) hphase
  apply h.modified (t := (s.popped key c rest).hold c) hcall rfl nofun
  · exact fun key' d hne => OrderedDict.get?_popFirst_of_ne hpop hne key'
  · intro key' hrest
    have hne : key' ≠ key := by
      rintro rfl
      exact nomatch hgone.symm.trans hrest
    obtain ⟨call', hcall', hkey', -⟩ := h.queued key' c (by rw [hget, if_neg hne, ← hrest]; rfl)
    cases hcall.symm.trans hcall'
    rw [hkey] at hkey'
    exact hne (Option.some.inj hkey').symm
  · intro d hne
    rw [hidle]
    exact ⟨fun heq => absurd (Writer.holding.inj heq).symm hne, nofun⟩
  · exact fun _ => ⟨by simp [hkey], rfl, hfree⟩
  · exact fun _ _ => .inl rfl
  · exact nofun
  · exact h.cancelled c call hcall

/-- The first update is popped: it is skipped, or the writer loop holds it. -/
theorem UpdateLinks.popUpdate {s t : Session κ} (h : s.UpdateLinks) (hpopped : Popped s t) :
    t.UpdateLinks := by
  cases hpopped with
  | @skipped key c rest call hidle hpop hcall hcancelled =>
      have hshrunk : { s with coalescedUpdates := rest }.UpdateLinks := by
        apply h.shrink
        · intro key' d hd
          have hne : key' ≠ key := by
            rintro rfl
            cases (OrderedDict.get?_popFirst_rest hpop).symm.trans hd
          rw [OrderedDict.get?_popFirst hpop, if_neg hne]
          exact hd
        · intro key' d call' hd hnot hcall'
          rw [OrderedDict.get?_popFirst hpop] at hd
          split at hd
          · cases hd
            cases hcall.symm.trans hcall'
            rw [hcancelled]
            simp
          · exact absurd hd hnot
      exact hshrunk.steady (.of_same rfl rfl rfl)
  | held hidle hpop hcall => exact h.hold hidle hpop hcall
  | @began key c rest call hidle hpop hcall =>
      have hacquiring := calls_modifyCall_self (s := s.popped key c rest) (fun call =>
        { call with phase := .acquiring }) hcall
      exact (h.hold hidle hpop hcall).beginTransaction hacquiring rfl

theorem UpdateLinks.failCoalescedUpdates {s : Session κ} (h : s.UpdateLinks) (err : PyException) :
    (s.failCoalescedUpdates err).UpdateLinks := by
  have hsettled : { s.failCoalescedUpdates err with
      coalescedUpdates := s.coalescedUpdates }.UpdateLinks := by
    have hsteady : ∀ (c : Nat) (call : Call κ),
        call.Steady (if c ∈ s.coalescedUpdates.values then call.settle (.exception err) else call) := by
      intro c call
      split
      · exact call.settle_steady (by exact nofun)
      · exact .refl call
    apply h.steady
    refine ⟨rfl, rfl, ?_, ?_⟩
    · intro c call hcall
      refine ⟨_, by rw [Session.failCoalescedUpdates, List.getElem?_mapIdx, hcall]; rfl, ?_⟩
      exact hsteady c call
    · intro c call' hcall'
      rw [Session.failCoalescedUpdates, List.getElem?_mapIdx] at hcall'
      obtain ⟨call, hcall, rfl⟩ := Option.map_eq_some_iff.mp hcall'
      exact .inl ⟨call, hcall, hsteady c call⟩
  refine hsettled.shrink (fun key c hget => nomatch hget) ?_
  intro key c call' hget _ hcall'
  rw [Session.failCoalescedUpdates, List.getElem?_mapIdx] at hcall'
  obtain ⟨call, hcall, rfl⟩ := Option.map_eq_some_iff.mp hcall'
  have hmem : c ∈ s.coalescedUpdates.values :=
    List.mem_map.mpr ⟨(key, c), (OrderedDict.get?_eq_some_iff _ key c).mp hget, rfl⟩
  rw [if_pos hmem]
  exact call.settle_future (by exact nofun)

theorem UpdateLinks.removeCoalescedUpdate {s : Session κ} (h : s.UpdateLinks) (key : κ) {c : Nat}
    {call : Call κ} (hcall : s.calls[c]? = some call) (hfuture : call.future ≠ .waiting) :
    (s.removeCoalescedUpdate key c).UpdateLinks := by
  unfold Session.removeCoalescedUpdate
  split
  · rename_i hget
    apply h.shrink
    · intro key' d hd
      rw [OrderedDict.get?_erase] at hd
      split at hd
      · cases hd
      · exact hd
    · intro key' d call' hd hnot hcall'
      rw [OrderedDict.get?_erase] at hnot
      split at hnot
      · rename_i heq
        rw [heq, hget] at hd
        cases hd
        rw [hcall] at hcall'
        cases hcall'
        exact hfuture
      · exact absurd hd hnot
  · exact h

theorem UpdateLinks.resumeCaller {s : Session κ} (h : s.UpdateLinks) {c : Nat} {call : Call κ}
    {key : κ} (hcall : s.calls[c]? = some call) (hkey : call.key = some key)
    (hwakes : call.wakeup ≠ .waiting) :
    ((if call.wakeup = .cancelled then s.removeCoalescedUpdate key c else s).modifyCall c
      fun other => { other with task := call.wakeup }).UpdateLinks := by
  have hremoved : (if call.wakeup = .cancelled then s.removeCoalescedUpdate key c
      else s).UpdateLinks := by
    split
    · rename_i hcancelled
      apply h.removeCoalescedUpdate key hcall
      unfold Call.wakeup at hcancelled
      split at hcancelled
      · rename_i hrequested
        exact h.cancelled c call hcall (by simp [hkey]) hrequested
      · rw [hcancelled]
        exact nofun
    · exact h
  exact hremoved.steady (steady_modifyCall _ c fun call _ =>
    ⟨rfl, Iff.rfl, rfl, fun _ => rfl, id, fun heq => absurd heq hwakes, fun _ => .inl⟩)

/-! ## The writer loop -/

/-- A writer loop that holds nothing can stop and start. -/
theorem UpdateLinks.setWriter {s : Session κ} (h : s.UpdateLinks) (writer : Writer)
    (hfree : ∀ c, s.writer ≠ .holding c) (hwriter : ∀ c, writer ≠ .holding c) :
    { s with writer := writer }.UpdateLinks where
  queued := h.queued
  waiting := h.waiting
  notInterrupted := h.notInterrupted
  holding := fun c hholding => absurd hholding (hwriter c)
  running := fun c call hcall hkey hrunning =>
    .inr ((h.running c call hcall hkey hrunning).resolve_left (hfree c))
  ended := h.ended
  cancelled := h.cancelled

theorem UpdateLinks.cancelWriter {s : Session κ} (h : s.UpdateLinks) :
    s.cancelWriter.UpdateLinks := by
  unfold Session.cancelWriter
  split
  · rename_i c hholding
    obtain ⟨call, hcall, -, hrunning, -⟩ := h.holding c hholding
    simp only [hcall]
    apply h.modified (t := { s.interrupt c call with writer := .stopped }) hcall rfl
    · intro hphase
      rw [show call.phase = .queued from hphase] at hrunning
      exact nomatch hrunning
    · exact fun _ _ _ => Iff.rfl
    · exact h.not_queued hcall hrunning
    · intro d hne
      rw [hholding]
      exact ⟨nofun, fun heq => absurd (Writer.holding.inj heq).symm hne⟩
    · exact nofun
    · exact fun _ _ => .inr rfl
    · exact h.ended c call hcall
    · exact h.cancelled c call hcall
  · rename_i hnot
    exact h.setWriter _ hnot nofun

/-! ## Every step -/

theorem UpdateLinks.startCall {s : Session κ} (h : s.UpdateLinks) (request : SessionRequest κ) :
    (s.startCall request).UpdateLinks := by
  have happend : ∀ call : Call κ, (call.key ≠ none → call.phase = .ended ∧ call.task ≠ .waiting ∧
      call.cancelRequested = false) → { s with calls := s.calls ++ [call] }.UpdateLinks := by
    intro call hcall
    have hkept : ∀ (d : Nat) (call' : Call κ), s.calls[d]? = some call' →
        (s.calls ++ [call])[d]? = some call' := fun d call' hcall' => by
      rw [List.getElem?_append_left (List.getElem?_eq_some_iff.mp hcall').1, hcall']
    constructor
    case queued =>
      intro key d hget
      obtain ⟨call', hcall', hrest⟩ := h.queued key d hget
      exact ⟨call', hkept d call' hcall', hrest⟩
    case waiting =>
      intro d call' key hcall' hkey hphase hwaits
      rcases getElem?_concat hcall' with hold | ⟨-, rfl⟩
      · exact h.waiting d call' key hold hkey hphase hwaits
      · rw [(hcall (by simp [hkey])).1] at hphase
        exact nomatch hphase
    case notInterrupted =>
      intro d call' hcall' hkey hphase
      rcases getElem?_concat hcall' with hold | ⟨-, rfl⟩
      · exact h.notInterrupted d call' hold hkey hphase
      · rw [(hcall hkey).1] at hphase
        exact nomatch hphase
    case holding =>
      intro d hholding
      obtain ⟨call', hcall', hrest⟩ := h.holding d hholding
      exact ⟨call', hkept d call' hcall', hrest⟩
    case running =>
      intro d call' hcall' hkey hrunning
      rcases getElem?_concat hcall' with hold | ⟨-, rfl⟩
      · exact h.running d call' hold hkey hrunning
      · rw [(hcall hkey).1] at hrunning
        exact nomatch hrunning
    case ended =>
      intro d call' hcall' hkey hended
      rcases getElem?_concat hcall' with hold | ⟨-, rfl⟩
      · exact h.ended d call' hold hkey hended
      · exact .inr (hcall hkey).2.1
    case cancelled =>
      intro d call' hcall' hkey hcancelled
      rcases getElem?_concat hcall' with hold | ⟨-, rfl⟩
      · exact h.cancelled d call' hold hkey hcancelled
      · rw [(hcall hkey).2.2] at hcancelled
        exact nomatch hcancelled
  simp only [Session.startCall]
  split
  · rename_i hkey
    have hcreated := happend (Call.create request) fun hsome => absurd hkey hsome
    split
    · exact hcreated
    · apply hcreated.beginTransaction
      · exact List.getElem?_concat_length
      · cases request <;> first | rfl | exact nomatch hkey
  · rename_i key hkey
    split
    · apply happend
      exact fun _ => ⟨rfl, nofun, by cases request <;> rfl⟩
    · apply h.submit hkey <;> cases request <;> first | rfl | exact nomatch hkey

theorem UpdateLinks.cancelCall {s : Session κ} (h : s.UpdateLinks) {c : Nat} {call : Call κ}
    (hcall : s.calls[c]? = some call) : (s.cancelCall c call).UpdateLinks := by
  unfold Session.cancelCall
  split
  · rename_i hkey
    have hinterrupted := h.steady (steady_interrupt hcall hkey)
    refine hinterrupted.steady (steady_modifyCall _ c fun call' hcall' => ?_)
    have hset := calls_modifyCall hcall c fun call => { call with interrupted := true }
    rw [if_pos rfl] at hset
    cases hset.symm.trans hcall'
    exact ⟨rfl, Iff.rfl, rfl, fun _ => rfl, id, id, fun hsome => absurd hkey hsome⟩
  · refine h.steady (steady_modifyCall s c fun call _ => ?_)
    have hsettled : call.Steady (call.settle .cancelled) := call.settle_steady nofun
    exact ⟨hsettled.key, hsettled.queued, hsettled.running, hsettled.interrupted, hsettled.future,
      hsettled.task, fun _ _ => .inr (call.settle_future nofun)⟩

theorem UpdateLinks.callStep {s t : Session κ} (h : s.UpdateLinks) {c : Nat} {call : Call κ}
    (hcall : s.calls[c]? = some call) {action : CallAction}
    (hstepped : CallStepped s c call action t) : t.UpdateLinks := by
  cases hstepped with
  | acquire hphase => exact h.beginTransaction hcall hphase
  | written hphase => exact h.endTransaction hcall (by rw [hphase]; rfl) nofun
  | awaits hphase =>
      apply h.steady
      apply steady_modifyCall
      intro call' hcall'
      cases hcall.symm.trans hcall'
      refine ⟨rfl, ?_, ?_, fun _ => rfl, id, id, fun _ => .inl⟩
      · simp [hphase]
      · simp [hphase, Phase.running]
  | writeFails hphase =>
      exact h.endTransaction hcall (by rw [hphase]; rfl) (call.raised_ne_waiting _)
  | timeout =>
      have hcalls : Steady s (s.modifyCall c fun call => { call with timedOut := true }) :=
        steady_modifyCall s c fun call _ => ⟨rfl, Iff.rfl, rfl, fun _ => rfl, id, id, fun _ => .inl⟩
      exact h.steady ⟨rfl, rfl, hcalls.kept, hcalls.back⟩
  | cancel => exact h.cancelCall hcall
  | resume hresult =>
      obtain ⟨hrunning, hdone⟩ := call.resumption_running hresult
      exact h.endTransaction hcall hrunning hdone
  | resumeCaller hkey _ hwakes => exact h.resumeCaller hcall hkey hwakes

theorem UpdateLinks.dispatchPacket {s : Session κ} (h : s.UpdateLinks) (packet : Packet) :
    (s.dispatchPacket packet).UpdateLinks := by
  unfold Session.dispatchPacket
  split
  · split
    · exact ((h.steady (.of_same rfl rfl rfl)).failCoalescedUpdates _).steady
        (.of_same rfl rfl rfl)
    · exact h.steady (.of_same rfl rfl rfl)
  · exact h.steady (.of_same rfl rfl rfl)

theorem UpdateLinks.opened {s : Session κ} (h : s.UpdateLinks) : s.opened.UpdateLinks := by
  unfold Session.opened
  split
  · rename_i hstopped
    exact (h.setWriter .idle (by rw [hstopped]; exact nofun) nofun).steady (.of_same rfl rfl rfl)
  · exact h.steady (.of_same rfl rfl rfl)

/-- Every step keeps the links. -/
theorem UpdateLinks.step {s t : Session κ} (h : s.UpdateLinks) {action : SessionAction κ}
    (hstep : s.step action = some t) : t.UpdateLinks := by
  cases Stepped.of_step hstep with
  | start request => exact h.startCall request
  | onCall hcall hstepped => exact h.callStep hcall hstepped
  | pop hpopped => exact h.popUpdate hpopped
  | writerReturns hidle => exact h.setWriter _ (by rw [hidle]; exact nofun) nofun
  | packet => exact h.dispatchPacket _
  | readerFails => exact (h.failCoalescedUpdates _).steady (.of_same rfl rfl rfl)
  | backlog => exact h.steady (.of_same rfl rfl rfl)
  | opened => exact h.opened
  | close => exact h.steady (.of_same rfl rfl rfl)
  | cancelWriter => exact h.cancelWriter.steady (.of_same rfl rfl rfl)
  | failOutstanding => exact (h.failCoalescedUpdates _).steady (.of_same rfl rfl rfl)

end

end Session

end Tekmar482
