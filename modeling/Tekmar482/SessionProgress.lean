import Tekmar482.Transactions

/-!
# What a running transaction waits for

The lock is never lost: some transaction has it that can go on. A transaction
that waits for its response has a pending request or a resolved future, and a
plain call ends with its transaction.
-/

namespace Tekmar482

namespace Dispatcher

/-- A dispatched message leaves every other waiting request pending. -/
theorem dispatchMessage_waiting {self : Dispatcher} (h : self.WellFormed) (message : TrpcPacket)
    {future : Nat} (hwaits : (self.dispatchMessage message).futures future = some .waiting) :
    self.futures future = some .waiting ∧ ∀ item ∈ self.pending, item.future = future →
      item ∈ (self.dispatchMessage message).pending := by
  have hkept : ∀ other : PendingRequest, other ∈ (self.dispatchMessage message).waiting →
      other ∈ (self.dispatchMessage message).pending := fun other hother =>
    (List.mem_filter.mp hother).1
  cases dispatchMessage_conserved message h with
  | handed item first futures waiting backlog queues =>
      have hne : future ≠ item.future := by
        rintro rfl
        rw [futures, Function.update_self] at hwaits
        exact nomatch hwaits
      rw [futures, Function.update_of_ne hne] at hwaits
      refine ⟨hwaits, fun other hmem heq => hkept other ?_⟩
      rw [waiting]
      have hother : other ≠ item := fun hsame => hne (heq ▸ hsame ▸ rfl)
      exact (List.mem_erase_of_ne hother).mpr
        (List.mem_filter.mpr ⟨hmem, beq_iff_eq.mpr (heq ▸ hwaits)⟩)
  | queued unmatched futures waiting backlog queues =>
      rw [futures] at hwaits
      refine ⟨hwaits, fun other hmem heq => hkept other ?_⟩
      rw [waiting]
      exact List.mem_filter.mpr ⟨hmem, beq_iff_eq.mpr (heq ▸ hwaits)⟩

theorem dispatchMessage_created {self : Dispatcher} (h : self.WellFormed) (message : TrpcPacket)
    (future : Nat) : (self.dispatchMessage message).futures future ≠ none ↔
      self.futures future ≠ none := by
  cases dispatchMessage_conserved message h with
  | handed item first futures _ _ _ =>
      rw [futures]
      rcases eq_or_ne future item.future with rfl | hne
      · have hcreated := h.created item
          (List.mem_filter.mp (List.mem_of_find?_eq_some first)).1
        simp [hcreated]
      · rw [Function.update_of_ne hne]
  | queued _ futures _ _ _ => rw [futures]

end Dispatcher

namespace Session

variable {κ : Type}

/-- Every running transaction has something to wait for. -/
structure Accounted (s : Session κ) : Prop where
  holder : ∀ c, s.transactionLock = some c →
    ∃ call, s.calls[c]? = some call ∧ call.phase.locked = true
  requested : ∀ (c : Nat) (call : Call κ), s.calls[c]? = some call → call.phase.locked = true →
    call.response ≠ none → s.dispatcher.futures c ≠ none ∧
      (s.dispatcher.futures c = some .waiting → ∃ item ∈ s.dispatcher.pending, item.future = c)
  awaiting : ∀ (c : Nat) (call : Call κ), s.calls[c]? = some call → call.phase = .awaiting →
    call.response ≠ none
  plain : ∀ (c : Nat) (call : Call κ), s.calls[c]? = some call → call.key = none →
    call.phase ≠ .queued ∧ (call.phase = .ended ↔ call.task ≠ .waiting)

theorem Fresh.accounted {s : Session κ} (h : s.Fresh) : s.Accounted := by
  obtain ⟨-, -, -, hcalls, hlock, -⟩ := h
  constructor
  · rw [hlock]
    exact fun c heq => nomatch heq
  · rw [hcalls]
    exact fun c call hcall => nomatch hcall
  · rw [hcalls]
    exact fun c call hcall => nomatch hcall
  · rw [hcalls]
    exact fun c call hcall => nomatch hcall

theorem Accounted.quiet {s t : Session κ} (h : s.Accounted) (hquiet : Quiet s t) :
    t.Accounted := by
  constructor
  · intro c hlock
    rw [hquiet.lock] at hlock
    obtain ⟨call, hcall, hlocked⟩ := h.holder c hlock
    obtain ⟨call', hcall', hfollows⟩ := hquiet.kept c call hcall
    exact ⟨call', hcall', hfollows.locked.trans hlocked⟩
  · intro c call' hcall' hlocked hresponse
    rcases hquiet.back hcall' with ⟨call, hcall, hfollows⟩ | ⟨-, hnew⟩
    · obtain ⟨hcreated, hpending⟩ := h.requested c call hcall (hfollows.locked ▸ hlocked)
        (hfollows.response ▸ hresponse)
      refine ⟨(hquiet.dispatcher.created c).mpr hcreated, fun hwaits => ?_⟩
      obtain ⟨hbefore, hkept⟩ := hquiet.dispatcher.waiting c hwaits
      obtain ⟨item, hmem, heq⟩ := hpending hbefore
      exact ⟨item, hkept item hmem heq, heq⟩
    · rw [hnew.locked] at hlocked
      exact nomatch hlocked
  · intro c call' hcall' hawaiting
    rcases hquiet.back hcall' with ⟨call, hcall, hfollows⟩ | ⟨-, hnew⟩
    · rw [hfollows.response]
      exact (hfollows.awaiting hawaiting).elim (h.awaiting c call hcall) id
    · have hlocked := hnew.locked
      rw [hawaiting] at hlocked
      exact nomatch hlocked
  · intro c call' hcall' hkey
    rcases hquiet.back hcall' with ⟨call, hcall, hfollows⟩ | ⟨-, hnew⟩
    · have hold := hfollows.key ▸ hkey
      obtain ⟨hqueued, hended⟩ := h.plain c call hcall hold
      rw [hfollows.ended, hfollows.task hold]
      exact ⟨fun heq => hqueued (hfollows.queued heq), hended⟩
    · obtain ⟨hqueued, hended, htask⟩ := hnew.plain hkey
      exact ⟨hqueued, fun heq => absurd heq hended, fun hne => absurd htask hne⟩

theorem Accounted.dispatchMessage {s : Session κ} (h : s.Accounted)
    (hwell : s.dispatcher.WellFormed) (message : TrpcPacket) :
    { s with dispatcher := s.dispatcher.dispatchMessage message }.Accounted where
  holder := h.holder
  requested := by
    intro c call hcall hlocked hresponse
    obtain ⟨hcreated, hpending⟩ := h.requested c call hcall hlocked hresponse
    refine ⟨(Dispatcher.dispatchMessage_created hwell message c).mpr hcreated, fun hwaits => ?_⟩
    obtain ⟨hbefore, hkept⟩ := Dispatcher.dispatchMessage_waiting hwell message hwaits
    obtain ⟨item, hmem, heq⟩ := hpending hbefore
    exact ⟨item, hkept item hmem heq, heq⟩
  awaiting := h.awaiting
  plain := h.plain

/-- A call that is no coalesced update has returned once it is finished with an outcome. -/
theorem finish_plain {call : Call κ} {result : FutureState CallResult}
    (hkey : (call.finish result).key = none) (hdone : result ≠ .waiting) :
    (call.finish result).phase ≠ .queued ∧
      ((call.finish result).phase = .ended ↔ (call.finish result).task ≠ .waiting) := by
  rw [call.finish_key] at hkey
  have htask : (call.finish result).task ≠ .waiting := by
    rw [Call.finish, hkey]
    exact hdone
  rw [call.finish_phase]
  exact ⟨by simp, iff_of_true rfl htask⟩

theorem Accounted.endTransaction {s : Session κ} (h : s.Accounted) (c : Nat)
    {result : FutureState CallResult} (hdone : result ≠ .waiting) :
    (s.endTransaction c result).Accounted := by
  have hback : ∀ (d : Nat) (call' : Call κ), (s.endTransaction c result).calls[d]? = some call' →
      (d = c ∧ ∃ call, s.calls[c]? = some call ∧ call' = call.finish result) ∨
        d ≠ c ∧ s.calls[d]? = some call' := fun d call' => calls_modifyCall_cases
  constructor
  · intro d hlock
    simp only [Session.endTransaction] at hlock
    split at hlock
    · cases hlock
    · rename_i hother
      obtain ⟨call, hcall, hlocked⟩ := h.holder d hlock
      have hne : d ≠ c := fun heq => hother (heq ▸ hlock)
      exact ⟨call, (calls_modifyCall_of_ne _ hne).trans hcall, hlocked⟩
  · intro d call' hcall' hlocked hresponse
    rcases hback d call' hcall' with ⟨-, call, -, rfl⟩ | ⟨hne, hold⟩
    · rw [call.finish_phase] at hlocked
      cases hlocked
    · obtain ⟨hcreated, hpending⟩ := h.requested d call' hold hlocked hresponse
      refine ⟨hcreated, fun hwaits => ?_⟩
      obtain ⟨item, hmem, heq⟩ := hpending hwaits
      refine ⟨item, ?_, heq⟩
      exact (List.mem_eraseP_of_neg (by simpa [heq] using hne)).mpr hmem
  · intro d call' hcall' hawaiting
    rcases hback d call' hcall' with ⟨-, call, -, rfl⟩ | ⟨-, hold⟩
    · rw [call.finish_phase] at hawaiting
      cases hawaiting
    · exact h.awaiting d call' hold hawaiting
  · intro d call' hcall' hkey
    rcases hback d call' hcall' with ⟨-, call, -, rfl⟩ | ⟨-, hold⟩
    · exact finish_plain hkey hdone
    · exact h.plain d call' hold hkey

/-- The lock is free, so no transaction has it. -/
theorem Exclusion.not_locked {s : Session κ} (h : s.Exclusion) (hfree : s.transactionLock = none)
    {d : Nat} {other : Call κ} (hother : s.calls[d]? = some other) : other.phase.locked ≠ true := by
  intro hlocked
  have hlock := h.locked d other hother hlocked
  rw [hfree] at hlock
  exact nomatch hlock

theorem Accounted.acquired_ends {s : Session κ} (h : s.Accounted) (hexclusion : s.Exclusion)
    (c : Nat) (call : Call κ) (hfree : s.transactionLock = none)
    {result : FutureState CallResult} (hdone : result ≠ .waiting) :
    ((s.acquired c call).endTransaction c result).Accounted := by
  have hback : ∀ (d : Nat) (call' : Call κ),
      ((s.acquired c call).endTransaction c result).calls[d]? = some call' →
        (∃ other, s.calls[d]? = some other ∧ call' = other.finish result) ∨
          s.calls[d]? = some call' := by
    intro d call' hcall'
    rw [← s.acquired_calls c call]
    rcases calls_modifyCall_cases hcall' with ⟨rfl, hother⟩ | ⟨-, hold⟩
    · exact .inl hother
    · exact .inr hold
  constructor
  · intro d hlock
    simp [Session.endTransaction] at hlock
  · intro d call' hcall' hlocked
    rcases hback d call' hcall' with ⟨other, -, rfl⟩ | hold
    · rw [other.finish_phase] at hlocked
      cases hlocked
    · exact absurd hlocked (hexclusion.not_locked hfree hold)
  · intro d call' hcall' hawaiting
    rcases hback d call' hcall' with ⟨other, -, rfl⟩ | hold
    · rw [other.finish_phase] at hawaiting
      cases hawaiting
    · exact h.awaiting d call' hold hawaiting
  · intro d call' hcall' hkey
    rcases hback d call' hcall' with ⟨other, -, rfl⟩ | hold
    · exact finish_plain hkey hdone
    · exact h.plain d call' hold hkey

theorem Accounted.acquired_wrote {s : Session κ} (h : s.Accounted) (hexclusion : s.Exclusion)
    {c : Nat} {call : Call κ} (hfree : s.transactionLock = none) (hcall : s.calls[c]? = some call)
    (hphase : call.phase = .acquiring) (message : TrpcPacket) :
    ((s.acquired c call).wrote c call message).Accounted := by
  have hbefore : (s.acquired c call).calls[c]? = some call := s.acquired_calls c call ▸ hcall
  have hback : ∀ (d : Nat) (call' : Call κ),
      ((s.acquired c call).wrote c call message).calls[d]? = some call' →
        d = c ∧ call' = { call with phase := .writing message } ∨
          d ≠ c ∧ s.calls[d]? = some call' := by
    intro d call' hcall'
    rw [← s.acquired_calls c call]
    exact calls_modifyCall_known hbefore hcall'
  constructor
  · intro d hlock
    cases (s.acquired_transactionLock c call).symm.trans hlock
    exact ⟨_, calls_modifyCall_self _ hbefore, rfl⟩
  · intro d call' hcall' hlocked hresponse
    rcases hback d call' hcall' with ⟨rfl, rfl⟩ | ⟨-, hold⟩
    · obtain ⟨wait, hwait⟩ := Option.ne_none_iff_exists'.mp hresponse
      have hregistered : s.acquired d call =
          { s with transactionLock := some d }.registerPending d wait := by
        rw [acquired]
        simp only at hwait
        simp only [hwait]
      refine ⟨?_, fun _ => ⟨⟨d, wait.responseMatch, wait.publishMatch⟩, ?_, rfl⟩⟩
      · simp [Session.wrote, hregistered, registerPending, Dispatcher.register, modifyCall]
      · simp [Session.wrote, hregistered, registerPending, Dispatcher.register, modifyCall]
    · exact absurd hlocked (hexclusion.not_locked hfree hold)
  · intro d call' hcall' hawaiting
    rcases hback d call' hcall' with ⟨-, rfl⟩ | ⟨-, hold⟩
    · cases hawaiting
    · exact h.awaiting d call' hold hawaiting
  · intro d call' hcall' hkey
    rcases hback d call' hcall' with ⟨-, rfl⟩ | ⟨-, hold⟩
    · obtain ⟨-, hended⟩ := h.plain c call hcall hkey
      rw [hphase] at hended
      refine ⟨by simp, ?_⟩
      simpa using hended
    · exact h.plain d call' hold hkey

theorem Accounted.beginTransaction {s : Session κ} (h : s.Accounted) (hexclusion : s.Exclusion)
    {c : Nat} {call : Call κ} (hfree : s.transactionLock = none) (hcall : s.calls[c]? = some call)
    (hphase : call.phase = .acquiring) : (s.beginTransaction c call).Accounted := by
  unfold Session.beginTransaction
  split
  · exact h.acquired_ends hexclusion c call hfree (call.raised_ne_waiting _)
  · exact h.acquired_wrote hexclusion hfree hcall hphase _

section

variable [DecidableEq κ]

theorem Accounted.step {s t : Session κ} (h : s.Accounted) (hexclusion : s.Exclusion)
    (hlinks : s.UpdateLinks) {action : SessionAction κ} (hstep : s.step action = some t) :
    t.Accounted := by
  cases step_cases hlinks hstep with
  | quiet hquiet => exact h.quiet hquiet
  | dispatched hquiet message =>
      exact (h.quiet hquiet).dispatchMessage (hexclusion.quiet hquiet).dispatcher message
  | began hquiet hfree hcall hphase =>
      exact (h.quiet hquiet).beginTransaction (hexclusion.quiet hquiet) hfree hcall hphase
  | ended _ _ hdone _ => exact h.endTransaction _ hdone

/-- What holds of every reachable session. -/
structure Sound (s : Session κ) : Prop where
  links : s.UpdateLinks
  exclusion : s.Exclusion
  accounted : s.Accounted

theorem Sound.step {s t : Session κ} (h : s.Sound) {action : SessionAction κ}
    (hstep : s.step action = some t) : t.Sound where
  links := h.links.step hstep
  exclusion := h.exclusion.step h.links hstep
  accounted := h.accounted.step h.exclusion h.links hstep

theorem Fresh.sound {s : Session κ} (h : s.Fresh) : s.Sound :=
  ⟨h.updateLinks, h.exclusion, h.accounted⟩

theorem sound_of_reachable {s : Session κ} (h : Machine.Reachable Session.step Fresh s) : s.Sound :=
  h.invariant (fun _ => Fresh.sound) fun _ _ _ hsound hstep => hsound.step hstep

end

end Session

end Tekmar482
