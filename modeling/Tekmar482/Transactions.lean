import Tekmar482.TransactionSteps
import Tekmar482.Library.Sections

/-!
# Transactions do not overlap

The transaction lock, the pending request and the response future of a call end
at different times. The invariant ties them to the lock: whatever is pending or
open in the log belongs to the call that has it.
-/

namespace Tekmar482

namespace Dispatcher

/-- The removed request was the only one of its future. -/
theorem WellFormed.future_ne {self : Dispatcher} (h : self.WellFormed) {future : Nat}
    {item : PendingRequest} (hmem : item ∈ (self.removePending future).pending) :
    item.future ≠ future := by
  have hdistinct := h.distinct
  replace hmem : item ∈ self.pending.eraseP fun pending => pending.future == future := hmem
  generalize self.pending = pending at hdistinct hmem
  induction pending with
  | nil => exact absurd hmem List.not_mem_nil
  | cons first rest ih =>
      obtain ⟨hfirst, hrest⟩ := List.nodup_cons.mp hdistinct
      rw [List.eraseP_cons] at hmem
      cases heq : first.future == future with
      | true =>
          rw [heq, cond_true] at hmem
          rintro rfl
          exact hfirst (beq_iff_eq.mp heq ▸ List.mem_map_of_mem hmem)
      | false =>
          rw [heq, cond_false] at hmem
          rcases List.mem_cons.mp hmem with rfl | hmem
          · exact fun h => absurd h (by simpa using heq)
          · exact ih hrest hmem

end Dispatcher

namespace Call

variable {κ : Type}

theorem finish_returned {call : Call κ} {result : FutureState CallResult} {a : Arrival}
    (h : (call.finish result).task = .result (.response a) ∨
      (call.finish result).future = .result (.response a)) :
    call.task = .result (.response a) ∨ call.future = .result (.response a) ∨
      result = .result (.response a) := by
  unfold finish settle at h
  split at h
  · rcases h with h | h
    · exact .inr (.inr h)
    · exact .inr (.inl h)
  · split at h
    · rcases h with h | h
      · exact .inl h
      · exact .inr (.inr h)
    · rcases h with h | h
      · exact .inl h
      · exact .inr (.inl h)

end Call

namespace Session

variable {κ : Type}

/-- What holds of the transactions between any two steps. -/
structure Exclusion (s : Session κ) : Prop where
  dispatcher : s.dispatcher.WellFormed
  locked : ∀ c call, s.calls[c]? = some call → call.phase.locked = true → s.transactionLock = some c
  pending : ∀ item ∈ s.dispatcher.pending, s.transactionLock = some item.future ∧
    ∃ call wait n, s.calls[item.future]? = some call ∧ call.response = some wait ∧
      item.responseMatch = wait.responseMatch ∧ .registered item.future n ∈ s.log
  created : ∀ c, s.dispatcher.futures c ≠ none →
    ∃ call, s.calls[c]? = some call ∧ (call.phase = .ended ∨ s.transactionLock = some c)
  registered : ∀ c n, .registered c n ∈ s.log → n ≤ s.dispatcher.arrived
  result : ∀ c a, s.dispatcher.futures c = some (.result a) →
    ∃ call wait n, s.calls[c]? = some call ∧ call.response = some wait ∧
      wait.responseMatch.accepts a.message = true ∧ .registered c n ∈ s.log ∧ n ≤ a.index
  returned : ∀ c call a, s.calls[c]? = some call →
    call.task = .result (.response a) ∨ call.future = .result (.response a) →
      s.dispatcher.futures c = some (.result a)
  exclusive : Sections.Exclusive opens closes writes s.log
  isOpen : ∀ c, Sections.IsOpen opens closes s.log c → s.transactionLock = some c

theorem Fresh.exclusion {s : Session κ} (h : s.Fresh) : s.Exclusion := by
  obtain ⟨hdispatcher, -, -, hcalls, -, -, -, -, -, hlog⟩ := h
  have hfutures : ∀ c, s.dispatcher.futures c = none := hdispatcher.2.1
  constructor
  case dispatcher =>
    exact hdispatcher.wellFormed
  case locked =>
    rw [hcalls]
    exact fun c call hcall => nomatch hcall
  case pending =>
    rw [hdispatcher.1]
    exact fun item hmem => absurd hmem List.not_mem_nil
  case created =>
    exact fun c hc => absurd (hfutures c) hc
  case registered =>
    rw [hlog]
    exact fun c n hmem => absurd hmem List.not_mem_nil
  case result =>
    intro c a hresult
    rw [hfutures c] at hresult
    exact nomatch hresult
  case returned =>
    rw [hcalls]
    exact fun c call a hcall => nomatch hcall
  case exclusive =>
    rw [hlog]
    exact Sections.exclusive_nil
  case isOpen =>
    rw [hlog]
    exact fun c hopen => absurd hopen (Sections.not_isOpen_nil c)

/-! ## Steps that start no transaction -/

theorem sections_concat {log : List (SessionEvent κ)} {event : SessionEvent κ}
    (hopens : opens event = none) (hwrites : writes event = none)
    (h : Sections.Exclusive opens closes writes log) :
    Sections.Exclusive opens closes writes (log ++ [event]) ∧
      ∀ c, Sections.IsOpen opens closes (log ++ [event]) c →
        Sections.IsOpen opens closes log c ∧ closes event ≠ some c := by
  constructor
  · apply h.concat
    intro i j hacts
    rw [hwrites] at hacts
    exact nomatch hacts
  · intro c hopen
    rcases Sections.isOpen_concat hopen with hnew | hold
    · rw [hopens] at hnew
      exact nomatch hnew
    · exact hold

theorem sections_quiet {log extra : List (SessionEvent κ)}
    (hextra : ∀ event ∈ extra, opens event = none ∧ closes event = none ∧ writes event = none)
    (h : Sections.Exclusive opens closes writes log) :
    Sections.Exclusive opens closes writes (log ++ extra) ∧
      ∀ c, Sections.IsOpen opens closes (log ++ extra) c →
        Sections.IsOpen opens closes log c := by
  induction extra generalizing log with
  | nil =>
      rw [List.append_nil]
      exact ⟨h, fun _ => id⟩
  | cons event rest ih =>
      obtain ⟨⟨hopens, -, hwrites⟩, hrest⟩ := List.forall_mem_cons.mp hextra
      obtain ⟨hexclusive, hopen⟩ := sections_concat hopens hwrites h
      obtain ⟨hall, hopenAll⟩ := ih hrest hexclusive
      rw [List.append_assoc, List.singleton_append] at hall hopenAll
      exact ⟨hall, fun c hc => (hopen c (hopenAll c hc)).1⟩

/-- Quiet steps keep the invariant. -/
theorem Exclusion.quiet {s t : Session κ} (h : s.Exclusion) (hquiet : Quiet s t) : t.Exclusion := by
  obtain ⟨extra, hlog, hextra⟩ := hquiet.log
  obtain ⟨hexclusive, hopen⟩ := sections_quiet hextra h.exclusive
  have hregistered : ∀ c n, SessionEvent.registered c n ∈ t.log → .registered c n ∈ s.log := by
    intro c n hmem
    rw [hlog] at hmem
    rcases List.mem_append.mp hmem with hold | hnew
    · exact hold
    · exact nomatch (hextra _ hnew).1
  have hlogged : ∀ event ∈ s.log, event ∈ t.log := fun event hmem => by
    rw [hlog]
    exact List.mem_append_left _ hmem
  constructor
  case dispatcher =>
    exact hquiet.dispatcher.wellFormed h.dispatcher
  case locked =>
    intro c call' hcall' hlocked
    rw [hquiet.lock]
    rcases hquiet.back hcall' with ⟨call, hcall, hfollows⟩ | ⟨-, hnew⟩
    · exact h.locked c call hcall (hfollows.locked ▸ hlocked)
    · rw [hnew.locked] at hlocked
      exact nomatch hlocked
  case pending =>
    intro item hmem
    rw [hquiet.lock]
    obtain ⟨hlock, call, wait, n, hcall, hresponse, hmatch, hn⟩ :=
      h.pending item (hquiet.dispatcher.pending.subset hmem)
    obtain ⟨call', hcall', hfollows⟩ := hquiet.kept _ call hcall
    exact ⟨hlock, call', wait, n, hcall', hfollows.response.trans hresponse, hmatch, hlogged _ hn⟩
  case created =>
    intro c hcreated
    rw [hquiet.lock]
    obtain ⟨call, hcall, hstate⟩ := h.created c ((hquiet.dispatcher.created c).mp hcreated)
    obtain ⟨call', hcall', hfollows⟩ := hquiet.kept c call hcall
    exact ⟨call', hcall', hstate.imp_left hfollows.ended.mpr⟩
  case registered =>
    intro c n hmem
    rw [hquiet.dispatcher.arrived]
    exact h.registered c n (hregistered c n hmem)
  case result =>
    intro c a hresult
    obtain ⟨call, wait, n, hcall, hresponse, haccepts, hn, hle⟩ :=
      h.result c a ((hquiet.dispatcher.results c a).mp hresult)
    obtain ⟨call', hcall', hfollows⟩ := hquiet.kept c call hcall
    exact ⟨call', wait, n, hcall', hfollows.response.trans hresponse, haccepts, hlogged _ hn, hle⟩
  case returned =>
    intro c call' a hcall' hreturned
    apply (hquiet.dispatcher.results c a).mpr
    rcases hquiet.back hcall' with ⟨call, hcall, hfollows⟩ | ⟨-, hnew⟩
    · exact h.returned c call a hcall (hfollows.returned a hreturned)
    · rcases hreturned with htask | hfuture
      · exact absurd htask (hnew.returned a).1
      · exact absurd hfuture (hnew.returned a).2
  case exclusive =>
    exact hlog ▸ hexclusive
  case isOpen =>
    intro c hc
    rw [hquiet.lock]
    exact h.isOpen c (hopen c (hlog ▸ hc))

/-! ## The steps of a transaction -/

theorem Exclusion.takeLock {s : Session κ} (h : s.Exclusion) (hfree : s.transactionLock = none)
    (c : Nat) : { s with transactionLock := some c }.Exclusion := by
  have hnot : ∀ d, s.transactionLock ≠ some d := fun d heq => by
    rw [hfree] at heq
    exact nomatch heq
  constructor
  case dispatcher =>
    exact h.dispatcher
  case locked =>
    exact fun d call hcall hlocked => absurd (h.locked d call hcall hlocked) (hnot d)
  case pending =>
    exact fun item hmem => absurd (h.pending item hmem).1 (hnot _)
  case created =>
    intro d hcreated
    obtain ⟨call, hcall, hended | hlock⟩ := h.created d hcreated
    · exact ⟨call, hcall, .inl hended⟩
    · exact absurd hlock (hnot d)
  case registered =>
    exact h.registered
  case result =>
    exact h.result
  case returned =>
    exact h.returned
  case exclusive =>
    exact h.exclusive
  case isOpen =>
    exact fun d hopen => absurd (h.isOpen d hopen) (hnot d)

theorem Exclusion.registerPending {s : Session κ} (h : s.Exclusion) {c : Nat} {call : Call κ}
    {wait : ResponseWait} (hlock : s.transactionLock = some c) (hcall : s.calls[c]? = some call)
    (hresponse : call.response = some wait) (hnew : s.dispatcher.futures c = none) :
    (s.registerPending c wait).Exclusion := by
  have hfutures : ∀ d, d ≠ c →
      (s.dispatcher.register c wait.responseMatch wait.publishMatch).futures d =
        s.dispatcher.futures d := fun d hne => Function.update_of_ne hne _ _
  have hself : (s.dispatcher.register c wait.responseMatch wait.publishMatch).futures c =
      some .waiting := Function.update_self _ _ _
  constructor
  case dispatcher =>
    exact h.dispatcher.register hnew wait.responseMatch wait.publishMatch
  case locked =>
    exact h.locked
  case pending =>
    intro item hmem
    rcases List.mem_append.mp hmem with hold | hlast
    · obtain ⟨hitem, call', wait', n, hcall', hresponse', hmatch, hn⟩ := h.pending item hold
      exact ⟨hitem, call', wait', n, hcall', hresponse', hmatch, List.mem_append_left _ hn⟩
    · rw [List.mem_singleton.mp hlast]
      exact ⟨hlock, call, wait, s.dispatcher.arrived, hcall, hresponse, rfl,
        List.mem_append_right _ (List.mem_singleton.mpr rfl)⟩
  case created =>
    intro d hcreated
    rcases eq_or_ne d c with rfl | hne
    · exact ⟨call, hcall, .inr hlock⟩
    · exact h.created d (by rwa [← hfutures d hne])
  case registered =>
    intro d n hmem
    rcases List.mem_append.mp hmem with hold | hlast
    · exact h.registered d n hold
    · cases List.mem_singleton.mp hlast
      exact le_rfl
  case result =>
    intro d a hresult
    rcases eq_or_ne d c with rfl | hne
    · rw [Session.registerPending, hself] at hresult
      exact nomatch hresult
    · obtain ⟨call', wait', n, hcall', hresponse', haccepts, hn, hle⟩ :=
        h.result d a (by rwa [← hfutures d hne])
      exact ⟨call', wait', n, hcall', hresponse', haccepts, List.mem_append_left _ hn, hle⟩
  case returned =>
    intro d call' a hcall' hreturned
    have hresult := h.returned d call' a hcall' hreturned
    have hne : d ≠ c := fun heq => by
      rw [heq, hnew] at hresult
      exact nomatch hresult
    exact (hfutures d hne).trans hresult
  case exclusive =>
    apply h.exclusive.concat
    exact fun i j hacts => nomatch hacts
  case isOpen =>
    intro d hopen
    rcases Sections.isOpen_concat hopen with hopens | ⟨hold, -⟩
    · cases hopens
      exact hlock
    · exact h.isOpen d hold

theorem Exclusion.wrote {s : Session κ} (h : s.Exclusion) {c : Nat}
    (hlock : s.transactionLock = some c) (call : Call κ) (message : TrpcPacket) :
    (s.wrote c call message).Exclusion := by
  have hkept : ∀ (d : Nat) (call' : Call κ), s.calls[d]? = some call' →
      ∃ call'' : Call κ, (s.wrote c call message).calls[d]? = some call'' ∧
        call''.response = call'.response ∧ (call'.phase = .ended → call''.phase = .ended ∨ d = c) := by
    intro d call' hcall'
    refine ⟨_, calls_modifyCall hcall' c _, ?_⟩
    split
    · rename_i heq
      exact ⟨rfl, fun _ => .inr heq.symm⟩
    · exact ⟨rfl, .inl⟩
  have hback : ∀ (d : Nat) (call'' : Call κ), (s.wrote c call message).calls[d]? = some call'' →
      ∃ call' : Call κ, s.calls[d]? = some call' ∧ (call''.phase.locked = true → call'.phase.locked = true ∨ d = c) ∧
        call''.task = call'.task ∧ call''.future = call'.future := by
    intro d call'' hcall''
    obtain ⟨call', hcall', heq⟩ := (calls_modifyCall_iff s c d _ _).mp hcall''
    refine ⟨call', hcall', ?_⟩
    subst heq
    split
    · rename_i heq
      exact ⟨fun _ => .inr heq.symm, rfl, rfl⟩
    · exact ⟨.inl, rfl, rfl⟩
  have hlogged : ∀ event ∈ s.log, event ∈ (s.wrote c call message).log := fun event hmem =>
    List.mem_append_left _ hmem
  constructor
  case dispatcher =>
    exact h.dispatcher
  case locked =>
    intro d call'' hcall'' hlocked
    obtain ⟨call', hcall', hphase, -⟩ := hback d call'' hcall''
    rcases hphase hlocked with hold | rfl
    · exact h.locked d call' hcall' hold
    · exact hlock
  case pending =>
    intro item hmem
    obtain ⟨hitem, call', wait, n, hcall', hresponse, hmatch, hn⟩ := h.pending item hmem
    obtain ⟨call'', hcall'', hsame, -⟩ := hkept _ call' hcall'
    exact ⟨hitem, call'', wait, n, hcall'', hsame.trans hresponse, hmatch, hlogged _ hn⟩
  case created =>
    intro d hcreated
    obtain ⟨call', hcall', hstate⟩ := h.created d hcreated
    obtain ⟨call'', hcall'', -, hended⟩ := hkept d call' hcall'
    refine ⟨call'', hcall'', ?_⟩
    rcases hstate with hend | hlocked
    · rcases hended hend with hstill | rfl
      · exact .inl hstill
      · exact .inr hlock
    · exact .inr hlocked
  case registered =>
    intro d n hmem
    rcases List.mem_append.mp hmem with hold | hlast
    · exact h.registered d n hold
    · exact nomatch List.mem_singleton.mp hlast
  case result =>
    intro d a hresult
    obtain ⟨call', wait, n, hcall', hresponse, haccepts, hn, hle⟩ := h.result d a hresult
    obtain ⟨call'', hcall'', hsame, -⟩ := hkept d call' hcall'
    exact ⟨call'', wait, n, hcall'', hsame.trans hresponse, haccepts, hlogged _ hn, hle⟩
  case returned =>
    intro d call'' a hcall'' hreturned
    obtain ⟨call', hcall', -, htask, hfuture⟩ := hback d call'' hcall''
    rw [htask, hfuture] at hreturned
    exact h.returned d call' a hcall' hreturned
  case exclusive =>
    apply h.exclusive.concat
    rintro i j ⟨⟩ hopen
    have hopen' := h.isOpen i hopen
    rw [hlock] at hopen'
    exact (Option.some.inj hopen').symm
  case isOpen =>
    intro d hopen
    rcases Sections.isOpen_concat hopen with hopens | ⟨hold, -⟩
    · exact nomatch hopens
    · exact h.isOpen d hold

/-- The end of a transaction, whether or not it had the lock. -/
theorem Exclusion.endTransaction {s : Session κ} (h : s.Exclusion) (c : Nat)
    {result : FutureState CallResult}
    (hresult : ∀ a, result = .result (.response a) → s.dispatcher.futures c = some (.result a)) :
    (s.endTransaction c result).Exclusion := by
  have hkept : ∀ (d : Nat) (call : Call κ), s.calls[d]? = some call →
      ∃ call' : Call κ, (s.endTransaction c result).calls[d]? = some call' ∧
        call'.response = call.response ∧ (call.phase = .ended ∨ d = c → call'.phase = .ended) := by
    intro d call hcall
    refine ⟨_, calls_modifyCall hcall c _, ?_⟩
    split
    · exact ⟨call.finish_response result, fun _ => call.finish_phase result⟩
    · rename_i hne
      exact ⟨rfl, fun hor => hor.resolve_right (Ne.symm hne)⟩
  have hback : ∀ (d : Nat) (call' : Call κ), (s.endTransaction c result).calls[d]? = some call' →
      ∃ call : Call κ, s.calls[d]? = some call ∧
        (if c = d then call.finish result else call) = call' :=
    fun d call' => (calls_modifyCall_iff s c d _ _).mp
  have hlock : ∀ d, s.transactionLock = some d → d ≠ c →
      (s.endTransaction c result).transactionLock = some d := by
    intro d hd hne
    simp only [Session.endTransaction]
    rw [if_neg (by rw [hd]; simpa using hne), hd]
  have hlogged : ∀ event ∈ s.log, event ∈ (s.endTransaction c result).log := fun event hmem =>
    List.mem_append_left _ hmem
  constructor
  case dispatcher =>
    exact h.dispatcher.removePending c
  case locked =>
    intro d call' hcall' hlocked
    obtain ⟨call, hcall, heq⟩ := hback d call' hcall'
    subst heq
    split at hlocked
    · rw [call.finish_phase result] at hlocked
      cases hlocked
    · rename_i hne
      exact hlock d (h.locked d call hcall hlocked) (Ne.symm hne)
  case pending =>
    intro item hmem
    have hold : item ∈ s.dispatcher.pending := List.mem_of_mem_eraseP hmem
    obtain ⟨hitem, call, wait, n, hcall, hresponse, hmatch, hn⟩ := h.pending item hold
    obtain ⟨call', hcall', hsame, -⟩ := hkept _ call hcall
    have hne : item.future ≠ c := h.dispatcher.future_ne hmem
    exact ⟨hlock _ hitem hne, call', wait, n, hcall', hsame.trans hresponse, hmatch, hlogged _ hn⟩
  case created =>
    intro d hcreated
    obtain ⟨call, hcall, hstate⟩ := h.created d hcreated
    obtain ⟨call', hcall', -, hended⟩ := hkept d call hcall
    refine ⟨call', hcall', ?_⟩
    rcases hstate with hend | hlocked
    · exact .inl (hended (.inl hend))
    · rcases eq_or_ne d c with rfl | hne
      · exact .inl (hended (.inr rfl))
      · exact .inr (hlock d hlocked hne)
  case registered =>
    intro d n hmem
    rcases List.mem_append.mp hmem with hold | hlast
    · exact h.registered d n hold
    · cases List.mem_singleton.mp hlast
  case result =>
    intro d a hfuture
    obtain ⟨call, wait, n, hcall, hresponse, haccepts, hn, hle⟩ := h.result d a hfuture
    obtain ⟨call', hcall', hsame, -⟩ := hkept d call hcall
    exact ⟨call', wait, n, hcall', hsame.trans hresponse, haccepts, hlogged _ hn, hle⟩
  case returned =>
    intro d call' a hcall' hreturned
    obtain ⟨call, hcall, heq⟩ := hback d call' hcall'
    subst heq
    split at hreturned
    · rename_i heq
      subst heq
      rcases Call.finish_returned hreturned with htask | hfuture | hres
      · exact h.returned c call a hcall (.inl htask)
      · exact h.returned c call a hcall (.inr hfuture)
      · exact hresult a hres
    · exact h.returned d call a hcall hreturned
  case exclusive =>
    apply h.exclusive.concat
    exact fun i j hacts => by cases hacts
  case isOpen =>
    intro d hopen
    rcases Sections.isOpen_concat hopen with hopens | ⟨hold, hcloses⟩
    · cases hopens
    · exact hlock d (h.isOpen d hold) fun heq => hcloses (by rw [heq]; rfl)

/-- A dispatched message goes to the one pending request, if at all. -/
theorem Exclusion.dispatchMessage {s : Session κ} (h : s.Exclusion) (message : TrpcPacket) :
    { s with dispatcher := s.dispatcher.dispatchMessage message }.Exclusion := by
  have hlater := Dispatcher.step_later h.dispatcher
    (a := .dispatch message) (t := s.dispatcher.dispatchMessage message) rfl
  have hpending := Dispatcher.dispatchMessage_pending message h.dispatcher
  have hresults : ∀ c a, (s.dispatcher.dispatchMessage message).futures c = some (.result a) →
      s.dispatcher.futures c = some (.result a) ∨
        a = s.dispatcher.arrival message ∧ ∃ item ∈ s.dispatcher.pending, item.future = c ∧
          item.responseMatch.accepts message = true := by
    intro c a hresult
    cases Dispatcher.dispatchMessage_conserved message h.dispatcher with
    | handed item first futures _ _ _ =>
        rw [futures, Dispatcher.update_eq_result_iff] at hresult
        rcases hresult with ⟨rfl, hhanded⟩ | ⟨-, hold⟩
        · cases hhanded
          have haccepts := List.find?_some first
          exact .inr ⟨rfl, item, (List.mem_filter.mp (List.mem_of_find?_eq_some first)).1, rfl,
            haccepts⟩
        · exact .inl hold
    | queued _ futures _ _ _ =>
        rw [futures] at hresult
        exact .inl hresult
  have hcreated : ∀ c, (s.dispatcher.dispatchMessage message).futures c ≠ none →
      s.dispatcher.futures c ≠ none := by
    intro c hnew
    cases Dispatcher.dispatchMessage_conserved message h.dispatcher with
    | handed item first futures _ _ _ =>
        rcases eq_or_ne c item.future with rfl | hne
        · exact h.dispatcher.created item
            (List.mem_filter.mp (List.mem_of_find?_eq_some first)).1
        · rwa [futures, Function.update_of_ne hne] at hnew
    | queued _ futures _ _ _ => rwa [futures] at hnew
  constructor
  case dispatcher =>
    exact h.dispatcher.dispatchMessage message
  case locked =>
    exact h.locked
  case pending =>
    exact fun item hmem => h.pending item (hpending.subset hmem)
  case created =>
    exact fun c hnew => h.created c (hcreated c hnew)
  case registered =>
    intro c n hmem
    exact (h.registered c n hmem).trans hlater.arrived_le
  case result =>
    intro c a hresult
    rcases hresults c a hresult with hold | ⟨rfl, item, hmem, rfl, haccepts⟩
    · exact h.result c a hold
    · obtain ⟨-, call, wait, n, hcall, hresponse, hmatch, hn⟩ := h.pending item hmem
      exact ⟨call, wait, n, hcall, hresponse, hmatch ▸ haccepts, hn, h.registered _ n hn⟩
  case returned =>
    exact fun c call a hcall hreturned =>
      hlater.result c a (h.returned c call a hcall hreturned)
  case exclusive =>
    exact h.exclusive
  case isOpen =>
    exact h.isOpen

/-- While the lock is free, a call whose transaction has not ended has no future yet. -/
theorem Exclusion.unregistered {s : Session κ} (h : s.Exclusion) {c : Nat} {call : Call κ}
    (hfree : s.transactionLock = none) (hcall : s.calls[c]? = some call)
    (hphase : call.phase ≠ .ended) : s.dispatcher.futures c = none := by
  by_contra hcreated
  obtain ⟨call', hcall', hended | hlock⟩ := h.created c hcreated
  · cases hcall.symm.trans hcall'
    exact hphase hended
  · rw [hfree] at hlock
    exact nomatch hlock

/-- The lock is free again, or the command is on its way. -/
theorem Exclusion.beginTransaction {s : Session κ} (h : s.Exclusion) {c : Nat} {call : Call κ}
    (hfree : s.transactionLock = none) (hcall : s.calls[c]? = some call)
    (hphase : call.phase = .acquiring) : (s.beginTransaction c call).Exclusion := by
  have hlocked := h.takeLock hfree c
  have hnew : s.dispatcher.futures c = none :=
    h.unregistered hfree hcall (by rw [hphase]; exact nofun)
  have hacquired : (s.acquired c call).Exclusion := by
    unfold acquired
    cases hresponse : call.response with
    | none => exact hlocked
    | some wait => exact hlocked.registerPending rfl hcall hresponse hnew
  unfold Session.beginTransaction
  split
  · exact hacquired.endTransaction c fun a ha => absurd ha (call.raised_ne_response _ a)
  · exact hacquired.wrote (s.acquired_transactionLock c call) call _

/-! ## Every step -/

section Step

variable [DecidableEq κ]

/-- Every step keeps transactions apart. -/
theorem Exclusion.step {s t : Session κ} (h : s.Exclusion) (hlinks : s.UpdateLinks)
    {action : SessionAction κ} (hstep : s.step action = some t) : t.Exclusion := by
  cases step_cases hlinks hstep with
  | quiet hquiet => exact h.quiet hquiet
  | dispatched hquiet message => exact (h.quiet hquiet).dispatchMessage message
  | began hquiet hfree hcall hphase => exact (h.quiet hquiet).beginTransaction hfree hcall hphase
  | ended _ _ _ hresponse => exact h.endTransaction _ hresponse

theorem exclusion_of_reachable {s : Session κ} (h : Machine.Reachable step Fresh s) :
    s.Exclusion := by
  have hinit : ∀ s : Session κ, s.Fresh → s.Exclusion ∧ s.UpdateLinks :=
    fun s hfresh => ⟨hfresh.exclusion, hfresh.updateLinks⟩
  have hpreserve : ∀ (s : Session κ) action t, s.Exclusion ∧ s.UpdateLinks →
      s.step action = some t → t.Exclusion ∧ t.UpdateLinks :=
    fun s action t hinv hstep => ⟨hinv.1.step hinv.2 hstep, hinv.2.step hstep⟩
  exact (h.invariant hinit hpreserve).1

/-- Transactions never overlap, in any state that any interleaving reaches. At
most one request is pending. No command is written between the registration and
the completion of another call. A response that a call returns was dispatched
after the call registered its match, satisfies it, and is no other call's. -/
theorem transactions_exclusive {s : Session κ} (h : Machine.Reachable step Fresh s) :
    s.dispatcher.pending.length ≤ 1 ∧
    (∀ first c n mid d key message last,
      s.log = first ++ .registered c n :: (mid ++ .wrote d key message :: last) →
        c = d ∨ .completed c ∈ mid) ∧
    ∀ (c : Nat) (call : Call κ) (a : Arrival), s.calls[c]? = some call →
      call.task = .result (.response a) →
        (∃ n, .registered c n ∈ s.log ∧ n ≤ a.index) ∧
        (∃ wait, call.response = some wait ∧ wait.responseMatch.accepts a.message = true) ∧
        ∀ (d : Nat) (other : Call κ) (b : Arrival), s.calls[d]? = some other →
          other.task = .result (.response b) → b.index = a.index → d = c := by
  have hinv := exclusion_of_reachable h
  refine ⟨?_, ?_, ?_⟩
  · -- every pending request belongs to the call that has the lock
    by_contra hmany
    obtain ⟨first, rest, hpending⟩ := List.exists_cons_of_length_pos
      (Nat.lt_trans Nat.zero_lt_one (Nat.not_le.mp hmany))
    obtain ⟨second, more, hrest⟩ := List.exists_cons_of_length_pos (l := rest) (by
      rw [hpending, List.length_cons] at hmany
      omega)
    have hfirst := (hinv.pending first (by simp [hpending])).1
    have hsecond := (hinv.pending second (by simp [hpending, hrest])).1
    have hdistinct := hinv.dispatcher.distinct
    rw [hpending, hrest] at hdistinct
    have hsame : first.future = second.future := Option.some.inj (hfirst.symm.trans hsecond)
    simp [hsame] at hdistinct
  · intro first c n mid d key message last hlog
    rcases hinv.exclusive first _ mid _ last c d hlog rfl rfl with hsame | ⟨event, hmem, hcloses⟩
    · exact .inl hsame
    · cases event with
      | completed e =>
          cases hcloses
          exact .inr hmem
      | submitted | popped | registered | wrote => exact nomatch hcloses
  · intro c call a hcall htask
    have hresult := hinv.returned c call a hcall (.inl htask)
    obtain ⟨call', wait, n, hcall', hresponse, haccepts, hn, hle⟩ := hinv.result c a hresult
    cases hcall.symm.trans hcall'
    refine ⟨⟨n, hn, hle⟩, ⟨wait, hresponse, haccepts⟩, ?_⟩
    intro d other b hother hotherTask hindex
    have hotherResult := hinv.returned d other b hother (.inl hotherTask)
    exact hinv.dispatcher.result_unique d c b a hotherResult hresult hindex

/-- A request for a temperature while an update waits for the lock, and the
response. -/
def sampleRequests : List (SessionAction Nat) :=
  [.opened,
    .start (.requestResponse (.request .currentTemperature (addressFields 1011)) none true),
    .start (.coalescedUpdate (.update .reportingState (reportingStateFields true)) 0),
    .pop,
    .onCall 0 .written,
    .packet { type := 6, data := [4, 0x37, 1, 0, 0, 0xF3, 3, 0xC6, 2] },
    .onCall 0 .resume]

theorem transactions_exclusive_sample :
    ∃ (s : Session Nat) (call : Call Nat) (a : Arrival), Machine.Run step {} sampleRequests s ∧
      s.calls[0]? = some call ∧ call.task = .result (.response a) ∧
      s.dispatcher.pending.length ≤ 1 ∧ ∃ n, .registered 0 n ∈ s.log ∧ n ≤ a.index := by
  have hfresh : Fresh ({} : Session Nat) :=
    ⟨⟨rfl, fun _ => rfl, rfl, rfl, rfl⟩, rfl, rfl, rfl, rfl, rfl, rfl, rfl, rfl, rfl⟩
  have hrun : ∃ (s : Session Nat) (call : Call Nat) (a : Arrival),
      Machine.Run step {} sampleRequests s ∧ s.calls[0]? = some call ∧
        call.task = .result (.response a) :=
    ⟨_, _, _, Machine.run_iff_exec.mpr rfl, rfl, rfl⟩
  obtain ⟨s, call, a, hrun, hcall, htask⟩ := hrun
  obtain ⟨hpending, -, hreturned⟩ := transactions_exclusive ⟨_, _, hfresh, hrun⟩
  exact ⟨s, call, a, hrun, hcall, htask, hpending, (hreturned 0 call a hcall htask).1⟩

end Step

end Session

end Tekmar482
