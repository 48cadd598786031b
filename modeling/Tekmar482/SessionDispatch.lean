import Tekmar482.ReportQueues
import Tekmar482.SessionProgress

/-!
# The dispatcher of a session

A run of a session is a run of its dispatcher, which dispatches the messages of the packets in
their order. A request is registered for the call that has its number, and publishes its
response exactly if the call is an update that waits for a response.
-/

namespace Tekmar482

/-- The message that a step of a dispatcher dispatches. -/
def DispatcherAction.dispatched? : DispatcherAction → Option TrpcPacket
  | .dispatch message => some message
  | _ => none

/-- The message of a packet, if it is one. -/
def Packet.dispatched? (self : Packet) : Option TrpcPacket :=
  if self.type = Packet.TYPE_TRPC then (TrpcPacket.fromPacket self).toOption else none

namespace SessionAction

variable {κ : Type}

/-- The message that a step of a session dispatches. -/
def dispatched? : SessionAction κ → Option TrpcPacket
  | .packet observed => observed.dispatched?
  | _ => none

/-- The call that a step of a session starts. -/
def request? : SessionAction κ → Option (SessionRequest κ)
  | .start request => some request
  | _ => none

end SessionAction

namespace SessionRequest

variable {κ : Type}

/-- Whether report subscribers are offered the response of a call. -/
def publishMatch : SessionRequest κ → Bool
  | .updateResponse _ _ _ | .coalescedUpdateResponse _ _ _ _ => true
  | .send _ | .requestResponse _ _ _ | .coalescedUpdate _ _ => false

theorem publishMatch_of_create {request : SessionRequest κ} {wait : ResponseWait}
    (h : (Call.create request).response = some wait) :
    wait.publishMatch = request.publishMatch := by
  cases request <;> cases h <;> rfl

end SessionRequest

/-- The session call that a call of the client is. -/
def SessionCall.sessionRequest? (hasTimeout : Bool) :
    SessionCall → Option (SessionRequest (List Int))
  | .send command => some (.send command)
  | .requestResponse command responseMatch =>
      some (.requestResponse command (some responseMatch) hasTimeout)
  | .updateResponse command responseMatch =>
      some (.updateResponse command (some responseMatch) hasTimeout)
  | .open | .close | .isOpen | .readUntil _ | .deadlineExpired => none

/-- What a task of the controller registers is what the session registers for its call. -/
theorem SessionCall.request_eq (call : SessionCall) (hasTimeout : Bool) :
    call.request = (call.sessionRequest? hasTimeout).bind fun request =>
      (Call.create request).response.map fun wait => (wait.responseMatch, wait.publishMatch) := by
  cases call <;> rfl

/-! ## The steps of the dispatcher -/

namespace Dispatcher

variable {s t u : Dispatcher} {responses : List (Option ResponseWait)}
  {messages : List TrpcPacket}

/-- What is pending after a run was pending before, or has been registered. -/
theorem registered_of_run (h : s.WellFormed) {steps : List DispatcherAction}
    (hrun : Machine.Run step s steps t) {item : PendingRequest} (hmem : item ∈ t.pending) :
    item ∈ s.pending ∨ .register item.future item.responseMatch item.publishMatch ∈ steps := by
  induction hrun with
  | nil s => exact .inl hmem
  | cons _ hstep _ ih =>
      rcases ih (h.step hstep) hmem with hmid | hlater
      · rcases step_keeps hstep with ⟨message, rfl, rfl⟩ | ⟨future, _, _, rfl, -, rfl⟩ | hkeeps
        · exact .inl ((dispatchMessage_pending message h).subset hmid)
        · rcases List.mem_append.mp hmid with hold | hnew
          · exact .inl hold
          · rw [List.mem_singleton.mp hnew]
            exact .inr List.mem_cons_self
        · exact .inl (hkeeps.pending hmid)
      · exact .inr (List.mem_cons_of_mem _ hlater)

/-- Some steps lead from one state of a dispatcher to another. They dispatch these messages,
and register only what calls with these responses wait for. -/
def Advances (responses : List (Option ResponseWait)) (before : Dispatcher)
    (messages : List TrpcPacket) (after : Dispatcher) : Prop :=
  ∃ steps, Machine.Run step before steps after ∧
    steps.filterMap DispatcherAction.dispatched? = messages ∧
    ∀ c responseMatch publishMatch, .register c responseMatch publishMatch ∈ steps →
      ∃ hasTimeout, responses[c]? = some (some ⟨responseMatch, publishMatch, hasTimeout⟩)

theorem Advances.refl (responses : List (Option ResponseWait)) (s : Dispatcher) :
    Advances responses s [] s :=
  ⟨[], .nil s, rfl, fun _ _ _ hmem => absurd hmem List.not_mem_nil⟩

/-- One step that registers nothing. -/
theorem Advances.single {action : DispatcherAction} (hstep : s.step action = some t)
    (hregister : ∀ c responseMatch publishMatch, action ≠ .register c responseMatch publishMatch) :
    Advances responses s action.dispatched?.toList t := by
  refine ⟨[action], .cons trivial hstep (.nil t), ?_, ?_⟩
  · rw [List.filterMap_eq_flatMap_toList, List.flatMap_singleton]
  · intro c responseMatch publishMatch hmem
    exact absurd (List.mem_singleton.mp hmem).symm (hregister c responseMatch publishMatch)

theorem Advances.register {c : Nat} {wait : ResponseWait} (hnew : s.futures c = none)
    (hwait : responses[c]? = some (some wait)) :
    Advances responses s [] (s.register c wait.responseMatch wait.publishMatch) := by
  refine ⟨[.register c wait.responseMatch wait.publishMatch], .cons trivial (if_pos hnew) (.nil _),
    rfl, ?_⟩
  intro d responseMatch publishMatch hmem
  cases List.mem_singleton.mp hmem
  exact ⟨wait.hasTimeout, hwait⟩

theorem Advances.trans {later : List TrpcPacket} (h : Advances responses s messages u)
    (h' : Advances responses u later t) : Advances responses s (messages ++ later) t := by
  obtain ⟨first, hfirst, rfl, hregister⟩ := h
  obtain ⟨second, hsecond, rfl, hregister'⟩ := h'
  refine ⟨first ++ second, hfirst.append hsecond, List.filterMap_append, ?_⟩
  intro c responseMatch publishMatch hmem
  exact (List.mem_append.mp hmem).elim (hregister c _ _) (hregister' c _ _)

/-- More calls can have started. -/
theorem Advances.append (h : Advances responses s messages t)
    (started : List (Option ResponseWait)) : Advances (responses ++ started) s messages t := by
  obtain ⟨steps, hrun, hmessages, hregister⟩ := h
  refine ⟨steps, hrun, hmessages, fun c responseMatch publishMatch hmem => ?_⟩
  obtain ⟨hasTimeout, hwait⟩ := hregister c responseMatch publishMatch hmem
  refine ⟨hasTimeout, ?_⟩
  rw [List.getElem?_append_left (List.getElem?_eq_some_iff.mp hwait).1, hwait]

end Dispatcher

/-! ## The steps of the session -/

namespace Session

variable {κ : Type} {s t u : Session κ} {messages : List TrpcPacket}
  {started : List (Option ResponseWait)}

/-- What the calls of a session wait for after their writes, by their numbers. -/
def responses (self : Session κ) : List (Option ResponseWait) := self.calls.map Call.response

/-- What some steps of a session do: these calls start, and the dispatcher advances. -/
structure Drives (s : Session κ) (started : List (Option ResponseWait))
    (messages : List TrpcPacket) (t : Session κ) : Prop where
  responses : t.responses = s.responses ++ started
  dispatcher : s.dispatcher.Advances t.responses messages t.dispatcher

namespace Drives

/-- Steps that concern neither the calls nor the dispatcher. -/
theorem of_same (hcalls : t.calls = s.calls) (hdispatcher : t.dispatcher = s.dispatcher) :
    Drives s [] [] t where
  responses := by rw [Session.responses, hcalls, List.append_nil, Session.responses]
  dispatcher := hdispatcher ▸ .refl _ _

theorem refl (s : Session κ) : Drives s [] [] s := of_same rfl rfl

theorem trans {startedLater : List (Option ResponseWait)} {later : List TrpcPacket}
    (h : Drives s started messages u) (h' : Drives u startedLater later t) :
    Drives s (started ++ startedLater) (messages ++ later) t where
  responses := by rw [h'.responses, h.responses, List.append_assoc]
  dispatcher := by
    have hbefore := h.dispatcher.append startedLater
    rw [← h'.responses] at hbefore
    exact hbefore.trans h'.dispatcher

/-- A step of the dispatcher that registers nothing. -/
theorem single (action : DispatcherAction) {after : Dispatcher}
    (hstep : s.dispatcher.step action = some after)
    (hregister : ∀ c responseMatch publishMatch,
      action ≠ .register c responseMatch publishMatch) :
    Drives s [] action.dispatched?.toList { s with dispatcher := after } where
  responses := (List.append_nil _).symm
  dispatcher := .single hstep hregister

theorem modifyCall (s : Session κ) (c : Nat) {f : Call κ → Call κ}
    (hf : ∀ call, (f call).response = call.response) : Drives s [] [] (s.modifyCall c f) where
  responses := by
    rw [List.append_nil]
    apply List.ext_getElem?
    intro d
    simp only [Session.responses, Session.modifyCall, List.getElem?_map, List.getElem?_modify]
    cases s.calls[d]? with
    | none => rfl
    | some call =>
        change some (Call.response (if c = d then f call else call)) = some call.response
        split
        · rw [hf call]
        · rfl
  dispatcher := .refl _ _

theorem append (s : Session κ) (call : Call κ) :
    Drives s [call.response] [] { s with calls := s.calls ++ [call] } where
  responses := List.map_append
  dispatcher := .refl _ _

theorem endTransaction (s : Session κ) (c : Nat) (result : FutureState CallResult) :
    Drives s [] [] (s.endTransaction c result) := by
  have hcalls := modifyCall s c fun call => call.finish_response result
  have hremoved : Drives _ [] [] _ :=
    single (s := s.modifyCall c fun call => call.finish result) (.remove c) rfl nofun
  exact (hcalls.trans hremoved).trans (of_same rfl rfl)

/-- The request of the call is registered, if it waits for a response. -/
theorem acquired {c : Nat} {call : Call κ} (hcall : s.calls[c]? = some call)
    (hnew : s.dispatcher.futures c = none) : Drives s [] [] (s.acquired c call) := by
  unfold Session.acquired
  cases hresponse : call.response with
  | none => exact of_same rfl rfl
  | some wait =>
      refine ⟨(List.append_nil _).symm, .register hnew ?_⟩
      change (s.calls.map Call.response)[c]? = _
      rw [List.getElem?_map, hcall, Option.map_some, hresponse]

theorem beginTransaction {c : Nat} {call : Call κ} (hcall : s.calls[c]? = some call)
    (hnew : s.dispatcher.futures c = none) : Drives s [] [] (s.beginTransaction c call) := by
  have hacquired := acquired hcall hnew
  unfold Session.beginTransaction
  split
  · exact hacquired.trans (endTransaction _ c _)
  · have hwriting := modifyCall (s.acquired c call) c
      (f := fun call => { call with phase := .writing ‹_› }) fun _ => rfl
    exact (hacquired.trans hwriting).trans (of_same rfl rfl)

theorem interrupt (s : Session κ) (c : Nat) (call : Call κ) :
    Drives s [] [] (s.interrupt c call) := by
  have hcalls := modifyCall s c (f := fun call => { call with interrupted := true }) fun _ => rfl
  refine hcalls.trans ?_
  unfold Session.interrupt
  split
  · exact single (.cancel c) rfl nofun
  · exact of_same rfl rfl

theorem cancelCall (s : Session κ) (c : Nat) (call : Call κ) :
    Drives s [] [] (s.cancelCall c call) := by
  unfold Session.cancelCall
  split
  · exact (interrupt s c call).trans (modifyCall _ c fun _ => rfl)
  · exact modifyCall s c fun call => call.settle_response .cancelled

theorem failCoalescedUpdates (s : Session κ) (err : PyException) :
    Drives s [] [] (s.failCoalescedUpdates err) where
  responses := by
    rw [List.append_nil]
    apply List.ext_getElem?
    intro c
    simp only [Session.responses, Session.failCoalescedUpdates, List.getElem?_map,
      List.getElem?_mapIdx, Option.map_map]
    congr 1
    funext call
    simp only [Function.comp_apply]
    split
    · exact call.settle_response _
    · rfl
  dispatcher := .refl _ _

theorem setReaderError (s : Session κ) (err : PyException) :
    Drives s [] [] (s.setReaderError err) := by
  have hfailed : Drives _ [] [] _ :=
    single (s := s.failCoalescedUpdates err) (.setReaderError err) rfl nofun
  exact ((failCoalescedUpdates s err).trans hfailed).trans (of_same rfl rfl)

/-- The message of a packet is dispatched. -/
theorem dispatchPacket (s : Session κ) (packet : Packet) :
    Drives s [] packet.dispatched?.toList (s.dispatchPacket packet) := by
  have hobserved : Drives s [] [] { s with dispatcher := s.dispatcher.observePacket packet } :=
    single (.observe packet) rfl nofun
  unfold Session.dispatchPacket Packet.dispatched?
  split
  · cases TrpcPacket.fromPacket packet with
    | error err => exact hobserved.trans (setReaderError _ err)
    | ok message => exact hobserved.trans (single (.dispatch message) rfl nofun)
  · exact hobserved

theorem cancelWriter (s : Session κ) : Drives s [] [] s.cancelWriter := by
  unfold Session.cancelWriter
  split
  · split
    · exact of_same rfl rfl
    · exact (interrupt s _ _).trans (of_same rfl rfl)
  · exact of_same rfl rfl

theorem hold (s : Session κ) (key : κ) (c : Nat) (rest : OrderedDict κ Nat) :
    Drives s [] [] ((s.popped key c rest).hold c) := by
  have hpopped : Drives s [] [] (s.popped key c rest) := of_same rfl rfl
  have hcalls := modifyCall (s.popped key c rest) c
    (f := fun call => { call with phase := .acquiring }) fun _ => rfl
  exact (hpopped.trans hcalls).trans (of_same rfl rfl)

theorem failOutstanding (s : Session κ) : Drives s [] [] s.failOutstanding := by
  have hpending (err : PyException) : Drives _ [] [] _ :=
    single (s := s.failCoalescedUpdates err) (.failPending err) rfl nofun
  have hended (u : Session κ) : Drives u [] [] _ :=
    single (.endReports .stop) rfl nofun
  exact (((failCoalescedUpdates s _).trans (hpending _)).trans (hended _)).trans (of_same rfl rfl)

section

variable [DecidableEq κ]

theorem submit (s : Session κ) (key : κ) (c : Nat) : Drives s [] [] (s.submit key c) := by
  unfold Session.submit
  cases s.coalescedUpdates.get? key with
  | none => exact of_same rfl rfl
  | some previous =>
      have hcalls := modifyCall s previous fun call => call.settle_response (.result .nothing)
      exact hcalls.trans (of_same rfl rfl)

theorem startCall (h : s.Exclusion) (request : SessionRequest κ) :
    Drives s [(Call.create request).response] [] (s.startCall request) := by
  have hcreated := append s (Call.create request)
  simp only [Session.startCall]
  split
  · split
    · exact hcreated
    · refine hcreated.trans (beginTransaction List.getElem?_concat_length ?_)
      -- a new call has no future yet
      by_contra hfuture
      obtain ⟨call, hcall, -⟩ := h.created s.calls.length hfuture
      exact absurd (List.getElem?_eq_some_iff.mp hcall).1 (Nat.lt_irrefl _)
  · split
    · rename_i err _
      exact append s { Call.create request with phase := .ended, task := .exception err }
    · exact hcreated.trans (submit _ _ _)

theorem popUpdate (h : s.Sound) (hpopped : Popped s t) : Drives s [] [] t := by
  cases hpopped with
  | skipped => exact of_same rfl rfl
  | held => exact hold s _ _ _
  | @began key c rest call _ hpop hcall _ hfree =>
      have hacquiring := calls_modifyCall_self (s := s.popped key c rest) (fun call =>
        { call with phase := .acquiring }) hcall
      have hqueued := (h.links.popped hpop hcall).2
      have hnew : s.dispatcher.futures c = none :=
        h.exclusion.unregistered (not_contended (ne_true_of_eq_false hfree)).1 hcall
          (by rw [hqueued]; exact nofun)
      exact (hold s key c rest).trans (beginTransaction hacquiring hnew)

theorem callStep (h : s.Exclusion) {c : Nat} {call : Call κ} (hcall : s.calls[c]? = some call)
    {action : CallAction} (hstepped : CallStepped s c call action t) : Drives s [] [] t := by
  cases hstepped with
  | acquire hphase _ hfree =>
      exact beginTransaction hcall (h.unregistered hfree hcall (by rw [hphase]; exact nofun))
  | written | writeFails | resume => exact endTransaction s c _
  | awaits => exact modifyCall s c fun _ => rfl
  | timeout =>
      have hcalls := modifyCall s c (f := fun call => { call with timedOut := true }) fun _ => rfl
      exact hcalls.trans (single (.cancel c) rfl nofun)
  | cancel => exact cancelCall s c call
  | @resumeCaller key =>
      have hremoved : Drives s [] []
          (if call.wakeup = .cancelled then s.removeCoalescedUpdate key c else s) := by
        split
        · unfold removeCoalescedUpdate
          split <;> exact of_same rfl rfl
        · exact refl s
      exact hremoved.trans (modifyCall _ c fun _ => rfl)

/-- What one step does: at most one call starts, and the dispatcher takes some steps. -/
theorem step (h : s.Sound) {action : SessionAction κ} (hstep : s.step action = some t) :
    Drives s (action.request?.toList.map fun request => (Call.create request).response)
      action.dispatched?.toList t := by
  cases Stepped.of_step hstep with
  | start request => exact startCall h.exclusion request
  | onCall hcall hstepped => exact callStep h.exclusion hcall hstepped
  | pop hpopped => exact popUpdate h hpopped
  | writerReturns => exact of_same rfl rfl
  | packet => exact dispatchPacket s _
  | readerFails => exact setReaderError s _
  | @backlog action _ hreader hread =>
      have hnone : action.dispatched? = none := by
        cases action <;> first | rfl | cases hreader
      have hregister : ∀ c responseMatch publishMatch,
          action ≠ .register c responseMatch publishMatch := by
        rintro c responseMatch publishMatch rfl
        cases hreader
      have hsingle := single action hread hregister
      rw [hnone] at hsingle
      exact hsingle
  | opened => exact (single .opened rfl nofun).trans (of_same rfl rfl)
  | close => exact (single .closing rfl nofun).trans (of_same rfl rfl)
  | cancelWriter => exact (cancelWriter s).trans (of_same rfl rfl)
  | failOutstanding => exact (failOutstanding s).trans (of_same rfl rfl)

end

end Drives

/-! ## The runs of the session -/

section

variable [DecidableEq κ] {actions : List (SessionAction κ)}

theorem drives_run (h : s.Sound) (hrun : Machine.Run step s actions t) :
    Drives s ((actions.filterMap SessionAction.request?).map fun request =>
        (Call.create request).response) (actions.filterMap SessionAction.dispatched?) t := by
  induction hrun with
  | nil s => exact .refl s
  | @cons s u t action rest _ hstep _ ih =>
      have hdrives := (Drives.step h hstep).trans (ih (h.step hstep))
      rw [← List.map_append] at hdrives
      rwa [List.filterMap_eq_flatMap_toList, List.filterMap_eq_flatMap_toList, List.flatMap_cons,
        List.flatMap_cons, ← List.filterMap_eq_flatMap_toList, ← List.filterMap_eq_flatMap_toList]

/-- A run of a session is a run of its dispatcher, which dispatches the messages of the packets
in their order. It registers a request for the call with its number, and the response of an
update is published. -/
theorem dispatcher_run (hfresh : s.Fresh) (hrun : Machine.Run step s actions t) :
    ∃ steps, Machine.Run Dispatcher.step s.dispatcher steps t.dispatcher ∧
      steps.filterMap DispatcherAction.dispatched? =
        actions.filterMap SessionAction.dispatched? ∧
      ∀ c responseMatch publishMatch, .register c responseMatch publishMatch ∈ steps →
        ∃ request hasTimeout, (actions.filterMap SessionAction.request?)[c]? = some request ∧
          (Call.create request).response = some ⟨responseMatch, publishMatch, hasTimeout⟩ ∧
          publishMatch = request.publishMatch := by
  obtain ⟨hresponses, steps, hsteps, hmessages, hregister⟩ := drives_run hfresh.sound hrun
  refine ⟨steps, hsteps, hmessages, fun c responseMatch publishMatch hmem => ?_⟩
  obtain ⟨hasTimeout, hwait⟩ := hregister c responseMatch publishMatch hmem
  have hcalls : s.responses = [] := by rw [responses, hfresh.2.2.2.1, List.map_nil]
  rw [hresponses, hcalls, List.nil_append, List.getElem?_map, Option.map_eq_some_iff] at hwait
  obtain ⟨request, hrequest, hresponse⟩ := hwait
  exact ⟨request, hasTimeout, hrequest, hresponse, SessionRequest.publishMatch_of_create hresponse⟩

/-- A pending request is the one of the call that has its number, and publishes its response
exactly if this call is an update. -/
theorem pending_publishMatch (hfresh : s.Fresh) (hrun : Machine.Run step s actions t)
    {item : PendingRequest} (hmem : item ∈ t.dispatcher.pending) :
    ∃ request, (actions.filterMap SessionAction.request?)[item.future]? = some request ∧
      item.publishMatch = request.publishMatch := by
  obtain ⟨steps, hsteps, -, hregister⟩ := dispatcher_run hfresh hrun
  have hregistered := Dispatcher.registered_of_run hfresh.1.wellFormed hsteps hmem
  rw [hfresh.1.1] at hregistered
  obtain ⟨request, -, hrequest, -, hpublish⟩ :=
    hregister _ _ _ (hregistered.resolve_left List.not_mem_nil)
  exact ⟨request, hrequest, hpublish⟩

/-- A message is offered to the report subscribers, unless it goes to a call that is no update. -/
theorem publishes_iff (hfresh : s.Fresh) (hrun : Machine.Run step s actions t)
    (message : TrpcPacket) : t.dispatcher.publishes message = true ↔
      ∀ item, (t.dispatcher.offerLoop message t.dispatcher.pending t.dispatcher.pending).2 =
          some item →
        ∃ request, (actions.filterMap SessionAction.request?)[item.future]? = some request ∧
          request.publishMatch = true := by
  unfold Dispatcher.publishes
  cases hitem : (t.dispatcher.offerLoop message t.dispatcher.pending t.dispatcher.pending).2 with
  | none => simp
  | some item =>
      obtain ⟨request, hrequest, hpublish⟩ :=
        pending_publishMatch hfresh hrun (Dispatcher.offerLoop_some hitem).1
      simp [hrequest, hpublish]

/-- What holds of every reachable dispatcher holds of the one of a reachable session. -/
theorem reachable_dispatcher (h : Machine.Reachable step Fresh s) :
    Machine.Reachable Dispatcher.step Dispatcher.Fresh s.dispatcher := by
  obtain ⟨start, actions, hfresh, hrun⟩ := h
  obtain ⟨steps, hsteps, -⟩ := dispatcher_run hfresh hrun
  exact ⟨start.dispatcher, steps, hfresh.1, hsteps⟩

end

end Session

end Tekmar482
