import Tekmar482.Lifecycle
import Tekmar482.StateRegisters

/-!
# The discovery and the state

A rediscovery stores its discovery before the poll, and the state with its own copy of it
after the poll. A view of a method records whether it is between the two, and which messages
the state has taken since the method was called. Each call that the method makes keeps what the
view says.
-/

namespace Tekmar482

namespace ControllerObject

/-- The discovery is the one of the state, if there is a state. -/
def Agrees (self : ControllerObject) : Prop :=
  ∀ state, self.state = some state → self.discovery = some state.discovery

variable {object object' : ControllerObject}

/-- A controller that has no state yet. -/
theorem Agrees.stateless (h : object.state = none) : object.Agrees := by
  intro state hstate
  cases h.symm.trans hstate

/-- Only the discovery and the one of the state count. -/
theorem agrees_congr (hdiscovery : object'.discovery = object.discovery)
    (hstate : object'.state.map Tekmar482State.discovery =
      object.state.map Tekmar482State.discovery) :
    object'.Agrees ↔ object.Agrees := by
  have hiff (self : ControllerObject) : self.Agrees ↔
      ∀ discovery, self.state.map Tekmar482State.discovery = some discovery →
        self.discovery = some discovery := by
    rw [Agrees]
    cases self.state <;> simp
  rw [hiff, hiff, hdiscovery, hstate]

theorem stateDiscovery_took (object : ControllerObject) (messages : List TrpcPacket) :
    (object.took messages).state.map Tekmar482State.discovery =
      object.state.map Tekmar482State.discovery := by
  rw [took, Option.map_map]
  exact congrArg (Option.map · object.state)
    (funext fun state => Tekmar482State.discovery_applyMessages state messages)

/-- Taking messages leaves the discovery and that of the state. -/
theorem agrees_took (object : ControllerObject) (messages : List TrpcPacket) :
    (object.took messages).Agrees ↔ object.Agrees :=
  agrees_congr rfl (stateDiscovery_took object messages)

theorem took_append (object : ControllerObject) (messages messages' : List TrpcPacket) :
    object.took (messages ++ messages') = (object.took messages).took messages' := by
  simp only [took, Option.map_map]
  refine congrArg (fun state => { object with state }) (congrArg (Option.map · object.state) ?_)
  exact funext fun state => List.foldl_append

end ControllerObject

/-- Whether a call writes the discovery or the state. -/
def LifecycleCall.writes : LifecycleCall → Bool
  | .controller (.setDiscovery _) | .controller (.setState _) | .controller (.applyMessage _)
  | .applyReport _ => true
  | _ => false

/-- What a method of the controller has done to the discovery and the state: whether a discovery
other than that of the state was stored, and the state not replaced since, and whether the method
has stored anything new at all. -/
structure DiscoveryView where
  object : ControllerObject
  before : ControllerObject := object
  taken : List TrpcPacket := []
  changed : Bool := false
  stored : Bool := false

namespace DiscoveryView

def after (self : DiscoveryView) (object : ControllerObject) (messages : List TrpcPacket) :
    LifecycleCall → DiscoveryView
  | .controller (.setDiscovery discovery) =>
      { self with
        object := object
        changed := self.object.state.any fun state => state.discovery ≠ discovery
        stored := self.stored || self.object.discovery ≠ some discovery }
  | .controller (.setState _) => { self with object := object, changed := false, stored := true }
  | .controller (.applyMessage _) | .applyReport _ =>
      { self with object := object, stored := true }
  | _ => { self with object := object, taken := self.taken ++ messages }

end DiscoveryView

/-- The calls of a method, and the replies they may get. -/
def discoveryContract :
    Routine.Contract LifecycleCall LifecycleReply PyException DiscoveryView where
  requires _ _ := True
  answers view call reply view' := ∃ messages object,
    view.object.Answers call reply messages object ∧ view' = view.after object messages call

namespace DiscoveryView

/-! ## What the view says -/

/-- The discovery is that of the state exactly outside the window between the two writes, and a
method that has stored nothing new has changed neither. -/
structure Tracked (view : DiscoveryView) : Prop where
  agrees : view.object.Agrees ↔ view.changed = false
  discovery : view.stored = false → view.object.discovery = view.before.discovery
  state : view.stored = false → view.object.state = (view.before.took view.taken).state

variable {view view' : DiscoveryView}

@[simp] theorem after_object (object : ControllerObject) (messages : List TrpcPacket)
    (call : LifecycleCall) : (view.after object messages call).object = object := by
  cases call with
  | controller call => cases call <;> rfl
  | _ => rfl

theorem after_reads {call : LifecycleCall} (hcall : call.writes = false)
    (object : ControllerObject) (messages : List TrpcPacket) :
    view.after object messages call =
      { view with object := object, taken := view.taken ++ messages } := by
  cases call with
  | controller call => cases call <;> first | rfl | cases hcall
  | _ => first | rfl | cases hcall

/-- Reading an attribute, or setting one of the others. -/
theorem access_reads {object next : ControllerObject} {call : LifecycleCall}
    {value : LifecycleReply call} (hcall : call.writes = false)
    (haccess : object.access call = some (value, next)) :
    next.discovery = object.discovery ∧ next.state = object.state := by
  cases call with
  | controller call => cases call <;> first | (cases haccess <;> exact ⟨rfl, rfl⟩) | cases hcall
  | _ => first | (cases haccess <;> exact ⟨rfl, rfl⟩) | cases hcall

/-- A call that writes neither leaves both, but for the messages that the state takes. -/
theorem answers_reads {object next : ControllerObject} {call : LifecycleCall}
    {reply : Except PyException (LifecycleReply call)} {messages : List TrpcPacket}
    (hcall : call.writes = false) (hanswers : object.Answers call reply messages next) :
    next.discovery = object.discovery ∧ next.state = (object.took messages).state := by
  rw [ControllerObject.Answers] at hanswers
  split at hanswers
  · rename_i value after haccess
    obtain ⟨-, rfl, rfl⟩ := hanswers
    obtain ⟨hdiscovery, hstate⟩ := access_reads hcall haccess
    exact ⟨hdiscovery, hstate.trans (Option.map_id' (x := object.state)).symm⟩
  · obtain ⟨rfl, -⟩ := hanswers
    exact ⟨rfl, rfl⟩

/-- A report that is applied to the state leaves its discovery. -/
theorem answers_applyReport {object next : ControllerObject} {message : TrpcPacket}
    {reply : Except PyException Bool} {messages : List TrpcPacket}
    (hanswers : object.Answers (.applyReport message) reply messages next) :
    next.discovery = object.discovery ∧
      next.state.map Tekmar482State.discovery = object.state.map Tekmar482State.discovery := by
  obtain ⟨running, discovery, state, reportTask, lastError⟩ := object
  cases state with
  | none =>
      obtain ⟨-, -, rfl⟩ := hanswers
      exact ⟨rfl, rfl⟩
  | some state =>
      obtain ⟨-, -, rfl⟩ := hanswers
      exact ⟨rfl, congrArg some (state.discovery_applyMessage message)⟩

/-- Storing a discovery opens the window if it is not that of the state. -/
theorem agrees_setDiscovery (object : ControllerObject) (discovery : DiscoveryResult) :
    ({ object with discovery := some discovery } : ControllerObject).Agrees ↔
      (object.state.any fun state => state.discovery ≠ discovery) = false := by
  rw [ControllerObject.Agrees]
  cases object.state with
  | none => simp
  | some state =>
      rw [Option.any_some, decide_eq_false_iff_not, not_not]
      constructor
      · exact fun h => (Option.some.inj (h state rfl)).symm
      · rintro rfl _ ⟨⟩
        rfl

/-- Replacing the state closes the window. -/
theorem agrees_setState (object : ControllerObject) (data : AvailableInfo) :
    ({ object with state := object.discovery.map fun discovery => { discovery, data } } :
      ControllerObject).Agrees := by
  intro state hstate
  obtain ⟨discovery, hdiscovery, rfl⟩ := Option.map_eq_some_iff.mp hstate
  exact hdiscovery

/-- The call that stores a discovery. -/
theorem Tracked.setDiscovery (h : view.Tracked) (discovery : DiscoveryResult) :
    (view.after { view.object with discovery := some discovery } []
      (.controller (.setDiscovery discovery))).Tracked := by
  refine ⟨agrees_setDiscovery view.object discovery, fun hstored => ?_, fun hstored => ?_⟩
  all_goals
    obtain ⟨hbefore, hsame⟩ := Bool.or_eq_false_iff.mp hstored
  · exact (not_not.mp (of_decide_eq_false hsame)).symm.trans (h.discovery hbefore)
  · exact h.state hbefore

/-- A message applied to the state leaves its discovery. -/
theorem Tracked.applied {object : ControllerObject} (h : view.Tracked)
    (hdiscovery : object.discovery = view.object.discovery)
    (hstate : object.state.map Tekmar482State.discovery =
      view.object.state.map Tekmar482State.discovery) :
    ({ view with object := object, stored := true } : DiscoveryView).Tracked :=
  ⟨(ControllerObject.agrees_congr hdiscovery hstate).trans h.agrees, nofun, nofun⟩

/-- The step of the view: each call keeps what it says. -/
theorem Tracked.answers {call : LifecycleCall} {reply : Except PyException (LifecycleReply call)}
    (h : view.Tracked) (hanswer : discoveryContract.answers view call reply view') :
    view'.Tracked := by
  obtain ⟨messages, object, hanswers, rfl⟩ := hanswer
  cases hcall : call.writes with
  | false =>
      obtain ⟨hdiscovery, hstate⟩ := answers_reads hcall hanswers
      rw [after_reads hcall]
      refine ⟨?_, fun hstored => ?_, fun hstored => ?_⟩
      · refine Iff.trans (ControllerObject.agrees_congr hdiscovery ?_) h.agrees
        rw [hstate, ControllerObject.stateDiscovery_took]
      · exact hdiscovery.trans (h.discovery hstored)
      · rw [hstate, ControllerObject.took_append, ControllerObject.took, h.state hstored]
        rfl
  | true =>
      cases call with
      | controller call =>
          cases call with
          | setDiscovery discovery =>
              obtain ⟨-, rfl, rfl⟩ := hanswers
              exact h.setDiscovery discovery
          | setState data =>
              obtain ⟨-, rfl, rfl⟩ := hanswers
              exact ⟨iff_of_true (agrees_setState view.object data) rfl, nofun, nofun⟩
          | applyMessage message =>
              obtain ⟨-, rfl, rfl⟩ := hanswers
              exact h.applied rfl (ControllerObject.stateDiscovery_took view.object [message])
          | _ => cases hcall
      | applyReport message =>
          obtain ⟨hdiscovery, hstate⟩ := answers_applyReport hanswers
          exact h.applied hdiscovery hstate
      | _ => cases hcall

end DiscoveryView

end Tekmar482
