import Tekmar482.FittingSnapshots
import Tekmar482.ClientCalls

/-!
# Tasks that install fitting snapshots

A method of the controller replaces the state with a poll of the discovery that it looked up,
and applies only messages that the session has returned to it.
-/

namespace Tekmar482

open Routine

/-- What is noted of a task: the messages that the session has returned to it, and the
discovery that it looked up or made last. -/
structure TaskNotes where
  told : List TrpcPacket := []
  discovery : Option DiscoveryResult := none

/-- The messages that session calls return are noted. -/
def toldContract : Contract SessionCall SessionReply PyException (List TrpcPacket) where
  requires _ _ := True
  answers told call reply told' :=
    match call, reply with
    | .requestResponse _ _, .ok (some message) => told' = message :: told
    | .updateResponse _ _, .ok (some message) => told' = message :: told
    | _, _ => told' = told

/-- The contract of a task. A poll installs fitting snapshots of the discovery that was
polled, and only a message that the session has returned is applied. -/
def fittingContract : Contract ControllerCall ControllerReply PyException TaskNotes where
  requires notes call :=
    match call with
    | .setState data => (data.Fits fun _ _ => False) ∧ ∃ discovery,
        notes.discovery = some discovery ∧ data.devices.map DeviceSnapshot.info = discovery.devices
    | .applyMessage message => message ∈ notes.told
    | _ => True
  answers notes call reply notes' :=
    match call, reply with
    | .session call, reply =>
        ∃ told, toldContract.answers notes.told call reply told ∧ notes' = { notes with told }
    | .discovery, .ok discovery => notes' = { notes with discovery }
    | .setDiscovery discovery, _ => notes' = { notes with discovery := some discovery }
    | _, _ => notes' = notes

namespace Controller

abbrev Told (response : Option TrpcPacket) (notes : TaskNotes) : Prop :=
  ∀ message, response = some message → message ∈ notes.told

theorem delivers_client_told {α : Type} {P : α → List TrpcPacket → Prop} {routine : ClientRoutine α}
    {notes : TaskNotes} (h : routine.Delivers toldContract P notes.told) :
    (client routine).Delivers fittingContract
      (fun a notes' => ∃ told, P a told ∧ notes' = { notes with told }) notes := by
  apply Follows.lift (fun told notes' => notes' = { notes with told })
    (fun _ _ _ _ _ => trivial) _ _ h rfl
  · rintro told _ call reply notes' rfl ⟨told', hanswer, rfl⟩
    exact ⟨told', hanswer, rfl⟩
  · rintro told _ result rfl hresult a ha
    exact ⟨told, hresult a ha, rfl⟩

theorem obeys_client {α : Type} (routine : ClientRoutine α) :
    Obeys fittingContract (client routine) := by
  intro notes
  apply Delivers.weaken (delivers_client_told _)
  · exact fun _ _ => True
  · exact Delivers.of_forall routine (fun _ _ => trivial) notes.told

theorem obeys_suppress {α : Type} (routine : ClientRoutine α) :
    Obeys fittingContract (suppress routine) := by
  apply Obeys.tryExcept
  · exact (obeys_client routine).bind fun _ => .pure ()
  · intro err
    split
    · exact .pure ()
    · exact .raise err

theorem obeys_session (call : SessionCall) :
    Obeys fittingContract (perform (ControllerCall.session call) :
      ControllerRoutine (SessionReply call)) :=
  .perform fun _ => trivial

theorem obeys_resumeReporting : Obeys fittingContract resumeReporting := by
  apply (obeys_session .isOpen).bind
  intro isOpen
  cases isOpen with
  | true => exact obeys_suppress _
  | false => exact .pure ()

/-- The response to a change of the reporting state is one of the messages told. -/
theorem delivers_setReportingState_told (enabled : Bool) (notes : TaskNotes) :
    (client (Client.setReportingState enabled)).Delivers fittingContract Told notes := by
  rw [client_setReportingState]
  apply Delivers.perform trivial
  rintro reply notes' ⟨told, hanswer, rfl⟩ message rfl
  obtain rfl : told = message :: notes.told := hanswer
  exact List.mem_cons_self

/-- A discovery is noted. -/
theorem delivers_discover_told (options : ControllerOptions) (notes : TaskNotes) :
    (discover options).Delivers fittingContract
      (fun discovery notes' => notes'.discovery = some discovery) notes := by
  apply (obeys_client _).delivers_bind
  intro discovery notes
  apply Delivers.bind (P := fun _ notes' => notes'.discovery = some discovery)
  · apply Delivers.perform trivial
    rintro _ _ rfl
    rfl
  · exact fun _ _ hdiscovery => Delivers.pure hdiscovery

/-- A poll of the noted discovery installs snapshots that fit. -/
theorem delivers_pollState_told (options : ControllerOptions) {discovery : DiscoveryResult}
    {notes : TaskNotes} (hdiscovery : notes.discovery = some discovery) :
    (pollState options discovery).Delivers fittingContract (fun _ _ => True) notes := by
  apply Delivers.bind (delivers_client_told (Client.delivers_pollRuntime_fits (fun _ _ => trivial)
    discovery options.includeSetbacks options.includeDatetime options.includeSetpointGroups _))
  rintro data _ ⟨told, ⟨hinfos, hfits⟩, rfl⟩
  apply Delivers.bind (P := fun _ _ => True)
  · exact Delivers.perform ⟨hfits, discovery, hdiscovery, hinfos⟩ fun _ _ _ => trivial
  · exact fun _ _ _ => Delivers.pure trivial

theorem obeys_refreshRuntime (options : ControllerOptions) :
    Obeys fittingContract (refreshRuntime options) := by
  intro notes
  apply Delivers.bind (P := fun known notes' => notes'.discovery = known)
  · apply Delivers.perform trivial
    rintro known _ rfl
    rfl
  · intro known notes hknown
    cases known with
    | some discovery => exact delivers_pollState_told options hknown
    | none =>
        apply Delivers.bind (delivers_discover_told options notes)
        exact fun discovery notes hdiscovery => delivers_pollState_told options hdiscovery

theorem delivers_applyResponse_told {response : Option TrpcPacket} {notes : TaskNotes}
    (h : Told response notes) :
    (applyResponse response).Delivers fittingContract (fun _ _ => True) notes := by
  cases response with
  | none => exact Delivers.pure trivial
  | some message => exact Delivers.perform (h message rfl) fun _ _ _ => trivial

theorem delivers_abandonStart_told {α : Type} {P : α → TaskNotes → Prop}
    (reportingDisabled : Bool) (err : PyException) (notes : TaskNotes) :
    (abandonStart reportingDisabled err : ControllerRoutine α).Delivers fittingContract P notes := by
  have hrest (notes : TaskNotes) : (do
      suppress (Routine.perform SessionCall.close)
      Routine.raise err : ControllerRoutine α).Delivers fittingContract P notes :=
    (obeys_suppress _).delivers_bind fun _ _ => Delivers.raise
  cases reportingDisabled with
  | false => exact hrest notes
  | true => exact obeys_resumeReporting.delivers_bind fun _ => hrest

theorem delivers_seedState_told (options : ControllerOptions) (notes : TaskNotes) :
    (seedState options).Delivers fittingContract (fun seed => Told seed.2) notes := by
  apply Delivers.bind (delivers_discover_told options notes)
  intro _ notes _
  apply (obeys_refreshRuntime options).delivers_bind
  intro data notes
  apply Delivers.bind (delivers_setReportingState_told true notes)
  exact fun _ _ htold => Delivers.pure htold

theorem obeys_openStart (options : ControllerOptions) :
    Obeys fittingContract (openStart options) := by
  apply (obeys_session .open).bind
  intro _
  apply Obeys.bind ((obeys_client _).tryExcept fun err => delivers_abandonStart_told false err)
  intro _ notes
  apply Delivers.bind (Delivers.tryExcept (delivers_seedState_told options notes)
    (delivers_abandonStart_told true))
  rintro ⟨data, response⟩ notes htold
  apply Delivers.bind (delivers_applyResponse_told htold)
  intro _ notes _
  apply Obeys.delivers_bind (.perform fun _ => trivial)
  intro current notes
  apply Obeys.delivers_bind (.perform fun _ => trivial)
  exact fun _ _ => Delivers.pure trivial

theorem obeys_start (options : ControllerOptions) : Obeys fittingContract (start options) := by
  apply Obeys.bind (.perform fun _ => trivial)
  intro running
  cases running with
  | some data => exact .pure data
  | none => exact obeys_openStart options

theorem obeys_stop : Obeys fittingContract stop := by
  apply Obeys.bind (.perform fun _ => trivial)
  intro _
  apply (obeys_session .isOpen).bind
  intro isOpen
  cases isOpen with
  | true => exact (obeys_suppress _).bind fun _ => obeys_session .close
  | false => exact obeys_session .close

theorem delivers_setReportingPaused_told (reportingPaused enabled : Bool) (notes : TaskNotes) :
    (setReportingPaused reportingPaused enabled).Delivers fittingContract Told notes := by
  cases reportingPaused with
  | false => exact Delivers.pure fun _ hnone => by cases hnone
  | true => exact delivers_setReportingState_told enabled notes

theorem obeys_rediscover (options : ControllerOptions) (pauseReporting : Bool) :
    Obeys fittingContract (rediscover options pauseReporting) := by
  apply Obeys.bind (.perform fun _ => trivial)
  intro running
  apply Obeys.bind fun notes =>
    (delivers_setReportingPaused_told (pauseReporting && running) false notes).weaken
  intro _
  have hrefresh : Obeys fittingContract (refreshTopology options) :=
    Obeys.bind (fun notes => (delivers_discover_told options notes).weaken) fun _ =>
      obeys_refreshRuntime options
  apply Obeys.bind (hrefresh.tryExcept fun err => ?_)
  · intro _ notes
    apply Delivers.bind (delivers_setReportingPaused_told _ true notes)
    intro response notes htold
    apply Delivers.bind (delivers_applyResponse_told htold)
    exact fun _ _ _ => Delivers.perform trivial fun _ _ _ => trivial
  · unfold abandonRediscover
    split
    · exact obeys_resumeReporting.bind fun _ => .raise err
    · exact Obeys.bind (.pure ()) fun _ => .raise err

theorem obeys_reportError (err : PyException) : Obeys fittingContract (reportError err) := by
  unfold reportError
  split
  · exact obeys_session .close
  · exact .raise err

theorem obeys_reportLoop : Obeys fittingContract reportLoop := by
  apply Obeys.tryExcept
  · apply (obeys_session .isOpen).bind
    intro isOpen
    have hsubscribe : Obeys fittingContract (perform ControllerCall.subscribe :
        ControllerRoutine Unit) := .perform fun _ => trivial
    cases isOpen with
    | true => exact hsubscribe
    | false =>
        apply Obeys.bind _ fun _ => hsubscribe
        apply (obeys_session .open).bind
        intro _
        exact (obeys_client _).bind fun _ => .pure ()
  · exact obeys_reportError

end Controller

theorem Operation.obeys (options : ControllerOptions) (operation : Operation) :
    Obeys fittingContract (operation.routine options) := by
  cases operation with
  | start => exact (Controller.obeys_start options).bind fun _ => .pure ()
  | stop => exact Controller.obeys_stop
  | refreshRuntime => exact (Controller.obeys_refreshRuntime options).bind fun _ => .pure ()
  | rediscover pauseReporting =>
      exact (Controller.obeys_rediscover options pauseReporting).bind fun _ => .pure ()

end Tekmar482
