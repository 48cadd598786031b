import Tekmar482.SingleStart

/-!
# Live state

Once the report loop has consumed its queue, every scalar value is the last one
counted, in every run in which no replay of the backlog and no snapshot of a poll
brings back an older value.
-/

namespace Tekmar482

open Machine

namespace ControllerSystem

variable {options : ControllerOptions} {s t : ControllerSystem} {actions : List ControllerAction}

/-! ## Starts and reconnects -/

/-- Live state never goes back in time, across starts, stops, and closed and reopened
sessions, as long as every replay of the backlog ends with what was counted last. -/
theorem current_of_replaysCurrent (hfresh : s.Fresh)
    (hrun : RunWhere (step options)
      (fun system action => action.StartsOrStops ∧ system.ReplaysCurrent action) s actions t) :
    t.Current := by
  have hinvariant : Sound t ∧ StartsAlone t := by
    apply hrun.invariant _ ⟨hfresh.sound, hfresh.startsAlone⟩
    rintro system action after ⟨hsound, halone⟩ ⟨hcalls, hreplays⟩ hstep
    constructor
    · exact hsound.step hreplays (halone.installsCurrent hsound action) hstep
    · exact halone.step hsound hcalls hstep
  exact hinvariant.1.current

/-- A controller of a new session. -/
def fresh : ControllerSystem := {}

theorem fresh_fresh : fresh.Fresh :=
  ⟨⟨rfl, fun _ => rfl, rfl, rfl, rfl⟩, rfl, rfl, rfl, rfl, rfl, rfl, rfl, rfl, rfl, rfl⟩

def sampleOptions : ControllerOptions := { includeDatetime := false, inventoryFuel := 2 }

/-- A message about the temperature of a device. -/
def temperatureMessage (service : TrpcService) (temperature : Int) : TrpcPacket where
  serviceId := service.value
  methodId := TrpcMethod.currentTemperature.value
  body := .ofList [("address", 1011), ("temp", temperature)]

/-- What the gateway says about itself. -/
def firmwareMessage : TrpcPacket where
  serviceId := TrpcService.responseRequest.value
  methodId := TrpcMethod.firmwareRevision.value
  body := .ofList [("revision", 104)]

def protocolMessage : TrpcPacket where
  serviceId := TrpcService.responseRequest.value
  methodId := TrpcMethod.protocolVersion.value
  body := .ofList [("version", 2)]

/-- A response of the inventory; the address 0 ends it. -/
def inventoryMessage (address : Int) : TrpcPacket where
  serviceId := TrpcService.responseRequest.value
  methodId := TrpcMethod.deviceInventory.value
  body := .ofList [("address", address)]

/-- Requests of a task that time out. -/
def unanswered (task : Nat) (futures : List Nat) : List ControllerAction :=
  futures.flatMap fun future => [.request (some task) future, .resume (some task) .missing]

/-- A request of a task, with its response. -/
def answered (task future : Nat) (message : TrpcPacket) : List ControllerAction :=
  [.request (some task) future, .session (.dispatch message), .resume (some task) .message]

/-- One round of the inventory loop, which reads a response before the deadline. -/
def inventoried (task : Nat) (address : Int) : List ControllerAction :=
  [.resume (some task) (.returned false), .session (.dispatch (inventoryMessage address)),
    .resume (some task) .message]

/-- A discovery that finds one device, up to its metadata. The gateway answers what it
is asked about itself, so the deadline of the discovery has not passed. -/
def discoveredGateway : List ControllerAction :=
  answered 0 1 firmwareMessage ++ answered 0 2 protocolMessage ++
    [.resume (some 0) (.returned true)] ++ inventoried 0 1011 ++ inventoried 0 0

/-- A start that finds one device with a temperature of 710, after some messages. -/
def startActions (before : List TrpcPacket) : List ControllerAction :=
  [.call .start, .proceed (some 0), .resume (some 0) (.returned true)] ++
    before.map (fun message => .session (.dispatch message)) ++
    unanswered 0 [0] ++ discoveredGateway ++ unanswered 0 [3, 4, 5, 6] ++
    [.proceed (some 0), .proceed (some 0)] ++
    unanswered 0 [7, 8, 9, 10] ++
    answered 0 11 (temperatureMessage .responseRequest 710) ++
    unanswered 0 [12, 13] ++
    [.proceed (some 0)] ++
    unanswered 0 [14] ++
    [.proceed (some 0), .proceed (some 0), .resume none (.returned true), .proceed none]

/-- The report that comes after the start is handled. -/
theorem current_sampleStart : ∃ t,
    RunWhere (step sampleOptions)
      (fun system action => action.StartsOrStops ∧ system.ReplaysCurrent action) fresh
      (startActions [] ++ [.session (.dispatch (temperatureMessage .report 720)), .take]) t ∧
    t.Current := by
  have hexec : (execWhere (step sampleOptions)
      (fun system action => action.StartsOrStops ∧ system.ReplaysCurrent action) fresh
      (startActions [] ++
        [.session (.dispatch (temperatureMessage .report 720)), .take])).isSome = true := by
    decide +kernel
  obtain ⟨t, ht⟩ := Option.isSome_iff_exists.mp hexec
  have hrun := runWhere_of_execWhere ht
  exact ⟨t, hrun, current_of_replaysCurrent fresh_fresh hrun⟩

/-- A report that came before the seed poll is replayed after it. -/
theorem not_current_staleReplay :
    ¬ ∀ (options : ControllerOptions) (s t : ControllerSystem) (actions : List ControllerAction),
      s.Fresh → RunWhere (step options) (fun _ action => action.StartsOrStops) s actions t →
        t.Current := by
  intro hclaim
  have hexec : (execWhere (step sampleOptions) (fun _ action => action.StartsOrStops) fresh
      (startActions [temperatureMessage .report 700] ++ [.take])).map (fun t => decide t.Current) =
        some false := by
    decide +kernel
  obtain ⟨t, ht, hstale⟩ := Option.map_eq_some_iff.mp hexec
  have hcurrent := hclaim sampleOptions fresh t _ fresh_fresh (runWhere_of_execWhere ht)
  exact of_decide_eq_false hstale hcurrent

/-! ## Refreshes -/

/-- No report is lost while the topology is refreshed, as long as no snapshot and no
replay of the backlog brings back what was counted earlier. -/
theorem current_of_installsCurrent (hfresh : s.Fresh)
    (hrun : RunWhere (step options)
      (fun system action => system.InstallsCurrent action ∧ system.ReplaysCurrent action)
      s actions t) : t.Current := by
  have hsound : Sound t := by
    apply hrun.invariant _ hfresh.sound
    rintro system action after hsound ⟨hinstalls, hreplays⟩ hstep
    exact hsound.step hreplays hinstalls hstep
  exact hsound.current

/-- A refresh that polls a temperature of 700, with some steps between the answer and
the end of the poll. -/
def refreshActions (between : List ControllerAction) : List ControllerAction :=
  startActions [] ++ [.call .refreshRuntime, .proceed (some 1)] ++ unanswered 1 [15, 16, 17, 18] ++
    answered 1 19 (temperatureMessage .responseRequest 700) ++ between ++ unanswered 1 [20, 21] ++
    [.proceed (some 1)]

theorem current_sampleRefresh : ∃ t,
    RunWhere (step sampleOptions)
      (fun system action => system.InstallsCurrent action ∧ system.ReplaysCurrent action) fresh
      (refreshActions []) t ∧
    t.Current := by
  have hexec : (execWhere (step sampleOptions)
      (fun system action => system.InstallsCurrent action ∧ system.ReplaysCurrent action) fresh
      (refreshActions [])).isSome = true := by
    decide +kernel
  obtain ⟨t, ht⟩ := Option.isSome_iff_exists.mp hexec
  have hrun := runWhere_of_execWhere ht
  exact ⟨t, hrun, current_of_installsCurrent fresh_fresh hrun⟩

/-- A report that is handled after the poll has read its value, and before the poll
replaces the state, is discarded. -/
theorem not_current_discardedReport :
    ¬ ∀ (options : ControllerOptions) (s t : ControllerSystem) (actions : List ControllerAction),
      s.Fresh → RunWhere (step options) ReplaysCurrent s actions t → t.Current := by
  intro hclaim
  have hexec : (execWhere (step sampleOptions) ReplaysCurrent fresh
      (refreshActions [.session (.dispatch (temperatureMessage .report 720)), .take])).map
        (fun t => decide t.Current) = some false := by
    decide +kernel
  obtain ⟨t, ht, hstale⟩ := Option.map_eq_some_iff.mp hexec
  have hcurrent := hclaim sampleOptions fresh t _ fresh_fresh (runWhere_of_execWhere ht)
  exact of_decide_eq_false hstale hcurrent

end ControllerSystem

end Tekmar482
