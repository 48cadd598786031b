import Tekmar482.StoppedController

/-!
# Two runs of stop

A report task that is cancelled while it waits for a report, and one that ended before with the
exception of a listener. `stop` closes the client after the first, and does not come to it after
the second.
-/

namespace Tekmar482

namespace StartedController

section Runs

variable {allowed : StartedController → StopAction → Prop} {s t : StartedController}
  {call : LifecycleCall} {next : Except PyException (LifecycleReply call) → LifecycleRoutine Unit}
  {reply : Except PyException (LifecycleReply call)} {messages : List TrpcPacket}
  {after : ControllerObject}

theorem reaches_report (hroutine : s.task = .call call next)
    (hanswers : s.object.Answers call reply messages after)
    (hallowed : allowed s (.report call reply))
    (tail : Reaches allowed { s with object := after, task := next reply } t) :
    Reaches allowed s t :=
  .head ⟨_, hallowed, .report hroutine hanswers⟩ tail

theorem reaches_stop {k : Nat} {stop : StopCall} (hknown : s.stops[k]? = some stop)
    (hroutine : stop.routine = .call call next)
    (hanswers : s.object.Answers call reply messages after) (hawaits : s.Awaits call reply)
    (hallowed : allowed s (.stop k call reply))
    (tail : Reaches allowed
      { s with
        object := after
        cancelRequested := s.cancelRequested || call.cancels
        stops := s.stops.set k { routine := next reply, closed := stop.closed || call.closes } }
      t) : Reaches allowed s t :=
  .head ⟨_, hallowed, .stop hknown hroutine hanswers hawaits⟩ tail

/-- A reply that is no exception is allowed. -/
theorem Handled.report {value : LifecycleReply call} : s.Handled (.report call (.ok value)) :=
  nofun

theorem Handled.stop {k : Nat} {value : LifecycleReply call} :
    s.Handled (.stop k call (.ok value)) :=
  nofun

theorem Handled.cancelled (h : s.cancelRequested = true) :
    s.Handled (.report call (.error .cancelledError)) := by
  rintro _ ⟨⟩
  exact .inl ⟨rfl, h⟩

theorem Handled.raised {k : Nat} {err : PyException}
    (h : call.TurnsOff → err.isOsOrTekmarError = true) : s.Handled (.stop k call (.error err)) := by
  rintro _ ⟨⟩
  exact h

end Runs

/-- A controller without devices, just started. -/
def bare : StartedController where
  object :=
    { running := true, reportTask := true
      state := some { discovery := { gateway := {}, devices := [] }, data := { devices := [] } } }
  task := Lifecycle.reportLoop 1 1

theorem started_bare : bare.Started 1 1 := ⟨rfl, rfl, rfl, rfl, rfl, rfl⟩

/-- The report task is cancelled while it waits for a report, and turning reporting off fails. -/
theorem closes_of_handled_cancelled : ∃ t, Reaches Handled bare t ∧ t.Closes ∧
    t.stops.map (fun stop => (stop.routine.result.isSome, stop.closed)) = [(true, true)] := by
  have hrun : ∃ t, Reaches Handled bare t ∧
      t.stops.map (fun stop => (stop.routine.result.isSome, stop.closed)) = [(true, true)] := by
    apply Exists.intro
    constructor
    case left =>
      apply reaches_report rfl (.access rfl) .report
      apply reaches_report rfl (.returned true rfl) .report
      apply reaches_report rfl (.returned () rfl) .report
      apply Relation.ReflTransGen.head ⟨.callStop, trivial, .callStop⟩
      iterate 2 apply reaches_stop (k := 0) rfl rfl (.access rfl) (by trivial) .stop
      apply reaches_stop (k := 0) rfl rfl (.returned () rfl) (by trivial) .stop
      -- the wait for a report is cancelled
      apply reaches_report rfl (.raised .cancelledError rfl rfl) (.cancelled rfl)
      apply reaches_report rfl (.returned () rfl) .report
      apply reaches_stop (k := 0) rfl rfl (.raised .cancelledError rfl rfl) (by rfl) (.raised nofun)
      apply reaches_stop (k := 0) rfl rfl (.returned true rfl) (by trivial) .stop
      apply reaches_stop (k := 0) rfl rfl (.raised (.osError "") rfl rfl) (by trivial)
        (.raised fun _ => rfl)
      apply reaches_stop (k := 0) rfl rfl (.returned () rfl) (by trivial) .stop
      exact .refl
    case right => rfl
  obtain ⟨t, hrun, hstops⟩ := hrun
  exact ⟨t, hrun, closes_of_handled started_bare hrun, hstops⟩

/-- A report that a device takes an address. -/
def takingAddress : TrpcPacket := { serviceId := 2, methodId := 0x15F }

/-- A topology listener raises, and the report task is over while the controller still runs. The
wait for it raises the exception again, and `stop` ends there. -/
theorem not_closes_listener : ∃ s t, bare.Started 1 1 ∧ Reaches (fun _ _ => True) bare s ∧
    s.object.running = true ∧ s.task.result = some (.error (.otherError "listener")) ∧
    Reaches (fun _ _ => True) s t ∧
    t.stops.map (fun stop => (stop.routine.result, stop.closed)) =
      [(some (.error (.otherError "listener")), false)] := by
  apply Exists.intro
  apply Exists.intro
  refine ⟨started_bare, ?task, ?running, ?ended, ?stop, ?unclosed⟩
  case task =>
    apply reaches_report rfl (.access rfl) trivial
    apply reaches_report rfl (.returned true rfl) trivial
    apply reaches_report rfl (.returned () rfl) trivial
    apply reaches_report rfl (.returned (some takingAddress) rfl) trivial
    apply reaches_report rfl (.returned [0] rfl) trivial
    apply reaches_report rfl (.raised (.otherError "listener") rfl rfl) trivial
    apply reaches_report rfl (.returned () rfl) trivial
    exact .refl
  case stop =>
    apply Relation.ReflTransGen.head ⟨.callStop, trivial, .callStop⟩
    iterate 2 apply reaches_stop (k := 0) rfl rfl (.access rfl) (by trivial) trivial
    apply reaches_stop (k := 0) rfl rfl (.returned () rfl) (by trivial) trivial
    apply reaches_stop (k := 0) rfl rfl (.raised (.otherError "listener") rfl rfl) (by rfl) trivial
    exact .refl
  case running => rfl
  case ended => rfl
  case unclosed => rfl

end StartedController

end Tekmar482
