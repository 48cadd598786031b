import Tekmar482.ControllerSteps

/-!
# A start under way is alone

In a controller that is only started and stopped, at most one start is under way, and
while it polls no report loop runs. So its snapshot replaces no live state.
-/

namespace Tekmar482

/-- The operation that a step calls. -/
def ControllerAction.called : ControllerAction → Option Operation
  | .call operation => some operation
  | _ => none

/-- The steps of a controller that is only started and stopped. -/
def ControllerAction.StartsOrStops (self : ControllerAction) : Prop :=
  ∀ operation ∈ self.called, operation = .start ∨ operation = .stop

instance (action : ControllerAction) : Decidable action.StartsOrStops :=
  inferInstanceAs (Decidable (∀ _ ∈ action.called, _ ∨ _))

/-! ## Starts alone -/

theorem Task.starting_of_call {task : Task} {call : ControllerCall}
    {next : Except PyException (ControllerReply call) → ControllerRoutine Unit}
    (h : task.routine = .call call next) :
    task.starting = true ↔ task.operation = some .start := by
  rw [Task.starting, Task.ended, h]
  simp

/-- What holds of a controller that is only started and stopped: at most one start is
under way; it has found the controller not running, and the discovery is its own. -/
structure StartsAlone (system : ControllerSystem) : Prop where
  operations : ∀ task ∈ system.tasks, task.operation = some .start ∨ task.operation = some .stop
  single : ∀ (i j : Nat) (first second : Task), system.tasks[i]? = some first →
    system.tasks[j]? = some second → first.starting = true → second.starting = true → i = j
  live : ∀ task ∈ system.tasks, task.starting = true →
    (task.idle = true → system.running = false) ∧
      ∀ discovery, task.discovery = some discovery → system.discovery = some discovery
  idle : system.running = false → system.reportTask = none ∧ system.reading = none

namespace StartsAlone

variable {s u : ControllerSystem}

/-- A step of one task: what it changes for the other tasks, it changes only while
no other start is under way. -/
theorem setTask (h : StartsAlone s) {id : Option Nat} {old new : Task}
    (hold : s.task? id = some old) (htasks : u.tasks = s.tasks)
    (hoperation : new.operation = old.operation)
    (hstarting : new.starting = true → old.starting = true)
    (hnew : new.starting = true → (new.idle = true → u.running = false) ∧
      ∀ discovery, new.discovery = some discovery → u.discovery = some discovery)
    (hothers : old.starting = true ∧ id.isSome = true ∨
      (s.running = false → u.running = false) ∧ u.discovery = s.discovery)
    (hidle : u.running = false →
      (u.setTask new id).reportTask = none ∧ u.reading = none) :
    StartsAlone (u.setTask new id) := by
  have hlive (hsame : (s.running = false → u.running = false) ∧ u.discovery = s.discovery)
      (task : Task) (hmem : task ∈ s.tasks) (hstarts : task.starting = true) :
      (task.idle = true → u.running = false) ∧
        ∀ discovery, task.discovery = some discovery → u.discovery = some discovery := by
    obtain ⟨hrunning, hdiscovery⟩ := h.live task hmem hstarts
    exact ⟨fun hfound => hsame.1 (hrunning hfound), fun discovery hsome =>
      hsame.2.trans (hdiscovery discovery hsome)⟩
  cases id with
  | none =>
      rcases hothers with ⟨-, hnone⟩ | hsame
      · cases hnone
      · exact ⟨fun task hmem => h.operations task (htasks ▸ hmem),
          fun i j first second hfirst hsecond =>
            h.single i j first second (htasks ▸ hfirst) (htasks ▸ hsecond),
          fun task hmem => hlive hsame task (htasks ▸ hmem), hidle⟩
  | some k =>
      have hold : s.tasks[k]? = some old := hold
      have hset : (u.setTask new (some k)).tasks = s.tasks.set k new := congrArg (·.set k new) htasks
      have hget (i : Nat) (task : Task) (htask : (s.tasks.set k new)[i]? = some task) :
          i = k ∧ task = new ∨ i ≠ k ∧ s.tasks[i]? = some task := by
        rw [List.getElem?_set] at htask
        split at htask
        · rename_i hsame
          split at htask
          · cases htask
            exact .inl ⟨hsame.symm, rfl⟩
          · cases htask
        · rename_i hne
          exact .inr ⟨fun heq => hne heq.symm, htask⟩
      constructor
      · intro task hmem
        rw [hset] at hmem
        obtain ⟨i, htask⟩ := List.mem_iff_getElem?.mp hmem
        rcases hget i task htask with ⟨-, rfl⟩ | ⟨-, hother⟩
        · rw [hoperation]
          exact h.operations old (List.mem_of_getElem? hold)
        · exact h.operations task (List.mem_of_getElem? hother)
      · intro i j first second hfirst hsecond hstarts hstarts'
        rw [hset] at hfirst hsecond
        rcases hget i first hfirst with ⟨rfl, rfl⟩ | ⟨-, hother⟩
        · rcases hget j second hsecond with ⟨rfl, -⟩ | ⟨-, hother'⟩
          · rfl
          · exact h.single _ j old second hold hother' (hstarting hstarts) hstarts'
        · rcases hget j second hsecond with ⟨rfl, rfl⟩ | ⟨-, hother'⟩
          · exact h.single i _ first old hother hold hstarts (hstarting hstarts')
          · exact h.single i j first second hother hother' hstarts hstarts'
      · intro task hmem hstarts
        rw [hset] at hmem
        obtain ⟨i, htask⟩ := List.mem_iff_getElem?.mp hmem
        rcases hget i task htask with ⟨-, rfl⟩ | ⟨hne, hother⟩
        · exact hnew hstarts
        · rcases hothers with ⟨hstarts', -⟩ | hsame
          · exact absurd (h.single i k task old hother hold hstarts hstarts') hne
          · exact hlive hsame task (List.mem_of_getElem? hother) hstarts
      · exact hidle

theorem of_same (h : StartsAlone s) (htasks : u.tasks = s.tasks) (hrunning : u.running = s.running)
    (hdiscovery : u.discovery = s.discovery)
    (hidle : u.running = false → u.reportTask = none ∧ u.reading = none) : StartsAlone u where
  operations := fun task hmem => h.operations task (htasks ▸ hmem)
  single := fun i j first second hfirst hsecond =>
    h.single i j first second (htasks ▸ hfirst) (htasks ▸ hsecond)
  live := by
    intro task hmem hstarts
    rw [hrunning, hdiscovery]
    exact h.live task (htasks ▸ hmem) hstarts
  idle := hidle

/-- A report task runs only while the controller does. -/
theorem running_of_reportTask (h : StartsAlone s) {task : Task} (htask : s.reportTask = some task) :
    s.running = true := by
  by_contra hstopped
  rw [(h.idle (eq_false_of_ne_true hstopped)).1] at htask
  cases htask

theorem running_of_reading (h : StartsAlone s) {queue : Nat} (hreading : s.reading = some queue) :
    s.running = true := by
  by_contra hstopped
  rw [(h.idle (eq_false_of_ne_true hstopped)).2] at hreading
  cases hreading

/-- A task that has moved on, where the report loop is as it was. -/
theorem idle_setTask (h : StartsAlone s) {id : Option Nat} {old : Task}
    (hold : s.task? id = some old) (hrunning : u.running = s.running)
    (hreport : u.reportTask = s.reportTask) (hreading : u.reading = s.reading) (new : Task)
    (hstopped : u.running = false) :
    (u.setTask new id).reportTask = none ∧ u.reading = none := by
  obtain ⟨hnoReport, hnoReading⟩ := h.idle (hrunning ▸ hstopped)
  constructor
  · cases id with
    | none =>
        have hsome : s.reportTask = some old := hold
        rw [hnoReport] at hsome
        cases hsome
    | some k => exact hreport.trans hnoReport
  · exact hreading.trans hnoReading

/-- What the invariant says of a start that makes a step. -/
theorem live_task (h : StartsAlone s) {id : Option Nat} {task : Task}
    (htask : s.task? id = some task) (hkind : task.operation.isSome = id.isSome)
    (hstarting : task.starting = true) :
    id.isSome = true ∧ (task.idle = true → s.running = false) ∧
      ∀ discovery, task.discovery = some discovery → s.discovery = some discovery := by
  cases id with
  | none =>
      rw [Task.starting, Bool.and_eq_true, beq_iff_eq] at hstarting
      rw [hstarting.1] at hkind
      cases hkind
  | some k => exact ⟨rfl, h.live task (List.mem_of_getElem? htask) hstarting⟩

end StartsAlone

theorem Task.operation_of_starting {task : Task} (h : task.starting = true) :
    task.operation = some .start := by
  rw [Task.starting, Bool.and_eq_true, beq_iff_eq] at h
  exact h.1

section Steps

variable {s t u : ControllerSystem} {id : Option Nat} {task after : Task}

/-- A task that may replace the state is a start. -/
theorem StartsAlone.starting_of_refreshes (h : StartsAlone s) (hsound : TaskSound s id task)
    (htask : s.task? id = some task) {call : ControllerCall}
    {next : Except PyException (ControllerReply call) → ControllerRoutine Unit}
    (hroutine : task.routine = .call call next)
    (hrefreshes : task.operation.any Operation.refreshes = true) : task.starting = true := by
  apply (Task.starting_of_call hroutine).mpr
  cases id with
  | none =>
      have hnone : task.operation = none := by
        cases hoperation : task.operation with
        | none => rfl
        | some operation =>
            have hkind := hsound.kind
            rw [hoperation] at hkind
            cases hkind
      rw [hnone] at hrefreshes
      cases hrefreshes
  | some k =>
      rcases h.operations task (List.mem_of_getElem? htask) with hstart | hstop
      · exact hstart
      · rw [hstop] at hrefreshes
        cases hrefreshes

/-- A task that goes on after a session call, with the discovery that it had. -/
theorem StartsAlone.goesOn (h : StartsAlone s) (hsound : TaskSound s id task)
    (htask : s.task? id = some task) {new : Task} (dispatcher : Dispatcher)
    (hoperation : new.operation = task.operation)
    (hstarting : new.starting = true → task.starting = true) (hidle : new.idle = task.idle)
    (hdiscovery : new.discovery = task.discovery) :
    StartsAlone ({ s with dispatcher }.setTask new id) := by
  refine h.setTask htask rfl hoperation hstarting ?_ ?_ ?_
  · intro hstarts
    obtain ⟨-, hlive⟩ := h.live_task htask hsound.kind (hstarting hstarts)
    rw [hidle, hdiscovery]
    exact hlive
  · exact .inr ⟨fun hrunning => hrunning, rfl⟩
  · refine h.idle_setTask htask ?_ ?_ ?_ new <;> rfl

/-- Every call on the controller leaves the start alone. -/
theorem StartsAlone.perform {call : ControllerCall}
    {next : Except PyException (ControllerReply call) → ControllerRoutine Unit}
    {reply : ControllerReply call} (h : StartsAlone s) (hground : Grounded s)
    (hsound : TaskSound s id task) (htask : s.task? id = some task)
    (hroutine : task.routine = .call call next)
    (hperform : s.perform task call = some (reply, u, after)) :
    StartsAlone (u.setTask { after with routine := next (.ok reply) } id) := by
  have hstarting {new : Task} (hstarts : new.starting = true)
      (hoperation : new.operation = task.operation) : task.starting = true :=
    (Task.starting_of_call hroutine).mpr (hoperation ▸ Task.operation_of_starting hstarts)
  have hlive (hstarts : task.starting = true) := h.live_task htask hsound.kind hstarts
  obtain ⟨hrequires, -⟩ := hsound.call hroutine
  cases call with
  | session call => cases hperform
  | runningData =>
      cases hperform
      refine h.setTask htask rfl rfl (hstarting · rfl) ?_ ?_ ?_
      · intro hstarts
        refine ⟨fun hidle => ?_, (hlive (hstarting hstarts rfl)).2.2⟩
        by_contra hrunning
        obtain ⟨state, hstate⟩ :=
          Option.isSome_iff_exists.mp (hground.started (.inl (eq_true_of_ne_false hrunning)))
        simp [eq_true_of_ne_false hrunning, hstate] at hidle
      · exact .inr ⟨fun hrunning => hrunning, rfl⟩
      · refine h.idle_setTask htask ?_ ?_ ?_ _ <;> rfl
  | isRunning | data | applyMessage message | setState data =>
      cases hperform
      refine h.setTask htask rfl rfl (hstarting · rfl) ?_ ?_ ?_
      · exact fun hstarts => (hlive (hstarting hstarts rfl)).2
      · exact .inr ⟨fun hrunning => hrunning, rfl⟩
      · refine h.idle_setTask htask ?_ ?_ ?_ _ <;> rfl
  | discovery =>
      cases hperform
      refine h.setTask htask rfl rfl (hstarting · rfl) ?_ ?_ ?_
      · exact fun hstarts => ⟨(hlive (hstarting hstarts rfl)).2.1, fun _ hsome => hsome⟩
      · exact .inr ⟨fun hrunning => hrunning, rfl⟩
      · refine h.idle_setTask htask ?_ ?_ ?_ _ <;> rfl
  | setDiscovery discovery =>
      cases hperform
      have hstarts := h.starting_of_refreshes hsound htask hroutine hrequires.1
      refine h.setTask htask rfl rfl (hstarting · rfl) ?_ ?_ ?_
      · exact fun _ => ⟨(hlive hstarts).2.1, fun _ hsome => hsome⟩
      · exact .inl ⟨hstarts, (hlive hstarts).1⟩
      · refine h.idle_setTask htask ?_ ?_ ?_ _ <;> rfl
  | runReportLoop =>
      cases hperform
      have hstarts := (Task.starting_of_call hroutine).mpr hrequires.1
      refine h.setTask htask rfl rfl (hstarting · rfl) ?_ ?_ ?_
      · exact fun _ => ⟨nofun, (hlive hstarts).2.2⟩
      · exact .inl ⟨hstarts, (hlive hstarts).1⟩
      · exact nofun
  | stopReportLoop =>
      cases hperform
      have hstop : task.operation = some .stop := hrequires
      have hplace : id.isSome = true := by
        rw [← hsound.kind, hstop]
        rfl
      obtain ⟨k, rfl⟩ := Option.isSome_iff_exists.mp hplace
      have hfields : s.unsubscribed.discovery = s.discovery ∧ s.unsubscribed.reading = none := by
        unfold ControllerSystem.unsubscribed
        split
        · exact ⟨rfl, by assumption⟩
        · exact ⟨rfl, rfl⟩
      refine h.setTask htask s.tasks_unsubscribed rfl (hstarting · rfl) ?_ ?_ ?_
      · intro hstarts
        have hstart := Task.operation_of_starting (hstarting hstarts rfl)
        rw [hstop] at hstart
        cases hstart
      · exact .inr ⟨fun _ => rfl, hfields.1⟩
      · exact fun _ => ⟨rfl, hfields.2⟩
  | subscribe =>
      cases hperform
      have hnone : task.operation = none := hrequires
      refine h.setTask htask rfl rfl (hstarting · rfl) ?_ ?_ ?_
      · intro hstarts
        have hstart := Task.operation_of_starting (hstarting hstarts rfl)
        rw [hnone] at hstart
        cases hstart
      · exact .inr ⟨fun hrunning => hrunning, rfl⟩
      · intro hstopped
        cases id with
        | none =>
            have hrunning := h.running_of_reportTask htask
            rw [show s.running = false from hstopped] at hrunning
            cases hrunning
        | some k =>
            have hkind := hsound.kind
            rw [hnone] at hkind
            cases hkind

/-- A new operation: a start only if no other one is under way. -/
theorem StartsAlone.call (h : StartsAlone s) (options : ControllerOptions) {operation : Operation}
    (hoperation : operation = .start ∨ operation = .stop)
    (hsingle : ¬ (operation = .start ∧ s.tasks.any Task.starting = true)) :
    StartsAlone { s with
      tasks := s.tasks ++ [{ operation, routine := operation.routine options }] } := by
  let new : Task := { operation, routine := operation.routine options }
  have hnone (hstarts : new.starting = true) {i : Nat} {task : Task} (htask : s.tasks[i]? = some task)
      (hstarting : task.starting = true) : False := by
    apply hsingle
    constructor
    · exact Option.some.inj (Task.operation_of_starting hstarts)
    · exact List.any_eq_true.mpr ⟨task, List.mem_of_getElem? htask, hstarting⟩
  have hget {i : Nat} {task : Task} (htask : (s.tasks ++ [new])[i]? = some task) :
      s.tasks[i]? = some task ∨ i = s.tasks.length ∧ task = new := by
    rw [List.getElem?_append] at htask
    split at htask
    · exact .inl htask
    · rename_i hlength
      rw [List.getElem?_singleton] at htask
      split at htask
      · cases htask
        exact .inr ⟨by omega, rfl⟩
      · cases htask
  constructor
  · intro task hmem
    rcases List.mem_append.mp hmem with hold | hnew
    · exact h.operations task hold
    · rw [List.mem_singleton.mp hnew]
      exact hoperation.imp (congrArg some) (congrArg some)
  · intro i j first second hfirst hsecond hstarts hstarts'
    rcases hget hfirst with hold | ⟨hi, rfl⟩
    · rcases hget hsecond with hold' | ⟨-, rfl⟩
      · exact h.single i j first second hold hold' hstarts hstarts'
      · exact (hnone hstarts' hold hstarts).elim
    · rcases hget hsecond with hold' | ⟨hj, -⟩
      · exact (hnone hstarts hold' hstarts').elim
      · rw [hi, hj]
  · intro task hmem hstarts
    rcases List.mem_append.mp hmem with hold | hnew
    · exact h.live task hold hstarts
    · rw [List.mem_singleton.mp hnew]
      exact ⟨nofun, nofun⟩
  · exact h.idle

/-- What the report loop leaves when it takes an item. -/
theorem handleItem_fields (s : ControllerSystem) (item : ReportItem) :
    (s.handleItem item).tasks = s.tasks ∧ (s.handleItem item).running = s.running ∧
      (s.handleItem item).discovery = s.discovery := by
  have hunsubscribed : s.unsubscribed.tasks = s.tasks ∧ s.unsubscribed.running = s.running ∧
      s.unsubscribed.discovery = s.discovery := by
    unfold ControllerSystem.unsubscribed
    split <;> exact ⟨rfl, rfl, rfl⟩
  cases item with
  | message arrival =>
      unfold ControllerSystem.handleItem ControllerSystem.handleMessage
      simp only
      split <;> exact ⟨rfl, rfl, rfl⟩
  | stop | error err => exact hunsubscribed

/-- Every step of a controller that is only started and stopped leaves a start alone. -/
theorem StartsAlone.step (h : StartsAlone s) (hsound : Sound s) {options : ControllerOptions}
    {action : ControllerAction} (hcalls : action.StartsOrStops)
    (hstep : s.step options action = some t) : StartsAlone t := by
  cases ControllerSystem.step_cases options hstep with
  | session hexternal hdispatcher =>
      rename_i action after
      refine h.of_same ?_ ?_ ?_ ?_
      · cases action <;> rfl
      · cases action <;> rfl
      · cases action <;> rfl
      · cases action <;> exact h.idle
  | call hsingle => exact h.call options (hcalls _ rfl) hsingle
  | request htask =>
      exact h.goesOn (hsound.tasks _ _ htask) htask _ rfl (fun hstarts => hstarts) rfl rfl
  | resume htask hroutine =>
      refine h.goesOn (hsound.tasks _ _ htask) htask _ rfl ?_ rfl rfl
      intro hstarts
      have hstart := Task.operation_of_starting hstarts
      exact (Task.starting_of_call hroutine).mpr hstart
  | proceed htask hroutine hperform =>
      exact h.perform hsound.ground (hsound.tasks _ _ htask) htask hroutine hperform
  | take hreading =>
      obtain ⟨htasks, hsame, hdiscovery⟩ := handleItem_fields _ _
      refine h.of_same htasks hsame hdiscovery fun hstopped => ?_
      rw [hsame.trans (h.running_of_reading hreading)] at hstopped
      cases hstopped
  | iterate htask =>
      refine h.of_same rfl rfl rfl fun hstopped => ?_
      rw [h.running_of_reportTask htask] at hstopped
      cases hstopped

/-- Such a controller installs a snapshot only while nothing is read, and for the
discovery that was polled. -/
theorem StartsAlone.installsCurrent (h : StartsAlone s) (hsound : Sound s)
    (action : ControllerAction) : s.InstallsCurrent action := by
  intro task hinstalling
  obtain ⟨id, data, hat⟩ : ∃ id data, s.atCall id = some (task, .setState data) := by
    unfold ControllerSystem.installing at hinstalling
    split at hinstalling
    · rename_i id
      split at hinstalling
      · rename_i found data hat
        cases hinstalling
        exact ⟨id, data, hat⟩
      · cases hinstalling
    · cases hinstalling
  obtain ⟨found, htask, hcall⟩ := Option.bind_eq_some_iff.mp hat
  obtain ⟨next, hroutine, rfl⟩ : ∃ next, task.routine = .call (.setState data) next ∧
      found = task := by
    split at hcall
    · rename_i call next hroutine
      cases hcall
      exact ⟨next, hroutine, rfl⟩
    · cases hcall
  have htaskSound := hsound.tasks id found htask
  obtain ⟨⟨hrefreshes, hidle, discovery, hdiscovery, -⟩, -⟩ := htaskSound.call hroutine
  have hstarts := h.starting_of_refreshes htaskSound htask hroutine hrefreshes
  have hstart := Task.operation_of_starting hstarts
  obtain ⟨-, hrunning, hknown⟩ := h.live_task htask htaskSound.kind hstarts
  constructor
  · exact (hknown discovery hdiscovery).trans hdiscovery.symm
  · intro queue hreading
    have hsome : s.reading = some queue := hreading
    rw [(h.idle (hrunning (hidle hstart))).2] at hsome
    cases hsome

end Steps

theorem ControllerSystem.Fresh.startsAlone {s : ControllerSystem} (h : s.Fresh) : StartsAlone s := by
  obtain ⟨-, -, -, -, htasks, hreport, hreading, -⟩ := h
  constructor
  · rw [htasks]
    exact fun _ hmem => absurd hmem List.not_mem_nil
  · intro i j first second hfirst
    rw [htasks] at hfirst
    cases hfirst
  · rw [htasks]
    exact fun _ hmem => absurd hmem List.not_mem_nil
  · exact fun _ => ⟨hreport, hreading⟩

end Tekmar482
