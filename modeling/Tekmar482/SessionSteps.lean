import Tekmar482.Session

/-!
# The steps of a session

What each step does, and when it can be taken, is said once: every invariant takes
its cases from here.
-/

namespace Tekmar482

namespace Session

variable {κ : Type} [DecidableEq κ]

/-- The calls stay when a cancelled caller removes its update. -/
@[simp] theorem calls_removed (s : Session κ) (call : Call κ) (key : κ) (c : Nat) :
    (if call.wakeup = .cancelled then s.removeCoalescedUpdate key c else s).calls = s.calls := by
  split
  · exact s.removeCoalescedUpdate_calls key c
  · rfl

/-- What a step of a call can do. -/
inductive CallStepped (s : Session κ) (c : Nat) (call : Call κ) : CallAction → Session κ → Prop
  | acquire (phase : call.phase = .acquiring) (uninterrupted : call.interrupted = false)
      (free : s.transactionLock = none) :
      CallStepped s c call .acquire (s.beginTransaction c call)
  | written {message : TrpcPacket} (phase : call.phase = .writing message)
      (uninterrupted : call.interrupted = false) (response : call.response = none) :
      CallStepped s c call .written (s.endTransaction c (.result (.written message)))
  | awaits {message : TrpcPacket} {wait : ResponseWait} (phase : call.phase = .writing message)
      (uninterrupted : call.interrupted = false) (response : call.response = some wait) :
      CallStepped s c call .written (s.modifyCall c fun call => { call with phase := .awaiting })
  | writeFails {message : TrpcPacket} {err : PyException} (phase : call.phase = .writing message)
      (uninterrupted : call.interrupted = false) :
      CallStepped s c call (.writeFails err) (s.endTransaction c (call.raised err))
  | timeout (phase : call.phase = .awaiting)
      (timer : (call.response.any fun wait => wait.hasTimeout) = true) :
      CallStepped s c call .timeout
        { s.modifyCall c fun call => { call with timedOut := true } with
          dispatcher := s.dispatcher.settle c .cancelled }
  | cancel (waits : call.task = .waiting) : CallStepped s c call .cancel (s.cancelCall c call)
  | resume {result : FutureState CallResult}
      (resumes : call.resumption (s.dispatcher.futures c) = some result) :
      CallStepped s c call .resume (s.endTransaction c result)
  | resumeCaller {key : κ} (keyed : call.key = some key) (waits : call.task = .waiting)
      (wakes : call.wakeup ≠ .waiting) :
      CallStepped s c call .resumeCaller
        ((if call.wakeup = .cancelled then s.removeCoalescedUpdate key c else s).modifyCall c
          fun other => { other with task := call.wakeup })

theorem CallStepped.of_callStep {s t : Session κ} {c : Nat} {call : Call κ} {action : CallAction}
    (hstep : s.callStep c call action = some t) : CallStepped s c call action t := by
  cases action with
  | acquire =>
      obtain ⟨⟨hphase, huninterrupted, hfree⟩, ⟨⟩⟩ := Option.ite_none_right_eq_some.mp hstep
      exact .acquire hphase huninterrupted hfree
  | written =>
      simp only [callStep] at hstep
      split at hstep
      · rename_i message hphase huninterrupted
        cases hstep
        unfold writeReturned
        split
        · exact .written hphase huninterrupted ‹_›
        · exact .awaits hphase huninterrupted ‹_›
      · exact nomatch hstep
  | writeFails err =>
      simp only [callStep] at hstep
      split at hstep
      · rename_i message hphase huninterrupted
        cases hstep
        exact .writeFails hphase huninterrupted
      · exact nomatch hstep
  | timeout =>
      obtain ⟨⟨hphase, htimer⟩, ⟨⟩⟩ := Option.ite_none_right_eq_some.mp hstep
      exact .timeout hphase htimer
  | cancel =>
      obtain ⟨hwaits, ⟨⟩⟩ := Option.ite_none_right_eq_some.mp hstep
      exact .cancel hwaits
  | resume =>
      obtain ⟨result, hresult, rfl⟩ := Option.map_eq_some_iff.mp hstep
      exact .resume hresult
  | resumeCaller =>
      obtain ⟨key, hkey, hwaits, hwakes, rfl⟩ := resumeCaller_eq_some hstep
      exact .resumeCaller hkey hwaits hwakes

/-- What the writer loop can do with the first update. -/
inductive Popped (s : Session κ) : Session κ → Prop
  | skipped {key : κ} {c : Nat} {rest : OrderedDict κ Nat} {call : Call κ}
      (idle : s.writer = .idle) (pop : s.coalescedUpdates.popFirst = some ((key, c), rest))
      (known : s.calls[c]? = some call) (cancelled : call.future = .cancelled) :
      Popped s (s.popped key c rest)
  | held {key : κ} {c : Nat} {rest : OrderedDict κ Nat} {call : Call κ}
      (idle : s.writer = .idle) (pop : s.coalescedUpdates.popFirst = some ((key, c), rest))
      (known : s.calls[c]? = some call) (uncancelled : call.future ≠ .cancelled)
      (contended : s.contended = true) :
      Popped s ((s.popped key c rest).hold c)
  | began {key : κ} {c : Nat} {rest : OrderedDict κ Nat} {call : Call κ}
      (idle : s.writer = .idle) (pop : s.coalescedUpdates.popFirst = some ((key, c), rest))
      (known : s.calls[c]? = some call) (uncancelled : call.future ≠ .cancelled)
      (free : s.contended = false) :
      Popped s (((s.popped key c rest).hold c).beginTransaction c { call with phase := .acquiring })

omit [DecidableEq κ] in
theorem Popped.of_popUpdate {s t : Session κ} (hstep : s.popUpdate = some t) : Popped s t := by
  unfold popUpdate at hstep
  split at hstep
  · rename_i key c rest hidle hpop
    split at hstep
    · exact nomatch hstep
    · rename_i call hcall
      split at hstep
      · rename_i hcancelled
        cases hstep
        exact .skipped hidle hpop hcall hcancelled
      · rename_i huncancelled
        split at hstep
        · rename_i hcontended
          cases hstep
          exact .held hidle hpop hcall huncancelled hcontended
        · rename_i hfree
          cases hstep
          exact .began hidle hpop hcall huncancelled (eq_false_of_ne_true hfree)
  · exact nomatch hstep

/-- What a step can do. -/
inductive Stepped (s : Session κ) : SessionAction κ → Session κ → Prop
  | start (request : SessionRequest κ) : Stepped s (.start request) (s.startCall request)
  | onCall {c : Nat} {call : Call κ} {action : CallAction} {t : Session κ}
      (known : s.calls[c]? = some call) (stepped : CallStepped s c call action t) :
      Stepped s (.onCall c action) t
  | pop {t : Session κ} (popped : Popped s t) : Stepped s .pop t
  | writerReturns (idle : s.writer = .idle) (closed : s.dispatcher.closed = true) :
      Stepped s .writerReturns { s with writer := .stopped }
  | packet {packet : Packet} (reading : s.reading = true) :
      Stepped s (.packet packet) (s.dispatchPacket packet)
  | readerFails {err : PyException} (reading : s.reading = true) :
      Stepped s (.readerFails err) (s.setReaderError err)
  | backlog {action : DispatcherAction} {dispatcher : Dispatcher}
      (reader : action.ofReader = true) (read : s.dispatcher.step action = some dispatcher) :
      Stepped s (.backlog action) { s with dispatcher }
  | opened : Stepped s .opened s.opened
  | close : Stepped s .close s.closing
  | cancelWriter {k : Nat} (closer : s.closers[k]? = some .awaitingReader) :
      Stepped s (.closeStep k)
        { s.cancelWriter with closers := s.closers.set k (.awaitingWriter s.held) }
  | failOutstanding {k : Nat} {held : Option Nat}
      (closer : s.closers[k]? = some (.awaitingWriter held)) (released : s.released held = true) :
      Stepped s (.closeStep k) { s.failOutstanding with closers := s.closers.set k .closingTransport }

theorem Stepped.of_step {s t : Session κ} {action : SessionAction κ} (hstep : s.step action = some t) :
    Stepped s action t := by
  cases action with
  | start request =>
      cases hstep
      exact .start request
  | onCall c action =>
      obtain ⟨call, hcall, hcallStep⟩ := Option.bind_eq_some_iff.mp hstep
      exact .onCall hcall (.of_callStep hcallStep)
  | pop => exact .pop (.of_popUpdate hstep)
  | writerReturns =>
      obtain ⟨⟨hidle, -, hclosed⟩, ⟨⟩⟩ := Option.ite_none_right_eq_some.mp hstep
      exact .writerReturns hidle hclosed
  | packet packet =>
      obtain ⟨hreading, ⟨⟩⟩ := Option.ite_none_right_eq_some.mp hstep
      exact .packet hreading
  | readerFails err =>
      obtain ⟨hreading, ⟨⟩⟩ := Option.ite_none_right_eq_some.mp hstep
      exact .readerFails hreading
  | backlog action =>
      obtain ⟨hreader, hread⟩ := Option.ite_none_right_eq_some.mp hstep
      obtain ⟨dispatcher, hdispatcher, rfl⟩ := Option.map_eq_some_iff.mp hread
      exact .backlog hreader hdispatcher
  | opened =>
      cases hstep
      exact .opened
  | close =>
      cases hstep
      exact .close
  | closeStep k =>
      simp only [step, closeStep] at hstep
      split at hstep
      · rename_i hcloser
        cases hstep
        exact .cancelWriter hcloser
      · rename_i held hcloser
        obtain ⟨hreleased, ⟨⟩⟩ := Option.ite_none_right_eq_some.mp hstep
        exact .failOutstanding hcloser hreleased
      · exact nomatch hstep

end Session

end Tekmar482
