import Tekmar482.SessionSteps

/-!
# Readers of a session

`read_packet`, `read_message` and `read_until` wait on the condition of the session. A reader
that finds nothing sleeps until it is notified and then looks again. Only a packet, a failed
reader task and the end of `close` notify the readers.
-/

namespace Tekmar482

/-- What a reader reads. -/
inductive ReadRequest where
  | packet
  | message
  | matching (predicate : TrpcPacket → Bool)

/-- What a reader takes from a backlog. -/
inductive ReadItem where
  | packet (packet : Packet)
  | message (arrival : Arrival)
  deriving DecidableEq

/-- The timeout of a reader. One that is not positive has passed before the first look. -/
inductive ReadTimeout where
  | unlimited
  | positive
  | passed
  deriving DecidableEq

/-- The task of a reader. While it waits it is asleep or notified. It returns an item, or
nothing when its time is over or the session is closed. -/
structure Reader where
  request : ReadRequest
  timeout : ReadTimeout
  notified : Bool := false
  task : FutureState (Option ReadItem) := .waiting

namespace Reader

/-- A reader that only a notification wakes up. -/
def asleep (self : Reader) : Bool := self.task = .waiting && !self.notified

/-- The reader is notified. Only a sleeping one takes notice. -/
def notify (self : Reader) : Reader := { self with notified := true }

@[simp] theorem notify_asleep (self : Reader) : self.notify.asleep = false := by
  simp [notify, asleep]

end Reader

namespace Dispatcher

/-- One look of a waiting `read_packet` at the backlog. -/
def readPacket (self : Dispatcher) : Option Packet × Dispatcher :=
  match self.packetBacklog with
  | [] => (none, self)
  | packet :: rest => (some packet, { self with packetBacklog := rest })

/-- One look of a reader at its backlog. -/
def look (self : Dispatcher) : ReadRequest → Option ReadItem × Dispatcher
  | .packet => (self.readPacket.1.map .packet, self.readPacket.2)
  | .message => (self.readMessage.1.map .message, self.readMessage.2)
  | .matching predicate =>
      ((self.readUntil predicate).1.map .message, (self.readUntil predicate).2)

/-- How a reader ends that finds nothing. A timeout error that ended the reader task counts as
the reader's own. -/
def unread (self : Dispatcher) : FutureState (Option ReadItem) :=
  match self.readerError with
  | some .timeoutError => .result none
  | some err => .exception err
  | none => if self.closed then .result none else .waiting

/-- One pass of a reader's loop: what its task is then. -/
def readPass (self : Dispatcher) (request : ReadRequest) :
    FutureState (Option ReadItem) × Dispatcher :=
  match (self.look request).1 with
  | some item => (.result (some item), (self.look request).2)
  | none => (self.unread, self)

end Dispatcher

/-- The steps that read the message backlog. -/
def SessionAction.reads {κ : Type} : SessionAction κ → Bool
  | .backlog .readMessage | .backlog (.readUntil _) => true
  | _ => false

/-- Whether a step of the session notifies the readers. -/
def Session.notifies {κ : Type} (self : Session κ) : SessionAction κ → Bool
  | .packet _ | .readerFails _ => true
  | .closeStep k =>
      match self.closers[k]? with
      | some (.awaitingWriter _) => true
      | _ => false
  | _ => false

/-- A session with its readers. The items read are noted in order, each with its reader. -/
structure SessionReaders (κ : Type) where
  session : Session κ := {}
  readers : List Reader := []
  reads : List (Nat × ReadItem) := []

/-- The steps of a session and its readers. -/
inductive ReaderAction (κ : Type) where
  | session (action : SessionAction κ)
  | read (request : ReadRequest) (timeout : ReadTimeout)
  | passOn (r : Nat)
  | wake (r : Nat)
  | timeout (r : Nat)
  | cancel (r : Nat)

namespace SessionReaders

variable {κ : Type}

/-- The item that a finished pass hands to a reader. -/
def handed (r : Nat) : FutureState (Option ReadItem) → List (Nat × ReadItem)
  | .result (some item) => [(r, item)]
  | _ => []

/-- A reader makes a pass of its loop. -/
def pass (self : SessionReaders κ) (r : Nat) (reader : Reader) : SessionReaders κ where
  session := { self.session with
    dispatcher := (self.session.dispatcher.readPass reader.request).2 }
  readers := self.readers.set r { reader with
    notified := false
    task := (self.session.dispatcher.readPass reader.request).1 }
  reads := self.reads ++ handed r (self.session.dispatcher.readPass reader.request).1

/-- A call starts to read. -/
def startRead (self : SessionReaders κ) (request : ReadRequest) (timeout : ReadTimeout) :
    SessionReaders κ :=
  let reader : Reader := { request, timeout }
  match timeout with
  | .passed => { self with readers := self.readers ++ [{ reader with task := .result none }] }
  | _ => { self with readers := self.readers ++ [reader] }.pass self.readers.length reader

/-- The task of a waiting reader ends without a look. -/
def finishReader (self : SessionReaders κ) (r : Nat) (task : FutureState (Option ReadItem)) :
    SessionReaders κ :=
  { self with readers := self.readers.modify r fun reader => { reader with task } }

variable [DecidableEq κ]

/-- One step of the session or of a reader. The readers of the session are those of the list.
The notification of a cancelled reader may be passed on to another one. -/
def step (self : SessionReaders κ) : ReaderAction κ → Option (SessionReaders κ)
  | .session action =>
      if action.reads then none
      else
        (self.session.step action).map fun session =>
          { self with
            session
            readers :=
              if self.session.notifies action then self.readers.map Reader.notify
              else self.readers }
  | .read request timeout => some (self.startRead request timeout)
  | .passOn r => some { self with readers := self.readers.modify r Reader.notify }
  | .wake r =>
      match self.readers[r]? with
      | none => none
      | some reader =>
          if reader.task = .waiting ∧ reader.notified then some (self.pass r reader) else none
  | .timeout r =>
      match self.readers[r]? with
      | none => none
      | some reader =>
          if reader.task = .waiting ∧ reader.timeout = .positive then
            some (self.finishReader r (.result none))
          else none
  | .cancel r =>
      match self.readers[r]? with
      | none => none
      | some reader =>
          if reader.task = .waiting then some (self.finishReader r .cancelled) else none

/-- A session that was just created, without readers. -/
def Fresh (self : SessionReaders κ) : Prop :=
  self.session.Fresh ∧ self.session.dispatcher.packetBacklog = [] ∧ self.readers = [] ∧
    self.reads = []

/-- What a step can do. -/
inductive Stepped (s : SessionReaders κ) : ReaderAction κ → SessionReaders κ → Prop
  | session {action : SessionAction κ} {session : Session κ}
      (unread : action.reads = false) (stepped : s.session.step action = some session) :
      Stepped s (.session action)
        { s with
          session
          readers := if s.session.notifies action then s.readers.map Reader.notify else s.readers }
  | late (request : ReadRequest) :
      Stepped s (.read request .passed)
        { s with
          readers := s.readers ++
            [{ request, timeout := .passed, task := .result none : Reader }] }
  | read (request : ReadRequest) {timeout : ReadTimeout} (running : timeout ≠ .passed) :
      Stepped s (.read request timeout)
        ({ s with readers := s.readers ++ [{ request, timeout : Reader }] }.pass s.readers.length
          { request, timeout })
  | passOn (r : Nat) :
      Stepped s (.passOn r) { s with readers := s.readers.modify r Reader.notify }
  | wake {r : Nat} {reader : Reader} (known : s.readers[r]? = some reader)
      (waits : reader.task = .waiting) (notified : reader.notified = true) :
      Stepped s (.wake r) (s.pass r reader)
  | timeout {r : Nat} {reader : Reader} (known : s.readers[r]? = some reader)
      (waits : reader.task = .waiting) (timer : reader.timeout = .positive) :
      Stepped s (.timeout r) (s.finishReader r (.result none))
  | cancel {r : Nat} {reader : Reader} (known : s.readers[r]? = some reader)
      (waits : reader.task = .waiting) :
      Stepped s (.cancel r) (s.finishReader r .cancelled)

theorem Stepped.of_step {s t : SessionReaders κ} {action : ReaderAction κ}
    (hstep : s.step action = some t) : Stepped s action t := by
  cases action with
  | session action =>
      obtain ⟨hreads, hmap⟩ := Option.ite_none_left_eq_some.mp hstep
      obtain ⟨session, hsession, rfl⟩ := Option.map_eq_some_iff.mp hmap
      exact .session (eq_false_of_ne_true hreads) hsession
  | read request timeout =>
      cases hstep
      cases timeout with
      | passed => exact .late request
      | unlimited =>
          have hrunning : ReadTimeout.unlimited ≠ .passed := by decide
          exact .read request hrunning
      | positive =>
          have hrunning : ReadTimeout.positive ≠ .passed := by decide
          exact .read request hrunning
  | passOn r =>
      cases hstep
      exact .passOn r
  | wake r =>
      simp only [step] at hstep
      split at hstep
      · cases hstep
      · rename_i reader hreader
        obtain ⟨⟨hwaits, hnotified⟩, ⟨⟩⟩ := Option.ite_none_right_eq_some.mp hstep
        exact .wake hreader hwaits hnotified
  | timeout r =>
      simp only [step] at hstep
      split at hstep
      · cases hstep
      · rename_i reader hreader
        obtain ⟨⟨hwaits, htimer⟩, ⟨⟩⟩ := Option.ite_none_right_eq_some.mp hstep
        exact .timeout hreader hwaits htimer
  | cancel r =>
      simp only [step] at hstep
      split at hstep
      · cases hstep
      · rename_i reader hreader
        obtain ⟨hwaits, ⟨⟩⟩ := Option.ite_none_right_eq_some.mp hstep
        exact .cancel hreader hwaits

end SessionReaders

end Tekmar482
