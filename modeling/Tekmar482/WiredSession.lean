import Tekmar482.ReadBacklogs
import Tekmar482.WireDelivery

/-!
# A session over a transport

The session writes to its transport, and its read loop is the one reader of the transport. The
loop holds what it has read until it dispatches it. Its task can be cancelled in between, and
the connection can be lost, closed and opened again at any time.
-/

namespace Tekmar482

/-- Where the read loop is. -/
inductive ReadLoop where
  | idle
  | reading (c : Nat)
  | holding (c : Nat) (packet : Packet)
  | failing (err : PyException)
  deriving DecidableEq

/-- A packet that the transport took, with its connection. A transaction writes for its call. -/
structure SentPacket where
  connection : Nat
  call : Option Nat
  packet : Packet
  deriving DecidableEq

/-- A session with its readers and its transport. The packets that the loop has dispatched are
noted in order, each with its connection, and so are the packets that the transport took. -/
structure WiredSession (κ : Type) where
  session : SessionReaders κ := {}
  transport : StreamTransport
  loop : ReadLoop := .idle
  dispatched : List (Nat × Packet) := []
  sent : List SentPacket := []

/-- The steps of a session with its transport. -/
inductive WiredAction (κ : Type) where
  | session (action : ReaderAction κ)
  /-- A packet is written without a transaction. -/
  | writePacket (packet : Packet)
  /-- A callback of a connection, or a step of an opening or a `close`. -/
  | transport (action : StreamAction)
  /-- The loop calls `read_packet`. -/
  | read
  /-- The loop goes on with what it has read. -/
  | dispatch
  /-- The task of the loop is cancelled. -/
  | cancelLoop

namespace StreamTransport

/-- The results of the calls of a connection. -/
def results (self : StreamTransport) (c : Nat) : List ReadResult :=
  match self.connections[c]? with
  | none => []
  | some connection => connection.reader.results

end StreamTransport

/-- The packets that a connection took. -/
def StreamTransport.accepted (self : StreamTransport) (c : Nat) : List Packet :=
  match self.connections[c]? with
  | none => []
  | some connection => connection.accepted

/-- The steps that only the read loop takes. -/
def ReaderAction.ofLoop {κ : Type} : ReaderAction κ → Bool
  | .session (.packet _) | .session (.readerFails _) => true
  | _ => false

/-- The calls of the transport that the session makes. -/
def StreamAction.ofSession : StreamAction → Bool
  | .read _ | .write _ | .cancelRead _ => true
  | _ => false

/-- The write that a step of the session has started, with its call. -/
def Session.started {κ : Type} (before after : Session κ) : Option (Nat × TrpcPacket) :=
  (after.log.drop before.log.length).findSome? fun event =>
    match event with
    | .wrote c _ message => some (c, message)
    | _ => none

namespace WiredSession

variable {κ : Type}

/-- The loop has what its call of `read_packet` gave, if the call has ended. -/
def took (self : WiredSession κ) (c : Nat) (transport : StreamTransport) : WiredSession κ :=
  match (transport.results c)[(self.transport.results c).length]? with
  | none => { self with transport }
  | some (.packet packet) => { self with transport, loop := .holding c packet }
  | some .noPacket => { self with transport, loop := .idle }
  | some (.raised err) => { self with transport, loop := .failing err }

@[simp] theorem took_session (self : WiredSession κ) (c : Nat) (transport : StreamTransport) :
    (self.took c transport).session = self.session := by
  unfold took
  split <;> rfl

@[simp] theorem took_dispatched (self : WiredSession κ) (c : Nat) (transport : StreamTransport) :
    (self.took c transport).dispatched = self.dispatched := by
  unfold took
  split <;> rfl

@[simp] theorem took_sent (self : WiredSession κ) (c : Nat) (transport : StreamTransport) :
    (self.took c transport).sent = self.sent := by
  unfold took
  split <;> rfl

/-- `write_packet` of the transport, up to its wait for the buffer to drain. -/
def handOver (self : WiredSession κ) (call : Option Nat) (packet : Packet) :
    Option (WiredSession κ × Option PyException) := do
  let transport ← self.transport.step (.write packet)
  match transport.errors[self.transport.errors.length]? with
  | some err => some ({ self with transport }, some err)
  | none =>
      let connection ← transport.protocol
      some ({ self with transport, sent := self.sent ++ [{ connection, call, packet }] }, none)

variable [DecidableEq κ]

/-- The write of a transaction: a message that is not handed over ends the transaction. -/
def write (self : WiredSession κ) (c : Nat) (message : TrpcPacket) : Option (WiredSession κ) := do
  match message.toPacket with
  | .error err =>
      let session ← self.session.step (.session (.onCall c (.writeFails err)))
      some { self with session }
  | .ok packet =>
      match ← self.handOver (some c) packet with
      | (next, none) => some next
      | (next, some err) =>
          let session ← next.session.step (.session (.onCall c (.writeFails err)))
          some { next with session }

/-- One step of the session, of its transport or of the read loop. -/
def step (self : WiredSession κ) : WiredAction κ → Option (WiredSession κ)
  | .session action =>
      if action.ofLoop then none
      else do
        let session ← self.session.step action
        match self.session.session.started session.session with
        | none => some { self with session }
        | some (c, message) => WiredSession.write { self with session } c message
  | .writePacket packet =>
      match self.session.session.dispatcher.raiseIfUnavailable with
      | .error _ => some self
      | .ok () => (self.handOver none packet).map Prod.fst
  | .transport action =>
      if action.ofSession then none
      else do
        let transport ← self.transport.step action
        match action with
        | .onReader c _ => some (self.took c transport)
        | _ => some { self with transport }
  | .read =>
      if self.loop = .idle ∧ self.session.session.reading then do
        let transport ← self.transport.step (.read none)
        match transport.errors[self.transport.errors.length]?, self.transport.protocol with
        | none, some c => some (WiredSession.took { self with loop := .reading c } c transport)
        | some err, _ => some { self with transport, loop := .failing err }
        | none, none => none
      else none
  | .dispatch =>
      match self.loop with
      | .holding c packet => do
          let session ← self.session.step (.session (.packet packet))
          some { self with
            session, loop := .idle, dispatched := self.dispatched ++ [(c, packet)] }
      | .failing err => do
          let session ← self.session.step (.session (.readerFails err))
          some { self with session, loop := .idle }
      | _ => none
  | .cancelLoop =>
      match self.loop with
      | .reading c => do
          let transport ← self.transport.step (.cancelRead c)
          some { self with transport, loop := .idle }
      | _ => some { self with loop := .idle }

/-- A session that was just created, over a transport that was just created. -/
def Fresh (self : WiredSession κ) : Prop :=
  self.session.Fresh ∧ self.loop = .idle ∧ self.dispatched = [] ∧ self.sent = [] ∧
    self.transport.connections = [] ∧ self.transport.protocol = none

end WiredSession

/-! ## Results of the transport -/

namespace PacketReader

theorem results_step {self next : PacketReader} {action : Action}
    (h : step self action = some next) : self.results <+: next.results := by
  rcases step_cases h with hreads | hcalledBack
  · cases hreads with
    | expires => exact List.prefix_rfl
    | timesOut => exact List.prefix_append _ _
    | resumes timed =>
        rcases self.resume_cases timed with ⟨packet, rest, -, heq⟩ | ⟨err, -, heq⟩ | ⟨-, -, heq⟩ <;>
          rw [heq]
        · exact List.prefix_append _ _
        · exact List.prefix_append _ _
  · cases hcalledBack <;> exact List.prefix_rfl

end PacketReader

theorem Connection.Moves.results {connection next : Connection} (h : Moves connection next) :
    connection.reader.results <+: next.reader.results := by
  cases h with
  | reads hstep => exact PacketReader.results_step hstep
  | opens | cancels | closeEnds | cancelsClose => exact List.prefix_rfl
  | writes hwrite =>
      obtain ⟨frame, -, rfl⟩ := write_eq_ok hwrite
      exact List.prefix_rfl
  | closes =>
      rw [Connection.close]
      split <;> exact List.prefix_rfl

namespace StreamTransport

open Connection

variable {self next : StreamTransport}

theorem results_setConnection {c : Nat} {connection after : Connection}
    (hconnection : self.connections[c]? = some connection)
    (hafter : connection.reader.results <+: after.reader.results) (d : Nat) :
    self.results d <+: (self.setConnection c after).results d := by
  rw [results, results, setConnection]
  by_cases hsame : c = d
  · subst hsame
    rw [hconnection, getElem?_set_of_mem hconnection]
    exact hafter
  · rw [List.getElem?_set_ne hsame]

theorem Turns.results (h : Turns self next) (hseparated : Separated self) (c : Nat) :
    self.results c <+: next.results c := by
  cases h with
  | stays | raises => exact List.prefix_rfl
  | makes =>
      simp only [StreamTransport.results]
      cases hconnection : self.connections[c]? with
      | none => exact List.nil_prefix
      | some connection =>
          rw [getElem?_concat_of_mem hconnection]
  | opens hconnection hnew =>
      exact results_setConnection hconnection (Moves.opens hnew).results c
  | moves hconnection hmoves => exact results_setConnection hconnection hmoves.results c
  | closes hprotocol hconnection =>
      obtain ⟨current, hcurrent, hlive⟩ := hseparated.current _ hprotocol
      cases hconnection.symm.trans hcurrent
      exact results_setConnection hconnection (Moves.closes hlive.opened).results c

/-! ## Packets that the transport took -/

theorem accepted_setConnection {c : Nat} {connection after : Connection}
    (hconnection : self.connections[c]? = some connection) (d : Nat) :
    (self.setConnection c after).accepted d =
      if d = c then after.accepted else self.accepted d := by
  rw [accepted, accepted, setConnection]
  by_cases hsame : d = c
  · subst hsame
    rw [getElem?_set_of_mem hconnection, if_pos rfl]
  · rw [List.getElem?_set_ne (Ne.symm hsame), if_neg hsame]

theorem accepted_kept {c : Nat} {connection : Connection}
    (hconnection : self.connections[c]? = some connection) (after : Connection)
    (hafter : after.accepted = connection.accepted) (d : Nat) :
    (self.setConnection c after).accepted d = self.accepted d := by
  rw [accepted_setConnection hconnection]
  split
  · rename_i hsame
    rw [hsame, hafter, accepted, hconnection]
  · rfl

theorem accepted_reader {c : Nat} {readerAction : PacketReader.Action}
    (h : (do
      let connection ← self.connections[c]?
      let after ← connection.step readerAction
      some (self.setConnection c after)) = some next) (d : Nat) :
    next.accepted d = self.accepted d := by
  obtain ⟨connection, hconnection, h⟩ := Option.bind_eq_some_iff.mp h
  obtain ⟨after, hafter, h⟩ := Option.bind_eq_some_iff.mp h
  obtain ⟨reader, -, rfl⟩ := Option.map_eq_some_iff.mp hafter
  obtain rfl := Option.some.inj h
  exact accepted_kept hconnection { connection with reader := reader } rfl d

/-- Only a write hands a packet over. -/
theorem accepted_step {action : StreamAction} (h : step self action = some next)
    (hwrite : ∀ packet, action ≠ .write packet) (d : Nat) : next.accepted d = self.accepted d := by
  cases action with
  | made =>
      obtain rfl := Option.some.inj h
      simp only [accepted]
      rcases Nat.lt_trichotomy d self.connections.length with hlt | heq | hgt
      · rw [List.getElem?_append_left hlt]
      · subst heq
        rw [List.getElem?_concat_length, List.getElem?_eq_none_iff.mpr le_rfl]
      · rw [List.getElem?_eq_none_iff.mpr hgt.le, List.getElem?_eq_none_iff.mpr]
        rw [List.length_append, List.length_singleton]
        exact hgt
  | opened c =>
      obtain ⟨connection, hconnection, h⟩ := Option.bind_eq_some_iff.mp h
      obtain ⟨-, h⟩ := Option.ite_none_left_eq_some.mp h
      obtain rfl := Option.some.inj h
      exact accepted_kept hconnection { connection with opened := true } rfl d
  | onReader c readerAction =>
      cases readerAction with
      | readPacket timeout => cases h
      | _ => exact accepted_reader h d
  | read timeout =>
      obtain ⟨-, h⟩ := Option.ite_none_right_eq_some.mp h
      cases hprotocol : self.protocol with
      | none =>
          rw [requireProtocol, hprotocol] at h
          obtain rfl := Option.some.inj h
          rfl
      | some c =>
          rw [requireProtocol, hprotocol] at h
          exact accepted_reader h d
  | write packet => exact absurd rfl (hwrite packet)
  | cancelRead c =>
      obtain ⟨connection, hconnection, h⟩ := Option.bind_eq_some_iff.mp h
      obtain rfl := Option.some.inj h
      exact accepted_kept hconnection
        { connection with reader := { connection.reader with task := .idle } } rfl d
  | close =>
      rw [step] at h
      cases hprotocol : self.protocol with
      | none =>
          rw [hprotocol] at h
          obtain rfl := Option.some.inj h
          rfl
      | some c =>
          rw [hprotocol] at h
          obtain ⟨connection, hconnection, h⟩ := Option.bind_eq_some_iff.mp h
          obtain rfl := Option.some.inj h
          refine accepted_kept hconnection connection.close ?_ d
          rw [Connection.close]
          split <;> rfl
  | closeEnd c =>
      obtain ⟨connection, hconnection, h⟩ := Option.bind_eq_some_iff.mp h
      obtain ⟨-, h⟩ := Option.ite_none_right_eq_some.mp h
      obtain rfl := Option.some.inj h
      exact accepted_kept hconnection connection.closeEnd rfl d
  | cancelClose c =>
      obtain ⟨connection, hconnection, h⟩ := Option.bind_eq_some_iff.mp h
      obtain ⟨-, h⟩ := Option.ite_none_right_eq_some.mp h
      obtain rfl := Option.some.inj h
      exact accepted_kept hconnection { connection with closing := false } rfl d

/-- A write hands its packet to the current connection, or raises. -/
theorem accepted_write {packet : Packet} (h : step self (.write packet) = some next) :
    (∃ err, next = self.raised err) ∨
      ∃ c, next.protocol = some c ∧ next.errors = self.errors ∧
        ∀ d, next.accepted d = self.accepted d ++ if d = c then [packet] else [] := by
  rw [step, requireProtocol] at h
  cases hprotocol : self.protocol with
  | none =>
      rw [hprotocol] at h
      obtain rfl := Option.some.inj h
      exact .inl ⟨_, rfl⟩
  | some c =>
      rw [hprotocol] at h
      obtain ⟨connection, hconnection, h⟩ := Option.bind_eq_some_iff.mp h
      cases hwrite : connection.write packet with
      | error err =>
          rw [hwrite] at h
          obtain rfl := Option.some.inj h
          exact .inl ⟨err, rfl⟩
      | ok after =>
          rw [hwrite] at h
          obtain rfl := Option.some.inj h
          refine .inr ⟨c, hprotocol, rfl, fun d => ?_⟩
          obtain ⟨frame, -, rfl⟩ := write_eq_ok hwrite
          rw [accepted_setConnection hconnection]
          split
          · rename_i hsame
            rw [hsame, accepted, hconnection]
          · exact (List.append_nil _).symm

end StreamTransport

/-! ## One step -/

namespace WiredSession

open Machine

variable {κ : Type} [DecidableEq κ]

/-- What the steps are made of. -/
inductive Moves (s : WiredSession κ) : WiredSession κ → Prop
  | session {action : ReaderAction κ} {session : SessionReaders κ} (other : action.ofLoop = false)
      (stepped : s.session.step action = some session) : Moves s { s with session }
  | transport {action : StreamAction} {transport : StreamTransport}
      (stepped : s.transport.step action = some transport)
      (kept : ∀ d, transport.accepted d = s.transport.accepted d) : Moves s { s with transport }
  | takes {action : StreamAction} {transport : StreamTransport} (c : Nat)
      (stepped : s.transport.step action = some transport)
      (kept : ∀ d, transport.accepted d = s.transport.accepted d) : Moves s (s.took c transport)
  | hands {packet : Packet} {transport : StreamTransport} {connection : Nat} (call : Option Nat)
      (stepped : s.transport.step (.write packet) = some transport)
      (taken : ∀ d, transport.accepted d =
        s.transport.accepted d ++ if d = connection then [packet] else []) :
      Moves s { s with transport, sent := s.sent ++ [{ connection, call, packet }] }
  | reads (c : Nat) : Moves s { s with loop := .reading c }
  | fails (err : PyException) : Moves s { s with loop := .failing err }
  | rests : Moves s { s with loop := .idle }
  | dispatches {c : Nat} {packet : Packet} {session : SessionReaders κ}
      (holds : s.loop = .holding c packet)
      (stepped : s.session.step (.session (.packet packet)) = some session) :
      Moves s { s with session, loop := .idle, dispatched := s.dispatched ++ [(c, packet)] }
  | ends {err : PyException} {session : SessionReaders κ}
      (stepped : s.session.step (.session (.readerFails err)) = some session) :
      Moves s { s with session, loop := .idle }

/-- A packet is handed over, or the transport raises. -/
theorem handOver_moves {s next : WiredSession κ} {call : Option Nat} {packet : Packet}
    {err : Option PyException} (h : s.handOver call packet = some (next, err)) :
    Moves s next ∧ next.session = s.session ∧
      ((∃ raised, err = some raised) ∧ next.sent = s.sent ∨
        ∃ connection : Nat, err = none ∧
          next.sent = s.sent ++ [(⟨connection, call, packet⟩ : SentPacket)]) := by
  obtain ⟨transport, htransport, h⟩ := Option.bind_eq_some_iff.mp h
  rcases StreamTransport.accepted_write htransport with
    ⟨raised, rfl⟩ | ⟨c, hprotocol, herrors, htaken⟩
  · rw [StreamTransport.raised, List.getElem?_concat_length] at h
    obtain ⟨rfl, rfl⟩ := Prod.mk.inj (Option.some.inj h)
    exact ⟨.transport htransport fun _ => rfl, rfl, .inl ⟨⟨raised, rfl⟩, rfl⟩⟩
  · rw [herrors, List.getElem?_eq_none_iff.mpr le_rfl, hprotocol] at h
    obtain ⟨rfl, rfl⟩ := Prod.mk.inj (Option.some.inj h)
    exact ⟨.hands call htransport htaken, rfl, .inr ⟨c, rfl, rfl⟩⟩

theorem write_moves {s next : WiredSession κ} {c : Nat} {message : TrpcPacket}
    (h : s.write c message = some next) : Relation.ReflTransGen Moves s next := by
  rw [write] at h
  split at h
  · obtain ⟨session, hsession, h⟩ := Option.bind_eq_some_iff.mp h
    obtain rfl := Option.some.inj h
    exact .single (.session rfl hsession)
  · obtain ⟨⟨handed, err⟩, hhanded, h⟩ := Option.bind_eq_some_iff.mp h
    have hmoves := (handOver_moves hhanded).1
    cases err with
    | none =>
        obtain rfl := Option.some.inj h
        exact .single hmoves
    | some err =>
        obtain ⟨session, hsession, h⟩ := Option.bind_eq_some_iff.mp h
        obtain rfl := Option.some.inj h
        exact .tail (.single hmoves) (.session rfl hsession)

theorem step_moves {s next : WiredSession κ} {action : WiredAction κ}
    (h : s.step action = some next) : Relation.ReflTransGen Moves s next := by
  cases action with
  | session action =>
      obtain ⟨hother, h⟩ := Option.ite_none_left_eq_some.mp h
      obtain ⟨session, hsession, h⟩ := Option.bind_eq_some_iff.mp h
      have hmoves := Moves.session (eq_false_of_ne_true hother) hsession
      split at h
      · obtain rfl := Option.some.inj h
        exact .single hmoves
      · exact .trans (.single hmoves) (write_moves h)
  | writePacket packet =>
      rw [step] at h
      split at h
      · obtain rfl := Option.some.inj h
        exact .refl
      · obtain ⟨⟨handed, err⟩, hhanded, rfl⟩ := Option.map_eq_some_iff.mp h
        exact .single (handOver_moves hhanded).1
  | transport action =>
      obtain ⟨hother, h⟩ := Option.ite_none_left_eq_some.mp h
      obtain ⟨transport, htransport, h⟩ := Option.bind_eq_some_iff.mp h
      have hkept := StreamTransport.accepted_step htransport
        fun packet hwrite => hother (by rw [hwrite]; rfl)
      split at h
      · obtain rfl := Option.some.inj h
        exact .single (.takes _ htransport hkept)
      · obtain rfl := Option.some.inj h
        exact .single (.transport htransport hkept)
  | read =>
      obtain ⟨-, h⟩ := Option.ite_none_right_eq_some.mp h
      obtain ⟨transport, htransport, h⟩ := Option.bind_eq_some_iff.mp h
      have hkept := StreamTransport.accepted_step htransport fun packet hwrite => by cases hwrite
      split at h
      · obtain rfl := Option.some.inj h
        exact .tail (.single (.reads _)) (.takes _ htransport hkept)
      · obtain rfl := Option.some.inj h
        exact .tail (.single (.transport htransport hkept)) (.fails _)
      · cases h
  | dispatch =>
      rw [step] at h
      split at h
      · rename_i hholds
        obtain ⟨session, hsession, h⟩ := Option.bind_eq_some_iff.mp h
        obtain rfl := Option.some.inj h
        exact .single (.dispatches hholds hsession)
      · obtain ⟨session, hsession, h⟩ := Option.bind_eq_some_iff.mp h
        obtain rfl := Option.some.inj h
        exact .single (.ends hsession)
      · cases h
  | cancelLoop =>
      rw [step] at h
      split at h
      · obtain ⟨transport, htransport, h⟩ := Option.bind_eq_some_iff.mp h
        obtain rfl := Option.some.inj h
        have hkept := StreamTransport.accepted_step htransport fun packet hwrite => by cases hwrite
        exact .tail (.single (.transport htransport hkept)) .rests
      · obtain rfl := Option.some.inj h
        exact .single .rests

/-- What every move keeps holds in every run. -/
theorem invariant_run {P : WiredSession κ → Prop}
    (hmoves : ∀ s next, P s → Moves s next → P next) {start t : WiredSession κ}
    {actions : List (WiredAction κ)} (hstart : P start) (hrun : Run step start actions t) :
    P t := by
  refine hrun.invariant (fun s action next hs _ hstep => ?_) hstart
  have hsteps := step_moves hstep
  clear hstep
  induction hsteps with
  | refl => exact hs
  | tail _ hmove ih => exact hmoves _ _ ih hmove

end WiredSession

end Tekmar482
