import Tekmar482.Client
import Tekmar482.MessageConservation
import Tekmar482.TrpcCodec

/-!
# The inventory walk on a session

The walk reads inventory responses from the session's message backlog while
messages arrive in bursts. A burst is dispatched before the waiting walk goes on.
After the last burst the walk's time is over.
-/

namespace Tekmar482

namespace Dispatcher

/-- The dispatcher after a burst of messages. -/
def dispatchBurst (self : Dispatcher) (burst : List TrpcPacket) : Dispatcher :=
  burst.foldl dispatchMessage self

/-- A `read_until` looks at the backlog at first and after every burst. It is over
when there is a message, an error of the reader, a closed session or no more time. -/
def awaitMessage (predicate : TrpcPacket → Bool) :
    Dispatcher → List (List TrpcPacket) →
      Except PyException (Option Arrival) × Dispatcher × List (List TrpcPacket)
  | self, [] =>
      match self.readUntil predicate with
      | (some arrival, after) => (.ok (some arrival), after, [])
      | (none, _) =>
          match self.readerError with
          | some err => (.error err, self, [])
          | none => (.ok none, self, [])
  | self, burst :: rest =>
      match self.readUntil predicate with
      | (some arrival, after) => (.ok (some arrival), after, burst :: rest)
      | (none, _) =>
          match self.readerError with
          | some err => (.error err, self, burst :: rest)
          | none =>
              if self.closed then (.ok none, self, burst :: rest)
              else (self.dispatchBurst burst).awaitMessage predicate rest

end Dispatcher

namespace Client

/-- Run a program that sends and reads messages, up to its outcome. The commands
are written at once, and only waiting for a message takes time. -/
def serve {α : Type} : ClientRoutine α → Dispatcher → List (List TrpcPacket) →
    Option (Except PyException α)
  | .pure a, _, _ => some (.ok a)
  | .raise err, _, _ => some (.error err)
  | .call (.send command) next, dispatcher, bursts =>
      serve (next command.toMessage) dispatcher bursts
  | .call .deadlineExpired next, dispatcher, bursts => serve (next (.ok false)) dispatcher bursts
  | .call (.readUntil predicate) next, dispatcher, bursts =>
      let (outcome, after, rest) := dispatcher.awaitMessage predicate bursts
      serve (next (outcome.map (Option.map Arrival.message))) after rest
  | _, _, _ => none

/-- The addresses that end an inventory. -/
def endsInventory (address : Int) : Bool := address = 0 ∨ address = ThaValue.NA_16

/-- The addresses of the inventory responses among some messages, in order. -/
def responseAddresses (messages : List TrpcPacket) : List Int :=
  (messages.filter isInventoryResponse).filterMap fun message => message.get "address"

/-- The distinct addresses of the inventory responses before the first terminator,
in the order of first arrival. -/
def inventoryAddresses (messages : List TrpcPacket) : List Int :=
  ((responseAddresses messages).takeWhile fun address => !endsInventory address).eraseDups

/-- Whether the walk sees only its own answers: whatever arrives after its request,
at most `limit` messages at once, its result is made of these messages alone. -/
def SeesOwnAnswers (limit : Nat) (dispatcher : Dispatcher) : Prop :=
  ∀ (startAddress : Int) (request : TrpcPacket) (bursts : List (List TrpcPacket)) (fuel : Nat),
    (TrpcCommand.request .deviceInventory (addressFields startAddress)).toMessage = .ok request →
    (∀ burst ∈ bursts, burst.length ≤ limit) →
    (∀ message ∈ bursts.flatten, ∃ data, TrpcPacket.fromBytes data = .ok message) →
    dispatcher.messageBacklog.length + bursts.flatten.length < fuel →
    serve (getInventoryAddresses fuel startAddress) dispatcher bursts =
      some (.ok (inventoryAddresses bursts.flatten))

/-! ## Running the loop -/

section Serve

variable {α : Type} (dispatcher : Dispatcher) (bursts : List (List TrpcPacket))

theorem serve_deadlineExpired (f : Bool → ClientRoutine α) :
    serve (Routine.perform SessionCall.deadlineExpired >>= f) dispatcher bursts =
      serve (f false) dispatcher bursts := rfl

theorem serve_send {command : TrpcCommand} {message : TrpcPacket} (f : TrpcPacket → ClientRoutine α)
    (h : command.toMessage = .ok message) :
    serve (Routine.perform (SessionCall.send command) >>= f) dispatcher bursts =
      serve (f message) dispatcher bursts := by
  change serve (Routine.bind _ f) dispatcher bursts = _
  simp only [Routine.perform, Routine.bind, serve, h]

theorem serve_readUntil {predicate : TrpcPacket → Bool} {found : Option Arrival}
    {after : Dispatcher} {rest : List (List TrpcPacket)}
    (f : Option TrpcPacket → ClientRoutine α)
    (h : dispatcher.awaitMessage predicate bursts = (.ok found, after, rest)) :
    serve (Routine.perform (SessionCall.readUntil predicate) >>= f) dispatcher bursts =
      serve (f (found.map Arrival.message)) after rest := by
  change serve (Routine.bind _ f) dispatcher bursts = _
  simp only [Routine.perform, Routine.bind, serve, h, Except.map]

end Serve

/-! ## The backlog under the walk -/

/-- The inventory responses among some messages. -/
def responses (messages : List TrpcPacket) : List TrpcPacket := messages.filter isInventoryResponse

/-- The inventory responses in the backlog. -/
def unread (dispatcher : Dispatcher) : List TrpcPacket :=
  responses (dispatcher.messageBacklog.map Arrival.message)

@[simp] theorem responses_append (first second : List TrpcPacket) :
    responses (first ++ second) = responses first ++ responses second :=
  List.filter_append ..

/-- An open session, where no other request waits for an inventory response. -/
structure Walkable (dispatcher : Dispatcher) : Prop where
  unclaimed : ∀ item ∈ dispatcher.pending, ∀ message, isInventoryResponse message = true →
    item.responseMatch.accepts message = false
  healthy : dispatcher.readerError = none
  isOpen : dispatcher.closed = false

section Backlog

variable {dispatcher : Dispatcher}

/-- A message goes to the end of the backlog, or to a request if it is no response. -/
theorem Walkable.dispatch (h : Walkable dispatcher) (message : TrpcPacket) :
    Walkable (dispatcher.dispatchMessage message) ∧
      (dispatcher.dispatchMessage message).maxMessageBacklog = dispatcher.maxMessageBacklog ∧
      ((dispatcher.dispatchMessage message).messageBacklog =
          BoundedQueue.push dispatcher.maxMessageBacklog.toNat dispatcher.messageBacklog
            (dispatcher.arrival message) ∨
        isInventoryResponse message = false ∧
          (dispatcher.dispatchMessage message).messageBacklog = dispatcher.messageBacklog) := by
  have hsubset := dispatcher.offerLoop_subset message dispatcher.pending dispatcher.pending
  have hunclaimed : ∀ item ∈ (dispatcher.offerLoop message dispatcher.pending
      dispatcher.pending).1, ∀ other, isInventoryResponse other = true →
        item.responseMatch.accepts other = false := fun item hitem =>
    h.unclaimed item (hsubset hitem)
  rcases Dispatcher.dispatchMessage_cases message dispatcher with
    ⟨item, hitem, hafter⟩ | ⟨-, hafter⟩
  · obtain ⟨hmem, haccepts⟩ := Dispatcher.offerLoop_some hitem
    have hother : isInventoryResponse message = false := by
      by_contra hresponse
      rw [h.unclaimed item hmem message (eq_true_of_ne_false hresponse)] at haccepts
      cases haccepts
    rw [hafter]
    refine ⟨⟨?_, ?_, ?_⟩, ?_, .inr ⟨hother, ?_⟩⟩
    · simp only
      split <;> exact hunclaimed
    · simp only
      split <;> exact h.healthy
    · simp only
      split <;> exact h.isOpen
    · simp only
      split <;> rfl
    · simp only
      split <;> rfl
  · rw [hafter]
    exact ⟨⟨hunclaimed, h.healthy, h.isOpen⟩, rfl, .inl rfl⟩

/-- A burst pushes its messages, except some that are no responses. -/
theorem Walkable.dispatchBurst (h : Walkable dispatcher) (burst : List TrpcPacket) :
    Walkable (dispatcher.dispatchBurst burst) ∧
      (dispatcher.dispatchBurst burst).maxMessageBacklog = dispatcher.maxMessageBacklog ∧
      ∃ queued : List TrpcPacket, queued.Sublist burst ∧ responses queued = responses burst ∧
        (dispatcher.dispatchBurst burst).messageBacklog.map Arrival.message =
          queued.foldl (BoundedQueue.push dispatcher.maxMessageBacklog.toNat)
            (dispatcher.messageBacklog.map Arrival.message) := by
  induction burst generalizing dispatcher with
  | nil => exact ⟨h, rfl, [], List.Sublist.refl _, rfl, rfl⟩
  | cons message rest ih =>
      obtain ⟨hnext, hcapacity, hbacklog⟩ := h.dispatch message
      obtain ⟨hlast, hsame, queued, hsublist, hresponses, hqueued⟩ := ih hnext
      rw [hcapacity] at hqueued
      refine ⟨hlast, hsame.trans hcapacity, ?_⟩
      rcases hbacklog with hpushed | ⟨hother, hkept⟩
      · refine ⟨message :: queued, hsublist.cons_cons message, ?_, ?_⟩
        · change responses ([message] ++ queued) = responses ([message] ++ rest)
          rw [responses_append, responses_append, hresponses]
        · rw [hpushed, BoundedQueue.map_push] at hqueued
          exact hqueued
      · refine ⟨queued, hsublist.cons message, ?_, ?_⟩
        · rw [hresponses, responses, responses, List.filter_cons_of_neg (by simp [hother])]
        · rw [hkept] at hqueued
          exact hqueued

/-- With no response left in the backlog, a burst that fits leaves exactly its own. -/
theorem unread_dispatchBurst (h : Walkable dispatcher) {burst : List TrpcPacket}
    (hunread : unread dispatcher = [])
    (hfits : (burst.length : Int) ≤ dispatcher.maxMessageBacklog) :
    unread (dispatcher.dispatchBurst burst) = responses burst := by
  obtain ⟨-, -, queued, hsublist, hresponses, hqueued⟩ := h.dispatchBurst burst
  rw [unread, hqueued, ← hresponses]
  by_cases hne : queued = []
  · rw [hne]
    exact hunread
  · have hlength := hsublist.length_le
    -- Only older messages are dropped, and no response is among them.
    have hdropped : (dispatcher.messageBacklog.map Arrival.message ++ queued).length -
        dispatcher.maxMessageBacklog.toNat ≤
          (dispatcher.messageBacklog.map Arrival.message).length := by
      rw [List.length_append]
      omega
    rw [BoundedQueue.foldl_push hne, BoundedQueue.keepNewest,
      List.drop_append_of_le_length hdropped, responses_append]
    have hnone : responses ((dispatcher.messageBacklog.map Arrival.message).drop
        ((dispatcher.messageBacklog.map Arrival.message ++ queued).length -
          dispatcher.maxMessageBacklog.toNat)) = [] := by
      have hkept := (List.drop_sublist ((dispatcher.messageBacklog.map Arrival.message ++
        queued).length - dispatcher.maxMessageBacklog.toNat)
          (dispatcher.messageBacklog.map Arrival.message)).filter isInventoryResponse
      rw [← responses, ← responses, ← unread, hunread] at hkept
      exact List.sublist_nil.mp hkept
    rw [hnone, List.nil_append]

theorem readUntil_of_unread_nil (h : unread dispatcher = []) :
    (dispatcher.readUntil isInventoryResponse).1 = none := by
  rw [(Dispatcher.readUntil_eq dispatcher isInventoryResponse).1, BoundedQueue.read,
    List.find?_eq_none]
  intro arrival harrival
  exact List.filter_eq_nil_iff.mp h arrival.message (List.mem_map_of_mem harrival)

/-- Reading takes the oldest response and leaves the others. -/
theorem readUntil_of_unread_cons (hwalkable : Walkable dispatcher) {message : TrpcPacket}
    {others : List TrpcPacket} (h : unread dispatcher = message :: others) :
    ∃ arrival after, dispatcher.readUntil isInventoryResponse = (some arrival, after) ∧
      arrival.message = message ∧ Walkable after ∧ unread after = others ∧
      after.maxMessageBacklog = dispatcher.maxMessageBacklog := by
  let accepts := fun arrival : Arrival => isInventoryResponse arrival.message
  obtain ⟨hfound, hafter⟩ := Dispatcher.readUntil_eq dispatcher isInventoryResponse
  have hfilter : (dispatcher.messageBacklog.filter accepts).map Arrival.message =
      message :: others := by
    rw [← h, unread, responses, List.filter_map]
    rfl
  obtain ⟨arrival, rest, hlist, hmessage, hothers⟩ := List.map_eq_cons_iff.mp hfilter
  have hhead : dispatcher.messageBacklog.find? accepts = some arrival := by
    rw [← List.head?_filter, hlist]
    rfl
  have htail : (BoundedQueue.read accepts dispatcher.messageBacklog).2.filter accepts = rest := by
    rw [BoundedQueue.filter_read, hlist]
    rfl
  refine ⟨arrival, (dispatcher.readUntil isInventoryResponse).2, ?_, hmessage, ?_, ?_, ?_⟩
  · exact Prod.ext (hfound.trans hhead) rfl
  · rw [hafter]
    exact ⟨hwalkable.unclaimed, hwalkable.healthy, hwalkable.isOpen⟩
  · rw [hafter, unread, responses, List.filter_map, ← hothers, ← htail]
    rfl
  · rw [hafter]

/-- A response in the backlog is read at once. -/
theorem awaitMessage_of_readUntil {arrival : Arrival} {after : Dispatcher}
    (h : dispatcher.readUntil isInventoryResponse = (some arrival, after))
    (bursts : List (List TrpcPacket)) :
    dispatcher.awaitMessage isInventoryResponse bursts = (.ok (some arrival), after, bursts) := by
  cases bursts with
  | nil => rw [Dispatcher.awaitMessage, h]
  | cons burst rest => rw [Dispatcher.awaitMessage, h]

/-- Without a response in the backlog the reader waits for the next burst. -/
theorem awaitMessage_cons (hwalkable : Walkable dispatcher) (hunread : unread dispatcher = [])
    (burst : List TrpcPacket) (rest : List (List TrpcPacket)) :
    dispatcher.awaitMessage isInventoryResponse (burst :: rest) =
      (dispatcher.dispatchBurst burst).awaitMessage isInventoryResponse rest := by
  have hnone := readUntil_of_unread_nil hunread
  rw [Dispatcher.awaitMessage]
  split
  · rename_i hread
    rw [hread] at hnone
    cases hnone
  · simp only [hwalkable.healthy, hwalkable.isOpen, Bool.false_eq_true, if_false]

/-- The bursts of a walk fit its backlog. -/
def Fits (dispatcher : Dispatcher) (bursts : List (List TrpcPacket)) : Prop :=
  ∀ burst ∈ bursts, (burst.length : Int) ≤ dispatcher.maxMessageBacklog

/-- Waiting for a response gives the oldest one left in the backlog or arriving, and
leaves the others; without one it takes until the time is over. -/
theorem awaitMessage_spec (hwalkable : Walkable dispatcher) {bursts : List (List TrpcPacket)}
    (hfits : Fits dispatcher bursts) :
    match unread dispatcher ++ responses bursts.flatten with
    | [] => ∃ after, dispatcher.awaitMessage isInventoryResponse bursts = (.ok none, after, [])
    | message :: others => ∃ arrival after rest,
        dispatcher.awaitMessage isInventoryResponse bursts = (.ok (some arrival), after, rest) ∧
          arrival.message = message ∧ Walkable after ∧ Fits after rest ∧
          unread after ++ responses rest.flatten = others := by
  induction bursts generalizing dispatcher with
  | nil =>
      cases hunread : unread dispatcher with
      | nil =>
          have hnone := readUntil_of_unread_nil hunread
          refine ⟨dispatcher, ?_⟩
          rw [Dispatcher.awaitMessage]
          split
          · rename_i hread
            rw [hread] at hnone
            cases hnone
          · rw [hwalkable.healthy]
      | cons message others =>
          obtain ⟨arrival, after, hread, hmessage, hafter, hothers, -⟩ :=
            readUntil_of_unread_cons hwalkable hunread
          refine ⟨arrival, after, [], ?_, hmessage, hafter, ?_, ?_⟩
          · exact awaitMessage_of_readUntil hread []
          · intro burst hburst
            cases hburst
          · rw [hothers]
            rfl
  | cons burst rest ih =>
      cases hunread : unread dispatcher with
      | nil =>
          have hroom := hfits burst List.mem_cons_self
          obtain ⟨hafter, hcapacity, -⟩ := hwalkable.dispatchBurst burst
          have hrest : Fits (dispatcher.dispatchBurst burst) rest := by
            intro other hother
            rw [hcapacity]
            exact hfits other (List.mem_cons_of_mem burst hother)
          have hnext := ih hafter hrest
          rw [unread_dispatchBurst hwalkable hunread hroom] at hnext
          rw [awaitMessage_cons hwalkable hunread, List.nil_append, List.flatten_cons,
            responses_append]
          exact hnext
      | cons message others =>
          obtain ⟨arrival, after, hread, hmessage, hafter, hothers, hcapacity⟩ :=
            readUntil_of_unread_cons hwalkable hunread
          refine ⟨arrival, after, burst :: rest, ?_, hmessage, hafter, ?_, ?_⟩
          · exact awaitMessage_of_readUntil hread (burst :: rest)
          · intro other hother
            rw [hcapacity]
            exact hfits other hother
          · rw [hothers]
            rfl

end Backlog

/-! ## The walk -/

/-- The distinct addresses up to the first terminator, after those known already. -/
def collect (known addresses : List Int) : List Int :=
  known ++ ((addresses.takeWhile fun address => !endsInventory address).filter fun address =>
    address ∉ known).eraseDups

theorem collect_nil (known : List Int) : collect known [] = known := List.append_nil known

theorem collect_end {known : List Int} {address : Int} (rest : List Int)
    (h : endsInventory address = true) : collect known (address :: rest) = known := by
  simp [collect, h]

/-- The loop's step: a known address changes nothing, and a new one is appended. -/
theorem collect_cons {known : List Int} {address : Int} (rest : List Int)
    (h : endsInventory address = false) :
    collect known (address :: rest) =
      collect (if address ∈ known then known else known ++ [address]) rest := by
  by_cases hmem : address ∈ known
  · simp [collect, h, hmem]
  · have hfilter (addresses : List Int) :
        (addresses.filter fun other => other ∉ known).filter (fun other => !other == address) =
          addresses.filter fun other => other ∉ known ++ [address] := by
      rw [List.filter_filter]
      apply List.filter_congr
      intro other _
      by_cases hsame : other = address <;> simp [hsame]
    rw [if_neg hmem, collect, List.takeWhile_cons, h, Bool.not_false, if_pos rfl,
      List.filter_cons_of_pos (by simpa using hmem), List.eraseDups_cons, hfilter, collect,
      List.append_assoc]
    rfl

section Loop

variable {dispatcher after : Dispatcher} {bursts rest : List (List TrpcPacket)}

/-- One turn of the loop that reads a response. -/
theorem serve_inventoryLoop_read (fuel : Nat) (known : List Int) {arrival : Arrival} {address : Int}
    (hawait : dispatcher.awaitMessage isInventoryResponse bursts = (.ok (some arrival), after, rest))
    (haddress : arrival.message.get "address" = some address) :
    serve (inventoryLoop (fuel + 1) known) dispatcher bursts =
      if endsInventory address then some (.ok known)
      else serve (inventoryLoop fuel (if address ∈ known then known else known ++ [address]))
        after rest := by
  have hrequire : arrival.message.require "address" = .ok address := by
    rw [TrpcPacket.require, haddress]
  refine (serve_deadlineExpired dispatcher bursts _).trans ?_
  refine (serve_readUntil dispatcher bursts _ hawait).trans ?_
  change serve (Routine.ofExcept (arrival.message.require "address") >>= _) _ _ = _
  rw [hrequire]
  change serve (if address = 0 ∨ address = 0xFFFF then pure known else _) _ _ = _
  by_cases hend : address = 0 ∨ address = 0xFFFF
  · have hends : endsInventory address = true := decide_eq_true hend
    rw [if_pos hend, if_pos hends]
    rfl
  · have hends : endsInventory address = false := decide_eq_false hend
    rw [if_neg hend, hends, if_neg Bool.false_ne_true]

/-- A response without an address ends the walk with an error. -/
theorem serve_inventoryLoop_malformed (fuel : Nat) (known : List Int) {arrival : Arrival}
    (hawait : dispatcher.awaitMessage isInventoryResponse bursts = (.ok (some arrival), after, rest))
    (haddress : arrival.message.get "address" = none) :
    ∃ err, serve (inventoryLoop (fuel + 1) known) dispatcher bursts = some (.error err) := by
  obtain ⟨err, hrequire⟩ : ∃ err, arrival.message.require "address" = .error err := by
    rw [TrpcPacket.require, haddress]
    exact ⟨_, rfl⟩
  refine ⟨err, (serve_deadlineExpired dispatcher bursts _).trans ?_⟩
  refine (serve_readUntil dispatcher bursts _ hawait).trans ?_
  change serve (Routine.ofExcept (arrival.message.require "address") >>= _) _ _ = _
  rw [hrequire]
  rfl

/-- Without a response in time the loop returns what it knows. -/
theorem serve_inventoryLoop_none (fuel : Nat) (known : List Int)
    (hawait : dispatcher.awaitMessage isInventoryResponse bursts = (.ok none, after, rest)) :
    serve (inventoryLoop (fuel + 1) known) dispatcher bursts = some (.ok known) := by
  refine (serve_deadlineExpired dispatcher bursts _).trans ?_
  exact serve_readUntil dispatcher bursts _ hawait

/-- An error of the reader ends the walk. -/
theorem serve_inventoryLoop_error (fuel : Nat) (known : List Int) {err : PyException}
    (hawait : dispatcher.awaitMessage isInventoryResponse bursts = (.error err, after, rest)) :
    serve (inventoryLoop (fuel + 1) known) dispatcher bursts = some (.error err) := by
  refine (serve_deadlineExpired dispatcher bursts _).trans ?_
  change serve (Routine.bind _ _) _ _ = _
  simp [Routine.perform, Routine.bind, serve, hawait, Except.map]

/-- Without a response in the backlog the loop waits for the next burst. -/
theorem serve_inventoryLoop_wait (hwalkable : Walkable dispatcher) (hunread : unread dispatcher = [])
    (burst : List TrpcPacket) (rest : List (List TrpcPacket)) (fuel : Nat) (known : List Int) :
    serve (inventoryLoop (fuel + 1) known) dispatcher (burst :: rest) =
      serve (inventoryLoop (fuel + 1) known) (dispatcher.dispatchBurst burst) rest := by
  refine (serve_deadlineExpired dispatcher (burst :: rest) _).trans ?_
  refine Eq.trans ?_ (serve_deadlineExpired (dispatcher.dispatchBurst burst) rest _).symm
  change serve (Routine.bind _ _) _ _ = serve (Routine.bind _ _) _ _
  simp only [Routine.perform, Routine.bind, serve, awaitMessage_cons hwalkable hunread]

/-- What the loop returns, with enough fuel, when every response has an address. -/
theorem serve_inventoryLoop {fuel : Nat} {known : List Int} (hwalkable : Walkable dispatcher)
    (hfits : Fits dispatcher bursts) {addresses : List Int}
    (haddresses : (unread dispatcher ++ responses bursts.flatten).map
      (fun message => message.get "address") = addresses.map some)
    (hfuel : addresses.length < fuel) :
    serve (inventoryLoop fuel known) dispatcher bursts = some (.ok (collect known addresses)) := by
  induction fuel generalizing known dispatcher bursts addresses with
  | zero => exact absurd hfuel (Nat.not_lt_zero _)
  | succ fuel ih =>
      have hspec := awaitMessage_spec hwalkable hfits
      cases hresponses : unread dispatcher ++ responses bursts.flatten with
      | nil =>
          rw [hresponses] at hspec haddresses
          obtain ⟨after, hawait⟩ := hspec
          obtain rfl : addresses = [] := by simpa using haddresses.symm
          rw [serve_inventoryLoop_none fuel known hawait, collect_nil]
      | cons message others =>
          rw [hresponses] at hspec haddresses
          obtain ⟨arrival, after, rest, hawait, rfl, hafter, hrest, hothers⟩ := hspec
          cases addresses with
          | nil => simp at haddresses
          | cons address more =>
              rw [List.map_cons, List.map_cons, List.cons.injEq] at haddresses
              obtain ⟨haddress, hmore⟩ := haddresses
              rw [serve_inventoryLoop_read fuel known hawait haddress]
              cases hend : endsInventory address with
              | true => rw [if_pos rfl, collect_end more hend]
              | false =>
                  rw [if_neg Bool.false_ne_true, collect_cons more hend]
                  apply ih hafter hrest
                  · rw [hothers]
                    exact hmore
                  · simpa using hfuel

/-- An address that is known stays in the result. -/
theorem known_prefix {fuel : Nat} {known result : List Int}
    (h : serve (inventoryLoop fuel known) dispatcher bursts = some (.ok result)) :
    known <+: result := by
  induction fuel generalizing known dispatcher bursts with
  | zero => cases h
  | succ fuel ih =>
      cases hawait : dispatcher.awaitMessage isInventoryResponse bursts with
      | mk outcome next =>
          obtain ⟨after, rest⟩ := next
          cases outcome with
          | error err =>
              rw [serve_inventoryLoop_error fuel known hawait] at h
              cases h
          | ok found =>
              cases found with
              | none =>
                  rw [serve_inventoryLoop_none fuel known hawait] at h
                  cases h
                  exact List.prefix_rfl
              | some arrival =>
                  cases haddress : arrival.message.get "address" with
                  | none =>
                      obtain ⟨err, herror⟩ := serve_inventoryLoop_malformed fuel known hawait haddress
                      rw [herror] at h
                      cases h
                  | some address =>
                      rw [serve_inventoryLoop_read fuel known hawait haddress] at h
                      split at h
                      · cases h
                        exact List.prefix_rfl
                      · have hgrown := ih h
                        split at hgrown
                        · exact hgrown
                        · exact (List.prefix_append _ _).trans hgrown

end Loop

/-- The walk after its request was written. -/
theorem serve_getInventoryAddresses {startAddress : Int} {request : TrpcPacket}
    (h : (TrpcCommand.request .deviceInventory (addressFields startAddress)).toMessage =
      .ok request) (fuel : Nat) (dispatcher : Dispatcher) (bursts : List (List TrpcPacket)) :
    serve (getInventoryAddresses fuel startAddress) dispatcher bursts =
      serve (inventoryLoop fuel []) dispatcher bursts :=
  serve_send dispatcher bursts _ h

/-- The request that starts at the first address. -/
def firstRequest : TrpcPacket where
  serviceId := TrpcService.request.value
  methodId := TrpcMethod.deviceInventory.value
  body := .ofList [("address", 0)]

theorem toMessage_firstRequest :
    (TrpcCommand.request .deviceInventory (addressFields 0)).toMessage = .ok firstRequest := by
  decide

/-- A decoded inventory response has an address. -/
theorem exists_address {message : TrpcPacket} (h : isInventoryResponse message = true)
    (hdecoded : ∃ data, TrpcPacket.fromBytes data = .ok message) :
    ∃ address, message.get "address" = some address := by
  obtain ⟨data, hdecode⟩ := hdecoded
  simp only [isInventoryResponse, Bool.and_eq_true, beq_iff_eq] at h
  apply TrpcPacket.get_fromBytes hdecode ((TrpcMethod.ofValue?_eq_some_iff _ _).mp h.2)
  decide

/-- The addresses of decoded responses, one for each. -/
theorem map_get_responses {messages : List TrpcPacket}
    (h : ∀ message ∈ messages, ∃ data, TrpcPacket.fromBytes data = .ok message) :
    (responses messages).map (fun message => message.get "address") =
      (responseAddresses messages).map some := by
  have hall : ∀ message ∈ responses messages, ∃ address, message.get "address" = some address := by
    intro message hmessage
    obtain ⟨hmem, hresponse⟩ := List.mem_filter.mp hmessage
    exact exists_address hresponse (h message hmem)
  rw [responseAddresses, ← responses]
  generalize responses messages = list at hall
  induction list with
  | nil => rfl
  | cons message rest ih =>
      obtain ⟨address, haddress⟩ := hall message List.mem_cons_self
      have hrest := ih fun other hother => hall other (List.mem_cons_of_mem message hother)
      simp [haddress, hrest]

theorem collect_responseAddresses (messages : List TrpcPacket) :
    collect [] (responseAddresses messages) = inventoryAddresses messages := by
  simp [collect, inventoryAddresses]

/-- A response that announces a device. -/
def sampleResponse (address : Int) : TrpcPacket where
  serviceId := TrpcService.responseRequest.value
  methodId := TrpcMethod.deviceInventory.value
  body := .ofList [("address", address)]

theorem sampleResponse_decoded {address : Int} (h : address = 1001 ∨ address = 1002) :
    ∃ data, TrpcPacket.fromBytes data = .ok (sampleResponse address) := by
  rcases h with rfl | rfl
  · exact ⟨[4, 0x67, 1, 0, 0, 0xE9, 3], by decide⟩
  · exact ⟨[4, 0x67, 1, 0, 0, 0xEA, 3], by decide⟩

theorem sampleBurst_decoded : ∀ message ∈ [[sampleResponse 1001]].flatten,
    ∃ data, TrpcPacket.fromBytes data = .ok message := by
  intro message hmessage
  rw [List.mem_singleton.mp hmessage]
  exact sampleResponse_decoded (.inl rfl)

/-- A response that is left in the backlog adds an address, ends the walk, or
breaks it. -/
theorem not_seesOwnAnswers {limit : Nat} {dispatcher : Dispatcher} (hlimit : 0 < limit)
    (hwalkable : Walkable dispatcher) (hstale : unread dispatcher ≠ []) :
    ¬ SeesOwnAnswers limit dispatcher := by
  intro hsees
  obtain ⟨message, others, hunread⟩ := List.exists_cons_of_ne_nil hstale
  obtain ⟨arrival, after, hread, -⟩ := readUntil_of_unread_cons hwalkable hunread
  have hquiet := hsees 0 firstRequest [] (dispatcher.messageBacklog.length + 1)
    toMessage_firstRequest (fun _ h => nomatch h) (fun _ h => nomatch h) (Nat.lt_succ_self _)
  rw [serve_getInventoryAddresses toMessage_firstRequest] at hquiet
  cases haddress : arrival.message.get "address" with
  | none =>
      obtain ⟨err, herror⟩ :=
        serve_inventoryLoop_malformed _ [] (awaitMessage_of_readUntil hread []) haddress
      rw [herror] at hquiet
      cases hquiet
  | some address =>
      cases hend : endsInventory address with
      | false =>
          -- A stale address is in the result, though nothing has arrived.
          rw [serve_inventoryLoop_read _ [] (awaitMessage_of_readUntil hread []) haddress,
            hend] at hquiet
          have hknown := known_prefix hquiet
          simp [inventoryAddresses, responseAddresses] at hknown
      | true =>
          -- A stale terminator ends the walk before the answer that arrives.
          have hanswered := hsees 0 firstRequest [[sampleResponse 1001]]
            (dispatcher.messageBacklog.length + 2) toMessage_firstRequest
            (by simpa using Nat.succ_le_of_lt hlimit) sampleBurst_decoded (by simp)
          rw [serve_getInventoryAddresses toMessage_firstRequest,
            serve_inventoryLoop_read _ [] (awaitMessage_of_readUntil hread _) haddress,
            hend, if_pos rfl] at hanswered
          revert hanswered
          decide

/-- Of a burst that does not fit, the backlog forgets the first response. -/
theorem le_of_seesOwnAnswers {limit : Nat} {dispatcher : Dispatcher} (hlimit : 0 < limit)
    (hwalkable : Walkable dispatcher) (hunread : unread dispatcher = [])
    (hsees : SeesOwnAnswers limit dispatcher) : (limit : Int) ≤ dispatcher.maxMessageBacklog := by
  by_contra hlarge
  let capacity := dispatcher.maxMessageBacklog.toNat
  let others := List.replicate capacity (sampleResponse 1002)
  let burst := sampleResponse 1001 :: others
  have hresponses : responses burst = burst := by
    apply List.filter_eq_self.mpr
    intro message hmessage
    rcases List.mem_cons.mp hmessage with rfl | hother
    · decide
    · rw [List.eq_of_mem_replicate hother]
      decide
  have hothers : responses others = others := (List.cons.inj hresponses).2
  have hdecoded : ∀ message ∈ [burst].flatten, ∃ data, TrpcPacket.fromBytes data = .ok message := by
    intro message hmessage
    rw [List.flatten_singleton] at hmessage
    rcases List.mem_cons.mp hmessage with rfl | hother
    · exact sampleResponse_decoded (.inl rfl)
    · rw [List.eq_of_mem_replicate hother]
      exact sampleResponse_decoded (.inr rfl)
  have hlength : burst.length ≤ limit := by
    simp only [burst, others, List.length_cons, List.length_replicate, capacity]
    omega
  obtain ⟨hafter, -, queued, hsublist, hqueued, hbacklog⟩ := hwalkable.dispatchBurst burst
  obtain rfl : queued = burst := by
    apply hsublist.eq_of_length_le
    rw [← hresponses, ← hqueued]
    exact List.length_filter_le _ _
  have hleft : unread (dispatcher.dispatchBurst burst) = others := by
    have hold : dispatcher.messageBacklog.map Arrival.message ++ burst =
        dispatcher.messageBacklog.map Arrival.message ++ [sampleResponse 1001] ++ others :=
      List.append_cons _ _ _
    rw [unread, hbacklog, BoundedQueue.foldl_push (List.cons_ne_nil _ _), hold,
      BoundedQueue.keepNewest, List.length_append, List.length_replicate, Nat.add_sub_cancel,
      List.drop_left, hothers]
  have haddresses : (unread (dispatcher.dispatchBurst burst) ++ responses [].flatten).map
      (fun message => message.get "address") = (List.replicate capacity 1002).map some := by
    rw [hleft, List.flatten_nil, responses, List.filter_nil, List.append_nil, List.map_replicate,
      List.map_replicate]
    rfl
  have hfuel : dispatcher.messageBacklog.length + [burst].flatten.length <
      dispatcher.messageBacklog.length + capacity + 2 := by
    simp only [burst, others, List.flatten_singleton, List.length_cons, List.length_replicate]
    omega
  have hturns : (List.replicate capacity (1002 : Int)).length <
      dispatcher.messageBacklog.length + capacity + 2 := by
    rw [List.length_replicate]
    omega
  have hanswered := hsees 0 firstRequest [burst] _ toMessage_firstRequest
    (by simpa using hlength) hdecoded hfuel
  rw [serve_getInventoryAddresses toMessage_firstRequest, serve_inventoryLoop_wait hwalkable hunread,
    serve_inventoryLoop hafter (fun _ h => absurd h List.not_mem_nil) haddresses hturns]
      at hanswered
  have hfirst : responseAddresses [burst].flatten = 1001 :: responseAddresses others := by
    rw [List.flatten_singleton]
    rfl
  have hlost : 1001 ∈ collect [] (List.replicate capacity 1002) := by
    rw [Except.ok.inj (Option.some.inj hanswered), inventoryAddresses, hfirst,
      List.takeWhile_cons_of_pos (by decide), List.eraseDups_cons]
    exact List.mem_cons_self
  simp [collect] at hlost

/-- The walk sees only its own answers exactly when no inventory response is left in
the backlog at its request, and the backlog can hold what arrives at once. -/
theorem seesOwnAnswers_iff (limit : Nat) (dispatcher : Dispatcher) (hlimit : 0 < limit)
    (hwalkable : Walkable dispatcher) :
    SeesOwnAnswers limit dispatcher ↔
      (∀ arrival ∈ dispatcher.messageBacklog, isInventoryResponse arrival.message = false) ∧
        (limit : Int) ≤ dispatcher.maxMessageBacklog := by
  have hempty : unread dispatcher = [] ↔
      ∀ arrival ∈ dispatcher.messageBacklog, isInventoryResponse arrival.message = false := by
    rw [unread, responses, List.filter_eq_nil_iff, List.forall_mem_map]
    simp
  rw [← hempty]
  constructor
  · intro hsees
    have hunread : unread dispatcher = [] := by
      by_contra hstale
      exact not_seesOwnAnswers hlimit hwalkable hstale hsees
    exact ⟨hunread, le_of_seesOwnAnswers hlimit hwalkable hunread hsees⟩
  · rintro ⟨hunread, hroom⟩ startAddress request bursts fuel hrequest hbursts hdecoded hfuel
    have hfits : Fits dispatcher bursts := by
      intro burst hburst
      have hlength := hbursts burst hburst
      omega
    have haddresses : (unread dispatcher ++ responses bursts.flatten).map
        (fun message => message.get "address") = (responseAddresses bursts.flatten).map some := by
      rw [hunread, List.nil_append]
      exact map_get_responses hdecoded
    have hlength : (responseAddresses bursts.flatten).length ≤ bursts.flatten.length :=
      (List.length_filterMap_le _ _).trans (List.length_filter_le _ _)
    rw [serve_getInventoryAddresses hrequest, serve_inventoryLoop hwalkable hfits haddresses (by omega),
      collect_responseAddresses]

/-- A session that has just been opened. -/
def openDispatcher : Dispatcher := { closed := false }

theorem walkable_dispatchBurst (burst : List TrpcPacket) :
    Walkable (openDispatcher.dispatchBurst burst) := by
  have hopen : Walkable openDispatcher := ⟨fun _ h => absurd h List.not_mem_nil, rfl, rfl⟩
  exact (hopen.dispatchBurst burst).1

theorem seesOwnAnswers_openDispatcher : SeesOwnAnswers 512 openDispatcher := by
  apply (seesOwnAnswers_iff 512 openDispatcher (by decide) (walkable_dispatchBurst [])).mpr
  exact ⟨fun _ h => absurd h List.not_mem_nil, by decide⟩

/-- The end of an earlier walk that arrived late ends the next walk at once. -/
theorem not_seesOwnAnswers_lateTerminator :
    ¬ SeesOwnAnswers 1 (openDispatcher.dispatchBurst [sampleResponse 0]) := by
  intro hsees
  have hended : serve (getInventoryAddresses 3) (openDispatcher.dispatchBurst [sampleResponse 0])
      [[sampleResponse 1001]] = some (.ok []) := by
    decide
  have hanswered := hsees 0 firstRequest [[sampleResponse 1001]] 3 toMessage_firstRequest
    (by decide) sampleBurst_decoded (by decide)
  rw [hended] at hanswered
  revert hanswered
  decide

end Client

end Tekmar482
