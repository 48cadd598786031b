import Tekmar482.SessionWrites
import Tekmar482.WiredArrivals

/-!
# Commands over a connection, once each

The transport takes the packet of a call when its transaction writes. The packets taken are the
ones that the other end reads: each call is among them once at most, and once it has returned a
message or a response.
-/

namespace Tekmar482

namespace Session

variable {κ : Type}

/-- A step that starts no write. -/
theorem Silent.started {s t : Session κ} (h : Silent s t) : s.started t = none := by
  obtain ⟨extra, hlog, hsilent⟩ := h.log
  rw [Session.started, hlog, List.drop_left, List.findSome?_eq_none_iff]
  intro event hevent
  have hnone := hsilent event hevent
  cases event with
  | wrote c key message => cases hnone
  | _ => rfl

/-- A step that starts the write of a call. -/
theorem Silent.started_wrote {s u : Session κ} (h : Silent s u) (c : Nat) (call : Call κ)
    (message : TrpcPacket) : s.started (u.wrote c call message) = some (c, message) := by
  obtain ⟨extra, hlog, hsilent⟩ := h.log
  have hnone := h.started
  rw [Session.started, hlog, List.drop_left] at hnone
  rw [Session.started, wrote, hlog, List.append_assoc, List.drop_left, List.findSome?_append, hnone]
  rfl

end Session

namespace SessionReaders

variable {κ : Type} [DecidableEq κ]

/-- The readers start no write. -/
theorem step_write {s t : SessionReaders κ} (hlinks : s.session.UpdateLinks)
    {action : ReaderAction κ} (hstep : s.step action = some t) :
    Session.WriteStep s.session t.session := by
  cases Stepped.of_step hstep with
  | session _ hstepped => exact Session.step_write hlinks hstepped
  | late | read | passOn | wake | timeout | cancel => exact .silent (.of_same rfl rfl)

/-- The read loop starts no write. -/
theorem silent_loop {s t : SessionReaders κ} {action : ReaderAction κ}
    (hstep : s.step action = some t) (hloop : action.ofLoop = true) :
    Session.Silent s.session t.session := by
  cases Stepped.of_step hstep with
  | session _ hstepped =>
      cases Session.Stepped.of_step hstepped with
      | packet => exact Session.silent_dispatchPacket _ _
      | readerFails => exact Session.silent_setReaderError _ _
      | _ => cases hloop
  | _ => cases hloop

end SessionReaders

namespace WiredSession

open Machine Tagged

variable {κ : Type} [DecidableEq κ]

/-- What a step does to the calls and to the packets that the transport took. -/
inductive Posts (s next : WiredSession κ) : Prop
  | quiet (htrails : Session.Trails s.session.session next.session.session)
      (hlog : s.session.session.log <+: next.session.session.log)
      (hsent : next.sent = s.sent ∨ ∃ connection packet,
        next.sent = s.sent ++ [(⟨connection, none, packet⟩ : SentPacket)])
  | posts {u : Session κ} (hsilent : Session.Silent s.session.session u) {c connection : Nat}
      {call : Call κ} {message : TrpcPacket} {packet : Packet} (hcall : u.calls[c]? = some call)
      (hphase : call.phase = .acquiring) (hmessage : call.command.toMessage = .ok message)
      (hpacket : message.toPacket = .ok packet)
      (hsession : next.session.session = u.wrote c call message)
      (hsent : next.sent = s.sent ++ [(⟨connection, some c, packet⟩ : SentPacket)])

/-- A transaction whose write raises ends. -/
theorem posts_writeFails {s next : WiredSession κ} {u : Session κ}
    (hsilent : Session.Silent s.session.session u) {c : Nat} {call : Call κ}
    {message : TrpcPacket} {err : PyException} {readers failed : SessionReaders κ}
    (hwrote : readers.session = u.wrote c call message)
    (hstep : readers.step (.session (.onCall c (.writeFails err))) = some failed)
    (hsession : next.session = failed) (hsent : next.sent = s.sent) : Posts s next := by
  obtain ⟨other, hended⟩ : ∃ other : Call κ, failed.session =
      (u.wrote c call message).endTransaction c (other.raised err) := by
    rw [← hwrote]
    cases SessionReaders.Stepped.of_step hstep with
    | session _ hstepped =>
        cases Session.Stepped.of_step hstepped with
        | onCall _ hcallStepped =>
            cases hcallStepped with
            | writeFails => exact ⟨_, rfl⟩
  obtain ⟨extra, hlog, -⟩ := hsilent.log
  refine .quiet ?_ ?_ (.inl hsent)
  · rw [hsession, hended]
    exact hsilent.toTrails.trans (u.trails_writeFails message (other.answered_raised err))
  · rw [hsession, hended, Session.endTransaction, Session.wrote, hlog]
    simp only [List.append_assoc]
    exact List.prefix_append _ _

/-- The write of a call that a step of the session has started. -/
theorem posts_write {s next : WiredSession κ} {u : Session κ} {session : SessionReaders κ}
    (hsilent : Session.Silent s.session.session u) {c : Nat} {call : Call κ} {message : TrpcPacket}
    (hcall : u.calls[c]? = some call) (hphase : call.phase = .acquiring)
    (hmessage : call.command.toMessage = .ok message)
    (hwrote : session.session = u.wrote c call message)
    (h : WiredSession.write { s with session } c message = some next) : Posts s next := by
  rw [write] at h
  split at h
  · obtain ⟨failed, hfailed, h⟩ := Option.bind_eq_some_iff.mp h
    obtain rfl := Option.some.inj h
    exact posts_writeFails hsilent hwrote hfailed rfl rfl
  · rename_i packet hpacket
    obtain ⟨⟨handed, err⟩, hhanded, h⟩ := Option.bind_eq_some_iff.mp h
    obtain ⟨-, hkept, hsent⟩ := handOver_moves hhanded
    cases err with
    | none =>
        obtain rfl := Option.some.inj h
        rcases hsent with ⟨⟨raised, hraised⟩, -⟩ | ⟨connection, -, hsent⟩
        · cases hraised
        · exact .posts hsilent hcall hphase hmessage hpacket (hkept ▸ hwrote) hsent
    | some err =>
        obtain ⟨failed, hfailed, h⟩ := Option.bind_eq_some_iff.mp h
        obtain rfl := Option.some.inj h
        rcases hsent with ⟨-, hsent⟩ | ⟨connection, hnone, -⟩
        · have hreaders : handed.session.session = u.wrote c call message := by rw [hkept, hwrote]
          exact posts_writeFails hsilent hreaders hfailed rfl hsent
        · cases hnone

omit [DecidableEq κ] in
/-- A step of the session that starts no write. -/
theorem posts_silent {s next : WiredSession κ}
    (hsilent : Session.Silent s.session.session next.session.session) (hsent : next.sent = s.sent) :
    Posts s next := by
  obtain ⟨extra, hlog, -⟩ := hsilent.log
  exact .quiet hsilent.toTrails (hlog ▸ List.prefix_append _ _) (.inl hsent)

theorem step_posts {s next : WiredSession κ} (hlinks : s.session.session.UpdateLinks)
    {action : WiredAction κ} (h : s.step action = some next) : Posts s next := by
  have hsame : Session.Silent s.session.session s.session.session := .refl _
  cases action with
  | session action =>
      obtain ⟨-, h⟩ := Option.ite_none_left_eq_some.mp h
      obtain ⟨session, hsession, h⟩ := Option.bind_eq_some_iff.mp h
      cases SessionReaders.step_write hlinks hsession with
      | silent hsilent =>
          rw [hsilent.started] at h
          obtain rfl := Option.some.inj h
          exact posts_silent hsilent rfl
      | @writes u hsilent c call message hcall hphase hmessage hwrote =>
          rw [hwrote, hsilent.started_wrote] at h
          exact posts_write hsilent hcall hphase hmessage hwrote h
  | writePacket packet =>
      rw [step] at h
      split at h
      · obtain rfl := Option.some.inj h
        exact posts_silent hsame rfl
      · obtain ⟨⟨handed, err⟩, hhanded, rfl⟩ := Option.map_eq_some_iff.mp h
        obtain ⟨-, hkept, hsent⟩ := handOver_moves hhanded
        refine .quiet ?_ ?_ ?_
        · rw [hkept]
          exact hsame.toTrails
        · rw [hkept]
        · rcases hsent with ⟨-, hsame⟩ | ⟨connection, -, hadded⟩
          · exact .inl hsame
          · exact .inr ⟨connection, packet, hadded⟩
  | transport action =>
      obtain ⟨-, h⟩ := Option.ite_none_left_eq_some.mp h
      obtain ⟨transport, -, h⟩ := Option.bind_eq_some_iff.mp h
      split at h
      · obtain rfl := Option.some.inj h
        refine posts_silent ?_ (took_sent _ _ _)
        rw [took_session]
        exact hsame
      · obtain rfl := Option.some.inj h
        exact posts_silent hsame rfl
  | read =>
      obtain ⟨-, h⟩ := Option.ite_none_right_eq_some.mp h
      obtain ⟨transport, -, h⟩ := Option.bind_eq_some_iff.mp h
      split at h
      · obtain rfl := Option.some.inj h
        refine posts_silent ?_ (took_sent _ _ _)
        rw [took_session]
        exact hsame
      · obtain rfl := Option.some.inj h
        exact posts_silent hsame rfl
      · cases h
  | dispatch =>
      rw [step] at h
      split at h
      · obtain ⟨session, hsession, h⟩ := Option.bind_eq_some_iff.mp h
        obtain rfl := Option.some.inj h
        exact posts_silent (SessionReaders.silent_loop hsession rfl) rfl
      · obtain ⟨session, hsession, h⟩ := Option.bind_eq_some_iff.mp h
        obtain rfl := Option.some.inj h
        exact posts_silent (SessionReaders.silent_loop hsession rfl) rfl
      · cases h
  | cancelLoop =>
      rw [step] at h
      split at h
      · obtain ⟨transport, -, h⟩ := Option.bind_eq_some_iff.mp h
        obtain rfl := Option.some.inj h
        exact posts_silent hsame rfl
      · obtain rfl := Option.some.inj h
        exact posts_silent hsame rfl

/-! ## Every run -/

/-- The calls whose packets the transport took, in order. -/
def sentCalls (self : WiredSession κ) : List Nat := self.sent.filterMap SentPacket.call

/-- The packets that the transport took, each with its connection. -/
def sentPackets (self : WiredSession κ) : List (Nat × Packet) :=
  self.sent.map fun sent => (sent.connection, sent.packet)

/-- What every step keeps of the calls. -/
structure Posted (s : WiredSession κ) : Prop where
  nodup : s.sentCalls.Nodup
  ordered : s.sentCalls.Sublist (s.session.session.log.filterMap Session.writes)
  started : ∀ sent ∈ s.sent, ∀ c, sent.call = some c →
    ∃ call, s.session.session.calls[c]? = some call ∧ ¬ call.Unstarted ∧
      call.command.toPacket = .ok sent.packet
  wrote : ∀ (c : Nat) call, s.session.session.calls[c]? = some call → call.Wrote →
    c ∈ s.sentCalls

omit [DecidableEq κ] in
theorem Posted.kept {s : WiredSession κ} (h : s.Posted) {after : Session κ}
    (htrails : Session.Trails s.session.session after) {sent : SentPacket} (hsent : sent ∈ s.sent)
    {c : Nat} (hc : sent.call = some c) :
    ∃ call, after.calls[c]? = some call ∧ ¬ call.Unstarted ∧
      call.command.toPacket = .ok sent.packet := by
  obtain ⟨call, hcall, hstarted, hpacket⟩ := h.started sent hsent c hc
  obtain ⟨call', hcall', htrailed⟩ := htrails.kept c call hcall
  exact ⟨call', hcall', fun hunstarted => hstarted (htrailed.unstarted hunstarted),
    by rw [htrailed.command, hpacket]⟩

omit [DecidableEq κ] in
theorem Posted.quiet {s next : WiredSession κ} (h : s.Posted)
    (htrails : Session.Trails s.session.session next.session.session)
    (hlog : s.session.session.log <+: next.session.session.log)
    (hsent : next.sent = s.sent ∨ ∃ connection packet,
      next.sent = s.sent ++ [(⟨connection, none, packet⟩ : SentPacket)]) : next.Posted := by
  have hcalls : next.sentCalls = s.sentCalls := by
    rw [sentCalls, sentCalls]
    rcases hsent with hsame | ⟨connection, packet, hadded⟩
    · rw [hsame]
    · rw [hadded, List.filterMap_append]
      exact List.append_nil _
  constructor
  · rw [hcalls]
    exact h.nodup
  · rw [hcalls]
    exact h.ordered.trans (hlog.sublist.filterMap _)
  · intro sent hmem c hc
    have hold : sent ∈ s.sent := by
      rcases hsent with hsame | ⟨connection, packet, hadded⟩
      · rwa [hsame] at hmem
      · rw [hadded] at hmem
        rcases List.mem_append.mp hmem with hold | hnew
        · exact hold
        · rw [List.mem_singleton.mp hnew] at hc
          cases hc
    exact h.kept htrails hold hc
  · intro c call hcall hwrote
    rw [hcalls]
    rcases htrails.back hcall with ⟨before, hbefore, htrailed⟩ | hunwritten
    · exact h.wrote c before hbefore (htrailed.wrote hwrote)
    · exact absurd hwrote hunwritten

omit [DecidableEq κ] in
theorem Posted.posts {s next : WiredSession κ} (h : s.Posted) (hposts : Posts s next) :
    next.Posted := by
  cases hposts with
  | quiet htrails hlog hsent => exact h.quiet htrails hlog hsent
  | @posts u hsilent c connection call message packet hcall hphase hmessage hpacket hsession
      hsent =>
      have hcalls : next.sentCalls = s.sentCalls ++ [c] := by
        rw [sentCalls, hsent, List.filterMap_append]
        rfl
      obtain ⟨extra, hlog, -⟩ := hsilent.log
      -- a call whose transaction only now has the lock was not written before
      have hfresh : c ∉ s.sentCalls := by
        intro hmem
        obtain ⟨sent, hold, hc⟩ := List.mem_filterMap.mp hmem
        obtain ⟨other, hother, hstarted, -⟩ := h.kept hsilent.toTrails hold hc
        cases hcall.symm.trans hother
        exact hstarted (.inr hphase)
      have hnew := Session.calls_modifyCall_self
        (fun call : Call κ => { call with phase := .writing message }) hcall
      constructor
      · rw [hcalls]
        exact List.nodup_append.mpr ⟨h.nodup, List.nodup_singleton c, fun a ha b hb => by
          rw [List.mem_singleton.mp hb]
          exact fun hsame => hfresh (hsame ▸ ha)⟩
      · rw [hcalls, hsession, Session.wrote, hlog, List.filterMap_append, List.filterMap_append,
          List.append_assoc]
        exact h.ordered.append (List.sublist_append_right _ _)
      · intro sent hmem k hk
        rw [hsession]
        rcases List.mem_append.mp (hsent ▸ hmem) with hold | hlast
        · obtain ⟨other, hother, hstarted, hother'⟩ := h.kept hsilent.toTrails hold hk
          have hne : k ≠ c := fun hsame =>
            hfresh (hsame ▸ List.mem_filterMap.mpr ⟨sent, hold, hk⟩)
          exact ⟨other, (Session.calls_modifyCall_of_ne _ hne).trans hother, hstarted, hother'⟩
        · rw [List.mem_singleton.mp hlast] at hk ⊢
          obtain rfl := Option.some.inj hk
          refine ⟨_, hnew, ?_, ?_⟩
          · rintro (hqueued | hacquiring)
            · cases hqueued
            · cases hacquiring
          · rw [TrpcCommand.toPacket, hmessage]
            exact hpacket
      · intro k other hother hwrote
        rw [hcalls]
        rw [hsession] at hother
        rcases Session.calls_modifyCall_known hcall hother with ⟨rfl, -⟩ | ⟨-, hold⟩
        · exact List.mem_append_right _ (List.mem_singleton_self _)
        · rcases hsilent.back hold with ⟨before, hbefore, htrailed⟩ | hunwritten
          · exact List.mem_append_left _ (h.wrote k before hbefore (htrailed.wrote hwrote))
          · exact absurd hwrote hunwritten

theorem Posted.run {s t : WiredSession κ} (h : s.Posted) (hsound : s.Sound)
    {actions : List (WiredAction κ)} (hrun : Run step s actions t) : t.Posted := by
  induction hrun with
  | nil s => exact h
  | @cons s next _ action _ _ hstep _ ih =>
      have hone : Run step s [action] next := .cons trivial hstep (.nil _)
      exact ih (h.posts (step_posts hsound.exclusive.links hstep))
        (invariant_run (fun s next hs hmoves => hs.moves hmoves) hsound hone)

/-- The transport took the packets that are noted, for each connection. -/
def Carried (s : WiredSession κ) : Prop :=
  ∀ c, s.transport.accepted c = values c s.sentPackets

theorem Carried.moves {s next : WiredSession κ} (h : s.Carried) (hmoves : Moves s next) :
    next.Carried := by
  intro c
  cases hmoves with
  | session | reads | fails | rests | dispatches | ends => exact h c
  | transport _ hkept => exact (hkept c).trans (h c)
  | @takes action transport d _ hkept =>
      have hsame : (s.took d transport).transport = transport := by
        unfold took
        split <;> rfl
      rw [sentPackets, took_sent, hsame]
      exact (hkept c).trans (h c)
  | @hands packet transport connection call _ htaken =>
      change transport.accepted c = values c
        ((s.sent ++ [(⟨connection, call, packet⟩ : SentPacket)]).map fun sent =>
          (sent.connection, sent.packet))
      rw [htaken, h c, List.map_append, values_append, List.map_singleton, values_singleton,
        sentPackets]
      simp only [eq_comm]

omit [DecidableEq κ] in
/-- Nothing was sent before the first step. -/
theorem Fresh.posted {s : WiredSession κ} (h : s.Fresh) : s.Posted ∧ s.Carried := by
  obtain ⟨⟨hsession, -⟩, -, -, hsent, hconnections, -⟩ := h
  have hcalls : s.session.session.calls = [] := hsession.2.2.2.1
  have hnone : s.sentCalls = [] := by
    rw [sentCalls, hsent]
    rfl
  refine ⟨⟨?_, ?_, fun sent hmem => ?_, fun c call hcall => ?_⟩, fun c => ?_⟩
  · rw [hnone]
    exact List.nodup_nil
  · rw [hnone]
    exact List.nil_sublist _
  · rw [hsent] at hmem
    cases hmem
  · rw [hcalls] at hcall
    cases hcall
  · rw [StreamTransport.accepted, hconnections, sentPackets, hsent]
    rfl

/-- Commands are written once each and in the order of their transactions. In every run of a
session over a transport, the other end of a connection reads from any first part of the bytes
the first of the packets that the transport took for this connection, and from all of the bytes
all of them. Each call is among the packets once at most, in the order of the log, with the
packet of its command, which is decoded to the command. A call that waits for its response, and
one that has returned a message or a response, is among them. -/
theorem commands_written_once {start t : WiredSession κ} {actions : List (WiredAction κ)}
    (hfresh : start.Fresh) (hrun : Run step start actions t) :
    (∀ (c : Nat) (connection : Connection) (received : List UInt8),
      t.transport.connections[c]? = some connection → received <+: connection.written →
      ∃ parser packets, (TpckParser.fresh false).feedMany received = (parser, .ok packets) ∧
        packets <+: values c t.sentPackets ∧
        (received = connection.written → packets = values c t.sentPackets)) ∧
    t.sentCalls.Nodup ∧
    t.sentCalls.Sublist (t.session.session.log.filterMap Session.writes) ∧
    (∀ sent ∈ t.sent, ∀ c, sent.call = some c →
      ∃ call, t.session.session.calls[c]? = some call ∧
        call.command.toPacket = .ok sent.packet ∧
        (call.command.Encodable → ∃ message,
          TrpcPacket.fromPacket sent.packet = .ok message ∧ Decodes call.command message)) ∧
    ∀ (c : Nat) (call : Call κ), t.session.session.calls[c]? = some call → call.Wrote →
      c ∈ t.sentCalls := by
  have hsound : t.Sound := invariant_run (fun s next hs hmoves => hs.moves hmoves) hfresh.sound hrun
  have hposted : t.Posted := hfresh.posted.1.run hfresh.sound hrun
  have hcarried : t.Carried :=
    invariant_run (fun s next hs hmoves => hs.moves hmoves) hfresh.posted.2 hrun
  refine ⟨fun c connection received hconnection hreceived => ?_, hposted.nodup, hposted.ordered,
    fun sent hsent c hc => ?_, hposted.wrote⟩
  · have hwritten := (hsound.taken.separated.sound c connection hconnection).feeds_written
    have htaken : connection.accepted = values c t.sentPackets := by
      rw [← hcarried c, StreamTransport.accepted, hconnection]
    obtain ⟨parser, packets, hfeeds, -⟩ :=
      TpckParser.exists_feeds (TpckParser.fresh false) rfl received
    refine ⟨parser, packets, hfeeds, ?_, fun hall => ?_⟩
    · obtain ⟨rest, hrest⟩ := hreceived
      rw [← htaken]
      exact hfeeds.prefix_of_append rfl (hrest ▸ hwritten)
    · rw [hall] at hfeeds
      rw [← htaken]
      cases hfeeds.symm.trans hwritten
      rfl
  · obtain ⟨call, hcall, -, hpacket⟩ := hposted.started sent hsent c hc
    exact ⟨call, hcall, hpacket, fun hencodable => hencodable.fromPacket hpacket⟩

theorem commands_written_once_sample :
    ∃ t : WiredSession Nat, Run step { transport := rawTcpTpckTransport } sampleExchange t ∧
      t.sentCalls.Nodup ∧ 0 ∈ t.sentCalls := by
  obtain ⟨t, hrun, -, a, call, hcall, htask⟩ := run_sampleExchange
  obtain ⟨-, hnodup, -, -, hsent⟩ :=
    commands_written_once ⟨SessionReaders.fresh_empty, rfl, rfl, rfl, rfl, rfl⟩ hrun
  refine ⟨t, hrun, hnodup, hsent 0 call hcall (.inr (.inl ?_))⟩
  rw [htask]
  rfl

end WiredSession

end Tekmar482
