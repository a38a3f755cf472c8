import AdbMobile.Server.Trace

/-!
# Which sockets a packet touches

The local sockets of all devices are in one table, and `handle_packet` finds a socket there by the
two ids in the packet, which the device chooses. Only the `A_CLSE` branch compares the transport of
the socket that it finds, and only for a zero id, although its comment gives the reason for the
check: a compromised device could close connections of other devices.

`touched` is the list of the sockets whose peer a packet sets, or that it acknowledges, writes to,
or closes. They all belong to the packet's own transport exactly when the sockets that the packet's
ids select do (`touched_own_iff`).
-/

namespace AdbMobile

open ByteString

namespace Host

/-- The sockets that a packet touches. -/
def touched (env : PacketEnv) (h : Host) (t : ℕ) (p : APacket) : List ASocket :=
  (handlePacket env h.quiet t p).trace.filterMap Effect.socket

/-- The sockets that a packet's ids select belong to no transport but its own. -/
def SelectsOwn (h : Host) (t : ℕ) (p : APacket) : Prop :=
  match Command.ofWord p.msg.command with
  | some .cnxn => (h.transports t).connectionState ≠ .offline →
      ∀ s ∈ h.localSockets, s.AttachedTo t → ¬ s.BelongsToOther t
  | some .okay =>
      (h.transports t).online ∧ p.msg.arg0 ≠ 0 ∧ p.msg.arg1 ≠ 0 → (ackedBytes p).isSome →
      ∀ s ∈ h.findLocalSocket p.msg.arg1 0, (∀ peer ∈ s.peer, peer.id = p.msg.arg0.toNat) →
      ¬ s.BelongsToOther t
  | some .clse => (h.transports t).online ∧ p.msg.arg1 ≠ 0 →
      ∀ s ∈ h.findLocalSocket p.msg.arg1 p.msg.arg0,
      (p.msg.arg0 = 0 → ∀ peer ∈ s.peer, peer.transport = some t) → ¬ s.BelongsToOther t
  | some .wrte => (h.transports t).online ∧ p.msg.arg0 ≠ 0 ∧ p.msg.arg1 ≠ 0 →
      ∀ s ∈ h.findLocalSocket p.msg.arg1 p.msg.arg0, ¬ s.BelongsToOther t
  | _ => True

variable (h : Host) (t : ℕ) (p : APacket) (env : PacketEnv)

/-- A new connection touches the sockets attached to its transport, unless it is offline. -/
theorem handleNewConnection_sockets :
    (h.quiet.handleNewConnection t p).trace.filterMap Effect.socket =
      if (h.transports t).connectionState = .offline then []
      else h.localSockets.filter (·.AttachedTo t) := by
  rw [handleNewConnection_trace, handleOffline_trace]
  split
  · rfl
  · have hclose : ∀ ss : List ASocket,
        (ss.map Effect.close).filterMap Effect.socket = ss := by
      intro ss
      rw [List.filterMap_map]
      exact List.filterMap_some
    simp only [List.filterMap_append, hclose, List.nil_append]
    exact List.append_nil _

/-- An `A_OPEN` touches only the socket that it creates. -/
theorem handleOpen_sockets {s : ASocket}
    (hs : s ∈ (handleOpen env h.quiet t p).trace.filterMap Effect.socket) :
    s.transports = [t] := by
  obtain ⟨-, replies, htrace⟩ | ⟨-, log, rest, htrace, hlog, hrest⟩ :=
    handleOpen_cases env h.quiet t p
  · rw [htrace, List.nil_append, List.filterMap_map] at hs
    simp [Function.comp_def, Effect.socket] at hs
  · have hlog : log.filterMap Effect.socket = [] :=
      List.filterMap_eq_nil_iff.mpr fun e he => by rw [hlog e he]; rfl
    rw [htrace, List.filterMap_append, List.nil_append, hlog, List.nil_append,
      List.filterMap_cons_none rfl] at hs
    obtain ⟨reply, rfl⟩ | ⟨ready, reply, rfl⟩ := hrest
    · cases hs
    · have hs : s = ⟨h.nextSocket, some t, none, none⟩ := by simpa [Effect.socket] using hs
      rw [hs]
      rfl

/-- An `A_AUTH` touches no socket: the offline state that it sets keeps `handle_offline` from
closing any. -/
theorem handleAuth_sockets :
    (handleAuth env h.quiet t p).trace.filterMap Effect.socket = [] := by
  unfold handleAuth
  split
  · rfl
  · split
    · cases env.authReply with
      | signature => split <;> simp [Effect.socket]
      | publicKey => split <;> simp [Effect.socket]
    · have hoff : ((h.quiet.setConnectionState t .offline).transports t).connectionState =
          .offline := by simp [setConnectionState, emit]
      rw [handleOffline, if_pos hoff]
      rfl

/-- An `A_OKAY` touches the socket with its second id, when its payload has a size that it may have
and the socket's peer, if there is one, has its first. -/
theorem handleOkay_own_iff :
    (∀ s ∈ (h.quiet.handleOkay t p).elim [] fun h => h.trace.filterMap Effect.socket,
      ¬ s.BelongsToOther t) ↔
    ((h.transports t).online ∧ p.msg.arg0 ≠ 0 ∧ p.msg.arg1 ≠ 0 → (ackedBytes p).isSome →
      ∀ s ∈ h.findLocalSocket p.msg.arg1 0, (∀ peer ∈ s.peer, peer.id = p.msg.arg0.toNat) →
      ¬ s.BelongsToOther t) := by
  have hfind : h.quiet.findLocalSocket p.msg.arg1 0 = h.findLocalSocket p.msg.arg1 0 := rfl
  by_cases hguard : (h.transports t).online ∧ p.msg.arg0 ≠ 0 ∧ p.msg.arg1 ≠ 0
  · rw [handleOkay, if_pos hguard, imp_iff_right hguard, hfind]
    cases h.findLocalSocket p.msg.arg1 0 with
    | none => simp [sendClose, Effect.socket]
    | some s =>
      cases ackedBytes p with
      | none => simp
      | some acked =>
        cases hpeer : s.peer with
        | none =>
          -- The first ready: the peer is set, and then the socket is attached to `t` as well.
          simp [setPeer, putSocket, Effect.socket, hpeer, ASocket.transports]
          exact fun hall x hx => hx.elim (hall x) Eq.symm
        | some peer =>
          by_cases hid : peer.id = p.msg.arg0.toNat
          · simp [hid, hpeer, Effect.socket]
          · simp [hid, hpeer]
  · simp only [hguard, false_implies, iff_true]
    rw [handleOkay, if_neg hguard]
    exact fun s hs => absurd hs List.not_mem_nil

/-- An `A_CLSE` touches the socket with its ids, unless its first id is zero and the socket's peer
is on another transport. -/
theorem handleClse_own_iff :
    (∀ s ∈ (h.quiet.handleClse t p).trace.filterMap Effect.socket, ¬ s.BelongsToOther t) ↔
    ((h.transports t).online ∧ p.msg.arg1 ≠ 0 →
      ∀ s ∈ h.findLocalSocket p.msg.arg1 p.msg.arg0,
      (p.msg.arg0 = 0 → ∀ peer ∈ s.peer, peer.transport = some t) → ¬ s.BelongsToOther t) := by
  have hfind : h.quiet.findLocalSocket p.msg.arg1 p.msg.arg0 =
      h.findLocalSocket p.msg.arg1 p.msg.arg0 := rfl
  by_cases hguard : (h.transports t).online ∧ p.msg.arg1 ≠ 0
  · rw [handleClse, if_pos hguard, imp_iff_right hguard, hfind]
    cases h.findLocalSocket p.msg.arg1 p.msg.arg0 with
    | none => simp
    | some s =>
      by_cases hother : p.msg.arg0 = 0 ∧ ∃ peer ∈ s.peer, peer.transport ≠ some t
      · -- The socket is found, but it is left as it is.
        obtain ⟨hzero, peer, hpeer, ht⟩ := hother
        simp only [hzero, true_and, forall_const, Option.mem_some_iff, forall_eq']
        rw [if_pos ⟨peer, hpeer, ht⟩]
        exact ⟨fun _ hall => absurd (hall peer hpeer) ht, fun _ s hs => absurd hs List.not_mem_nil⟩
      · have hown : p.msg.arg0 = 0 → ∀ peer ∈ s.peer, peer.transport = some t := by
          intro hzero peer hpeer
          by_contra ht
          exact hother ⟨hzero, peer, hpeer, ht⟩
        simp only [if_neg hother, Option.mem_some_iff, forall_eq']
        exact ⟨fun hall _ => hall s (by simp [closeSocket, Effect.socket]),
          fun hall a ha => by
            have has : a = s := by simpa [closeSocket, Effect.socket] using ha
            rw [has]
            exact hall hown⟩
  · simp only [hguard, false_implies, iff_true]
    rw [handleClse, if_neg hguard]
    exact fun s hs => absurd hs List.not_mem_nil

/-- An `A_WRTE` touches the socket with its ids. -/
theorem handleWrte_own_iff :
    (∀ s ∈ (h.quiet.handleWrte t p).trace.filterMap Effect.socket, ¬ s.BelongsToOther t) ↔
    ((h.transports t).online ∧ p.msg.arg0 ≠ 0 ∧ p.msg.arg1 ≠ 0 →
      ∀ s ∈ h.findLocalSocket p.msg.arg1 p.msg.arg0, ¬ s.BelongsToOther t) := by
  have hfind : h.quiet.findLocalSocket p.msg.arg1 p.msg.arg0 =
      h.findLocalSocket p.msg.arg1 p.msg.arg0 := rfl
  by_cases hguard : (h.transports t).online ∧ p.msg.arg0 ≠ 0 ∧ p.msg.arg1 ≠ 0
  · rw [handleWrte, if_pos hguard, imp_iff_right hguard, hfind]
    cases h.findLocalSocket p.msg.arg1 p.msg.arg0 with
    | none => simp
    | some s => simp [Effect.socket]
  · simp only [hguard, false_implies, iff_true]
    rw [handleWrte, if_neg hguard]
    exact fun s hs => absurd hs List.not_mem_nil

/-- Freeing the packet touches no socket. -/
theorem sockets_putApacket : (h.emit .putApacket).trace.filterMap Effect.socket =
    h.trace.filterMap Effect.socket := by
  rw [emit_trace, List.filterMap_append]
  exact List.append_nil _

end Host

open Host

/-- For every table of sockets and every packet, the sockets that the packet touches belong to no
transport but the one that it was received on exactly when the sockets that its ids select do. -/
theorem touched_own_iff (env : PacketEnv) (h : Host) (t : ℕ) (p : APacket) :
    (∀ s ∈ touched env h t p, ¬ s.BelongsToOther t) ↔ h.SelectsOwn t p := by
  unfold touched handlePacket SelectsOwn
  cases Command.ofWord p.msg.command with
  | none => simp [Effect.socket]
  | some c =>
    cases c with
    | sync => simp [Effect.socket]
    | cnxn =>
      simp only [sockets_putApacket, handleNewConnection_sockets]
      by_cases hoff : (h.transports t).connectionState = .offline
      · simp [hoff]
      · simp [hoff, List.mem_filter]
    | «open» =>
      simp only [sockets_putApacket, iff_true]
      rintro s hs ⟨u, hu, hne⟩
      rw [handleOpen_sockets h t p env hs, List.mem_singleton] at hu
      exact hne hu
    | okay =>
      rw [← handleOkay_own_iff]
      simp only
      cases h.quiet.handleOkay t p with
      | none => exact ⟨fun _ s hs => absurd hs List.not_mem_nil,
          fun _ s hs => absurd hs List.not_mem_nil⟩
      | some h' => simp only [sockets_putApacket, Option.elim_some]
    | clse =>
      simp only [sockets_putApacket]
      exact handleClse_own_iff h t p
    | wrte =>
      simp only [sockets_putApacket]
      exact handleWrte_own_iff h t p
    | auth => simp only [sockets_putApacket, handleAuth_sockets, List.not_mem_nil, false_implies,
        implies_true]
    | stls => simp [handleStls, sendTlsRequest, Effect.socket]

/-- Two devices are online, and a client's socket 7 is peered with the socket 9 of device 1. -/
def twoDevicesOnline : Host :=
  { Host.initial false with
    transports := fun _ => { ATransport.new .local [] .device true with online := true }
    live := [1, 2]
    transportList := [1, 2]
    localSockets := [⟨7, some 1, some ⟨9, some 1⟩, none⟩] }

/-- Device 2 writes to the socket of device 1 by naming its ids. -/
theorem touched_another_transport :
    ¬ ∀ (env : PacketEnv) (h : Host) (t : ℕ) (p : APacket), ∀ s ∈ touched env h t p,
      ¬ s.BelongsToOther t := by
  intro hall
  have hown := hall ⟨false, .signature, []⟩ twoDevicesOnline 2
    ⟨⟨Command.wrte.word, 9, 7, 1, 0, 0⟩, [33]⟩
  revert hown
  decide

end AdbMobile
