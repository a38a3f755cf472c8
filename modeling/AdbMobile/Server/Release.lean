import AdbMobile.Server.Trace

/-!
# The packet that `handle_packet` deletes

`HandleRead` gives up its packet to `handle_packet`, which deletes it with `put_apacket` at its end.
No branch deletes it earlier, so every packet is deleted at most once (`handlePacket_freed`). The
early return of the `A_OKAY` branch skips the end. A packet is deleted exactly once unless it takes
that return (`handlePacket_releases_iff`), and the device alone decides that a packet of an open
socket does.
-/

namespace AdbMobile

open ByteString

namespace Host

/-- How often `put_apacket` has been called. -/
def freed (h : Host) : ℕ := h.trace.count .putApacket

/-- `handle_packet` deletes the packet that it is given exactly once. -/
def ReleasesPacket (env : PacketEnv) (h : Host) (t : ℕ) (p : APacket) : Prop :=
  (handlePacket env h t p).freed = h.freed + 1

/-- The packet is an `A_OKAY` for an open socket, with a payload that is neither empty nor the size
of an `int32_t`. -/
def ReturnsEarly (h : Host) (t : ℕ) (p : APacket) : Prop :=
  Command.ofWord p.msg.command = some .okay ∧ (h.transports t).online ∧ p.msg.arg0 ≠ 0 ∧
    p.msg.arg1 ≠ 0 ∧ (∃ s ∈ h.localSockets, s.id = p.msg.arg1.toNat) ∧
    p.payload.length ≠ 0 ∧ p.payload.length ≠ 4

variable (h : Host) (t : ℕ)

/-- `put_apacket` deletes one packet. -/
@[simp] theorem emit_putApacket_freed : (h.emit .putApacket).freed = h.freed + 1 := by
  simp [freed]

/-- No other effect deletes one. -/
theorem emit_freed {e : Effect} (he : e ≠ .putApacket) : (h.emit e).freed = h.freed := by
  simp [freed, he]

@[simp] theorem modifyTransport_freed (f : ATransport → ATransport) :
    (h.modifyTransport t f).freed = h.freed := rfl

@[simp] theorem setConnectionState_freed (state : ConnectionState) :
    (h.setConnectionState t state).freed = h.freed := by
  simp [freed]

@[simp] theorem sendPacket_freed (p : APacket) : (h.sendPacket t p).freed = h.freed := by
  simp [freed]

@[simp] theorem sendClose_freed (localId remote : UInt32) :
    (h.sendClose localId remote t).freed = h.freed := sendPacket_freed h t _

@[simp] theorem setPeer_freed (s : ASocket) (remote : ℕ) :
    (h.setPeer s remote t).2.freed = h.freed := emit_freed h (by simp)

@[simp] theorem closeSocket_freed (s : ASocket) : (h.closeSocket s).freed = h.freed :=
  emit_freed h (by simp)

@[simp] theorem handleOffline_freed : (h.handleOffline t).freed = h.freed := by
  unfold freed
  rw [handleOffline_trace]
  split
  · rfl
  · have hclose : .putApacket ∉ (h.localSockets.filter (·.AttachedTo t)).map Effect.close := by simp
    simp [List.count_eq_zero.mpr hclose]

/-! ## The branches -/

@[simp] theorem handleNewConnection_freed (p : APacket) :
    (h.handleNewConnection t p).freed = h.freed := by
  have hoffline : (h.handleOffline t).freed = h.freed := handleOffline_freed h t
  simpa [freed, handleNewConnection_trace] using hoffline

@[simp] theorem handleStls_freed : (h.handleStls t).freed = h.freed := by
  rw [handleStls, emit_freed _ (by simp), sendTlsRequest, sendPacket_freed, modifyTransport_freed]

@[simp] theorem handleAuth_freed (env : PacketEnv) (p : APacket) :
    (handleAuth env h t p).freed = h.freed := by
  -- The state may change before the answer, which changes no count.
  have hauthorizing : (if (h.transports t).connectionState = .authorizing then h
      else h.setConnectionState t .authorizing).freed = h.freed := by
    split
    · rfl
    · exact setConnectionState_freed h t _
  unfold handleAuth
  split
  · rfl
  · split
    · cases env.authReply with
      | signature => rw [emit_freed _ (by simp), hauthorizing]
      | publicKey =>
        rw [modifyTransport_freed, setConnectionState_freed, emit_freed _ (by simp), hauthorizing]
    · rw [handleOffline_freed, setConnectionState_freed]

@[simp] theorem handleOpen_freed (env : PacketEnv) (p : APacket) :
    (handleOpen env h t p).freed = h.freed := by
  obtain ⟨-, replies, htrace⟩ | ⟨-, log, rest, htrace, hlog, hrest⟩ := handleOpen_cases env h t p
  · have hnone : .putApacket ∉ replies.map (Effect.sendPacket t) := by simp
    simp [freed, htrace, List.count_eq_zero.mpr hnone]
  · have hnoLog : log.count .putApacket = 0 :=
      List.count_eq_zero.mpr fun hmem => by simpa using hlog _ hmem
    have hnoRest : rest.count .putApacket = 0 := by
      obtain ⟨reply, rfl⟩ | ⟨ready, reply, rfl⟩ := hrest
      · simp
      · simp
    simp [freed, htrace, hnoLog, hnoRest]

/-- With any peer allowed, the socket that is found is the first with the id. -/
theorem findLocalSocket_zero (localId : UInt32) : h.findLocalSocket localId 0 =
    h.localSockets.find? (·.id = localId.toNat) := by
  unfold findLocalSocket
  split
  · rename_i s hs
    rw [if_pos (.inl rfl), hs]
  · rename_i hnone
    rw [hnone]

/-- The payload that `A_OKAY` refuses. -/
theorem ackedBytes_eq_none_iff (p : APacket) :
    ackedBytes p = none ↔ p.payload.length ≠ 0 ∧ p.payload.length ≠ 4 := by
  unfold ackedBytes
  by_cases hfour : p.payload.length = 4
  · simp [hfour]
  · by_cases hzero : p.payload.length = 0
    · simp [hzero]
    · simp [hfour, hzero]

/-- The early return is taken for a payload of the wrong size, once there is a socket. -/
theorem handleOkay_eq_none_iff (p : APacket) : h.handleOkay t p = none ↔
    ((h.transports t).online ∧ p.msg.arg0 ≠ 0 ∧ p.msg.arg1 ≠ 0) ∧
      (∃ s ∈ h.localSockets, s.id = p.msg.arg1.toNat) ∧
        p.payload.length ≠ 0 ∧ p.payload.length ≠ 4 := by
  rw [handleOkay, ← ackedBytes_eq_none_iff, findLocalSocket_zero]
  by_cases hguard : (h.transports t).online ∧ p.msg.arg0 ≠ 0 ∧ p.msg.arg1 ≠ 0
  · rw [if_pos hguard]
    cases hfind : h.localSockets.find? (·.id = p.msg.arg1.toNat) with
    | none =>
      have hnone : ¬ ∃ s ∈ h.localSockets, s.id = p.msg.arg1.toNat := by
        rintro ⟨s, hs, hid⟩
        exact List.find?_eq_none.mp hfind s hs (decide_eq_true hid)
      simp [hnone]
    | some s =>
      have hsocket : ∃ s ∈ h.localSockets, s.id = p.msg.arg1.toNat :=
        ⟨s, List.mem_of_find?_eq_some hfind, of_decide_eq_true (List.find?_some hfind :)⟩
      cases hacked : ackedBytes p with
      | none => simp [hguard, hsocket]
      | some acked =>
        -- Past the payload every way on returns to the end of `handle_packet`.
        dsimp only
        split
        · simp
        · split <;> simp
  · rw [if_neg hguard]
    simp [hguard]

/-- Where the `A_OKAY` branch reaches its end, it has deleted nothing. -/
theorem handleOkay_freed {h' : Host} (p : APacket) (hokay : h.handleOkay t p = some h') :
    h'.freed = h.freed := by
  unfold handleOkay at hokay
  split at hokay
  · split at hokay
    · split at hokay
      · cases hokay
      · split at hokay
        · -- The first `A_OKAY` sets the peer.
          rw [← Option.some.inj hokay, emit_freed _ (by simp), emit_freed _ (by simp)]
          exact setPeer_freed h t _ _
        · split at hokay
          · rw [← Option.some.inj hokay, emit_freed _ (by simp)]
          · rw [← Option.some.inj hokay]
    · rw [← Option.some.inj hokay, sendClose_freed]
  · rw [← Option.some.inj hokay]

@[simp] theorem handleClse_freed (p : APacket) : (h.handleClse t p).freed = h.freed := by
  unfold handleClse
  split
  · split
    · split
      · rfl
      · exact closeSocket_freed h _
    · rfl
  · rfl

@[simp] theorem handleWrte_freed (p : APacket) : (h.handleWrte t p).freed = h.freed := by
  unfold handleWrte
  split
  · split
    · exact emit_freed h (by simp)
    · rfl
  · rfl

/-! ## The packet -/

/-- What `handle_packet` deletes: nothing on the early return, and its packet otherwise. -/
theorem handlePacket_freed (env : PacketEnv) (p : APacket) : (handlePacket env h t p).freed =
    if Command.ofWord p.msg.command = some .okay ∧ h.handleOkay t p = none then h.freed
    else h.freed + 1 := by
  unfold handlePacket
  cases hcommand : Command.ofWord p.msg.command with
  | none => simp
  | some c =>
    cases c with
    | okay =>
      cases hokay : h.handleOkay t p with
      | none => simp
      | some h' =>
        have hkept : h'.freed = h.freed := handleOkay_freed h t p hokay
        simp [hkept]
    | _ => simp

/-- A packet is deleted exactly once, unless it is an `A_OKAY` that takes the early return. -/
theorem handlePacket_releases_iff (env : PacketEnv) (h : Host) (t : ℕ) (p : APacket) :
    ReleasesPacket env h t p ↔ ¬ h.ReturnsEarly t p := by
  have hearly : h.ReturnsEarly t p ↔
      Command.ofWord p.msg.command = some .okay ∧ h.handleOkay t p = none := by
    rw [handleOkay_eq_none_iff, ReturnsEarly]
    simp only [and_assoc]
  rw [ReleasesPacket, handlePacket_freed, hearly]
  split
  · rename_i hreturn
    simp [hreturn]
  · rename_i hend
    simp [hend]

/-- A host with one transport that is online and one socket, whose id is 1. -/
def oneSocketHost : Host :=
  { (initial false).modifyTransport 0 fun x => { x with online := true } with
    localSockets := [⟨1, some 0, none, none⟩] }

/-- An `A_OKAY` from the remote socket 7 for the local socket 1, with one byte of payload. -/
def oneByteOkay : APacket :=
  ⟨⟨Command.okay.word, 7, 1, 1, 0, Command.okay.word ^^^ 0xffffffff⟩, [0]⟩

/-- The device sends an `A_OKAY` with one byte of payload, and the packet is never deleted. -/
theorem oneByteOkay_not_released : (oneSocketHost.transports 0).checkHeader oneByteOkay = true ∧
    ¬ ReleasesPacket ⟨true, .signature, []⟩ oneSocketHost 0 oneByteOkay := by
  constructor
  · decide
  · unfold ReleasesPacket
    decide

end Host

end AdbMobile
