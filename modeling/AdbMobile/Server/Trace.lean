import AdbMobile.Server.Looper

/-!
# What the looper's functions append to the trace

One lemma for each function of the looper says which effects it appends. Erasing listeners appends
none, going offline closes the attached sockets, and of all the events only an `A_OPEN` packet opens
a service (`handle_openService_iff`).
-/

namespace AdbMobile

open ByteString Run

namespace Host

variable (h : Host) (t : ℕ)

@[simp] theorem emit_trace (e : Effect) : (h.emit e).trace = h.trace ++ [e] := rfl

@[simp] theorem modifyTransport_trace (f : ATransport → ATransport) :
    (h.modifyTransport t f).trace = h.trace := rfl

@[simp] theorem setConnectionState_trace (state : ConnectionState) :
    (h.setConnectionState t state).trace = h.trace ++ [.updateTransports] := rfl

@[simp] theorem sendPacket_trace (p : APacket) : (h.sendPacket t p).trace =
    h.trace ++ [.sendPacket t ((h.transports t).finishPacket p)] := rfl

theorem sendClose_trace (localId remote : UInt32) :
    ∃ reply, (h.sendClose localId remote t).trace = h.trace ++ [.sendPacket t reply] := ⟨_, rfl⟩

/-- Closing sockets appends the calls. -/
theorem foldl_closeSocket_trace (ss : List ASocket) :
    ∀ h : Host, (ss.foldl closeSocket h).trace = h.trace ++ ss.map .close := by
  induction ss with
  | nil => simp
  | cons s ss ih =>
    intro h
    rw [List.foldl_cons, ih, closeSocket, List.map_cons, List.append_cons]
    rfl

/-- `close_all_sockets` calls `close` on every attached socket. -/
@[simp] theorem closeAllSockets_trace : (h.closeAllSockets t).trace =
    h.trace ++ (h.localSockets.filter (·.AttachedTo t)).map .close :=
  foldl_closeSocket_trace _ h

@[simp] theorem listenerDisconnect_trace (id : ℕ) : (h.listenerDisconnect id).trace = h.trace := by
  unfold listenerDisconnect
  split <;> rfl

@[simp] theorem runDisconnects_trace : (h.runDisconnects t).trace = h.trace :=
  foldl_keeps Host.trace listenerDisconnect_trace _ h

theorem foldl_eraseListener_trace (ls : List AListener) :
    (ls.foldl eraseListener h).trace = h.trace :=
  foldl_keeps Host.trace (f := eraseListener) (fun _ _ => rfl) ls h

/-- Going offline closes every attached socket, the first time. -/
theorem handleOffline_trace : (h.handleOffline t).trace =
    if (h.transports t).connectionState = .offline then h.trace
    else h.trace ++ [.updateTransports] ++ (h.localSockets.filter (·.AttachedTo t)).map .close := by
  unfold handleOffline
  split
  · rfl
  · simp only [runDisconnects_trace, closeAllSockets_trace, modifyTransport_trace,
      setConnectionState_trace]
    rfl

/-- A new connection goes offline first, and then closes nothing. -/
theorem handleNewConnection_trace (p : APacket) :
    (h.handleNewConnection t p).trace = (h.handleOffline t).trace ++ [.updateTransports] := rfl

theorem installListener_trace (r : InstallRequest) : (h.installListener r).2.trace = h.trace := by
  obtain ⟨heq, -⟩ | ⟨l, -, -, -, heq⟩ | ⟨listening, -, heq⟩ := installListener_cases h r
  · rw [heq]
  · rw [heq, rebindListener]
    split <;> rfl
  · rw [heq]
    rfl

theorem removeListener_trace (name : Bytes) : (h.removeListener name).2.trace = h.trace := by
  unfold removeListener
  split <;> rfl

/-- A packet that passes the guards of the `A_OPEN` branch. -/
abbrev PassesOpenGuards (h : Host) (t : ℕ) (p : APacket) : Prop :=
  (h.transports t).online ∧ p.msg.arg0 ≠ 0 ∧ (h.transports t).delayedAck = decide (p.msg.arg1 ≠ 0)

/-- An `A_OPEN` that creates a socket sets the peer of that socket and reports it. -/
theorem connectService_trace (p : APacket) : ∃ ready reply, (h.connectService t p).trace =
    h.trace ++ [.setPeer ⟨h.nextSocket, some t, none, none⟩ p.msg.arg0.toNat t,
      .sendPacket t reply, .ready ready] := by
  have hsteps : ∃ ready reply, (h.connectService t p).trace =
      ((h.trace ++ [.setPeer ⟨h.nextSocket, some t, none, none⟩ p.msg.arg0.toNat t]) ++
        [.sendPacket t reply]) ++ [.ready ready] := ⟨_, _, rfl⟩
  obtain ⟨ready, reply, htrace⟩ := hsteps
  exact ⟨ready, reply, by rw [htrace, List.append_assoc, List.append_assoc]; rfl⟩

/-- What an `A_OPEN` does: outside the guards it answers at most, and past them it opens the service
whether or not the address is configured. -/
theorem handleOpen_cases (env : PacketEnv) (h : Host) (t : ℕ) (p : APacket) :
    (¬ h.PassesOpenGuards t p ∧ ∃ replies : List APacket,
      (handleOpen env h t p).trace = h.trace ++ replies.map (.sendPacket t)) ∨
    (h.PassesOpenGuards t p ∧ ∃ log rest,
      (handleOpen env h t p).trace = h.trace ++ log ++ .openService (openAddress p) t :: rest ∧
      (∀ e ∈ log, e = .logFatal) ∧
      ((∃ reply, rest = [.sendPacket t reply]) ∨
        ∃ ready reply, rest = [.setPeer ⟨h.nextSocket, some t, none, none⟩ p.msg.arg0.toNat t,
          .sendPacket t reply, .ready ready])) := by
  unfold handleOpen
  split
  · rename_i hguard
    refine .inl ⟨fun hpass => ?_, [], by simp⟩
    rcases hguard with honline | hzero
    · simp [hpass.1] at honline
    · exact hpass.2.1 hzero
  · rename_i hguard
    split
    · rename_i hack
      exact .inl ⟨fun hpass => hack hpass.2.2, [_], rfl⟩
    · rename_i hack
      have hpass : h.PassesOpenGuards t p := by
        rw [not_or, Bool.not_eq_true', Bool.not_eq_false] at hguard
        exact ⟨hguard.1, hguard.2, not_not.mp hack⟩
      -- The check only decides whether a line is logged.
      obtain ⟨log, hlog, hcheck, hnext⟩ : ∃ log : List Effect, (∀ e ∈ log, e = .logFatal) ∧
          (checkReverse env h t p).trace = h.trace ++ log ∧
          (checkReverse env h t p).nextSocket = h.nextSocket := by
        unfold checkReverse
        split
        · exact ⟨[], by simp, by simp, rfl⟩
        · exact ⟨[.logFatal], by simp, rfl, rfl⟩
      refine .inr ⟨hpass, log, ?_⟩
      split
      · obtain ⟨ready, reply, htrace⟩ := connectService_trace
          ((checkReverse env h t p).emit (.openService (openAddress p) t)) t p
        refine ⟨_, ?_, hlog, .inr ⟨ready, reply, rfl⟩⟩
        rw [htrace, emit_trace, hcheck]
        simp [emit, hnext]
      · obtain ⟨reply, htrace⟩ := sendClose_trace
          ((checkReverse env h t p).emit (.openService (openAddress p) t)) t 0 p.msg.arg0
        refine ⟨_, ?_, hlog, .inl ⟨reply, rfl⟩⟩
        rw [htrace, emit_trace, hcheck]
        simp

end Host

end AdbMobile
