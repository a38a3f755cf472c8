import AdbMobile.Server.Trace

/-!
# Which services a device opens

`adb reverse` lets a device open connections from the host, and `reverse_forwards_` holds the local
addresses that the user configured. The `A_OPEN` branch of `handle_packet` compares the requested
address with them and logs a fatal error when it is none of them. In this build that log returns,
and the address is opened all the same; the compared string also ends at the first NUL of the
payload, where the opened one does not.

In a run of the looper every address that is opened for a device is configured exactly when every
`A_OPEN` packet that passes the guards asks for a configured one (`opens_configured_iff`).
-/

namespace AdbMobile

open ByteString Run Host

/-- The addresses that `reverse_forwards_` allows. -/
def ATransport.reverseLocals (t : ATransport) : List Bytes :=
  t.reverseForwards.entries.map (·.2)

/-- The address and the transport of a service that an effect opens. -/
def Effect.openedService : Effect → Option (Bytes × ℕ)
  | .openService address t => some (address, t)
  | _ => none

/-- The services that the trace opens. -/
def Host.services (h : Host) : List (Bytes × ℕ) := h.trace.filterMap Effect.openedService

/-- Every service that a step opens is configured for its transport before the step. -/
def OpensConfigured (h : Host) (_ : LooperEvent) (h' : Host) : Prop :=
  ∀ o ∈ h'.services, o.1 ∈ (h.transports o.2).reverseLocals

/-- A packet does not ask for an address that is not configured: it is no `A_OPEN`, or it is stopped
by the guards of that branch, or the address is configured. -/
def AsksForConfigured (h : Host) : LooperEvent → Prop
  | .packet t p _ => Command.ofWord p.msg.command = some .open → h.PassesOpenGuards t p →
      openAddress p ∈ (h.transports t).reverseLocals
  | _ => True

namespace Host

variable (h : Host) (t : ℕ) (p : APacket) (env : PacketEnv)

/-- Only a request for a service adds one. -/
@[simp] theorem services_emit (e : Effect) :
    (h.emit e).services = h.services ++ e.openedService.toList := by
  rw [services, emit_trace, List.filterMap_append]
  cases he : e.openedService with
  | none => simp [services, he]
  | some o => simp [services, he]

/-- The services are those of the trace. -/
theorem services_congr {h h' : Host} (htrace : h'.trace = h.trace) : h'.services = h.services :=
  congrArg (List.filterMap Effect.openedService) htrace

@[simp] theorem services_modifyTransport (f : ATransport → ATransport) :
    (h.modifyTransport t f).services = h.services := rfl

@[simp] theorem services_setConnectionState (state : ConnectionState) :
    (h.setConnectionState t state).services = h.services := by
  simp [setConnectionState, Effect.openedService]

@[simp] theorem services_sendPacket : (h.sendPacket t p).services = h.services := by
  simp [sendPacket, Effect.openedService]

@[simp] theorem services_quiet : h.quiet.services = [] := rfl

@[simp] theorem services_putSocket (s : ASocket) : (h.putSocket s).services = h.services := rfl

@[simp] theorem services_closeSocket (s : ASocket) :
    (h.closeSocket s).services = h.services :=
  (services_emit h (.close s)).trans (List.append_nil _)

@[simp] theorem services_handleOffline : (h.handleOffline t).services = h.services := by
  rw [services, handleOffline_trace]
  split
  · rfl
  · have hclose : ∀ ss : List ASocket,
        (ss.map Effect.close).filterMap Effect.openedService = [] := by
      intro ss
      rw [List.filterMap_map, List.filterMap_eq_nil_iff]
      exact fun _ _ => rfl
    rw [List.filterMap_append, List.filterMap_append, hclose, List.append_nil]
    exact List.append_nil _

@[simp] theorem services_handleNewConnection :
    (h.handleNewConnection t p).services = h.services := by
  rw [← services_handleOffline h t, services, handleNewConnection_trace, List.filterMap_append]
  exact List.append_nil _

@[simp] theorem services_handleStls : (h.handleStls t).services = h.services := by
  simp [handleStls, sendTlsRequest, Effect.openedService]

@[simp] theorem services_handleAuth : (handleAuth env h t p).services = h.services := by
  unfold handleAuth
  split
  · rfl
  · split
    · cases env.authReply <;> split <;> simp [Effect.openedService]
    · simp

@[simp] theorem services_handleClse : (h.handleClse t p).services = h.services := by
  unfold handleClse
  split
  · split
    · split
      · rfl
      · exact services_closeSocket h _
    · rfl
  · rfl

@[simp] theorem services_handleWrte : (h.handleWrte t p).services = h.services := by
  unfold handleWrte
  split
  · split
    · simp [Effect.openedService]
    · rfl
  · rfl

/-- An `A_OKAY` opens no service, whether or not it returns early. -/
theorem services_handleOkay {h' : Host} (hs : h.handleOkay t p = some h') :
    h'.services = h.services := by
  unfold handleOkay at hs
  split at hs
  · split at hs
    · split at hs
      · cases hs
      · split at hs
        · cases hs
          simp [Effect.openedService]
        · split at hs
          · cases hs
            simp [Effect.openedService]
          · cases hs
            rfl
    · cases hs
      simp [sendClose]
  · cases hs
    rfl

/-- An `A_OPEN` opens its address once it is past the guards. -/
theorem services_handleOpen : (handleOpen env h t p).services =
    h.services ++ if h.PassesOpenGuards t p then [(openAddress p, t)] else [] := by
  obtain ⟨hguard, replies, htrace⟩ | ⟨hguard, log, rest, htrace, hlog, hrest⟩ :=
    handleOpen_cases env h t p
  · rw [services, htrace, if_neg hguard, List.filterMap_append, List.filterMap_map]
    congr 1
    exact List.filterMap_eq_nil_iff.mpr fun _ _ => rfl
  · have hlog : log.filterMap Effect.openedService = [] :=
      List.filterMap_eq_nil_iff.mpr fun e he => by rw [hlog e he]; rfl
    have hrest : rest.filterMap Effect.openedService = [] := by
      obtain ⟨reply, rfl⟩ | ⟨ready, reply, rfl⟩ := hrest
      · rfl
      · rfl
    rw [services, htrace, if_pos hguard, List.filterMap_append, List.filterMap_append, hlog,
      List.append_nil]
    exact congrArg (h.services ++ (openAddress p, t) :: ·) hrest

/-- A packet opens a service only if it is an `A_OPEN` past the guards, and then the one that it
asks for. -/
theorem services_handlePacket : (handlePacket env h.quiet t p).services =
    if Command.ofWord p.msg.command = some .open ∧ h.PassesOpenGuards t p then
      [(openAddress p, t)]
    else [] := by
  unfold handlePacket
  cases Command.ofWord p.msg.command with
  | none => simp [Effect.openedService]
  | some c =>
    cases c with
    | «open» =>
      simp only [services_emit, services_handleOpen, true_and]
      exact List.append_nil _
    | okay =>
      cases hs : h.quiet.handleOkay t p with
      | none => simp
      | some h' => simp [services_handleOkay h.quiet t p hs, Effect.openedService]
    | _ => simp [Effect.openedService]

/-- No other event opens a service. -/
theorem services_handle {e : LooperEvent} (he : ∀ t p env, e ≠ .packet t p env) :
    (h.quiet.handle e).services = [] := by
  cases e with
  | packet t p env => exact absurd rfl (he t p env)
  | installListener r => exact services_congr (installListener_trace h.quiet r)
  | removeListener name => exact services_congr (removeListener_trace h.quiet name)
  | removeAllListeners => exact services_congr (foldl_eraseListener_trace h.quiet _)
  | relaunch => exact services_congr (foldl_eraseListener_trace h.quiet _)
  | closeSocket s => exact services_closeSocket h.quiet s
  | connectionError t =>
    simp only [handle, handleError, transportDestroy]
    split <;> simp [Effect.openedService]
  | registerTransport t startDetached =>
    have hleave : ∀ h : Host, (h.leavePending t).services = h.services := by
      intro h
      unfold leavePending
      split <;> rfl
    simp only [handle, registerTransport, services_emit, hleave, startTransport]
    split
    · rfl
    · split
      · simp [Effect.openedService]
      · simp only [sendConnect, checkConnectionString]
        split <;> simp [Effect.openedService]
  | unregisterTransport t => rfl
  | _ => rfl

end Host

/-- In every run of the looper, every address that is opened for a device is the local part of one
of its reverse forwards at that moment exactly when every `A_OPEN` packet that passes the guards
asks for such an address. -/
theorem opens_configured_iff (h : Host) (es : List LooperEvent) :
    EachStep Host.step OpensConfigured h es ↔ Meets Host.step AsksForConfigured h es := by
  refine eachStep_congr fun h e h' hs => ?_
  obtain ⟨-, rfl⟩ := step_eq_some hs
  by_cases he : ∀ t p env, e ≠ .packet t p env
  · have hnone : OpensConfigured h e (h.quiet.handle e) := fun o ho =>
      absurd ho (services_handle h he ▸ List.not_mem_nil)
    refine iff_of_true hnone ?_
    cases e with
    | packet t p env => exact absurd rfl (he t p env)
    | _ => trivial
  · push Not at he
    obtain ⟨t, p, env, rfl⟩ := he
    simp only [OpensConfigured, handle, services_handlePacket h t p env, AsksForConfigured]
    by_cases hopens : Command.ofWord p.msg.command = some .open ∧ h.PassesOpenGuards t p
    · simp [hopens]
    · rw [if_neg hopens]
      exact iff_of_true (fun o ho => absurd ho List.not_mem_nil)
        fun hopen hguard => absurd ⟨hopen, hguard⟩ hopens

/-- A device is online, and nothing is configured for it. -/
def oneDeviceOnline : Host :=
  { Host.initial false with
    transports := fun _ => { ATransport.new .local [] .device true with online := true }
    live := [1]
    transportList := [1] }

/-- It opens the host's port 22. -/
theorem opens_not_configured :
    ¬ ∀ (h : Host) (es : List LooperEvent), EachStep Host.step OpensConfigured h es := by
  intro hall
  have hopen := hall oneDeviceOnline [.packet 1
    ⟨⟨Command.open.word, 5, 0, 6, 0, 0⟩, lit "tcp:22"⟩ ⟨true, .signature, []⟩]
  have hmem := (hopen _ rfl).1 (lit "tcp:22", 1) (by decide)
  exact absurd hmem (by decide)

end AdbMobile
