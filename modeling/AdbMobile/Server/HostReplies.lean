import AdbMobile.Server.HostRequest

/-!
# The replies to host requests

A request that is left unhandled is answered by the caller of `handle_host_request`, so
`handle_host_request` itself has to be silent about it. It is, but for `kill`: the port returns
`Unhandled` where the process used to exit, and a `kill` that is rejected goes on to the end
(`unhandled_unanswered_iff`).

A request that needs a device says why there is none. `reconnect` says it as a success, and the
services of `handle_forward_request` do not say it at all (`selection_error_sent_iff`).
-/

namespace AdbMobile

open ByteString

/-- What is written to `reply_fd`. -/
def HostRequestEvent.writes : HostRequestEvent → Bool
  | .reply _ | .transportId _ => true
  | _ => false

namespace HostRequest

/-- What a request has written to `reply_fd`, in order. -/
def written (t : List HostRequestEvent) : List HostRequestEvent :=
  t.filter HostRequestEvent.writes

@[simp] theorem written_append (t t' : List HostRequestEvent) :
    written (t ++ t') = written t ++ written t' := List.filter_append ..

/-- The program does not leave a request unhandled. -/
def Handles (p : HostM HostRequestResult) : Prop := ∀ s, (p s).result ≠ .ok .unhandled

/-- The program writes nothing. -/
abbrev WritesNothing {α : Type} (p : HostM α) : Prop := ∀ s, written (p s).trace = []

section Rules

variable {α : Type} {p : HostM α} {f : α → HostM HostRequestResult}

theorem handles_pure {r : HostRequestResult} (hr : r ≠ .unhandled) :
    Handles (pure r) := fun _ h => hr (Except.ok.inj h)

/-- What comes last decides. -/
theorem Handles.bind (hf : ∀ a, Handles (f a)) : Handles (p >>= f) := by
  intro s h
  obtain ⟨a, -, hresult, -, -⟩ := Prog.bind_returns h
  exact hf a _ hresult

theorem Handles.ite {c : Prop} [Decidable c] {p q : HostM HostRequestResult} (hp : Handles p)
    (hq : ¬ c → Handles q) : Handles (if c then p else q) := by
  split
  · exact hp
  · exact hq ‹_›

/-- One more service that is handled, before what is handled or is `r`. -/
theorem handles_or_ite {c : Prop} [Decidable c] {p q r : HostM HostRequestResult} (hp : Handles p)
    (hq : Handles q ∨ q = r) : Handles (if c then p else q) ∨ (if c then p else q) = r := by
  by_cases hc : c
  · rw [if_pos hc]
    exact .inl hp
  · rw [if_neg hc]
    exact hq

end Rules

section Request

variable (env : HostRequestEnv) (given : TransportSelection)

/-! ## Services that are handled -/

theorem handles_switchTransport (service : Bytes) :
    Handles (switchTransport env given service) := by
  unfold switchTransport
  split
  · exact .bind fun _ => handles_pure (by simp)
  · refine .bind fun a => ?_
    split
    · refine .bind fun _ => .bind fun _ => ?_
      split
      · exact .bind fun _ => handles_pure (by simp)
      · exact handles_pure (by simp)
    · exact .bind fun _ => handles_pure (by simp)

theorem handles_answerDevice (answer : ListedTransport → Bytes) :
    Handles (answerDevice env given answer) := by
  refine .bind fun t => ?_
  split <;> exact .bind fun _ => handles_pure (by simp)

theorem handles_reconnectOffline : Handles (reconnectOffline env) :=
  .bind fun _ => .bind fun _ => .bind fun _ => handles_pure (by simp)

theorem handles_disconnectSerial (address serial : Bytes) :
    Handles (disconnectSerial address serial) := by
  refine .bind fun t => ?_
  split
  · exact .bind fun _ => handles_pure (by simp)
  · exact .bind fun _ => .bind fun _ => handles_pure (by simp)

theorem handles_disconnect (address : Bytes) : Handles (disconnect env address) := by
  refine .ite (.bind fun _ => .bind fun _ => handles_pure (by simp)) fun _ => .bind fun t => ?_
  split
  · exact .bind fun _ => .bind fun _ => handles_pure (by simp)
  · refine .ite (handles_disconnectSerial address address) fun _ => ?_
    split
    · exact .bind fun _ => handles_pure (by simp)
    · exact handles_disconnectSerial address _

theorem handles_reconnect : Handles (reconnect env given) := by
  refine .bind fun t => ?_
  split
  · exact .bind fun _ => .bind fun _ => handles_pure (by simp)
  · exact .bind fun _ => handles_pure (by simp)

theorem handles_attach : Handles (attach env given) := by
  refine .bind fun t => ?_
  split
  · exact .bind fun _ => handles_pure (by simp)
  · refine .bind fun r => ?_
    split <;> exact .bind fun _ => handles_pure (by simp)

theorem handles_detach : Handles (detach env given) := by
  refine .bind fun t => ?_
  split
  · exact .bind fun _ => handles_pure (by simp)
  · refine .bind fun _ => .bind fun r => ?_
    split <;> exact .bind fun _ => handles_pure (by simp)

theorem handles_emulator (port : Bytes) : Handles (emulator env port) := by
  unfold emulator
  split
  · exact handles_pure (by simp)
  · exact .bind fun _ => handles_pure (by simp)

/-- An answer that is a string. -/
theorem handles_sendOkayString (answer : Bytes) :
    Handles (do sendOkayString answer; return .handled) := .bind fun _ => handles_pure (by simp)

/-! ## The end of the dispatcher -/

/-- The transport of the socket is taken without a look at the list. -/
theorem requestTransport_socket {s : HostRequestState} {t : ℕ}
    (hsocket : s.socketTransport = some t)
    (acceptAnyState : Bool) : requestTransport env given acceptAnyState s =
      ⟨.ok (.ok (env.transport s.host t)), s, []⟩ := by
  simp [requestTransport, hsocket]

/-- For a socket without a transport, one is acquired. -/
theorem requestTransport_acquires {s : HostRequestState} {t : ListedTransport}
    (hsocket : s.socketTransport = none) {acceptAnyState : Bool}
    (ht : (acquireOneTransport env.toAcquireEnv given (env.transportList s.host)
      acceptAnyState).transport = some t) :
    requestTransport env given acceptAnyState s =
      ⟨.ok (.ok t), s, [.acquires given acceptAnyState]⟩ := by
  simp [requestTransport, hsocket, acquire, ht]

/-- Where none can be acquired, there is the error. -/
theorem requestTransport_fails {s : HostRequestState} (hsocket : s.socketTransport = none)
    {acceptAnyState : Bool} (hnone : (acquireOneTransport env.toAcquireEnv given
      (env.transportList s.host) acceptAnyState).transport = none) :
    requestTransport env given acceptAnyState s =
      ⟨.ok (.error (acquireOneTransport env.toAcquireEnv given (env.transportList s.host)
        acceptAnyState).error), s, [.acquires given acceptAnyState]⟩ := by
  simp [requestTransport, hsocket, acquire, hnone]

theorem writesNothing_requestTransport (acceptAnyState : Bool) :
    WritesNothing (requestTransport env given acceptAnyState) := by
  intro s
  cases hsocket : s.socketTransport with
  | some t => rw [requestTransport_socket env given hsocket]; rfl
  | none =>
    cases ht : (acquireOneTransport env.toAcquireEnv given (env.transportList s.host)
        acceptAnyState).transport with
    | some t => rw [requestTransport_acquires env given hsocket ht]; rfl
    | none => rw [requestTransport_fails env given hsocket ht]; rfl

theorem writesNothing_transportAcquirer (service : Bytes) :
    WritesNothing (transportAcquirer env given service) := by
  intro s
  unfold transportAcquirer
  split
  · have hnothing := writesNothing_requestTransport env given false s
    cases hr : (requestTransport env given false s).result with
    | error x => cases x
    | ok r =>
      rw [Prog.bind_apply_ok hr]
      cases r <;> simp [hnothing]
  · rfl

/-- A request that falls through the whole dispatcher has written nothing. -/
theorem fallback_unhandled {service : Bytes} {s : HostRequestState}
    (h : (fallback env given service s).result = .ok .unhandled) :
    written (fallback env given service s).trace = [] := by
  unfold fallback at h ⊢
  obtain ⟨transport, -, hresult, -, htrace⟩ := Prog.bind_returns h
  rw [htrace, written_append, writesNothing_transportAcquirer env given service s, List.nil_append]
  rw [Prog.bind_get_apply] at hresult ⊢
  cases hforward : (transportAcquirer env given service s).state.host.handleForwardRequest
      ⟨service, transport, env.listening⟩ with
  | some r =>
    rw [hforward] at hresult
    exact absurd hresult (Handles.bind (fun _ => .bind fun _ => handles_pure (by simp)) _)
  | none => rfl

/-- Past `kill`, a request is left unhandled by the end of the dispatcher, and by nothing else. -/
theorem handleService_cases (service : Bytes) :
    Handles (handleService env given service) ∨
      handleService env given service = fallback env given service := by
  unfold handleService
  refine handles_or_ite (handles_switchTransport env given service) ?_
  refine handles_or_ite (handles_sendOkayString _) ?_
  refine handles_or_ite (.bind fun _ => handles_sendOkayString _) ?_
  refine handles_or_ite (handles_reconnectOffline env) ?_
  refine handles_or_ite (handles_answerDevice env given _) ?_
  refine handles_or_ite (.bind fun _ => handles_sendOkayString _) ?_
  refine handles_or_ite (handles_disconnect env _) ?_
  refine handles_or_ite (handles_sendOkayString _) ?_
  refine handles_or_ite (handles_answerDevice env given _) ?_
  refine handles_or_ite (handles_answerDevice env given _) ?_
  refine handles_or_ite (handles_answerDevice env given _) ?_
  refine handles_or_ite (handles_emulator env _) ?_
  refine handles_or_ite (handles_reconnect env given) ?_
  refine handles_or_ite (handles_attach env given) ?_
  exact handles_or_ite (handles_detach env given) (.inr rfl)

theorem handleService_unhandled {service : Bytes} {s : HostRequestState}
    (h : (handleService env given service s).result = .ok .unhandled) :
    written (handleService env given service s).trace = [] := by
  obtain hhandles | heq := handleService_cases env given service
  · exact absurd h (hhandles s)
  · rw [heq] at h ⊢
    exact fallback_unhandled env given h

/-- No service is called `kill`. -/
theorem handleService_kill (s : HostRequestState) :
    handleService env given (lit "kill") s = ⟨.ok .unhandled, s, []⟩ := by
  have hservice : handleService env given (lit "kill") = fallback env given (lit "kill") := by
    simp [handleService, selectsTransport, lit]
  have hforward : ∀ transport, s.host.handleForwardRequest ⟨lit "kill", transport, env.listening⟩ =
      none := by
    intro transport
    simp [Host.handleForwardRequest, cString, lit]
  have hacquirer : transportAcquirer env given (lit "kill") = pure (.error []) := by
    simp [transportAcquirer, forwards, cString, lit]
  rw [hservice, fallback, hacquirer]
  simp [hforward]

/-- A request that is left unhandled has not been answered, unless it is `kill`; a `kill` is always
answered and left unhandled. -/
theorem unhandled_unanswered_iff (service : Bytes) (s : HostRequestState) :
    ((handleHostRequest env given service s).result = .ok .unhandled →
      written (handleHostRequest env given service s).trace = []) ↔ service ≠ lit "kill" := by
  constructor
  · rintro h rfl
    -- The answer, and then nothing more.
    have hrun : ∃ r, handleHostRequest env given (lit "kill") s =
        ⟨.ok .unhandled, s, [.reply r]⟩ := by
      rw [handleHostRequest, if_pos rfl]
      split
      · refine ⟨.fail (lit "kill-server rejected by remote server"), ?_⟩
        rw [sendFail, Prog.bind_emit_apply, handleService_kill]
        rfl
      · exact ⟨.okay, rfl⟩
    obtain ⟨r, hrun⟩ := hrun
    rw [hrun] at h
    cases h rfl
  · intro hservice h
    rw [handleHostRequest, if_neg hservice] at h ⊢
    exact handleService_unhandled env given h

end Request

end HostRequest

/-- A computer without USB access, on which what is outside the repository does as little as it
can. -/
def HostRequestEnv.plain : HostRequestEnv where
  toAcquireEnv := .plain
  rejectKillServer := false
  libusbEnabled := false
  serverStatus := []
  serverVersion := 41
  noPermissionsShortHelp := lit "no permissions"
  serialName serial := serial
  ids t := .ofNat t
  devpaths _ := []
  parseUint _ _ := none
  canonicalAddress address := .ok address
  attach _ := .error (lit "unimplemented")
  detach _ := .error (lit "unimplemented")
  listening := .error (lit "Address already in use")

namespace HostRequest

/-- The server answers a `kill`, and leaves it to others. -/
theorem kill_unhandled_after_okay : ¬ ∀ (env : HostRequestEnv) (given : TransportSelection)
    (service : Bytes) (s : HostRequestState),
    (handleHostRequest env given service s).result = .ok .unhandled →
      written (handleHostRequest env given service s).trace = [] := by
  intro h
  have hnothing := h .plain ⟨.any, none, 0⟩ (lit "kill") ⟨.initial false, none⟩ rfl
  have hokay : written (handleHostRequest .plain ⟨.any, none, 0⟩ (lit "kill")
      ⟨.initial false, none⟩).trace = [.reply .okay] := rfl
  rw [hokay] at hnothing
  cases hnothing

/-! ## Requests that need a device -/

section Device

variable {env : HostRequestEnv} {given sel : TransportSelection} {service : Bytes}
  {s : HostRequestState} {acceptAnyState : Bool}

/-- The selection with which a request acquires a transport, and whether in any state, for the
services that need one; `none` also where the service gives an id that cannot be parsed. -/
def deviceSelection (env : HostRequestEnv) (given : TransportSelection) (service : Bytes) :
    Option (TransportSelection × Bool) :=
  if selectsTransport service then
    (transportSelection env given service).map fun p => (p.1, false)
  else if service ∈ [lit "features", lit "get-serialno", lit "get-devpath", lit "get-state"] then
    some (given, false)
  else if service ∈ [lit "reconnect", lit "attach", lit "detach"] then some (given, true)
  else if forwards service then some (given, false)
  else none

/-- A transport selection that is switched fails with the error. -/
theorem switchTransport_fails {legacy : Bool}
    (hselection : transportSelection env given service = some (sel, legacy))
    (hnone : (acquireOneTransport env.toAcquireEnv sel (env.transportList s.host)
      false).transport = none) :
    (switchTransport env given service s).trace = [.acquires sel false,
      .reply (.fail (acquireOneTransport env.toAcquireEnv sel (env.transportList s.host)
        false).error)] := by
  rw [switchTransport, hselection]
  simp [acquire, hnone, sendFail]

/-- Four services are answered with the error. -/
theorem answerDevice_fails (hsocket : s.socketTransport = none)
    (hnone : (acquireOneTransport env.toAcquireEnv given (env.transportList s.host)
      false).transport = none) (answer : ListedTransport → Bytes) :
    (answerDevice env given answer s).trace = [.acquires given false,
      .reply (.fail (acquireOneTransport env.toAcquireEnv given (env.transportList s.host)
        false).error)] := by
  rw [answerDevice, Prog.bind_of_run (requestTransport_fails env given hsocket hnone)]
  simp [sendFail]

/-- So are `attach` and `detach`. -/
theorem attach_fails (hsocket : s.socketTransport = none)
    (hnone : (acquireOneTransport env.toAcquireEnv given (env.transportList s.host)
      true).transport = none) :
    (attach env given s).trace = [.acquires given true,
      .reply (.fail (acquireOneTransport env.toAcquireEnv given (env.transportList s.host)
        true).error)] := by
  rw [attach, Prog.bind_of_run (requestTransport_fails env given hsocket hnone)]
  simp [sendFail]

theorem detach_fails (hsocket : s.socketTransport = none)
    (hnone : (acquireOneTransport env.toAcquireEnv given (env.transportList s.host)
      true).transport = none) :
    (detach env given s).trace = [.acquires given true,
      .reply (.fail (acquireOneTransport env.toAcquireEnv given (env.transportList s.host)
        true).error)] := by
  rw [detach, Prog.bind_of_run (requestTransport_fails env given hsocket hnone)]
  simp [sendFail]

/-- `reconnect` answers with the error as a success. -/
theorem reconnect_fails (hsocket : s.socketTransport = none)
    (hnone : (acquireOneTransport env.toAcquireEnv given (env.transportList s.host)
      true).transport = none) :
    (reconnect env given s).trace = [.acquires given true, .reply .okay,
      .reply (.protocolString (acquireOneTransport env.toAcquireEnv given
        (env.transportList s.host) true).error)] := by
  rw [reconnect, Prog.bind_of_run (requestTransport_fails env given hsocket hnone)]
  simp [sendOkayString, sendOkay]

/-- The services of `handle_forward_request` fail without a word. -/
theorem fallback_fails (hforwards : forwards service = true) (hsocket : s.socketTransport = none)
    (hnone : (acquireOneTransport env.toAcquireEnv given (env.transportList s.host)
      false).transport = none) :
    (fallback env given service s).trace = [.acquires given false, .reply (.fail [])] := by
  have hacquirer : transportAcquirer env given service s =
      ⟨.ok (.error []), s, [.acquires given false]⟩ := by
    rw [transportAcquirer, if_pos hforwards,
      Prog.bind_of_run (requestTransport_fails env given hsocket hnone)]
    simp
  have hprefix : lit "forward:" <+: cString service ∨ lit "killforward:" <+: cString service := by
    simpa [forwards] using hforwards
  -- The two services that are tested first begin otherwise.
  have hlist : cString service ≠ lit "list-forward" := by
    intro h
    rw [h] at hprefix
    exact absurd hprefix (by decide)
  have hall : cString service ≠ lit "killforward-all" := by
    intro h
    rw [h] at hprefix
    exact absurd hprefix (by decide)
  have hforward : s.host.handleForwardRequest ⟨service, .error [], env.listening⟩ =
      some ([.fail []], s.host) := by
    simp only [Host.handleForwardRequest]
    rw [if_neg hlist, if_neg hall, if_pos hprefix]
  rw [fallback, Prog.bind_of_run hacquirer]
  simp [hforward, sendReplies]

variable (env given) in
/-- Four services are an answer of the transport. -/
theorem handleService_answers
    (h : service ∈ [lit "features", lit "get-serialno", lit "get-devpath", lit "get-state"]) :
    ∃ answer, handleService env given service = answerDevice env given answer := by
  simp only [List.mem_cons, List.not_mem_nil, or_false] at h
  rcases h with rfl | rfl | rfl | rfl <;>
    exact ⟨_, by simp [handleService, selectsTransport, lit]; rfl⟩

variable (env given) in
/-- A service of `handle_forward_request` gets to the end of the dispatcher. -/
theorem handleService_forwards (hforwards : forwards service = true) :
    selectsTransport service = false ∧ handleService env given service =
      fallback env given service := by
  have hprefix : lit "forward:" <+: service ∨ lit "killforward:" <+: service := by
    have h : lit "forward:" <+: cString service ∨ lit "killforward:" <+: cString service := by
      simpa [forwards] using hforwards
    exact h.imp (·.trans (cString_isPrefix service)) (·.trans (cString_isPrefix service))
  obtain ⟨rest, rfl⟩ | ⟨rest, rfl⟩ := hprefix <;>
    simp [handleService, selectsTransport, lit, List.isPrefixOf]

/-- The error of a request that finds no transport. -/
def deviceError (env : HostRequestEnv) (s : HostRequestState) (sel : TransportSelection)
    (acceptAnyState : Bool) : Bytes :=
  (acquireOneTransport env.toAcquireEnv sel (env.transportList s.host) acceptAnyState).error

/-- The reply to a request that finds no transport. -/
def deviceFailure (service error : Bytes) : List HostRequestEvent :=
  if service = lit "reconnect" then [.reply .okay, .reply (.protocolString error)]
  else if forwards service then [.reply (.fail [])]
  else [.reply (.fail error)]

/-- A request that needs a transport and finds none asks for one, and replies. -/
theorem handleService_fails
    (hdevice : deviceSelection env given service = some (sel, acceptAnyState))
    (hsocket : selectsTransport service = true ∨ s.socketTransport = none)
    (hnone : (acquireOneTransport env.toAcquireEnv sel (env.transportList s.host)
      acceptAnyState).transport = none) :
    (handleService env given service s).trace = .acquires sel acceptAnyState ::
      deviceFailure service (deviceError env s sel acceptAnyState) := by
  unfold deviceSelection at hdevice
  by_cases hselects : selectsTransport service = true
  · rw [if_pos hselects, Option.map_eq_some_iff] at hdevice
    obtain ⟨⟨sel', legacy⟩, hselection, heq⟩ := hdevice
    cases heq
    have hreconnect : service ≠ lit "reconnect" := by
      rintro rfl
      exact absurd hselects (by decide)
    have hforwards : ¬ forwards service = true := by
      intro h
      rw [(handleService_forwards env given h).1] at hselects
      cases hselects
    rw [deviceFailure, if_neg hreconnect, if_neg hforwards, handleService, if_pos hselects]
    exact switchTransport_fails hselection hnone
  rw [if_neg hselects] at hdevice
  replace hsocket := hsocket.resolve_left hselects
  -- The services that choose a transport for themselves, in three groups.
  split_ifs at hdevice with hanswers hany hforwards
  · cases hdevice
    obtain ⟨answer, hservice⟩ := handleService_answers env given hanswers
    obtain ⟨hreconnect, hforwards⟩ : service ≠ lit "reconnect" ∧ ¬ forwards service = true := by
      simp only [List.mem_cons, List.not_mem_nil, or_false] at hanswers
      rcases hanswers with rfl | rfl | rfl | rfl <;> decide
    rw [hservice, answerDevice_fails hsocket hnone, deviceFailure, if_neg hreconnect,
      if_neg hforwards]
    rfl
  · cases hdevice
    simp only [List.mem_cons, List.not_mem_nil, or_false] at hany
    rcases hany with rfl | rfl | rfl
    · have hservice : handleService env given (lit "reconnect") = reconnect env given := by
        simp [handleService, selectsTransport, lit]
      rw [hservice, reconnect_fails hsocket hnone]
      rfl
    · have hservice : handleService env given (lit "attach") = attach env given := by
        simp [handleService, selectsTransport, lit]
      rw [hservice, attach_fails hsocket hnone]
      rfl
    · have hservice : handleService env given (lit "detach") = detach env given := by
        simp [handleService, selectsTransport, lit]
      rw [hservice, detach_fails hsocket hnone]
      rfl
  · cases hdevice
    rw [(handleService_forwards env given hforwards).2, fallback_fails hforwards hsocket hnone,
      deviceFailure,
      if_neg (fun h => hany (by simp [h])), if_pos hforwards]

/-- `reconnect` and the services of `handle_forward_request` do not reply with the error as a
failure; the others do, and with nothing else. The text of `acquire_one_transport` is never
empty. -/
theorem deviceFailure_iff {error : Bytes} (herror : error ≠ []) :
    written (deviceFailure service error) = [.reply (.fail error)] ↔
      service ≠ lit "reconnect" ∧ forwards service = false := by
  -- What is written, in each of the three cases.
  have hwritten : written (deviceFailure service error) = deviceFailure service error := by
    rw [deviceFailure]
    split_ifs <;> rfl
  rw [hwritten, deviceFailure]
  split_ifs with hreconnect hforwards
  · simp [hreconnect]
  · simp [hforwards, herror.symm]
  · simp [hreconnect, hforwards]

/-- A request that needs a transport, and for which none can be acquired, fails with the error of
`acquire_one_transport` for its selection exactly if it is neither `reconnect` nor a request of
`handle_forward_request`. -/
theorem selection_error_sent_iff (hhelp : env.noPermissionsHelp ≠ [])
    (hdevice : deviceSelection env given service = some (sel, acceptAnyState))
    (hsocket : selectsTransport service = true ∨ s.socketTransport = none)
    (hnone : (acquireOneTransport env.toAcquireEnv sel (env.transportList s.host)
      acceptAnyState).transport = none) :
    .acquires sel acceptAnyState ∈ (handleHostRequest env given service s).trace ∧
      (written (handleHostRequest env given service s).trace =
          [.reply (.fail (acquireOneTransport env.toAcquireEnv sel (env.transportList s.host)
            acceptAnyState).error)] ↔
        service ≠ lit "reconnect" ∧ forwards service = false) := by
  have hkill : service ≠ lit "kill" := by
    rintro rfl
    simp [deviceSelection, selectsTransport, forwards, cString, lit] at hdevice
  rw [handleHostRequest, if_neg hkill, handleService_fails hdevice hsocket hnone]
  refine ⟨List.mem_cons_self, ?_⟩
  have herror := acquireOneTransport_error_ne_nil hhelp sel (env.transportList s.host)
    acceptAnyState
  exact deviceFailure_iff herror

end Device

/-- A `get-state` to a server without devices is answered with the error. -/
theorem getState_fails : written (handleHostRequest .plain ⟨.any, none, 0⟩ (lit "get-state")
    ⟨.initial false, none⟩).trace = [.reply (.fail (lit "no devices/emulators found"))] :=
  (@selection_error_sent_iff .plain ⟨.any, none, 0⟩ ⟨.any, none, 0⟩ (lit "get-state")
    ⟨.initial false, none⟩ false (by simp [HostRequestEnv.plain, AcquireEnv.plain, lit]) rfl
    (.inr rfl) rfl).2.mpr ⟨by decide, rfl⟩

/-- A `reconnect` is answered with a success, and a `forward:` with no text. -/
theorem reconnect_reports_success : ¬ ∀ (env : HostRequestEnv) (given : TransportSelection)
    (service : Bytes) (s : HostRequestState) (sel : TransportSelection) (acceptAnyState : Bool),
    env.noPermissionsHelp ≠ [] →
    deviceSelection env given service = some (sel, acceptAnyState) →
    selectsTransport service = true ∨ s.socketTransport = none →
    (acquireOneTransport env.toAcquireEnv sel (env.transportList s.host)
      acceptAnyState).transport = none →
    written (handleHostRequest env given service s).trace =
      [.reply (.fail (acquireOneTransport env.toAcquireEnv sel (env.transportList s.host)
        acceptAnyState).error)] := by
  intro h
  have hfails := h .plain ⟨.any, none, 0⟩ (lit "reconnect") ⟨.initial false, none⟩ _ true
    (by simp [HostRequestEnv.plain, AcquireEnv.plain, lit]) rfl (.inr rfl) rfl
  have hsuccess : written (handleHostRequest .plain ⟨.any, none, 0⟩ (lit "reconnect")
      ⟨.initial false, none⟩).trace =
        [.reply .okay, .reply (.protocolString (lit "no devices/emulators found"))] := rfl
  rw [hsuccess] at hfails
  cases hfails

end HostRequest

end AdbMobile
