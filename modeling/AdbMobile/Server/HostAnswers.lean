import AdbMobile.Server.HostReplies

/-!
# The answers to host requests

A request that `handle_host_request` has handled is answered in one of two ways. Most are answered
with a status, and behind a success comes a string. A request that changes the forwards has a status
for the connection and, where it succeeds, another for itself, and a port that was resolved comes
behind it. Nothing on the wire says which of the two it is, so the service has to
(`answered_of_handled`).
-/

namespace AdbMobile

open ByteString

/-- The answer to a query: a string, or an error. -/
def queryReplies : Except Bytes Bytes → List Reply
  | .ok s => [.okay, .protocolString s]
  | .error e => [.fail e]

/-- The answer to a request that changes the forwards: it was done, with the port that was resolved,
if any, or an error. -/
def forwardAnswer : Except Bytes (Option ℕ) → List Reply
  | .ok port => [.okay, .okay] ++ (port.map fun p => .protocolString (decimal p)).toList
  | .error e => [.fail e]

namespace HostRequest

/-- The service changes the forwards, or would if it had what it needs. -/
def changesForwards (service : Bytes) : Bool :=
  forwards service || cString service = lit "killforward-all"

/-- The service is neither of the two that are answered in another way: `emulator:` is not answered,
and a transport selection has an id for its answer. -/
def hasAnswer (service : Bytes) : Bool :=
  !selectsTransport service && !(lit "emulator:").isPrefixOf service

/-- What a program that has handled a request has written is one of these answers. -/
def Answers {α : Type} (replies : α → List Reply) (p : HostM HostRequestResult) : Prop :=
  ∀ s, (p s).result = .ok .handled →
    ∃ a, written (p s).trace = (replies a).map HostRequestEvent.reply

section Rules

variable {α β : Type} {replies : α → List Reply} {p : HostM β} {f : β → HostM HostRequestResult}

/-- What comes first writes nothing. -/
theorem Answers.bind (hp : WritesNothing p) (hf : ∀ b, Answers replies (f b)) :
    Answers replies (p >>= f) := by
  intro s h
  obtain ⟨b, -, hresult, -, htrace⟩ := Prog.bind_returns h
  obtain ⟨a, ha⟩ := hf b _ hresult
  exact ⟨a, by rw [htrace, written_append, hp s, List.nil_append, ha]⟩

theorem Answers.ite {c : Prop} [Decidable c] {p q : HostM HostRequestResult}
    (hp : c → Answers replies p) (hq : ¬ c → Answers replies q) :
    Answers replies (if c then p else q) := by
  split
  · exact hp ‹_›
  · exact hq ‹_›

/-- A string is an answer to a query. -/
theorem answers_sendOkayString (answer : Bytes) :
    Answers queryReplies (do sendOkayString answer; return .handled) := fun _ _ =>
  ⟨.ok answer, rfl⟩

/-- So is an error. -/
theorem answers_sendFail (e : Bytes) :
    Answers queryReplies (do sendFail e; return .handled) := fun _ _ => ⟨.error e, rfl⟩

/-- Writing nothing is a property of the parts of a program. -/
theorem writesNothing_composes : Prog.Composes
    fun (_ : HostRequestState) (t : List HostRequestEvent) (_ : HostRequestState) =>
      written t = [] where
  nil _ := rfl
  append h h' := by rw [written_append, h, h', List.append_nil]

theorem WritesNothing.bind {p : HostM α} {f : α → HostM β} (hp : WritesNothing p)
    (hf : ∀ a, WritesNothing (f a)) : WritesNothing (p >>= f) :=
  Prog.Keeps.bind writesNothing_composes hp hf

end Rules

section Request

variable (env : HostRequestEnv) (given : TransportSelection)

/-! ## Programs that write nothing -/

theorem writesNothing_kickAll (reset : Bool) (ts : List ℕ) : WritesNothing (kickAll reset ts) := by
  induction ts with
  | nil => exact fun _ => rfl
  | cons t ts ih =>
    refine .bind (fun s => ?_) fun _ => .bind (fun _ => rfl) fun _ => ih
    cases reset <;> rfl

theorem writesNothing_kickTransport (t : ℕ) (reset : Bool) :
    WritesNothing (kickTransport t reset) := by
  intro s
  rw [kickTransport, Prog.bind_get_apply]
  split <;> cases reset <;> rfl

theorem writesNothing_attachTransport (t : ListedTransport) :
    WritesNothing (attachTransport env t) := by
  intro s
  unfold attachTransport
  split
  · rfl
  · split
    · rfl
    · rw [Prog.bind_modify_apply]
      cases env.attach t.address <;> rfl

theorem writesNothing_detachTransport (t : ListedTransport) :
    WritesNothing (detachTransport env t) := by
  intro s
  unfold detachTransport
  split
  · rfl
  · split
    · rfl
    · rw [Prog.bind_modify_apply]
      cases env.detach t.address <;> rfl

/-! ## Queries -/

theorem answers_answerDevice (answer : ListedTransport → Bytes) :
    Answers queryReplies (answerDevice env given answer) := by
  refine .bind (writesNothing_requestTransport env given false) fun t => ?_
  cases t with
  | ok t => exact answers_sendOkayString _
  | error e => exact answers_sendFail e

theorem answers_reconnectOffline : Answers queryReplies (reconnectOffline env) :=
  .bind (fun _ => rfl) fun _ => .bind (writesNothing_kickAll true _) fun _ =>
    answers_sendOkayString _

theorem answers_disconnectSerial (address serial : Bytes) :
    Answers queryReplies (disconnectSerial address serial) := by
  refine .bind (fun _ => rfl) fun t => ?_
  cases t with
  | none => exact answers_sendFail _
  | some t =>
    exact .bind (writesNothing_kickTransport t false) fun _ => answers_sendOkayString _

theorem answers_disconnect (address : Bytes) : Answers queryReplies (disconnect env address) := by
  have hall : WritesNothing kickAllTcpDevices :=
    .bind (fun _ => rfl) fun _ => .bind (writesNothing_kickAll false _) fun _ _ => rfl
  refine .ite (fun _ => .bind hall fun _ => answers_sendOkayString _) fun _ => ?_
  refine .bind (fun _ => rfl) fun t => ?_
  cases t with
  | some t =>
    exact .bind (writesNothing_kickTransport t false) fun _ => answers_sendOkayString _
  | none =>
    refine .ite (fun _ => answers_disconnectSerial address address) fun _ => ?_
    split
    · exact answers_sendFail _
    · exact answers_disconnectSerial address _

theorem answers_reconnect : Answers queryReplies (reconnect env given) := by
  refine .bind (writesNothing_requestTransport env given true) fun t => ?_
  cases t with
  | ok t =>
    exact .bind (writesNothing_kickTransport t.address true) fun _ => answers_sendOkayString _
  | error response => exact answers_sendOkayString response

theorem answers_attach : Answers queryReplies (attach env given) := by
  refine .bind (writesNothing_requestTransport env given true) fun t => ?_
  cases t with
  | error e => exact answers_sendFail e
  | ok t =>
    refine .bind (writesNothing_attachTransport env t) fun r => ?_
    cases r with
    | ok => exact answers_sendOkayString _
    | error e => exact answers_sendFail e

theorem answers_detach : Answers queryReplies (detach env given) := by
  refine .bind (writesNothing_requestTransport env given true) fun t => ?_
  cases t with
  | error e => exact answers_sendFail e
  | ok t =>
    refine .bind (fun _ => rfl) fun _ => .bind (writesNothing_detachTransport env t) fun r => ?_
    cases r with
    | ok => exact answers_sendOkayString _
    | error e => exact answers_sendFail e

/-! ## Requests that change the forwards -/

theorem sendReplies_apply (rs : List Reply) (s : HostRequestState) :
    sendReplies rs s = ⟨.ok (), s, rs.map HostRequestEvent.reply⟩ := by
  induction rs with
  | nil => rfl
  | cons r rs ih => rw [sendReplies, Prog.bind_emit_apply, ih, List.map_cons]; rfl

/-- At the end of the dispatcher, `handle_forward_request` answers. -/
theorem answers_fallback {α : Type} {replies : α → List Reply} {service : Bytes}
    (h : ∀ (host : Host) transport rs host',
      host.handleForwardRequest ⟨service, transport, env.listening⟩ = some (rs, host') →
        ∃ a, rs = replies a) :
    Answers replies (fallback env given service) := by
  refine .bind (writesNothing_transportAcquirer env given service) fun transport => ?_
  intro s hhandled
  rw [Prog.bind_get_apply] at hhandled ⊢
  cases hforward : s.host.handleForwardRequest ⟨service, transport, env.listening⟩ with
  | none => rw [hforward] at hhandled; cases hhandled
  | some r =>
    obtain ⟨rs, host'⟩ := r
    obtain ⟨a, rfl⟩ := h s.host transport rs host' hforward
    refine ⟨a, ?_⟩
    have hwrites : written ((replies a).map HostRequestEvent.reply) =
        (replies a).map HostRequestEvent.reply := by
      rw [written, List.filter_map]
      exact congrArg _ (List.filter_eq_self.mpr fun _ _ => rfl)
    simp [Prog.bind_of_run (sendReplies_apply (replies a) _), hwrites]

/-- The replies once a listener function has returned. -/
theorem forwardReplies_answer (service : Bytes) (r : InstallResult) :
    ∃ a, forwardReplies service r = forwardAnswer a := by
  unfold forwardReplies
  cases r.status with
  | ok => exact ⟨.ok r.resolvedTcpPort, rfl⟩
  | internalError | cannotBind | cannotRebind | listenerNotFound => exact ⟨.error _, rfl⟩

theorem killForward_answer (h : Host) (service : Bytes) :
    ∃ a, (h.killForward service).1 = forwardAnswer a := by
  unfold Host.killForward
  split
  · split
    · exact ⟨.error _, rfl⟩
    · exact forwardReplies_answer service _
  · exact ⟨.error _, rfl⟩

theorem forward_answer (h : Host) (service : Bytes) (noRebind : Bool) (t : ℕ)
    (listening : Except Bytes Listening) :
    ∃ a, (h.forward service noRebind t listening).1 = forwardAnswer a := by
  unfold Host.forward
  split
  · split
    · exact ⟨.error _, rfl⟩
    · exact forwardReplies_answer service _
  · exact ⟨.error _, rfl⟩

/-- A request that changes the forwards is handled, and answered as such. -/
theorem handleForwardRequest_changes {r : ForwardRequest} (hchanges : changesForwards r.service)
    (h : Host) : ∃ a h', h.handleForwardRequest r = some (forwardAnswer a, h') := by
  have hlist : cString r.service ≠ lit "list-forward" := by
    intro hlist
    rw [changesForwards, forwards, hlist] at hchanges
    exact absurd hchanges (by decide)
  simp only [Host.handleForwardRequest, if_neg hlist]
  by_cases hall : cString r.service = lit "killforward-all"
  · exact ⟨.ok none, h.removeAllListeners, by rw [if_pos hall]; rfl⟩
  · have hforwards : lit "forward:" <+: cString r.service ∨
        lit "killforward:" <+: cString r.service := by
      simpa [changesForwards, forwards, hall] using hchanges
    rw [if_neg hall, if_pos hforwards]
    cases r.transport with
    | error e => exact ⟨.error e, h, rfl⟩
    | ok t =>
      dsimp only
      split
      · rename_i rest _
        obtain ⟨a, ha⟩ := killForward_answer h rest
        exact ⟨a, _, congrArg some (Prod.ext ha rfl)⟩
      · split
        · rename_i rest _
          obtain ⟨a, ha⟩ := forward_answer h rest true t r.listening
          exact ⟨a, _, congrArg some (Prod.ext ha rfl)⟩
        · obtain ⟨a, ha⟩ := forward_answer h ((cString r.service).drop 8) false t r.listening
          exact ⟨a, _, congrArg some (Prod.ext ha rfl)⟩

/-- Of the others only `list-forward` is handled there, and it is a query. -/
theorem handleForwardRequest_lists {r : ForwardRequest} (hchanges : changesForwards r.service = false)
    {h h' : Host} {rs : List Reply} (hr : h.handleForwardRequest r = some (rs, h')) :
    rs = queryReplies (.ok h.formatListeners) := by
  obtain ⟨hforwards, hall⟩ : ¬ (lit "forward:" <+: cString r.service ∨
      lit "killforward:" <+: cString r.service) ∧ cString r.service ≠ lit "killforward-all" := by
    have hnot := Bool.eq_false_iff.mp hchanges
    simpa only [changesForwards, forwards, ne_eq, Bool.or_eq_true, List.isPrefixOf_iff_prefix,
      decide_eq_true_eq, not_or] using hnot
  simp only [Host.handleForwardRequest] at hr
  by_cases hlist : cString r.service = lit "list-forward"
  · rw [if_pos hlist] at hr
    cases hr
    rfl
  · rw [if_neg hlist, if_neg hall, if_neg hforwards] at hr
    cases hr

/-! ## The dispatcher -/

/-- A query that is handled is answered as one. -/
theorem answers_handleService {service : Bytes} (hanswer : hasAnswer service)
    (hchanges : changesForwards service = false) :
    Answers queryReplies (handleService env given service) := by
  obtain ⟨hselects, hemulator⟩ := Bool.and_eq_true_iff.mp hanswer
  unfold handleService
  refine .ite (fun h => by rw [h] at hselects; cases hselects) fun _ => ?_
  refine .ite (fun _ => answers_sendOkayString _) fun _ => ?_
  refine .ite (fun _ => .bind (fun _ => rfl) fun _ => answers_sendOkayString _) fun _ => ?_
  refine .ite (fun _ => answers_reconnectOffline env) fun _ => ?_
  refine .ite (fun _ => answers_answerDevice env given _) fun _ => ?_
  refine .ite (fun _ => .bind (fun _ => rfl) fun _ => answers_sendOkayString _) fun _ => ?_
  refine .ite (fun _ => answers_disconnect env _) fun _ => ?_
  refine .ite (fun _ => answers_sendOkayString _) fun _ => ?_
  refine .ite (fun _ => answers_answerDevice env given _) fun _ => ?_
  refine .ite (fun _ => answers_answerDevice env given _) fun _ => ?_
  refine .ite (fun _ => answers_answerDevice env given _) fun _ => ?_
  refine .ite (fun h => by rw [h] at hemulator; cases hemulator) fun _ => ?_
  refine .ite (fun _ => answers_reconnect env given) fun _ => ?_
  refine .ite (fun _ => answers_attach env given) fun _ => ?_
  refine .ite (fun _ => answers_detach env given) fun _ => ?_
  exact answers_fallback env given fun host transport rs host' h =>
    ⟨_, handleForwardRequest_lists hchanges h⟩

/-- A service that changes the forwards gets to the end of the dispatcher. -/
theorem handleService_changes {service : Bytes} (hchanges : changesForwards service) :
    handleService env given service = fallback env given service := by
  rw [changesForwards, Bool.or_eq_true] at hchanges
  obtain hforwards | hall := hchanges
  · exact (handleService_forwards env given hforwards).2
  · have hall : cString service = lit "killforward-all" := of_decide_eq_true hall
    obtain ⟨rest, rfl⟩ : lit "killforward-all" <+: service := hall ▸ cString_isPrefix service
    simp [handleService, selectsTransport, lit]

/-- For a socket with a transport, a request that changes the forwards is one over it. -/
theorem handleHostRequest_changes {service : Bytes} (hchanges : changesForwards service)
    {s : HostRequestState} {t : ℕ} (hsocket : s.socketTransport = some t) :
    ∃ a h', s.host.handleForwardRequest
        ⟨service, if forwards service then .ok t else .error [], env.listening⟩ =
          some (forwardAnswer a, h') ∧
      handleHostRequest env given service s =
        ⟨.ok .handled, { s with host := h' }, (forwardAnswer a).map HostRequestEvent.reply⟩ := by
  have hkill : service ≠ lit "kill" := by
    rintro rfl
    exact absurd hchanges (by decide)
  have hacquirer : transportAcquirer env given service s =
      ⟨.ok (if forwards service then .ok t else .error []), s, []⟩ := by
    unfold transportAcquirer
    split
    · rw [Prog.bind_of_run (requestTransport_socket env given hsocket false)]
      rfl
    · rfl
  obtain ⟨a, h', ha⟩ := handleForwardRequest_changes
    (r := ⟨service, if forwards service then .ok t else .error [], env.listening⟩) hchanges s.host
  refine ⟨a, h', ha, ?_⟩
  rw [handleHostRequest, if_neg hkill, handleService_changes env given hchanges, fallback,
    Prog.bind_of_run hacquirer, Prog.bind_get_apply, ha]
  simp [Prog.bind_of_run (sendReplies_apply (forwardAnswer a) _)]

/-- A `kill` is not handled. -/
theorem ne_kill_of_handled {service : Bytes} {s : HostRequestState}
    (h : (handleHostRequest env given service s).result = .ok .handled) :
    service ≠ lit "kill" ∧ handleHostRequest env given service = handleService env given service := by
  have hkill : service ≠ lit "kill" := by
    rintro rfl
    rw [handleHostRequest, if_pos rfl] at h
    cases hreject : env.rejectKillServer with
    | false => simp [hreject, sendOkay] at h
    | true => simp [hreject, sendFail, handleService_kill] at h
  exact ⟨hkill, by rw [handleHostRequest, if_neg hkill]⟩

/-- A request that is handled is answered as its service has it: as a change of the forwards, or as
a query, unless it selects a transport or is `emulator:`. -/
theorem answered_of_handled {service : Bytes} {s : HostRequestState}
    (h : (handleHostRequest env given service s).result = .ok .handled) :
    (changesForwards service = true → ∃ a, written (handleHostRequest env given service s).trace =
      (forwardAnswer a).map HostRequestEvent.reply) ∧
    (changesForwards service = false → hasAnswer service = true →
      ∃ a, written (handleHostRequest env given service s).trace =
        (queryReplies a).map HostRequestEvent.reply) := by
  obtain ⟨-, hservice⟩ := ne_kill_of_handled env given h
  rw [hservice] at h ⊢
  refine ⟨fun hchanges => ?_, fun hchanges hanswer =>
    answers_handleService env given hanswer hchanges s h⟩
  rw [handleService_changes env given hchanges] at h ⊢
  refine answers_fallback env given (fun host transport rs host' hr => ?_) s h
  obtain ⟨a, host'', ha⟩ :=
    handleForwardRequest_changes (r := ⟨service, transport, env.listening⟩) hchanges host
  rw [ha] at hr
  cases hr
  exact ⟨a, rfl⟩

end Request

end HostRequest

end AdbMobile
