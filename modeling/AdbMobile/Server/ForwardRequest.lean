import AdbMobile.Server.Frame

/-!
# Forward requests

`handle_forward_request` serves `list-forward`, `killforward-all`, `killforward:` and `forward:`.
The server itself is reached through a listener of the same list, a smart socket, and each operation
has its own guard for it: `remove_all_listeners` keeps the targets that start with a star,
`install_listener` refuses to rebind a smart socket, and the parser refuses a remote that starts
with a star. `remove_listener` has no guard, so a `killforward:` of the server's own address removes
it.

In a sequence of forward requests, from any state of the looper, every request leaves the smart
sockets as they are exactly when none is a `killforward:` of one (`smartsockets_survive_iff`).
-/

namespace AdbMobile

open ByteString Run

/-- A message on `reply_fd`. -/
inductive Reply
  /-- `SendOkay`. -/
  | okay
  /-- `SendFail`. -/
  | fail (message : Bytes)
  /-- `SendProtocolString`. -/
  | protocolString (s : Bytes)
  deriving DecidableEq, Repr

/-- The service, what `transport_acquirer` returns, and what `socket_spec_listen` opens. -/
structure ForwardRequest where
  service : Bytes
  transport : Except Bytes ℕ
  listening : Except Bytes Listening

/-- The replies to `killforward:` and `forward:` once the listener function has returned. -/
def forwardReplies (service : Bytes) (r : InstallResult) : List Reply :=
  match r.status with
  | .ok => [.okay, .okay] ++ (r.resolvedTcpPort.map fun p => .protocolString (decimal p)).toList
  | .internalError => [.fail (lit "internal error")]
  | .cannotBind => [.fail (lit "cannot bind listener: " ++ cString (r.error.getD []))]
  | .cannotRebind => [.fail (lit "cannot rebind existing socket")]
  | .listenerNotFound => [.fail (lit "listener '" ++ service ++ lit "' not found")]

namespace Host

/-- A line of `format_listeners`. A listener that is no smart socket has a transport. -/
def formatListener (h : Host) (l : AListener) : Bytes :=
  let serial := (l.transport.map fun t => (h.transports t).serial).getD []
  (if serial ≠ [] then cString serial else lit "(reverse)") ++ lit " " ++ cString l.localName ++
    lit " " ++ cString l.connectTo ++ lit "\n"

/-- `format_listeners`. -/
def formatListeners (h : Host) : Bytes :=
  (h.listenerList.filter fun l => !l.isSmartSocket).flatMap h.formatListener

/-- The `killforward:` branch of `handle_forward_request`, past its prefix. -/
def killForward (h : Host) (service : Bytes) : List Reply × Host :=
  match split 59 service with
  | [localName] =>
    if localName = [] then ([.fail (lit "bad killforward: " ++ service)], h)
    else
      let (status, h) := h.removeListener localName
      (forwardReplies service { status }, h)
  | _ => ([.fail (lit "bad killforward: " ++ service)], h)

/-- The `forward:` branch of `handle_forward_request`, past its prefixes. -/
def forward (h : Host) (service : Bytes) (noRebind : Bool) (t : ℕ)
    (listening : Except Bytes Listening) : List Reply × Host :=
  match split 59 service with
  | [localName, connectTo] =>
    if localName = [] ∨ connectTo = [] ∨ connectTo.head? = some 42 then
      ([.fail (lit "bad forward: " ++ service)], h)
    else
      let (r, h) := h.installListener
        { localName, connectTo, transport := some t, noRebind, disabled := false, listening }
      (forwardReplies service r, h)
  | _ => ([.fail (lit "bad forward: " ++ service)], h)

/-- `handle_forward_request`, with its replies; it returns false for any other service. -/
def handleForwardRequest (h : Host) (r : ForwardRequest) : Option (List Reply × Host) :=
  let service := cString r.service
  if service = lit "list-forward" then some ([.okay, .protocolString h.formatListeners], h)
  else if service = lit "killforward-all" then some ([.okay, .okay], h.removeAllListeners)
  else if lit "forward:" <+: service ∨ lit "killforward:" <+: service then
    match r.transport with
    | .error e => some ([.fail e], h)
    | .ok t =>
      match consumePrefix service (lit "killforward:") with
      | some service => some (h.killForward service)
      | none =>
        let service := service.drop 8
        match consumePrefix service (lit "norebind:") with
        | some service => some (h.forward service true t r.listening)
        | none => some (h.forward service false t r.listening)
  else none

/-- The state after a request, whether or not it is one of these. -/
def afterForwardRequest (h : Host) (r : ForwardRequest) : Host :=
  ((h.handleForwardRequest r).map Prod.snd).getD h

/-- The machine of the requests that reach `handle_forward_request`. -/
def forwardStep (h : Host) (r : ForwardRequest) : Option Host := some (h.afterForwardRequest r)

/-- No smart socket is removed, rebound, or given another target. -/
def SmartsocketsSurvive (h h' : Host) : Prop :=
  ∀ l ∈ h.listenerList, l.isSmartSocket → l ∈ h'.listenerList

/-- The request is a `killforward:` with an available transport, and the first listener of the name
it gives is a smart socket. A name that is empty or has a semicolon is refused. -/
def KillsSmartsocket (h : Host) (r : ForwardRequest) : Prop :=
  r.transport.isOk ∧ ∃ l ∈ h.listenerList, l.isSmartSocket ∧
    cString r.service = lit "killforward:" ++ l.localName ∧ l.localName ≠ [] ∧ 59 ∉ l.localName ∧
    h.listenerList.find? (·.localName = l.localName) = some l

instance (h h' : Host) : Decidable (SmartsocketsSurvive h h') := by
  unfold SmartsocketsSurvive
  infer_instance

instance (h : Host) (r : ForwardRequest) : Decidable (h.KillsSmartsocket r) := by
  unfold KillsSmartsocket
  infer_instance

variable {h h' : Host}

theorem SmartsocketsSurvive.refl (h : Host) : SmartsocketsSurvive h h := fun _ hl _ => hl

/-! ## What the operations do to smart sockets -/

/-- The target of a smart socket starts with a star. -/
theorem head_of_isSmartSocket {l : AListener} (hs : l.isSmartSocket) :
    l.connectTo.head? = some 42 := by
  have hto : l.connectTo = kSmartSocketConnectTo := by simpa [AListener.isSmartSocket] using hs
  rw [hto]
  decide

/-- Erasing a listener of the list spares the smart sockets exactly when it is none. -/
theorem survive_eraseListener_iff (hr : Registry h) {l : AListener} (hl : l ∈ h.listenerList) :
    SmartsocketsSurvive h (h.eraseListener l) ↔ l.isSmartSocket = false := by
  constructor
  · intro hsurvive
    by_contra hsmart
    have hmem := hsurvive l hl (by simpa using hsmart)
    simp at hmem
  · intro hsmart a ha hasmart
    have hne : a.id ≠ l.id := by
      intro hid
      rw [hr.eq_of_id ha hl hid, hsmart] at hasmart
      cases hasmart
    exact List.mem_filter.mpr ⟨ha, by simpa using hne⟩

/-- `remove_listener` spares them exactly when the first listener of that name is none. -/
theorem survive_removeListener_iff (hr : Registry h) (name : Bytes) :
    SmartsocketsSurvive h (h.removeListener name).2 ↔
      ∀ l, h.listenerList.find? (·.localName = name) = some l → l.isSmartSocket = false := by
  unfold removeListener
  cases hf : h.listenerList.find? (·.localName = name) with
  | none =>
    refine ⟨fun _ l hl => ?_, fun _ => .refl h⟩
    cases hl
  | some l =>
    have hl := List.mem_of_find?_eq_some hf
    rw [survive_eraseListener_iff hr hl]
    exact ⟨fun hs l' hl' => Option.some.inj hl' ▸ hs, fun hs => hs l rfl⟩

/-- `remove_all_listeners` spares them, as it keeps every target with a star. -/
theorem SmartsocketsSurvive.removeAllListeners (hr : Registry h) :
    SmartsocketsSurvive h h.removeAllListeners := by
  intro l hl hs
  rw [Host.removeAllListeners, foldl_eraseListener_listenerList]
  refine List.mem_filter.mpr ⟨hl, ?_⟩
  have hnot : l.id ∉ (h.listenerList.filter fun a => a.connectTo.head? ≠ some 42).map
      AListener.id := by
    intro hmem
    obtain ⟨a, ha, hid⟩ := List.mem_map.mp hmem
    obtain ⟨ha, hhead⟩ := List.mem_filter.mp ha
    rw [hr.eq_of_id ha hl hid, head_of_isSmartSocket hs] at hhead
    simp at hhead
  simpa using hnot

/-- `install_listener` spares them, as it rebinds none. -/
theorem SmartsocketsSurvive.installListener (hr : Registry h) (r : InstallRequest) :
    SmartsocketsSurvive h (h.installListener r).2 := by
  obtain ⟨heq, -⟩ | ⟨l, hl, -, hsmart, heq⟩ | ⟨listening, -, heq⟩ := installListener_cases h r
  · rw [heq]
    exact .refl h
  · rw [heq]
    intro a ha hasmart
    have hne : a.id ≠ l.id := by
      intro hid
      rw [hr.eq_of_id ha hl hid, hsmart] at hasmart
      cases hasmart
    rw [rebindListener_listenerList]
    exact (mem_map_replace hl).mpr (.inr ⟨ha, hne⟩)
  · rw [heq]
    exact fun a ha _ => List.mem_append_left _ ha

/-! ## What a request does -/

/-- `killforward:` removes the listener that it names, where it names one. -/
theorem killForward_cases (h : Host) (name : Bytes) :
    (name ≠ [] ∧ 59 ∉ name ∧ (h.killForward name).2 = (h.removeListener name).2) ∨
    (¬ (name ≠ [] ∧ 59 ∉ name) ∧ (h.killForward name).2 = h) := by
  by_cases hsep : 59 ∈ name
  · refine .inr ⟨fun hn => hn.2 hsep, ?_⟩
    unfold killForward
    split
    · rename_i hsplit
      exact absurd hsep (split_eq_singleton_iff.mp hsplit).2
    · rfl
  · unfold killForward
    rw [split_eq_singleton_iff.mpr ⟨rfl, hsep⟩]
    by_cases hne : name = []
    · exact .inr ⟨fun hn => hn.1 hne, by simp [hne]⟩
    · exact .inl ⟨hne, hsep, by simp [hne]⟩

/-- `forward:` installs a listener or does nothing. -/
theorem forward_cases (h : Host) (service : Bytes) (noRebind : Bool) (t : ℕ)
    (listening : Except Bytes Listening) :
    (h.forward service noRebind t listening).2 = h ∨
      ∃ request, (h.forward service noRebind t listening).2 = (h.installListener request).2 := by
  unfold forward
  split
  · split
    · exact .inl rfl
    · exact .inr ⟨_, rfl⟩
  · exact .inl rfl

/-- What a request does to the listeners: it removes the one that a `killforward:` names, or it does
nothing, removes all that are not smart sockets, or installs one. -/
theorem afterForwardRequest_cases (h : Host) (r : ForwardRequest) :
    (∃ name, r.transport.isOk ∧ cString r.service = lit "killforward:" ++ name ∧ name ≠ [] ∧
      59 ∉ name ∧ h.afterForwardRequest r = (h.removeListener name).2) ∨
    ((∀ name, r.transport.isOk → cString r.service = lit "killforward:" ++ name →
        ¬ (name ≠ [] ∧ 59 ∉ name)) ∧
      (h.afterForwardRequest r = h ∨ h.afterForwardRequest r = h.removeAllListeners ∨
        ∃ request, h.afterForwardRequest r = (h.installListener request).2)) := by
  -- The other services are told apart from a `killforward:` by what they start with.
  have hother : consumePrefix (cString r.service) (lit "killforward:") = none →
      ∀ name, r.transport.isOk → cString r.service = lit "killforward:" ++ name →
        ¬ (name ≠ [] ∧ 59 ∉ name) := by
    intro hnone name _ heq
    rw [consumePrefix_eq_some_iff.mpr heq] at hnone
    cases hnone
  unfold afterForwardRequest handleForwardRequest
  simp only
  by_cases hlist : cString r.service = lit "list-forward"
  · rw [if_pos hlist]
    exact .inr ⟨hother (by rw [hlist]; decide), .inl rfl⟩
  rw [if_neg hlist]
  by_cases hall : cString r.service = lit "killforward-all"
  · rw [if_pos hall]
    exact .inr ⟨hother (by rw [hall]; decide), .inr (.inl rfl)⟩
  rw [if_neg hall]
  split
  · cases htransport : r.transport with
    | error e =>
      refine .inr ⟨fun name hok => ?_, .inl rfl⟩
      cases hok
    | ok t =>
      rw [htransport] at hother
      cases hkill : consumePrefix (cString r.service) (lit "killforward:") with
      | some name =>
        have hservice := consumePrefix_eq_some_iff.mp hkill
        obtain ⟨hne, hsep, heq⟩ | ⟨hbad, heq⟩ := killForward_cases h name
        · exact .inl ⟨name, rfl, hservice, hne, hsep, heq⟩
        · refine .inr ⟨fun name' _ hservice' => ?_, .inl heq⟩
          rwa [← List.append_cancel_left (hservice.symm.trans hservice')]
      | none =>
        refine .inr ⟨hother hkill, ?_⟩
        simp only
        cases consumePrefix ((cString r.service).drop 8) (lit "norebind:") with
        | some service => exact (forward_cases h service true t r.listening).imp_right .inr
        | none => exact (forward_cases h _ false t r.listening).imp_right .inr
  · rename_i hprefix
    refine .inr ⟨hother ?_, .inl rfl⟩
    by_contra hsome
    obtain ⟨rest, hrest⟩ := Option.ne_none_iff_exists'.mp hsome
    exact hprefix (.inr ⟨rest, (consumePrefix_eq_some_iff.mp hrest).symm⟩)

/-- A request spares the smart sockets exactly when it does not kill one. -/
theorem survive_afterForwardRequest_iff (hr : Registry h) (r : ForwardRequest) :
    SmartsocketsSurvive h (h.afterForwardRequest r) ↔ ¬ h.KillsSmartsocket r := by
  obtain ⟨name, hok, hservice, hne, hsep, heq⟩ | ⟨hno, heq⟩ := afterForwardRequest_cases h r
  · have hname : ∀ l : AListener, cString r.service = lit "killforward:" ++ l.localName →
        l.localName = name := fun l hl => List.append_cancel_left (hl.symm.trans hservice)
    rw [heq, survive_removeListener_iff hr]
    constructor
    · rintro hsurvive ⟨-, l, -, hsmart, hl, -, -, hf⟩
      rw [hname l hl] at hf
      rw [hsurvive l hf] at hsmart
      cases hsmart
    · intro hkill l hf
      by_contra hsmart
      have hl : l.localName = name := by simpa using List.find?_some hf
      subst hl
      exact hkill ⟨hok, l, List.mem_of_find?_eq_some hf, by simpa using hsmart, hservice, hne, hsep,
        hf⟩
  · have hkill : ¬ h.KillsSmartsocket r := by
      rintro ⟨hok, l, -, -, hl, hne, hsep, -⟩
      exact hno _ hok hl ⟨hne, hsep⟩
    refine ⟨fun _ => hkill, fun _ => ?_⟩
    obtain heq | heq | ⟨request, heq⟩ := heq
    · rw [heq]
      exact .refl h
    · rw [heq]
      exact .removeAllListeners hr
    · rw [heq]
      exact .installListener hr request

/-- A request keeps the registry. -/
theorem Registry.afterForwardRequest (hr : Registry h) (r : ForwardRequest) :
    Registry (h.afterForwardRequest r) := by
  obtain ⟨name, -, -, -, -, heq⟩ | ⟨-, heq | heq | ⟨request, heq⟩⟩ :=
    afterForwardRequest_cases h r
  · rw [heq]
    obtain hsame | ⟨l, hl, hsame⟩ := removeListener_cases h name
    · rwa [hsame]
    · rw [hsame]
      exact hr.eraseListener hl
  · rwa [heq]
  · rw [heq]
    exact hr.removeAllListeners
  · rw [heq]
    exact hr.installListener request

/-- The registry holds in every state that the looper reaches. -/
theorem Registry.of_run {delayedAckEnabled : Bool} {events : List LooperEvent}
    (hrun : Run.run Host.step (.initial delayedAckEnabled) events = some h) : Registry h := by
  have hstep : ∀ h e h', Registry h → True → Host.step h e = some h' → Registry h' := by
    intro h e h' hr _ hs
    obtain ⟨hen, rfl⟩ := step_eq_some hs
    exact (hr.of_same ⟨rfl, rfl, rfl, fun _ => rfl⟩ : Registry h.quiet).handle hen
  exact (throughout_of_meets (G := fun _ _ => True) hstep (.initial delayedAckEnabled)
    (meets_of_forall fun _ _ _ => trivial)).last hrun

/-- In every state of the looper, and for every sequence of forward requests from there, each
request leaves every smart socket as it is exactly when none is a `killforward:` of one. -/
theorem smartsockets_survive_iff {delayedAckEnabled : Bool} {events : List LooperEvent}
    (hrun : Run.run Host.step (.initial delayedAckEnabled) events = some h)
    (requests : List ForwardRequest) :
    EachStep forwardStep (fun h _ h' => SmartsocketsSurvive h h') h requests ↔
      Meets forwardStep (fun h r => ¬ h.KillsSmartsocket r) h requests := by
  refine eachStep_iff_meets (I := Registry) ?_ ?_ (.of_run hrun)
  · intro h r h' hr hs
    cases hs
    exact hr.afterForwardRequest r
  · intro h r h' hr hs
    cases hs
    exact survive_afterForwardRequest_iff hr r

/-- A device is connected, and the server listens on its port. -/
def serverSocket : List LooperEvent :=
  [.newTransport 1 .local (lit "dev") .device true,
    .registerTransport 1 false,
    .installListener ⟨lit "tcp:5037", kSmartSocketConnectTo, none, false, true, .ok ⟨9, 0⟩⟩]

/-- Forwarding a port, listing the forwards, and removing them all spare the smart socket. -/
theorem smartsockets_survive_forward :
    ∃ h, Run.run Host.step (.initial false) serverSocket = some h ∧
      EachStep forwardStep (fun h _ h' => SmartsocketsSurvive h h') h
        [⟨lit "forward:tcp:6100;tcp:7100", .ok 1, .ok ⟨10, 0⟩⟩,
          ⟨lit "list-forward", .ok 1, .error []⟩,
          ⟨lit "killforward:tcp:6100", .ok 1, .error []⟩,
          ⟨lit "killforward-all", .ok 1, .error []⟩] := by
  have hsome : (Run.run Host.step (.initial false) serverSocket).isSome := by decide +kernel
  refine ⟨_, (Option.some_get hsome).symm, ?_⟩
  refine (smartsockets_survive_iff (Option.some_get hsome).symm _).mpr ?_
  revert hsome
  decide +kernel

/-- A `killforward:` of the server's port removes the server's listener. -/
theorem killforward_removes_smartsocket :
    ¬ ∀ (delayedAckEnabled : Bool) (events : List LooperEvent),
      ∀ h ∈ Run.run Host.step (.initial delayedAckEnabled) events,
        ∀ requests : List ForwardRequest, (∀ r ∈ requests, r.transport.isOk) →
          EachStep forwardStep (fun h _ h' => SmartsocketsSurvive h h') h requests := by
  intro hall
  have hlast := fun h hrun => hall false serverSocket h hrun
    [⟨lit "killforward:tcp:5037", .ok 1, .error []⟩] (by decide)
  revert hlast
  decide +kernel

end Host

end AdbMobile
