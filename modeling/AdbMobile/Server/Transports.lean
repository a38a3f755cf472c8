import AdbMobile.Lib.Run
import AdbMobile.Server.ReconnectHandler
import AdbMobile.Server.Registration

/-!
# The threads that own a transport

A transport of a socket passes through many hands. A caller of `register_socket_transport` has it
until the registration is queued on the looper, the looper starts its connection, and the
connection's threads have it until they report an error. The looper then gives it to the reconnect
handler or queues its removal, and the handler's thread gives it back to the looper. A relaunch
stops the handler and forgets the transports and all that is queued.

A `ServerState` has the looper's tables, the connections, the looper's queue, the handler, and the
stage of the launch. What a callback does to the tables is `Host.handle`, and the effects that it
has on connections are then carried out. A launch is called while the loop of the one before runs.

What each part of a step did is stated once (`deviceStep_inv`, `looperStep_inv`, `handlerStep_inv`,
`launchStep_inv`), and every invariant of the server is a case analysis of that.
-/

namespace AdbMobile

open ByteString Run

/-- A `BlockingConnectionAdapter`. -/
structure Connection where
  started : Bool
  stopped : Bool
  /-- `error_flag_`: it has called `HandleError`. -/
  failed : Bool
  deriving DecidableEq, Repr

/-- A connection as its constructor leaves it, and as a reconnection that succeeds installs it. -/
def Connection.new : Connection := ⟨false, false, false⟩

/-- The connection's threads are still to call `HandleError`. -/
abbrev Connection.Up (c : Connection) : Prop := c.started = true ∧ c.failed = false

/-- It was started and not stopped. -/
abbrev Connection.Running (c : Connection) : Prop := c.started = true ∧ c.stopped = false

/-- How far `launch_server` has come. -/
inductive LaunchStage
  /-- Before the first launch. -/
  | down
  /-- Before the server thread's loop. -/
  | starting
  | looping
  /-- After `TerminateLoop`. -/
  | terminating
  /-- After `WaitForLoopExit`. -/
  | exited
  /-- In `Stop`, before its notification. -/
  | stopping
  /-- In `Stop`, at the join. -/
  | joining
  /-- After `Stop`. -/
  | stopped
  /-- After `kick_all_transports`. -/
  | kicked
  /-- After `clear_transport_list`. -/
  | cleared
  deriving DecidableEq, Repr

/-- The looper runs. -/
abbrev LaunchStage.Looping (stage : LaunchStage) : Prop := stage = .looping ∨ stage = .terminating

/-- The event that a callback is. -/
def LooperCallback.event : LooperCallback → LooperEvent
  | .register t => .registerTransport t false
  | .unregister t => .unregisterTransport t
  | .connectionError t => .connectionError t

/-- The server between two steps of its threads. -/
structure ServerState where
  host : Host
  connections : ℕ → Connection
  /-- `run_queue_` of the ambient context. -/
  runQueue : List LooperCallback
  handler : ReconnectHandler
  /-- The transports that a caller of `register_socket_transport` has put into `pending_list` and is
  yet to register. -/
  callers : List ℕ
  /-- `initialized` of `init_reconnect_handler`. -/
  initialized : Bool
  stage : LaunchStage

/-- The steps of the server's threads. -/
inductive ServerAction
  /-- `register_socket_transport` up to the lists, with a transport at an address that is free. -/
  | registerSocket (t : ℕ) (serial : Bytes) (isTcpDevice : Bool)
  /-- Its `register_transport`. -/
  | registerTransport (t : ℕ)
  /-- A thread of the connection calls `HandleError`. -/
  | connectionFails (t : ℕ)
  /-- The looper runs the first callback of its queue. -/
  | runCallback (now : ℕ)
  /-- The looper handles a packet or another event that does not register, end or kick. -/
  | event (e : LooperEvent)
  /-- The looper handles a request that kicks the transport. -/
  | kick (t : ℕ)
  /-- The handler is notified, or its wait ends by itself. -/
  | wakeUp
  | enterWait
  | scan (now : ℕ)
  /-- `Reconnect` returns. -/
  | finish (result : ReconnectResult) (now : ℕ)
  /-- `launch_server` is called; where a server runs already, up to `TerminateLoop`. -/
  | launch
  /-- The server thread, from its start to its loop. -/
  | enterLoop
  | loopExit
  /-- `adb_server_cleanup` up to the first lock of `Stop`. -/
  | stop
  | stopNotify
  /-- The rest of `Stop`. -/
  | join
  /-- The rest of `kick_all_transports`. -/
  | kickAll
  | clearTransportList
  | fdeventReset

namespace ServerState

/-- The server before its first launch. -/
def initial (delayedAckEnabled : Bool) : ServerState :=
  ⟨.initial delayedAckEnabled, fun _ => .new, [], .new, [], false, .down⟩

/-- Changes a connection. -/
def setConnection (s : ServerState) (t : ℕ) (c : Connection) : ServerState :=
  { s with connections := Function.update s.connections t c }

/-- `fdevent_run_on_looper`. -/
def post (s : ServerState) (cs : List LooperCallback) : ServerState :=
  { s with runQueue := s.runQueue ++ cs }

/-- `Start`. -/
def startConnection (s : ServerState) (t : ℕ) : ServerState :=
  s.setConnection t { s.connections t with started := true }

/-- `Stop`: it joins the connection's threads, and calls `HandleError` if they have not. -/
def stopConnection (s : ServerState) (t : ℕ) : ServerState :=
  let c := s.connections t
  if c.started ∧ !c.stopped then
    (s.setConnection t { c with stopped := true, failed := true }).post
      (if c.failed then [] else [.connectionError t])
  else s

/-- `Kick`. -/
def kick (s : ServerState) (t : ℕ) : ServerState :=
  if (s.host.transports t).kicked then s
  else { s with host := s.host.handle (.kick t) }.stopConnection t

/-- What an effect does outside the looper's tables. -/
def carryOut (now : ℕ) (s : ServerState) : Effect → ServerState
  | .startConnection t => s.startConnection t
  | .stopConnection t => s.stopConnection t
  | .trackTransport t => { s with handler := s.handler.trackTransport t now }
  | .removeTransport t => s.post [.unregister t]
  | _ => s

/-- The looper handles an event. -/
def handle (s : ServerState) (e : LooperEvent) (now : ℕ) : Option ServerState :=
  (s.host.step e).map fun h => h.connectionEffects.foldl (carryOut now) { s with host := h }

/-- The serials of `pending_list` and `transport_list`. -/
def serials (s : ServerState) : List Bytes :=
  (s.host.pendingList ++ s.host.transportList).map fun t => (s.host.transports t).serial

/-- A step of a thread that registers a socket, or of a connection's. -/
def deviceStep (s : ServerState) : ServerAction → Option ServerState
  | .registerSocket t serial isTcpDevice =>
    -- The transport of a serial that is there already is deleted: `EALREADY`.
    if serial ∈ s.serials then some s
    else (s.host.step (.newTransport t .local serial .offline isTcpDevice)).map fun h =>
      { s with host := h, callers := t :: s.callers }.setConnection t .new
  | .registerTransport t =>
    if t ∈ s.callers then some ({ s with callers := s.callers.erase t }.post [.register t])
    else none
  | .connectionFails t =>
    if (s.connections t).Up then
      some ((s.setConnection t { s.connections t with failed := true }).post [.connectionError t])
    else none
  | _ => none

/-- A step of the looper. -/
def looperStep (s : ServerState) (a : ServerAction) : Option ServerState :=
  if s.stage.Looping then
    match a with
    | .runCallback now =>
      match s.runQueue with
      | c :: queue => { s with runQueue := queue }.handle c.event now
      | [] => none
    | .event e => if e.registers then none else s.handle e 0
    | .kick t => if t ∈ s.host.transportList then some (s.kick t) else none
    | _ => none
  else none

/-- A step of the handler's thread. The return of the thread is part of `join`. -/
def handlerStep (s : ServerState) : ServerAction → Option ServerState
  | .wakeUp => some { s with handler := s.handler.notifyOne }
  | .enterWait =>
    if s.handler.thread = .top then some { s with handler := s.handler.enterWait } else none
  | .scan now =>
    if s.handler.thread = .woken ∧ s.handler.running then
      let r := s.handler.scan (fun t => (s.host.transports t).kicked) now
      some ({ s with handler := r.1 }.post r.2)
    else none
  | .finish result now =>
    match s.handler.thread with
    | .reconnecting a =>
      let s := if result = .success then s.setConnection a.transport .new else s
      let r := s.handler.finish a result now
      some ({ s with handler := r.1 }.post r.2)
    | _ => none
  | _ => none

/-- The end of the handler's thread. -/
def handlerReturn (h : ReconnectHandler) : Option ReconnectHandler :=
  match h.thread with
  | .notStarted | .returned => some h
  | .woken => some { h with thread := .returned }
  | _ => none

/-- A step of `launch_server`, or of the server thread that it starts. -/
def launchStep (s : ServerState) (a : ServerAction) : Option ServerState :=
  match a, s.stage with
  | .launch, .down => some { s with stage := .starting }
  | .launch, .looping => some { s with stage := .terminating }
  | .enterLoop, .starting =>
    some { s with
      handler := if s.initialized then s.handler else s.handler.start
      initialized := true
      stage := .looping }
  | .loopExit, .terminating => some { s with stage := .exited }
  | .stop, .exited =>
    some { s with
      host := s.host.closeSmartsockets, handler := s.handler.stop, stage := .stopping }
  | .stopNotify, .stopping => some { s with handler := s.handler.notifyOne, stage := .joining }
  | .join, .joining =>
    (handlerReturn s.handler).map fun h =>
      { s with handler := h.drain.1, stage := .stopped }.post h.drain.2
  | .kickAll, .stopped => some { s.host.transportList.foldl kick s with stage := .kicked }
  | .clearTransportList, .kicked =>
    let s := s.host.transportList.foldl kick s
    some { s with
      host := { s.host with transportList := [], pendingList := [] }, stage := .cleared }
  | .fdeventReset, .cleared =>
    some { s with
      host := { s.host with ambient := s.host.ambient.reset }, runQueue := [], stage := .starting }
  | _, _ => none

/-- One step of the server's threads. -/
def step (s : ServerState) (a : ServerAction) : Option ServerState :=
  match a with
  | .registerSocket .. | .registerTransport _ | .connectionFails _ => s.deviceStep a
  | .runCallback _ | .event _ | .kick _ => s.looperStep a
  | .wakeUp | .enterWait | .scan _ | .finish .. => s.handlerStep a
  | .launch | .enterLoop | .loopExit | .stop | .stopNotify | .join | .kickAll
  | .clearTransportList | .fdeventReset => s.launchStep a

variable {s s' : ServerState} {t : ℕ}

/-- A step is one of a device, of the looper, of the handler's thread, or of a launch. -/
theorem step_cases {a : ServerAction} (hs : s.step a = some s') :
    s.deviceStep a = some s' ∨ s.looperStep a = some s' ∨ s.handlerStep a = some s' ∨
      s.launchStep a = some s' := by
  cases a with
  | registerSocket | registerTransport | connectionFails => exact .inl hs
  | runCallback | event | kick => exact .inr (.inl hs)
  | wakeUp | enterWait | scan | finish => exact .inr (.inr (.inl hs))
  | launch | enterLoop | loopExit | stop | stopNotify | join | kickAll | clearTransportList
  | fdeventReset => exact .inr (.inr (.inr hs))

/-! ## What a step did -/

/-- What a step of a device has done: the guard that it passed, and the state that it left. -/
inductive DeviceStepped (s : ServerState) : ServerAction → ServerState → Prop
  | already {t : ℕ} {serial : Bytes} {isTcpDevice : Bool} (hserial : serial ∈ s.serials) :
    DeviceStepped s (.registerSocket t serial isTcpDevice) s
  | registerSocket {t : ℕ} {serial : Bytes} {isTcpDevice : Bool} {h : Host}
    (hserial : serial ∉ s.serials)
    (hstep : s.host.step (.newTransport t .local serial .offline isTcpDevice) = some h) :
    DeviceStepped s (.registerSocket t serial isTcpDevice)
      ({ s with host := h, callers := t :: s.callers }.setConnection t .new)
  | registerTransport {t : ℕ} (hcaller : t ∈ s.callers) :
    DeviceStepped s (.registerTransport t)
      ({ s with callers := s.callers.erase t }.post [.register t])
  | connectionFails {t : ℕ} (hup : (s.connections t).Up) :
    DeviceStepped s (.connectionFails t)
      ((s.setConnection t { s.connections t with failed := true }).post [.connectionError t])

/-- What a step of the looper has done. -/
inductive LooperStepped (s : ServerState) : ServerAction → ServerState → Prop
  | runCallback {now : ℕ} {c : LooperCallback} {queue : List LooperCallback} {s' : ServerState}
    (hqueue : s.runQueue = c :: queue)
    (hs : { s with runQueue := queue }.handle c.event now = some s') :
    LooperStepped s (.runCallback now) s'
  | event {e : LooperEvent} {s' : ServerState} (he : e.registers = false)
    (hs : s.handle e 0 = some s') : LooperStepped s (.event e) s'
  | kick {t : ℕ} (hlisted : t ∈ s.host.transportList) : LooperStepped s (.kick t) (s.kick t)

/-- What a step of the handler's thread has done. -/
inductive HandlerStepped (s : ServerState) : ServerAction → ServerState → Prop
  | wakeUp : HandlerStepped s .wakeUp { s with handler := s.handler.notifyOne }
  | enterWait (hthread : s.handler.thread = .top) :
    HandlerStepped s .enterWait { s with handler := s.handler.enterWait }
  | scan {now : ℕ} {r : ReconnectHandler × List LooperCallback}
    (hthread : s.handler.thread = .woken) (hrunning : s.handler.running = true)
    (hr : r = s.handler.scan (fun t => (s.host.transports t).kicked) now) :
    HandlerStepped s (.scan now) ({ s with handler := r.1 }.post r.2)
  /-- A reconnection that succeeds has installed a new connection. -/
  | success {now : ℕ} {attempt : ReconnectAttempt} {r : ReconnectHandler × List LooperCallback}
    (hthread : s.handler.thread = .reconnecting attempt)
    (hr : r = s.handler.finish attempt .success now) :
    HandlerStepped s (.finish .success now)
      ({ s.setConnection attempt.transport .new with handler := r.1 }.post r.2)
  | failure {result : ReconnectResult} {now : ℕ} {attempt : ReconnectAttempt}
    {r : ReconnectHandler × List LooperCallback} (hresult : result ≠ .success)
    (hthread : s.handler.thread = .reconnecting attempt)
    (hr : r = s.handler.finish attempt result now) :
    HandlerStepped s (.finish result now) ({ s with handler := r.1 }.post r.2)

/-- What a step of a launch has done, from stage to stage. -/
inductive LaunchStepped (s : ServerState) : ServerAction → ServerState → Prop
  | launch (hstage : s.stage = .down) : LaunchStepped s .launch { s with stage := .starting }
  | relaunch (hstage : s.stage = .looping) :
    LaunchStepped s .launch { s with stage := .terminating }
  | enterLoop (hstage : s.stage = .starting) :
    LaunchStepped s .enterLoop { s with
      handler := if s.initialized then s.handler else s.handler.start
      initialized := true
      stage := .looping }
  | loopExit (hstage : s.stage = .terminating) :
    LaunchStepped s .loopExit { s with stage := .exited }
  | stop (hstage : s.stage = .exited) :
    LaunchStepped s .stop { s with
      host := s.host.closeSmartsockets, handler := s.handler.stop, stage := .stopping }
  | stopNotify (hstage : s.stage = .stopping) :
    LaunchStepped s .stopNotify { s with handler := s.handler.notifyOne, stage := .joining }
  | join {h : ReconnectHandler} (hstage : s.stage = .joining)
    (hreturn : handlerReturn s.handler = some h) :
    LaunchStepped s .join ({ s with handler := h.drain.1, stage := .stopped }.post h.drain.2)
  | kickAll (hstage : s.stage = .stopped) :
    LaunchStepped s .kickAll { s.host.transportList.foldl kick s with stage := .kicked }
  | clearTransportList {k : ServerState} (hstage : s.stage = .kicked)
    (hk : k = s.host.transportList.foldl kick s) :
    LaunchStepped s .clearTransportList
      { k with host := { k.host with transportList := [], pendingList := [] }, stage := .cleared }
  | fdeventReset (hstage : s.stage = .cleared) :
    LaunchStepped s .fdeventReset { s with
      host := { s.host with ambient := s.host.ambient.reset }, runQueue := [], stage := .starting }

theorem deviceStep_inv {a : ServerAction} (hs : s.deviceStep a = some s') :
    DeviceStepped s a s' := by
  cases a with
  | registerSocket t serial isTcpDevice =>
    simp only [deviceStep] at hs
    split at hs
    · cases hs
      exact .already ‹_›
    · obtain ⟨h, hstep, rfl⟩ := Option.map_eq_some_iff.mp hs
      exact .registerSocket ‹_› hstep
  | registerTransport t =>
    simp only [deviceStep] at hs
    split at hs
    · cases hs
      exact .registerTransport ‹_›
    · cases hs
  | connectionFails t =>
    simp only [deviceStep] at hs
    split at hs
    · cases hs
      exact .connectionFails ‹_›
    · cases hs
  | _ => cases hs

/-- The looper runs in its stages only. -/
theorem looperStep_inv {a : ServerAction} (hs : s.looperStep a = some s') :
    s.stage.Looping ∧ LooperStepped s a s' := by
  simp only [looperStep] at hs
  split at hs
  · rename_i hlooping
    refine ⟨hlooping, ?_⟩
    cases a with
    | runCallback now =>
      simp only at hs
      split at hs
      · exact .runCallback ‹_› hs
      · cases hs
    | event e =>
      simp only at hs
      split at hs
      · cases hs
      · rename_i he
        exact .event (by simpa using he) hs
    | kick t =>
      simp only at hs
      split at hs
      · cases hs
        exact .kick ‹_›
      · cases hs
    | _ => cases hs
  · cases hs

theorem handlerStep_inv {a : ServerAction} (hs : s.handlerStep a = some s') :
    HandlerStepped s a s' := by
  cases a with
  | wakeUp =>
    cases hs
    exact .wakeUp
  | enterWait =>
    simp only [handlerStep] at hs
    split at hs
    · cases hs
      exact .enterWait ‹_›
    · cases hs
  | scan now =>
    simp only [handlerStep] at hs
    split at hs
    · rename_i hthread
      cases hs
      exact .scan hthread.1 hthread.2 rfl
    · cases hs
  | finish result now =>
    simp only [handlerStep] at hs
    split at hs
    · rename_i attempt hthread
      cases hs
      split
      · rename_i hresult
        subst hresult
        exact .success hthread rfl
      · exact .failure ‹_› hthread rfl
    · cases hs
  | _ => cases hs

theorem launchStep_inv {a : ServerAction} (hs : s.launchStep a = some s') :
    LaunchStepped s a s' := by
  unfold launchStep at hs
  split at hs
  case h_7 =>
    obtain ⟨h, hreturn, rfl⟩ := Option.map_eq_some_iff.mp hs
    exact .join ‹_› hreturn
  case h_11 => cases hs
  all_goals cases hs
  · exact .launch ‹_›
  · exact .relaunch ‹_›
  · exact .enterLoop ‹_›
  · exact .loopExit ‹_›
  · exact .stop ‹_›
  · exact .stopNotify ‹_›
  · exact .kickAll ‹_›
  · exact .clearTransportList ‹_› rfl
  · exact .fdeventReset ‹_›

/-! ## What the operations leave -/

/-- What `Stop` does: nothing to a connection that is not running; one that is running ends, and if
it has not called `HandleError` it does. -/
theorem stopConnection_cases (s : ServerState) (t : ℕ) :
    (s.stopConnection t = s ∧
      ((s.connections t).started = true → (s.connections t).stopped = true)) ∨
    ((s.connections t).started = true ∧
      (((s.connections t).failed = true ∧
          s.stopConnection t = s.setConnection t ⟨true, true, true⟩) ∨
        ((s.connections t).failed = false ∧ s.stopConnection t =
          (s.setConnection t ⟨true, true, true⟩).post [.connectionError t]))) := by
  unfold stopConnection
  cases hstarted : (s.connections t).started with
  | false => simp [hstarted]
  | true =>
    cases hstopped : (s.connections t).stopped with
    | true => simp [hstarted, hstopped]
    | false =>
      cases hfailed : (s.connections t).failed <;> simp [hstarted, hstopped, hfailed, post]

/-- Stopping a connection is no matter of the tables, of the handler, or of the launch. -/
theorem stopConnection_frame (s : ServerState) (t : ℕ) :
    (s.stopConnection t).host = s.host ∧ (s.stopConnection t).handler = s.handler ∧
    (s.stopConnection t).callers = s.callers ∧ (s.stopConnection t).initialized = s.initialized ∧
    (s.stopConnection t).stage = s.stage := by
  obtain ⟨heq, -⟩ | ⟨-, ⟨-, heq⟩ | ⟨-, heq⟩⟩ := s.stopConnection_cases t <;>
    · rw [heq]
      exact ⟨rfl, rfl, rfl, rfl, rfl⟩

/-- A kick does to the tables what the looper's own does, the second time too. -/
theorem kick_host (s : ServerState) (t : ℕ) : (s.kick t).host = s.host.handle (.kick t) := by
  unfold kick
  split
  · rename_i hkicked
    have hsame : { s.host.transports t with kicked := true } = s.host.transports t := by
      rw [← hkicked]
    simp [Host.handle, Host.modifyTransport, hsame]
  · exact (stopConnection_frame _ t).1

theorem kick_kicked (s : ServerState) (t u : ℕ) : ((s.kick t).host.transports u).kicked =
    if u = t then true else (s.host.transports u).kicked := by
  rw [kick_host]
  split
  · rename_i hut
    simp [hut, Host.handle]
  · rename_i hut
    simp [Host.handle, Host.modifyTransport_ne _ hut]

/-- A kick is no matter of the handler, the callers, or the launch. -/
theorem kick_frame (s : ServerState) (t : ℕ) : (s.kick t).handler = s.handler ∧
    (s.kick t).callers = s.callers ∧ (s.kick t).initialized = s.initialized ∧
    (s.kick t).stage = s.stage := by
  unfold kick
  split
  · exact ⟨rfl, rfl, rfl, rfl⟩
  · obtain ⟨-, hrest⟩ := stopConnection_frame { s with host := s.host.handle (.kick t) } t
    exact hrest

theorem kick_transportList (s : ServerState) (t : ℕ) :
    (s.kick t).host.transportList = s.host.transportList := by
  rw [kick_host]
  rfl

/-- What every kick keeps, kicking one transport after the other keeps. -/
theorem foldl_kick_induct {P : ServerState → Prop} (hP : ∀ s t, P s → P (s.kick t))
    (ts : List ℕ) : ∀ {s : ServerState}, P s → P (ts.foldl ServerState.kick s) := by
  induction ts with
  | nil => exact id
  | cons t ts ih => exact fun hp => ih (hP _ t hp)

/-- No effect changes the looper's tables. -/
theorem carryOut_host (now : ℕ) (s : ServerState) (e : Effect) :
    (carryOut now s e).host = s.host := by
  cases e with
  | stopConnection t => exact (s.stopConnection_frame t).1
  | _ => rfl

/-- The handler at most tracks other transports, and the launch is where it was. -/
structure SameLaunch (s s' : ServerState) : Prop where
  callers : s'.callers = s.callers
  initialized : s'.initialized = s.initialized
  stage : s'.stage = s.stage
  running : s'.handler.running = s.handler.running
  thread : s'.handler.thread = s.handler.thread
  handler : s.handler.running = false → s'.handler = s.handler

theorem SameLaunch.refl (s : ServerState) : SameLaunch s s :=
  ⟨rfl, rfl, rfl, rfl, rfl, fun _ => rfl⟩

theorem SameLaunch.trans {s'' : ServerState} (h : SameLaunch s s') (h' : SameLaunch s' s'') :
    SameLaunch s s'' where
  callers := h'.callers.trans h.callers
  initialized := h'.initialized.trans h.initialized
  stage := h'.stage.trans h.stage
  running := h'.running.trans h.running
  thread := h'.thread.trans h.thread
  handler := fun hnot => (h'.handler (h.running.trans hnot)).trans (h.handler hnot)

/-- What an effect does, beyond the tables. -/
theorem carryOut_sameLaunch (now : ℕ) (s : ServerState) (e : Effect) :
    SameLaunch s (carryOut now s e) := by
  cases e with
  | stopConnection t =>
    obtain ⟨-, hhandler, hcallers, hinitialized, hstage⟩ := s.stopConnection_frame t
    exact ⟨hcallers, hinitialized, hstage, congrArg _ hhandler, congrArg _ hhandler,
      fun _ => hhandler⟩
  | trackTransport t =>
    refine ⟨rfl, rfl, rfl, s.handler.trackTransport_running t now,
      s.handler.trackTransport_thread t now, fun hrunning => ?_⟩
    simp [carryOut, ReconnectHandler.trackTransport, hrunning]
  | _ => exact ⟨rfl, rfl, rfl, rfl, rfl, fun _ => rfl⟩

/-- A callback may have the handler track a transport, and has no other part in the handler, and
none in the launch. -/
theorem handle_frame {e : LooperEvent} {now : ℕ} (hs : s.handle e now = some s') :
    s'.callers = s.callers ∧ s'.initialized = s.initialized ∧ s'.stage = s.stage ∧
    s'.handler.running = s.handler.running ∧ s'.handler.thread = s.handler.thread ∧
    (s.handler.running = false → s'.handler = s.handler) := by
  obtain ⟨h, -, rfl⟩ := Option.map_eq_some_iff.mp hs
  have hfold : ∀ (es : List Effect) (s₁ : ServerState),
      SameLaunch s₁ (es.foldl (carryOut now) s₁) := by
    intro es
    induction es with
    | nil => exact .refl
    | cons e es ih => exact fun s₁ => (carryOut_sameLaunch now s₁ e).trans (ih (carryOut now s₁ e))
  obtain ⟨hcallers, hinitialized, hstage, hrunning, hthread, hhandler⟩ :=
    hfold h.connectionEffects { s with host := h }
  exact ⟨hcallers, hinitialized, hstage, hrunning, hthread, hhandler⟩

/-- What a callback queues comes behind what is queued. -/
theorem handle_runQueue {e : LooperEvent} {now : ℕ} (hs : s.handle e now = some s') :
    ∃ posted, s'.runQueue = s.runQueue ++ posted := by
  obtain ⟨h, -, rfl⟩ := Option.map_eq_some_iff.mp hs
  have hfold : ∀ (es : List Effect) (s₁ : ServerState),
      ∃ posted, (es.foldl (carryOut now) s₁).runQueue = s₁.runQueue ++ posted := by
    intro es
    induction es with
    | nil => exact fun s₁ => ⟨[], (List.append_nil _).symm⟩
    | cons e es ih =>
      intro s₁
      have hone : ∃ posted, (carryOut now s₁ e).runQueue = s₁.runQueue ++ posted := by
        cases e with
        | stopConnection t =>
          obtain ⟨heq, -⟩ | ⟨-, ⟨-, heq⟩ | ⟨-, heq⟩⟩ := s₁.stopConnection_cases t
          · exact ⟨[], by simp [carryOut, heq]⟩
          · exact ⟨[], by simp [carryOut, heq, setConnection]⟩
          · exact ⟨[.connectionError t], by simp [carryOut, heq, setConnection, post]⟩
        | removeTransport t => exact ⟨[.unregister t], rfl⟩
        | _ => exact ⟨[], (List.append_nil _).symm⟩
      obtain ⟨first, hfirst⟩ := hone
      obtain ⟨rest, hrest⟩ := ih (carryOut now s₁ e)
      exact ⟨first ++ rest, by rw [List.foldl_cons, hrest, hfirst, List.append_assoc]⟩
  exact hfold _ _

end ServerState

end AdbMobile
