import AdbMobile.Server.TrackerFrame
import AdbMobile.Server.TransportList

/-!
# Device trackers

A client that tracks devices is the peer of a device tracker. It is sent the list of transports when
it is ready for the first time, and each time the list has changed. A send may find the connection
of the peer closed, which removes the tracker from the list that `update_transports` walks.

What one client is to see does not depend on the other trackers (`Watch`). Each list is sent to it
in one frame, in order (`Watches.run`), so the client decodes the lists exactly when each of them is
shorter than `2^16` bytes (`received_decodes_iff`).
-/

namespace AdbMobile

open ByteString

/-! ## The code -/

/-- `TrackerOutputType`. -/
inductive TrackerOutputType
  | shortText | longText | protobuf | textProtobuf
  deriving DecidableEq, Repr

/-- `device_tracker`. -/
structure DeviceTracker where
  /-- `socket.peer`. -/
  peer : ℕ
  updateNeeded : Bool
  outputType : TrackerOutputType
  deriving DecidableEq, Repr

/-- A `Device` of the generated messages. The states are named as those of a transport. -/
structure ProtoDevice where
  serial : Bytes
  /-- `ConnectionType::USB`, and not `SOCKET`. -/
  usb : Bool
  state : ConnectionState
  busAddress : Bytes
  product : Bytes
  model : Bytes
  device : Bytes
  negotiatedSpeed : ℤ
  maxSpeed : ℤ
  transportId : UInt64
  deriving DecidableEq

/-- What is outside the repository: besides names of states, the messages and the connections. -/
structure TrackerEnv extends HostRequestEnv where
  /-- `TextFormat::PrintToString` and `SerializeToString` of the devices. -/
  printToString : List ProtoDevice → Bytes
  serializeToString : List ProtoDevice → Bytes
  /-- `NegotiatedSpeedMbps` and `MaxSpeedMbps` of the connection of the transport at an address. -/
  negotiatedSpeedMbps : ℕ → ℤ
  maxSpeedMbps : ℕ → ℤ

/-- What the trackers are about: `device_tracker_list`, `transport_list`, and the socket that the
next tracker is the peer of. -/
structure TrackerState where
  deviceTrackerList : List DeviceTracker
  transportList : List ListedTransport
  nextPeer : ℕ

/-- What is put into the queue of a peer. -/
structure Enqueued where
  peer : ℕ
  data : Bytes

/-- A program of the trackers, which always returns. -/
abbrev TrackerM := Prog TrackerState Enqueued Empty

section Code

variable (env : TrackerEnv)

/-- `transportListToProto`. -/
def transportListToProto (sorted : List ListedTransport) (textVersion : Bool) : Bytes :=
  let devices := sorted.map fun t => {
    serial := cString t.serial
    usb := t.type = .usb
    state := t.connectionState
    busAddress := sanitize false t.devpath
    product := sanitize false t.product
    model := sanitize true t.model
    device := sanitize false t.device
    negotiatedSpeed := env.negotiatedSpeedMbps t.address
    maxSpeed := env.maxSpeedMbps t.address
    transportId := t.id }
  if textVersion then env.printToString devices else env.serializeToString devices

/-- `list_transports`. -/
def listTransportsAs (outputType : TrackerOutputType) (list : List ListedTransport) : Bytes :=
  match outputType with
  | .shortText => listTransports env.toHostRequestEnv list false
  | .longText => listTransports env.toHostRequestEnv list true
  | .protobuf => transportListToProto env (list.mergeSort fun x y => !y.before x) false
  | .textProtobuf => transportListToProto env (list.mergeSort fun x y => !y.before x) true

/-- `device_tracker_remove`. -/
def deviceTrackerRemove (peer : ℕ) : TrackerM Unit :=
  Prog.modify fun s =>
    { s with deviceTrackerList := s.deviceTrackerList.eraseP fun tracker => tracker.peer = peer }

/-- `device_tracker_close`. -/
def deviceTrackerClose (peer : ℕ) : TrackerM Unit := deviceTrackerRemove peer

/-- `device_tracker_send`. `closes` says of which peers the connection is found closed. -/
def deviceTrackerSend (closes : ℕ → Bool) (tracker : DeviceTracker) (string : Bytes) :
    TrackerM Unit := do
  Prog.emit ⟨tracker.peer, trackerFrame string⟩
  if closes tracker.peer then deviceTrackerClose tracker.peer
  else return

/-- `device_tracker_ready`, of the tracker of a peer. -/
def deviceTrackerReady (closes : ℕ → Bool) (peer : ℕ) : TrackerM Unit := do
  let s ← Prog.get
  match s.deviceTrackerList.find? fun tracker => tracker.peer = peer with
  | some tracker =>
    if tracker.updateNeeded then
      Prog.modify fun s => { s with deviceTrackerList := s.deviceTrackerList.map fun tracker =>
        if tracker.peer = peer then { tracker with updateNeeded := false } else tracker }
      deviceTrackerSend closes tracker (listTransportsAs env tracker.outputType s.transportList)
    else return
  | none => return

/-- `create_device_tracker`. -/
def createDeviceTracker (outputType : TrackerOutputType) : TrackerM Unit :=
  Prog.modify fun s => { s with
    deviceTrackerList := ⟨s.nextPeer, true, outputType⟩ :: s.deviceTrackerList
    nextPeer := s.nextPeer + 1 }

/-- The loop of `update_transports`. The tracker behind one is read before the send, which may
destroy that one. -/
def updateTrackers (closes : ℕ → Bool) : List DeviceTracker → TrackerM Unit
  | [] => pure ()
  | tracker :: next => do
    let s ← Prog.get
    deviceTrackerSend closes tracker (listTransportsAs env tracker.outputType s.transportList)
    updateTrackers closes next

/-- `update_transports`. -/
def updateTransports (closes : ℕ → Bool) : TrackerM Unit := do
  let s ← Prog.get
  updateTrackers env closes s.deviceTrackerList

end Code

/-- What happens to the trackers. -/
inductive TrackerAction
  | create (outputType : TrackerOutputType)
  | ready (peer : ℕ) (closes : ℕ → Bool)
  /-- `transport_list`, or what one of its transports says, has changed. -/
  | changed (list : List ListedTransport)
  | update (closes : ℕ → Bool)
  | close (peer : ℕ)

/-- One thing that happens. -/
def TrackerAction.run (env : TrackerEnv) : TrackerAction → TrackerM Unit
  | .create outputType => createDeviceTracker outputType
  | .ready peer closes => deviceTrackerReady env closes peer
  | .changed list => Prog.modify fun s => { s with transportList := list }
  | .update closes => updateTransports env closes
  | .close peer => deviceTrackerClose peer

/-- One thing after the other. -/
def runActions (env : TrackerEnv) (actions : List TrackerAction) : TrackerM Unit :=
  Prog.foldM (fun _ action => action.run env) () actions

/-- No tracker, and no transport. -/
def TrackerState.initial : TrackerState := ⟨[], [], 0⟩

/-- The bytes that a peer receives. -/
def received (peer : ℕ) (t : List Enqueued) : Bytes :=
  (t.filter fun e => e.peer = peer).flatMap Enqueued.data

/-! ## What one client is to see -/

/-- A list that is sent: how it is written, and the transports. -/
abbrev SentList := TrackerOutputType × List ListedTransport

/-- The text of a list that is sent. -/
def SentList.text (env : TrackerEnv) (l : SentList) : Bytes := listTransportsAs env l.1 l.2

/-- What there is to know for the client of one tracker. -/
structure Watch where
  transportList : List ListedTransport
  nextPeer : ℕ
  /-- How the client wants the lists, and whether it has yet to be ready for the first time, while
  its tracker is there. -/
  tracker : Option (TrackerOutputType × Bool)

/-- Nothing is known yet. -/
def Watch.initial : Watch := ⟨[], 0, none⟩

/-- What the client of `peer` is to see of something that happens: at most one list. -/
def Watch.step (peer : ℕ) (w : Watch) : TrackerAction → Watch × List SentList
  | .create outputType =>
    (⟨w.transportList, w.nextPeer + 1,
      if w.nextPeer = peer then some (outputType, true) else w.tracker⟩, [])
  | .ready p closes =>
    match w.tracker with
    | some (outputType, true) =>
      if p = peer then
        ({ w with tracker := if closes peer then none else some (outputType, false) },
          [(outputType, w.transportList)])
      else (w, [])
    | _ => (w, [])
  | .changed list => ({ w with transportList := list }, [])
  | .update closes =>
    match w.tracker with
    | some (outputType, first) =>
      ({ w with tracker := if closes peer then none else some (outputType, first) },
        [(outputType, w.transportList)])
    | none => (w, [])
  | .close p => ({ w with tracker := if p = peer then none else w.tracker }, [])

/-- The lists that the client of `peer` is to see, in order. -/
def Watch.lists (peer : ℕ) : Watch → List TrackerAction → List SentList
  | _, [] => []
  | w, action :: actions => (w.step peer action).2 ++ (w.step peer action).1.lists peer actions

/-- Another client is ready. -/
theorem Watch.step_ready_of_ne {peer p : ℕ} (h : p ≠ peer) (w : Watch) (closes : ℕ → Bool) :
    w.step peer (.ready p closes) = (w, []) := by
  unfold Watch.step
  dsimp only
  split
  · exact if_neg h
  · rfl

/-- The client is ready, and has been so, or has no tracker. -/
theorem Watch.step_ready_of_seen (peer : ℕ) {w : Watch}
    (h : ∀ outputType, w.tracker ≠ some (outputType, true)) (p : ℕ) (closes : ℕ → Bool) :
    w.step peer (.ready p closes) = (w, []) := by
  unfold Watch.step
  dsimp only
  split
  · exact absurd ‹_› (h _)
  · rfl

/-- The client is ready for the first time. -/
theorem Watch.step_ready_first (peer : ℕ) {w : Watch} {outputType : TrackerOutputType}
    (h : w.tracker = some (outputType, true)) (closes : ℕ → Bool) :
    w.step peer (.ready peer closes) =
      ({ w with tracker := if closes peer then none else some (outputType, false) },
        [(outputType, w.transportList)]) := by
  unfold Watch.step
  rw [h]
  exact if_pos rfl

/-- The list is updated. -/
theorem Watch.step_update (peer : ℕ) (w : Watch) (closes : ℕ → Bool) :
    w.step peer (.update closes) =
      ({ w with tracker := if closes peer then none else w.tracker },
        w.tracker.toList.map fun tracker => (tracker.1, w.transportList)) := by
  obtain ⟨transportList, nextPeer, _ | ⟨outputType, first⟩⟩ := w
  · by_cases hcloses : closes peer
    · rw [if_pos hcloses]
      rfl
    · rw [if_neg hcloses]
      rfl
  · rfl

/-! ## The trackers and one client -/

/-- The tracker of a peer. -/
def TrackerState.tracker (s : TrackerState) (peer : ℕ) : Option DeviceTracker :=
  s.deviceTrackerList.find? fun tracker => tracker.peer = peer

/-- The peers are those of the trackers that were created, each of one tracker. -/
structure TrackerState.WellFormed (s : TrackerState) : Prop where
  created : ∀ tracker ∈ s.deviceTrackerList, tracker.peer < s.nextPeer
  distinct : (s.deviceTrackerList.map DeviceTracker.peer).Nodup

/-- What is known for the client is what the trackers are. -/
structure Watches (peer : ℕ) (s : TrackerState) (w : Watch) : Prop where
  wellFormed : s.WellFormed
  transportList : w.transportList = s.transportList
  nextPeer : w.nextPeer = s.nextPeer
  tracker : w.tracker =
    (s.tracker peer).map fun tracker => (tracker.outputType, tracker.updateNeeded)

theorem TrackerState.tracker_eq_none_iff {s : TrackerState} {peer : ℕ} :
    s.tracker peer = none ↔ peer ∉ s.deviceTrackerList.map DeviceTracker.peer := by
  simp [TrackerState.tracker]

/-- The trackers of a peer are its tracker. -/
theorem TrackerState.filter_peer {s : TrackerState} (h : s.WellFormed) (peer : ℕ) :
    s.deviceTrackerList.filter (fun tracker => tracker.peer = peer) = (s.tracker peer).toList := by
  have hdistinct := h.distinct
  unfold TrackerState.tracker
  generalize s.deviceTrackerList = list at hdistinct ⊢
  induction list with
  | nil => rfl
  | cons tracker list ih =>
    rw [List.map_cons, List.nodup_cons] at hdistinct
    by_cases hpeer : tracker.peer = peer
    · rw [List.filter_cons_of_pos (by simpa using hpeer),
        List.find?_cons_of_pos (by simpa using hpeer), Option.toList_some]
      refine congrArg _ (List.filter_eq_nil_iff.mpr fun other hmem hother => ?_)
      have hsame : other.peer = tracker.peer := (by simpa using hother : other.peer = peer).trans
        hpeer.symm
      exact hdistinct.1 (List.mem_map.mpr ⟨other, hmem, hsame⟩)
    · rw [List.filter_cons_of_neg (by simpa using hpeer),
        List.find?_cons_of_neg (by simpa using hpeer), ih hdistinct.2]

/-- The state without the tracker of a peer. -/
def TrackerState.without (s : TrackerState) (peer : ℕ) : TrackerState :=
  { s with deviceTrackerList := s.deviceTrackerList.eraseP fun tracker => tracker.peer = peer }

theorem TrackerState.WellFormed.without {s : TrackerState} (h : s.WellFormed) (peer : ℕ) :
    (s.without peer).WellFormed where
  created tracker hmem := h.created tracker (List.mem_of_mem_eraseP hmem)
  distinct := h.distinct.sublist ((List.eraseP_sublist).map DeviceTracker.peer)

/-- Removing a tracker removes that one, and no other. -/
theorem TrackerState.tracker_without {s : TrackerState} (h : s.WellFormed) (peer p : ℕ) :
    (s.without p).tracker peer = if p = peer then none else s.tracker peer := by
  have hdistinct := h.distinct
  unfold TrackerState.tracker TrackerState.without
  dsimp only
  generalize s.deviceTrackerList = list at hdistinct ⊢
  induction list with
  | nil => split <;> rfl
  | cons tracker list ih =>
    rw [List.map_cons, List.nodup_cons] at hdistinct
    have hrest := ih hdistinct.2
    by_cases hp : tracker.peer = p
    · rw [List.eraseP_cons_of_pos (by simpa using hp)]
      split
      · -- No other tracker has this peer.
        subst_vars
        rw [List.find?_eq_none]
        intro other hmem hother
        exact hdistinct.1 (List.mem_map.mpr ⟨other, hmem, by simpa using hother⟩)
      · have hne : ¬ tracker.peer = peer := by omega
        rw [List.find?_cons_of_neg (by simpa using hne)]
    · rw [List.eraseP_cons_of_neg (by simpa using hp)]
      by_cases hpeer : tracker.peer = peer
      · have hne : ¬ p = peer := by omega
        rw [if_neg hne, List.find?_cons_of_pos (by simpa using hpeer),
          List.find?_cons_of_pos (by simpa using hpeer)]
      · rw [List.find?_cons_of_neg (by simpa using hpeer), hrest,
          List.find?_cons_of_neg (by simpa using hpeer)]

/-- The state in which the tracker of a peer has sent its first list. -/
def TrackerState.answered (s : TrackerState) (peer : ℕ) : TrackerState :=
  { s with deviceTrackerList := s.deviceTrackerList.map fun tracker =>
      if tracker.peer = peer then { tracker with updateNeeded := false } else tracker }

theorem TrackerState.peers_answered (s : TrackerState) (peer : ℕ) :
    (s.answered peer).deviceTrackerList.map DeviceTracker.peer =
      s.deviceTrackerList.map DeviceTracker.peer := by
  rw [TrackerState.answered, List.map_map]
  refine List.map_congr_left fun tracker _ => ?_
  rw [Function.comp_apply]
  split <;> rfl

theorem TrackerState.wellFormed_iff (s : TrackerState) : s.WellFormed ↔
    (∀ peer ∈ s.deviceTrackerList.map DeviceTracker.peer, peer < s.nextPeer) ∧
      (s.deviceTrackerList.map DeviceTracker.peer).Nodup := by
  rw [List.forall_mem_map]
  exact ⟨fun h => ⟨h.created, h.distinct⟩, fun h => ⟨h.1, h.2⟩⟩

theorem TrackerState.WellFormed.answered {s : TrackerState} (h : s.WellFormed) (peer : ℕ) :
    (s.answered peer).WellFormed := by
  rw [TrackerState.wellFormed_iff, TrackerState.peers_answered]
  exact (TrackerState.wellFormed_iff s).mp h

theorem TrackerState.tracker_answered (s : TrackerState) (peer p : ℕ) :
    (s.answered p).tracker peer = if p = peer then
      (s.tracker peer).map fun tracker => { tracker with updateNeeded := false }
    else s.tracker peer := by
  unfold TrackerState.tracker TrackerState.answered
  dsimp only
  induction s.deviceTrackerList with
  | nil => split <;> rfl
  | cons tracker list ih =>
    have hkeep : (if tracker.peer = p then { tracker with updateNeeded := false }
        else tracker).peer = tracker.peer := by split <;> rfl
    rw [List.map_cons]
    by_cases hpeer : tracker.peer = peer
    · rw [List.find?_cons_of_pos (by simpa [hkeep] using hpeer),
        List.find?_cons_of_pos (by simpa using hpeer)]
      by_cases hp : p = peer
      · rw [if_pos hp, if_pos (hpeer.trans hp.symm), Option.map_some]
      · rw [if_neg hp, if_neg fun h => hp (h.symm.trans hpeer)]
    · rw [List.find?_cons_of_neg (by simpa [hkeep] using hpeer), ih,
        List.find?_cons_of_neg (by simpa using hpeer)]

section Run

variable {env : TrackerEnv} {peer : ℕ} {s : TrackerState} {w : Watch}

theorem received_append (peer : ℕ) (t t' : List Enqueued) :
    received peer (t ++ t') = received peer t ++ received peer t' := by
  rw [received, List.filter_append, List.flatMap_append]
  rfl

theorem received_singleton (peer : ℕ) (e : Enqueued) :
    received peer [e] = if e.peer = peer then e.data else [] := by
  unfold received
  by_cases h : e.peer = peer <;> simp [h]

/-- A send: one frame, and the tracker is removed where its peer's connection is closed. -/
theorem deviceTrackerSend_runs (closes : ℕ → Bool) (tracker : DeviceTracker) (string : Bytes)
    (s : TrackerState) : Prog.Runs (deviceTrackerSend closes tracker string) s fun _ s' t =>
      s' = (if closes tracker.peer then s.without tracker.peer else s) ∧
        t = [⟨tracker.peer, trackerFrame string⟩] := by
  refine .emit_bind ?_
  split
  · exact ⟨(), rfl, rfl, rfl⟩
  · exact .pure ⟨rfl, rfl⟩

/-- The loop: each tracker that is walked over is sent one frame. -/
theorem updateTrackers_runs (closes : ℕ → Bool) (peer : ℕ) (next : List DeviceTracker) :
    ∀ {s : TrackerState}, s.WellFormed → Prog.Runs (updateTrackers env closes next) s fun _ s' t =>
      (s'.WellFormed ∧ s'.transportList = s.transportList ∧ s'.nextPeer = s.nextPeer) ∧
      s'.tracker peer =
        (if closes peer ∧ peer ∈ next.map DeviceTracker.peer then none else s.tracker peer) ∧
      received peer t = (next.filter fun tracker => tracker.peer = peer).flatMap fun tracker =>
        trackerFrame (listTransportsAs env tracker.outputType s.transportList) := by
  induction next with
  | nil =>
    intro s h
    refine .pure ⟨⟨h, rfl, rfl⟩, ?_, rfl⟩
    rw [if_neg fun hmem => List.not_mem_nil hmem.2]
  | cons tracker next ih =>
    intro s h
    refine Prog.Runs.get_bind ((deviceTrackerSend_runs closes tracker _ s).bind ?_)
    rintro _ s₁ t₁ ⟨hs₁, ht₁⟩
    have hs₁' : s₁.WellFormed ∧ s₁.transportList = s.transportList ∧ s₁.nextPeer = s.nextPeer := by
      subst hs₁
      split
      · exact ⟨h.without _, rfl, rfl⟩
      · exact ⟨h, rfl, rfl⟩
    have htracker : s₁.tracker peer =
        if closes tracker.peer ∧ tracker.peer = peer then none else s.tracker peer := by
      subst hs₁
      by_cases hcloses : closes tracker.peer
      · rw [if_pos hcloses, TrackerState.tracker_without h]
        simp [hcloses]
      · rw [if_neg hcloses, if_neg fun hboth => hcloses hboth.1]
    refine (ih hs₁'.1).mono fun _ s₂ t₂ ⟨⟨hwf, hlist, hnext⟩, hs₂, ht₂⟩ => ?_
    refine ⟨⟨hwf, hlist.trans hs₁'.2.1, hnext.trans hs₁'.2.2⟩, ?_, ?_⟩
    · rw [hs₂, htracker]
      by_cases hpeer : tracker.peer = peer
      · subst hpeer
        by_cases hcloses : closes tracker.peer <;> simp [hcloses]
      · have hpeer' : peer ≠ tracker.peer := Ne.symm hpeer
        simp [hpeer, hpeer']
    · rw [received_append, ht₁, ht₂, received_singleton, hs₁'.2.1]
      by_cases hpeer : tracker.peer = peer
      · rw [if_pos hpeer, List.filter_cons_of_pos (by simpa using hpeer), List.flatMap_cons]
      · rw [if_neg hpeer, List.filter_cons_of_neg (by simpa using hpeer), List.nil_append]

/-- A new tracker. -/
theorem Watches.create (h : Watches peer s w) (outputType : TrackerOutputType) :
    Prog.Runs (createDeviceTracker outputType) s fun _ s' t =>
      Watches peer s' (w.step peer (.create outputType)).1 ∧ received peer t = [] := by
  refine ⟨(), rfl, ⟨?_, h.transportList, ?_, ?_⟩, rfl⟩
  · rw [TrackerState.wellFormed_iff]
    obtain ⟨hcreated, hdistinct⟩ := (TrackerState.wellFormed_iff s).mp h.wellFormed
    refine ⟨List.forall_mem_cons.mpr ⟨Nat.lt_succ_self _, fun p hp => ?_⟩, ?_⟩
    · exact (hcreated p hp).trans (Nat.lt_succ_self _)
    · exact List.nodup_cons.mpr ⟨fun hmem => absurd (hcreated _ hmem) (lt_irrefl _), hdistinct⟩
  · exact congrArg (· + 1) h.nextPeer
  · show (if w.nextPeer = peer then some (outputType, true) else w.tracker) =
      ((⟨s.nextPeer, true, outputType⟩ :: s.deviceTrackerList).find? fun tracker =>
        tracker.peer = peer).map fun tracker => (tracker.outputType, tracker.updateNeeded)
    rw [h.nextPeer]
    by_cases hpeer : s.nextPeer = peer
    · rw [if_pos hpeer, List.find?_cons_of_pos (by simpa using hpeer)]
      rfl
    · rw [if_neg hpeer, List.find?_cons_of_neg (by simpa using hpeer), h.tracker]
      rfl

/-- What was known of a tracker that is closed. -/
theorem Watches.close (h : Watches peer s w) (p : ℕ) :
    Watches peer (s.without p) { w with tracker := if p = peer then none else w.tracker } where
  wellFormed := h.wellFormed.without p
  transportList := h.transportList
  nextPeer := h.nextPeer
  tracker := by
    rw [TrackerState.tracker_without h.wellFormed]
    split
    · rfl
    · exact h.tracker

/-- A tracker is answered, where another one is watched. -/
theorem Watches.answered_other (h : Watches peer s w) {p : ℕ} (hp : p ≠ peer) :
    Watches peer (s.answered p) w where
  wellFormed := h.wellFormed.answered p
  transportList := h.transportList
  nextPeer := h.nextPeer
  tracker := by
    rw [TrackerState.tracker_answered, if_neg hp]
    exact h.tracker

/-- The tracker that is watched is answered. -/
theorem Watches.answered_self (h : Watches peer s w) {tracker : DeviceTracker}
    (htracker : s.tracker peer = some tracker) :
    Watches peer (s.answered peer) { w with tracker := some (tracker.outputType, false) } where
  wellFormed := h.wellFormed.answered peer
  transportList := h.transportList
  nextPeer := h.nextPeer
  tracker := by
    rw [TrackerState.tracker_answered, if_pos rfl, htracker]
    rfl

/-- A client is ready whose tracker has yet to be answered. -/
theorem Watches.ready_first (h : Watches peer s w) (closes : ℕ → Bool) {p : ℕ}
    {tracker : DeviceTracker} (hp : s.tracker p = some tracker) (hneeded : tracker.updateNeeded) :
    Watches peer (if closes p then (s.answered p).without p else s.answered p)
        (w.step peer (.ready p closes)).1 ∧
      received peer [⟨p, trackerFrame (listTransportsAs env tracker.outputType s.transportList)⟩] =
        (w.step peer (.ready p closes)).2.flatMap fun l => trackerFrame (l.text env) := by
  rw [received_singleton]
  by_cases hpeer : p = peer
  · subst hpeer
    have hfirst : w.tracker = some (tracker.outputType, true) := by
      rw [h.tracker, hp, Option.map_some, hneeded]
    have hanswered := h.answered_self hp
    rw [Watch.step_ready_first p hfirst]
    constructor
    · by_cases hcloses : closes p
      · have hclosed := hanswered.close p
        rw [if_pos rfl] at hclosed
        rwa [if_pos hcloses, if_pos hcloses]
      · rwa [if_neg hcloses, if_neg hcloses]
    · rw [if_pos rfl, h.transportList]
      exact (List.append_nil _).symm
  · have hanswered := h.answered_other hpeer
    rw [Watch.step_ready_of_ne hpeer, if_neg hpeer]
    refine ⟨?_, rfl⟩
    split
    · have hclosed := hanswered.close p
      rwa [if_neg hpeer] at hclosed
    · exact hanswered

/-- A client is ready. -/
theorem Watches.ready (h : Watches peer s w) (closes : ℕ → Bool) (p : ℕ) :
    Prog.Runs (deviceTrackerReady env closes p) s fun _ s' t =>
      Watches peer s' (w.step peer (.ready p closes)).1 ∧
        received peer t = (w.step peer (.ready p closes)).2.flatMap fun l =>
          trackerFrame (l.text env) := by
  have hseen : (∀ tracker, s.tracker p = some tracker → tracker.updateNeeded = false) →
      w.step peer (.ready p closes) = (w, []) := by
    intro hseen
    by_cases hp : p = peer
    · subst hp
      refine Watch.step_ready_of_seen p (fun outputType hfirst => ?_) p closes
      obtain ⟨tracker, htracker, hpair⟩ := Option.map_eq_some_iff.mp (h.tracker.symm.trans hfirst)
      exact absurd ((hseen tracker htracker).symm.trans (Prod.ext_iff.mp hpair).2) nofun
    · exact Watch.step_ready_of_ne hp w closes
  refine Prog.Runs.get_bind ?_
  cases hp : s.tracker p with
  | none =>
    rw [show (s.deviceTrackerList.find? fun tracker => tracker.peer = p) = none from hp]
    rw [hseen fun tracker htracker => absurd (hp.symm.trans htracker) nofun]
    exact .pure ⟨h, rfl⟩
  | some tracker =>
    have hpeer : tracker.peer = p := by simpa using List.find?_some hp
    rw [show (s.deviceTrackerList.find? fun tracker => tracker.peer = p) = some tracker from hp]
    dsimp only
    by_cases hneeded : tracker.updateNeeded
    · rw [if_pos hneeded]
      refine .modify_bind ((deviceTrackerSend_runs closes tracker _ (s.answered p)).mono ?_)
      rintro _ s' t ⟨rfl, rfl⟩
      rw [hpeer]
      exact h.ready_first closes hp hneeded
    · rw [if_neg hneeded, hseen fun other hother => ?_]
      · exact .pure ⟨h, rfl⟩
      · obtain rfl := Option.some.inj (hp.symm.trans hother)
        exact Bool.eq_false_of_not_eq_true hneeded

/-- The list is updated. -/
theorem Watches.update (h : Watches peer s w) (closes : ℕ → Bool) :
    Prog.Runs (updateTransports env closes) s fun _ s' t =>
      Watches peer s' (w.step peer (.update closes)).1 ∧
        received peer t = (w.step peer (.update closes)).2.flatMap fun l =>
          trackerFrame (l.text env) := by
  refine Prog.Runs.get_bind ((updateTrackers_runs closes peer s.deviceTrackerList
    h.wellFormed).mono ?_)
  rintro _ s' t ⟨⟨hwf, hlist, hnext⟩, htracker, ht⟩
  rw [Watch.step_update, h.tracker]
  refine ⟨⟨hwf, h.transportList.trans hlist.symm, h.nextPeer.trans hnext.symm, ?_⟩, ?_⟩
  · show (if closes peer then none else _) = _
    rw [htracker]
    by_cases hcloses : closes peer
    · rw [if_pos hcloses]
      by_cases hmem : peer ∈ s.deviceTrackerList.map DeviceTracker.peer
      · rw [if_pos ⟨hcloses, hmem⟩]
        rfl
      · rw [if_neg fun hboth => hmem hboth.2, TrackerState.tracker_eq_none_iff.mpr hmem]
        rfl
    · rw [if_neg hcloses, if_neg fun hboth => hcloses hboth.1]
  · rw [ht, TrackerState.filter_peer h.wellFormed, h.transportList]
    cases s.tracker peer with
    | none => rfl
    | some tracker => rfl

/-- One thing that happens: each list that the client is to see is sent to it in a frame. -/
theorem Watches.step (h : Watches peer s w) (action : TrackerAction) :
    Prog.Runs (action.run env) s fun _ s' t => Watches peer s' (w.step peer action).1 ∧
      received peer t = (w.step peer action).2.flatMap fun l => trackerFrame (l.text env) := by
  cases action with
  | create outputType => exact h.create outputType
  | ready p closes => exact h.ready closes p
  | changed list => exact ⟨(), rfl, ⟨{ h.wellFormed with }, rfl, h.nextPeer, h.tracker⟩, rfl⟩
  | update closes => exact h.update closes
  | close p => exact ⟨(), rfl, h.close p, rfl⟩

/-- A run: the lists that the client is to see are sent to it, each in a frame, in order. -/
theorem Watches.run (actions : List TrackerAction) : ∀ {s : TrackerState} {w : Watch},
    Watches peer s w → received peer (runActions env actions s).trace =
      (w.lists peer actions).flatMap fun l => trackerFrame (l.text env) := by
  induction actions with
  | nil => exact fun _ => rfl
  | cons action actions ih =>
    intro s w h
    obtain ⟨_, hok, hwatches, ht⟩ := show Prog.Runs (action.run env) s _ from h.step action
    have hcons : runActions env (action :: actions) s =
        (action.run env >>= fun _ => runActions env actions) s := rfl
    rw [hcons, Prog.bind_apply_ok hok, Prog.after_trace, received_append, ht, ih hwatches,
      Watch.lists, List.flatMap_append]

end Run

/-! ## The length of a list -/

/-- The length of a key and its value in a line. -/
def infoSize (key value : Bytes) : ℕ := if value = [] then 0 else 1 + key.length + value.length

/-- The length of a line. -/
def lineSize (env : HostRequestEnv) (longListing : Bool) (t : ListedTransport) : ℕ :=
  let serial := if t.serial = [] then lit "(no serial number)" else t.serial
  if !longListing then serial.length + 1 + (stateText env t.connectionState).length + 1
  else
    max 22 (cString serial).length + 1 + (cString (stateText env t.connectionState)).length +
      infoSize [] t.devpath + infoSize (lit "product:") t.product +
      infoSize (lit "model:") t.model + infoSize (lit "device:") t.device + 14 +
      (decimal t.id.toNat).length + 1

/-- The length of lines, one for each transport. -/
def linesSize (env : HostRequestEnv) (longListing : Bool) : List ListedTransport → ℕ
  | [] => 0
  | t :: ts => lineSize env longListing t + linesSize env longListing ts

/-- The length of a list. -/
def SentList.size (env : TrackerEnv) (l : SentList) : ℕ :=
  match l.1 with
  | .shortText => linesSize env.toHostRequestEnv false l.2
  | .longText => linesSize env.toHostRequestEnv true l.2
  | .protobuf => (transportListToProto env (l.2.mergeSort fun x y => !y.before x) false).length
  | .textProtobuf => (transportListToProto env (l.2.mergeSort fun x y => !y.before x) true).length

theorem transportInfo_length (key value : Bytes) (alphanumeric : Bool) :
    (transportInfo key value alphanumeric).length = infoSize key value := by
  unfold transportInfo infoSize
  split
  · rfl
  · rw [List.length_append, List.length_append, sanitize, List.length_map]
    rfl

theorem transportLine_length (env : HostRequestEnv) (longListing : Bool) (t : ListedTransport) :
    (transportLine env longListing t).length = lineSize env longListing t := by
  have htab : (lit "\t").length = 1 := by decide
  have hspace : (lit " ").length = 1 := by decide
  have hnewline : (lit "\n").length = 1 := by decide
  have hid : (lit " transport_id:").length = 14 := by decide
  unfold transportLine lineSize
  cases longListing with
  | false =>
    simp only [Bool.not_false, if_true, List.length_append, htab, hnewline]
  | true =>
    simp only [Bool.not_true, Bool.false_eq_true, if_false, List.length_append,
      transportInfo_length, List.length_rightpad, hspace, hnewline, hid]

theorem linesSize_eq (env : HostRequestEnv) (longListing : Bool) (list : List ListedTransport) :
    (list.flatMap (transportLine env longListing)).length = linesSize env longListing list := by
  induction list with
  | nil => rfl
  | cons t ts ih =>
    rw [List.flatMap_cons, List.length_append, ih, transportLine_length, linesSize]

/-- The length of a list is that of its lines, in whatever order. -/
theorem listTransports_length (env : HostRequestEnv) (list : List ListedTransport)
    (longListing : Bool) :
    (listTransports env list longListing).length = linesSize env longListing list := by
  have hperm := List.mergeSort_perm list fun x y => !y.before x
  calc (listTransports env list longListing).length
      = (list.flatMap (transportLine env longListing)).length :=
        (hperm.flatMap_right (transportLine env longListing)).length_eq
    _ = linesSize env longListing list := linesSize_eq env longListing list

theorem SentList.text_length (env : TrackerEnv) (l : SentList) :
    (l.text env).length = l.size env := by
  obtain ⟨outputType, list⟩ := l
  cases outputType with
  | shortText => exact listTransports_length _ list false
  | longText => exact listTransports_length _ list true
  | protobuf => rfl
  | textProtobuf => rfl

/-! ## What the client decodes -/

/-- Before anything happens, nothing is known. -/
theorem watches_initial (peer : ℕ) : Watches peer .initial .initial where
  wellFormed := ⟨fun _ hmem => absurd hmem List.not_mem_nil, List.nodup_nil⟩
  transportList := rfl
  nextPeer := rfl
  tracker := rfl

/-- The client of a tracker decodes the lists that were sent to it. -/
def DecodesLists (env : TrackerEnv) (actions : List TrackerAction) (peer : ℕ) : Prop :=
  trackerFrames.Leads (received peer (runActions env actions .initial).trace)
    ((Watch.initial.lists peer actions).map fun l => l.text env) []

/-- Whatever happens to the trackers, the client of each decodes the lists that were sent to it, and
nothing is left, exactly when each list is shorter than `2^16` bytes. -/
theorem received_decodes_iff (env : TrackerEnv) (actions : List TrackerAction) (peer : ℕ) :
    DecodesLists env actions peer ↔
      ∀ l ∈ Watch.initial.lists peer actions, l.size env < 2 ^ 16 := by
  have hframes : received peer (runActions env actions .initial).trace =
      ((Watch.initial.lists peer actions).map fun l => l.text env).flatMap trackerFrame := by
    rw [(watches_initial peer).run, List.flatMap_map]
  rw [DecodesLists, hframes, leads_trackerFrames_iff, List.forall_mem_map]
  refine forall_congr' fun l => forall_congr' fun _ => ?_
  rw [SentList.text_length]

/-- A device whose product is this long. -/
def longProduct (n : ℕ) : ListedTransport :=
  { (Host.initial false).transports 0 with
    type := .usb, serial := lit "A", product := List.replicate n 97, address := 0, id := 1,
    devpath := [] }

/-- The list of a device with a long product is longer than the product. -/
theorem longProduct_size (env : TrackerEnv) (n : ℕ) :
    n ≤ SentList.size env (.longText, [longProduct n]) := by
  have hproduct : n ≤ infoSize (lit "product:") (longProduct n).product := by
    have hlen : (longProduct n).product.length = n := List.length_replicate
    unfold infoSize
    split
    · rw [← hlen, ‹(longProduct n).product = []›, List.length_nil]
    · omega
  show n ≤ lineSize env.toHostRequestEnv true (longProduct n) + 0
  rw [lineSize, if_neg (by decide)]
  omega

/-- Texts that are outside the repository. -/
def TrackerEnv.plain : TrackerEnv where
  toHostRequestEnv := .plain
  printToString _ := []
  serializeToString _ := []
  negotiatedSpeedMbps _ := 0
  maxSpeedMbps _ := 0

/-- A client that is ready, and a device with a product of `2^16` bytes that is connected. -/
def longProductActions : List TrackerAction :=
  [.create .longText, .ready 0 fun _ => false, .changed [longProduct (2 ^ 16)],
    .update fun _ => false]

/-- The list with a long product is not decoded. -/
theorem longProduct_not_decoded : ¬ DecodesLists .plain longProductActions 0 := by
  intro h
  have hmem : (.longText, [longProduct (2 ^ 16)]) ∈ Watch.initial.lists 0 longProductActions := by
    simp [Watch.lists, longProductActions, Watch.initial, Watch.step]
  have hshort := leads_length h _ (List.mem_map.mpr ⟨_, hmem, rfl⟩)
  rw [SentList.text_length] at hshort
  have hlong := longProduct_size .plain (2 ^ 16)
  omega

end AdbMobile
