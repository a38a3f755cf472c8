import AdbMobile.Lib.Run
import AdbMobile.Server.Frame

/-!
# Agreeing on a version and a payload

Each end of a connection sends a CNXN packet with its `A_VERSION` and its transport's `max_payload`,
and takes from the other's the smaller version and the smaller payload of that and its own constants
(`update_version`). The host keeps its transport over reconnections, and with it the `max_payload`
that an earlier device left there, which is what it advertises next.

The constants of an endpoint are a `Build`. In every history of connections, the two ends hold the
same once both packets were handled, and neither packet is refused (`negotiation_agrees`). That
needs limits of less than `2^32`, which is what the word in the packet can hold.
-/

namespace AdbMobile

open ByteString Run

/-- The constants of an endpoint. -/
structure Build where
  /-- `A_VERSION`. -/
  version : ℕ
  /-- `MAX_PAYLOAD`. -/
  maxPayload : ℕ
  /-- `get_connection_string()`. -/
  connectionString : Bytes
  /-- `delayed_ack_enabled()`. -/
  delayedAckEnabled : Bool

namespace Build

/-- A transport as the constructor leaves it. -/
def newTransport (b : Build) : ATransport :=
  { ATransport.new .local [] .offline true with maxPayload := b.maxPayload }

/-- `update_version`. -/
def updateVersion (b : Build) (t : ATransport) (version : ℤ) (payload : ℕ) : ATransport :=
  { t with
    protocolVersion := min version b.version
    maxPayload := min payload b.maxPayload }

/-- The packet of `send_connect`. -/
def connectPacket (b : Build) (t : ATransport) : APacket :=
  t.finishPacket
    { msg := { getApacket.msg with
        command := Command.cnxn.word
        arg0 := .ofNat b.version
        arg1 := .ofNat t.maxPayload
        dataLength := .ofNat b.connectionString.length }
      payload := b.connectionString }

/-- What `handle_new_connection` does to the transport, up to where host and device part. -/
def handleNewConnection (b : Build) (t : ATransport) (p : APacket) : ATransport :=
  let t := if t.connectionState = .offline then t
    else { t with connectionState := .offline, online := false, disconnects := [] }
  let t := b.updateVersion t (intOfWord p.msg.arg0) p.msg.arg1.toNat
  { t.parseBannerProps b.delayedAckEnabled p.payload with
    connectionState := ATransport.parseBannerState p.payload }

/-- The limits of a build that can talk to every other. -/
structure Admissible (b : Build) : Prop where
  version_lt : b.version < 2 ^ 31
  le_maxPayload : maxPayloadV1 ≤ b.maxPayload
  maxPayload_lt : b.maxPayload < 2 ^ 32
  length_le : b.connectionString.length ≤ maxPayloadV1

end Build

/-- How far a connection is. -/
inductive HandshakePhase
  /-- The host has sent its CNXN. -/
  | hostSent (p : APacket)
  /-- The device has handled it, and has yet to answer (it may ask for authentication first). -/
  | deviceReady
  /-- The device has sent its own. -/
  | deviceSent (p : APacket)
  /-- Both were handled. -/
  | done
  /-- `check_header` refused a CNXN. -/
  | refused
  deriving DecidableEq, Repr

/-- The host and its devices. -/
structure Negotiation where
  host : ATransport
  devices : ℕ → ATransport
  /-- The device that the host is connected to. -/
  peer : ℕ
  phase : HandshakePhase

/-- A step of the host or of a device. -/
inductive NegotiationAction
  /-- The host connects to a device, the first time or again, and sends its CNXN. The device may
  have a new transport for it. -/
  | connect (d : ℕ) (renew : Bool)
  | deviceHandles
  | deviceAnswers
  | hostHandles
  deriving DecidableEq, Repr

namespace Negotiation

section Def

variable (host : Build) (device : ℕ → Build)

/-- Before the first connection. -/
def initial : Negotiation where
  host := host.newTransport
  devices := fun d => (device d).newTransport
  peer := 0
  phase := .refused

/-- Changes the device that the host is connected to. -/
def setDevice (s : Negotiation) (d : ℕ) (t : ATransport) : Negotiation :=
  { s with devices := fun e => if e = d then t else s.devices e }

/-- One step. -/
def step (s : Negotiation) : NegotiationAction → Option Negotiation
  | .connect d renew =>
    some { s.setDevice d (if renew then (device d).newTransport else s.devices d) with
      peer := d, phase := .hostSent (host.connectPacket s.host) }
  | .deviceHandles =>
    match s.phase with
    | .hostSent p =>
      if (s.devices s.peer).checkHeader p then
        some { s.setDevice s.peer ((device s.peer).handleNewConnection (s.devices s.peer) p) with
          phase := .deviceReady }
      else some { s with phase := .refused }
    | _ => none
  | .deviceAnswers =>
    match s.phase with
    | .deviceReady =>
      some { s with phase := .deviceSent ((device s.peer).connectPacket (s.devices s.peer)) }
    | _ => none
  | .hostHandles =>
    match s.phase with
    | .deviceSent p =>
      if s.host.checkHeader p then
        some { s with host := host.handleNewConnection s.host p, phase := .done }
      else some { s with phase := .refused }
    | _ => none

end Def

/-- What is asked of every state: a CNXN on its way will be accepted, and once both were handled the
ends hold the same, and accept every packet of the other that is as long as the sender may send. -/
structure Agrees (s : Negotiation) : Prop where
  deviceAccepts : ∀ p, s.phase = .hostSent p → (s.devices s.peer).checkHeader p = true
  hostAccepts : ∀ p, s.phase = .deviceSent p → s.host.checkHeader p = true
  version : s.phase = .done → s.host.protocolVersion = (s.devices s.peer).protocolVersion
  payload : s.phase = .done → s.host.maxPayload = (s.devices s.peer).maxPayload
  toDevice : s.phase = .done → ∀ p : APacket, p.msg.dataLength.toNat ≤ s.host.maxPayload →
    (s.devices s.peer).checkHeader (s.host.finishPacket p) = true
  toHost : s.phase = .done → ∀ p : APacket, p.msg.dataLength.toNat ≤ (s.devices s.peer).maxPayload →
    s.host.checkHeader ((s.devices s.peer).finishPacket p) = true

/-- A transport of a build: its `max_payload` is one that a CNXN can carry and a banner fits in. -/
structure InLimits (b : Build) (t : ATransport) : Prop where
  le : maxPayloadV1 ≤ t.maxPayload
  le_limit : t.maxPayload ≤ b.maxPayload

/-- What holds between the steps: every transport is in its limits, and after its first CNXN the
device holds the smaller of the two versions and payloads, which is what it will answer with. -/
structure Inv (host : Build) (device : ℕ → Build) (s : Negotiation) : Prop where
  hostLimits : InLimits host s.host
  deviceLimits : ∀ d, InLimits (device d) (s.devices d)
  sent : ∀ p, s.phase = .hostSent p → p = host.connectPacket s.host
  ready : s.phase = .deviceReady →
    (s.devices s.peer).protocolVersion = min (host.version : ℤ) (device s.peer).version ∧
      (s.devices s.peer).maxPayload ≤ s.host.maxPayload
  answered : ∀ p, s.phase = .deviceSent p →
    p = (device s.peer).connectPacket (s.devices s.peer) ∧
    (s.devices s.peer).protocolVersion = min (host.version : ℤ) (device s.peer).version ∧
      (s.devices s.peer).maxPayload ≤ s.host.maxPayload
  agreed : s.phase = .done → s.host.protocolVersion = (s.devices s.peer).protocolVersion ∧
    s.host.maxPayload = (s.devices s.peer).maxPayload

/-! ## The packets -/

/-- A banner does not change what was agreed on. -/
theorem parseBannerProps_limits (delayedAckEnabled : Bool) (t : ATransport) (banner : Bytes) :
    (t.parseBannerProps delayedAckEnabled banner).protocolVersion = t.protocolVersion ∧
      (t.parseBannerProps delayedAckEnabled banner).maxPayload = t.maxPayload := by
  have hprop : ∀ (t : ATransport) (prop : Bytes),
      ((t.parseBannerProp delayedAckEnabled prop).protocolVersion,
        (t.parseBannerProp delayedAckEnabled prop).maxPayload) =
      (t.protocolVersion, t.maxPayload) := by
    intro t prop
    unfold ATransport.parseBannerProp
    split
    · split_ifs <;> rfl
    · rfl
  unfold ATransport.parseBannerProps
  split
  · exact Prod.mk.inj (foldl_keeps (fun t : ATransport => (t.protocolVersion, t.maxPayload)) hprop _ _)
  · exact ⟨rfl, rfl⟩

/-- `handle_new_connection` takes the smaller version and the smaller payload. -/
theorem handleNewConnection_limits (b : Build) (t : ATransport) (p : APacket) :
    (b.handleNewConnection t p).protocolVersion = min (intOfWord p.msg.arg0) b.version ∧
      (b.handleNewConnection t p).maxPayload = min p.msg.arg1.toNat b.maxPayload :=
  parseBannerProps_limits b.delayedAckEnabled _ p.payload

variable {host : Build} {device : ℕ → Build} {s s' : Negotiation} {b : Build} {t u : ATransport}

/-- A version that is no negative `int` is read as it was sent. -/
theorem connectPacket_version (hb : b.Admissible) :
    intOfWord (b.connectPacket t).msg.arg0 = b.version := by
  have hlt := hb.version_lt
  have harg : (UInt32.ofNat b.version).toNat = b.version := by
    rw [UInt32.toNat_ofNat']
    exact Nat.mod_eq_of_lt (by omega)
  change intOfWord (UInt32.ofNat b.version) = b.version
  unfold intOfWord
  rw [harg]
  exact Int.bmod_eq_of_le (by omega) (by omega)

/-- So is a payload that a word can hold. -/
theorem connectPacket_payload (hb : b.Admissible) (ht : InLimits b t) :
    (b.connectPacket t).msg.arg1.toNat = t.maxPayload := by
  have hlimit := ht.le_limit
  have hlt := hb.maxPayload_lt
  exact (UInt32.toNat_ofNat' ..).trans (Nat.mod_eq_of_lt (by omega))

/-- A CNXN is accepted wherever a banner fits. -/
theorem checkHeader_connectPacket (hb : b.Admissible) (hu : maxPayloadV1 ≤ u.maxPayload) :
    u.checkHeader (b.connectPacket t) = true := by
  rw [Build.connectPacket, ATransport.checkHeader_finishPacket]
  apply decide_eq_true
  calc (UInt32.ofNat b.connectionString.length).toNat
      ≤ b.connectionString.length := by
        rw [UInt32.toNat_ofNat']
        exact Nat.mod_le _ _
    _ ≤ maxPayloadV1 := hb.length_le
    _ ≤ u.maxPayload := hu

/-- A transport that handled the CNXN of another is in its limits. -/
theorem InLimits.handleNewConnection {c : Build} (hb : b.Admissible) (hc : c.Admissible)
    (hu : InLimits c u) : InLimits b (b.handleNewConnection t (c.connectPacket u)) := by
  have hle := hb.le_maxPayload
  have hsent := hu.le
  have hpayload := (handleNewConnection_limits b t (c.connectPacket u)).2
  rw [connectPacket_payload hc hu] at hpayload
  constructor
  · rw [hpayload]
    omega
  · rw [hpayload]
    exact min_le_right _ _

theorem InLimits.newTransport (hb : b.Admissible) : InLimits b b.newTransport :=
  ⟨hb.le_maxPayload, le_rfl⟩

/-! ## The histories -/

section Phases

variable (hhost : InLimits host s.host) (hdevices : ∀ d, InLimits (device d) (s.devices d))

include hhost hdevices

/-- Where a CNXN was refused, only the limits matter. -/
theorem Inv.of_refused (hphase : s.phase = .refused) : Inv host device s := by
  refine ⟨hhost, hdevices, ?_, ?_, ?_, ?_⟩ <;> simp [hphase]

theorem Inv.of_hostSent (hphase : s.phase = .hostSent (host.connectPacket s.host)) :
    Inv host device s := by
  refine ⟨hhost, hdevices, fun p hp => ?_, ?_, ?_, ?_⟩
  · rw [hphase] at hp
    exact (HandshakePhase.hostSent.inj hp).symm
  all_goals simp [hphase]

theorem Inv.of_deviceReady (hphase : s.phase = .deviceReady)
    (hready : (s.devices s.peer).protocolVersion = min (host.version : ℤ) (device s.peer).version ∧
      (s.devices s.peer).maxPayload ≤ s.host.maxPayload) : Inv host device s := by
  refine ⟨hhost, hdevices, ?_, fun _ => hready, ?_, ?_⟩ <;> simp [hphase]

theorem Inv.of_deviceSent
    (hphase : s.phase = .deviceSent ((device s.peer).connectPacket (s.devices s.peer)))
    (hready : (s.devices s.peer).protocolVersion = min (host.version : ℤ) (device s.peer).version ∧
      (s.devices s.peer).maxPayload ≤ s.host.maxPayload) : Inv host device s := by
  refine ⟨hhost, hdevices, ?_, ?_, fun p hp => ?_, ?_⟩
  · simp [hphase]
  · simp [hphase]
  · rw [hphase] at hp
    exact ⟨(HandshakePhase.deviceSent.inj hp).symm, hready⟩
  · simp [hphase]

theorem Inv.of_done (hphase : s.phase = .done)
    (hagreed : s.host.protocolVersion = (s.devices s.peer).protocolVersion ∧
      s.host.maxPayload = (s.devices s.peer).maxPayload) : Inv host device s := by
  refine ⟨hhost, hdevices, ?_, ?_, ?_, fun _ => hagreed⟩ <;> simp [hphase]

end Phases

theorem Inv.initial (hh : host.Admissible) (hd : ∀ d, (device d).Admissible) :
    Inv host device (initial host device) :=
  .of_refused (.newTransport hh) (fun d => .newTransport (hd d)) rfl

@[simp] theorem setDevice_same (s : Negotiation) (d : ℕ) (t : ATransport) :
    (s.setDevice d t).devices d = t := if_pos rfl

/-- The other devices are left as they are. -/
theorem setDevice_limits (hs : ∀ d, InLimits (device d) (s.devices d)) {d : ℕ} {t : ATransport}
    (ht : InLimits (device d) t) (e : ℕ) : InLimits (device e) ((s.setDevice d t).devices e) := by
  simp only [setDevice]
  split
  · rename_i he
    rwa [he]
  · exact hs e

/-- Every step keeps the invariant. -/
theorem Inv.step (hh : host.Admissible) (hd : ∀ d, (device d).Admissible) {a : NegotiationAction}
    (hi : Inv host device s) (hs : s.step host device a = some s') : Inv host device s' := by
  cases a with
  | connect d renew =>
    cases hs
    refine .of_hostSent hi.hostLimits (setDevice_limits hi.deviceLimits ?_) rfl
    split
    · exact .newTransport (hd d)
    · exact hi.deviceLimits d
  | deviceHandles =>
    simp only [Negotiation.step] at hs
    split at hs
    · rename_i p hphase
      have hp := hi.sent p hphase
      split at hs
      · cases hs
        have hlimits := handleNewConnection_limits (device s.peer) (s.devices s.peer) p
        rw [hp, connectPacket_version hh, connectPacket_payload hh hi.hostLimits] at hlimits
        have hsame := setDevice_same s s.peer
          ((device s.peer).handleNewConnection (s.devices s.peer) (host.connectPacket s.host))
        rw [hp]
        refine .of_deviceReady hi.hostLimits (setDevice_limits hi.deviceLimits ?_) rfl ⟨?_, ?_⟩
        · exact .handleNewConnection (hd s.peer) hh hi.hostLimits
        · exact (congrArg ATransport.protocolVersion hsame).trans hlimits.1
        · exact ((congrArg ATransport.maxPayload hsame).trans hlimits.2).trans_le (min_le_left _ _)
      · cases hs
        exact .of_refused hi.hostLimits hi.deviceLimits rfl
    · cases hs
  | deviceAnswers =>
    simp only [Negotiation.step] at hs
    split at hs
    · rename_i hphase
      cases hs
      exact .of_deviceSent hi.hostLimits hi.deviceLimits rfl (hi.ready hphase)
    · cases hs
  | hostHandles =>
    simp only [Negotiation.step] at hs
    split at hs
    · rename_i p hphase
      obtain ⟨hp, hversion, hle⟩ := hi.answered p hphase
      split at hs
      · cases hs
        have hlimits := handleNewConnection_limits host s.host p
        rw [hp, connectPacket_version (hd _), connectPacket_payload (hd _) (hi.deviceLimits _)]
          at hlimits
        -- The device's payload is not more than the host has advertised, so not more than its
        -- limit.
        have hlimit := hi.hostLimits.le_limit
        rw [hp]
        refine .of_done (.handleNewConnection hh (hd _) (hi.deviceLimits _)) hi.deviceLimits rfl ⟨?_, ?_⟩
        · rw [hversion]
          exact hlimits.1.trans (min_comm _ _)
        · exact hlimits.2.trans (min_eq_left (by omega))
      · cases hs
        exact .of_refused hi.hostLimits hi.deviceLimits rfl
    · cases hs

/-- The invariant gives what is asked. -/
theorem Inv.agrees (hh : host.Admissible) (hd : ∀ d, (device d).Admissible)
    (hi : Inv host device s) : Agrees s where
  deviceAccepts := fun p hp => by
    rw [hi.sent p hp]
    exact checkHeader_connectPacket hh (hi.deviceLimits _).le
  hostAccepts := fun p hp => by
    rw [(hi.answered p hp).1]
    exact checkHeader_connectPacket (hd _) hi.hostLimits.le
  version := fun hdone => (hi.agreed hdone).1
  payload := fun hdone => (hi.agreed hdone).2
  toDevice := fun hdone p hp => by
    rw [ATransport.checkHeader_finishPacket]
    exact decide_eq_true (hp.trans_eq (hi.agreed hdone).2)
  toHost := fun hdone p hp => by
    rw [ATransport.checkHeader_finishPacket]
    exact decide_eq_true (hp.trans_eq (hi.agreed hdone).2.symm)

/-- In every history of connections and reconnections, with payload limits that the word of a CNXN
can hold, both CNXN packets are accepted, and once both were handled the ends hold the same version
and the same payload, so that each accepts what the other may send. -/
theorem negotiation_agrees (host : Build) (device : ℕ → Build) (hh : host.Admissible)
    (hd : ∀ d, (device d).Admissible) (as : List NegotiationAction) :
    Throughout (step host device) Agrees (initial host device) as := by
  have hinv : Throughout (step host device) (Inv host device) (initial host device) as :=
    throughout_of_meets (G := fun _ _ => True) (fun s a s' hi _ hs => hi.step hh hd hs)
      (.initial hh hd) (meets_of_forall fun _ _ _ => trivial)
  exact hinv.mono fun s hi => hi.agrees hh hd

/-- An endpoint with the limits of this repository, and the banner of a device. -/
def deviceBuild : Build := ⟨aVersion.toNat, AdbMobile.maxPayload, lit "device::", false⟩

theorem deviceBuild_admissible : deviceBuild.Admissible := by
  constructor <;> decide

/-- Two of these endpoints agree over a reconnection. -/
theorem deviceBuild_agrees : deviceBuild.Admissible ∧
    Throughout (step deviceBuild fun _ => deviceBuild) Agrees
      (initial deviceBuild fun _ => deviceBuild)
      [.connect 0 true, .deviceHandles, .deviceAnswers, .hostHandles, .connect 1 true] :=
  ⟨deviceBuild_admissible,
    negotiation_agrees deviceBuild (fun _ => deviceBuild) deviceBuild_admissible
      (fun _ => deviceBuild_admissible) _⟩

/-- A host with a payload limit of `2^32`. -/
def greatBuild : Build := { deviceBuild with maxPayload := 2 ^ 32 }

/-- Its CNXN carries 0, the device answers with 0, and so at the next connection the host refuses
the device's CNXN. -/
theorem great_limit_refused : ¬ ∀ (host : Build) (device : ℕ → Build),
    (∀ b, b = host ∨ (∃ d, b = device d) →
      b.version < 2 ^ 31 ∧ maxPayloadV1 ≤ b.maxPayload ∧ b.connectionString.length ≤ maxPayloadV1) →
    ∀ as, Throughout (step host device) Agrees (initial host device) as := by
  intro hall
  have hbounds : ∀ b, b = greatBuild ∨ (∃ d : ℕ, b = deviceBuild) →
      b.version < 2 ^ 31 ∧ maxPayloadV1 ≤ b.maxPayload ∧
        b.connectionString.length ≤ maxPayloadV1 := by
    rintro b (rfl | ⟨-, rfl⟩) <;> decide
  have hreach : ∃ s p, run (step greatBuild fun _ => deviceBuild)
      (initial greatBuild fun _ => deviceBuild)
      [.connect 0 true, .deviceHandles, .deviceAnswers, .hostHandles, .connect 0 true,
        .deviceHandles, .deviceAnswers] = some s ∧
      s.phase = .deviceSent p ∧ s.host.checkHeader p = false :=
    ⟨_, _, rfl, rfl, by decide +kernel⟩
  obtain ⟨s, p, hrun, hphase, hrefused⟩ := hreach
  have hagrees := (hall greatBuild (fun _ => deviceBuild) hbounds _).last hrun
  rw [hagrees.hostAccepts p hphase] at hrefused
  cases hrefused

end Negotiation

/-! ## The host of this repository -/

/-- The constants of the host. -/
def Host.build (h : Host) : Build :=
  ⟨aVersion.toNat, AdbMobile.maxPayload, h.connectionString, h.delayedAckEnabled⟩

/-- Its `send_connect` sends the packet of its build. -/
theorem Host.sendConnect_build (h : Host) (t : ℕ) : h.sendConnect t =
    h.checkConnectionString.emit (.sendPacket t (h.build.connectPacket (h.transports t))) := by
  unfold Host.sendConnect checkConnectionString
  split <;> rfl

/-- Its `handle_new_connection` does what the build does, and then the transport is online. -/
theorem Host.handleNewConnection_build (h : Host) (t : ℕ) (p : APacket) :
    (h.handleNewConnection t p).transports t =
      { h.build.handleNewConnection (h.transports t) p with
        online := true }.setConnectionEstablished true := by
  have hoffline := handleOffline_transports_same h t
  have hack := handleOffline_delayedAckEnabled h t
  rw [Host.handleNewConnection, handleOnline, modifyTransport_same, parseBanner_transports_same,
    modifyTransport_same, hoffline]
  change _ = ATransport.setConnectionEstablished _ _
  rw [Build.handleNewConnection, Host.build, ← hack]
  rfl

end AdbMobile
