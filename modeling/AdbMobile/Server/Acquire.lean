import Mathlib.Data.List.Basic
import AdbMobile.Server.Host

/-!
# Acquiring a transport

A client selects a device by the id of its transport, by a serial or another name that the device
matches, or by the kind of its connection. `acquire_one_transport` goes through `transport_list` and
keeps what matches. It breaks off at the second match, and at the first one of an id. The text of
the error is overwritten on the way.

What it returns is what the transports that match are, taken together: none of them, one, or several
(`acquireOneTransport_eq`). So the order of the list has no part in it.
-/

namespace AdbMobile

open ByteString

/-- What an `atransport` has for those who look for it in `transport_list`. -/
structure ListedTransport extends ATransport where
  address : ℕ
  id : UInt64
  devpath : Bytes

/-- A selection: the arguments of `acquire_one_transport`. -/
structure TransportSelection where
  type : TransportType
  serial : Option Bytes
  /-- Zero where no id is given. -/
  id : UInt64
  deriving DecidableEq, Repr

/-- What is outside the repository: two texts, the environment, and the parser of addresses. -/
structure AcquireEnv where
  /-- `UsbNoPermissionsLongHelpText`. -/
  noPermissionsHelp : Bytes
  /-- `getenv("ADB_VENDOR_KEYS")`. -/
  vendorKeys : Option Bytes
  /-- `android::base::ParseNetAddress`: the host, and the port or else the one given. -/
  parseNetAddress : Bytes → ℤ → Option (Bytes × ℤ)

/-! ## Matching -/

/-- `isalnum`. -/
def isAlnum (c : UInt8) : Bool :=
  (48 ≤ c && c ≤ 57) || (65 ≤ c && c ≤ 90) || (97 ≤ c && c ≤ 122)

/-- `qual_match`. The pointer goes over `toTest` and the NUL behind it, and no further. -/
def qualMatch (toTest pfx qual : Bytes) (sanitizeQual : Bool) : Bool :=
  if toTest = [] then qual = []
  else if qual = [] then false
  else
    let qual := if sanitizeQual then qual.map fun c => if isAlnum c then c else 95 else qual
    match consumePrefix (toTest ++ [0]) (pfx ++ qual) with
    | some rest => rest.head? = some 0
    | none => false

namespace ListedTransport

variable (env : AcquireEnv)

/-- The part of `MatchesTarget` for local transports: `[tcp:|udp:]<hostname>[:port]`. -/
def matchesAddress (t : ListedTransport) (target : Bytes) : Bool :=
  let localTarget :=
    if lit "tcp:" <+: target ∨ lit "udp:" <+: target then target.drop 4 else target
  match env.parseNetAddress t.serial (-1) with
  | none => false
  | some (serialHost, serialPort) =>
    -- The target may omit the port.
    match env.parseNetAddress localTarget serialPort with
    | none => false
    | some (targetHost, targetPort) => serialHost = targetHost ∧ serialPort = targetPort

/-- `MatchesTarget`. -/
def matchesTarget (t : ListedTransport) (target : Bytes) : Bool :=
  if t.serial ≠ [] ∧ (target = t.serial ∨ t.type = .local ∧ t.matchesAddress env target) then true
  else
    target = t.devpath || qualMatch target (lit "product:") t.product false ||
      qualMatch target (lit "model:") t.model true ||
      qualMatch target (lit "device:") t.device false

end ListedTransport

/-! ## The loop -/

/-- The error before the list is looked at. -/
def TransportSelection.notFound (sel : TransportSelection) : Bytes :=
  if sel.id ≠ 0 then lit "no device with transport id '" ++ decimal sel.id.toNat ++ lit "'"
  else
    match sel.serial with
    | some serial => lit "device '" ++ serial ++ lit "' not found"
    | none =>
      if sel.type = .local then lit "no emulators found"
      else if sel.type = .any then lit "no devices/emulators found"
      else lit "no devices found"

/-- The variables of the loop: `result`, `*error_out`, and whether `*is_ambiguous` was set. -/
structure AcquireLoop where
  result : Option ListedTransport
  error : Bytes
  ambiguous : Bool

section Acquire

variable (env : AcquireEnv) (sel : TransportSelection)

/-- `acquire_one_transport` from some transport of the list on. -/
def acquireLoop (result : Option ListedTransport) (error : Bytes) :
    List ListedTransport → AcquireLoop
  | [] => ⟨result, error, false⟩
  | t :: ts =>
    if t.connectionState = .noPerm then acquireLoop result env.noPermissionsHelp ts
    else if sel.id ≠ 0 then
      if t.id = sel.id then ⟨some t, error, false⟩ else acquireLoop result error ts
    else
      match sel.serial with
      | some serial =>
        if t.matchesTarget env serial then
          if result.isSome then ⟨none, lit "more than one device with serial " ++ serial, true⟩
          else acquireLoop (some t) error ts
        else acquireLoop result error ts
      | none =>
        if sel.type = .usb ∧ t.type = .usb then
          if result.isSome then ⟨none, lit "more than one USB device", true⟩
          else acquireLoop (some t) error ts
        else if sel.type = .local ∧ t.type = .local then
          if result.isSome then ⟨none, lit "more than one emulator", true⟩
          else acquireLoop (some t) error ts
        else if sel.type = .any then
          if result.isSome then ⟨none, lit "more than one device/emulator", true⟩
          else acquireLoop (some t) error ts
        else acquireLoop result error ts

/-- The error for a state that a caller who needs an active transport does not accept. -/
def stateError : ConnectionState → Option Bytes
  | .connecting => some (lit "device still connecting")
  | .authorizing => some (lit "device still authorizing")
  | .unauthorized => some (lit "device unauthorized.\n" ++ lit "This adb server's $ADB_VENDOR_KEYS is " ++
      env.vendorKeys.getD (lit "not set") ++ lit "\n" ++
      lit "Try 'adb kill-server' if that seems wrong.\n" ++
      lit "Otherwise check for a confirmation dialog on your device.")
  | .offline => some (lit "device offline")
  | _ => none

/-- What `acquire_one_transport` leaves to its caller. -/
structure Acquired where
  transport : Option ListedTransport
  error : Bytes
  ambiguous : Bool

/-- The end of `acquire_one_transport`. -/
def AcquireLoop.finish (acceptAnyState : Bool) (l : AcquireLoop) : Acquired :=
  match l.result with
  | none => ⟨none, l.error, l.ambiguous⟩
  | some t =>
    match if acceptAnyState then none else stateError env t.connectionState with
    | some error => ⟨none, error, l.ambiguous⟩
    | none => ⟨some t, lit "success", l.ambiguous⟩

/-- `acquire_one_transport`. -/
def acquireOneTransport (list : List ListedTransport) (acceptAnyState : Bool) : Acquired :=
  (acquireLoop env sel none sel.notFound list).finish env acceptAnyState

end Acquire

/-! ## Candidates -/

/-- What is found of a kind: nothing, one thing, or more. -/
inductive Found (α : Type)
  | none
  | one (a : α)
  | several
  deriving DecidableEq, Repr

/-- What a list has. -/
def Found.of {α : Type} : List α → Found α
  | [] => .none
  | [a] => .one a
  | _ :: _ :: _ => .several

namespace Found

variable {α : Type} {l l' : List α}

theorem of_eq_none_iff : of l = .none ↔ l = [] := by
  rcases l with _ | ⟨a, _ | ⟨b, l⟩⟩ <;> simp [of]

theorem of_eq_one_iff {a : α} : of l = .one a ↔ l = [a] := by
  rcases l with _ | ⟨b, _ | ⟨c, l⟩⟩ <;> simp [of]

theorem of_eq_several_iff : of l = .several ↔ 2 ≤ l.length := by
  rcases l with _ | ⟨a, _ | ⟨b, l⟩⟩ <;> simp [of]

/-- The order makes no difference. -/
theorem of_perm (h : l.Perm l') : of l = of l' := by
  cases hl : of l with
  | none =>
    rw [of_eq_none_iff] at hl
    subst hl
    rw [h.symm.eq_nil, of]
  | one a =>
    rw [of_eq_one_iff] at hl
    subst hl
    rw [List.perm_singleton.mp h.symm, of]
  | several =>
    rw [of_eq_several_iff, h.length_eq] at hl
    exact (of_eq_several_iff.mpr hl).symm

end Found

/-- The connections that a type stands for: `kTransportAny` for all, and `kTransportHost` for
none. -/
def TransportType.selects : TransportType → TransportType → Bool
  | .usb, type => type = .usb
  | .local, type => type = .local
  | .any, _ => true
  | .host, _ => false

namespace TransportSelection

variable (env : AcquireEnv) (sel : TransportSelection)

/-- The transport matches: by its id if one is given, else by a name if one is given, else by its
type. -/
def names (t : ListedTransport) : Bool :=
  if sel.id ≠ 0 then t.id = sel.id
  else
    match sel.serial with
    | some serial => t.matchesTarget env serial
    | none => sel.type.selects t.type

/-- The transports that match and are accessible. -/
def candidates (list : List ListedTransport) : List ListedTransport :=
  list.filter fun t => t.connectionState ≠ .noPerm ∧ sel.names env t

/-- The error for several candidates. -/
def several : Bytes :=
  match sel.serial with
  | some serial => lit "more than one device with serial " ++ serial
  | none =>
    if sel.type = .usb then lit "more than one USB device"
    else if sel.type = .local then lit "more than one emulator"
    else lit "more than one device/emulator"

end TransportSelection

section Loop

variable {env : AcquireEnv} {sel : TransportSelection} {t : ListedTransport} {ts : List ListedTransport}

/-- Where no id is given, a step of the loop, whichever way the transports are matched. -/
theorem acquireLoop_cons (hid : sel.id = 0) (result : Option ListedTransport) (error : Bytes) :
    acquireLoop env sel result error (t :: ts) =
      if t.connectionState = .noPerm then acquireLoop env sel result env.noPermissionsHelp ts
      else if sel.names env t then
        if result.isSome then ⟨none, sel.several, true⟩ else acquireLoop env sel (some t) error ts
      else acquireLoop env sel result error ts := by
  rw [acquireLoop, TransportSelection.names, TransportSelection.several, if_neg (not_not.mpr hid)]
  -- The loop has a branch for each of the three types, which say the same.
  cases hserial : sel.serial with
  | some serial => simp [hid]
  | none => cases htype : sel.type <;> simp [hid, TransportType.selects]

/-- How the loop ends, for what is found in the list and with what was found before. -/
inductive LoopEnds (env : AcquireEnv) (sel : TransportSelection) (inaccessible : Bool) (error : Bytes) :
    Found ListedTransport → AcquireLoop → Prop
  | none : LoopEnds env sel inaccessible error .none
      ⟨none, if inaccessible then env.noPermissionsHelp else error, false⟩
  | one (t : ListedTransport) (e : Bytes) :
      LoopEnds env sel inaccessible error (.one t) ⟨some t, e, false⟩
  | several : LoopEnds env sel inaccessible error .several ⟨none, sel.several, true⟩

/-- Some transport of the list is inaccessible. -/
def anyNoPerm (list : List ListedTransport) : Bool :=
  list.any fun t => t.connectionState = .noPerm

/-- Past an inaccessible transport the error is the help text. -/
theorem LoopEnds.help {inaccessible : Bool} {found : Found ListedTransport} {l : AcquireLoop}
    (h : LoopEnds env sel inaccessible env.noPermissionsHelp found l) (error : Bytes) :
    LoopEnds env sel true error found l := by
  cases h with
  | none =>
    rw [ite_self]
    exact .none
  | one t e => exact .one t e
  | several => exact .several

/-- The loop finds what there is, where no id is given. -/
theorem acquireLoop_ends (hid : sel.id = 0) (result : Option ListedTransport) (error : Bytes) :
    LoopEnds env sel (anyNoPerm ts) error (.of (result.toList ++ sel.candidates env ts))
      (acquireLoop env sel result error ts) := by
  induction ts generalizing result error with
  | nil =>
    cases result with
    | none => exact .none
    | some t => exact .one t error
  | cons t ts ih =>
    rw [acquireLoop_cons hid]
    by_cases hstate : t.connectionState = .noPerm
    · -- The help text stands until something else is found.
      have hcandidates : sel.candidates env (t :: ts) = sel.candidates env ts := by
        simp [TransportSelection.candidates, hstate]
      have hany : anyNoPerm (t :: ts) = true := by simp [anyNoPerm, hstate]
      rw [if_pos hstate, hcandidates, hany]
      exact (ih result env.noPermissionsHelp).help error
    · have hany : anyNoPerm (t :: ts) = anyNoPerm ts := by simp [anyNoPerm, hstate]
      rw [if_neg hstate, hany]
      -- A second candidate ends the loop.
      by_cases hnames : sel.names env t = true
      · have hcandidates : sel.candidates env (t :: ts) = t :: sel.candidates env ts := by
          simp [TransportSelection.candidates, hstate, hnames]
        rw [if_pos hnames, hcandidates]
        cases result with
        | none => exact ih (some t) error
        | some u => exact .several
      · have hcandidates : sel.candidates env (t :: ts) = sel.candidates env ts := by
          simp [TransportSelection.candidates, hnames]
        rw [if_neg hnames, hcandidates]
        exact ih result error

/-- The loop finds the transport of an id, if the ids are distinct. -/
theorem acquireLoop_ends_of_id (hid : sel.id ≠ 0) (hids : (ts.map ListedTransport.id).Nodup)
    (error : Bytes) : LoopEnds env sel (anyNoPerm ts) error (.of (sel.candidates env ts))
      (acquireLoop env sel none error ts) := by
  induction ts generalizing error with
  | nil => exact .none
  | cons t ts ih =>
    obtain ⟨hfirst, hrest⟩ := List.nodup_cons.mp hids
    have hnames : ∀ u : ListedTransport, sel.names env u = decide (u.id = sel.id) := fun u => by
      rw [TransportSelection.names, if_pos hid]
    rw [acquireLoop]
    by_cases hstate : t.connectionState = .noPerm
    · have hcandidates : sel.candidates env (t :: ts) = sel.candidates env ts := by
        simp [TransportSelection.candidates, hstate]
      have hany : anyNoPerm (t :: ts) = true := by simp [anyNoPerm, hstate]
      rw [if_pos hstate, hcandidates, hany]
      exact (ih hrest env.noPermissionsHelp).help error
    · rw [if_neg hstate, if_pos hid]
      by_cases heq : t.id = sel.id
      · -- No other transport has the id.
        have hnone : sel.candidates env ts = [] := by
          refine List.filter_eq_nil_iff.mpr fun u hu hcandidate => hfirst ?_
          simp only [hnames, decide_eq_true_eq] at hcandidate
          rw [heq, ← hcandidate.2]
          exact List.mem_map_of_mem hu
        have hcandidates : sel.candidates env (t :: ts) = [t] := by
          rw [← hnone]
          simp [TransportSelection.candidates, hstate, hnames, heq]
        rw [if_pos heq, hcandidates]
        exact .one t error
      · have hany : anyNoPerm (t :: ts) = anyNoPerm ts := by simp [anyNoPerm, hstate]
        have hcandidates : sel.candidates env (t :: ts) = sel.candidates env ts := by
          simp [TransportSelection.candidates, hnames, heq]
        rw [if_neg heq, hany, hcandidates]
        exact ih hrest error

/-- What is returned for what is found: a transport that is found alone is returned, if its state is
accepted. -/
def acquiredOf (env : AcquireEnv) (sel : TransportSelection) (acceptAnyState inaccessible : Bool) :
    Found ListedTransport → Acquired
  | .none => ⟨none, if inaccessible then env.noPermissionsHelp else sel.notFound, false⟩
  | .one t => (AcquireLoop.mk (some t) [] false).finish env acceptAnyState
  | .several => ⟨none, sel.several, true⟩

variable (env sel) in
/-- `acquire_one_transport` depends on the candidates, and on whether some transport is
inaccessible. -/
theorem acquireOneTransport_eq (hids : (ts.map ListedTransport.id).Nodup) (acceptAnyState : Bool) :
    acquireOneTransport env sel ts acceptAnyState =
      acquiredOf env sel acceptAnyState (anyNoPerm ts) (.of (sel.candidates env ts)) := by
  have hends : LoopEnds env sel (anyNoPerm ts) sel.notFound (.of (sel.candidates env ts))
      (acquireLoop env sel none sel.notFound ts) := by
    by_cases hid : sel.id = 0
    · exact acquireLoop_ends hid none sel.notFound
    · exact acquireLoop_ends_of_id hid hids sel.notFound
  rw [acquireOneTransport]
  -- What is returned depends on how the loop has ended, and on nothing else of the list.
  generalize Found.of (sel.candidates env ts) = found at hends ⊢
  generalize acquireLoop env sel none sel.notFound ts = l at hends ⊢
  cases hends with
  | none => rfl
  | one t e => rfl
  | several => rfl

end Loop

/-! ## What is acquired -/

section Acquired

variable {env : AcquireEnv} {sel : TransportSelection} {acceptAnyState : Bool} {list : List ListedTransport}

/-- The states that `acquire_one_transport` turns down. -/
def ConnectionState.Inactive (state : ConnectionState) : Prop :=
  state = .connecting ∨ state = .authorizing ∨ state = .unauthorized ∨ state = .offline

theorem stateError_eq_none_iff {state : ConnectionState} :
    stateError env state = none ↔ ¬ state.Inactive := by
  cases state <;> simp [stateError, ConnectionState.Inactive]

/-- A text that begins with another letter than `success` is neither that nor empty. -/
theorem ne_of_head {text : Bytes} (h : ∃ b, text.head? = some b ∧ b ≠ 115) :
    text ≠ [] ∧ text ≠ lit "success" := by
  obtain ⟨b, hhead, hb⟩ := h
  constructor
  · rintro rfl
    cases hhead
  · rintro rfl
    exact hb (Option.some.inj hhead).symm

/-- The errors for a state, for what is not found, and for what is found more than once begin
so. -/
theorem head_stateError {state : ConnectionState} {error : Bytes}
    (h : stateError env state = some error) : ∃ b, error.head? = some b ∧ b ≠ 115 := by
  refine ⟨100, ?_, by decide⟩
  cases state <;> cases h <;> simp [lit]

theorem head_notFound (sel : TransportSelection) :
    ∃ b, sel.notFound.head? = some b ∧ b ≠ 115 := by
  unfold TransportSelection.notFound
  split
  · exact ⟨110, by simp [lit], by decide⟩
  · split
    · exact ⟨100, by simp [lit], by decide⟩
    · exact ⟨110, by split_ifs <;> simp [lit], by decide⟩

theorem head_several (sel : TransportSelection) : ∃ b, sel.several.head? = some b ∧ b ≠ 115 := by
  unfold TransportSelection.several
  refine ⟨109, ?_, by decide⟩
  split
  · simp [lit]
  · split_ifs <;> simp [lit]

/-- A transport that is found alone is returned as a success, if its state is accepted. -/
theorem acquiredOf_one (inaccessible : Bool) {t : ListedTransport}
    (haccepted : acceptAnyState = true ∨ ¬ t.connectionState.Inactive) :
    acquiredOf env sel acceptAnyState inaccessible (.one t) = ⟨some t, lit "success", false⟩ := by
  have hnone : (if acceptAnyState then none else stateError env t.connectionState) = none := by
    split
    · rfl
    · exact stateError_eq_none_iff.mpr (haccepted.resolve_left (by assumption))
  simp only [acquiredOf, AcquireLoop.finish, hnone]

variable (env sel) in
/-- And if its state is not accepted, there is an error. -/
theorem acquiredOf_one_inactive (inaccessible : Bool) {t : ListedTransport}
    (haccept : acceptAnyState = false) (hinactive : t.connectionState.Inactive) :
    ∃ error, error ≠ lit "success" ∧
      acquiredOf env sel acceptAnyState inaccessible (.one t) = ⟨none, error, false⟩ := by
  obtain ⟨error, herror⟩ : ∃ error, stateError env t.connectionState = some error :=
    Option.ne_none_iff_exists'.mp fun hnone => stateError_eq_none_iff.mp hnone hinactive
  refine ⟨error, (ne_of_head (head_stateError herror)).2, ?_⟩
  simp [acquiredOf, AcquireLoop.finish, haccept, herror]

variable (sel acceptAnyState) in
/-- What is returned for what is found, where the help text is one of an error. -/
theorem acquiredOf_spec (hhelp : env.noPermissionsHelp ≠ lit "success") (inaccessible : Bool)
    (found : Found ListedTransport) :
    (∀ t, (acquiredOf env sel acceptAnyState inaccessible found).transport = some t ↔
      found = .one t ∧ (acceptAnyState = true ∨ ¬ t.connectionState.Inactive)) ∧
    ((acquiredOf env sel acceptAnyState inaccessible found).error = lit "success" ↔
      (acquiredOf env sel acceptAnyState inaccessible found).transport.isSome) ∧
    ((acquiredOf env sel acceptAnyState inaccessible found).ambiguous = true ↔
      found = .several) := by
  cases found with
  | none =>
    have herror : (if inaccessible = true then env.noPermissionsHelp else sel.notFound) ≠
        lit "success" := by
      split
      · exact hhelp
      · exact (ne_of_head (head_notFound sel)).2
    simpa [acquiredOf] using herror
  | several => simpa [acquiredOf] using (ne_of_head (head_several sel)).2
  | one t =>
    by_cases haccepted : acceptAnyState = true ∨ ¬ t.connectionState.Inactive
    · rw [acquiredOf_one inaccessible haccepted]
      refine ⟨fun u => ⟨fun h => ?_, fun h => ?_⟩, by simp, by simp⟩
      · cases h
        exact ⟨rfl, haccepted⟩
      · cases h.1
        rfl
    · obtain ⟨haccept, hinactive⟩ := not_or.mp haccepted
      obtain ⟨error, herror, heq⟩ := acquiredOf_one_inactive env sel inaccessible
        (by simpa using haccept) (not_not.mp hinactive)
      rw [heq]
      refine ⟨fun u => ⟨fun h => ?_, fun h => ?_⟩, by simpa using herror, by simp⟩
      · cases h
      · cases h.1
        exact absurd h.2 haccepted

/-- `acquire_one_transport` returns the transport that is the only candidate, if its state is
accepted; it says that it is a success exactly where it returns one, and that the selection is
ambiguous exactly where there are several candidates; and the order of the list makes no
difference. -/
theorem acquireOneTransport_exact (hids : (list.map ListedTransport.id).Nodup)
    (hhelp : env.noPermissionsHelp ≠ lit "success") (sel : TransportSelection) (acceptAnyState : Bool) :
    (∀ t, (acquireOneTransport env sel list acceptAnyState).transport = some t ↔
      sel.candidates env list = [t] ∧
        (acceptAnyState = true ∨ ¬ t.connectionState.Inactive)) ∧
    ((acquireOneTransport env sel list acceptAnyState).error = lit "success" ↔
      (acquireOneTransport env sel list acceptAnyState).transport.isSome) ∧
    ((acquireOneTransport env sel list acceptAnyState).ambiguous = true ↔
      2 ≤ (sel.candidates env list).length) ∧
    ∀ list' : List ListedTransport, list'.Perm list →
      acquireOneTransport env sel list' acceptAnyState =
        acquireOneTransport env sel list acceptAnyState := by
  have heq := acquireOneTransport_eq env sel hids acceptAnyState
  obtain ⟨htransport, herror, hambiguous⟩ :=
    acquiredOf_spec sel acceptAnyState hhelp (anyNoPerm list) (.of (sel.candidates env list))
  refine ⟨fun t => ?_, ?_, ?_, fun list' hperm => ?_⟩
  · rw [heq, htransport, Found.of_eq_one_iff]
  · rw [heq]
    exact herror
  · rw [heq, hambiguous, Found.of_eq_several_iff]
  · have hids' : (list'.map ListedTransport.id).Nodup := (hperm.map _).nodup_iff.mpr hids
    have hfound : Found.of (sel.candidates env list') = .of (sel.candidates env list) :=
      Found.of_perm (hperm.filter _)
    have hany : anyNoPerm list' = anyNoPerm list := hperm.any_eq
    rw [heq, acquireOneTransport_eq env sel hids', hfound, hany]

/-- The loop leaves an error that was there before, or one of its own. -/
theorem acquireLoop_error {P : Bytes → Prop} (hhelp : P env.noPermissionsHelp)
    (hseveral : P sel.several) (ts : List ListedTransport) :
    ∀ (result : Option ListedTransport) (error : Bytes), P error →
      P (acquireLoop env sel result error ts).error := by
  induction ts with
  | nil => exact fun _ _ herror => herror
  | cons t ts ih =>
    intro result error herror
    by_cases hid : sel.id = 0
    · rw [acquireLoop_cons hid]
      split_ifs
      · exact ih result _ hhelp
      · exact hseveral
      · exact ih _ error herror
      · exact ih result error herror
    · rw [acquireLoop, if_pos hid]
      split_ifs
      · exact ih result _ hhelp
      · exact herror
      · exact ih result error herror

/-- No error is empty, if the help text is not. -/
theorem acquireOneTransport_error_ne_nil (hhelp : env.noPermissionsHelp ≠ [])
    (sel : TransportSelection) (list : List ListedTransport) (acceptAnyState : Bool) :
    (acquireOneTransport env sel list acceptAnyState).error ≠ [] := by
  have hnotFound := (ne_of_head (head_notFound sel)).1
  have hseveral := (ne_of_head (head_several sel)).1
  have hloop := acquireLoop_error (P := fun e => e ≠ []) hhelp hseveral list none _ hnotFound
  rw [acquireOneTransport]
  generalize acquireLoop env sel none sel.notFound list = l at hloop ⊢
  unfold AcquireLoop.finish
  split
  · exact hloop
  · rename_i t _
    split
    · rename_i error herror
      have hstate : stateError env t.connectionState = some error := by
        cases acceptAnyState with
        | true => cases herror
        | false => exact herror
      exact (ne_of_head (head_stateError hstate)).1
    · simp [lit]

/-- The transport of an id has the id. -/
theorem acquireOneTransport_id {t : ListedTransport} (hid : sel.id ≠ 0)
    (ht : (acquireOneTransport env sel list acceptAnyState).transport = some t) : t.id = sel.id := by
  have hloop : ∀ (ts : List ListedTransport) (error : Bytes) (t : ListedTransport),
      (acquireLoop env sel none error ts).result = some t → t.id = sel.id := by
    intro ts
    induction ts with
    | nil => exact fun _ _ h => nomatch h
    | cons u ts ih =>
      intro error t h
      rw [acquireLoop, if_pos hid] at h
      split_ifs at h with hstate hu
      · exact ih _ t h
      · exact Option.some.inj h ▸ hu
      · exact ih error t h
  refine hloop list sel.notFound t ?_
  rw [acquireOneTransport] at ht
  generalize acquireLoop env sel none sel.notFound list = l at ht ⊢
  unfold AcquireLoop.finish at ht
  split at ht
  · cases ht
  · rename_i u hu
    split at ht
    · cases ht
    · rw [hu, ← ht]

/-- The two texts as on a computer without `ADB_VENDOR_KEYS`, and serials that are no addresses. -/
def AcquireEnv.plain : AcquireEnv where
  noPermissionsHelp := lit "insufficient permissions for device"
  vendorKeys := none
  parseNetAddress _ _ := none

/-- A transport as it is listed, without a bus address. -/
def ListedTransport.listed (type : TransportType) (address : ℕ) (id : UInt64) (serial : Bytes)
    (state : ConnectionState) : ListedTransport :=
  { ATransport.new type serial state false with address := address, id := id, devpath := [] }

/-- A phone that may not be opened. -/
def ListedTransport.phone : ListedTransport := .listed .usb 1 7 (lit "0123") .noPerm

/-- An emulator that is up. -/
def ListedTransport.emulator : ListedTransport :=
  .listed .local 2 8 (lit "emulator-5554") .device

/-- Of an inaccessible phone and an emulator, `adb` without a selection takes the emulator, in
either order. -/
theorem acquires_only_emulator :
    (acquireOneTransport .plain ⟨.any, none, 0⟩ [.phone, .emulator] false).transport =
      some .emulator ∧
    acquireOneTransport .plain ⟨.any, none, 0⟩ [.emulator, .phone] false =
      acquireOneTransport .plain ⟨.any, none, 0⟩ [.phone, .emulator] false := by
  have hexact := @acquireOneTransport_exact .plain [.phone, .emulator]
    (by decide) (by simp [AcquireEnv.plain, lit]) ⟨.any, none, 0⟩ false
  have hactive : ¬ ListedTransport.emulator.connectionState.Inactive := by
    simp [ConnectionState.Inactive, ListedTransport.emulator, ListedTransport.listed,
      ATransport.new]
  exact ⟨(hexact.1 .emulator).mpr ⟨rfl, .inr hactive⟩, hexact.2.2.2 _ (.swap ..)⟩

end Acquired

end AdbMobile
