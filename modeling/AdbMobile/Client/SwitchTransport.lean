import AdbMobile.Lib.Stream
import AdbMobile.Client.AdbClient
import AdbMobile.Server.HostReplies

/-!
# Selecting a device over a connection

Before a command asks for a service of a device, `switch_socket_transport` has the server select the
device. The selection goes over the connection as a service of the server, in one of three forms,
and the server answers each with a status. Behind the status comes the id of the transport, except
for a selection by id, which is an older service. Neither side says which form it means: the client
reads the id or does not, by its own selection.

Here the client reads bytes, so that it shows what it leaves on the connection. Every selection gets
to `acquire_one_transport` as it is, and the client reads what the server wrote and no more
(`selection_survives`).
-/

namespace AdbMobile

open ByteString Stream

/-! ## Bytes on the connection -/

/-- The bytes of a `TransportId` in memory, lowest first. -/
def idBytes (id : UInt64) : Bytes := wordBytes id.toUInt32 ++ wordBytes (id >>> 32).toUInt32

/-- The `TransportId` of bytes in memory. -/
def idOfBytes (b : Bytes) : ℕ := b.foldr (fun byte n => byte.toNat + 256 * n) 0

/-- A transport id is read as it was stored. -/
theorem idOfBytes_idBytes (id : UInt64) : idOfBytes (idBytes id) = id.toNat := by
  have hlt : id.toNat < 2 ^ 64 := id.toNat_lt
  simp only [idOfBytes, idBytes, wordBytes, List.cons_append, List.nil_append, List.foldr_cons,
    List.foldr_nil, UInt32.toNat_toUInt8, UInt32.toNat_shiftRight, UInt64.toNat_toUInt32,
    UInt64.toNat_shiftRight, UInt32.reduceToNat, UInt64.reduceToNat, Nat.shiftRight_eq_div_pow,
    Nat.reduceMod, Nat.reducePow]
  omega

/-- The bytes of an event on `reply_fd`. What `SendProtocolString` writes is not in this
repository. -/
def HostRequestEvent.bytes (protocolString : Bytes → Bytes) : HostRequestEvent → Bytes
  | .reply .okay => lit "OKAY"
  | .reply (.fail message) => lit "FAIL" ++ protocolString message
  | .reply (.protocolString s) => protocolString s
  | .transportId id => idBytes id
  | _ => []

namespace HostRequest

/-- The calls of `acquire_one_transport` in a request. -/
def acquisitions (t : List HostRequestEvent) : List (TransportSelection × Bool) :=
  t.filterMap fun
    | .acquires sel acceptAnyState => some (sel, acceptAnyState)
    | _ => none

end HostRequest

namespace Client

section Switch

variable (perrorStr : Bytes → Bytes) (readString : Bytes → Except Bytes Bytes × Bytes)

/-- `adb_status` on bytes, and what it leaves of them. -/
def adbStatusBytes (input : Bytes) : Except Bytes Unit × Bytes :=
  match readExactly 4 input with
  | none => (.error (perrorStr (lit "protocol fault (couldn't read status)")), [])
  | some (buf, rest) =>
    if buf = lit "OKAY" then (.ok (), rest)
    else if buf ≠ lit "FAIL" then
      (.error (lit "protocol fault (status " ++ join 32 (buf.map hexOfChar) ++ lit "?!)"), rest)
    else
      match readString rest with
      | (.ok s, rest) | (.error s, rest) => (.error s, rest)

/-- `switch_socket_transport` on the bytes that come once the service is sent, and what it leaves of
them. -/
def switchOnBytes (w : Wire) (input : Bytes) : Except Bytes ℕ × Bytes :=
  match switchService w with
  | none => (.ok 0, input)
  | some _ =>
    match adbStatusBytes perrorStr readString input with
    | (.error e, rest) => (.error e, rest)
    | (.ok (), rest) =>
      if w.transportId ≠ 0 then (.ok w.transportId, rest)
      else
        match readExactly 8 rest with
        | none => (.error (lit "failed to read transport id from server"), [])
        | some (id, rest) => (.ok (idOfBytes id), rest)

/-- The connection answers a switch as the bytes do. -/
structure Connection.Answers (fd : Connection) (input : Bytes) : Prop where
  sent : fd.switchSent = true
  status : fd.statuses.head? = some ((readExactly 4 input).map Prod.fst)
  string : ∀ buf rest, readExactly 4 input = some (buf, rest) →
    fd.strings.head? = some (readString rest).1
  id : fd.transportId =
    ((readExactly 4 input).bind fun r => readExactly 8 r.2).map fun r => idOfBytes r.1

/-- A status that is read from the bytes is read from the connection. -/
theorem adbStatus_of_answers (env : ClientEnv) {fd : Connection} {input : Bytes}
    (h : fd.Answers readString input) :
    (adbStatus env fd).1 = (adbStatusBytes env.perrorStr readString input).1 ∧
      (adbStatus env fd).2.transportId = fd.transportId := by
  obtain ⟨statuses, hstatuses⟩ : ∃ statuses, fd.statuses =
      (readExactly 4 input).map Prod.fst :: statuses := List.head?_eq_some_iff.mp h.status
  rw [adbStatus, adbStatusBytes, hstatuses]
  cases hread : readExactly 4 input with
  | none => exact ⟨rfl, rfl⟩
  | some r =>
    obtain ⟨buf, rest⟩ := r
    obtain ⟨strings, hstrings⟩ : ∃ strings, fd.strings = (readString rest).1 :: strings :=
      List.head?_eq_some_iff.mp (h.string buf rest hread)
    simp only [Option.map_some, readProtocolString, hstrings]
    split_ifs
    · exact ⟨rfl, rfl⟩
    · exact ⟨rfl, rfl⟩
    · generalize readString rest = r
      obtain ⟨error | string, left⟩ := r <;> exact ⟨rfl, rfl⟩

/-- A status that is a success leaves what comes behind it. -/
theorem adbStatusBytes_okay {input rest : Bytes}
    (h : adbStatusBytes perrorStr readString input = (.ok (), rest)) :
    (readExactly 4 input).map Prod.snd = some rest := by
  unfold adbStatusBytes at h
  cases hread : readExactly 4 input with
  | none => rw [hread] at h; cases h
  | some r =>
    rw [hread] at h
    simp only at h
    split_ifs at h
    · cases h
      rfl
    · cases h
    · rcases hs : readString r.2 with ⟨error | string, left⟩ <;> rw [hs] at h <;> cases h

/-- The connections of commands and the bytes agree on what the switch returns. -/
theorem switchSocketTransport_of_answers (env : ClientEnv) {fd : Connection} {input : Bytes}
    (h : fd.Answers readString input) (w : Wire) :
    ∃ r, (switchSocketTransport env fd w).result = .ok r ∧
      r.map Prod.fst = (switchOnBytes env.perrorStr readString w input).1 := by
  obtain ⟨hstatus, hid⟩ := adbStatus_of_answers readString env h
  rw [switchSocketTransport, Prog.bind_get_apply, switchOnBytes]
  cases switchService w with
  | none => exact ⟨_, rfl, rfl⟩
  | some service =>
    simp only [Prog.bind_emit_apply, h.sent, Bool.not_true, Bool.false_eq_true, if_false]
    generalize hfd : adbStatus env fd = o at hstatus hid
    generalize hbytes : adbStatusBytes env.perrorStr readString input = o' at hstatus
    obtain ⟨r, fd'⟩ := o
    obtain ⟨r', rest⟩ := o'
    obtain rfl : r = r' := hstatus
    cases r with
    | error e => exact ⟨_, rfl, rfl⟩
    | ok u =>
      -- The id is read, or the client has it already.
      have hrest := adbStatusBytes_okay env.perrorStr readString hbytes
      obtain ⟨⟨buf, rest'⟩, hread, rfl⟩ := Option.map_eq_some_iff.mp hrest
      have hread8 : fd'.transportId = (readExactly 8 rest').map fun r => idOfBytes r.1 := by
        rw [hid, h.id, hread]
        rfl
      simp only [hread8]
      split_ifs with hw
      · exact ⟨_, rfl, rfl⟩
      · cases readExactly 8 rest' with
        | none => exact ⟨_, rfl, rfl⟩
        | some r => exact ⟨_, rfl, rfl⟩

end Switch

/-! ## The selection on its way -/

section Request

open HostRequest

variable {env : HostRequestEnv} {given : TransportSelection} {service : Bytes}

/-- A service that selects a transport gets no further than that. -/
theorem handleHostRequest_of_selects (h : selectsTransport service = true) :
    handleHostRequest env given service = switchTransport env given service := by
  have hkill : service ≠ lit "kill" := by
    rintro rfl
    exact absurd h (by decide)
  rw [handleHostRequest, if_neg hkill, handleService, if_pos h]

/-- The id gets through. -/
theorem transportSelection_id (n : ℕ) : transportSelection env given
    (lit "transport-id:" ++ decimal n) = (env.parseUint (2 ^ 64 - 1) (decimal n)).map fun n =>
      ({ given with type := .any, id := .ofNat n }, true) := by
  have htport : consumePrefix (lit "transport-id:" ++ decimal n) (lit "tport:") = none := rfl
  have hid : consumePrefix (lit "transport-id:" ++ decimal n) (lit "transport-id:") =
      some (decimal n) := consumePrefix_eq_some_iff.mpr rfl
  rw [transportSelection, htport]
  simp only [hid]

/-- The serial gets through, whatever it begins with. -/
theorem transportSelection_serial (serial : Bytes) : transportSelection env given
    (lit "tport:serial:" ++ serial) =
      some ({ given with type := .any, serial := some (cString serial) }, false) := by
  have htport : consumePrefix (lit "tport:serial:" ++ serial) (lit "tport:") =
      some (lit "serial:" ++ serial) := consumePrefix_eq_some_iff.mpr rfl
  have hserial : consumePrefix (lit "serial:" ++ serial) (lit "serial:") = some serial :=
    consumePrefix_eq_some_iff.mpr rfl
  rw [transportSelection, htport]
  simp only [hserial]

variable (env given) in
/-- The kind of the connection gets through. -/
theorem transportSelection_type {w : Wire} (hzero : w.transportId = 0) (hserial : w.serial = none)
    (htype : w.transport ≠ .host) :
    ∃ service, switchService w = some (lit "host:" ++ service) ∧
      selectsTransport service = true ∧
      transportSelection env given service = some ({ given with type := w.transport }, false) := by
  cases hkind : w.transport with
  | usb => exact ⟨lit "tport:usb", by simp [switchService, hzero, hserial, hkind, lit], rfl, rfl⟩
  | «local» =>
    exact ⟨lit "tport:local", by simp [switchService, hzero, hserial, hkind, lit], rfl, rfl⟩
  | any => exact ⟨lit "tport:any", by simp [switchService, hzero, hserial, hkind, lit], rfl, rfl⟩
  | host => exact absurd hkind htype

/-- Arguments of `acquire_one_transport` that are the selection of the client: the id, or else the
serial, or else the type. -/
def Wire.Selects (w : Wire) (sel : TransportSelection) : Prop :=
  sel.id.toNat = w.transportId ∧
    (w.transportId = 0 → sel.serial = w.serial ∧ (w.serial = none → sel.type = w.transport))

/-- The service of a selection is the server's request for it, and gives the id exactly if the
client goes by one. -/
theorem switchService_selects (hparse : ∀ n < 2 ^ 64,
      env.parseUint (2 ^ 64 - 1) (decimal n) = some n) {w : Wire}
    (htype : w.transport ≠ .host) (hid : w.transportId < 2 ^ 64)
    (hserial : ∀ serial, w.serial = some serial → 0 ∉ serial) :
    ∃ service sel, switchService w = some (lit "host:" ++ service) ∧
      selectsTransport service = true ∧ w.Selects sel ∧
      transportSelection env ⟨.any, none, 0⟩ service = some (sel, decide (w.transportId ≠ 0)) := by
  by_cases hzero : w.transportId = 0
  · have hlegacy : decide (w.transportId ≠ 0) = false := by simp [hzero]
    rw [hlegacy]
    -- Without an id the client goes by the serial, and without that by the type.
    cases hw : w.serial with
    | some serial =>
      have hcstring : cString serial = serial := (cString_eq_self_iff serial).mpr (hserial _ hw)
      refine ⟨lit "tport:serial:" ++ serial, ⟨.any, some serial, 0⟩, ?_, rfl, ⟨hzero.symm, ?_⟩, ?_⟩
      · simp [switchService, hzero, hw, lit]
      · simp [hw]
      · rw [transportSelection_serial, hcstring]
    | none =>
      obtain ⟨service, hservice, hselects, hselection⟩ :=
        transportSelection_type env ⟨.any, none, 0⟩ hzero hw htype
      exact ⟨service, ⟨w.transport, none, 0⟩, hservice, hselects,
        ⟨hzero.symm, fun _ => ⟨hw.symm, fun _ => rfl⟩⟩, hselection⟩
  · have hlegacy : decide (w.transportId ≠ 0) = true := by simp [hzero]
    rw [hlegacy]
    refine ⟨lit "transport-id:" ++ decimal w.transportId,
      ⟨.any, none, .ofNat w.transportId⟩, ?_, rfl,
      ⟨UInt64.toNat_ofNat_of_lt hid, fun h => absurd h hzero⟩, ?_⟩
    · simp [switchService, hzero, lit]
    · rw [transportSelection_id, hparse _ hid]
      rfl

/-! ## The answer on its way back -/

variable {sel : TransportSelection} {s : HostRequestState}

/-- A selection that succeeds is answered with the id, unless the service gave one. -/
theorem switchTransport_succeeds {legacy : Bool} {t : ListedTransport}
    (hselection : transportSelection env given service = some (sel, legacy))
    (ht : (acquireOneTransport env.toAcquireEnv sel (env.transportList s.host)
      false).transport = some t) :
    switchTransport env given service s = ⟨.ok .switchedTransport,
      { s with socketTransport := some t.address },
      .acquires sel false :: .reply .okay :: if legacy then [] else [.transportId t.id]⟩ := by
  rw [switchTransport, hselection]
  cases legacy <;> simp [acquire, ht, sendOkay]

variable {perrorStr : Bytes → Bytes} {readString : Bytes → Except Bytes Bytes × Bytes} {w : Wire}

/-- A status `OKAY` is read, and nothing behind it. -/
theorem adbStatusBytes_append (rest : Bytes) :
    adbStatusBytes perrorStr readString (lit "OKAY" ++ rest) = (.ok (), rest) := by
  have hread : readExactly 4 (lit "OKAY" ++ rest) = some (lit "OKAY", rest) :=
    readExactly_append (lit "OKAY") rest
  rw [adbStatusBytes, hread]
  exact if_pos rfl

variable (perrorStr readString) in
/-- A status `FAIL` is no success. -/
theorem adbStatusBytes_fail (rest : Bytes) :
    ∃ e left, adbStatusBytes perrorStr readString (lit "FAIL" ++ rest) = (.error e, left) := by
  have hread : readExactly 4 (lit "FAIL" ++ rest) = some (lit "FAIL", rest) :=
    readExactly_append (lit "FAIL") rest
  rw [adbStatusBytes, hread]
  simp only [if_neg (show lit "FAIL" ≠ lit "OKAY" by decide), ne_eq, not_true_eq_false, if_false]
  rcases readString rest with ⟨error | string, left⟩ <;> exact ⟨_, _, rfl⟩

/-- The client reads the status and, where it has no id, the id. -/
theorem switchOnBytes_append (hservice : (switchService w).isSome) {id : UInt64}
    (hid : w.transportId ≠ 0 → w.transportId = id.toNat) (rest : Bytes) :
    switchOnBytes perrorStr readString w
        (lit "OKAY" ++ (if w.transportId ≠ 0 then [] else idBytes id) ++ rest) =
      (.ok id.toNat, rest) := by
  obtain ⟨service, hw⟩ := Option.isSome_iff_exists.mp hservice
  rw [switchOnBytes, hw, List.append_assoc]
  simp only [adbStatusBytes_append]
  by_cases hzero : w.transportId ≠ 0
  · rw [if_pos hzero, if_pos hzero, hid hzero]
    rfl
  · have hread : readExactly 8 (idBytes id ++ rest) = some (idBytes id, rest) :=
      readExactly_append (idBytes id) rest
    rw [if_neg hzero, if_neg hzero, hread]
    simp only [idOfBytes_idBytes]

/-- The selection of a client survives the connection. Its service has `acquire_one_transport`
called with the id, or else the serial, or else the type. Where a transport is acquired, the client
reads exactly what the server wrote, and returns the transport's id; where none is, it does not
succeed. -/
theorem selection_survives (protocolString : Bytes → Bytes)
    (hparse : ∀ n < 2 ^ 64, env.parseUint (2 ^ 64 - 1) (decimal n) = some n)
    (htype : w.transport ≠ .host) (hid : w.transportId < 2 ^ 64)
    (hserial : ∀ serial, w.serial = some serial → 0 ∉ serial) :
    ∃ service sel, switchService w = some (lit "host:" ++ service) ∧ w.Selects sel ∧
      ∀ s, acquisitions (handleHostRequest env ⟨.any, none, 0⟩ service s).trace = [(sel, false)] ∧
        (∀ t, (acquireOneTransport env.toAcquireEnv sel (env.transportList s.host)
            false).transport = some t →
          (handleHostRequest env ⟨.any, none, 0⟩ service s).result = .ok .switchedTransport ∧
          (handleHostRequest env ⟨.any, none, 0⟩ service s).state.socketTransport =
            some t.address ∧
          ∀ rest, switchOnBytes perrorStr readString w
            ((handleHostRequest env ⟨.any, none, 0⟩ service s).trace.flatMap
              (HostRequestEvent.bytes protocolString) ++ rest) = (.ok t.id.toNat, rest)) ∧
        ((acquireOneTransport env.toAcquireEnv sel (env.transportList s.host)
            false).transport = none →
          ∀ rest, ∃ e left, switchOnBytes perrorStr readString w
            ((handleHostRequest env ⟨.any, none, 0⟩ service s).trace.flatMap
              (HostRequestEvent.bytes protocolString) ++ rest) = (.error e, left)) := by
  obtain ⟨service, sel, hservice, hselects, hsel, hselection⟩ :=
    switchService_selects hparse htype hid hserial
  refine ⟨service, sel, hservice, hsel, fun s => ?_⟩
  rw [handleHostRequest_of_selects hselects]
  cases ht : (acquireOneTransport env.toAcquireEnv sel (env.transportList s.host)
      false).transport with
  | some t =>
    have hrun := switchTransport_succeeds hselection ht
    have hacquires : acquisitions (switchTransport env ⟨.any, none, 0⟩ service s).trace =
        [(sel, false)] := by
      rw [hrun]
      split <;> rfl
    have hbytes : (switchTransport env ⟨.any, none, 0⟩ service s).trace.flatMap
        (HostRequestEvent.bytes protocolString) =
          lit "OKAY" ++ if w.transportId ≠ 0 then [] else idBytes t.id := by
      rw [hrun]
      by_cases hzero : w.transportId = 0 <;> simp [hzero, HostRequestEvent.bytes]
    -- The id that the client has is that of the transport.
    have hsame : w.transportId ≠ 0 → w.transportId = t.id.toNat := by
      intro hzero
      have hne : sel.id ≠ 0 := fun h => hzero (by rw [← hsel.1, h]; rfl)
      rw [acquireOneTransport_id hne ht, hsel.1]
    refine ⟨hacquires, fun t' ht' => ?_, fun h => nomatch h⟩
    cases ht'
    refine ⟨by rw [hrun], by rw [hrun], fun rest => ?_⟩
    rw [hbytes]
    exact switchOnBytes_append (by rw [hservice]; rfl) hsame rest
  | none =>
    have htrace := switchTransport_fails hselection ht
    refine ⟨by rw [htrace]; rfl, (fun t h => nomatch h), fun _ rest => ?_⟩
    obtain ⟨e, left, hstatus⟩ := adbStatusBytes_fail perrorStr readString
      (protocolString (acquireOneTransport env.toAcquireEnv sel
        (env.transportList s.host) false).error ++ rest)
    refine ⟨e, left, ?_⟩
    rw [htrace, switchOnBytes, hservice]
    simp only [List.flatMap_cons, List.flatMap_nil, HostRequestEvent.bytes, List.nil_append,
      List.append_nil, List.append_assoc, hstatus]

end Request

/-- `android::base::ParseUint` of a number in decimal. -/
def parseDecimal (max : ℕ) (s : Bytes) : Option ℕ :=
  if s ≠ [] ∧ s.all fun b => 48 ≤ b && b ≤ 57 then
    let n := Nat.ofDigitChars 10 (s.map fun b => Char.ofNat b.toNat) 0
    if n ≤ max then some n else none
  else none

/-- A number in decimal is parsed. -/
theorem parseDecimal_decimal {max n : ℕ} (h : n ≤ max) : parseDecimal max (decimal n) = some n := by
  have hbytes : (decimal n).all (fun b => 48 ≤ b && b ≤ 57) = true := by
    rw [List.all_eq_true]
    intro b hb
    simpa [UInt8.le_iff_toNat_le] using decimal_digit hb
  have hchars : (decimal n).map (fun b => Char.ofNat b.toNat) = Nat.toDigits 10 n := by
    rw [decimal, List.map_map]
    refine (List.map_congr_left fun c hc => ?_).trans (List.map_id _)
    simp [(toDigits_digit hc).2]
  have hne : decimal n ≠ [] := by simp [decimal, Nat.toDigits_ne_nil]
  rw [parseDecimal, if_pos ⟨hne, hbytes⟩, hchars, Nat.ofDigitChars_toDigits (by omega) (by omega)]
  exact if_pos h

/-- Numbers in requests are parsed. -/
def parsingEnv : HostRequestEnv := { HostRequestEnv.plain with parseUint := parseDecimal }

/-- A client that asks for the only emulator. -/
def Wire.emulator : Wire := ⟨.local, none, 0, [], none, [], [], 0⟩

/-- A server with an emulator and a phone. -/
def oneEmulator : HostRequestState where
  host := { Host.initial false with
    transports := fun t => if t = 2 then .new .local (lit "emulator-5554") .device false
      else .new .usb (lit "0123") .device false
    transportList := [1, 2] }
  socketTransport := none

/-- The client gets the emulator's id, and leaves what comes behind it. -/
theorem emulator_selected : ∃ service, switchService .emulator = some (lit "host:" ++ service) ∧
    switchOnBytes id (fun input => (.ok input, [])) .emulator
      ((HostRequest.handleHostRequest parsingEnv ⟨.any, none, 0⟩ service
        oneEmulator).trace.flatMap (HostRequestEvent.bytes id) ++ [1]) =
      (.ok 2, [1]) := by
  obtain ⟨service, sel, hservice, hsel, hrun⟩ := @selection_survives parsingEnv id
    (fun input => (.ok input, [])) .emulator id
    (fun n hn => parseDecimal_decimal (Nat.le_pred_of_lt hn)) (by decide)
    (show 0 < 2 ^ 64 by decide) nofun
  obtain rfl : sel = ⟨.local, none, 0⟩ := by
    have hid : sel.id = 0 := UInt64.toNat.inj hsel.1
    obtain ⟨hserial, htype⟩ := hsel.2 rfl
    calc sel = ⟨sel.type, sel.serial, sel.id⟩ := rfl
      _ = ⟨.local, none, 0⟩ := by rw [hid, hserial, htype rfl]; rfl
  exact ⟨service, hservice, (((hrun oneEmulator).2.1 _ rfl).2.2 [1])⟩

end Client

end AdbMobile
