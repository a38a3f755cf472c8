import AdbMobile.Client.SwitchTransport
import AdbMobile.Client.Commandline.HandledQuery
import AdbMobile.Server.HostAnswers
import AdbMobile.Server.TrackerFrame

/-!
# Requests over a connection

A client sends its request to the server and reads what comes back: statuses, an id, a string. How
much it reads is its own choice, by the command that it runs. The server writes its answer by the
service. The two have to agree, as an answer does not say where it ends.

A `Connection` is put together here from the bytes that the server writes, in the order in which the
client reads. `adb_query` returns what the server answered to a query (`query_answered`). `adb
forward` selects a device and then has the forwards changed over the same connection, and what it
returns and prints is what became of the request (`forward_over_connection`).
-/

namespace AdbMobile

open ByteString Stream

/-! ## What the server writes -/

/-- The bytes of these events on the connection. -/
def HostRequestEvent.allBytes (protocolString : Bytes → Bytes) (t : List HostRequestEvent) : Bytes :=
  t.flatMap (HostRequestEvent.bytes protocolString)

/-- The bytes are those of what was written. -/
theorem HostRequestEvent.allBytes_written (protocolString : Bytes → Bytes)
    (t : List HostRequestEvent) :
    allBytes protocolString (HostRequest.written t) = allBytes protocolString t := by
  induction t with
  | nil => rfl
  | cons e t ih =>
    simp only [allBytes, HostRequest.written] at ih ⊢
    cases e with
    | reply | transportId =>
      rw [List.filter_cons_of_pos rfl, List.flatMap_cons, List.flatMap_cons, ih]
    | acquires | kick | reset | checkForKicked | localConnect =>
      rw [List.filter_cons_of_neg (by simp [HostRequestEvent.writes]), ih]
      rfl

/-- The text of a reply. -/
def Reply.text : Reply → Option Bytes
  | .okay => none
  | .fail message => some message
  | .protocolString s => some s

/-- Every text that is written has a length that four digits can give. -/
def HostRequestEvent.TextsFit (t : List HostRequestEvent) : Prop :=
  ∀ r, .reply r ∈ t → ∀ text ∈ r.text, text.length < 2 ^ 16

namespace HostRequest

/-- A socket that is given a selection and then, if that succeeds, another service. -/
def serveSelected (env : HostRequestEnv) (selection service : Bytes) : HostM HostRequestResult := do
  match ← handleHostRequest env ⟨.any, none, 0⟩ selection with
  | .switchedTransport => handleHostRequest env ⟨.any, none, 0⟩ service
  | result => return result

end HostRequest

namespace Client

/-! ## What the client reads -/

/-- A read of a client. -/
inductive Reading
  | status
  | transportId
  | string
  deriving DecidableEq, Repr

/-- What `ReadProtocolString` has to do with what `SendProtocolString` writes: it reads a string of
a length that four digits can give, and fails at the end of the stream. -/
structure Framed (protocolString : Bytes → Bytes) (readString : Bytes → Except Bytes Bytes × Bytes) :
    Prop where
  read : ∀ s rest, s.length < 2 ^ 16 → readString (protocolString s ++ rest) = (.ok s, rest)
  ends : ∃ e rest, readString [] = (.error e, rest)

section Receiving

variable (readString : Bytes → Except Bytes Bytes × Bytes)

/-- The connection as a client finds it that reads so, when these bytes come. Behind a status that is
not `OKAY` it reads no more than the string of `FAIL`. -/
def Connection.receiving (fd : Connection) : List Reading → Bytes → Connection
  | [], _ => fd
  | .status :: rs, input =>
    match readExactly 4 input with
    | none => { fd with statuses := [none] }
    | some (buf, rest) =>
      let fd := if buf = lit "OKAY" then fd.receiving rs rest
        else if buf = lit "FAIL" then { fd with strings := (readString rest).1 :: fd.strings }
        else fd
      { fd with statuses := some buf :: fd.statuses }
  | .transportId :: rs, input =>
    match readExactly 8 input with
    | none => { fd with transportId := none }
    | some (id, rest) => { fd with transportId := some (idOfBytes id) }.receiving rs rest
  | .string :: rs, input =>
    let fd := fd.receiving rs (readString input).2
    { fd with strings := (readString input).1 :: fd.strings }

variable {readString} {protocolString : Bytes → Bytes} {fd : Connection} {rs : List Reading}

/-- What is sent is another matter. -/
theorem Connection.receiving_sent (rs : List Reading) : ∀ (fd : Connection) input,
    (fd.receiving readString rs input).connected = fd.connected ∧
      (fd.receiving readString rs input).switchSent = fd.switchSent ∧
      (fd.receiving readString rs input).serviceSent = fd.serviceSent := by
  induction rs with
  | nil => exact fun _ _ => ⟨rfl, rfl, rfl⟩
  | cons r rs ih =>
    intro fd input
    cases r with
    | status =>
      unfold receiving
      split
      · exact ⟨rfl, rfl, rfl⟩
      · dsimp only
        split_ifs
        · exact ih fd _
        · exact ⟨rfl, rfl, rfl⟩
        · exact ⟨rfl, rfl, rfl⟩
    | transportId =>
      unfold receiving
      split
      · exact ⟨rfl, rfl, rfl⟩
      · exact ih _ _
    | string => exact ih fd _

/-- A client that reads no id finds the one that was there. -/
theorem Connection.receiving_transportId {rs : List Reading} (hrs : .transportId ∉ rs) : ∀ input,
    (fd.receiving readString rs input).transportId = fd.transportId := by
  induction rs with
  | nil => exact fun _ => rfl
  | cons r rs ih =>
    intro input
    have hrest := ih fun h => hrs (List.mem_cons_of_mem r h)
    cases r with
    | status =>
      unfold receiving
      split
      · rfl
      · dsimp only
        split_ifs
        · exact hrest _
        · rfl
        · rfl
    | transportId => exact absurd List.mem_cons_self hrs
    | string => exact hrest _

/-- A status that is a success, and what comes behind it. -/
theorem adbStatus_okay (env : ClientEnv) (input : Bytes) :
    adbStatus env (fd.receiving readString (.status :: rs) (lit "OKAY" ++ input)) =
      (.ok (), fd.receiving readString rs input) := by
  have hread : readExactly 4 (lit "OKAY" ++ input) = some (lit "OKAY", input) :=
    readExactly_append (lit "OKAY") input
  simp [Connection.receiving, hread, adbStatus]

/-- A status that is a failure, with its text. -/
theorem adbStatus_fail (hframed : Framed protocolString readString) (env : ClientEnv)
    (fd : Connection) (rs : List Reading) {e : Bytes} (he : e.length < 2 ^ 16) (input : Bytes) :
    (adbStatus env (fd.receiving readString (.status :: rs)
      (lit "FAIL" ++ (protocolString e ++ input)))).1 = .error e := by
  have hread : readExactly 4 (lit "FAIL" ++ (protocolString e ++ input)) =
      some (lit "FAIL", protocolString e ++ input) := readExactly_append (lit "FAIL") _
  have hne : lit "FAIL" ≠ lit "OKAY" := by decide
  simp [Connection.receiving, hread, adbStatus, hne, hframed.read e input he, readProtocolString]

/-- A string. -/
theorem readProtocolString_receiving (hframed : Framed protocolString readString)
    (fd : Connection) (rs : List Reading) {s : Bytes} (hs : s.length < 2 ^ 16) (input : Bytes) :
    (readProtocolString (fd.receiving readString (.string :: rs) (protocolString s ++ input))).1 =
      .ok s := by
  simp [Connection.receiving, readProtocolString, hframed.read s input hs]

/-- No string. -/
theorem readProtocolString_end (hframed : Framed protocolString readString) (fd : Connection)
    (rs : List Reading) :
    ∃ e, (readProtocolString (fd.receiving readString (.string :: rs) [])).1 = .error e := by
  obtain ⟨e, rest, h⟩ := hframed.ends
  exact ⟨e, by simp [Connection.receiving, readProtocolString, h]⟩

end Receiving

/-! ## Asking for a service -/

section Service

variable {env : ClientEnv} {readString : Bytes → Except Bytes Bytes × Bytes}
  {protocolString : Bytes → Bytes} {fd : Connection} {rs : List Reading} {w w' : Wire}
  {service : Bytes} {cs : List Connection} {t : List WireEvent}

/-- A service that the server agrees to. -/
theorem sendService_okay (hsent : fd.serviceSent = true) (input : Bytes) (t : Option ℕ) :
    sendService env service (fd.receiving readString (.status :: rs) (lit "OKAY" ++ input)) t w =
      ⟨.ok (.opened (fd.receiving readString rs input) t), w, [.sends service]⟩ := by
  rw [sendService, Prog.bind_emit_apply, (Connection.receiving_sent _ fd _).2.2, hsent]
  simp only [Bool.not_true, Bool.false_eq_true, if_false, adbStatus_okay]
  rfl

/-- A service that it refuses. -/
theorem sendService_fail (hframed : Framed protocolString readString) (hsent : fd.serviceSent = true)
    {e : Bytes} (he : e.length < 2 ^ 16) (input : Bytes) (t : Option ℕ) :
    sendService env service (fd.receiving readString (.status :: rs)
        (lit "FAIL" ++ (protocolString e ++ input))) t w =
      ⟨.ok (.failed (-1) e), w, [.sends service]⟩ := by
  have hstatus := adbStatus_fail hframed env fd rs he input
  rw [sendService, Prog.bind_emit_apply, (Connection.receiving_sent _ fd _).2.2, hsent]
  simp only [Bool.not_true, Bool.false_eq_true, if_false]
  generalize adbStatus env (fd.receiving readString (.status :: rs)
    (lit "FAIL" ++ (protocolString e ++ input))) = o at hstatus ⊢
  obtain ⟨r, fd'⟩ := o
  obtain rfl : r = .error e := hstatus
  rfl

/-- The next connection is opened. -/
theorem socketSpecConnect_next (hconnections : w.connections = fd :: cs)
    (hconnected : fd.connected = .ok ()) : socketSpecConnect w =
      ⟨.ok (.ok fd), { w with connections := cs }, [.connects w.socketSpec]⟩ := by
  simp [socketSpecConnect, hconnections, hconnected, Except.map]

/-- A service of the server is asked for over the next connection. -/
theorem adbConnectOnce_host (env : ClientEnv) (hhost : lit "host" <+: service)
    (hlength : service.length ≤ maxPayload) (hconnections : w.connections = fd :: cs)
    (hconnected : fd.connected = .ok ()) :
    adbConnectOnce env service false w =
      .after [.connects w.socketSpec] (sendService env service fd none
        { w with connections := cs }) := by
  have hne : ¬ (service = [] ∨ maxPayload < service.length) := by
    rintro (rfl | hlt)
    · exact absurd (List.prefix_nil.mp hhost) (by decide)
    · omega
  have hnoswitch : (!(lit "host").isPrefixOf service || false) = false := by
    simp [List.isPrefixOf_iff_prefix.mpr hhost]
  rw [adbConnectOnce, if_neg hne, Prog.bind_of_run (socketSpecConnect_next hconnections hconnected)]
  simp only [hnoswitch, Bool.false_eq_true, if_false]

/-- Past the check of the version, the service is asked for. -/
theorem adbConnect_checked (hstart : service ≠ lit "host:start-server")
    (hversion : adbCheckServerVersion env w = ⟨.ok (.ok ()), w', t⟩) {forceSwitch : Bool}
    {r : ConnectResult} {w'' : Wire} {t' : List WireEvent} (hr : ∀ e, r ≠ .failed (-2) e)
    (honce : adbConnectOnce env service forceSwitch w' = ⟨.ok r, w'', t'⟩) :
    adbConnect env service forceSwitch w = ⟨.ok r, w'', t ++ t'⟩ := by
  rw [adbConnect, Prog.bind_of_run hversion]
  simp only [if_neg hstart, Prog.bind_of_run honce]
  simp

/-! ## Queries -/

variable {renv : HostRequestEnv} {given : TransportSelection} {s : HostRequestState}

/-- What is read when a device is selected: a status, and the id of a device that the client does not
go by the id of. -/
def selectionReads (w : Wire) : List Reading :=
  .status :: if w.transportId ≠ 0 then [] else [.transportId]

/-- A selection that the server agrees to. -/
theorem switchSocketTransport_okay (env : ClientEnv)
    (readString : Bytes → Except Bytes Bytes × Bytes) {selection : Bytes}
    (hservice : switchService w = some selection) (hswitch : fd.switchSent = true)
    (hrs : .transportId ∉ rs) (id : UInt64) (input : Bytes) :
    ∃ (n : ℕ) (fd' : Connection), fd'.serviceSent = fd.serviceSent ∧
      switchSocketTransport env (fd.receiving readString (selectionReads w ++ rs)
          (lit "OKAY" ++ ((if w.transportId ≠ 0 then [] else idBytes id) ++ input))) w =
        ⟨.ok (.ok (n, fd'.receiving readString rs input)), w, [.sends selection]⟩ := by
  rw [switchSocketTransport, Prog.bind_get_apply, hservice]
  simp only [Prog.bind_emit_apply, (Connection.receiving_sent _ fd _).2.1, hswitch, Bool.not_true,
    Bool.false_eq_true, if_false, selectionReads, List.cons_append, adbStatus_okay]
  by_cases hzero : w.transportId ≠ 0
  · refine ⟨w.transportId, fd, rfl, ?_⟩
    simp only [if_pos hzero]
    rfl
  · have hread : readExactly 8 (idBytes id ++ input) = some (idBytes id, input) :=
      readExactly_append (idBytes id) input
    refine ⟨id.toNat, { fd with transportId := some id.toNat }, rfl, ?_⟩
    simp only [if_neg hzero, List.cons_append, List.nil_append, Connection.receiving, hread,
      idOfBytes_idBytes, Connection.receiving_transportId hrs]
    rfl

/-- A selection that it refuses. -/
theorem switchSocketTransport_fail (env : ClientEnv) (hframed : Framed protocolString readString)
    (rs : List Reading) {selection : Bytes} (hservice : switchService w = some selection)
    (hswitch : fd.switchSent = true) {e : Bytes} (he : e.length < 2 ^ 16) (input : Bytes) :
    switchSocketTransport env (fd.receiving readString (selectionReads w ++ rs)
        (lit "FAIL" ++ (protocolString e ++ input))) w = ⟨.ok (.error e), w, [.sends selection]⟩ := by
  have hstatus := adbStatus_fail hframed env fd
    ((if w.transportId ≠ 0 then [] else [.transportId]) ++ rs) he input
  rw [switchSocketTransport, Prog.bind_get_apply, hservice]
  simp only [Prog.bind_emit_apply, (Connection.receiving_sent _ fd _).2.1, hswitch, Bool.not_true,
    Bool.false_eq_true, if_false, selectionReads, List.cons_append]
  generalize adbStatus env (fd.receiving readString _ _) = o at hstatus ⊢
  obtain ⟨r, fd'⟩ := o
  obtain rfl : r = .error e := hstatus
  rfl

/-- A service for which a device is selected over the connection, if the selection succeeds. -/
theorem adbConnectOnce_switched (hne : service ≠ []) (hlength : service.length ≤ maxPayload)
    (hconnections : w.connections = fd :: cs) (hconnected : fd.connected = .ok ()) {n : ℕ}
    {fd' : Connection} (hswitch : switchSocketTransport env fd { w with connections := cs } =
      ⟨.ok (.ok (n, fd')), { w with connections := cs }, t⟩) :
    adbConnectOnce env service true w = .after (.connects w.socketSpec :: t)
      (sendService env service fd' (some n) { w with connections := cs }) := by
  rw [adbConnectOnce, if_neg (not_or.mpr ⟨hne, by omega⟩),
    Prog.bind_of_run (socketSpecConnect_next hconnections hconnected)]
  simp [Prog.bind_of_run hswitch]

/-- If it fails, the service is not asked for. -/
theorem adbConnectOnce_unswitched (hne : service ≠ []) (hlength : service.length ≤ maxPayload)
    (hconnections : w.connections = fd :: cs) (hconnected : fd.connected = .ok ()) {e : Bytes}
    (hswitch : switchSocketTransport env fd { w with connections := cs } =
      ⟨.ok (.error e), { w with connections := cs }, t⟩) :
    adbConnectOnce env service true w =
      ⟨.ok (.failed (-1) e), { w with connections := cs }, .connects w.socketSpec :: t⟩ := by
  rw [adbConnectOnce, if_neg (not_or.mpr ⟨hne, by omega⟩),
    Prog.bind_of_run (socketSpecConnect_next hconnections hconnected)]
  simp [Prog.bind_of_run hswitch]

/-! ## Changing the forwards -/

/-- What `forward` returns. -/
def forwardResult : Except Bytes (Option ℕ) → ℤ
  | .ok _ => 0
  | .error _ => 1

/-- What `forward` has for its caller. -/
def forwardOutput (out : Bool) : Except Bytes (Option ℕ) → List WireEvent
  | .ok none => []
  | .ok (some port) => if out then [.captured (decimal port ++ lit "\n")] else []
  | .error e => if out then [.captured (lit "error: " ++ cString e ++ lit "\n")] else []

theorem capture_apply (out : Bool) (text : Bytes) (w : Wire) :
    capture out text w = ⟨.ok (), w, if out then [.captured text] else []⟩ := by
  cases out <;> rfl

/-- A refusal is the result of an error. -/
theorem refuse_apply (out : Bool) (e : Bytes) (w : Wire) :
    refuse out (lit "error: " ++ cString e ++ lit "\n") w =
      ⟨.ok (forwardResult (.error e)), w, forwardOutput out (.error e)⟩ := by
  rw [refuse, Prog.bind_of_run (capture_apply out _ w)]
  simp [forwardResult, forwardOutput]

/-- What `forward` makes of the answer to its request. -/
theorem requestForward_answered (hframed : Framed protocolString readString) {out : Bool}
    (hsent : fd.serviceSent = true) {a : Except Bytes (Option ℕ)}
    (hfits : ∀ r ∈ forwardAnswer a, ∀ text ∈ r.text, text.length < 2 ^ 16)
    (hstart : service ≠ lit "host:start-server")
    (hversion : adbCheckServerVersion env w = ⟨.ok (.ok ()), w', t⟩) {n : ℕ} {w'' : Wire}
    {t' : List WireEvent} (honce : adbConnectOnce env service true w' = .after t'
      (sendService env service (fd.receiving readString [.status, .status, .string]
        (HostRequestEvent.allBytes protocolString ((forwardAnswer a).map HostRequestEvent.reply)))
        (some n) w'')) :
    requestForward env out service w =
      ⟨.ok (forwardResult a), w'', t ++ (t' ++ [.sends service]) ++ forwardOutput out a⟩ := by
  cases a with
  | error e =>
    have he : e.length < 2 ^ 16 := hfits (.fail e) (by simp [forwardAnswer]) e rfl
    have hbytes : HostRequestEvent.allBytes protocolString
        ((forwardAnswer (.error e)).map HostRequestEvent.reply) =
          lit "FAIL" ++ (protocolString e ++ []) := by
      simp [forwardAnswer, HostRequestEvent.allBytes, HostRequestEvent.bytes]
    rw [hbytes, sendService_fail hframed hsent he] at honce
    rw [requestForward, Prog.bind_of_run (adbConnect_checked hstart hversion (by simp) honce)]
    exact congrArg (Outcome.after _) (refuse_apply out e w'')
  | ok port =>
    have hbytes : HostRequestEvent.allBytes protocolString
        ((forwardAnswer (.ok port)).map HostRequestEvent.reply) = lit "OKAY" ++ (lit "OKAY" ++
          (port.map fun p => protocolString (decimal p) ++ []).getD []) := by
      cases port <;> simp [forwardAnswer, HostRequestEvent.allBytes, HostRequestEvent.bytes]
    rw [hbytes, sendService_okay hsent] at honce
    rw [requestForward, Prog.bind_of_run (adbConnect_checked hstart hversion (by simp) honce)]
    simp only [adbStatus_okay]
    cases port with
    | none =>
      -- The server has nothing more to say, and the connection ends.
      obtain ⟨e, he⟩ := readProtocolString_end hframed fd []
      simp only [Option.map_none, Option.getD_none, he]
      simp [forwardResult, forwardOutput]
    | some p =>
      have hp : (decimal p).length < 2 ^ 16 :=
        hfits (.protocolString (decimal p)) (by simp [forwardAnswer]) _ rfl
      have hread := readProtocolString_receiving hframed fd [] hp []
      obtain ⟨b, digits, hdecimal⟩ : ∃ b digits, decimal p = b :: digits :=
        List.exists_cons_of_ne_nil (by simp [decimal, Nat.toDigits_ne_nil])
      have hcstring : cString (decimal p) = decimal p :=
        (cString_eq_self_iff _).mpr fun hmem => absurd (decimal_digit hmem) (by decide)
      simp only [Option.map_some, Option.getD_some, hread]
      rw [hdecimal] at hcstring ⊢
      simp only [hcstring, Prog.bind_of_run (capture_apply out _ _)]
      simp [forwardResult, forwardOutput, hdecimal]

/-! ## The conversation of `forward` -/

variable {selection : Bytes} {sel : TransportSelection} {legacy : Bool}

open HostRequest

/-- A device is selected, and the forwards are changed over it. -/
theorem serveSelected_okay (hselects : selectsTransport selection = true)
    (hselection : transportSelection renv ⟨.any, none, 0⟩ selection = some (sel, legacy))
    (hchanges : changesForwards service = true) {x : ListedTransport}
    (hx : (acquireOneTransport renv.toAcquireEnv sel (renv.transportList s.host)
      false).transport = some x) :
    ∃ a h', s.host.handleForwardRequest ⟨service,
        if forwards service then .ok x.address else .error [], renv.listening⟩ =
          some (forwardAnswer a, h') ∧
      serveSelected renv selection service s = ⟨.ok .handled, ⟨h', some x.address⟩,
        (.acquires sel false :: .reply .okay :: if legacy then [] else [.transportId x.id]) ++
          (forwardAnswer a).map HostRequestEvent.reply⟩ := by
  have hselected := switchTransport_succeeds hselection hx
  rw [← handleHostRequest_of_selects hselects] at hselected
  obtain ⟨a, h', hforward, hrun⟩ := handleHostRequest_changes renv ⟨.any, none, 0⟩ hchanges
    (s := { s with socketTransport := some x.address }) rfl
  refine ⟨a, h', hforward, ?_⟩
  rw [serveSelected, Prog.bind_of_run hselected]
  simp only [hrun, Prog.after_mk]

/-- No device is selected, and the other request is not served. -/
theorem serveSelected_fail (service : Bytes) (hselects : selectsTransport selection = true)
    (hselection : transportSelection renv ⟨.any, none, 0⟩ selection = some (sel, legacy))
    (hnone : (acquireOneTransport renv.toAcquireEnv sel (renv.transportList s.host)
      false).transport = none) :
    serveSelected renv selection service s = ⟨.ok .handled, s, [.acquires sel false,
      .reply (.fail (acquireOneTransport renv.toAcquireEnv sel (renv.transportList s.host)
        false).error)]⟩ := by
  have hselected : handleHostRequest renv ⟨.any, none, 0⟩ selection s = ⟨.ok .handled, s,
      [.acquires sel false, .reply (.fail (acquireOneTransport renv.toAcquireEnv sel
        (renv.transportList s.host) false).error)]⟩ := by
    rw [handleHostRequest_of_selects hselects, switchTransport, hselection]
    simp [acquire, hnone, sendFail]
  rw [serveSelected, Prog.bind_of_run hselected]
  rfl

/-- `forward` over a connection. The client selects its device and asks for the forwards to be
changed; where the server acquires a transport for the selection, the request is one of
`handle_forward_request` over that transport, and otherwise the tables stay as they are. Either way
the client returns, and prints, what became of the request: the port that was resolved, or the error
of whichever failed. -/
theorem forward_over_connection (out : Bool) (hframed : Framed protocolString readString)
    (hparse : ∀ n < 2 ^ 64, renv.parseUint (2 ^ 64 - 1) (decimal n) = some n)
    (htype : w'.transport ≠ .host) (hid : w'.transportId < 2 ^ 64)
    (hserial : ∀ serial, w'.serial = some serial → 0 ∉ serial)
    (hselection : switchService w' = some (lit "host:" ++ selection))
    (hchanges : changesForwards service = true)
    (hlength : (lit "host:" ++ service).length ≤ maxPayload)
    (hversion : adbCheckServerVersion env w = ⟨.ok (.ok ()), w', t⟩)
    (hfits : HostRequestEvent.TextsFit (serveSelected renv selection service s).trace)
    (hconnected : fd.connected = .ok ()) (hswitch : fd.switchSent = true)
    (hsent : fd.serviceSent = true)
    (hconnections : w'.connections = fd.receiving readString
      (selectionReads w' ++ [.status, .status, .string]) (HostRequestEvent.allBytes protocolString
        (serveSelected renv selection service s).trace) :: cs) :
    ∃ sel, w'.Selects sel ∧
      (∀ x, (acquireOneTransport renv.toAcquireEnv sel (renv.transportList s.host)
          false).transport = some x →
        ∃ a h', s.host.handleForwardRequest ⟨service,
            if forwards service then .ok x.address else .error [], renv.listening⟩ =
              some (forwardAnswer a, h') ∧
          (serveSelected renv selection service s).state.host = h' ∧
          requestForward env out (lit "host:" ++ service) w =
            ⟨.ok (forwardResult a), { w' with connections := cs },
              t ++ [.connects w'.socketSpec, .sends (lit "host:" ++ selection),
                .sends (lit "host:" ++ service)] ++ forwardOutput out a⟩) ∧
      ((acquireOneTransport renv.toAcquireEnv sel (renv.transportList s.host)
          false).transport = none →
        (serveSelected renv selection service s).state = s ∧
          requestForward env out (lit "host:" ++ service) w =
            ⟨.ok 1, { w' with connections := cs },
              t ++ [.connects w'.socketSpec, .sends (lit "host:" ++ selection)] ++
                forwardOutput out (.error (acquireOneTransport renv.toAcquireEnv sel
                  (renv.transportList s.host) false).error)⟩) := by
  obtain ⟨selection', sel, hselection', hselects, hsel, hparsed⟩ :=
    switchService_selects hparse htype hid hserial
  obtain rfl : selection = selection' :=
    List.append_cancel_left (Option.some.inj (hselection.symm.trans hselection'))
  have hne : lit "host:" ++ service ≠ [] := by simp [lit]
  have hstart : lit "host:" ++ service ≠ lit "host:start-server" := by
    intro h
    have hservice : service = lit "start-server" :=
      List.append_cancel_left (h.trans (show _ = lit "host:" ++ lit "start-server" from rfl))
    rw [hservice] at hchanges
    exact absurd hchanges (by decide)
  have hopened : (fd.receiving readString (selectionReads w' ++ [.status, .status, .string])
      (HostRequestEvent.allBytes protocolString
        (serveSelected renv selection service s).trace)).connected = .ok () :=
    (Connection.receiving_sent _ fd _).1.trans hconnected
  refine ⟨sel, hsel, fun x hx => ?_, fun hnone => ?_⟩
  · obtain ⟨a, h', hforward, hserve⟩ :=
      serveSelected_okay (s := s) hselects hparsed hchanges hx
    refine ⟨a, h', hforward, by rw [hserve], ?_⟩
    have hbytes : HostRequestEvent.allBytes protocolString
        (serveSelected renv selection service s).trace =
          lit "OKAY" ++ ((if w'.transportId ≠ 0 then [] else idBytes x.id) ++
            HostRequestEvent.allBytes protocolString
              ((forwardAnswer a).map HostRequestEvent.reply)) := by
      rw [hserve]
      by_cases hzero : w'.transportId = 0 <;>
        simp [HostRequestEvent.allBytes, HostRequestEvent.bytes, hzero]
    rw [hbytes] at hconnections hopened
    have hreads : .transportId ∉ [Reading.status, .status, .string] := by decide
    obtain ⟨n, fd', hsent', hrun⟩ := switchSocketTransport_okay env readString
      (w := { w' with connections := cs }) hselection hswitch hreads x.id
      (HostRequestEvent.allBytes protocolString ((forwardAnswer a).map HostRequestEvent.reply))
    have honce := adbConnectOnce_switched hne hlength hconnections hopened hrun
    have hfits' : ∀ r ∈ forwardAnswer a, ∀ text ∈ r.text, text.length < 2 ^ 16 := by
      intro r hr
      refine hfits r ?_
      rw [hserve]
      exact List.mem_append_right _ (List.mem_map_of_mem hr)
    rw [requestForward_answered hframed (hsent'.trans hsent) hfits' hstart hversion honce]
    simp
  · have hserve := serveSelected_fail (s := s) service hselects hparsed hnone
    refine ⟨by rw [hserve], ?_⟩
    have hbytes : HostRequestEvent.allBytes protocolString
        (serveSelected renv selection service s).trace =
          lit "FAIL" ++ (protocolString (acquireOneTransport renv.toAcquireEnv sel
            (renv.transportList s.host) false).error ++ []) := by
      rw [hserve]
      simp [HostRequestEvent.allBytes, HostRequestEvent.bytes]
    have he : (acquireOneTransport renv.toAcquireEnv sel (renv.transportList s.host)
        false).error.length < 2 ^ 16 := by
      refine hfits (.fail _) ?_ _ rfl
      rw [hserve]
      simp
    rw [hbytes] at hconnections hopened
    have hrun := switchSocketTransport_fail env (w := { w' with connections := cs }) hframed
      [.status, .status, .string] hselection hswitch he []
    have honce := adbConnectOnce_unswitched hne hlength hconnections hopened hrun
    rw [requestForward, Prog.bind_of_run (adbConnect_checked hstart hversion (by simp) honce)]
    refine (congrArg (Outcome.after _) (refuse_apply out _ _)).trans ?_
    simp [forwardResult]

end Service

/-! ## A client and a server -/

/-- `SendProtocolString`: the length in four digits, and the string. -/
def sentString (s : Bytes) : Bytes := HostRequest.hex4 s.length ++ s

/-- `ReadProtocolString`. -/
def readSentString (input : Bytes) : Except Bytes Bytes × Bytes :=
  match readExactly 4 input with
  | none => (.error (lit "protocol fault (couldn't read status length)"), [])
  | some (digits, rest) =>
    match hexNumberFrom 0 digits with
    | none => (.error (lit "protocol fault (invalid length)"), rest)
    | some n =>
      match readExactly n rest with
      | none => (.error (lit "protocol fault (couldn't read status message)"), [])
      | some (s, rest) => (.ok s, rest)

/-- What is sent is read. -/
theorem framed_sentString : Framed sentString readSentString where
  read s rest hs := by
    obtain ⟨hfour, hnumber⟩ := hexNumberFrom_hex4 hs
    have hdigits := readExactly_append (HostRequest.hex4 s.length) (s ++ rest)
    rw [hfour] at hdigits
    simp only [readSentString, sentString, List.append_assoc, hdigits, hnumber, readExactly_append]
  ends := ⟨_, _, rfl⟩

/-- A connection that stays open while a service is asked for. -/
def Connection.asked : Connection := { Connection.closed with switchSent := true, serviceSent := true }

/-- A client of the emulator, with the connections to come. -/
def Wire.over (connections : List Connection) : Wire := { Wire.emulator with connections }

/-- A server that says its version. -/
def versionSaid : Connection := Connection.asked.receiving readSentString [.status, .string]
  (lit "OKAY" ++ sentString (HostRequest.hex4 41))

/-- The version is that of the client. -/
theorem version_checked (fd : Connection) : adbCheckServerVersion .bare (.over [versionSaid, fd]) =
    ⟨.ok (.ok ()), .over [fd], [.connects [], .sends (lit "host:version")]⟩ := rfl

/-- A server on which any port can be listened on. -/
def listeningEnv : HostRequestEnv := { parsingEnv with listening := .ok ⟨9, 5000⟩ }

/-- The selection of the emulator. -/
def emulatorSelection : Bytes := lit "tport:local"

/-- A request for any port. -/
def anyPort : Bytes := lit "forward:tcp:0;tcp:9"

/-- The connection of a client that wants a port of the emulator forwarded. -/
def forwardingConnection : Connection := Connection.asked.receiving readSentString
  (selectionReads .emulator ++ [.status, .status, .string]) (HostRequestEvent.allBytes sentString
    (HostRequest.serveSelected listeningEnv emulatorSelection anyPort oneEmulator).trace)

/-- A port is forwarded to the emulator, and the client prints it. -/
theorem port_forwarded : ∃ a h', oneEmulator.host.handleForwardRequest
      ⟨anyPort, .ok 2, .ok ⟨9, 5000⟩⟩ = some (forwardAnswer a, h') ∧
    (HostRequest.serveSelected listeningEnv emulatorSelection anyPort oneEmulator).state.host = h' ∧
    requestForward .bare true (lit "host:" ++ anyPort) (.over [versionSaid, forwardingConnection]) =
      ⟨.ok (forwardResult a), .over [], [.connects [], .sends (lit "host:version")] ++
        [.connects [], .sends (lit "host:" ++ emulatorSelection), .sends (lit "host:" ++ anyPort)] ++
          forwardOutput true a⟩ := by
  have htrace : (HostRequest.serveSelected listeningEnv emulatorSelection anyPort
      oneEmulator).trace = [.acquires ⟨.local, none, 0⟩ false, .reply .okay, .transportId 2,
        .reply .okay, .reply .okay, .reply (.protocolString (decimal 5000))] := by decide +kernel
  have hfits : HostRequestEvent.TextsFit (HostRequest.serveSelected listeningEnv emulatorSelection
      anyPort oneEmulator).trace := by
    rw [htrace]
    intro r hr text htext
    simp only [List.mem_cons, List.not_mem_nil, or_false, reduceCtorEq, false_or,
      HostRequestEvent.reply.injEq] at hr
    obtain rfl | rfl | rfl | rfl := hr
    · cases htext
    · cases htext
    · cases htext
    · cases htext
      decide
  have hparse : ∀ n < 2 ^ 64, listeningEnv.parseUint (2 ^ 64 - 1) (decimal n) = some n :=
    fun n hn => parseDecimal_decimal (Nat.le_pred_of_lt hn)
  have htype : (Wire.over [forwardingConnection]).transport ≠ .host := by decide
  have hid : (Wire.over [forwardingConnection]).transportId < 2 ^ 64 := Nat.two_pow_pos 64
  have hserial : ∀ serial, (Wire.over [forwardingConnection]).serial = some serial → 0 ∉ serial :=
    fun serial h => by cases h
  have hselection : switchService (Wire.over [forwardingConnection]) =
      some (lit "host:" ++ emulatorSelection) := by decide
  obtain ⟨sel, hsel, hdone, -⟩ := forward_over_connection true framed_sentString hparse htype hid
    hserial hselection (by decide) (by decide) (version_checked forwardingConnection) hfits
    (show Connection.asked.connected = .ok () from rfl) rfl rfl rfl
  obtain rfl : sel = ⟨.local, none, 0⟩ := by
    have hid : sel.id = 0 := UInt64.toNat.inj hsel.1
    obtain ⟨hserial, htype⟩ := hsel.2 rfl
    calc sel = ⟨sel.type, sel.serial, sel.id⟩ := rfl
      _ = ⟨.local, none, 0⟩ := by rw [hid, hserial, htype rfl]; rfl
  obtain ⟨a, h', hforward, hhost, hrun⟩ :=
    hdone (listeningEnv.transport oneEmulator.host 2) rfl
  rw [if_pos (show HostRequest.forwards anyPort = true by decide)] at hforward
  refine ⟨a, h', hforward, hhost, ?_⟩
  rw [hrun]
  rfl

end Client

end AdbMobile
