import AdbMobile.Lib.Run
import AdbMobile.Transport

/-!
# The read thread

A `BlockingConnectionAdapter` that was started has a thread that reads packets and hands them to
`HandleRead`, which queues them on the looper. The thread stops at an `A_STLS`, because a handshake
will follow on the same descriptor, and `DoTlsHandshake` starts it again. It looks at the command
alone, and `HandleRead`, whose result it ignores, drops a packet with a bad header: after an
`A_STLS` of that kind the thread is gone, and nothing starts it again.

In every run the connection has a reader, a handshake under way, or has reported its error, exactly
when every `A_STLS` that is read has a good header (`reader_iff`).
-/

namespace AdbMobile

open ByteString Run

/-- Where the read thread is. -/
inductive ReaderPhase
  | reading
  /-- Past `HandleRead` of an `A_STLS`. -/
  | returning
  | returned
  deriving DecidableEq, Repr

/-- A `BlockingConnectionAdapter`, and what it has to do with its transport and the looper. -/
structure ReadAdapter where
  reader : ReaderPhase
  /-- The packets for which `handle_packet` is queued on the looper. -/
  queue : List APacket
  /-- The handshakes that were begun for an `A_STLS` and have yet to restart the reader. -/
  handshakes : ℕ
  /-- `HandleError` was called (`error_flag_`). -/
  errorHandled : Bool
  /-- `stopped_`. -/
  stopped : Bool
  transport : ATransport

/-- A step of one of the threads. -/
inductive ReadAction
  /-- `Read` returns a packet, and `HandleRead` takes it. -/
  | read (p : APacket)
  | readFails
  /-- The read thread returns. -/
  | threadReturns
  | writeFails
  /-- The looper handles the first packet of its queue. -/
  | handlePacket
  /-- `DoTlsHandshake` joins the read thread, and starts another. -/
  | doTlsHandshake
  | stop

namespace ReadAdapter

/-- The adapter after `Start`. -/
def started (t : ATransport) : ReadAdapter := ⟨.reading, [], 0, false, false, t⟩

/-- The packet is an `A_STLS`. -/
def isStls (p : APacket) : Bool := p.msg.command = Command.stls.word

/-- `HandleRead`: a packet with a bad header is dropped. -/
def handleRead (a : ReadAdapter) (p : APacket) : ReadAdapter :=
  if a.transport.checkHeader p then { a with queue := a.queue ++ [p] } else a

/-- What `handle_packet` of a packet has to do with the reader: `adb_auth_tls_handshake` begins a
handshake, and `handle_new_connection` sets the limit that the headers are checked against. -/
def handlePacket (a : ReadAdapter) (p : APacket) : ReadAdapter :=
  if isStls p then { a with handshakes := a.handshakes + 1 }
  else if p.msg.command = Command.cnxn.word then
    { a with transport := a.transport.updateVersion (intOfWord p.msg.arg0) p.msg.arg1.toNat }
  else a

/-- One step. -/
def step (a : ReadAdapter) : ReadAction → Option ReadAdapter
  | .read p =>
    if a.reader = .reading then
      some { a.handleRead p with reader := if isStls p then .returning else .reading }
    else none
  | .readFails =>
    if a.reader = .reading then some { a with reader := .returned, errorHandled := true } else none
  | .threadReturns =>
    if a.reader = .returning then some { a with reader := .returned } else none
  | .writeFails => some { a with errorHandled := true }
  | .handlePacket =>
    match a.queue with
    | p :: ps => some ({ a with queue := ps }.handlePacket p)
    | [] => none
  | .doTlsHandshake =>
    if a.reader = .returned ∧ 0 < a.handshakes then
      some { a with reader := .reading, handshakes := a.handshakes - 1 }
    else none
  | .stop => some { a with stopped := true }

/-- The connection is not deaf: its reader reads, the handling of an `A_STLS` is queued or in
progress, or its error was reported. One that was stopped need not be. -/
def HasReader (a : ReadAdapter) : Prop :=
  a.reader = .reading ∨ (∃ p ∈ a.queue, isStls p) ∨ 0 < a.handshakes ∨ a.errorHandled = true ∨
    a.stopped = true

/-- An `A_STLS` that is read has a good header, if the connection is still up. -/
def StlsChecked (a : ReadAdapter) : ReadAction → Prop
  | .read p => isStls p → a.transport.checkHeader p = true ∨ a.errorHandled = true ∨
      a.stopped = true
  | _ => True

/-- The restarts of the reader that are to come. -/
def restarts (a : ReadAdapter) : ℕ := a.queue.countP isStls + a.handshakes

/-- What holds between the steps: there is no restart to come while the reader reads, never more
than one, and there is one where the reader has stopped and the connection is up. -/
structure Inv (a : ReadAdapter) : Prop where
  reading : a.reader = .reading → a.restarts = 0
  le_one : a.restarts ≤ 1
  stopped : a.reader ≠ .reading → a.errorHandled = false → a.stopped = false → a.restarts = 1

variable {a a' : ReadAdapter}

theorem Inv.started (t : ATransport) : Inv (started t) :=
  ⟨fun _ => rfl, Nat.zero_le _, fun h => absurd rfl h⟩

/-- A restart to come is a packet in the queue or a handshake. -/
theorem restarts_pos_iff (a : ReadAdapter) :
    0 < a.restarts ↔ (∃ p ∈ a.queue, isStls p) ∨ 0 < a.handshakes := by
  have hcount : 0 < a.queue.countP isStls ↔ ∃ p ∈ a.queue, isStls p := by
    simp [List.countP_pos_iff]
  rw [← hcount, restarts]
  omega

/-- The invariant gives what is asked. -/
theorem Inv.hasReader (hi : Inv a) : HasReader a := by
  by_cases hreading : a.reader = .reading
  · exact .inl hreading
  · cases herror : a.errorHandled with
    | true => exact .inr (.inr (.inr (.inl herror)))
    | false =>
      cases hstopped : a.stopped with
      | true => exact .inr (.inr (.inr (.inr hstopped)))
      | false =>
        have hone := hi.stopped hreading herror hstopped
        rcases (restarts_pos_iff a).mp (by omega) with hqueue | hhandshakes
        · exact .inr (.inl hqueue)
        · exact .inr (.inr (.inl hhandshakes))

/-- What `HandleRead` does to the restarts: an `A_STLS` with a good header is one. -/
theorem restarts_handleRead (a : ReadAdapter) (p : APacket) : (a.handleRead p).restarts =
    a.restarts + if a.transport.checkHeader p = true ∧ isStls p then 1 else 0 := by
  unfold handleRead restarts
  split
  · rename_i hgood
    rw [List.countP_append]
    by_cases hstls : isStls p
    · simp [hgood, hstls]
      omega
    · simp [hstls]
  · rename_i hbad
    simp [hbad]

/-- `HandleRead` has no part in the rest. -/
theorem handleRead_frame (a : ReadAdapter) (p : APacket) :
    (a.handleRead p).errorHandled = a.errorHandled ∧ (a.handleRead p).stopped = a.stopped := by
  unfold handleRead
  split <;> exact ⟨rfl, rfl⟩

/-- A packet that is handled is a restart in progress, if it was one that was queued. -/
theorem restarts_handlePacket {p : APacket} {ps : List APacket} (hq : a.queue = p :: ps) :
    ({ a with queue := ps }.handlePacket p).restarts = a.restarts := by
  unfold handlePacket restarts
  rw [hq, List.countP_cons]
  split
  · dsimp only
    omega
  · split <;> rfl

/-- Handling a packet has no part in the rest. -/
theorem handlePacket_frame (a : ReadAdapter) (p : APacket) :
    (a.handlePacket p).reader = a.reader ∧ (a.handlePacket p).errorHandled = a.errorHandled ∧
      (a.handlePacket p).stopped = a.stopped := by
  unfold handlePacket
  split
  · exact ⟨rfl, rfl, rfl⟩
  · split <;> exact ⟨rfl, rfl, rfl⟩

/-- Reading a packet: an `A_STLS` that stops the reader is one restart to come. -/
theorem Inv.read {p : APacket} (hi : Inv a) (hg : StlsChecked a (.read p))
    (hreading : a.reader = .reading) :
    Inv { a.handleRead p with reader := if isStls p then .returning else .reading } := by
  have hzero := hi.reading hreading
  have hrestarts := restarts_handleRead a p
  rw [hzero, Nat.zero_add] at hrestarts
  obtain ⟨herror, hstopped⟩ := handleRead_frame a p
  refine ⟨fun hafter => ?_, ?_, fun hafter hnoerror hnotstopped => ?_⟩
  · have hstls : ¬ isStls p := by
      intro hstls
      simp [hstls] at hafter
    show (a.handleRead p).restarts = 0
    rw [hrestarts, if_neg fun h => hstls h.2]
  · show (a.handleRead p).restarts ≤ 1
    rw [hrestarts]
    split <;> omega
  · have hstls : isStls p := by
      by_contra hstls
      simp [hstls] at hafter
    -- The connection is up, so the header is good and the packet is queued.
    have hgood : a.transport.checkHeader p = true := by
      rcases hg hstls with hgood | hhandled | hdone
      · exact hgood
      · rw [← herror, hnoerror] at hhandled
        cases hhandled
      · rw [← hstopped, hnotstopped] at hdone
        cases hdone
    show (a.handleRead p).restarts = 1
    rw [hrestarts, if_pos ⟨hgood, hstls⟩]

/-- A handshake that is done was the restart to come. -/
theorem Inv.doTlsHandshake (hi : Inv a) (hpending : 0 < a.handshakes) :
    Inv { a with reader := .reading, handshakes := a.handshakes - 1 } := by
  have hle := hi.le_one
  have hzero : a.queue.countP isStls + (a.handshakes - 1) = 0 := by
    unfold restarts at hle
    omega
  exact ⟨fun _ => hzero, hzero.trans_le (Nat.zero_le 1), fun h => absurd rfl h⟩

/-- A step that meets the condition keeps the invariant. -/
theorem Inv.step {x : ReadAction} (hi : Inv a) (hg : StlsChecked a x) (hs : a.step x = some a') :
    Inv a' := by
  cases x with
  | read p =>
    simp only [ReadAdapter.step] at hs
    split at hs
    · rename_i hreading
      cases hs
      exact hi.read hg hreading
    · cases hs
  | readFails =>
    simp only [ReadAdapter.step] at hs
    split at hs
    · cases hs
      refine ⟨fun h => ?_, hi.le_one, fun _ h => ?_⟩
      · cases h
      · cases h
    · cases hs
  | threadReturns =>
    simp only [ReadAdapter.step] at hs
    split at hs
    · rename_i hreturning
      cases hs
      refine ⟨fun h => ?_, hi.le_one, fun _ => hi.stopped ?_⟩
      · cases h
      · rw [hreturning]
        decide
    · cases hs
  | writeFails =>
    cases hs
    refine ⟨hi.reading, hi.le_one, fun _ h => ?_⟩
    cases h
  | handlePacket =>
    simp only [ReadAdapter.step] at hs
    split at hs
    · rename_i p ps hq
      cases hs
      obtain ⟨hreader, herror, hstopped⟩ := handlePacket_frame { a with queue := ps } p
      constructor
      · rw [hreader, restarts_handlePacket hq]
        exact hi.reading
      · rw [restarts_handlePacket hq]
        exact hi.le_one
      · rw [hreader, herror, hstopped, restarts_handlePacket hq]
        exact hi.stopped
    · cases hs
  | doTlsHandshake =>
    simp only [ReadAdapter.step] at hs
    split at hs
    · rename_i hwaiting
      cases hs
      exact hi.doTlsHandshake hwaiting.2
    · cases hs
  | stop =>
    cases hs
    refine ⟨hi.reading, hi.le_one, fun _ _ h => ?_⟩
    cases h

/-- An `A_STLS` with a bad header leaves the connection deaf. -/
theorem not_hasReader {x : ReadAction} (hi : Inv a) (hg : ¬ StlsChecked a x)
    (hs : a.step x = some a') : ¬ HasReader a' := by
  cases x with
  | read p =>
    simp only [StlsChecked, not_forall, not_or] at hg
    obtain ⟨hstls, hbad, hnoerror, hnotstopped⟩ := hg
    simp only [ReadAdapter.step] at hs
    split at hs
    · rename_i hreading
      cases hs
      have hdropped : a.handleRead p = a := if_neg hbad
      have hnone : ¬ ((∃ p ∈ a.queue, isStls p) ∨ 0 < a.handshakes) := by
        rw [← restarts_pos_iff, hi.reading hreading]
        exact Nat.lt_irrefl 0
      rw [hdropped]
      rintro (hafter | hqueue | hhandshakes | herror | hstopped)
      · cases hafter
      · exact hnone (.inl hqueue)
      · exact hnone (.inr hhandshakes)
      · exact hnoerror herror
      · exact hnotstopped hstopped
    · cases hs
  | _ => exact absurd trivial hg

/-- In every run of a connection that was started, it has a reader, a handshake to restart it, or
has reported its error in every state exactly when every `A_STLS` that is read while it is up has a
good header. -/
theorem reader_iff (t : ATransport) (xs : List ReadAction) :
    Throughout step HasReader (started t) xs ↔ Meets step StlsChecked (started t) xs :=
  throughout_iff_meets (fun _ hi => hi.hasReader) (fun _ _ _ hi hg hs => hi.step hg hs)
    (fun _ _ _ hi hg hs => not_hasReader hi hg hs) (.started t)

/-- An `A_STLS` with no magic. -/
def badStls : APacket := { getApacket with msg.command := Command.stls.word }

/-- It stops the reader for good. -/
theorem deaf_after_bad_stls :
    ¬ ∀ (t : ATransport) (xs : List ReadAction), Throughout step HasReader (started t) xs := by
  intro hall
  have hreader := hall (.new .local [] .offline true) [.read badStls, .threadReturns]
  have hdeaf : HasReader ⟨.returned, [], 0, false, false, .new .local [] .offline true⟩ :=
    hreader.last (by rfl)
  rcases hdeaf with hafter | ⟨p, hp, -⟩ | hhandshakes | herror | hstopped
  · cases hafter
  · exact List.not_mem_nil hp
  · exact Nat.lt_irrefl 0 hhandshakes
  · cases herror
  · cases hstopped

end ReadAdapter

end AdbMobile
