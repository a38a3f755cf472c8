import AdbMobile.FdConnection
import AdbMobile.Lib.Run

/-!
# The threads of a connection

`BlockingConnectionAdapter` makes a connection that blocks usable from the looper: `Write` queues a
packet for the write thread, the read thread hands what it reads to the looper, `Stop` closes the
descriptor and joins both, and `DoTlsHandshake` joins the read thread, does the handshake, and
starts another one (`transport.cpp`).

A `ConnectionAdapter` has the fields of the class, the places of its threads and of the threads
that call it, and the history of its packets. Each atomic step of one of them is an
`AdapterAction`. The mutex is held for one step everywhere but in `DoTlsHandshake`, which keeps it
while it joins and while the handshake lasts.
-/

namespace AdbMobile

open ByteString Run

/-- Where the write thread is. -/
inductive AdapterWriter
  /-- About to take `mutex_` and to test what `cv_` waits for. -/
  | testing
  | asleep
  /-- In `Write` of the packet that it took off the queue. -/
  | writing
  /-- `Write` failed, and `HandleError` comes next. -/
  | failed
  | returned
  deriving DecidableEq, Repr

/-- Where a read thread is. -/
inductive AdapterReader
  | reading
  /-- It has read a packet, and `HandleRead` comes next. -/
  | handling (p : APacket)
  /-- `Read` failed, and `HandleError` comes next. -/
  | failed
  | returned
  deriving DecidableEq, Repr

/-- Where the thread is that holds `mutex_` in `DoTlsHandshake`. -/
inductive AdapterHandshake
  | joining
  | shaking
  deriving DecidableEq, Repr

/-- Where the call of `Stop` is that has set `stopped_`. The two threads that it joins are those it
has moved out of `read_thread_` and `write_thread_`, where these hold any. -/
inductive StopCall
  | closing
  | notifying
  | moving
  | joiningReader (reader : Option ℕ) (writer : Bool)
  | joiningWriter (writer : Bool)
  | handlingError
  | returned
  deriving DecidableEq, Repr

/-- `BlockingConnectionAdapter`. -/
structure ConnectionAdapter where
  /-- `underlying_`. -/
  connection : FdConnection
  started : Bool
  stopped : Bool
  /-- `error_flag_` has been used. -/
  errorFlag : Bool
  writeQueue : List APacket
  /-- The number of the thread that `read_thread_` holds. -/
  readThread : Option ℕ
  /-- `write_thread_` holds the write thread. -/
  writeThread : Bool
  /-- All read threads that were started. -/
  readers : List AdapterReader
  /-- The write thread, once it was started. -/
  writer : Option AdapterWriter
  /-- What is left to write of the packet that the write thread took last. -/
  unwritten : Bytes
  handshake : Option AdapterHandshake
  /-- The threads of `adb_auth_tls_handshake` that are yet to take `mutex_`. -/
  handshakes : ℕ
  /-- The callers of `Write` that have queued their packet, and not called `notify_one` yet. -/
  notifiers : ℕ
  /-- The callers of `Reset` that have found the adapter running, and not reset `underlying_` yet. -/
  resetters : ℕ
  stop : Option StopCall
  /-- The packets for which `handle_packet` is queued on the looper. -/
  looperQueue : List APacket
  transport : ATransport
  /-- The packets that were given to `Write`. -/
  queued : List APacket
  /-- The packets that the write thread took off the queue. -/
  taken : List APacket
  /-- The bytes that have come from the peer. -/
  received : Bytes
  /-- The packets that were read. -/
  packetsRead : List APacket
  /-- The packets that were given to `HandleRead`. -/
  handed : List APacket
  /-- The packets that `HandleRead` queued on the looper. -/
  delivered : List APacket
  /-- The calls of `HandleError`. -/
  errors : ℕ

/-- A step of one of the threads. -/
inductive AdapterAction
  | start
  /-- `Write` queues a packet. -/
  | push (p : APacket)
  /-- `Write` calls `notify_one`. -/
  | notify
  /-- `Reset` finds the adapter running. -/
  | resetChecks
  /-- `Reset` resets `underlying_`, which closes its descriptor or does not, and goes on to
  `Stop`. -/
  | resetUnderlying (closes : Bool)
  | stopSets
  | stopCloses
  | stopNotifies
  | stopMoves
  | stopJoinsReader (i : ℕ) (writer : Bool)
  | stopJoinsWriter
  | stopHandlesError
  /-- The write thread finds `stopped_` set. -/
  | writerReturns
  | writerTakes (p : APacket)
  | writerSleeps
  /-- The write thread wakes though it was not notified. -/
  | writerWakes
  /-- `Write` writes the next `n` bytes of the packet. -/
  | writes (n : ℕ)
  | writeReturns
  | writeFails
  | writerHandlesError
  | reads (i : ℕ) (p : APacket)
  | readFails (i : ℕ)
  | handleRead (i : ℕ) (p : APacket)
  | readerHandlesError (i : ℕ)
  | handshakeLocks
  | handshakeJoins
  | handshakeEnds (success : Bool)
  /-- Bytes come from the peer. -/
  | receive (bytes : Bytes)
  /-- The looper handles the first packet of its queue. -/
  | handlePacket (p : APacket)

/-- What `Write` writes of a packet. -/
def APacket.toWrite (p : APacket) : Bytes :=
  p.msg.bytes ++ p.payload.take p.msg.dataLength.toNat

/-- `Write` on an open connection appends these bytes, over TLS or not. -/
theorem FdConnection.write_eq_toWrite {c : FdConnection} (hopen : c.isOpen = true) (p : APacket) :
    c.write p = some { c with outgoing := c.outgoing ++ p.toWrite } := by
  have hdispatch : ∀ (c : FdConnection) (buf : Bytes), c.isOpen = true →
      c.dispatchWrite buf = some { c with outgoing := c.outgoing ++ buf } := by
    intro c buf hopen
    rw [dispatchWrite]
    split
    · rename_i hskip
      rw [List.length_eq_zero_iff.mp hskip.2, List.append_nil]
    · simp only [hopen]
  have hpayload := hdispatch { c with outgoing := c.outgoing ++ p.msg.bytes }
    (p.payload.take p.msg.dataLength.toNat) hopen
  rw [write, hdispatch c _ hopen, Option.bind_some]
  split
  · rw [hpayload, APacket.toWrite, List.append_assoc]
  · rename_i hzero
    rw [APacket.toWrite, not_not.mp hzero, UInt32.toNat_zero, List.take_zero, List.append_nil]

/-- And so do several. -/
theorem FdConnection.writeAll_eq_toWrite (ps : List APacket) :
    ∀ {c : FdConnection}, c.isOpen = true →
      c.writeAll ps = some { c with outgoing := c.outgoing ++ ps.flatMap APacket.toWrite } := by
  induction ps with
  | nil => simp [writeAll]
  | cons p ps ih =>
    intro c hopen
    have hrest := ih (c := { c with outgoing := c.outgoing ++ p.toWrite }) hopen
    rw [writeAll, List.foldlM_cons, write_eq_toWrite hopen p]
    rw [writeAll] at hrest
    simp only [Option.bind_eq_bind, Option.bind_some, hrest, List.flatMap_cons, List.append_assoc]

/-- The packet is an `A_STLS`. -/
def APacket.isStls (p : APacket) : Bool := p.msg.command = Command.stls.word

/-- `Stop` has moved the threads out. -/
def StopCall.moved : StopCall → Bool
  | .closing | .notifying | .moving => false
  | _ => true

namespace ConnectionAdapter

/-- An adapter that was not started, with its connection open. -/
def new (tls : Bool) (t : ATransport) : ConnectionAdapter where
  connection := ⟨tls, true, [], []⟩
  started := false
  stopped := false
  errorFlag := false
  writeQueue := []
  readThread := none
  writeThread := false
  readers := []
  writer := none
  unwritten := []
  handshake := none
  handshakes := 0
  notifiers := 0
  resetters := 0
  stop := none
  looperQueue := []
  transport := t
  queued := []
  taken := []
  received := []
  packetsRead := []
  handed := []
  delivered := []
  errors := 0

/-- `Stop` has moved the threads out. -/
def moved (s : ConnectionAdapter) : Bool := s.stop.any StopCall.moved

/-- The write thread after a `notify_one`. -/
def notified (s : ConnectionAdapter) : Option AdapterWriter :=
  if s.writer = some .asleep then some .testing else s.writer

/-- The step may be taken. -/
def Enabled (s : ConnectionAdapter) : AdapterAction → Prop
  -- `LOG(FATAL)` if it was started.
  | .start => s.handshake = none ∧ s.started = false
  | .push _ => s.handshake = none
  | .notify => 0 < s.notifiers
  | .resetChecks | .stopSets => s.handshake = none ∧ s.started = true ∧ s.stopped = false
  | .resetUnderlying _ => 0 < s.resetters
  | .stopCloses => s.stop = some .closing
  | .stopNotifies => s.stop = some .notifying
  | .stopMoves => s.handshake = none ∧ s.stop = some .moving
  | .stopJoinsReader i writer => s.stop = some (.joiningReader (some i) writer) ∧
      s.readers[i]? = some .returned
  | .stopJoinsWriter => s.stop = some (.joiningWriter true) ∧ s.writer = some .returned
  | .stopHandlesError => s.stop = some .handlingError
  | .writerReturns => s.handshake = none ∧ s.writer = some .testing ∧ s.stopped = true
  | .writerTakes p => s.handshake = none ∧ s.writer = some .testing ∧ s.stopped = false ∧
      s.writeQueue.head? = some p
  | .writerSleeps => s.handshake = none ∧ s.writer = some .testing ∧ s.stopped = false ∧
      s.writeQueue = []
  | .writerWakes => s.writer = some .asleep
  | .writes n => s.writer = some .writing ∧ s.connection.isOpen = true ∧ 0 < n ∧
      n ≤ s.unwritten.length
  | .writeReturns => s.writer = some .writing ∧ s.unwritten = []
  | .writeFails => s.writer = some .writing ∧ s.unwritten ≠ []
  | .writerHandlesError => s.writer = some .failed
  | .reads i p => s.readers[i]? = some .reading ∧ s.connection.read.map Prod.fst = some p
  | .readFails i => s.readers[i]? = some .reading
  | .handleRead i p => s.readers[i]? = some (.handling p)
  | .readerHandlesError i => s.readers[i]? = some .failed
  | .handshakeLocks => s.handshake = none ∧ 0 < s.handshakes
  | .handshakeJoins => s.handshake = some .joining ∧
      ∀ i ∈ s.readThread, s.readers[i]? = some .returned
  | .handshakeEnds success => s.handshake = some .shaking ∧
      (success = true → s.connection.isOpen = true)
  | .receive _ => s.connection.isOpen = true
  | .handlePacket p => s.looperQueue.head? = some p

instance (s : ConnectionAdapter) (a : AdapterAction) : Decidable (s.Enabled a) := by
  cases a <;> unfold Enabled <;> infer_instance

/-- `call_once` of `HandleError`. -/
def handleError (s : ConnectionAdapter) : ConnectionAdapter :=
  { s with errorFlag := true, errors := if s.errorFlag then s.errors else s.errors + 1 }

/-- `StartReadThread`. -/
def startReadThread (s : ConnectionAdapter) : ConnectionAdapter :=
  { s with readers := s.readers ++ [.reading], readThread := some s.readers.length }

/-- `HandleRead`: a packet with a bad header is dropped. -/
def handleRead (s : ConnectionAdapter) (p : APacket) : ConnectionAdapter :=
  let passed := if s.transport.checkHeader p then [p] else []
  { s with
    looperQueue := s.looperQueue ++ passed
    handed := s.handed ++ [p]
    delivered := s.delivered ++ passed }

/-- What `handle_packet` of a packet has to do with the adapter: `adb_auth_tls_handshake` starts a
thread, and `handle_new_connection` sets the limit that the headers are checked against. -/
def handlePacket (s : ConnectionAdapter) (p : APacket) : ConnectionAdapter :=
  { s with
    handshakes := if p.isStls then s.handshakes + 1 else s.handshakes
    transport :=
      if p.msg.command = Command.cnxn.word then
        s.transport.updateVersion (intOfWord p.msg.arg0) p.msg.arg1.toNat
      else s.transport }

/-- The connection after a packet was read. -/
def afterRead (s : ConnectionAdapter) : FdConnection :=
  (s.connection.read.map Prod.snd).getD s.connection

/-- The state after the step. -/
def after (s : ConnectionAdapter) : AdapterAction → ConnectionAdapter
  | .start =>
    { s.startReadThread with started := true, writer := some .testing, writeThread := true }
  | .push p =>
    { s with
      writeQueue := s.writeQueue ++ [p]
      queued := s.queued ++ [p]
      notifiers := s.notifiers + 1 }
  | .notify => { s with notifiers := s.notifiers - 1, writer := s.notified }
  | .resetChecks => { s with resetters := s.resetters + 1 }
  | .resetUnderlying closes =>
    { s with
      resetters := s.resetters - 1
      connection.isOpen := s.connection.isOpen && !closes }
  | .stopSets => { s with stopped := true, stop := some .closing }
  | .stopCloses => { s with connection.isOpen := false, stop := some .notifying }
  | .stopNotifies => { s with writer := s.notified, stop := some .moving }
  | .stopMoves =>
    { s with
      readThread := none
      writeThread := false
      stop := some (.joiningReader s.readThread s.writeThread) }
  | .stopJoinsReader _ writer => { s with stop := some (.joiningWriter writer) }
  | .stopJoinsWriter => { s with stop := some .handlingError }
  | .stopHandlesError => { s.handleError with stop := some .returned }
  | .writerReturns => { s with writer := some .returned }
  | .writerTakes p =>
    { s with
      writeQueue := s.writeQueue.tail
      taken := s.taken ++ [p]
      unwritten := p.toWrite
      writer := some .writing }
  | .writerSleeps => { s with writer := some .asleep }
  | .writerWakes => { s with writer := some .testing }
  | .writes n =>
    { s with
      connection.outgoing := s.connection.outgoing ++ s.unwritten.take n
      unwritten := s.unwritten.drop n }
  | .writeReturns => { s with writer := some .testing }
  | .writeFails => { s with writer := some .failed }
  | .writerHandlesError => { s.handleError with writer := some .returned }
  | .reads i p =>
    { s with
      connection := s.afterRead
      readers := s.readers.set i (.handling p)
      packetsRead := s.packetsRead ++ [p] }
  | .readFails i => { s with readers := s.readers.set i .failed }
  | .handleRead i p =>
    { s.handleRead p with
      readers := s.readers.set i (if p.isStls then .returned else .reading) }
  | .readerHandlesError i => { s.handleError with readers := s.readers.set i .returned }
  | .handshakeLocks =>
    { s with handshake := some .joining, handshakes := s.handshakes - 1 }
  | .handshakeJoins => { s with handshake := some .shaking, readThread := none }
  | .handshakeEnds success =>
    { s.startReadThread with handshake := none, connection.tls := success }
  | .receive bytes =>
    { s with
      connection.incoming := s.connection.incoming ++ bytes
      received := s.received ++ bytes }
  | .handlePacket p => { s.handlePacket p with looperQueue := s.looperQueue.tail }

/-- One step. -/
def step (s : ConnectionAdapter) (a : AdapterAction) : Option ConnectionAdapter :=
  if s.Enabled a then some (s.after a) else none

/-- The step was enabled. -/
theorem step_eq_some {s s' : ConnectionAdapter} {a : AdapterAction} (h : step s a = some s') :
    s.Enabled a ∧ s' = s.after a := by
  unfold step at h
  split at h
  · rename_i henabled
    cases h
    exact ⟨henabled, rfl⟩
  · cases h

/-- What holds between the steps of what is queued and what is written: the packets that were taken
are those queued first, their bytes are written but for the end of the last one, and of that nothing
is missing unless the write thread is in `Write` or past it. -/
structure Flow (s : ConnectionAdapter) : Prop where
  queued : s.queued = s.taken ++ s.writeQueue
  bytes : s.connection.outgoing ++ s.unwritten = s.taken.flatMap APacket.toWrite
  last : s.unwritten <:+ (s.taken.getLast?.map APacket.toWrite).getD []
  between : s.unwritten ≠ [] →
    s.writer = some .writing ∨ s.writer = some .failed ∨ s.writer = some .returned
  started : s.writer ≠ none → s.started = true

variable {s s' : ConnectionAdapter} {a : AdapterAction}

theorem Flow.new (tls : Bool) (t : ATransport) : Flow (new tls t) where
  queued := rfl
  bytes := rfl
  last := List.suffix_rfl
  between h := absurd rfl h
  started h := absurd rfl h

/-- A notification wakes the write thread only where it sleeps. -/
theorem notified_eq (s : ConnectionAdapter) :
    s.writer = some .asleep ∧ s.notified = some .testing ∨
      s.writer ≠ some .asleep ∧ s.notified = s.writer := by
  unfold notified
  split
  · rename_i hasleep
    exact .inl ⟨hasleep, rfl⟩
  · rename_i hawake
    exact .inr ⟨hawake, rfl⟩

/-- A notification finds nothing left to write, or leaves the write thread where it is. -/
theorem Flow.between_notified (hi : Flow s) (h : s.unwritten ≠ []) :
    s.notified = some .writing ∨ s.notified = some .failed ∨ s.notified = some .returned := by
  rcases notified_eq s with ⟨hasleep, -⟩ | ⟨-, hsame⟩
  · rcases hi.between h with hw | hw | hw <;> cases hasleep.symm.trans hw
  · rw [hsame]
    exact hi.between h

/-- A write thread that is somewhere was started. -/
theorem Flow.started_of (hi : Flow s) {w : AdapterWriter} (hw : s.writer = some w) :
    s.started = true :=
  hi.started (by simp [hw])

/-- A notification starts no thread. -/
theorem Flow.started_notified (hi : Flow s) (h : s.notified ≠ none) : s.started = true := by
  rcases notified_eq s with ⟨hasleep, -⟩ | ⟨-, hsame⟩
  · exact hi.started_of hasleep
  · exact hi.started (hsame ▸ h)

/-- A packet that is read comes off what the peer has sent, and nothing else changes. -/
theorem afterRead_eq {p : APacket} (h : s.connection.read.map Prod.fst = some p) :
    s.connection.isOpen = true ∧ ∃ rest, readPacket s.connection.incoming = some (p, rest) ∧
      s.afterRead = { s.connection with incoming := rest } := by
  have hopen : s.connection.isOpen = true := by
    by_contra hclosed
    rw [FdConnection.read_closed (by simpa using hclosed)] at h
    cases h
  have hread : s.connection.read = (readPacket s.connection.incoming).map
      (Prod.map id fun s' => { s.connection with incoming := s' }) :=
    FdConnection.read_eq hopen s.connection.incoming
  refine ⟨hopen, ?_⟩
  cases hpacket : readPacket s.connection.incoming with
  | none => rw [hread, hpacket] at h; cases h
  | some r =>
    obtain ⟨q, rest⟩ := r
    rw [hread, hpacket] at h
    cases h
    refine ⟨rest, rfl, ?_⟩
    rw [afterRead, hread, hpacket]
    rfl

/-- Nothing is left to write where the write thread is not in `Write`, and not past it. -/
theorem Flow.unwritten_nil (hi : Flow s) {w : AdapterWriter} (hw : s.writer = some w)
    (hbetween : w = .testing ∨ w = .asleep) : s.unwritten = [] := by
  by_contra hne
  rcases hi.between hne with h | h | h <;> rcases hbetween with rfl | rfl <;>
    cases hw.symm.trans h

/-- The write thread takes the packet that was queued first. -/
theorem Flow.writerTakes {p : APacket} (hi : Flow s) (hw : s.writer = some .testing)
    (hhead : s.writeQueue.head? = some p) : Flow (s.after (.writerTakes p)) where
  queued := by
    obtain ⟨rest, hqueue⟩ := List.head?_eq_some_iff.mp hhead
    show s.queued = (s.taken ++ [p]) ++ s.writeQueue.tail
    rw [hi.queued, hqueue, List.tail_cons, List.append_assoc, List.singleton_append]
  bytes := by
    have hbytes := hi.bytes
    rw [hi.unwritten_nil hw (.inl rfl), List.append_nil] at hbytes
    show s.connection.outgoing ++ p.toWrite = (s.taken ++ [p]).flatMap APacket.toWrite
    rw [hbytes, List.flatMap_append, List.flatMap_singleton]
  last := by
    show p.toWrite <:+ ((s.taken ++ [p]).getLast?.map APacket.toWrite).getD []
    rw [List.getLast?_concat]
    exact List.suffix_rfl
  between _ := .inl rfl
  started _ := hi.started_of hw

/-- The bytes that `Write` writes are the next ones. -/
theorem Flow.writes {n : ℕ} (hi : Flow s) (hw : s.writer = some .writing) :
    Flow (s.after (.writes n)) where
  queued := hi.queued
  bytes := by
    show s.connection.outgoing ++ s.unwritten.take n ++ s.unwritten.drop n = _
    rw [List.append_assoc, List.take_append_drop]
    exact hi.bytes
  last := (List.drop_suffix n s.unwritten).trans hi.last
  between _ := .inl hw
  started := hi.started

/-- Every step keeps the order and the bytes of the packets. -/
theorem Flow.step (hi : Flow s) (hs : step s a = some s') : Flow s' := by
  obtain ⟨henabled, rfl⟩ := step_eq_some hs
  cases a with
  | start =>
    have hnothing : s.unwritten = [] := by
      by_contra hne
      have hstarted : s.started = true := hi.started fun hnone => by
        rcases hi.between hne with h | h | h <;> cases hnone.symm.trans h
      cases henabled.2.symm.trans hstarted
    exact ⟨hi.queued, hi.bytes, hi.last, fun h => absurd hnothing h, fun _ => rfl⟩
  | push p =>
    have hqueued : s.queued ++ [p] = s.taken ++ (s.writeQueue ++ [p]) := by
      rw [hi.queued, List.append_assoc]
    exact ⟨hqueued, hi.bytes, hi.last, hi.between, hi.started⟩
  | notify => exact ⟨hi.queued, hi.bytes, hi.last, hi.between_notified, hi.started_notified⟩
  | stopNotifies => exact ⟨hi.queued, hi.bytes, hi.last, hi.between_notified, hi.started_notified⟩
  | writerTakes p => exact hi.writerTakes henabled.2.1 henabled.2.2.2
  | writes n => exact hi.writes henabled.1
  | writerReturns =>
    have hstarted := hi.started_of henabled.2.1
    exact ⟨hi.queued, hi.bytes, hi.last, fun _ => .inr (.inr rfl), fun _ => hstarted⟩
  | writerHandlesError =>
    have hstarted := hi.started_of henabled
    exact ⟨hi.queued, hi.bytes, hi.last, fun _ => .inr (.inr rfl), fun _ => hstarted⟩
  | writeFails =>
    have hstarted := hi.started_of henabled.1
    exact ⟨hi.queued, hi.bytes, hi.last, fun _ => .inr (.inl rfl), fun _ => hstarted⟩
  | writeReturns =>
    have hstarted := hi.started_of henabled.1
    exact ⟨hi.queued, hi.bytes, hi.last, fun h => absurd henabled.2 h, fun _ => hstarted⟩
  | writerSleeps =>
    have hnothing := hi.unwritten_nil henabled.2.1 (.inl rfl)
    have hstarted := hi.started_of henabled.2.1
    exact ⟨hi.queued, hi.bytes, hi.last, fun h => absurd hnothing h, fun _ => hstarted⟩
  | writerWakes =>
    have hnothing := hi.unwritten_nil henabled (.inr rfl)
    have hstarted := hi.started_of henabled
    exact ⟨hi.queued, hi.bytes, hi.last, fun h => absurd hnothing h, fun _ => hstarted⟩
  | reads i p =>
    obtain ⟨-, rest, -, hafter⟩ := afterRead_eq henabled.2
    refine ⟨hi.queued, ?_, hi.last, hi.between, hi.started⟩
    show s.afterRead.outgoing ++ s.unwritten = _
    rw [hafter]
    exact hi.bytes
  | _ => exact ⟨hi.queued, hi.bytes, hi.last, hi.between, hi.started⟩

/-- What was written is a prefix of the bytes of what was queued. -/
theorem Flow.outgoing_prefix (hi : Flow s) :
    s.connection.outgoing <+: s.queued.flatMap APacket.toWrite := by
  rw [hi.queued, List.flatMap_append, ← hi.bytes, List.append_assoc]
  exact List.prefix_append _ _

/-- Whatever the order of the steps, the connection writes the packets in the order in which they
were given to `Write`: those that the write thread took are those queued first, the ones that are
left are still queued, all bytes of those taken are written but for an end of the last of them, and
so what the peer is sent is at any time a prefix of the bytes of all packets that were queued. While
the write thread is between two packets, it has written what `FdConnection::Write` writes for those
that it took, one after the other. -/
theorem packets_written_in_order (tls : Bool) (t : ATransport) (xs : List AdapterAction) :
    Throughout step (fun s =>
      s.queued = s.taken ++ s.writeQueue ∧
      s.connection.outgoing ++ s.unwritten = s.taken.flatMap APacket.toWrite ∧
      s.unwritten <:+ (s.taken.getLast?.map APacket.toWrite).getD [] ∧
      s.connection.outgoing <+: s.queued.flatMap APacket.toWrite ∧
      (s.writer = some .testing ∨ s.writer = some .asleep →
        (⟨tls, true, [], []⟩ : FdConnection).writeAll s.taken =
          some ⟨tls, true, [], s.connection.outgoing⟩)) (new tls t) xs := by
  have hflow : Throughout step Flow (new tls t) xs :=
    throughout_of_meets (fun _ _ _ hi _ hs => hi.step hs) (.new tls t)
      (meets_of_forall fun _ _ _ => trivial)
  refine hflow.mono fun s hi => ⟨hi.queued, hi.bytes, hi.last, hi.outgoing_prefix, fun hw => ?_⟩
  have hnothing : s.unwritten = [] := by
    rcases hw with hw | hw
    · exact hi.unwritten_nil hw (.inl rfl)
    · exact hi.unwritten_nil hw (.inr rfl)
  have hbytes := hi.bytes
  rw [hnothing, List.append_nil] at hbytes
  rw [FdConnection.writeAll_eq_toWrite s.taken rfl, List.nil_append, hbytes]

end ConnectionAdapter

end AdbMobile
