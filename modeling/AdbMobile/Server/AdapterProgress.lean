import AdbMobile.Server.AdapterThreads

/-!
# Coming to rest

The steps that the threads of an adapter take by themselves, where a write and a handshake return,
come to an end (`work`), in a state where all packets are written, or the error was handled, or `Stop` has returned
(`adapter_settles`). After that nothing is read or written (`stop_is_final`). A handshake that ends
after `Stop` has moved the threads out starts one that nobody joins, and the destructor finds it
(`readers_joined_iff`).
-/

namespace AdbMobile

open ByteString Run

namespace ConnectionAdapter

variable {s s' : ConnectionAdapter} {a : AdapterAction} {t : ATransport} {tls : Bool}

/-- A step that the threads take by themselves: nobody calls, no bytes come, no thread wakes for no
reason, and no read or write fails while the descriptor is open. Some bytes of a write, and the end
of a handshake, are such steps: that both return is taken for granted. -/
def Internal (s : ConnectionAdapter) : AdapterAction → Prop
  | .start | .push _ | .resetChecks | .stopSets | .writerWakes | .receive _ | .handlePacket _ => False
  | .writeFails | .readFails _ => s.connection.isOpen = false
  | _ => True

/-- The threads take no step by themselves. -/
def Quiet (s : ConnectionAdapter) : Prop := ∀ a, s.Internal a → ¬ s.Enabled a

/-- What the write thread has yet to do by itself, with so many bytes left of its packet. -/
def writerWork (unwritten : ℕ) : AdapterWriter → ℕ
  | .testing => 2
  | .writing => unwritten + 3
  | .failed => 1
  | .asleep | .returned => 0

/-- What a read thread has yet to do, but for the bytes that have come. -/
def readerWork : AdapterReader → ℕ
  | .reading => 2
  | .handling _ => 3
  | .failed => 1
  | .returned => 0

/-- What `Stop` has yet to do. Its notification may wake the write thread. -/
def stopWork : StopCall → ℕ
  | .closing => 12
  | .notifying => 11
  | .moving => 8
  | .joiningReader _ _ => 6
  | .joiningWriter _ => 5
  | .handlingError => 4
  | .returned => 0

/-- What a handshake has yet to do. It starts a read thread. -/
def handshakeWork : AdapterHandshake → ℕ
  | .joining => 6
  | .shaking => 5

/-- What all of a list amount to. -/
def total {α : Type} (amount : α → ℕ) : List α → ℕ
  | [] => 0
  | a :: as => amount a + total amount as

theorem total_append {α : Type} (amount : α → ℕ) (as bs : List α) :
    total amount (as ++ bs) = total amount as + total amount bs := by
  induction as with
  | nil => exact (Nat.zero_add _).symm
  | cons a as ih => rw [List.cons_append, total, total, ih, Nat.add_assoc]

/-- A bound on the steps that the threads take by themselves. -/
def work (s : ConnectionAdapter) : ℕ :=
  2 * s.connection.incoming.length + total (fun p => p.toWrite.length + 2) s.writeQueue +
    s.writer.elim 0 (writerWork s.unwritten.length) + total readerWork s.readers +
    10 * s.handshakes + s.handshake.elim 0 handshakeWork + 3 * s.notifiers + s.resetters +
    s.stop.elim 0 stopWork

/-- What a read thread does is taken off what all have to do. -/
theorem readerWork_set {readers : List AdapterReader} {i : ℕ} {r : AdapterReader}
    (hr : readers[i]? = some r) (r' : AdapterReader) :
    total readerWork (readers.set i r') + readerWork r =
      total readerWork readers + readerWork r' := by
  induction readers generalizing i with
  | nil => cases hr
  | cons first rest ih =>
    cases i with
    | zero =>
      cases hr
      simp only [List.set_cons_zero, total]
      omega
    | succ i =>
      have hrest := ih (i := i) hr
      simp only [List.set_cons_succ, total]
      omega

/-- A notification costs less than it saves, whether it wakes the write thread or not. -/
theorem notified_work (s : ConnectionAdapter) (n : ℕ) :
    s.notified.elim 0 (writerWork n) ≤ s.writer.elim 0 (writerWork n) + 2 := by
  rcases notified_eq s with ⟨-, hwoken⟩ | ⟨-, hsame⟩
  · rw [hwoken]
    exact Nat.le_add_left 2 _
  · rw [hsame]
    exact Nat.le_add_right _ _

/-- Every step that a thread takes by itself uses up some of the work. -/
theorem work_lt (hs : step s a = some s') (hint : s.Internal a) : s'.work < s.work := by
  obtain ⟨henabled, rfl⟩ := step_eq_some hs
  unfold work
  cases a with
  | notify =>
    have hwriter := notified_work s s.unwritten.length
    have hpos : 0 < s.notifiers := henabled
    simp only [after]
    omega
  | resetUnderlying closes =>
    have hpos : 0 < s.resetters := henabled
    simp only [after]
    omega
  | stopCloses =>
    have hstop : s.stop = some .closing := henabled
    simp only [after, hstop, Option.elim_some, stopWork]
    omega
  | stopNotifies =>
    have hwriter := notified_work s s.unwritten.length
    have hstop : s.stop = some .notifying := henabled
    simp only [after, hstop, Option.elim_some, stopWork]
    omega
  | stopMoves =>
    simp only [after, henabled.2, Option.elim_some, stopWork]
    omega
  | stopJoinsReader i w =>
    simp only [after, henabled.1, Option.elim_some, stopWork]
    omega
  | stopJoinsWriter =>
    simp only [after, henabled.1, Option.elim_some, stopWork]
    omega
  | stopHandlesError =>
    have hstop : s.stop = some .handlingError := henabled
    simp only [after, handleError, hstop, Option.elim_some, stopWork]
    omega
  | writerReturns =>
    simp only [after, henabled.2.1, Option.elim_some, writerWork]
    omega
  | writerTakes p =>
    obtain ⟨rest, hqueue⟩ := List.head?_eq_some_iff.mp henabled.2.2.2
    simp only [after, henabled.2.1, hqueue, Option.elim_some, writerWork, List.tail_cons, total]
    omega
  | writerSleeps =>
    simp only [after, henabled.2.1, Option.elim_some, writerWork]
    omega
  | writes n =>
    obtain ⟨hwriting, -, hpos, hle⟩ := henabled
    simp only [after, hwriting, Option.elim_some, writerWork, List.length_drop]
    omega
  | writeReturns =>
    simp only [after, henabled.1, henabled.2, Option.elim_some, writerWork, List.length_nil]
    omega
  | writeFails =>
    simp only [after, henabled.1, Option.elim_some, writerWork]
    omega
  | writerHandlesError =>
    have hwriter : s.writer = some .failed := henabled
    simp only [after, handleError, hwriter, Option.elim_some, writerWork]
    omega
  | reads i p =>
    obtain ⟨-, rest, hread, hafter⟩ := afterRead_eq henabled.2
    obtain ⟨-, -, header, hheader, -, hincoming⟩ := readPacket_eq_some hread
    have hsum := readerWork_set henabled.1 (.handling p)
    have hlength : rest.length + sizeofAmessage ≤ s.connection.incoming.length := by
      rw [hincoming, List.length_append, List.length_append, hheader]
      omega
    simp only [after, hafter, readerWork, sizeofAmessage] at hsum hlength ⊢
    omega
  | readFails i =>
    have hsum := readerWork_set henabled .failed
    simp only [after, readerWork] at hsum ⊢
    omega
  | handleRead i p =>
    have hsum := readerWork_set henabled (if p.isStls then .returned else .reading)
    have hle : readerWork (if p.isStls then .returned else .reading) ≤ 2 := by
      split <;> decide
    have hhandling : readerWork (.handling p) = 3 := rfl
    simp only [after, handleRead]
    omega
  | readerHandlesError i =>
    have hsum := readerWork_set henabled .returned
    simp only [after, handleError, readerWork] at hsum ⊢
    omega
  | handshakeLocks =>
    obtain ⟨hfree, hpos⟩ := henabled
    simp only [after, hfree, Option.elim_none, Option.elim_some, handshakeWork]
    omega
  | handshakeJoins =>
    simp only [after, henabled.1, Option.elim_some, handshakeWork]
    omega
  | handshakeEnds success =>
    simp only [after, startReadThread, henabled.1, Option.elim_none, Option.elim_some,
      handshakeWork, total_append, total, readerWork]
    omega
  | _ => exact hint.elim

/-- An adapter is quiet whose write thread sleeps and whose read thread waits for the peer, when
nobody calls. -/
theorem Quiet.of_waiting (hwriter : s.writer = some .asleep) (hreaders : s.readers = [.reading])
    (hopen : s.connection.isOpen = true) (hread : s.connection.read = none)
    (hshake : s.handshake = none) (hshakes : s.handshakes = 0) (hnotifiers : s.notifiers = 0)
    (hresetters : s.resetters = 0) (hstop : s.stop = none) : Quiet s := by
  have hreader : ∀ (i : ℕ) (r : AdapterReader), s.readers[i]? = some r → r = .reading := by
    intro i r hr
    rw [hreaders] at hr
    exact List.mem_singleton.mp (List.mem_of_getElem? hr)
  intro a hint henabled
  cases a with
  | notify => exact Nat.ne_of_gt henabled hnotifiers
  | resetUnderlying closes => exact Nat.ne_of_gt henabled hresetters
  | stopCloses | stopNotifies | stopHandlesError => cases hstop.symm.trans henabled
  | stopMoves => cases hstop.symm.trans henabled.2
  | stopJoinsReader | stopJoinsWriter => cases hstop.symm.trans henabled.1
  | writerReturns | writerTakes | writerSleeps => cases hwriter.symm.trans henabled.2.1
  | writes | writeReturns | writeFails => cases hwriter.symm.trans henabled.1
  | writerHandlesError => cases hwriter.symm.trans henabled
  | reads i p =>
    rw [Enabled, hread] at henabled
    cases henabled.2
  | readFails i => cases hopen.symm.trans hint
  | handleRead i p => cases hreader i _ henabled
  | readerHandlesError i => cases hreader i _ henabled
  | handshakeLocks => exact Nat.ne_of_gt henabled.2 hshakes
  | handshakeJoins | handshakeEnds => cases hshake.symm.trans henabled.1
  | _ => exact hint

/-- In a quiet state a read thread that has not returned waits for the peer. -/
theorem Quiet.reader (hq : Quiet s) {i : ℕ} {r : AdapterReader} (hr : s.readers[i]? = some r) :
    r = .returned ∨ r = .reading ∧ s.connection.isOpen = true := by
  cases r with
  | reading =>
    refine .inr ⟨rfl, ?_⟩
    by_contra hclosed
    exact hq (.readFails i) (by simpa [Internal] using hclosed) hr
  | handling p => exact absurd hr (hq (.handleRead i p) trivial)
  | failed => exact absurd hr (hq (.readerHandlesError i) trivial)
  | returned => exact .inl rfl

/-- And where the descriptor is closed, all have returned. -/
theorem Quiet.readers (hq : Quiet s) (hclosed : s.connection.isOpen = false) {i : ℕ}
    (hi : i < s.readers.length) : s.readers[i]? = some .returned := by
  rw [List.getElem?_eq_getElem hi]
  rcases hq.reader (List.getElem?_eq_getElem hi) with hreturned | ⟨-, hopen⟩
  · rw [hreturned]
  · cases hclosed.symm.trans hopen

/-- In a quiet state no handshake is under way. -/
theorem Quiet.handshake (hi : Inv s) (hq : Quiet s) : s.handshake = none := by
  cases hshake : s.handshake with
  | none => rfl
  | some x =>
    cases x with
    | shaking => exact absurd ⟨hshake, fun h => nomatch h⟩ (hq (.handshakeEnds false) trivial)
    | joining =>
      refine absurd ⟨hshake, fun i hthread => ?_⟩ (hq .handshakeJoins trivial)
      have hlt := hi.readers.bound i hthread
      cases hmoved : s.moved with
      | false =>
        have hall := hi.readers.restarts hmoved (restarts_pos hshake)
        rw [List.getElem?_eq_getElem hlt, hall _ (List.getElem_mem hlt)]
      | true =>
        refine hq.readers ?_ hlt
        by_contra hopen
        cases (hi.flags.unmoved (by simpa using hopen)).symm.trans hmoved

/-- In a quiet state the write thread sleeps because it has nothing to do, or has returned. -/
theorem Quiet.writer (hi : Inv s) (hq : Quiet s) (hstarted : s.started = true) :
    s.writer = some .returned ∨ s.writer = some .asleep ∧ s.notifiers = 0 := by
  have hfree := hq.handshake hi
  cases hwriter : s.writer with
  | none => exact absurd hwriter (hi.flags.writer hstarted)
  | some w =>
    cases w with
    | testing =>
      cases hstopped : s.stopped with
      | true => exact absurd ⟨hfree, hwriter, hstopped⟩ (hq .writerReturns trivial)
      | false =>
        cases hqueue : s.writeQueue with
        | nil => exact absurd ⟨hfree, hwriter, hstopped, hqueue⟩ (hq .writerSleeps trivial)
        | cons p ps =>
          have hhead : s.writeQueue.head? = some p := by rw [hqueue, List.head?_cons]
          exact absurd ⟨hfree, hwriter, hstopped, hhead⟩ (hq (.writerTakes p) trivial)
    | asleep =>
      refine .inr ⟨rfl, ?_⟩
      by_contra hne
      exact hq .notify trivial (Nat.pos_of_ne_zero hne)
    | writing =>
      by_cases hleft : s.unwritten = []
      · exact absurd ⟨hwriter, hleft⟩ (hq .writeReturns trivial)
      · cases hopen : s.connection.isOpen with
        | true =>
          have hone : 1 ≤ s.unwritten.length := List.length_pos_of_ne_nil hleft
          exact absurd ⟨hwriter, hopen, Nat.one_pos, hone⟩ (hq (.writes 1) trivial)
        | false => exact absurd ⟨hwriter, hleft⟩ (hq .writeFails hopen)
    | failed => exact absurd hwriter (hq .writerHandlesError trivial)
    | returned => exact .inl rfl

/-- In a quiet state `Stop` was not called, or has returned. -/
theorem Quiet.stop (hi : Inv s) (hq : Quiet s) : s.stop = none ∨ s.stop = some .returned := by
  have hfree := hq.handshake hi
  cases hstop : s.stop with
  | none => exact .inl rfl
  | some c =>
    cases c with
    | closing => exact absurd hstop (hq .stopCloses trivial)
    | notifying => exact absurd hstop (hq .stopNotifies trivial)
    | moving => exact absurd ⟨hfree, hstop⟩ (hq .stopMoves trivial)
    | joiningReader r w =>
      obtain ⟨i, hlt, rfl⟩ := hi.readers.joins r w hstop
      have hclosed := hi.flags.closed _ hstop (fun h => nomatch h)
      exact absurd ⟨hstop, hq.readers hclosed hlt⟩ (hq (.stopJoinsReader i w) trivial)
    | joiningWriter w =>
      have hw := hi.flags.joinsWriter w hstop
      subst hw
      have hstopped : s.stopped = true := by rw [hi.flags.stopped, hstop]; rfl
      rcases hq.writer hi (hi.flags.started_of_stop hstop) with hreturned | ⟨hasleep, hnone⟩
      · exact absurd ⟨hstop, hreturned⟩ (hq .stopJoinsWriter trivial)
      · have hpos := hi.flags.notifiers_pos hasleep (.inl hstopped) (by simp [hstop])
          (by simp [hstop])
        omega
    | handlingError => exact absurd hstop (hq .stopHandlesError trivial)
    | returned => exact .inr rfl

/-- In a quiet state of an adapter that was not stopped, everything that was queued is written, or
the error was handled. -/
theorem Quiet.all_written (hi : Inv s) (hq : Quiet s) (hstarted : s.started = true)
    (hnot : s.stopped = false) :
    s.writer = some .asleep ∧ s.writeQueue = [] ∧
        s.connection.outgoing = s.queued.flatMap APacket.toWrite ∨
      s.writer = some .returned ∧ s.errors = 1 := by
  have hnone : s.stop = none := by
    have hsome := hi.flags.stopped
    rw [hnot] at hsome
    simpa using hsome.symm
  rcases hq.writer hi hstarted with hreturned | ⟨hasleep, hnotified⟩
  · refine .inr ⟨hreturned, ?_⟩
    rcases hi.flags.returned hreturned with hstop | hflag
    · cases hnot.symm.trans hstop
    · rw [hi.flags.errors, if_pos hflag]
  · have hqueue : s.writeQueue = [] := by
      by_contra hne
      have hpos := hi.flags.notifiers_pos hasleep (.inr hne) (by simp [hnone]) (by simp [hnone])
      omega
    have hbytes := hi.flow.bytes
    rw [hi.flow.unwritten_nil hasleep (.inr rfl), List.append_nil] at hbytes
    have hall := hi.flow.queued
    rw [hqueue, List.append_nil] at hall
    exact .inl ⟨hasleep, hqueue, hbytes.trans (by rw [hall])⟩

/-- What the threads do by themselves calls nothing. -/
theorem internal_frame (hs : step s a = some s') (hint : s.Internal a) :
    s'.started = s.started ∧ s'.stopped = s.stopped ∧ s'.queued = s.queued := by
  obtain ⟨-, rfl⟩ := step_eq_some hs
  cases a with
  | start | push | resetChecks | stopSets | writerWakes | receive | handlePacket => exact hint.elim
  | _ => exact ⟨rfl, rfl, rfl⟩

/-- And so do several such steps. -/
theorem internal_frame_run {ys : List AdapterAction} (hint : Meets step Internal s ys)
    (hr : run step s ys = some s') :
    s'.started = s.started ∧ s'.stopped = s.stopped ∧ s'.queued = s.queued := by
  have hall : Throughout step (fun s₁ => s₁.started = s.started ∧ s₁.stopped = s.stopped ∧
      s₁.queued = s.queued) s ys := by
    refine throughout_of_meets (fun s₁ a s₂ h hint hs => ?_) ⟨rfl, rfl, rfl⟩ hint
    obtain ⟨hstarted, hstopped, hqueued⟩ := internal_frame hs hint
    exact ⟨hstarted.trans h.1, hstopped.trans h.2.1, hqueued.trans h.2.2⟩
  exact hall.last hr

/-- The threads are quiet where they take no step. -/
theorem quiet_iff : s.Quiet ↔ ∀ a, s.Internal a → step s a = none := by
  refine forall₂_congr fun a _ => ?_
  unfold step
  split
  · rename_i henabled
    simp [henabled]
  · rename_i hnot
    simp [hnot]

/-- Whatever an adapter that was started has been through, its threads come to rest by themselves,
in whatever order they take their steps. If `Stop` was called it has returned by then, and so have
all threads, and the error was handled once. Otherwise all that was ever queued has been written and
the write thread sleeps, or the write thread has returned and the error was handled once. -/
theorem adapter_settles (tls : Bool) (t : ATransport) (xs : List AdapterAction)
    (s : ConnectionAdapter) (h : run step (new tls t) xs = some s) (hstarted : s.started = true) :
    (∃ ys s', Meets step Internal s ys ∧ run step s ys = some s' ∧ s'.Quiet) ∧
    ∀ ys s', Meets step Internal s ys → run step s ys = some s' →
      s'.work + ys.length ≤ s.work ∧
      (s'.Quiet →
        (s.stopped = true → s'.stop = some .returned ∧ s'.writer = some .returned ∧
          (∀ r ∈ s'.readers, r = .returned) ∧ s'.errors = 1) ∧
        (s.stopped = false →
          s'.writer = some .asleep ∧ s'.writeQueue = [] ∧
            s'.connection.outgoing = s.queued.flatMap APacket.toWrite ∨
          s'.writer = some .returned ∧ s'.errors = 1)) := by
  have hinv := inv_of_run h
  have hdec : ∀ s a s', Inv s → s.Internal a → step s a = some s' → s'.work < s.work :=
    fun s a s' _ hint hs => work_lt hs hint
  have hkeep : ∀ s a s', Inv s → step s a = some s' → Inv s' := fun _ _ _ hi hs => hi.step hs
  constructor
  · obtain ⟨ys, s', hint, hr, hrest⟩ := exists_run_to_rest hkeep hdec s.work s hinv (Nat.le_refl _)
    exact ⟨ys, s', hint, hr, quiet_iff.mpr hrest⟩
  · intro ys s' hint hr
    refine ⟨length_le_of_decreasing hkeep hdec hinv hint hr, fun hq => ?_⟩
    have hi' : Inv s' := invariant_of_run hkeep hinv hr
    obtain ⟨hstarted', hstopped', hqueued'⟩ := internal_frame_run hint hr
    have hup : s'.started = true := hstarted'.trans hstarted
    constructor
    · intro hstopped
      have hsome : s'.stop.isSome = true :=
        hi'.flags.stopped.symm.trans (hstopped'.trans hstopped)
      have hstop : s'.stop = some .returned := by
        rcases hq.stop hi' with hnone | hreturned
        · rw [hnone] at hsome
          cases hsome
        · exact hreturned
      have hclosed := hi'.flags.closed _ hstop (fun h => nomatch h)
      refine ⟨hstop, hi'.flags.joined (.inr hstop), fun r hr => ?_, ?_⟩
      · obtain ⟨i, hlt, rfl⟩ := List.getElem_of_mem hr
        have hreturned := hq.readers hclosed hlt
        rw [List.getElem?_eq_getElem hlt] at hreturned
        exact Option.some.inj hreturned
      · rw [hi'.flags.errors, if_pos (hi'.flags.handled hstop)]
    · intro hstopped
      have hwritten := hq.all_written hi' hup (hstopped'.trans hstopped)
      rwa [hqueued'] at hwritten

/-- A packet is queued before the adapter is started. -/
def queuedEarly : List AdapterAction := [.push getApacket, .start, .notify]

/-- And the write thread comes to rest. -/
theorem queuedEarly_settles : ∃ s, run step (new false (.new .local [] .offline true)) queuedEarly =
    some s ∧ ∀ ys s', Meets step Internal s ys → run step s ys = some s' → s'.Quiet →
      s'.writer = some .asleep ∧ s'.writeQueue = [] ∧
        s'.connection.outgoing = s.queued.flatMap APacket.toWrite ∨
      s'.writer = some .returned ∧ s'.errors = 1 :=
  ⟨_, rfl, fun ys s' hint hr hq =>
    ((adapter_settles false _ queuedEarly _ rfl rfl).2 ys s' hint hr).2 hq |>.2 rfl⟩

/-- Once `Stop` has returned, a step writes nothing, reads nothing and hands nothing on. -/
theorem Inv.step_after_stop (hi : Inv s) (hstop : s.stop = some .returned)
    (hs : ConnectionAdapter.step s a = some s') :
    s'.stop = some .returned ∧ s'.connection.outgoing = s.connection.outgoing ∧
      s'.packetsRead = s.packetsRead ∧ s'.handed = s.handed ∧ s'.delivered = s.delivered ∧
      s'.errors = s.errors := by
  obtain ⟨henabled, rfl⟩ := step_eq_some hs
  have hclosed := hi.flags.closed _ hstop (fun h => nomatch h)
  have hwriter := hi.flags.joined (.inr hstop)
  have hstopped : s.stopped = true := by rw [hi.flags.stopped, hstop]; rfl
  have herrors : s.handleError.errors = s.errors := by
    show (if s.errorFlag then s.errors else s.errors + 1) = s.errors
    rw [if_pos (hi.flags.handled hstop)]
  cases a with
  | stopSets => cases hstopped.symm.trans henabled.2.2
  | stopCloses | stopNotifies | stopHandlesError => cases hstop.symm.trans henabled
  | stopMoves => cases hstop.symm.trans henabled.2
  | stopJoinsReader | stopJoinsWriter => cases hstop.symm.trans henabled.1
  | writes n => cases hclosed.symm.trans henabled.2.1
  | writerHandlesError => cases hwriter.symm.trans henabled
  | readerHandlesError i => exact ⟨hstop, rfl, rfl, rfl, rfl, herrors⟩
  | reads i p => cases hclosed.symm.trans (afterRead_eq henabled.2).1
  | handleRead i p =>
    obtain ⟨w, hjoining⟩ := hi.readers.handling (by rw [moved, hstop]; rfl) i p henabled
    cases hstop.symm.trans hjoining
  | _ => exact ⟨hstop, rfl, rfl, rfl, rfl, rfl⟩

/-- In every run the error of a connection is handled once at most. When `Stop` has returned it was
handled, the write thread has returned, and from then on, whoever calls and whichever read thread is
started by a handshake that comes late, nothing is written, nothing is read or handed to the looper,
and the error is not handled again. -/
theorem stop_is_final (tls : Bool) (t : ATransport) (xs : List AdapterAction)
    (s : ConnectionAdapter) (h : run step (new tls t) xs = some s) :
    s.errors ≤ 1 ∧
    (s.stop = some .returned → s.errors = 1 ∧ s.writer = some .returned ∧
      ∀ ys s', run step s ys = some s' → s'.stop = some .returned ∧
        s'.connection.outgoing = s.connection.outgoing ∧ s'.packetsRead = s.packetsRead ∧
        s'.handed = s.handed ∧ s'.delivered = s.delivered ∧ s'.errors = s.errors) := by
  have hinv := inv_of_run h
  refine ⟨?_, fun hstop => ⟨?_, hinv.flags.joined (.inr hstop), fun ys s' hr => ?_⟩⟩
  · rw [hinv.flags.errors]
    split <;> omega
  · rw [hinv.flags.errors, if_pos (hinv.flags.handled hstop)]
  · have hall : Inv s' ∧ s'.stop = some .returned ∧
        s'.connection.outgoing = s.connection.outgoing ∧ s'.packetsRead = s.packetsRead ∧
        s'.handed = s.handed ∧ s'.delivered = s.delivered ∧ s'.errors = s.errors := by
      refine invariant_of_run (I := fun s₁ => Inv s₁ ∧ s₁.stop = some .returned ∧
        s₁.connection.outgoing = s.connection.outgoing ∧ s₁.packetsRead = s.packetsRead ∧
        s₁.handed = s.handed ∧ s₁.delivered = s.delivered ∧ s₁.errors = s.errors)
        (fun s₁ a s₂ h₁ hs => ?_) ⟨hinv, hstop, rfl, rfl, rfl, rfl, rfl⟩ hr
      obtain ⟨hi, hstop, hout, hread, hhanded, hdelivered, herrors⟩ := h₁
      obtain ⟨hstop', hout', hread', hhanded', hdelivered', herrors'⟩ :=
        hi.step_after_stop hstop hs
      exact ⟨hi.step hs, hstop', hout'.trans hout, hread'.trans hread, hhanded'.trans hhanded,
        hdelivered'.trans hdelivered, herrors'.trans herrors⟩
    exact hall.2

/-- A call of `Stop`, from its start to its end. -/
def stopRun : List AdapterAction :=
  [.start, .push getApacket, .notify, .stopSets, .stopCloses, .stopNotifies, .stopMoves,
    .readFails 0, .readerHandlesError 0, .writerReturns, .stopJoinsReader 0 true, .stopJoinsWriter,
    .stopHandlesError]

/-- After it nothing is written, though a packet is queued. -/
theorem stopRun_is_final : ∃ s, run step (new false (.new .local [] .offline true)) stopRun =
    some s ∧ s.queued ≠ [] ∧ ∀ ys s', run step s ys = some s' → s'.connection.outgoing = [] :=
  ⟨_, rfl, by decide, fun ys s' hr =>
    (((stop_is_final false _ stopRun _ rfl).2 rfl).2.2 ys s' hr).2.1⟩

/-- The destructor finds no thread that was not joined, once `Stop` has moved the threads out. -/
def Destructible (s : ConnectionAdapter) : Prop :=
  s.moved = true → s.readThread = none ∧ s.writeThread = false

/-- A handshake ends before `Stop` has moved the threads out. -/
def HandshakeInTime (s : ConnectionAdapter) (a : AdapterAction) : Prop :=
  ∀ success, a = .handshakeEnds success → s.moved = false

/-- A step that no handshake ends late leaves the destructor nothing. -/
theorem Destructible.step (hi : Inv s) (hd : Destructible s) (hg : HandshakeInTime s a)
    (hs : ConnectionAdapter.step s a = some s') : Destructible s' := by
  have hreleased := (hi.step hs).flags.released
  obtain ⟨henabled, rfl⟩ := step_eq_some hs
  refine fun hmoved => ⟨?_, hreleased hmoved⟩
  cases a with
  | start =>
    have hnone := (hi.flags.unstarted henabled.2).2.2.2
    rw [show (s.after .start).moved = s.moved from rfl, moved, hnone] at hmoved
    cases hmoved
  | stopSets | stopCloses | stopNotifies => cases hmoved
  | stopMoves => rfl
  | stopJoinsReader i w => exact (hd (by rw [moved, henabled.1]; rfl)).1
  | stopJoinsWriter => exact (hd (by rw [moved, henabled.1]; rfl)).1
  | stopHandlesError => exact (hd (by rw [moved, show s.stop = _ from henabled]; rfl)).1
  | handshakeJoins => rfl
  | handshakeEnds success =>
    have hbefore := hg success rfl
    rw [show (s.after (.handshakeEnds success)).moved = s.moved from rfl, hbefore] at hmoved
    cases hmoved
  | _ => exact (hd hmoved).1

/-- A handshake that ends late starts a thread that `Stop` does not join. -/
theorem not_destructible (hg : ¬ HandshakeInTime s a)
    (hs : ConnectionAdapter.step s a = some s') : ¬ Destructible s' := by
  obtain ⟨-, rfl⟩ := step_eq_some hs
  simp only [HandshakeInTime, not_forall] at hg
  obtain ⟨success, rfl, hmoved⟩ := hg
  intro hd
  have hafter : (s.after (.handshakeEnds success)).moved = true := by
    show s.moved = true
    simpa using hmoved
  cases (hd hafter).1

/-- In a run the destructor finds no thread that was not joined, in every state after `Stop` has
moved the threads out, exactly when no handshake ends after that: a thread that `DoTlsHandshake`
starts then is joined by nobody, and its destruction ends the process. -/
theorem readers_joined_iff (tls : Bool) (t : ATransport) (xs : List AdapterAction) :
    Throughout step Destructible (new tls t) xs ↔ Meets step HandshakeInTime (new tls t) xs := by
  have hinit : Inv (new tls t) ∧ Destructible (new tls t) := ⟨.new, fun h => nomatch h⟩
  exact throughout_iff_meets (I := fun s => Inv s ∧ Destructible s) (fun _ h => h.2)
    (fun _ _ _ h hg hs => ⟨h.1.step hs, h.2.step h.1 hg hs⟩)
    (fun _ _ _ _ hg hs => not_destructible hg hs) hinit

end ConnectionAdapter

end AdbMobile
