import AdbMobile.Server.ConnectionAdapter

/-!
# The threads of an adapter, joined and restarted

The two threads are joined by `Stop`, and the read thread by each `DoTlsHandshake`, which starts
another. `Stop` closes the descriptor before it moves the threads out, so while the descriptor is
open at most one read thread has not returned, and every place that joins a thread finds one
(`Readers`). A thread that is to be joined for a handshake has returned, because it was its `A_STLS`
that began the handshake: nothing waits for a peer while it holds the mutex but the handshake
itself (`handshake_alone`).
-/

namespace AdbMobile

open ByteString Run

namespace ConnectionAdapter

/-- All read threads but the last have returned. -/
def LastOnly (readers : List AdapterReader) : Prop :=
  ∀ i, i + 1 < readers.length → readers[i]? = some .returned

section LastOnly

variable {readers : List AdapterReader} {i : ℕ} {r : AdapterReader}

/-- A read thread that has not returned is the last. -/
theorem LastOnly.index (h : LastOnly readers) (hi : readers[i]? = some r) (hr : r ≠ .returned) :
    i + 1 = readers.length := by
  have hlt : i < readers.length := (List.getElem?_eq_some_iff.mp hi).1
  by_contra hne
  have hreturned := h i (by omega)
  rw [hi] at hreturned
  exact hr (Option.some.inj hreturned)

/-- The last may go anywhere. -/
theorem LastOnly.set (h : LastOnly readers) (hi : readers[i]? = some r) (hr : r ≠ .returned)
    (r' : AdapterReader) : LastOnly (readers.set i r') := by
  have hlast := h.index hi hr
  intro j hj
  rw [List.length_set] at hj
  rw [List.getElem?_set_ne (by omega)]
  exact h j hj

/-- Where all have returned, another may be started. -/
theorem LastOnly.append (h : ∀ r ∈ readers, r = .returned) (r : AdapterReader) :
    LastOnly (readers ++ [r]) := by
  intro j hj
  rw [List.length_append, List.length_singleton] at hj
  have hlt : j < readers.length := by omega
  rw [List.getElem?_append_left hlt, List.getElem?_eq_getElem hlt]
  exact congrArg some (h _ (List.getElem_mem hlt))

/-- All have returned where the last has. -/
theorem LastOnly.all (h : LastOnly readers) (hlast : readers[readers.length - 1]? = some .returned) :
    ∀ r ∈ readers, r = .returned := by
  intro r hr
  obtain ⟨i, hlt, rfl⟩ := List.getElem_of_mem hr
  have hreturned : readers[i]? = some .returned := by
    by_cases hi : i + 1 < readers.length
    · exact h i hi
    · have heq : i = readers.length - 1 := by omega
      rw [heq]
      exact hlast
  rw [List.getElem?_eq_getElem hlt] at hreturned
  exact Option.some.inj hreturned

/-- The last read thread sets its place, and whether all have returned depends on that alone. -/
theorem LastOnly.set_returned (h : LastOnly readers) (hi : readers[i]? = some r)
    (hr : r ≠ .returned) : ∀ r' ∈ readers.set i .returned, r' = .returned := by
  have hset := h.set hi hr .returned
  have hlast := h.index hi hr
  refine hset.all ?_
  have hlength : (readers.set i .returned).length - 1 = i := by
    rw [List.length_set]
    omega
  rw [hlength, List.getElem?_set_self (by omega)]

end LastOnly

/-- The handshakes that are queued for the looper, waiting for the mutex, or under way. -/
def restarts (s : ConnectionAdapter) : ℕ :=
  s.looperQueue.countP APacket.isStls + s.handshakes + s.handshake.elim 0 fun _ => 1

/-- What holds between the steps of the flags and the write thread. -/
structure Flags (s : ConnectionAdapter) : Prop where
  /-- Before `Start` nothing has happened that only a thread of the adapter brings about. -/
  unstarted : s.started = false → s.readers = [] ∧ s.writer = none ∧ s.restarts = 0 ∧ s.stop = none
  writer : s.started = true → s.writer ≠ none
  stopped : s.stopped = s.stop.isSome
  closed : ∀ c ∈ s.stop, c ≠ .closing → s.connection.isOpen = false
  held : s.started = true → s.moved = false → s.writeThread = true
  released : s.moved = true → s.writeThread = false
  joins : ∀ r w, s.stop = some (.joiningReader r w) → w = true
  joinsWriter : ∀ w, s.stop = some (.joiningWriter w) → w = true
  joined : s.stop = some .handlingError ∨ s.stop = some .returned → s.writer = some .returned
  /-- A notification is on its way to a write thread that has reason to wake. -/
  awake : s.writer = some .asleep → s.stopped = true ∨ s.writeQueue ≠ [] →
    0 < s.notifiers ∨ s.stop = some .closing ∨ s.stop = some .notifying
  returned : s.writer = some .returned → s.stopped = true ∨ s.errorFlag = true
  errors : s.errors = if s.errorFlag then 1 else 0
  handled : s.stop = some .returned → s.errorFlag = true

/-- What holds between the steps of the read threads. -/
structure Readers (s : ConnectionAdapter) : Prop where
  member : s.started = true → s.moved = false → s.handshake ≠ some .shaking →
    s.readers ≠ [] ∧ s.readThread = some (s.readers.length - 1)
  bound : ∀ i ∈ s.readThread, i < s.readers.length
  others : s.moved = false → LastOnly s.readers
  one : s.moved = false → s.restarts ≤ 1
  restarts : s.moved = false → 0 < s.restarts → ∀ r ∈ s.readers, r = .returned
  joins : ∀ r w, s.stop = some (.joiningReader r w) → ∃ i < s.readers.length, r = some i
  /-- After `Stop` has moved the threads out, the one that it joins is the only one that may have
  read a packet. -/
  handling : s.moved = true → ∀ i p, s.readers[i]? = some (.handling p) →
    ∃ w, s.stop = some (.joiningReader (some i) w)

variable {s s' : ConnectionAdapter} {a : AdapterAction} {t : ATransport} {tls : Bool}

theorem Flags.new : Flags (new tls t) where
  unstarted _ := ⟨rfl, rfl, rfl, rfl⟩
  writer h := nomatch h
  stopped := rfl
  closed _ h := nomatch h
  held h := nomatch h
  released h := nomatch h
  joins _ _ h := nomatch h
  joinsWriter _ h := nomatch h
  joined h := by rcases h with h | h <;> cases h
  awake h := nomatch h
  returned h := nomatch h
  errors := rfl
  handled h := nomatch h

theorem notified_ne_asleep (s : ConnectionAdapter) : s.notified ≠ some .asleep := by
  rcases notified_eq s with ⟨-, hwoken⟩ | ⟨hawake, hsame⟩
  · simp [hwoken]
  · rwa [hsame]

theorem notified_eq_none : s.notified = none ↔ s.writer = none := by
  rcases notified_eq s with ⟨hasleep, hwoken⟩ | ⟨-, hsame⟩
  · simp [hwoken, hasleep]
  · rw [hsame]

theorem notified_eq_returned : s.notified = some .returned ↔ s.writer = some .returned := by
  rcases notified_eq s with ⟨hasleep, hwoken⟩ | ⟨-, hsame⟩
  · simp [hwoken, hasleep]
  · rw [hsame]

/-- A call of `Stop` is one of an adapter that was started. -/
theorem Flags.started_of_stop (hi : Flags s) {c : StopCall} (hc : s.stop = some c) :
    s.started = true := by
  by_contra hnot
  have hnone := (hi.unstarted (by simpa using hnot)).2.2.2
  cases hc.symm.trans hnone

/-- A read thread is one of an adapter that was started. -/
theorem Flags.started_of_reader (hi : Flags s) {i : ℕ} {r : AdapterReader}
    (hr : s.readers[i]? = some r) : s.started = true := by
  by_contra hnot
  have hnil := (hi.unstarted (by simpa using hnot)).1
  rw [hnil] at hr
  cases hr

/-- The write thread is one of an adapter that was started. -/
theorem Flags.started_of_writer (hi : Flags s) {w : AdapterWriter} (hw : s.writer = some w) :
    s.started = true := by
  by_contra hnot
  have hnone := (hi.unstarted (by simpa using hnot)).2.1
  cases hw.symm.trans hnone

/-- A handshake is one of an adapter that was started. -/
theorem Flags.started_of_restarts (hi : Flags s) (h : 0 < s.restarts) : s.started = true := by
  by_contra hnot
  have hnone := (hi.unstarted (by simpa using hnot)).2.2.1
  omega

theorem handshakes_le (s : ConnectionAdapter) : s.handshakes ≤ s.restarts := by
  unfold restarts
  omega

/-- A handshake that is under way is one. -/
theorem restarts_pos {x : AdapterHandshake} (h : s.handshake = some x) : 0 < s.restarts := by
  unfold restarts
  rw [h, Option.elim_some]
  omega

/-- A packet that is handled is a handshake to come, if it was one that was queued. -/
theorem restarts_handlePacket {p : APacket} (h : s.looperQueue.head? = some p) :
    (s.after (.handlePacket p)).restarts = s.restarts := by
  obtain ⟨rest, hqueue⟩ := List.head?_eq_some_iff.mp h
  have hcount : s.looperQueue.countP APacket.isStls =
      rest.countP APacket.isStls + if p.isStls then 1 else 0 := by
    rw [hqueue, List.countP_cons]
  show s.looperQueue.tail.countP APacket.isStls +
    (if p.isStls then s.handshakes + 1 else s.handshakes) + s.handshake.elim 0 (fun _ => 1) =
      s.looperQueue.countP APacket.isStls + s.handshakes + s.handshake.elim 0 (fun _ => 1)
  rw [hcount, hqueue, List.tail_cons]
  split <;> omega

/-- A packet that is handed to the looper is a handshake to come only if it is an `A_STLS`. -/
theorem restarts_handleRead (s : ConnectionAdapter) (i : ℕ) (p : APacket) :
    (s.after (.handleRead i p)).restarts ≤ s.restarts + if p.isStls then 1 else 0 := by
  have hone : (if s.transport.checkHeader p then [p] else []).countP APacket.isStls ≤
      if p.isStls then 1 else 0 := by
    split
    · rw [List.countP_singleton]
    · exact Nat.zero_le _
  show (s.looperQueue ++ if s.transport.checkHeader p then [p] else []).countP APacket.isStls +
    s.handshakes + s.handshake.elim 0 (fun _ => 1) ≤
      s.looperQueue.countP APacket.isStls + s.handshakes + s.handshake.elim 0 (fun _ => 1) + _
  rw [List.countP_append]
  omega

/-- `HandleError` is called once. -/
theorem Flags.errors_handleError (hi : Flags s) :
    s.handleError.errors = if s.handleError.errorFlag then 1 else 0 := by
  show (if s.errorFlag then s.errors else s.errors + 1) = 1
  rw [hi.errors]
  split <;> rfl

/-- A notification is on its way, if `Stop` is past its own. -/
theorem Flags.notifiers_pos (hi : Flags s) (hasleep : s.writer = some .asleep)
    (hwhy : s.stopped = true ∨ s.writeQueue ≠ []) (hclosing : s.stop ≠ some .closing)
    (hnotifying : s.stop ≠ some .notifying) : 0 < s.notifiers := by
  rcases hi.awake hasleep hwhy with hpos | h | h
  · exact hpos
  · exact absurd h hclosing
  · exact absurd h hnotifying

/-- The write thread goes on to a place where it neither sleeps nor has returned. -/
theorem Flags.writer_goes_on (hi : Flags s) {w w' : AdapterWriter} (hw : s.writer = some w)
    (hgoes : w ≠ .returned) (hplace : w' ≠ .asleep ∧ w' ≠ .returned) :
    Flags { s with writer := some w' } :=
  have hstarted := hi.started_of_writer hw
  { hi with
    unstarted := fun h => absurd (hstarted.symm.trans h) (by decide)
    writer := fun _ h => nomatch h
    joined := fun h => absurd (Option.some.inj (hw.symm.trans (hi.joined h))) hgoes
    awake := fun h => absurd (Option.some.inj h) hplace.1
    returned := fun h => absurd (Option.some.inj h) hplace.2 }

/-- Every step keeps the flags and the write thread in order. -/
theorem Flags.step (hi : Flags s) (hs : step s a = some s') : Flags s' := by
  obtain ⟨henabled, rfl⟩ := step_eq_some hs
  cases a with
  | start =>
    obtain ⟨-, -, -, hstop⟩ := hi.unstarted henabled.2
    exact { hi with
      unstarted := fun h => nomatch h
      writer := fun _ h => nomatch h
      held := fun _ _ => rfl
      released := fun h => by
        rw [show (s.after .start).moved = s.moved from rfl, moved, hstop] at h
        cases h
      joined := fun h => by
        rcases h with h | h <;> cases hstop.symm.trans h
      awake := fun h => nomatch h
      returned := fun h => nomatch h }
  | push p =>
    exact { hi with awake := fun _ _ => .inl (Nat.succ_pos _) }
  | notify =>
    exact { hi with
      unstarted := fun h => (hi.unstarted h).imp_right fun ⟨hw, hrest⟩ =>
        ⟨notified_eq_none.mpr hw, hrest⟩
      writer := fun h hnone => hi.writer h (notified_eq_none.mp hnone)
      joined := fun h => notified_eq_returned.mpr (hi.joined h)
      awake := fun h => absurd h (notified_ne_asleep s)
      returned := fun h => hi.returned (notified_eq_returned.mp h) }
  | resetUnderlying closes =>
    exact { hi with
      closed := fun c hc hne => by
        show (s.connection.isOpen && !closes) = false
        rw [hi.closed c hc hne, Bool.false_and] }
  | stopSets =>
    have hnone : s.stop = none := by
      have hstopped := hi.stopped
      rw [henabled.2.2] at hstopped
      simpa using hstopped.symm
    exact { hi with
      unstarted := fun h => absurd (henabled.2.1.symm.trans h) (by decide)
      stopped := rfl
      closed := fun c hc hne => absurd (Option.some.inj hc).symm hne
      held := fun h _ => hi.held h (by rw [moved, hnone]; rfl)
      released := fun h => nomatch h
      joins := fun _ _ h => nomatch h
      joinsWriter := fun _ h => nomatch h
      joined := fun h => by rcases h with h | h <;> cases h
      awake := fun _ _ => .inr (.inl rfl)
      returned := fun _ => .inl rfl
      handled := fun h => nomatch h }
  | stopCloses =>
    have hstarted := hi.started_of_stop henabled
    exact { hi with
      unstarted := fun h => absurd (hstarted.symm.trans h) (by decide)
      stopped := hi.stopped.trans (by rw [show s.stop = _ from henabled]; rfl)
      closed := fun _ _ _ => rfl
      held := fun h _ => hi.held h (by rw [moved, show s.stop = _ from henabled]; rfl)
      released := fun h => nomatch h
      joins := fun _ _ h => nomatch h
      joinsWriter := fun _ h => nomatch h
      joined := fun h => by rcases h with h | h <;> cases h
      awake := fun _ _ => .inr (.inr rfl)
      handled := fun h => nomatch h }
  | stopNotifies =>
    have hstarted := hi.started_of_stop henabled
    exact { hi with
      unstarted := fun h => absurd (hstarted.symm.trans h) (by decide)
      writer := fun h hnone => hi.writer h (notified_eq_none.mp hnone)
      stopped := hi.stopped.trans (by rw [show s.stop = _ from henabled]; rfl)
      closed := fun _ _ _ => hi.closed _ henabled (by decide)
      held := fun h _ => hi.held h (by rw [moved, show s.stop = _ from henabled]; rfl)
      released := fun h => nomatch h
      joins := fun _ _ h => nomatch h
      joinsWriter := fun _ h => nomatch h
      joined := fun h => by rcases h with h | h <;> cases h
      awake := fun h => absurd h (notified_ne_asleep s)
      returned := fun h => hi.returned (notified_eq_returned.mp h)
      handled := fun h => nomatch h }
  | stopMoves =>
    have hstop := henabled.2
    have hstarted := hi.started_of_stop hstop
    exact { hi with
      unstarted := fun h => absurd (hstarted.symm.trans h) (by decide)
      stopped := hi.stopped.trans (by rw [hstop]; rfl)
      closed := fun _ _ _ => hi.closed _ hstop (by decide)
      held := fun _ h => nomatch h
      released := fun _ => rfl
      joins := fun r w h => by
        have hw : s.writeThread = w := by
          cases h
          rfl
        exact hw ▸ hi.held hstarted (by rw [moved, hstop]; rfl)
      joinsWriter := fun _ h => nomatch h
      joined := fun h => by rcases h with h | h <;> cases h
      awake := fun h hwhy => .inl (hi.notifiers_pos h hwhy (by simp [hstop]) (by simp [hstop]))
      handled := fun h => nomatch h }
  | stopJoinsReader i w =>
    have hstop := henabled.1
    have hstarted := hi.started_of_stop hstop
    exact { hi with
      unstarted := fun h => absurd (hstarted.symm.trans h) (by decide)
      stopped := hi.stopped.trans (by rw [hstop]; rfl)
      closed := fun _ _ _ => hi.closed _ hstop (fun h => nomatch h)
      held := fun _ h => nomatch h
      released := fun _ => hi.released (by rw [moved, hstop]; rfl)
      joins := fun _ _ h => nomatch h
      joinsWriter := fun w' h => by
        cases h
        exact hi.joins _ _ hstop
      joined := fun h => by rcases h with h | h <;> cases h
      awake := fun h hwhy => .inl (hi.notifiers_pos h hwhy (by simp [hstop]) (by simp [hstop]))
      handled := fun h => nomatch h }
  | stopJoinsWriter =>
    have hstop := henabled.1
    have hstarted := hi.started_of_stop hstop
    exact { hi with
      unstarted := fun h => absurd (hstarted.symm.trans h) (by decide)
      stopped := hi.stopped.trans (by rw [hstop]; rfl)
      closed := fun _ _ _ => hi.closed _ hstop (fun h => nomatch h)
      held := fun _ h => nomatch h
      released := fun _ => hi.released (by rw [moved, hstop]; rfl)
      joins := fun _ _ h => nomatch h
      joinsWriter := fun _ h => nomatch h
      joined := fun _ => henabled.2
      awake := fun h => absurd (henabled.2.symm.trans h) (by decide)
      handled := fun h => nomatch h }
  | stopHandlesError =>
    have hstop : s.stop = some .handlingError := henabled
    have hstarted := hi.started_of_stop hstop
    have hreturned := hi.joined (.inl hstop)
    exact { hi with
      unstarted := fun h => absurd (hstarted.symm.trans h) (by decide)
      stopped := hi.stopped.trans (by rw [hstop]; rfl)
      closed := fun _ _ _ => hi.closed _ hstop (fun h => nomatch h)
      held := fun _ h => nomatch h
      released := fun _ => hi.released (by rw [moved, hstop]; rfl)
      joins := fun _ _ h => nomatch h
      joinsWriter := fun _ h => nomatch h
      joined := fun _ => hreturned
      awake := fun h => absurd (hreturned.symm.trans h) (by decide)
      returned := fun _ => .inr rfl
      errors := hi.errors_handleError
      handled := fun _ => rfl }
  | writerReturns =>
    have hstarted := hi.started_of_writer henabled.2.1
    exact { hi with
      unstarted := fun h => absurd (hstarted.symm.trans h) (by decide)
      writer := fun _ h => nomatch h
      joined := fun _ => rfl
      awake := fun h => nomatch h
      returned := fun _ => .inl henabled.2.2 }
  | writerTakes p =>
    have hstarted := hi.started_of_writer henabled.2.1
    exact { hi with
      unstarted := fun h => absurd (hstarted.symm.trans h) (by decide)
      writer := fun _ h => nomatch h
      joined := fun h => absurd (henabled.2.1.symm.trans (hi.joined h)) (by decide)
      awake := fun h => nomatch h
      returned := fun h => nomatch h }
  | writerSleeps =>
    have hstarted := hi.started_of_writer henabled.2.1
    exact { hi with
      unstarted := fun h => absurd (hstarted.symm.trans h) (by decide)
      writer := fun _ h => nomatch h
      joined := fun h => absurd (henabled.2.1.symm.trans (hi.joined h)) (by decide)
      awake := fun _ hwhy => by
        rcases hwhy with hstopped | hqueue
        · exact absurd (henabled.2.2.1.symm.trans hstopped) (by decide)
        · exact absurd henabled.2.2.2 hqueue
      returned := fun h => nomatch h }
  | writerWakes => exact hi.writer_goes_on henabled (by decide) (by decide)
  | writeReturns => exact hi.writer_goes_on henabled.1 (by decide) (by decide)
  | writeFails => exact hi.writer_goes_on henabled.1 (by decide) (by decide)
  | writerHandlesError =>
    have hstarted := hi.started_of_writer henabled
    exact { hi with
      unstarted := fun h => absurd (hstarted.symm.trans h) (by decide)
      writer := fun _ h => nomatch h
      joined := fun _ => rfl
      awake := fun h => nomatch h
      returned := fun _ => .inr rfl
      errors := hi.errors_handleError
      handled := fun _ => rfl }
  | reads i p =>
    have hstarted := hi.started_of_reader henabled.1
    obtain ⟨hopen, rest, -, hafter⟩ := afterRead_eq henabled.2
    exact { hi with
      unstarted := fun h => absurd (hstarted.symm.trans h) (by decide)
      closed := fun c hc hne => absurd (hopen.symm.trans (hi.closed c hc hne)) (by decide) }
  | readFails i =>
    have hstarted := hi.started_of_reader henabled
    exact { hi with unstarted := fun h => absurd (hstarted.symm.trans h) (by decide) }
  | handleRead i p =>
    have hstarted := hi.started_of_reader henabled
    exact { hi with unstarted := fun h => absurd (hstarted.symm.trans h) (by decide) }
  | readerHandlesError i =>
    have hstarted := hi.started_of_reader henabled
    exact { hi with
      unstarted := fun h => absurd (hstarted.symm.trans h) (by decide)
      returned := fun _ => .inr rfl
      errors := hi.errors_handleError
      handled := fun _ => rfl }
  | handshakeLocks =>
    have hstarted := hi.started_of_restarts (Nat.lt_of_lt_of_le henabled.2 (handshakes_le s))
    exact { hi with unstarted := fun h => absurd (hstarted.symm.trans h) (by decide) }
  | handshakeJoins =>
    have hstarted := hi.started_of_restarts (restarts_pos henabled.1)
    exact { hi with unstarted := fun h => absurd (hstarted.symm.trans h) (by decide) }
  | handshakeEnds success =>
    have hstarted := hi.started_of_restarts (restarts_pos henabled.1)
    exact { hi with unstarted := fun h => absurd (hstarted.symm.trans h) (by decide) }
  | handlePacket p =>
    exact { hi with
      unstarted := fun h => (hi.unstarted h).imp_right fun ⟨hw, hrestarts, hstop⟩ =>
        ⟨hw, (restarts_handlePacket henabled).trans hrestarts, hstop⟩ }
  | _ => exact { hi with }

theorem Readers.new : Readers (new tls t) where
  member h := nomatch h
  bound _ h := nomatch h
  others _ _ h := absurd h (Nat.not_lt_zero _)
  one _ := Nat.zero_le 1
  restarts _ h := absurd h (Nat.lt_irrefl 0)
  joins _ _ h := nomatch h
  handling h := nomatch h

/-- While the connection is open, `Stop` has not moved the threads out. -/
theorem Flags.unmoved (hi : Flags s) (hopen : s.connection.isOpen = true) : s.moved = false := by
  by_contra hmoved
  cases hstop : s.stop with
  | none => exact hmoved (by rw [moved, hstop]; rfl)
  | some c =>
    have hne : c ≠ .closing := by
      rintro rfl
      exact hmoved (by rw [moved, hstop]; rfl)
    exact absurd (hopen.symm.trans (hi.closed c hstop hne)) (by decide)

/-- There is no handshake to come while a read thread is up, unless the threads were moved out. -/
theorem Readers.restarts_eq_zero (hi : Readers s) (hmoved : s.moved = false) {i : ℕ}
    {r : AdapterReader} (hr : s.readers[i]? = some r) (hup : r ≠ .returned) : s.restarts = 0 := by
  by_contra hne
  exact hup (hi.restarts hmoved (Nat.pos_of_ne_zero hne) r (List.mem_of_getElem? hr))

/-- A read thread goes on to a place where it has read no packet, or has read one while the threads
were not moved out. -/
theorem Readers.goes_on (hi : Readers s) {i : ℕ} {r r' : AdapterReader} {s' : ConnectionAdapter}
    (hr : s.readers[i]? = some r) (hup : r ≠ .returned)
    (hread : ∀ p, r' = .handling p → s.moved = false)
    (hreaders : s'.readers = s.readers.set i r') (hstarted : s'.started = s.started)
    (hthread : s'.readThread = s.readThread) (hstop : s'.stop = s.stop)
    (hshake : s'.handshake = s.handshake)
    (hrestarts : s.moved = false → s'.restarts ≤ if r' = .returned then 1 else 0) :
    Readers s' where
  member h hmoved hne := by
    rw [moved, hstop] at hmoved
    obtain ⟨hne', hmember⟩ := hi.member (hstarted ▸ h) hmoved (hshake ▸ hne)
    refine ⟨fun hnil => hne' ?_, ?_⟩
    · rw [hreaders] at hnil
      simpa using hnil
    · rw [hthread, hmember, hreaders, List.length_set]
  bound := by
    rw [hthread, hreaders, List.length_set]
    exact hi.bound
  others hmoved := by
    rw [moved, hstop] at hmoved
    rw [hreaders]
    exact (hi.others hmoved).set hr hup r'
  one hmoved := by
    rw [moved, hstop] at hmoved
    have hle := hrestarts hmoved
    split at hle <;> omega
  restarts hmoved hpos := by
    rw [moved, hstop] at hmoved
    have hle := hrestarts hmoved
    split at hle
    · rename_i hreturned
      rw [hreaders, hreturned]
      exact (hi.others hmoved).set_returned hr hup
    · omega
  joins := by
    rw [hstop, hreaders, List.length_set]
    exact hi.joins
  handling hmoved j p hj := by
    rw [moved, hstop] at hmoved
    rw [hreaders] at hj
    rw [hstop]
    by_cases hij : i = j
    · subst hij
      have hlt := (List.getElem?_eq_some_iff.mp hr).1
      rw [List.getElem?_set_self hlt] at hj
      exact absurd ((hread p (Option.some.inj hj)).symm.trans hmoved) (by decide)
    · rw [List.getElem?_set_ne hij] at hj
      exact hi.handling hmoved j p hj

/-- `read_thread_` holds a thread that was started. -/
theorem startReadThread_bound (s : ConnectionAdapter) :
    ∀ i ∈ s.startReadThread.readThread, i < s.startReadThread.readers.length := by
  intro i h
  cases h
  show s.readers.length < (s.readers ++ [AdapterReader.reading]).length
  rw [List.length_append, List.length_singleton]
  exact Nat.lt_succ_self _

/-- `Stop` goes on while it has not moved the threads out. -/
theorem Readers.stop_goes_on (hi : Readers s) (hmoved : s.moved = false) {c : StopCall}
    (hc : c.moved = false) : Readers { s with stop := some c } where
  member h _ := hi.member h hmoved
  bound := hi.bound
  others _ := hi.others hmoved
  one _ := hi.one hmoved
  restarts _ := hi.restarts hmoved
  joins r w h := by
    have heq : c = .joiningReader r w := Option.some.inj h
    rw [heq] at hc
    cases hc
  handling h := absurd (hc.symm.trans h) (by decide)

/-- Every step keeps the read threads in order. -/
theorem Readers.step (hf : Flags s) (hi : Readers s) (hs : step s a = some s') : Readers s' := by
  obtain ⟨henabled, rfl⟩ := step_eq_some hs
  cases a with
  | start =>
    obtain ⟨hreaders, -, hrestarts, hstop⟩ := hf.unstarted henabled.2
    exact {
      member := fun _ _ _ => by
        refine ⟨List.append_ne_nil_of_right_ne_nil _ (List.cons_ne_nil _ _), ?_⟩
        show some s.readers.length = some ((s.readers ++ [AdapterReader.reading]).length - 1)
        rw [List.length_append, List.length_singleton, Nat.add_sub_cancel]
      bound := fun i h => startReadThread_bound s i h
      others := fun _ => .append (fun r hr => by rw [hreaders] at hr; cases hr) _
      one := fun _ => hrestarts.le.trans (Nat.zero_le 1)
      restarts := fun _ h => absurd hrestarts (Nat.ne_of_gt h)
      joins := fun r w h => nomatch hstop.symm.trans h
      handling := fun h => by
        rw [show (s.after .start).moved = s.moved from rfl, moved, hstop] at h
        cases h }
  | stopSets =>
    have hnone : s.stop = none := by
      have hstopped := hf.stopped
      rw [henabled.2.2] at hstopped
      simpa using hstopped.symm
    exact { hi.stop_goes_on (c := .closing) (by rw [moved, hnone]; rfl) rfl with }
  | stopCloses =>
    have hstop : s.stop = some .closing := henabled
    exact { hi.stop_goes_on (c := .notifying) (by rw [moved, hstop]; rfl) rfl with }
  | stopNotifies =>
    have hstop : s.stop = some .notifying := henabled
    exact { hi.stop_goes_on (c := .moving) (by rw [moved, hstop]; rfl) rfl with }
  | stopMoves =>
    have hstop := henabled.2
    have hmoved : s.moved = false := by rw [moved, hstop]; rfl
    obtain ⟨hne, hmember⟩ := hi.member (hf.started_of_stop hstop) hmoved (by simp [henabled.1])
    have hpos := List.length_pos_of_ne_nil hne
    exact {
      member := fun _ h => nomatch h
      bound := fun _ h => nomatch h
      others := fun h => nomatch h
      one := fun h => nomatch h
      restarts := fun h => nomatch h
      joins := fun r w h => by
        cases h
        exact ⟨s.readers.length - 1, Nat.sub_lt hpos Nat.one_pos, hmember⟩
      handling := fun _ j p hj => by
        have hlast := (hi.others hmoved).index hj (fun h => nomatch h)
        have hthread : s.readThread = some j := by
          rw [hmember]
          congr 1
          omega
        exact ⟨s.writeThread, congrArg (fun r => some (StopCall.joiningReader r s.writeThread))
          hthread⟩ }
  | stopJoinsReader i w =>
    have hmoved : s.moved = true := by rw [moved, henabled.1]; rfl
    exact {
      member := fun _ h => nomatch h
      bound := hi.bound
      others := fun h => nomatch h
      one := fun h => nomatch h
      restarts := fun h => nomatch h
      joins := fun _ _ h => nomatch h
      handling := fun _ j p hj => by
        -- The thread that was joined has returned.
        obtain ⟨w', hstop⟩ := hi.handling hmoved j p hj
        cases henabled.1.symm.trans hstop
        cases henabled.2.symm.trans hj }
  | stopJoinsWriter =>
    have hmoved : s.moved = true := by rw [moved, henabled.1]; rfl
    exact {
      member := fun _ h => nomatch h
      bound := hi.bound
      others := fun h => nomatch h
      one := fun h => nomatch h
      restarts := fun h => nomatch h
      joins := fun _ _ h => nomatch h
      handling := fun _ j p hj => by
        obtain ⟨w', hstop⟩ := hi.handling hmoved j p hj
        cases henabled.1.symm.trans hstop }
  | stopHandlesError =>
    have hstop : s.stop = some .handlingError := henabled
    have hmoved : s.moved = true := by rw [moved, hstop]; rfl
    exact {
      member := fun _ h => nomatch h
      bound := hi.bound
      others := fun h => nomatch h
      one := fun h => nomatch h
      restarts := fun h => nomatch h
      joins := fun _ _ h => nomatch h
      handling := fun _ j p hj => by
        obtain ⟨w', hjoining⟩ := hi.handling hmoved j p hj
        cases hstop.symm.trans hjoining }
  | reads i p =>
    obtain ⟨hopen, -⟩ := afterRead_eq henabled.2
    exact hi.goes_on henabled.1 (by decide) (fun _ _ => hf.unmoved hopen) rfl rfl rfl rfl rfl
      fun hmoved => (hi.restarts_eq_zero hmoved henabled.1 (by decide)).le
  | readFails i =>
    exact hi.goes_on henabled (by decide) (fun _ h => by cases h) rfl rfl rfl rfl rfl
      fun hmoved => (hi.restarts_eq_zero hmoved henabled (by decide)).le
  | handleRead i p =>
    refine hi.goes_on henabled (fun h => nomatch h) (fun q h => ?_) rfl rfl rfl rfl rfl
      fun hmoved => ?_
    · split at h <;> cases h
    · have hzero := hi.restarts_eq_zero hmoved henabled (fun h => nomatch h)
      have hle := restarts_handleRead s i p
      rw [hzero, Nat.zero_add] at hle
      by_cases hstls : p.isStls
      · simpa [hstls] using hle
      · simpa [hstls] using hle
  | readerHandlesError i =>
    exact hi.goes_on henabled (by decide) (fun _ h => by cases h) rfl rfl rfl rfl rfl
      fun hmoved => (hi.restarts_eq_zero hmoved henabled (by decide)).le.trans (Nat.zero_le 1)
  | handshakeLocks =>
    have hsame : (s.after .handshakeLocks).restarts = s.restarts := by
      have hpos := henabled.2
      show s.looperQueue.countP APacket.isStls + (s.handshakes - 1) + 1 =
        s.looperQueue.countP APacket.isStls + s.handshakes + s.handshake.elim 0 fun _ => 1
      rw [henabled.1, Option.elim_none]
      omega
    exact { hi with
      member := fun h hmoved _ => hi.member h hmoved (by simp [henabled.1])
      one := fun hmoved => hsame.le.trans (hi.one hmoved)
      restarts := fun hmoved hpos => hi.restarts hmoved (hsame ▸ hpos) }
  | handshakeJoins =>
    have hsame : (s.after .handshakeJoins).restarts = s.restarts := by
      show s.looperQueue.countP APacket.isStls + s.handshakes + 1 =
        s.looperQueue.countP APacket.isStls + s.handshakes + s.handshake.elim 0 fun _ => 1
      rw [henabled.1, Option.elim_some]
    exact { hi with
      member := fun _ _ h => absurd rfl h
      bound := fun _ h => nomatch h
      one := fun hmoved => hsame.le.trans (hi.one hmoved)
      restarts := fun hmoved hpos => hi.restarts hmoved (hsame ▸ hpos) }
  | handshakeEnds success =>
    have hone : (s.after (.handshakeEnds success)).restarts + 1 = s.restarts := by
      show s.looperQueue.countP APacket.isStls + s.handshakes + 0 + 1 =
        s.looperQueue.countP APacket.isStls + s.handshakes + s.handshake.elim 0 fun _ => 1
      rw [henabled.1, Option.elim_some]
    have hzero : s.moved = false → (s.after (.handshakeEnds success)).restarts = 0 := by
      intro hmoved
      have hle := hi.one hmoved
      omega
    exact {
      member := fun _ _ _ => by
        refine ⟨List.append_ne_nil_of_right_ne_nil _ (List.cons_ne_nil _ _), ?_⟩
        show some s.readers.length = some ((s.readers ++ [AdapterReader.reading]).length - 1)
        rw [List.length_append, List.length_singleton, Nat.add_sub_cancel]
      bound := fun i h => startReadThread_bound s i h
      others := fun hmoved => .append (hi.restarts hmoved (by omega)) _
      one := fun hmoved => (hzero hmoved).le.trans (Nat.zero_le 1)
      restarts := fun hmoved hpos => absurd (hzero hmoved) (Nat.ne_of_gt hpos)
      joins := fun r w h => by
        obtain ⟨i, hlt, hi⟩ := hi.joins r w h
        refine ⟨i, ?_, hi⟩
        show i < (s.readers ++ [AdapterReader.reading]).length
        rw [List.length_append]
        omega
      handling := fun hmoved j p hj => by
        -- The new thread has read nothing.
        have hold : s.readers[j]? = some (.handling p) := by
          change (s.readers ++ [AdapterReader.reading])[j]? = some (.handling p) at hj
          rcases Nat.lt_or_ge j s.readers.length with hlt | hge
          · rwa [List.getElem?_append_left hlt] at hj
          · rw [List.getElem?_append_right hge] at hj
            have hmem := List.mem_of_getElem? hj
            cases List.mem_singleton.mp hmem
        exact hi.handling hmoved j p hold }
  | handlePacket p =>
    have hsame := restarts_handlePacket henabled
    exact { hi with
      one := fun hmoved => hsame.le.trans (hi.one hmoved)
      restarts := fun hmoved hpos => hi.restarts hmoved (hsame ▸ hpos) }
  | _ => exact { hi with }

/-- What holds between the steps. -/
structure Inv (s : ConnectionAdapter) : Prop where
  flow : Flow s
  flags : Flags s
  readers : Readers s

theorem Inv.new : Inv (new tls t) := ⟨.new tls t, .new, .new⟩

theorem Inv.step (hi : Inv s) (hs : ConnectionAdapter.step s a = some s') : Inv s' :=
  ⟨hi.flow.step hs, hi.flags.step hs, hi.readers.step hi.flags hs⟩

/-- The states of the runs of a new adapter are those of the invariant. -/
theorem inv_of_run {xs : List AdapterAction} (h : run step (new tls t) xs = some s) : Inv s :=
  invariant_of_run (fun _ _ _ hi hs => hi.step hs) .new h

/-- In every run, while the descriptor is open, at most one read thread has not returned, and none
while a handshake is under way; a handshake that joins a read thread finds one that has returned,
unless `Stop` has moved that out; and `Stop` joins two threads that were started. -/
theorem handshake_alone (tls : Bool) (t : ATransport) (xs : List AdapterAction) :
    Throughout step (fun s =>
      (s.connection.isOpen = true → ∀ (i j : ℕ) (r r' : AdapterReader), s.readers[i]? = some r →
        s.readers[j]? = some r' → r ≠ .returned → r' ≠ .returned → i = j) ∧
      (s.connection.isOpen = true → s.handshake = some .shaking → ∀ r ∈ s.readers, r = .returned) ∧
      (s.handshake = some .joining → s.moved = false →
        ∃ i, s.readThread = some i ∧ s.readers[i]? = some .returned) ∧
      (∀ r w, s.stop = some (.joiningReader r w) → w = true ∧
        ∃ i < s.readers.length, r = some i) ∧
      ∀ w, s.stop = some (.joiningWriter w) → w = true) (new tls t) xs := by
  have hinv : Throughout step Inv (new tls t) xs :=
    throughout_of_meets (fun _ _ _ hi _ hs => hi.step hs) .new (meets_of_forall fun _ _ _ => trivial)
  refine hinv.mono fun s hi => ⟨fun hopen i j r r' hr hr' hup hup' => ?_, fun hopen hshake => ?_,
    fun hjoining hmoved => ?_, fun r w hstop => ?_, hi.flags.joinsWriter⟩
  · have hlast := hi.readers.others (hi.flags.unmoved hopen)
    have hi' := hlast.index hr hup
    have hj' := hlast.index hr' hup'
    omega
  · exact hi.readers.restarts (hi.flags.unmoved hopen) (restarts_pos hshake)
  · have hstarted := hi.flags.started_of_restarts (restarts_pos hjoining)
    obtain ⟨hne, hthread⟩ := hi.readers.member hstarted hmoved (by simp [hjoining])
    have hpos := List.length_pos_of_ne_nil hne
    have hlt : s.readers.length - 1 < s.readers.length := Nat.sub_lt hpos Nat.one_pos
    refine ⟨_, hthread, ?_⟩
    rw [List.getElem?_eq_getElem hlt,
      hi.readers.restarts hmoved (restarts_pos hjoining) _ (List.getElem_mem hlt)]
  · exact ⟨hi.flags.joins r w hstop, hi.readers.joins r w hstop⟩

end ConnectionAdapter

end AdbMobile
