import AdbMobile.Lib.Framing
import AdbMobile.Server.AdapterProgress

/-!
# Two adapters at the ends of a link

What one side writes the other receives, in pieces of any size, and each side runs the threads of a
`BlockingConnectionAdapter`. The packets that one side hands to `HandleRead` are, in order, the
first of those that were given to `Write` on the other (`packets_cross_in_order`), and all of them
when both sides have come to rest with their readers waiting (`all_packets_cross`): none is lost,
repeated, cut or put before another on the way through the queue, the write thread, the descriptor,
and the read threads that a handshake joins and starts.
-/

namespace AdbMobile

open ByteString Run Stream

/-! ## The packets in a stream -/

/-- A packet that is read is read when more has come. -/
theorem readPacket_more {s rest : Bytes} {p : APacket} (h : readPacket s = some (p, rest))
    (more : Bytes) : readPacket (s ++ more) = some (p, rest ++ more) := by
  obtain ⟨⟨header, s'⟩, hheader, hrest⟩ := Option.bind_eq_some_iff.mp h
  dsimp only at hrest
  split at hrest
  · cases hrest
  · rename_i hmax
    obtain ⟨⟨payload, rest'⟩, hpayload, heq⟩ := Option.map_eq_some_iff.mp hrest
    cases heq
    simp only [readPacket, readExactly_more hheader more, Option.bind_some, if_neg hmax,
      readExactly_more hpayload more, Option.map_some]

/-- What is at the front of a stream of packets. A header that announces too much is never
completed. -/
def cutPacket (s : Bytes) : Cut UInt8 APacket :=
  match readPacket s with
  | some (p, rest) => .frame p rest
  | none => .incomplete

theorem cutPacket_eq_frame {s rest : Bytes} {p : APacket} :
    cutPacket s = .frame p rest ↔ readPacket s = some (p, rest) := by
  unfold cutPacket
  split
  · rename_i q rest' h
    simp [h]
  · rename_i h
    simp [h]

/-- A packet takes at least its header. -/
theorem cutPacket_shorter {s rest : Bytes} {p : APacket} (h : cutPacket s = .frame p rest) :
    rest.length < s.length := by
  obtain ⟨-, -, header, hheader, -, hs⟩ := readPacket_eq_some (cutPacket_eq_frame.mp h)
  rw [hs, List.length_append, List.length_append, hheader]
  simp only [sizeofAmessage]
  omega

/-- A packet that has come stays as it is when more comes. -/
theorem cutPacket_stable {s : Bytes} (hne : cutPacket s ≠ .incomplete) (more : Bytes) :
    cutPacket (s ++ more) = (cutPacket s).extend more := by
  unfold cutPacket at hne ⊢
  cases h : readPacket s with
  | none => simp [h] at hne
  | some r =>
    obtain ⟨p, rest⟩ := r
    rw [readPacket_more h more]
    rfl

/-- The framing of packets. -/
def packetFraming : Framing UInt8 APacket := ⟨cutPacket, cutPacket_shorter, cutPacket_stable⟩

/-- The packets in what was written for packets with the payload that they announce. -/
theorem frames_toWrite {ps : List APacket} (h : ∀ p ∈ ps, p.WellFramed) :
    packetFraming.frames (ps.flatMap APacket.toWrite) = ps := by
  refine Framing.frames_flatMap APacket.toWrite rfl fun p hp rest => cutPacket_eq_frame.mpr ?_
  have hbytes : p.toWrite = p.bytes := by
    rw [APacket.toWrite, (h p hp).1, List.take_length, APacket.bytes]
  rw [hbytes]
  exact packetCodec.read_write p rest (h p hp)

/-! ## What an adapter reads -/

/-- The packet that a read thread has read, and not handed on. -/
def AdapterReader.packet : AdapterReader → List APacket
  | .handling p => [p]
  | _ => []

namespace ConnectionAdapter

section Packet

variable {readers : List AdapterReader} {i : ℕ} {r : AdapterReader}

/-- The packets that read threads hold, where one of them goes on. -/
theorem flatMap_packet_set (hr : readers[i]? = some r)
    (hone : ∀ j q, readers[j]? = some (.handling q) → j = i) (r' : AdapterReader) :
    (readers.set i r').flatMap AdapterReader.packet = r'.packet := by
  have hothers : ∀ j x, readers[j]? = some x → j ≠ i → x.packet = [] := by
    intro j x hx hne
    cases x with
    | handling q => exact absurd (hone j q hx) hne
    | _ => rfl
  obtain ⟨hlt, -⟩ := List.getElem?_eq_some_iff.mp hr
  have hfront : (readers.take i).flatMap AdapterReader.packet = [] := by
    refine List.flatMap_eq_nil_iff.mpr fun x hx => ?_
    obtain ⟨j, hj, rfl⟩ := List.getElem_of_mem hx
    rw [List.length_take] at hj
    rw [List.getElem_take]
    exact hothers j _ (List.getElem?_eq_getElem (by omega)) (by omega)
  have hback : (readers.drop (i + 1)).flatMap AdapterReader.packet = [] := by
    refine List.flatMap_eq_nil_iff.mpr fun x hx => ?_
    obtain ⟨j, hj, rfl⟩ := List.getElem_of_mem hx
    rw [List.length_drop] at hj
    rw [List.getElem_drop]
    exact hothers (i + 1 + j) _ (List.getElem?_eq_getElem (by omega)) (by omega)
  rw [List.set_eq_take_append_cons_drop, if_pos hlt, List.flatMap_append, List.flatMap_cons, hfront,
    hback, List.nil_append, List.append_nil]

/-- And where none of them holds one before and after. -/
theorem flatMap_packet_same (hr : readers[i]? = some r) {r' : AdapterReader}
    (hsame : r'.packet = r.packet) :
    (readers.set i r').flatMap AdapterReader.packet = readers.flatMap AdapterReader.packet := by
  obtain ⟨hlt, hget⟩ := List.getElem?_eq_some_iff.mp hr
  have hself : readers.set i r = readers := by rw [← hget, List.set_getElem_self]
  conv_rhs => rw [← hself]
  rw [List.set_eq_take_append_cons_drop, List.set_eq_take_append_cons_drop, if_pos hlt, if_pos hlt,
    List.flatMap_append, List.flatMap_append, List.flatMap_cons, List.flatMap_cons, hsame]

end Packet

/-- What holds between the steps of what is received: the packets that were read are the first ones
of what has come, and those not handed on are held by a read thread. -/
structure Reading (s : ConnectionAdapter) : Prop where
  stream : packetFraming.Leads s.received s.packetsRead s.connection.incoming
  order : s.packetsRead = s.handed ++ s.readers.flatMap AdapterReader.packet
  delivered : s.delivered.Sublist s.handed

variable {s s' : ConnectionAdapter} {a : AdapterAction}

theorem Reading.new (tls : Bool) (t : ATransport) : Reading (new tls t) where
  stream := .nil []
  order := rfl
  delivered := .refl []

/-- One read thread at most holds a packet. -/
theorem Inv.handling_unique (hi : Inv s) {i j : ℕ} {p q : APacket}
    (hp : s.readers[i]? = some (.handling p)) (hq : s.readers[j]? = some (.handling q)) : j = i := by
  cases hmoved : s.moved with
  | false =>
    have hlast := hi.readers.others hmoved
    have hi' := hlast.index hp (fun h => nomatch h)
    have hj' := hlast.index hq (fun h => nomatch h)
    omega
  | true =>
    obtain ⟨w, hstop⟩ := hi.readers.handling hmoved i p hp
    obtain ⟨w', hstop'⟩ := hi.readers.handling hmoved j q hq
    cases hstop.symm.trans hstop'
    rfl

/-- A packet that is read is the next of what has come. -/
theorem Reading.reads {i : ℕ} {p : APacket} (hi : Inv s) (hr : Reading s)
    (henabled : s.Enabled (.reads i p)) : Reading (s.after (.reads i p)) where
  stream := by
    obtain ⟨-, rest, hread, hafter⟩ := afterRead_eq henabled.2
    show packetFraming.Leads s.received (s.packetsRead ++ [p]) s.afterRead.incoming
    rw [hafter]
    exact hr.stream.trans (.single (cutPacket_eq_frame.mpr hread))
  order := by
    obtain ⟨hopen, -⟩ := afterRead_eq henabled.2
    have hlast := hi.readers.others (hi.flags.unmoved hopen)
    have hnone : ∀ j q, s.readers[j]? = some (.handling q) → j = i := by
      intro j q hj
      have hi' := hlast.index henabled.1 (by decide)
      have hj' := hlast.index hj (fun h => nomatch h)
      omega
    -- No other thread is up, and this one held nothing.
    have hempty : s.readers.flatMap AdapterReader.packet = [] := by
      have hself := flatMap_packet_set henabled.1 hnone .reading
      rwa [flatMap_packet_same henabled.1 rfl] at hself
    show s.packetsRead ++ [p] = s.handed ++ (s.readers.set i (.handling p)).flatMap _
    rw [flatMap_packet_set henabled.1 hnone, hr.order, hempty, List.append_nil]
    rfl
  delivered := hr.delivered

/-- A packet that is handed on is the one that was read. -/
theorem Reading.handleRead {i : ℕ} {p : APacket} (hi : Inv s) (hr : Reading s)
    (hp : s.readers[i]? = some (.handling p)) : Reading (s.after (.handleRead i p)) where
  stream := hr.stream
  order := by
    have hone : ∀ j q, s.readers[j]? = some (.handling q) → j = i := fun j q hj =>
      hi.handling_unique hp hj
    have hold : s.readers.flatMap AdapterReader.packet = [p] := by
      have hself := flatMap_packet_set hp hone (.handling p)
      rwa [flatMap_packet_same hp rfl] at hself
    have hnew : (s.readers.set i (if p.isStls then .returned else .reading)).flatMap
        AdapterReader.packet = [] := by
      rw [flatMap_packet_set hp hone]
      split <;> rfl
    show s.packetsRead = s.handed ++ [p] ++ (s.readers.set i _).flatMap AdapterReader.packet
    rw [hnew, List.append_nil, hr.order, hold]
  delivered := by
    show (s.delivered ++ if s.transport.checkHeader p then [p] else []).Sublist (s.handed ++ [p])
    split
    · exact hr.delivered.append (.refl _)
    · rw [List.append_nil]
      exact hr.delivered.trans (List.sublist_append_left _ _)

/-- A read thread that is started holds nothing. -/
theorem flatMap_packet_started (s : ConnectionAdapter) :
    s.startReadThread.readers.flatMap AdapterReader.packet =
      s.readers.flatMap AdapterReader.packet := by
  show (s.readers ++ [AdapterReader.reading]).flatMap AdapterReader.packet = _
  rw [List.flatMap_append, List.flatMap_singleton]
  exact List.append_nil _

/-- Every step keeps the order of what is read. -/
theorem Reading.step (hi : Inv s) (hr : Reading s) (hs : ConnectionAdapter.step s a = some s') :
    Reading s' := by
  obtain ⟨henabled, rfl⟩ := step_eq_some hs
  cases a with
  | start =>
    exact ⟨hr.stream, hr.order.trans (by rw [← flatMap_packet_started s]; rfl), hr.delivered⟩
  | handshakeEnds success =>
    exact ⟨hr.stream, hr.order.trans (by rw [← flatMap_packet_started s]; rfl), hr.delivered⟩
  | reads i p => exact hr.reads hi henabled
  | handleRead i p => exact hr.handleRead hi henabled
  | readFails i =>
    have hsame := flatMap_packet_same henabled
      (show AdapterReader.failed.packet = AdapterReader.reading.packet from rfl)
    exact ⟨hr.stream, hr.order.trans (by rw [← hsame]; rfl), hr.delivered⟩
  | readerHandlesError i =>
    have hsame := flatMap_packet_same henabled
      (show AdapterReader.returned.packet = AdapterReader.failed.packet from rfl)
    exact ⟨hr.stream, hr.order.trans (by rw [← hsame]; rfl), hr.delivered⟩
  | receive bytes => exact ⟨hr.stream.append bytes, hr.order, hr.delivered⟩
  | _ => exact ⟨hr.stream, hr.order, hr.delivered⟩

/-- A step that brings no bytes only adds to what was written, and the queue only grows. -/
theorem step_grows (hs : step s a = some s') (hreceive : ∀ bytes, a ≠ .receive bytes) :
    s.connection.outgoing <+: s'.connection.outgoing ∧ s'.received = s.received := by
  obtain ⟨henabled, rfl⟩ := step_eq_some hs
  cases a with
  | writes n => exact ⟨List.prefix_append _ _, rfl⟩
  | reads i p =>
    obtain ⟨-, rest, -, hafter⟩ := afterRead_eq henabled.2
    refine ⟨?_, rfl⟩
    show s.connection.outgoing <+: s.afterRead.outgoing
    rw [hafter]
  | receive bytes => exact absurd rfl (hreceive bytes)
  | _ => exact ⟨List.prefix_refl _, rfl⟩

/-- Only `Write` queues packets. -/
theorem step_queued (hs : step s a = some s') :
    s'.queued = s.queued ∨ ∃ p, a = .push p ∧ s'.queued = s.queued ++ [p] := by
  obtain ⟨-, rfl⟩ := step_eq_some hs
  cases a with
  | push p => exact .inr ⟨p, rfl, rfl⟩
  | _ => exact .inl rfl

/-- Only `HandleRead` hands packets on, and it delivers the one that it is given or drops it. -/
theorem step_delivered (hs : step s a = some s') :
    s'.delivered = s.delivered ∧ s'.handed = s.handed ∨
      ∃ i p, a = .handleRead i p ∧ s.readers[i]? = some (.handling p) ∧
        s'.handed = s.handed ++ [p] ∧
        s'.delivered = s.delivered ++ if s.transport.checkHeader p then [p] else [] := by
  obtain ⟨henabled, rfl⟩ := step_eq_some hs
  cases a with
  | handleRead i p => exact .inr ⟨i, p, rfl, henabled, rfl, rfl⟩
  | _ => exact .inl ⟨rfl, rfl⟩

/-- A packet that a read thread holds was read. -/
theorem Reading.mem_packetsRead (hr : Reading s) {i : ℕ} {p : APacket}
    (hp : s.readers[i]? = some (.handling p)) : p ∈ s.packetsRead := by
  rw [hr.order]
  refine List.mem_append_right _ (List.mem_flatMap.mpr ⟨_, List.mem_of_getElem? hp, ?_⟩)
  exact List.mem_singleton_self p

/-- In a quiet state no read thread holds a packet. -/
theorem Quiet.no_handling (hq : Quiet s) : s.readers.flatMap AdapterReader.packet = [] := by
  refine List.flatMap_eq_nil_iff.mpr fun r hr => ?_
  obtain ⟨i, hlt, rfl⟩ := List.getElem_of_mem hr
  rcases hq.reader (List.getElem?_eq_getElem hlt) with hreturned | ⟨hreading, -⟩
  · rw [hreturned]
    rfl
  · rw [hreading]
    rfl

/-- In a quiet state a read thread that reads finds no packet in what has come. -/
theorem Quiet.no_packet (hq : Quiet s) {i : ℕ} (hreading : s.readers[i]? = some .reading) :
    packetFraming.frames s.connection.incoming = [] := by
  have hopen : s.connection.isOpen = true := by
    rcases hq.reader hreading with hreturned | ⟨-, hopen⟩
    · cases hreturned
    · exact hopen
  have hnone : s.connection.read = none := by
    cases hread : s.connection.read with
    | none => rfl
    | some r => exact absurd ⟨hreading, by rw [hread]; rfl⟩ (hq (.reads i r.1) trivial)
  have hpacket : readPacket s.connection.incoming = none := by
    have heq := FdConnection.read_eq hopen s.connection.incoming
    rw [show ({ s.connection with incoming := s.connection.incoming } : FdConnection) =
      s.connection from rfl, hnone] at heq
    exact Option.map_eq_none_iff.mp heq.symm
  have hcut : packetFraming.cut s.connection.incoming = .incomplete := by
    show cutPacket _ = _
    rw [cutPacket, hpacket]
  rw [Framing.frames]
  split
  · rename_i hframe
    cases hframe.symm.trans hcut
  · rfl
  · rfl

end ConnectionAdapter

/-! ## The link -/

/-- The adapters at the two ends of a link. -/
abbrev PacketLink := Bool → ConnectionAdapter

/-- A step of the link. -/
inductive LinkAction
  /-- A step of an adapter, other than that bytes come to it. -/
  | adapter (b : Bool) (a : AdapterAction)
  /-- The next bytes of what one side has written come to the other. -/
  | transfer (b : Bool) (n : ℕ)

namespace PacketLink

open ConnectionAdapter (Inv Reading)

/-- Two adapters that were not started. -/
def new (tls : Bool) (t : Bool → ATransport) : PacketLink := fun b => .new tls (t b)

/-- One step. -/
def step (l : PacketLink) : LinkAction → Option PacketLink
  | .adapter _ (.receive _) => none
  | .adapter b a => ((l b).step a).map (Function.update l b)
  | .transfer b n =>
    let bytes := ((l b).connection.outgoing.drop (l !b).received.length).take n
    ((l !b).step (.receive bytes)).map (Function.update l !b)

variable {l l' : PacketLink} {x : LinkAction} {b : Bool}

/-- What a step of the link does: one adapter takes a step of its own, or the next bytes come to
it. -/
theorem step_cases (h : step l x = some l') :
    (∃ b a s', x = .adapter b a ∧ (∀ bytes, a ≠ .receive bytes) ∧ (l b).step a = some s' ∧
      l' = Function.update l b s') ∨
    ∃ b n s', x = .transfer b n ∧ (l !b).step (.receive
      (((l b).connection.outgoing.drop (l !b).received.length).take n)) = some s' ∧
      l' = Function.update l (!b) s' := by
  cases x with
  | transfer b n =>
    obtain ⟨s', hs, rfl⟩ := Option.map_eq_some_iff.mp h
    exact .inr ⟨b, n, s', rfl, hs, rfl⟩
  | adapter b a =>
    have hreceive : ∀ bytes, a ≠ .receive bytes := by
      rintro bytes rfl
      cases h
    have hstep : step l (.adapter b a) = ((l b).step a).map (Function.update l b) := by
      cases a with
      | receive bytes => exact absurd rfl (hreceive bytes)
      | _ => rfl
    rw [hstep] at h
    obtain ⟨s', hs, rfl⟩ := Option.map_eq_some_iff.mp h
    exact .inl ⟨b, a, s', rfl, hreceive, hs, rfl⟩

/-- What holds between the steps: what one side has received is a first part of what the other has
written. -/
structure LinkInv (l : PacketLink) : Prop where
  adapters : ∀ b, Inv (l b) ∧ Reading (l b)
  received : ∀ b, (l !b).received <+: (l b).connection.outgoing

theorem LinkInv.new (tls : Bool) (t : Bool → ATransport) : LinkInv (new tls t) where
  adapters _ := ⟨.new, .new _ _⟩
  received _ := List.prefix_refl _

/-- Where one side goes on with more written and the same received, or with the next bytes
received, the link does. -/
theorem LinkInv.update (hi : LinkInv l) {s' : ConnectionAdapter} (hs : Inv s' ∧ Reading s')
    (hout : (l !b).received <+: s'.connection.outgoing)
    (hin : s'.received <+: (l !b).connection.outgoing) : LinkInv (Function.update l b s') where
  adapters c := by
    by_cases hc : c = b
    · subst hc
      rwa [Function.update_self]
    · rw [Function.update_of_ne hc]
      exact hi.adapters c
  received c := by
    by_cases hc : c = b
    · subst hc
      rw [Function.update_self, Function.update_of_ne (by simp)]
      exact hout
    · have hother : (!c) = b := by
        cases b <;> cases c <;> simp_all
      rw [hother, Function.update_self, Function.update_of_ne hc]
      have hc' : (!b) = c := by rw [← hother, Bool.not_not]
      rwa [hc'] at hin

/-- Every step of the link keeps it. -/
theorem LinkInv.step (hi : LinkInv l) (h : PacketLink.step l x = some l') : LinkInv l' := by
  rcases step_cases h with ⟨b, a, s', -, hreceive, hs, rfl⟩ | ⟨b, n, s', -, hs, rfl⟩
  · obtain ⟨hinv, hreading⟩ := hi.adapters b
    obtain ⟨hgrows, hsame⟩ := ConnectionAdapter.step_grows hs hreceive
    refine hi.update ⟨hinv.step hs, hreading.step hinv hs⟩ ((hi.received b).trans hgrows) ?_
    have hin := hi.received !b
    rw [Bool.not_not] at hin
    rwa [hsame]
  · obtain ⟨hinv, hreading⟩ := hi.adapters !b
    have hreceived := hi.received b
    have hout := hi.received !b
    obtain ⟨-, rfl⟩ := ConnectionAdapter.step_eq_some hs
    refine hi.update ⟨hinv.step hs, hreading.step hinv hs⟩ hout ?_
    rw [Bool.not_not]
    -- The bytes that come are those behind what has come.
    obtain ⟨more, hmore⟩ := hreceived
    show (l !b).received ++ _ <+: (l b).connection.outgoing
    rw [← hmore, List.drop_left]
    exact (List.prefix_append_right_inj _).mpr (List.take_prefix n more)

/-- The packets that one side has read are the first of those that the other has queued. -/
theorem LinkInv.packetsRead_prefix (hi : LinkInv l) (hframed : ∀ p ∈ (l b).queued, p.WellFramed) :
    (l !b).packetsRead <+: (l b).queued := by
  obtain ⟨hinv, -⟩ := hi.adapters b
  obtain ⟨-, hreading⟩ := hi.adapters !b
  have hprefix := hreading.stream.prefix_frames ((hi.received b).trans hinv.flow.outgoing_prefix)
  rwa [frames_toWrite hframed] at hprefix

/-- A packet is queued as `send_packet` prepares it, with the payload that it announces, and it is
not longer than the transport at the other end takes when it is handed on there. -/
def Prepared (l : PacketLink) : LinkAction → Prop
  | .adapter _ (.push p) => p.WellFramed ∧ ∃ (u : ATransport) (q : APacket), p = u.finishPacket q
  | .adapter b (.handleRead _ p) => p.msg.dataLength.toNat ≤ (l b).transport.maxPayload
  | _ => True

/-- What holds between the steps of a run of packets that are prepared: all that was queued is, and
no packet was dropped. -/
structure PreparedInv (l : PacketLink) : Prop where
  link : LinkInv l
  queued : ∀ b, ∀ p ∈ (l b).queued, p.WellFramed ∧ ∃ (u : ATransport) (q : APacket),
    p = u.finishPacket q
  delivered : ∀ b, (l b).delivered = (l b).handed

theorem PreparedInv.new (tls : Bool) (t : Bool → ATransport) : PreparedInv (new tls t) where
  link := .new tls t
  queued _ _ hp := absurd hp List.not_mem_nil
  delivered _ := rfl

/-- A packet that is handed on was prepared at the other end, so its header is good. -/
theorem PreparedInv.checkHeader (hi : PreparedInv l) {i : ℕ} {p : APacket}
    (hp : (l b).readers[i]? = some (.handling p))
    (hfits : p.msg.dataLength.toNat ≤ (l b).transport.maxPayload) :
    (l b).transport.checkHeader p = true := by
  have hfirst := hi.link.packetsRead_prefix (b := !b) fun p hp => (hi.queued (!b) p hp).1
  rw [Bool.not_not] at hfirst
  have hread := (hi.link.adapters b).2.mem_packetsRead hp
  obtain ⟨-, u, q, rfl⟩ := hi.queued (!b) p (hfirst.subset hread)
  rw [ATransport.checkHeader_finishPacket]
  exact decide_eq_true hfits

/-- Every step that meets the condition keeps it. -/
theorem PreparedInv.step (hi : PreparedInv l) (hg : Prepared l x)
    (h : PacketLink.step l x = some l') : PreparedInv l' where
  link := hi.link.step h
  queued c p hp := by
    rcases step_cases h with ⟨b, a, s', rfl, -, hs, rfl⟩ | ⟨b, n, s', -, hs, rfl⟩
    · by_cases hc : c = b
      · subst hc
        rw [Function.update_self] at hp
        rcases ConnectionAdapter.step_queued hs with hsame | ⟨q, rfl, hgrown⟩
        · exact hi.queued c p (hsame ▸ hp)
        · rw [hgrown, List.mem_append, List.mem_singleton] at hp
          rcases hp with hp | rfl
          · exact hi.queued c p hp
          · exact hg
      · rw [Function.update_of_ne hc] at hp
        exact hi.queued c p hp
    · obtain ⟨-, rfl⟩ := ConnectionAdapter.step_eq_some hs
      by_cases hc : c = !b
      · subst hc
        rw [Function.update_self] at hp
        exact hi.queued _ p hp
      · rw [Function.update_of_ne hc] at hp
        exact hi.queued c p hp
  delivered c := by
    rcases step_cases h with ⟨b, a, s', rfl, -, hs, rfl⟩ | ⟨b, n, s', -, hs, rfl⟩
    · by_cases hc : c = b
      · subst hc
        rw [Function.update_self]
        rcases ConnectionAdapter.step_delivered hs with
          ⟨hdelivered, hhanded⟩ | ⟨i, p, rfl, hp, hhanded, hdelivered⟩
        · rw [hdelivered, hhanded]
          exact hi.delivered c
        · rw [hdelivered, hhanded, if_pos (hi.checkHeader hp hg), hi.delivered c]
      · rw [Function.update_of_ne hc]
        exact hi.delivered c
    · obtain ⟨-, rfl⟩ := ConnectionAdapter.step_eq_some hs
      by_cases hc : c = !b
      · subst hc
        rw [Function.update_self]
        exact hi.delivered _
      · rw [Function.update_of_ne hc]
        exact hi.delivered c

/-- In every run of a link, whatever the order of the steps of both sides, the packets that one side
has given to `HandleRead` are, in order, the first of those that the other has queued, if these
announce the payload that they have, and it has queued some of them on its looper, in that order.
Where the packets were prepared by `send_packet` and fit when they are handed on, that is all of
them. -/
theorem packets_cross_in_order (tls : Bool) (t : Bool → ATransport) (xs : List LinkAction)
    (l : PacketLink) (h : run step (new tls t) xs = some l) (b : Bool)
    (hframed : ∀ p ∈ (l b).queued, p.WellFramed) :
    (l !b).handed <+: (l b).queued ∧ (l !b).delivered.Sublist (l !b).handed ∧
      (Meets step Prepared (new tls t) xs → (l !b).delivered = (l !b).handed) := by
  have hi : LinkInv l := invariant_of_run (fun _ _ _ hi hs => hi.step hs) (.new tls t) h
  have hreading := (hi.adapters !b).2
  refine ⟨?_, hreading.delivered, fun hprepared => ?_⟩
  · refine List.IsPrefix.trans ?_ (hi.packetsRead_prefix hframed)
    rw [hreading.order]
    exact List.prefix_append _ _
  · have hall : Throughout step PreparedInv (new tls t) xs :=
      throughout_of_meets (fun _ _ _ hi hg hs => hi.step hg hs) (.new tls t) hprepared
    exact (hall.last h).delivered !b

/-- When both sides have come to rest, with what one has written received by the other, no error
handled, neither stopped, and the other still reading, everything that was queued on the one side is
queued on the looper of the other. -/
theorem all_packets_cross (tls : Bool) (t : Bool → ATransport) (xs : List LinkAction)
    (l : PacketLink) (h : run step (new tls t) xs = some l)
    (hprepared : Meets step Prepared (new tls t) xs) (b : Bool) (hstarted : (l b).started = true)
    (hstopped : (l b).stopped = false) (herrors : (l b).errors = 0) (hquiet : (l b).Quiet)
    (hreceived : (l !b).received = (l b).connection.outgoing) (hquiet' : (l !b).Quiet) (i : ℕ)
    (hreading : (l !b).readers[i]? = some .reading) :
    (l !b).delivered = (l b).queued := by
  have hall : Throughout step PreparedInv (new tls t) xs :=
    throughout_of_meets (fun _ _ _ hi hg hs => hi.step hg hs) (.new tls t) hprepared
  have hi := hall.last h
  obtain ⟨hsender, -⟩ := hi.link.adapters b
  obtain ⟨-, hreader⟩ := hi.link.adapters !b
  have hwritten : (l b).connection.outgoing = (l b).queued.flatMap APacket.toWrite := by
    rcases hquiet.all_written hsender hstarted hstopped with ⟨-, -, hbytes⟩ | ⟨-, hone⟩
    · exact hbytes
    · omega
  -- The reader waits, so there is no packet in what is left.
  have hrest : packetFraming.frames (l !b).connection.incoming = [] :=
    hquiet'.no_packet hreading
  have hread : (l !b).packetsRead = (l b).queued := by
    have hframes := hreader.stream.frames_eq
    rw [hrest, List.append_nil, hreceived, hwritten,
      frames_toWrite fun p hp => (hi.queued b p hp).1] at hframes
    exact hframes.symm
  have hhanded : (l !b).packetsRead = (l !b).handed := by
    rw [hreader.order, hquiet'.no_handling, List.append_nil]
  rw [hi.delivered, ← hhanded, hread]

/-- The transports of the two sides. -/
def linkTransport (_ : Bool) : ATransport := .new .local [] .offline true

/-- A packet with no payload, as `send_packet` prepares it. -/
def readyPacket : APacket :=
  (linkTransport false).finishPacket { getApacket with msg.command := Command.okay.word }

/-- It is sent from one side to the other, in two pieces. -/
def crossing : List LinkAction :=
  [.adapter false .start, .adapter true .start, .adapter false (.push readyPacket),
    .adapter false .notify, .adapter false (.writerTakes readyPacket), .adapter false (.writes 10),
    .transfer false 10, .adapter false (.writes 14), .adapter false .writeReturns,
    .transfer false 14, .adapter true (.reads 0 readyPacket),
    .adapter true (.handleRead 0 readyPacket), .adapter false .writerSleeps,
    .adapter true .writerSleeps]

/-- The packet has the payload that it announces. -/
theorem readyPacket_wellFramed : readyPacket.WellFramed := by
  unfold APacket.WellFramed
  decide

/-- What the other side handed on is what was queued first. -/
theorem crossing_in_order : ∃ l, run step (new false linkTransport) crossing = some l ∧
    (l true).delivered = [readyPacket] ∧ (l true).handed <+: (l false).queued :=
  ⟨_, rfl, rfl, (packets_cross_in_order false linkTransport crossing _ rfl false fun p hp => by
    obtain rfl := List.mem_singleton.mp hp
    exact readyPacket_wellFramed).1⟩

/-- A step of this packet alone, where it fits. -/
def ReadyPacketOnly (l : PacketLink) : LinkAction → Prop
  | .adapter _ (.push p) => p = readyPacket
  | .adapter b (.handleRead _ p) => p.msg.dataLength.toNat ≤ (l b).transport.maxPayload
  | _ => True

instance (l : PacketLink) (x : LinkAction) : Decidable (ReadyPacketOnly l x) := by
  unfold ReadyPacketOnly
  split <;> infer_instance

/-- It was prepared. -/
theorem crossing_prepared : Meets step Prepared (new false linkTransport) crossing := by
  have honly : Meets step ReadyPacketOnly (new false linkTransport) crossing := by decide
  refine Meets.mono (fun l x hx => ?_) honly
  cases x with
  | transfer => trivial
  | adapter b a =>
    cases a with
    | push p =>
      obtain rfl : p = readyPacket := hx
      exact ⟨readyPacket_wellFramed, linkTransport false, _, rfl⟩
    | handleRead i p => exact hx
    | _ => trivial

/-- And it is all that there was to be delivered. -/
theorem crossing_delivers_all : ∃ l, run step (new false linkTransport) crossing = some l ∧
    (l true).delivered = (l false).queued :=
  ⟨_, rfl, all_packets_cross false linkTransport crossing _ rfl crossing_prepared false rfl rfl rfl
    (.of_waiting rfl rfl rfl rfl rfl rfl rfl rfl rfl) rfl
    (.of_waiting rfl rfl rfl rfl rfl rfl rfl rfl rfl) 0 rfl⟩

end PacketLink

end AdbMobile
