import AdbMobile.Lib.Stream
import AdbMobile.Transport

/-!
# Framing

`FdConnection` writes a packet as its header and then its payload, and reads one by the length in
the header (`transport.cpp`). Over TLS the payload of no bytes is neither written nor read. A read
or a write of `n` bytes does all of them or fails.

A list of packets is read back from what was written for it, and whatever the peer sends, a packet
that is read has the payload that its header announces (`packets_framed`).
-/

namespace AdbMobile

open ByteString Stream

/-- `sizeof(amessage)`. -/
def sizeofAmessage : ℕ := 24

/-- The bytes of a header in memory. -/
def AMessage.bytes (m : AMessage) : Bytes :=
  wordBytes m.command ++ wordBytes m.arg0 ++ wordBytes m.arg1 ++ wordBytes m.dataLength ++
    wordBytes m.dataCheck ++ wordBytes m.magic

/-- The header that bytes in memory are. -/
def AMessage.ofBytes (b : Bytes) : AMessage where
  command := wordOfBytes (b.take 4)
  arg0 := wordOfBytes ((b.drop 4).take 4)
  arg1 := wordOfBytes ((b.drop 8).take 4)
  dataLength := wordOfBytes ((b.drop 12).take 4)
  dataCheck := wordOfBytes ((b.drop 16).take 4)
  magic := wordOfBytes ((b.drop 20).take 4)

@[simp] theorem AMessage.length_bytes (m : AMessage) : m.bytes.length = sizeofAmessage := rfl

@[simp] theorem AMessage.ofBytes_bytes (m : AMessage) : AMessage.ofBytes m.bytes = m := by
  have hcommand : m.bytes.take 4 = wordBytes m.command := rfl
  have harg0 : (m.bytes.drop 4).take 4 = wordBytes m.arg0 := rfl
  have harg1 : (m.bytes.drop 8).take 4 = wordBytes m.arg1 := rfl
  have hlength : (m.bytes.drop 12).take 4 = wordBytes m.dataLength := rfl
  have hcheck : (m.bytes.drop 16).take 4 = wordBytes m.dataCheck := rfl
  have hmagic : (m.bytes.drop 20).take 4 = wordBytes m.magic := rfl
  rw [AMessage.ofBytes, hcommand, harg0, harg1, hlength, hcheck, hmagic]
  simp only [wordOfBytes_wordBytes]

/-- `FdConnection`, and the two directions of its descriptor. -/
structure FdConnection where
  /-- `tls_` is set. -/
  tls : Bool
  /-- The descriptor is not closed. -/
  isOpen : Bool
  /-- What the peer has sent and was not read yet. -/
  incoming : Bytes
  /-- What was written. -/
  outgoing : Bytes
  deriving DecidableEq, Repr

namespace FdConnection

/-- `DispatchRead`. -/
def dispatchRead (c : FdConnection) (len : ℕ) : Option (Bytes × FdConnection) :=
  if c.tls ∧ len = 0 then some ([], c)
  else if c.isOpen then
    (readExactly len c.incoming).map fun r => (r.1, { c with incoming := r.2 })
  else none

/-- `DispatchWrite`. -/
def dispatchWrite (c : FdConnection) (buf : Bytes) : Option FdConnection :=
  if c.tls ∧ buf.length = 0 then some c
  else if c.isOpen then some { c with outgoing := c.outgoing ++ buf }
  else none

/-- `Read`. -/
def read (c : FdConnection) : Option (APacket × FdConnection) :=
  (c.dispatchRead sizeofAmessage).bind fun r =>
    let msg := AMessage.ofBytes r.1
    if maxPayload < msg.dataLength.toNat then none
    else (r.2.dispatchRead msg.dataLength.toNat).map fun r => (⟨msg, r.1⟩, r.2)

/-- `Write`. -/
def write (c : FdConnection) (p : APacket) : Option FdConnection :=
  (c.dispatchWrite p.msg.bytes).bind fun c =>
    if p.msg.dataLength ≠ 0 then c.dispatchWrite (p.payload.take p.msg.dataLength.toNat)
    else some c

/-- `Write` of one packet after the other, until one fails. -/
def writeAll (c : FdConnection) (ps : List APacket) : Option FdConnection :=
  ps.foldlM FdConnection.write c

end FdConnection

/-- The header announces the payload, and the payload is not too long to be read. -/
def APacket.WellFramed (p : APacket) : Prop :=
  p.msg.dataLength.toNat = p.payload.length ∧ p.payload.length ≤ maxPayload

/-- The bytes of a packet. -/
def APacket.bytes (p : APacket) : Bytes := p.msg.bytes ++ p.payload

/-- A packet off the front of a stream: the header, and as many bytes as it announces. -/
def readPacket (s : Bytes) : Option (APacket × Bytes) :=
  (readExactly sizeofAmessage s).bind fun r =>
    let msg := AMessage.ofBytes r.1
    if maxPayload < msg.dataLength.toNat then none
    else (readExactly msg.dataLength.toNat r.2).map fun r => (⟨msg, r.1⟩, r.2)

/-- The framing of packets. -/
def packetCodec : Codec APacket UInt8 where
  write := APacket.bytes
  read := readPacket
  Writable := APacket.WellFramed
  read_write := by
    rintro p rest ⟨hlength, hmax⟩
    have hheader : readExactly sizeofAmessage (p.bytes ++ rest) =
        some (p.msg.bytes, p.payload ++ rest) := by
      rw [APacket.bytes, List.append_assoc, ← p.msg.length_bytes]
      exact readExactly_append _ _
    have hfits : ¬ maxPayload < p.payload.length := by omega
    rw [readPacket, hheader]
    simp only [Option.bind_some, AMessage.ofBytes_bytes, hlength, if_neg hfits,
      readExactly_append, Option.map_some]
  read_nil := rfl

/-- What a packet that was read takes off the stream, and how long its payload is. -/
theorem readPacket_eq_some {s rest : Bytes} {p : APacket} (h : readPacket s = some (p, rest)) :
    p.msg.dataLength.toNat ≤ maxPayload ∧ p.payload.length = p.msg.dataLength.toNat ∧
      ∃ header, header.length = sizeofAmessage ∧ AMessage.ofBytes header = p.msg ∧
        s = header ++ p.payload ++ rest := by
  obtain ⟨⟨header, s'⟩, hheader, hrest⟩ := Option.bind_eq_some_iff.mp h
  obtain ⟨hlen, rfl⟩ := readExactly_eq_some hheader
  dsimp only at hrest
  split at hrest
  · cases hrest
  · rename_i hmax
    obtain ⟨⟨payload, rest'⟩, hpayload, heq⟩ := Option.map_eq_some_iff.mp hrest
    obtain ⟨hpaylen, rfl⟩ := readExactly_eq_some hpayload
    cases heq
    exact ⟨Nat.le_of_not_lt hmax, hpaylen, header, hlen, rfl, (List.append_assoc ..).symm⟩

namespace FdConnection

/-- Reading from an open connection is reading from what the peer has sent, over TLS or not. -/
theorem read_eq {c : FdConnection} (hopen : c.isOpen = true) (s : Bytes) :
    ({ c with incoming := s } : FdConnection).read =
      (readPacket s).map (Prod.map id fun s => { c with incoming := s }) := by
  have hheader : ¬ (c.tls = true ∧ sizeofAmessage = 0) := fun h => absurd h.2 (by decide)
  -- A payload of no bytes is skipped over TLS, and is there to be read otherwise.
  have hdispatch : ∀ (n : ℕ) (s : Bytes),
      ({ c with incoming := s } : FdConnection).dispatchRead n =
        (readExactly n s).map fun r => (r.1, { c with incoming := r.2 }) := by
    intro n s
    rw [dispatchRead]
    split
    · rename_i hskip
      rw [hskip.2]
      rfl
    · simp only [hopen]
  rw [read, hdispatch, readPacket]
  cases readExactly sizeofAmessage s with
  | none => rfl
  | some r =>
    simp only [Option.map_some, Option.bind_some]
    split
    · rfl
    · rw [hdispatch, Option.map_map, Option.map_map]
      rfl

/-- Reading from a closed connection fails. -/
theorem read_closed {c : FdConnection} (hclosed : c.isOpen = false) : c.read = none := by
  have hheader : ¬ (c.tls = true ∧ sizeofAmessage = 0) := fun h => absurd h.2 (by decide)
  rw [read, dispatchRead, if_neg hheader, hclosed]
  rfl

/-- Writing a packet on an open connection appends its bytes, over TLS or not. -/
theorem write_eq {c : FdConnection} (hopen : c.isOpen = true) {p : APacket} (hp : p.WellFramed) :
    c.write p = some { c with outgoing := c.outgoing ++ p.bytes } := by
  have hheader : ¬ (c.tls = true ∧ p.msg.bytes.length = 0) := fun h => absurd h.2 (by simp; decide)
  rw [write, dispatchWrite, if_neg hheader, if_pos hopen, Option.bind_some]
  split
  · rename_i hne
    have hlen : p.payload.length ≠ 0 := by
      rw [← hp.1]
      exact fun h => hne (UInt32.toNat.inj h)
    have htake : p.payload.take p.msg.dataLength.toNat = p.payload := by
      rw [hp.1]
      exact List.take_length
    rw [htake, dispatchWrite, if_neg fun h => hlen h.2, if_pos hopen, APacket.bytes,
      List.append_assoc]
  · rename_i hzero
    have hnil : p.payload = [] := by
      rw [← List.length_eq_zero_iff, ← hp.1, not_not.mp hzero]
      rfl
    rw [APacket.bytes, hnil, List.append_nil]

/-- Writing several appends the bytes of all. -/
theorem writeAll_eq {ps : List APacket} (hps : ∀ p ∈ ps, p.WellFramed) :
    ∀ {c : FdConnection}, c.isOpen = true →
      c.writeAll ps = some { c with outgoing := c.outgoing ++ ps.flatMap APacket.bytes } := by
  induction ps with
  | nil => simp [writeAll]
  | cons p ps ih =>
    intro c hopen
    have hrest := ih (fun q hq => hps q (List.mem_cons_of_mem p hq))
      (c := { c with outgoing := c.outgoing ++ p.bytes }) hopen
    rw [writeAll, List.foldlM_cons, write_eq hopen (hps p List.mem_cons_self)]
    rw [writeAll] at hrest
    simp only [Option.bind_eq_bind, Option.bind_some, hrest, List.flatMap_cons, List.append_assoc]

end FdConnection

/-- Packets with the payload that they announce are all written, and what was written is read back
as these packets, and then a read fails. Whatever a connection is sent, a packet that is read is
within the limit, has the payload that it announces, and takes its header and its payload off the
stream. And a packet that `send_packet` prepared passes `check_header` where it is not longer than
the peer takes. -/
theorem packets_framed :
    (∀ (sender receiver : FdConnection) (ps : List APacket), sender.isOpen = true →
      sender.outgoing = [] → receiver.isOpen = true → receiver.tls = sender.tls →
      (∀ p ∈ ps, p.WellFramed) → ∃ sender', sender.writeAll ps = some sender' ∧
        ∀ fuel, ps.length < fuel →
          let r := readAll FdConnection.read fuel { receiver with incoming := sender'.outgoing }
          r.1 = ps ∧ r.2.read = none) ∧
    (∀ (c c' : FdConnection) (p : APacket), c.read = some (p, c') →
      p.msg.dataLength.toNat ≤ maxPayload ∧ p.payload.length = p.msg.dataLength.toNat ∧
        ∃ header, header.length = sizeofAmessage ∧ AMessage.ofBytes header = p.msg ∧
          c.incoming = header ++ p.payload ++ c'.incoming) ∧
    ∀ (t peer : ATransport) (p : APacket), p.msg.dataLength.toNat ≤ peer.maxPayload →
      peer.checkHeader (t.finishPacket p) = true := by
  refine ⟨?_, ?_, ?_⟩
  · -- An open connection reads as its stream does, with or without TLS.
    intro sender receiver ps hopen hnew hopen' htls hps
    refine ⟨_, FdConnection.writeAll_eq hps hopen, fun fuel hfuel => ?_⟩
    have hback : readAll readPacket fuel (ps.flatMap APacket.bytes) = (ps, []) :=
      packetCodec.readAll_flatMap hps hfuel
    have hread := readAll_map (fun s => ({ receiver with incoming := s } : FdConnection))
      (FdConnection.read_eq hopen') fuel (ps.flatMap APacket.bytes)
    simp only [hnew, List.nil_append, hread, hback, Prod.map_apply, id_eq, true_and]
    rw [FdConnection.read_eq hopen']
    rfl
  · intro c c' p h
    have hopen : c.isOpen = true := by
      by_contra hclosed
      rw [FdConnection.read_closed (by simpa using hclosed)] at h
      cases h
    have heq : c.read = (readPacket c.incoming).map
        (Prod.map id fun s => { c with incoming := s }) := FdConnection.read_eq hopen c.incoming
    rw [heq] at h
    obtain ⟨⟨p', rest⟩, hpacket, h⟩ := Option.map_eq_some_iff.mp h
    cases h
    exact readPacket_eq_some hpacket
  · intro t peer p hp
    rw [ATransport.checkHeader_finishPacket]
    exact decide_eq_true hp

/-- Two packets over TLS, one of them with no payload. -/
def framedPackets : List APacket :=
  [⟨⟨Command.okay.word, 1, 2, 0, 0, Command.okay.word ^^^ 0xffffffff⟩, []⟩,
    ⟨⟨Command.wrte.word, 1, 2, 3, 0, Command.wrte.word ^^^ 0xffffffff⟩, [7, 0, 9]⟩]

/-- They are written and read back. -/
theorem framedPackets_read_back : ∃ sender' : FdConnection,
    (⟨true, true, [], []⟩ : FdConnection).writeAll framedPackets = some sender' ∧
      ∀ fuel, framedPackets.length < fuel →
        let r := readAll FdConnection.read fuel ⟨true, true, sender'.outgoing, []⟩
        r.1 = framedPackets ∧ r.2.read = none := by
  have hps : ∀ p ∈ framedPackets, p.WellFramed := by
    unfold APacket.WellFramed
    decide
  exact packets_framed.1 ⟨true, true, [], []⟩ ⟨true, true, [], []⟩ framedPackets rfl rfl rfl rfl hps

end AdbMobile
