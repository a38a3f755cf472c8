import AdbMobile.Lib.ByteString

/-!
# Packets

A packet is a header of six words and a payload. `adb.h` and `types.h` are outside the repository;
the command words, the version numbers and the payload limits here are those of the protocol.
-/

namespace AdbMobile

open ByteString

/-- `amessage`, the header of a packet. -/
structure AMessage where
  command : UInt32
  arg0 : UInt32
  arg1 : UInt32
  dataLength : UInt32
  dataCheck : UInt32
  magic : UInt32
  deriving DecidableEq, Repr

/-- `apacket`. -/
structure APacket where
  msg : AMessage
  payload : Bytes
  deriving DecidableEq, Repr

/-- The commands of the protocol. -/
inductive Command
  | sync | cnxn | open | okay | clse | wrte | auth | stls
  deriving DecidableEq, Repr

/-- The word of a command: its name, first letter in the lowest byte. -/
def Command.word : Command → UInt32
  | .sync => 0x434e5953
  | .cnxn => 0x4e584e43
  | .open => 0x4e45504f
  | .okay => 0x59414b4f
  | .clse => 0x45534c43
  | .wrte => 0x45545257
  | .auth => 0x48545541
  | .stls => 0x534c5453

/-- The command of a word, if it is one. -/
def Command.ofWord (w : UInt32) : Option Command :=
  [.sync, .cnxn, .open, .okay, .clse, .wrte, .auth, .stls].find? fun c => c.word == w

/-- Every command is the command of its word. -/
@[simp] theorem Command.ofWord_word (c : Command) : Command.ofWord c.word = some c := by
  cases c <;> decide

/-- `A_VERSION_MIN`. -/
def aVersionMin : ℤ := 0x01000000

/-- `A_VERSION_SKIP_CHECKSUM`. -/
def aVersionSkipChecksum : ℤ := 0x01000001

/-- `A_VERSION`. -/
def aVersion : ℤ := 0x01000001

/-- `A_STLS_VERSION`. -/
def aStlsVersion : UInt32 := 0x01000000

/-- `MAX_PAYLOAD_V1`. -/
def maxPayloadV1 : ℕ := 4 * 1024

/-- `MAX_PAYLOAD`. -/
def maxPayload : ℕ := 1024 * 1024

/-- `ADB_AUTH_TOKEN`. -/
def adbAuthToken : UInt32 := 1

/-- `INITIAL_DELAYED_ACK_BYTES`. -/
def initialDelayedAckBytes : UInt32 := 32 * 1024 * 1024

/-- `get_apacket`: a zero header and no payload. -/
def getApacket : APacket := ⟨⟨0, 0, 0, 0, 0, 0⟩, []⟩

/-- `calculate_apacket_checksum`. -/
def calculateApacketChecksum (p : APacket) : UInt32 :=
  (p.payload.take p.msg.dataLength.toNat).foldl (fun sum byte => sum + byte.toUInt32) 0

/-- The bytes of a word in memory, lowest first. -/
def wordBytes (w : UInt32) : Bytes :=
  [w.toUInt8, (w >>> 8).toUInt8, (w >>> 16).toUInt8, (w >>> 24).toUInt8]

/-- The word of bytes in memory, lowest first. -/
def wordOfBytes (b : Bytes) : UInt32 :=
  .ofNat (b.foldr (fun byte n => byte.toNat + 256 * n) 0)

/-- A word is read as it was stored. -/
@[simp] theorem wordOfBytes_wordBytes (w : UInt32) : wordOfBytes (wordBytes w) = w := by
  have hlt : w.toNat < 2 ^ 32 := w.toNat_lt
  apply UInt32.toNat.inj
  simp only [wordOfBytes, wordBytes, List.foldr_cons, List.foldr_nil, UInt32.toNat_ofNat',
    UInt32.toNat_toUInt8, UInt32.toNat_shiftRight, UInt32.reduceToNat, Nat.shiftRight_eq_div_pow,
    Nat.reduceMod, Nat.reducePow]
  omega

/-- The signed value of the bytes of a word, lowest first. -/
def int32OfBytes (b : Bytes) : ℤ :=
  ((b.foldr (fun byte n => byte.toNat + 256 * n) 0 : ℕ) : ℤ).bmod (2 ^ 32)

/-- A word read as an `int`. -/
def intOfWord (w : UInt32) : ℤ := (w.toNat : ℤ).bmod (2 ^ 32)

end AdbMobile
