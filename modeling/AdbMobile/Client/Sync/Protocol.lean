import AdbMobile.Lib.PosixPath
import AdbMobile.Packet

/-!
# The sync protocol

The messages of the file transfer service. `file_sync_protocol.h` is outside the repository: the
ids, the sizes of the structures and the places of their fields are those of the protocol. A
structure that was read is the bytes that it occupies, and its fields are read off them.
-/

namespace AdbMobile.Sync

open ByteString PosixPath

/-- `SYNC_DATA_MAX`. -/
def syncDataMax : ℕ := 64 * 1024

/-- The ids of requests and responses. -/
inductive SyncId
  | lstatV1 | statV2 | lstatV2 | listV1 | listV2 | dentV1 | dentV2 | sendV1 | sendV2 | recvV1 | recvV2
  | done | data | okay | fail | quit
  deriving DecidableEq, Repr

/-- The word at an offset of a structure, lowest byte first. -/
def wordAt (mem : Bytes) (off : ℕ) : UInt32 :=
  .ofNat (((mem.drop off).take 4).foldr (fun byte n => byte.toNat + 256 * n) 0)

/-- The double word at an offset of a structure. -/
def longAt (mem : Bytes) (off : ℕ) : ℕ :=
  ((mem.drop off).take 8).foldr (fun byte n => byte.toNat + 256 * n) 0

/-- A word that was stored is read there, and what is behind it after it. -/
theorem wordAt_zero (w : UInt32) (more : Bytes) : wordAt (wordBytes w ++ more) 0 = w :=
  wordOfBytes_wordBytes w

theorem wordAt_skip (w : UInt32) (more : Bytes) (off : ℕ) :
    wordAt (wordBytes w ++ more) (off + 4) = wordAt more off := rfl

theorem longAt_skip (w : UInt32) (more : Bytes) (off : ℕ) :
    longAt (wordBytes w ++ more) (off + 4) = longAt more off := rfl

/-- A double word read as a signed number. -/
def signedLong (n : ℕ) : ℤ := (n : ℤ).bmod (2 ^ 64)

/-- The name of an id, of which its bytes are the letters. -/
def SyncId.name : SyncId → Bytes
  | .lstatV1 => lit "STAT"
  | .statV2 => lit "STA2"
  | .lstatV2 => lit "LST2"
  | .listV1 => lit "LIST"
  | .listV2 => lit "LIS2"
  | .dentV1 => lit "DENT"
  | .dentV2 => lit "DNT2"
  | .sendV1 => lit "SEND"
  | .sendV2 => lit "SND2"
  | .recvV1 => lit "RECV"
  | .recvV2 => lit "RCV2"
  | .done => lit "DONE"
  | .data => lit "DATA"
  | .okay => lit "OKAY"
  | .fail => lit "FAIL"
  | .quit => lit "QUIT"

/-- The word of an id. -/
def SyncId.word (id : SyncId) : UInt32 := wordAt id.name 0

/-- `CompressionType`. -/
inductive CompressionType
  | none | any | brotli | lz4 | zstd
  deriving DecidableEq, Repr

/-- What the client sends. -/
inductive SyncMessage
  /-- A `SyncRequest` and the path after it. -/
  | request (id : SyncId) (path : Bytes)
  /-- The `send_v2_setup` that follows a request of `ID_SEND_V2`. -/
  | sendV2Setup (mode flags : UInt32)
  /-- The `recv_v2_setup` that follows a request of `ID_RECV_V2`. -/
  | recvV2Setup (flags : UInt32)
  | data (block : Bytes)
  | done (mtime : UInt32)
  deriving DecidableEq, Repr

/-- The bytes of a message. -/
def SyncMessage.bytes : SyncMessage → Bytes
  | .request id path => wordBytes id.word ++ wordBytes (.ofNat path.length) ++ path
  | .sendV2Setup mode flags => wordBytes SyncId.sendV2.word ++ wordBytes mode ++ wordBytes flags
  | .recvV2Setup flags => wordBytes SyncId.recvV2.word ++ wordBytes flags
  | .data block => wordBytes SyncId.data.word ++ wordBytes (.ofNat block.length) ++ block
  | .done mtime => wordBytes SyncId.done.word ++ wordBytes mtime

/-- `kSyncFlagBrotli`, `kSyncFlagLZ4` and `kSyncFlagZstd`. -/
def CompressionType.flags : CompressionType → UInt32
  | .brotli => 1
  | .lz4 => 2
  | .zstd => 4
  | .none | .any => 0

/-- `kSyncFlagDryRun`. -/
def kSyncFlagDryRun : UInt32 := 0x80000000

/-- The size of `stat_v1`. -/
def statV1Size : ℕ := 16

/-- The size of `stat_v2`. -/
def statV2Size : ℕ := 72

/-- The size of `dent_v1`. -/
def dentV1Size : ℕ := 20

/-- The size of `dent_v2`. -/
def dentV2Size : ℕ := 76

/-- The size of `sync_status` and of `syncmsg::data`. -/
def syncStatusSize : ℕ := 8

/-! ## Files -/

/-- `S_IFMT`. -/
def sIfmt : UInt32 := 0o170000

/-- `S_IFDIR`. -/
def sIfdir : UInt32 := 0o040000

/-- `S_IFREG`. -/
def sIfreg : UInt32 := 0o100000

/-- `S_ISDIR`. -/
def isDir (mode : UInt32) : Bool := mode &&& sIfmt == sIfdir

/-- `S_ISREG`. -/
def isReg (mode : UInt32) : Bool := mode &&& sIfmt == sIfreg

/-- `S_ISLNK`. -/
def isLnk (mode : UInt32) : Bool := mode &&& sIfmt == 0o120000

/-- `S_ISBLK`. -/
def isBlk (mode : UInt32) : Bool := mode &&& sIfmt == 0o060000

/-- `S_ISCHR`. -/
def isChr (mode : UInt32) : Bool := mode &&& sIfmt == 0o020000

/-- `should_pull_file`. -/
def shouldPullFile (mode : UInt32) : Bool := isReg mode || isBlk mode || isChr mode

/-- `should_push_file`. -/
def shouldPushFile (mode : UInt32) : Bool := isReg mode || isLnk mode

/-- The fields of `struct stat` that are used: `st_mode`, `st_size` and `st_mtime`. -/
structure Stat where
  mode : UInt32
  size : ℤ
  mtime : ℤ
  deriving DecidableEq, Repr

/-- An entry of a directory, as the list callback gets it. -/
structure Dent where
  mode : UInt32
  size : ℕ
  time : ℕ
  name : Bytes
  deriving DecidableEq, Repr

/-- `copyinfo`. -/
structure CopyInfo where
  lpath : Bytes
  rpath : Bytes
  time : ℤ := 0
  mode : UInt32
  size : ℕ := 0
  skip : Bool := false
  deriving DecidableEq, Repr

/-- `IsDotOrDotDot`. -/
def isDotOrDotDot (name : Bytes) : Bool := name = lit "." || name = lit ".."

/-- The errors that the client tells apart. -/
inductive Errno
  | enoent | enotsup | enoprotoopt | enametoolong | econnreset
  | other (code : ℕ)
  deriving DecidableEq, Repr

end AdbMobile.Sync
