import AdbMobile.Client.AdbClient

/-!
# Options

A command line is a list of words. `adb_commandline` reads the global options itself, up to the
first word that is none, and some commands go on with `getopt`, which keeps its place in two
variables of the process: `optind`, the index of the next word, and the rest of the word that it is
in.

The library is built for iOS, so `getopt` is the one of that system: it never reorders the words,
and it stops at the first one that is no option.
-/

namespace AdbMobile.Client

open ByteString

/-! ## Numbers -/

/-- `strtoll` in base 10, and the rest of the string. -/
def strtoll (s : Bytes) : ℤ × Bytes :=
  let (negative, t) := match s.dropWhile isSpace with
    | 45 :: t => (true, t)
    | 43 :: t => (false, t)
    | t => (false, t)
  let digits := t.takeWhile isDigit
  if digits = [] then (0, s)
  else
    let n : ℤ := digitsValue digits
    (max (-2 ^ 63) (min (if negative then -n else n) (2 ^ 63 - 1)), t.dropWhile isDigit)

/-- A `long` as an `int`. -/
def intOfLong (n : ℤ) : ℤ := n.bmod (2 ^ 32)

/-- `atoi`. -/
def atoi (s : Bytes) : ℤ := intOfLong (strtoll s).1

/-- `android::base::EndsWithIgnoreCase`. -/
def endsWithIgnoreCase (s suffix : Bytes) : Bool :=
  let lower (b : UInt8) : UInt8 := if 65 ≤ b ∧ b ≤ 90 then b + 32 else b
  (suffix.map lower).isSuffixOf (s.map lower)

/-! ## The global options -/

/-- The variables that the loop over the global options sets. -/
structure GlobalOptions where
  isServer : Bool := false
  noDaemon : Bool := false
  isDaemon : Bool := false
  ackReplyFd : ℤ := -1
  oneDevice : Option Bytes := none
  serial : Option Bytes := none
  transportId : ℕ := 0
  transportType : TransportType := .any
  /-- `gListenAll` is set. -/
  listenAll : Bool := false
  serverHost : Option Bytes := none
  serverPort : Option Bytes := none
  serverSocket : Option Bytes := none
  /-- `ReturnErrors` is called. -/
  returnErrors : Bool := false
  deriving DecidableEq, Repr

/-- A command line that is turned down: the text captured, which some of them print to `stderr`
first. -/
structure UsageError where
  text : Bytes
  printed : Bool := false
  deriving DecidableEq, Repr

/-- The third character of a word is a digit. -/
def hasDigit (arg : Bytes) : Bool := arg[2]?.any isDigit

/-- `-t`: the whole argument is a number, which becomes a `TransportId`. -/
def parseTransportId (id : Bytes) : Except UsageError ℕ :=
  let (n, rest) := strtoll id
  if rest = [] then .ok (n % 2 ^ 64).toNat else .error { text := lit "invalid transport id\n" }

/-- The loop over the global options: what is set, and the words that are left, or the error. -/
def parseGlobalOptions (o : GlobalOptions) : List Bytes → GlobalOptions × Except UsageError
    (List Bytes)
  | [] => (o, .ok [])
  | arg :: rest =>
    if arg = lit "server" then parseGlobalOptions { o with isServer := true } rest
    else if arg = lit "nodaemon" then parseGlobalOptions { o with noDaemon := true } rest
    else if arg = lit "fork-server" then parseGlobalOptions { o with isDaemon := true } rest
    else if arg = lit "--reply-fd" then
      match rest with
      | [] => (o, .error { text := lit "--reply-fd requires an argument\n" })
      | replyFd :: rest =>
        let fd := intOfLong (strtoll replyFd).1
        if 2 < fd then parseGlobalOptions { o with ackReplyFd := fd } rest
        else ({ o with ackReplyFd := fd },
          .error ⟨lit "adb: invalid reply fd \"" ++ replyFd ++ lit "\"\n", true⟩)
    else if arg = lit "--one-device" then
      match rest with
      | [] => (o, .error { text := lit "--one-device requires an argument\n" })
      | device :: rest => parseGlobalOptions { o with oneDevice := some device } rest
    else if (lit "-s").isPrefixOf arg then
      if hasDigit arg then parseGlobalOptions { o with serial := some (arg.drop 2) } rest
      else
        match rest with
        | [] => (o, .error { text := lit "-s requires an argument\n" })
        | serial :: rest =>
          if arg = lit "-s" then parseGlobalOptions { o with serial := some serial } rest
          else (o, .error { text := lit "-s requires an argument\n" })
    else if (lit "-t").isPrefixOf arg then
      if hasDigit arg then
        match parseTransportId (arg.drop 2) with
        | .error e => (o, .error e)
        | .ok id => parseGlobalOptions { o with transportId := id } rest
      else
        match rest with
        | [] => (o, .error { text := lit "-t requires an argument\n" })
        | id :: rest =>
          if arg = lit "-t" then
            match parseTransportId id with
            | .error e => (o, .error e)
            | .ok id => parseGlobalOptions { o with transportId := id } rest
          else (o, .error { text := lit "-t requires an argument\n" })
    else if arg = lit "-d" then parseGlobalOptions { o with transportType := .usb } rest
    else if arg = lit "-e" then parseGlobalOptions { o with transportType := .local } rest
    else if arg = lit "-a" then parseGlobalOptions { o with listenAll := true } rest
    else if (lit "-H").isPrefixOf arg then
      if arg = lit "-H" then
        match rest with
        | [] => (o, .error { text := lit "-H requires an argument\n" })
        | host :: rest => parseGlobalOptions { o with serverHost := some host } rest
      else parseGlobalOptions { o with serverHost := some (arg.drop 2) } rest
    else if (lit "-P").isPrefixOf arg then
      if arg = lit "-P" then
        match rest with
        | [] => (o, .error { text := lit "-P requires an argument\n" })
        | port :: rest => parseGlobalOptions { o with serverPort := some port } rest
      else parseGlobalOptions { o with serverPort := some (arg.drop 2) } rest
    else if arg = lit "-L" then
      match rest with
      | [] => (o, .error { text := lit "-L requires an argument\n" })
      | socket :: rest => parseGlobalOptions { o with serverSocket := some socket } rest
    else if arg = lit "--exit-on-write-error" then
      parseGlobalOptions { o with returnErrors := true } rest
    else (o, .ok (arg :: rest))

/-- `DEFAULT_ADB_PORT`. -/
def defaultAdbPort : ℤ := 5037

/-- The socket specification of the server: `-L`, the environment, or a host and a port. -/
def serverSocketSpec (env : ClientEnv) (o : GlobalOptions) : Except UsageError Bytes :=
  let given := o.serverHost.isSome || o.serverPort.isSome
  if given && o.serverSocket.isSome then
    .error { text := lit "-L is incompatible with -H or -P\n" }
  else
    let socket := if given || o.serverSocket.isSome then o.serverSocket
      else env.getenv (lit "ADB_SERVER_SOCKET")
    match socket with
    | some socket => .ok socket
    | none =>
      let host := o.serverHost.or (env.getenv (lit "ANDROID_ADB_SERVER_ADDRESS"))
      let spec (port : ℤ) : Bytes := match host with
        | some host => lit "tcp:" ++ host ++ lit ":" ++ decimalInt port
        | none => lit "tcp:" ++ decimalInt port
      match o.serverPort.or (env.getenv (lit "ANDROID_ADB_SERVER_PORT")) with
      | none | some [] => .ok (spec defaultAdbPort)
      | some port =>
        match env.parseInt port 1 65535 with
        | some port => .ok (spec port)
        | none =>
          .error ⟨lit "$ANDROID_ADB_SERVER_PORT must be a positive number less than 65535: got \"" ++ port ++
            lit "\"\n", false⟩

/-! ## `getopt` -/

/-- The variables of `getopt`. -/
structure GetoptState where
  optind : ℕ
  /-- What is left of the word that the last option was in. -/
  place : Bytes
  deriving DecidableEq, Repr

/-- The variables of `getopt` in a new process. -/
def GetoptState.fresh : GetoptState := ⟨1, []⟩

/-- What `getopt` returns: -1, an option with its argument, or `'?'`. -/
inductive GetoptResult
  | done
  | option (c : UInt8) (arg : Option Bytes)
  | invalid
  deriving DecidableEq, Repr

/-- An option `c` of the word at `optind`, with `place` after it. Each option of `optstring` comes
with whether it takes an argument. -/
def getoptAt (optstring : List (UInt8 × Bool)) (argv : List Bytes) (optind : ℕ) (c : UInt8)
    (place : Bytes) : GetoptResult × GetoptState :=
  let next : GetoptState := if place = [] then ⟨optind + 1, []⟩ else ⟨optind, place⟩
  match optstring.lookup c with
  | none => (.invalid, next)
  | some false => (.option c none, next)
  | some true =>
    if place ≠ [] then (.option c (some place), ⟨optind + 1, []⟩)
    else
      match argv[optind + 1]? with
      | some arg => (.option c (some arg), ⟨optind + 2, []⟩)
      | none => (.invalid, ⟨optind + 1, []⟩)

/-- `getopt`. -/
def getopt (optstring : List (UInt8 × Bool)) (argv : List Bytes) (g : GetoptState) :
    GetoptResult × GetoptState :=
  match g.place with
  | c :: place => getoptAt optstring argv g.optind c place
  | [] =>
    match argv[g.optind]? with
    | none => (.done, g)
    | some word =>
      if word = lit "--" then (.done, ⟨g.optind + 1, []⟩)
      else
        match word with
        | 45 :: c :: place => getoptAt optstring argv g.optind c place
        | _ => (.done, g)

/-- The characters and words that `getopt` has before it. -/
def GetoptState.left (argv : List Bytes) (g : GetoptState) : ℕ :=
  (argv.drop g.optind).length + (argv.drop g.optind).flatten.length + g.place.length

end AdbMobile.Client
