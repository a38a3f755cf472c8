import AdbMobile.Lib.Run
import AdbMobile.Transport

/-!
# The client's feature cache

A command selects its device with `adb_set_transport` and asks the server for that device's features
with `adb_get_feature_set`, which keeps its first answer in a static variable. In the library the
process outlives the command, and the variable outlives the selection.

The state of the process is a `ClientProcess`, and a run is a list of selections and queries. What
the server answers is an argument of each query: the service string of the query decides the device,
and the time of the query decides the connection. A run returns what the server reports exactly when
the answers, from the first success on, never change (`featureSet_reported_iff`).
-/

namespace AdbMobile

open ByteString Run

/-- The static variables of `adb_client.cpp` that a feature query reads. -/
structure ClientProcess where
  /-- `__adb_transport`. -/
  transport : TransportType
  /-- `__adb_serial`. -/
  serial : Option Bytes
  /-- `__adb_transport_id`, 0 where no id is selected. -/
  transportId : ℕ
  /-- `features` of `adb_get_feature_set`. -/
  features : Option FeatureSet
  deriving DecidableEq, Repr

/-- The process before its first command. -/
def ClientProcess.fresh : ClientProcess := ⟨.any, none, 0, none⟩

/-- The server's side of one `adb_query`: its answer to a service string, or the error. -/
abbrev Server := Bytes → Except Bytes Bytes

/-- The device selection of a command line: the type (`-d`, `-e`), the serial (`-s`), the transport
id (`-t`), and `$ANDROID_SERIAL`. -/
structure Selection where
  transportType : TransportType
  serial : Option Bytes
  transportId : ℕ
  androidSerial : Option Bytes

/-- `adb_set_transport`. -/
def adbSetTransport (p : ClientProcess) (type : TransportType) (serial : Option Bytes)
    (transportId : ℕ) : ClientProcess :=
  { p with transport := type, serial := serial, transportId := transportId }

/-- How `adb_commandline` selects: the environment is tried where none of `-d`, `-e` and `-s` was
given. -/
def selectTransport (p : ClientProcess) (s : Selection) : ClientProcess :=
  let serial := if s.transportType = .any ∧ s.serial = none then s.androidSerial else s.serial
  adbSetTransport p s.transportType serial s.transportId

/-- `format_host_command`. -/
def formatHostCommand (p : ClientProcess) (command : Bytes) : Bytes :=
  if p.transportId ≠ 0 then
    lit "host-transport-id:" ++ decimal p.transportId ++ lit ":" ++ command
  else
    match p.serial with
    | some serial => lit "host-serial:" ++ serial ++ lit ":" ++ command
    | none =>
      let pre := match p.transport with
        | .usb => lit "host-usb"
        | .local => lit "host-local"
        | _ => lit "host"
      pre ++ lit ":" ++ command

/-- `adb_get_feature_set`: the cache or the error, and the process after the call. -/
def adbGetFeatureSet (p : ClientProcess) (server : Server) :
    Except Bytes FeatureSet × ClientProcess :=
  match p.features with
  | some features => (.ok features, p)
  | none =>
    match server (formatHostCommand p (lit "features")) with
    | .ok result =>
      (.ok (stringToFeatureSet result), { p with features := some (stringToFeatureSet result) })
    | .error err => (.error err, p)

/-- What the server reports for the transport that is selected: the purpose of a query. -/
def reportedFeatureSet (p : ClientProcess) (server : Server) : Except Bytes FeatureSet :=
  (server (formatHostCommand p (lit "features"))).map stringToFeatureSet

/-- What commands do to the process. -/
inductive ClientAction
  | select (s : Selection)
  | getFeatureSet (server : Server)

/-- One step of the client. -/
def clientStep (p : ClientProcess) : ClientAction → Option ClientProcess
  | .select s => some (selectTransport p s)
  | .getFeatureSet server => some (adbGetFeatureSet p server).2

/-- A query returns what the server reports for the selected transport. -/
def ReturnsReported (p : ClientProcess) : ClientAction → ClientProcess → Prop
  | .select _, _ => True
  | .getFeatureSet server, _ => (adbGetFeatureSet p server).1 = reportedFeatureSet p server

/-- What the server would report to each query of a run, in order. -/
def answers : ClientProcess → List ClientAction → List (Except Bytes FeatureSet)
  | _, [] => []
  | p, .select s :: as => answers (selectTransport p s) as
  | p, .getFeatureSet server :: as => reportedFeatureSet p server :: answers p as

/-- From the first success on, every answer is that success. -/
def Settled {ε α : Type} : List (Except ε α) → Prop
  | [] => True
  | .error _ :: answers => Settled answers
  | .ok a :: answers => ∀ answer ∈ answers, answer = .ok a

/-- Without a cached set a query returns what the server reports. -/
theorem adbGetFeatureSet_uncached {p : ClientProcess} (hp : p.features = none) (server : Server) :
    (adbGetFeatureSet p server).1 = reportedFeatureSet p server := by
  rw [adbGetFeatureSet, hp, reportedFeatureSet]
  cases server (formatHostCommand p (lit "features")) with
  | ok result => rfl
  | error err => rfl

/-- With one it returns the cached set and changes nothing, whatever is selected. -/
theorem adbGetFeatureSet_cached {p : ClientProcess} {f : FeatureSet} (hp : p.features = some f)
    (server : Server) : adbGetFeatureSet p server = (.ok f, p) := by
  rw [adbGetFeatureSet, hp]

/-- The cache plays no part in what the server reports. -/
theorem answers_features (p : ClientProcess) (f : Option FeatureSet) (as : List ClientAction) :
    answers { p with features := f } as = answers p as := by
  induction as generalizing p with
  | nil => rfl
  | cons a as ih =>
    cases a with
    | select s => exact ih (selectTransport p s)
    | getFeatureSet server => exact congrArg (reportedFeatureSet p server :: ·) (ih p)

/-- Once a set is cached, the queries are right exactly when every later answer is that set. -/
theorem eachStep_cached_iff (as : List ClientAction) :
    ∀ {p : ClientProcess} {f : FeatureSet}, p.features = some f →
      (EachStep clientStep ReturnsReported p as ↔ ∀ answer ∈ answers p as, answer = .ok f) := by
  induction as with
  | nil => exact fun _ => ⟨fun _ _ h => absurd h (List.not_mem_nil), fun _ => trivial⟩
  | cons a as ih =>
    intro p f hp
    cases a with
    | select s =>
      have hs : (selectTransport p s).features = some f := hp
      simp only [EachStep, clientStep, Option.mem_some_iff, forall_eq', ReturnsReported, true_and,
        answers]
      exact ih hs
    | getFeatureSet server =>
      simp only [EachStep, clientStep, Option.mem_some_iff, forall_eq', ReturnsReported, answers,
        adbGetFeatureSet_cached hp, List.forall_mem_cons]
      exact and_congr eq_comm (ih hp)

/-- In every run of client commands from a fresh process, each query returns the feature set that
the server reports for the transport then selected exactly when, from the first successful answer
on, every answer of the server is the same feature set. -/
theorem featureSet_reported_iff (as : List ClientAction) :
    EachStep clientStep ReturnsReported ClientProcess.fresh as ↔
      Settled (answers ClientProcess.fresh as) := by
  suffices h : ∀ p : ClientProcess, p.features = none →
      (EachStep clientStep ReturnsReported p as ↔ Settled (answers p as)) from
    h ClientProcess.fresh rfl
  induction as with
  | nil => exact fun _ _ => Iff.rfl
  | cons a as ih =>
    intro p hp
    cases a with
    | select s =>
      have hs : (selectTransport p s).features = none := hp
      simp only [EachStep, clientStep, Option.mem_some_iff, forall_eq', ReturnsReported, true_and,
        answers]
      exact ih _ hs
    | getFeatureSet server =>
      simp only [EachStep, clientStep, Option.mem_some_iff, forall_eq', ReturnsReported, answers,
        adbGetFeatureSet_uncached hp, true_and]
      -- A failure leaves the cache empty; a success fills it.
      cases hans : server (formatHostCommand p (lit "features")) with
      | error err =>
        simp only [adbGetFeatureSet, hp, hans, reportedFeatureSet, Except.map, Settled]
        exact ih p hp
      | ok result =>
        simp only [adbGetFeatureSet, hp, hans, reportedFeatureSet, Except.map, Settled]
        rw [eachStep_cached_iff as rfl, answers_features]

/-- A server of two devices: `new` speaks `shell_v2`, and `old` does not. -/
def twoDevices : Server := fun service =>
  if service = lit "host-serial:new:features" then .ok (lit "shell_v2,cmd")
  else if service = lit "host-serial:old:features" then .ok (lit "cmd")
  else .error (lit "device not found")

/-- A command for `old` after a command for `new` is told that `old` speaks `shell_v2`. -/
theorem featureSet_of_another_device :
    ¬ ∀ as : List ClientAction, EachStep clientStep ReturnsReported ClientProcess.fresh as := by
  intro h
  have hold := h [.select ⟨.any, some (lit "new"), 0, none⟩, .getFeatureSet twoDevices,
    .select ⟨.any, some (lit "old"), 0, none⟩, .getFeatureSet twoDevices]
  have hans := (((hold _ rfl).2 _ rfl).2 _ rfl).2 _ rfl
  exact absurd (congrArg Except.toOption hans.1) (by decide)

end AdbMobile
