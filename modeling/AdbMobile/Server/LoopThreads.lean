import AdbMobile.Lib.Run
import AdbMobile.Server.PollLoop

/-!
# The loop and the other threads

`Loop` runs on one thread, while others queue functions on it with `Run`, ask it to end with
`TerminateLoop`, wait for that in `WaitForLoopExit`, and, since `Destroy` does not check the thread,
take descriptors away from it.

A `LoopState` has the fields of the context and the places of all threads, and each atomic step of
one of them is a `LoopAction`. `Run` and `TerminateLoop` are two steps, the change and the byte that
`Interrupt` writes: between them the thread is in `inRun` or `inTerminate`. An access to a map or to
a flag is one step here.
-/

namespace AdbMobile

/-- A thread: the one that calls `Loop`, or another. -/
inductive LoopThread
  | looper
  | other (n : ℕ)
  deriving DecidableEq, Repr

/-- Where the thread that calls `Loop` is. `φ` is what stands for a function. -/
inductive LoopPhase (φ : Type)
  /-- Not in `Loop`. -/
  | outside
  /-- Before the test of `terminate_loop_`. -/
  | top
  /-- After the collection of `pollfds`, and in `poll` with the duration. -/
  | polling (pollfds : List PollFd) (duration : Option ℤ)
  /-- After `poll`, with the descriptors that are not looked up yet. -/
  | lookingUp (revents : ℕ → UInt16) (postPoll : ℤ) (pollfds : List PollFd)
      (events : List FdeventEvent)
  /-- In the callback of an `fdevent`. -/
  | invoking (e : FdeventEvent)
  /-- In `FlushRunQueue`, before it takes a function. -/
  | flushing
  /-- In a function from the queue. -/
  | running (f : φ)
  /-- Past the loop, before `NotifyLoopExit` resets `looper_thread_id_`. -/
  | exiting
  /-- After that, before `notify_all`. -/
  | notifying
  /-- The end of the map has been dereferenced. -/
  | undefined

/-- The context, the threads, and what has happened to the queue. -/
structure LoopState (φ : Type) where
  context : PollContext
  /-- The `fdevent` of the interrupt socket. -/
  interruptFde : FdePtr
  /-- `looper_thread_id_` has a value. -/
  hasLooper : Bool
  terminateLoop : Bool
  runQueue : List φ
  /-- The bytes in the interrupt socket. -/
  unread : ℕ
  /-- The threads that have pushed a function and not yet written the byte. -/
  inRun : List LoopThread
  /-- The threads that have set `terminate_loop_` and not yet written the byte. -/
  inTerminate : List LoopThread
  /-- The threads in `WaitForLoopExit` that are about to test `looper_thread_id_`. -/
  waiting : List LoopThread
  /-- The threads that sleep on `loop_exit_cv_`. -/
  asleep : List LoopThread
  phase : LoopPhase φ
  /-- All functions that were pushed, in their order. -/
  pushed : List φ
  /-- All functions that `FlushRunQueue` took, in their order. -/
  executed : List φ
  /-- The thread that pushed the last of them. -/
  lastPusher : Option LoopThread

/-- A step of the thread that calls `Loop`. -/
inductive LooperAction
  | enterLoop
  /-- The test of `terminate_loop_`, and if it is not set, the collection of `pollfds`. -/
  | checkTerminate (now : ℤ)
  | pollReturns (revents : ℕ → UInt16) (postPoll : ℤ)
  /-- `poll` returns -1. -/
  | pollFails
  /-- The look-up of the next descriptor. -/
  | lookUp
  /-- `HandleEvents` finds the event whose callback it invokes. -/
  | dispatch
  /-- The code that runs on this thread changes the context. -/
  | contextOp (op : ContextOp)
  /-- `fdevent_interrupt` reads this many bytes, and returns. -/
  | readInterrupt (n : ℕ)
  | callbackReturns
  /-- `FlushRunQueue` takes a function, or finds the queue empty. -/
  | nextFunction
  | functionReturns
  | notifyReset
  | notifyAll

/-- A step of any thread in the functions of the context that are called from outside the loop. -/
inductive ThreadAction (φ : Type)
  /-- `Run` pushes a function. -/
  | push (f : φ)
  /-- `TerminateLoop` sets the flag. -/
  | setTerminate
  /-- `Interrupt` writes the byte, or fails with `EAGAIN`. -/
  | interrupt (written : Bool)
  | destroy (fde : FdePtr)
  | waitForLoopExit
  /-- `WaitForLoopExit` finds `looper_thread_id_` set. -/
  | sleeps
  /-- A thread wakes though it was not notified. -/
  | wakes
  | waitReturns

/-- A step of the threads. -/
inductive LoopAction (φ : Type)
  | looper (a : LooperAction)
  | thread (t : LoopThread) (a : ThreadAction φ)

namespace LoopPhase

variable {φ : Type}

/-- The thread runs code that may call any function of the context. -/
def runsCode : LoopPhase φ → Bool
  | .outside | .invoking _ | .running _ => true
  | _ => false

/-- The callback and the queue come before the next `poll`. -/
def beforeFlushed : LoopPhase φ → Bool
  | .invoking _ | .flushing | .running _ => true
  | _ => false

/-- The descriptors that were collected and are not looked up yet. -/
def collected : LoopPhase φ → List PollFd
  | .polling pollfds _ | .lookingUp _ _ pollfds _ => pollfds
  | _ => []

/-- From the start of `Loop` to the reset of `looper_thread_id_`, or to a return without it. -/
def inLoop : LoopPhase φ → Bool
  | .outside | .notifying => false
  | _ => true

end LoopPhase

namespace LoopState

variable {φ : Type}

/-- A context that no thread has used. -/
def start (c : PollContext) (interruptFde : FdePtr) : LoopState φ :=
  ⟨c, interruptFde, false, false, [], 0, [], [], [], [], .outside, [], [], none⟩

/-- The thread is in none of the functions that take more than one step. -/
def Free (s : LoopState φ) (t : LoopThread) : Prop :=
  t ∉ s.inRun ∧ t ∉ s.inTerminate ∧ t ∉ s.waiting ∧ t ∉ s.asleep

instance (s : LoopState φ) (t : LoopThread) : Decidable (s.Free t) := by
  unfold Free
  infer_instance

/-- The thread may call a function of the context. -/
def MayCall (s : LoopState φ) (t : LoopThread) : Prop :=
  s.Free t ∧ (t = .looper → s.phase.runsCode = true)

instance (s : LoopState φ) (t : LoopThread) : Decidable (s.MayCall t) := by
  unfold MayCall
  infer_instance

/-- A step of `Loop`, or of the code that its thread runs. -/
def looperStep (s : LoopState φ) : LooperAction → Option (LoopState φ)
  | .enterLoop =>
    match s.phase with
    | .outside => some { s with hasLooper := true, phase := .top }
    | _ => none
  | .checkTerminate now =>
    match s.phase with
    | .top =>
      if s.terminateLoop then some { s with phase := .exiting }
      -- `CHECK_GT(pollfds.size(), 0u)`
      else if s.context.pollfds = [] then none
      else
        some { s with
          phase := .polling s.context.pollfds (s.context.calculatePollDuration now) }
    | _ => none
  | .pollReturns revents postPoll =>
    match s.phase with
    | .polling pollfds _ => some { s with phase := .lookingUp revents postPoll pollfds [] }
    | _ => none
  | .pollFails =>
    match s.phase with
    | .polling _ _ => some { s with phase := .outside }
    | _ => none
  | .lookUp =>
    match s.phase with
    | .lookingUp revents postPoll (p :: pollfds) events =>
      match PollContext.lookUp revents postPoll s.context events p with
      | some (context, events) =>
        some { s with context := context, phase := .lookingUp revents postPoll pollfds events }
      | none => some { s with phase := .undefined }
    | _ => none
  | .dispatch =>
    match s.phase with
    | .lookingUp _ _ [] events =>
      match s.context.firstInstalled events with
      | some e => some { s with phase := .invoking e }
      | none => some { s with phase := .flushing }
    | _ => none
  | .contextOp op =>
    if s.phase.runsCode then some { s with context := s.context.apply op } else none
  | .readInterrupt n =>
    match s.phase with
    | .invoking e =>
      if e.fde = s.interruptFde ∧ 0 < n ∧ n ≤ s.unread then
        some { s with unread := s.unread - n, phase := .flushing }
      else none
    | _ => none
  | .callbackReturns =>
    match s.phase with
    | .invoking e => if e.fde = s.interruptFde then none else some { s with phase := .flushing }
    | _ => none
  | .nextFunction =>
    match s.phase with
    | .flushing =>
      match s.runQueue with
      | [] => some { s with phase := .top }
      | f :: runQueue =>
        some { s with
          runQueue := runQueue
          executed := s.executed ++ [f]
          phase := .running f }
    | _ => none
  | .functionReturns =>
    match s.phase with
    | .running _ => some { s with phase := .flushing }
    | _ => none
  | .notifyReset =>
    match s.phase with
    | .exiting => some { s with hasLooper := false, phase := .notifying }
    | _ => none
  | .notifyAll =>
    match s.phase with
    | .notifying =>
      some { s with waiting := s.asleep ++ s.waiting, asleep := [], phase := .outside }
    | _ => none

/-- A step of a thread in `Run`, `TerminateLoop`, `Destroy` or `WaitForLoopExit`. -/
def threadStep (s : LoopState φ) (t : LoopThread) : ThreadAction φ → Option (LoopState φ)
  | .push f =>
    if s.MayCall t then
      some { s with
        runQueue := s.runQueue ++ [f]
        inRun := t :: s.inRun
        pushed := s.pushed ++ [f]
        lastPusher := some t }
    else none
  | .setTerminate =>
    if s.MayCall t then
      some { s with terminateLoop := true, inTerminate := t :: s.inTerminate }
    else none
  | .interrupt written =>
    -- `EAGAIN` means that there are bytes that nobody has read.
    if (t ∈ s.inRun ∨ t ∈ s.inTerminate) ∧ (written = true ∨ 0 < s.unread) then
      some { s with
        unread := if written then s.unread + 1 else s.unread
        inRun := s.inRun.filter (· ≠ t)
        inTerminate := s.inTerminate.filter (· ≠ t) }
    else none
  | .destroy fde =>
    if s.MayCall t then some { s with context := s.context.destroy fde } else none
  | .waitForLoopExit => if s.MayCall t then some { s with waiting := t :: s.waiting } else none
  | .sleeps =>
    if t ∈ s.waiting ∧ s.hasLooper = true then
      some { s with waiting := s.waiting.filter (· ≠ t), asleep := t :: s.asleep }
    else none
  | .wakes =>
    if t ∈ s.asleep then
      some { s with asleep := s.asleep.filter (· ≠ t), waiting := t :: s.waiting }
    else none
  | .waitReturns =>
    if t ∈ s.waiting ∧ s.hasLooper = false then
      some { s with waiting := s.waiting.filter (· ≠ t) }
    else none

/-- A step of the threads. -/
def step (s : LoopState φ) : LoopAction φ → Option (LoopState φ)
  | .looper a => if s.Free .looper then s.looperStep a else none
  | .thread t a => s.threadStep t a

end LoopState

end AdbMobile
