import AdbMobile.Server.Frame

/-!
# The listener registry

`listener_list` and the `disconnects_` of the transports refer to each other: a listener over a
transport has its `disconnect` record in that transport's list, and the record's callback erases the
listener. Both change when a listener is made, rebound, or destroyed, and while `RunDisconnects`
walks through the list.

In every sequence of these calls the names of the listeners differ, every listener over a transport
is recorded there once and nowhere else, no record outlives its listener, and an `install_listener`
that fails changes nothing (`listeners_registered`).
-/

namespace AdbMobile

open ByteString Run

/-- A call of `adb_listeners.cpp`, or of `RunDisconnects`. -/
inductive ListenerCall
  | installListener (r : InstallRequest)
  | removeListener (localName : Bytes)
  | removeAllListeners
  | closeSmartsockets
  | runDisconnects (t : ℕ)

namespace Host

/-- The rebind branch of `install_listener` calls `RemoveDisconnect` or `AddDisconnect` of a null
pointer. -/
def RebindsNull (h : Host) (r : InstallRequest) : Prop :=
  ∃ l ∈ h.listenerList.find? (·.localName = r.localName), l.isSmartSocket = false ∧
    r.noRebind = false ∧ l.transport ≠ r.transport ∧ (l.transport = none ∨ r.transport = none)

instance (h : Host) (r : InstallRequest) : Decidable (h.RebindsNull r) := by
  unfold RebindsNull
  infer_instance

/-- The tables after a call; a call that dereferences a null pointer does not return. -/
def listenerStep (h : Host) : ListenerCall → Option Host
  | .installListener r => if h.RebindsNull r then none else some (h.installListener r).2
  | .removeListener localName => some (h.removeListener localName).2
  | .removeAllListeners => some h.removeAllListeners
  | .closeSmartsockets => some h.closeSmartsockets
  | .runDisconnects t => some (h.runDisconnects t)

/-- What the callers of `install_listener` and the system promise: a listener that is no smart
socket gets a transport, and a port that the system resolves is not that of another listener. The
system is asked for one only where no listener has the name yet. -/
def Promised (h : Host) : ListenerCall → Prop
  | .installListener r =>
    (r.transport = none → r.connectTo = kSmartSocketConnectTo) ∧
    (h.listenerList.find? (·.localName = r.localName) = none →
      ∀ listening ∈ r.listening.toOption, listening.resolved ≠ 0 →
        ∀ l ∈ h.listenerList, l.localName ≠ lit "tcp:" ++ decimal listening.resolved)
  | _ => True

instance (h : Host) (c : ListenerCall) : Decidable (h.Promised c) := by
  cases c <;> unfold Promised <;> infer_instance

/-- The registry as its users see it between two calls. -/
structure ListenersRegistered (h : Host) : Prop where
  /-- The local names are pairwise distinct. -/
  names : (h.listenerList.map AListener.localName).Nodup
  /-- A listener that is no smart socket has a transport, whose `disconnects_` has its record once,
  and no other's has it. -/
  recorded : ∀ l ∈ h.listenerList, l.isSmartSocket = false → ∃ t, l.transport = some t ∧
    (h.transports t).disconnects.count l.id = 1 ∧ ∀ u, u ≠ t → l.id ∉ (h.transports u).disconnects
  /-- No `disconnects_` has the record of a listener that was removed. -/
  live : ∀ t, ∀ id ∈ (h.transports t).disconnects, ∃ l ∈ h.listenerList, l.id = id

/-- An `install_listener` that does not return `INSTALL_STATUS_OK` leaves the lists as they were. -/
def FailureChangesNothing (h : Host) (c : ListenerCall) (h' : Host) : Prop :=
  ∀ r, c = .installListener r → (h.installListener r).1.status ≠ .ok →
    h'.listenerList = h.listenerList ∧
      ∀ t, (h'.transports t).disconnects = (h.transports t).disconnects

/-- What holds between the calls, besides `Registry`. -/
structure Tidy (h : Host) : Prop where
  names : (h.listenerList.map AListener.localName).Nodup
  once : ∀ t, (h.transports t).disconnects.Nodup
  smart : ∀ l ∈ h.listenerList, l.transport = none → l.isSmartSocket = true

variable {h h' : Host}

theorem Tidy.initial (delayedAckEnabled : Bool) : Tidy (Host.initial delayedAckEnabled) :=
  ⟨List.nodup_nil, fun _ => List.nodup_nil, fun _ hl => absurd hl List.not_mem_nil⟩

/-- Where both invariants hold, the registry is as its users see it. -/
theorem Tidy.registered (ht : Tidy h) (hr : Registry h) : ListenersRegistered h where
  names := ht.names
  recorded := by
    intro l hl hsmart
    obtain ⟨t, htr⟩ : ∃ t, l.transport = some t := by
      refine Option.ne_none_iff_exists'.mp fun hnone => ?_
      rw [ht.smart l hl hnone] at hsmart
      cases hsmart
    refine ⟨t, htr, ?_, fun u hu hmem => ?_⟩
    · have hmem : l.id ∈ (h.transports t).disconnects := (hr.mem_disconnects_iff hl t).mpr htr
      exact List.count_eq_one_of_mem (ht.once t) hmem
    · have hother := (hr.mem_disconnects_iff hl u).mp hmem
      rw [htr] at hother
      exact hu (Option.some.inj hother).symm
  live := by
    intro t id hid
    obtain ⟨l, hl, hlid, -⟩ := (hr.registered id t).mp hid
    exact ⟨l, hl, hlid⟩

/-! ## One call -/

/-- Erasing a listener leaves the rest in order. -/
theorem Tidy.eraseListener (ht : Tidy h) (l : AListener) : Tidy (h.eraseListener l) where
  names := by
    rw [eraseListener_listenerList]
    exact (List.filter_sublist.map _).nodup ht.names
  once := by
    intro t
    rw [eraseListener_disconnects]
    split
    · exact (ht.once t).filter _
    · exact ht.once t
  smart := by
    rw [eraseListener_listenerList]
    exact fun a ha => ht.smart a (List.mem_of_mem_filter ha)

/-- Erasing several listeners of the list does. -/
theorem Tidy.eraseListeners (ht : Tidy h) (hr : Registry h) (p : AListener → Bool) :
    Tidy ((h.listenerList.filter p).foldl Host.eraseListener h) :=
  (foldl_eraseListener_induct (fun _ l _ ht _ => ht.eraseListener l) hr ht List.filter_sublist).2

/-- `RunDisconnects` does. -/
theorem Tidy.runDisconnects (ht : Tidy h) (t : ℕ) : Tidy (h.runDisconnects t) where
  names := by
    rw [runDisconnects_listenerList]
    exact (List.filter_sublist.map _).nodup ht.names
  once := by
    intro u
    by_cases hu : u = t
    · rw [hu, runDisconnects_transports_same]
      exact List.nodup_nil
    · rw [runDisconnects_transports_ne h hu]
      exact ht.once u
  smart := by
    rw [runDisconnects_listenerList]
    exact fun a ha => ht.smart a (List.mem_of_mem_filter ha)

/-- Rebinding a listener does, where it is given a transport or made a smart socket. -/
theorem Tidy.rebindListener (ht : Tidy h) (hr : Registry h) {l : AListener}
    (hl : l ∈ h.listenerList) {r : InstallRequest}
    (hto : r.transport = none → r.connectTo = kSmartSocketConnectTo) :
    Tidy (h.rebindListener l r) where
  names := by
    have hname : ∀ a ∈ h.listenerList, a.id = l.id → a.localName = (retarget l r).localName := by
      intro a ha hid
      rw [hr.eq_of_id ha hl hid]
      rfl
    rw [rebindListener_listenerList, map_replace AListener.localName hname]
    exact ht.names
  once := by
    intro t
    unfold Host.rebindListener
    split
    · exact ht.once t
    · rw [addDisconnect_disconnects, removeDisconnect_disconnects]
      -- The record leaves its old list before it joins the new one.
      have hmem := hr.mem_disconnects_iff hl t
      by_cases hold : l.transport = some t <;> by_cases hnew : r.transport = some t
      · simp only [if_pos hold, if_pos hnew]
        exact List.Nodup.append ((ht.once t).filter _) (List.nodup_singleton _) (by simp)
      · simp only [if_pos hold, if_neg hnew]
        exact (ht.once t).filter _
      · simp only [if_neg hold, if_pos hnew]
        have hnot : l.id ∉ (h.transports t).disconnects := fun hid => hold (hmem.mp hid)
        exact List.Nodup.append (ht.once t) (List.nodup_singleton _) (by simpa using hnot)
      · simp only [if_neg hold, if_neg hnew]
        exact ht.once t
  smart := by
    rw [rebindListener_listenerList]
    intro a ha hnone
    rcases (mem_map_replace hl).mp ha with rfl | ⟨ha, -⟩
    · have hsmart : r.connectTo = kSmartSocketConnectTo := hto hnone
      simp [AListener.isSmartSocket, retarget, hsmart]
    · exact ht.smart a ha hnone

/-- Binding a new listener does, where its name is new. -/
theorem Tidy.bindListener (ht : Tidy h) (hr : Registry h) {r : InstallRequest}
    {listening : Listening} (hto : r.transport = none → r.connectTo = kSmartSocketConnectTo)
    (hname : ∀ l ∈ h.listenerList, l.localName ≠ listening.name r.localName) :
    Tidy (h.bindListener r listening) where
  names := by
    simp only [Host.bindListener, addDisconnect, boundListener, List.map_append, List.map_cons,
      List.map_nil]
    refine List.Nodup.append ht.names (List.nodup_singleton _) ?_
    simpa using hname
  once := by
    intro t
    rw [Host.bindListener, addDisconnect_disconnects]
    split
    · have hnew : h.nextListener ∉ (h.transports t).disconnects := by
        intro hid
        obtain ⟨l, hl, hlid, -⟩ := (hr.registered _ t).mp hid
        exact absurd (hr.lt_next l hl) (by omega)
      exact List.Nodup.append (ht.once t) (List.nodup_singleton _) (by simpa [boundListener])
    · exact ht.once t
  smart := by
    simp only [Host.bindListener, addDisconnect, List.mem_append, List.mem_singleton]
    rintro a (ha | rfl) hnone
    · exact ht.smart a ha hnone
    · have hsmart : r.connectTo = kSmartSocketConnectTo := hto hnone
      simp [AListener.isSmartSocket, boundListener, hsmart]

/-- The name of a new listener is new: no listener has the name that was asked for, and none the
port that was resolved. -/
theorem bound_name_new {r : InstallRequest} {listening : Listening}
    (hfind : h.listenerList.find? (·.localName = r.localName) = none)
    (hport : listening.resolved ≠ 0 →
      ∀ l ∈ h.listenerList, l.localName ≠ lit "tcp:" ++ decimal listening.resolved) :
    ∀ l ∈ h.listenerList, l.localName ≠ listening.name r.localName := by
  intro l hl
  unfold Listening.name
  split
  · rename_i hresolved
    exact hport hresolved l hl
  · simpa using List.find?_eq_none.mp hfind l hl

/-- `install_listener` does, where the promises are kept. -/
theorem Tidy.installListener (ht : Tidy h) (hr : Registry h) {r : InstallRequest}
    (hp : h.Promised (.installListener r)) : Tidy (h.installListener r).2 := by
  obtain ⟨hto, hport⟩ := hp
  unfold Host.installListener
  cases hf : h.listenerList.find? (·.localName = r.localName) with
  | some l =>
    have hl := List.mem_of_find?_eq_some hf
    dsimp only
    split
    · exact ht
    · split
      · exact ht
      · exact ht.rebindListener hr hl hto
  | none =>
    cases hlisten : r.listening with
    | error e => exact ht
    | ok listening =>
      refine ht.bindListener hr hto (bound_name_new hf (hport hf listening ?_))
      rw [hlisten]
      rfl

/-- A call that returns keeps both invariants, where the promises are kept. -/
theorem listenerStep_keeps {c : ListenerCall} (hi : Registry h ∧ Tidy h) (hp : h.Promised c)
    (hs : h.listenerStep c = some h') : Registry h' ∧ Tidy h' := by
  obtain ⟨hr, ht⟩ := hi
  cases c with
  | installListener r =>
    simp only [listenerStep] at hs
    split at hs
    · cases hs
    · cases hs
      exact ⟨hr.installListener r, ht.installListener hr hp⟩
  | removeListener localName =>
    cases hs
    obtain hsame | ⟨l, hl, hsame⟩ := removeListener_cases h localName
    · rw [hsame]
      exact ⟨hr, ht⟩
    · rw [hsame]
      exact ⟨hr.eraseListener hl, ht.eraseListener l⟩
  | removeAllListeners =>
    cases hs
    exact ⟨hr.removeAllListeners, ht.eraseListeners hr _⟩
  | closeSmartsockets =>
    cases hs
    exact ⟨hr.closeSmartsockets, ht.eraseListeners hr _⟩
  | runDisconnects t =>
    cases hs
    exact ⟨hr.runDisconnects t, ht.runDisconnects t⟩

/-- A call of `install_listener` that fails changes nothing. -/
theorem listenerStep_failure {c : ListenerCall} (hs : h.listenerStep c = some h') :
    FailureChangesNothing h c h' := by
  rintro r rfl hstatus
  simp only [listenerStep] at hs
  split at hs
  · cases hs
  · cases hs
    have hsame : (h.installListener r).2 = h := by
      unfold Host.installListener at hstatus ⊢
      cases hf : h.listenerList.find? (·.localName = r.localName) with
      | some l =>
        simp only [hf] at hstatus ⊢
        split at hstatus
        · rw [if_pos ‹_›]
        · rw [if_neg ‹_›]
          split at hstatus
          · rw [if_pos ‹_›]
          · exact absurd rfl hstatus
      | none =>
        simp only [hf] at hstatus ⊢
        cases hlisten : r.listening with
        | error e => rfl
        | ok listening =>
          rw [hlisten] at hstatus
          exact absurd rfl hstatus
    rw [hsame]
    exact ⟨rfl, fun _ => rfl⟩

/-! ## Every sequence of calls -/

/-- In every sequence of calls, from the start of the server, in which the promises are kept, the
registry is in order after each call, and no `install_listener` that fails changes it. -/
theorem listeners_registered (delayedAckEnabled : Bool) (calls : List ListenerCall)
    (hp : Meets listenerStep Promised (.initial delayedAckEnabled) calls) :
    Throughout listenerStep ListenersRegistered (.initial delayedAckEnabled) calls ∧
      EachStep listenerStep FailureChangesNothing (.initial delayedAckEnabled) calls := by
  have hinv : Throughout listenerStep (fun h => Registry h ∧ Tidy h)
      (.initial delayedAckEnabled) calls :=
    throughout_of_meets (fun h c h' hi hp hs => listenerStep_keeps hi hp hs)
      ⟨.initial delayedAckEnabled, .initial delayedAckEnabled⟩ hp
  have hfail : ∀ (h : Host) (c : ListenerCall) (h' : Host), h.listenerStep c = some h' →
      FailureChangesNothing h c h' := fun _ _ _ hs => listenerStep_failure hs
  exact ⟨hinv.mono fun h hi => hi.2.registered hi.1, eachStep_of_forall hfail⟩

/-- A listener is made on a port that the system resolves, rebound to another transport, and asked
for again without a rebind, and then its transport goes away. -/
def listenerCalls : List ListenerCall :=
  let request (name : Bytes) (t : ℕ) (noRebind : Bool) : ListenerCall := .installListener
    { localName := name, connectTo := lit "tcp:80", transport := some t, noRebind := noRebind,
      disabled := false, listening := .ok ⟨3, 6100⟩ }
  [request (lit "tcp:0") 1 false, request (lit "tcp:6100") 2 false, request (lit "tcp:6100") 1 true,
    .runDisconnects 2]

/-- The registry is in order after each of these. -/
theorem listenerCalls_registered :
    Meets listenerStep Promised (.initial false) listenerCalls ∧
      Throughout listenerStep ListenersRegistered (.initial false) listenerCalls :=
  have hp : Meets listenerStep Promised (.initial false) listenerCalls := by decide +kernel
  ⟨hp, (listeners_registered false listenerCalls hp).1⟩

end Host

end AdbMobile
