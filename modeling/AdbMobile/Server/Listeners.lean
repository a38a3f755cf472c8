import AdbMobile.Lib.Run
import AdbMobile.Server.Host

/-!
# Listeners

A listener binds a local name and forwards what connects to it. `listener_list` owns the listeners;
each owns an event of the ambient context, and one over a transport is in that transport's
`disconnects_`, which removes it when the transport goes offline (`adb_listeners.cpp`).

The functions here keep two invariants. `Registry` says that `disconnects_` and `listener_list`
agree, and `Installed` that every listener's event is installed in the ambient context and owns the
listener's descriptor.
-/

namespace AdbMobile

open ByteString

/-- `InstallStatus`. -/
inductive InstallStatus
  | ok | internalError | cannotBind | cannotRebind | listenerNotFound
  deriving DecidableEq, Repr

/-- What `socket_spec_listen` opens: a descriptor, and the port where the name asked for port 0. -/
structure Listening where
  fd : ℕ
  resolved : ℕ
  deriving DecidableEq, Repr

/-- The arguments of `install_listener`, with the outcome of its `socket_spec_listen`. -/
structure InstallRequest where
  localName : Bytes
  connectTo : Bytes
  transport : Option ℕ
  /-- `INSTALL_LISTENER_NO_REBIND`. -/
  noRebind : Bool
  /-- `INSTALL_LISTENER_DISABLED`. -/
  disabled : Bool
  listening : Except Bytes Listening

/-- What `install_listener` returns. -/
structure InstallResult where
  status : InstallStatus
  resolvedTcpPort : Option ℕ := none
  error : Option Bytes := none
  deriving DecidableEq, Repr

/-- The name that a new listener gets: the resolved port, where there is one. -/
def Listening.name (listening : Listening) (localName : Bytes) : Bytes :=
  if listening.resolved ≠ 0 then lit "tcp:" ++ decimal listening.resolved else localName

namespace Host

/-- `AddDisconnect` of a listener, where it has a transport. -/
def addDisconnect (h : Host) (o : Option ℕ) (id : ℕ) : Host :=
  { h with transports := fun t =>
      if o = some t then (h.transports t).addDisconnect id else h.transports t }

/-- `RemoveDisconnect` of a listener, where it has a transport. -/
def removeDisconnect (h : Host) (o : Option ℕ) (id : ℕ) : Host :=
  { h with transports := fun t =>
      if o = some t then (h.transports t).removeDisconnect id else h.transports t }

/-- Erases a listener from the list, which destroys it. -/
def eraseListener (h : Host) (l : AListener) : Host :=
  { h with
    listenerList := h.listenerList.filter (·.id ≠ l.id)
    ambient := h.ambient.destroy l.fde }.removeDisconnect l.transport l.id

/-- `listener_disconnect`: the transport is forgotten before the listener is erased. -/
def listenerDisconnect (h : Host) (id : ℕ) : Host :=
  match h.listenerList.find? (·.id = id) with
  | some l => h.eraseListener { l with transport := none }
  | none => h

/-- `RunDisconnects`. -/
def runDisconnects (h : Host) (t : ℕ) : Host :=
  ((h.transports t).disconnects.foldl listenerDisconnect h).modifyTransport t fun x =>
    { x with disconnects := [] }

/-- `remove_listener`. -/
def removeListener (h : Host) (localName : Bytes) : InstallStatus × Host :=
  match h.listenerList.find? (·.localName = localName) with
  | some l => (.ok, h.eraseListener l)
  | none => (.listenerNotFound, h)

/-- `remove_all_listeners`: smart sockets stay, as does whatever connects to a name with a star. -/
def removeAllListeners (h : Host) : Host :=
  (h.listenerList.filter fun l => l.connectTo.head? ≠ some 42).foldl eraseListener h

/-- `close_smartsockets`. -/
def closeSmartsockets (h : Host) : Host :=
  (h.listenerList.filter fun l => l.isSmartSocket).foldl eraseListener h

/-- `enable_server_sockets`. -/
def enableServerSockets (h : Host) : Host :=
  { h with
    ambient := (h.listenerList.filter fun l => l.isSmartSocket).foldl
      (fun c l => c.set l.fde fdeRead) h.ambient }

/-- A listener with the target and the transport of a request. -/
def retarget (l : AListener) (r : InstallRequest) : AListener :=
  { l with connectTo := r.connectTo, transport := r.transport }

/-- The rebind branch of `install_listener`. -/
def rebindListener (h : Host) (l : AListener) (r : InstallRequest) : Host :=
  let h := { h with
    listenerList := h.listenerList.map fun a => if a.id = l.id then retarget l r else a }
  if l.transport = r.transport then h
  else (h.removeDisconnect l.transport l.id).addDisconnect r.transport l.id

/-- The listener that the bind branch of `install_listener` makes. -/
def boundListener (h : Host) (r : InstallRequest) (listening : Listening) : AListener where
  id := h.nextListener
  fde := (h.ambient.install listening.fd).2
  fd := listening.fd
  localName := listening.name r.localName
  connectTo := r.connectTo
  transport := r.transport

/-- The bind branch of `install_listener`. -/
def bindListener (h : Host) (r : InstallRequest) (listening : Listening) : Host :=
  let l := h.boundListener r listening
  let ambient := (h.ambient.install listening.fd).1
  { h with
    ambient := if r.disabled then ambient else ambient.set l.fde fdeRead
    listenerList := h.listenerList ++ [l]
    nextListener := h.nextListener + 1 }.addDisconnect r.transport l.id

/-- `install_listener`. -/
def installListener (h : Host) (r : InstallRequest) : InstallResult × Host :=
  match h.listenerList.find? (·.localName = r.localName) with
  | some l =>
    if l.isSmartSocket then
      ({ status := .internalError, error := some (lit "cannot repurpose smartsocket") }, h)
    else if r.noRebind then
      ({ status := .cannotRebind, error := some (lit "cannot rebind") }, h)
    else ({ status := .ok }, h.rebindListener l r)
  | none =>
    match r.listening with
    | .error e => ({ status := .cannotBind, error := some e }, h)
    | .ok listening =>
      ({ status := .ok
         resolvedTcpPort := if listening.resolved ≠ 0 then some listening.resolved else none },
        h.bindListener r listening)

/-- Every listener has its own id, and a transport's `disconnects_` are the listeners over it. -/
structure Registry (h : Host) : Prop where
  nodup : (h.listenerList.map AListener.id).Nodup
  lt_next : ∀ l ∈ h.listenerList, l.id < h.nextListener
  registered : ∀ id t, id ∈ (h.transports t).disconnects ↔
    ∃ l ∈ h.listenerList, l.id = id ∧ l.transport = some t

/-- Every listener has its own event, installed in the ambient context and owning the listener's
descriptor. -/
structure Installed (h : Host) : Prop where
  nodup : (h.listenerList.map AListener.fde).Nodup
  owns : ∀ l ∈ h.listenerList, h.ambient.Owns l.fde l.fd

/-- A change of the looper's state that no listener is part of. -/
structure SameListeners (h h' : Host) : Prop where
  listenerList : h'.listenerList = h.listenerList
  nextListener : h'.nextListener = h.nextListener
  ambient : h'.ambient = h.ambient
  disconnects : ∀ t, (h'.transports t).disconnects = (h.transports t).disconnects

variable {h h' : Host}

theorem SameListeners.refl (h : Host) : SameListeners h h := ⟨rfl, rfl, rfl, fun _ => rfl⟩

theorem SameListeners.trans {h'' : Host} (h₁ : SameListeners h h') (h₂ : SameListeners h' h'') :
    SameListeners h h'' :=
  ⟨h₂.listenerList.trans h₁.listenerList, h₂.nextListener.trans h₁.nextListener,
    h₂.ambient.trans h₁.ambient, fun t => (h₂.disconnects t).trans (h₁.disconnects t)⟩

/-- Both invariants are about the listeners alone. -/
theorem Registry.of_same (hr : Registry h) (hs : SameListeners h h') : Registry h' where
  nodup := hs.listenerList ▸ hr.nodup
  lt_next := by
    rw [hs.listenerList, hs.nextListener]
    exact hr.lt_next
  registered := fun id t => by
    rw [hs.disconnects, hs.listenerList]
    exact hr.registered id t

theorem Installed.of_same (hi : Installed h) (hs : SameListeners h h') : Installed h' where
  nodup := hs.listenerList ▸ hi.nodup
  owns := by
    rw [hs.listenerList, hs.ambient]
    exact hi.owns

@[simp] theorem modifyTransport_same (h : Host) (t : ℕ) (f : ATransport → ATransport) :
    (h.modifyTransport t f).transports t = f (h.transports t) := Function.update_self ..

@[simp] theorem modifyTransport_ne (h : Host) {t u : ℕ} (hu : u ≠ t)
    (f : ATransport → ATransport) : (h.modifyTransport t f).transports u = h.transports u :=
  Function.update_of_ne hu ..

/-- Changing anything of a transport but its `disconnects_` is no change of the listeners. -/
theorem SameListeners.modifyTransport (h : Host) (t : ℕ) {f : ATransport → ATransport}
    (hf : ∀ x, (f x).disconnects = x.disconnects) : SameListeners h (h.modifyTransport t f) := by
  refine ⟨rfl, rfl, rfl, fun u => ?_⟩
  by_cases hu : u = t
  · rw [hu, modifyTransport_same, hf]
  · rw [modifyTransport_ne h hu]

/-! ## Erasing -/

/-- Two listeners of the registry with one id are one. -/
theorem Registry.eq_of_id (hr : Registry h) {l l' : AListener} (hl : l ∈ h.listenerList)
    (hl' : l' ∈ h.listenerList) (hid : l.id = l'.id) : l = l' :=
  List.inj_on_of_nodup_map hr.nodup hl hl' hid

/-- A listener's id is in the `disconnects_` of its own transport and no other's. -/
theorem Registry.mem_disconnects_iff (hr : Registry h) {l : AListener} (hl : l ∈ h.listenerList)
    (t : ℕ) : l.id ∈ (h.transports t).disconnects ↔ l.transport = some t := by
  rw [hr.registered]
  constructor
  · rintro ⟨l', hl', hid, ht⟩
    rw [← hr.eq_of_id hl' hl hid]
    exact ht
  · exact fun ht => ⟨l, hl, rfl, ht⟩

@[simp] theorem eraseListener_listenerList (h : Host) (l : AListener) :
    (h.eraseListener l).listenerList = h.listenerList.filter (·.id ≠ l.id) := rfl

@[simp] theorem eraseListener_nextListener (h : Host) (l : AListener) :
    (h.eraseListener l).nextListener = h.nextListener := rfl

@[simp] theorem eraseListener_ambient (h : Host) (l : AListener) :
    (h.eraseListener l).ambient = h.ambient.destroy l.fde := rfl

/-- Adding to the `disconnects_` of one transport leaves those of the others. -/
theorem addDisconnect_disconnects (h : Host) (o : Option ℕ) (id t : ℕ) :
    ((h.addDisconnect o id).transports t).disconnects =
      if o = some t then (h.transports t).disconnects ++ [id]
      else (h.transports t).disconnects := by
  simp only [addDisconnect, ATransport.addDisconnect]
  split <;> rfl

/-- Removing from the `disconnects_` of one transport leaves those of the others. -/
theorem removeDisconnect_disconnects (h : Host) (o : Option ℕ) (id t : ℕ) :
    ((h.removeDisconnect o id).transports t).disconnects =
      if o = some t then (h.transports t).disconnects.filter (· ≠ id)
      else (h.transports t).disconnects := by
  simp only [removeDisconnect, ATransport.removeDisconnect]
  split <;> rfl

/-- Erasing a listener takes its id out of its own transport's `disconnects_`. -/
theorem eraseListener_disconnects (h : Host) (l : AListener) (t : ℕ) :
    ((h.eraseListener l).transports t).disconnects =
      if l.transport = some t then (h.transports t).disconnects.filter (· ≠ l.id)
      else (h.transports t).disconnects :=
  removeDisconnect_disconnects _ _ _ _

/-- Erasing a listener of the list keeps the registry. -/
theorem Registry.eraseListener (hr : Registry h) {l : AListener} (hl : l ∈ h.listenerList) :
    Registry (h.eraseListener l) where
  nodup := by
    rw [eraseListener_listenerList]
    exact (List.filter_sublist.map _).nodup hr.nodup
  lt_next := by
    rw [eraseListener_listenerList, eraseListener_nextListener]
    exact fun a ha => hr.lt_next a (List.mem_of_mem_filter ha)
  registered := fun id t => by
    have hmem : id ∈ ((h.eraseListener l).transports t).disconnects ↔
        id ∈ (h.transports t).disconnects ∧ id ≠ l.id := by
      rw [eraseListener_disconnects]
      split
      · simp [List.mem_filter]
      · rename_i ht
        refine ⟨fun hid => ⟨hid, ?_⟩, And.left⟩
        rintro rfl
        exact ht ((hr.mem_disconnects_iff hl t).mp hid)
    rw [hmem, hr.registered, eraseListener_listenerList]
    constructor
    · rintro ⟨⟨a, ha, rfl, ht⟩, hne⟩
      exact ⟨a, List.mem_filter.mpr ⟨ha, by simpa using hne⟩, rfl, ht⟩
    · rintro ⟨a, ha, rfl, ht⟩
      obtain ⟨ha, hne⟩ := List.mem_filter.mp ha
      exact ⟨⟨a, ha, rfl, ht⟩, by simpa using hne⟩

/-- Erasing a listener of the list, whatever its transport, keeps the others installed. -/
theorem Installed.eraseListener (hi : Installed h) {l a : AListener} (ha : a ∈ h.listenerList)
    (hid : a.id = l.id) (hfde : a.fde = l.fde) : Installed (h.eraseListener l) where
  nodup := by
    rw [eraseListener_listenerList]
    exact (List.filter_sublist.map _).nodup hi.nodup
  owns := by
    rw [eraseListener_listenerList, eraseListener_ambient]
    intro b hb
    obtain ⟨hb, hne⟩ := List.mem_filter.mp hb
    refine (hi.owns b hb).destroy fun heq => ?_
    have hba : b = a := List.inj_on_of_nodup_map hi.nodup hb ha (heq.trans hfde.symm)
    rw [hba, hid] at hne
    simp at hne

/-- Erasing listeners of the list one by one leaves the others. -/
theorem foldl_eraseListener_listenerList (ls : List AListener) :
    ∀ h : Host, (ls.foldl eraseListener h).listenerList =
      h.listenerList.filter fun a => a.id ∉ ls.map AListener.id := by
  induction ls with
  | nil => simp
  | cons l ls ih =>
    intro h
    rw [List.foldl_cons, ih, eraseListener_listenerList, List.filter_filter]
    apply List.filter_congr
    intro a _
    simp only [List.map_cons, List.mem_cons, not_or, Bool.decide_and]
    exact Bool.and_comm _ _

/-- What erasing one listener of the list keeps, erasing several keeps. -/
theorem foldl_eraseListener_induct {P : Host → Prop}
    (hP : ∀ h l, Registry h → P h → l ∈ h.listenerList → P (h.eraseListener l))
    {ls : List AListener} :
    ∀ {h : Host}, Registry h → P h → ls.Sublist h.listenerList →
      Registry (ls.foldl Host.eraseListener h) ∧ P (ls.foldl Host.eraseListener h) := by
  induction ls with
  | nil => exact fun hr hp _ => ⟨hr, hp⟩
  | cons l ls ih =>
    intro h hr hp hsub
    have hl : l ∈ h.listenerList := hsub.subset List.mem_cons_self
    refine ih (hr.eraseListener hl) (hP h l hr hp hl) ?_
    -- The ids differ, so the listeners still to be erased are still there.
    have hnodup := (hsub.map AListener.id).nodup hr.nodup
    rw [List.map_cons, List.nodup_cons] at hnodup
    rw [eraseListener_listenerList]
    have hfilter := ((List.sublist_cons_self l ls).trans hsub).filter fun a => a.id ≠ l.id
    have hall : ls.filter (fun a => a.id ≠ l.id) = ls := by
      apply List.filter_eq_self.mpr
      intro a ha
      have hne : a.id ≠ l.id := fun heq => hnodup.1 (heq ▸ List.mem_map_of_mem ha)
      simpa using hne
    rwa [hall] at hfilter

/-- What `remove_listener` does: it erases a listener of the list or nothing. -/
theorem removeListener_cases (h : Host) (name : Bytes) : (h.removeListener name).2 = h ∨
    ∃ l ∈ h.listenerList, (h.removeListener name).2 = h.eraseListener l := by
  unfold removeListener
  cases hf : h.listenerList.find? (·.localName = name) with
  | none => exact .inl rfl
  | some l => exact .inr ⟨l, List.mem_of_find?_eq_some hf, rfl⟩

/-! ## Disconnecting -/

@[simp] theorem listenerDisconnect_listenerList (h : Host) (id : ℕ) :
    (h.listenerDisconnect id).listenerList = h.listenerList.filter (·.id ≠ id) := by
  unfold listenerDisconnect
  cases hf : h.listenerList.find? (·.id = id) with
  | some l =>
    have hid : l.id = id := by simpa using List.find?_some hf
    rw [← hid]
    exact eraseListener_listenerList h _
  | none =>
    refine (List.filter_eq_self.mpr fun a ha => ?_).symm
    simpa using List.find?_eq_none.mp hf a ha

@[simp] theorem listenerDisconnect_nextListener (h : Host) (id : ℕ) :
    (h.listenerDisconnect id).nextListener = h.nextListener := by
  unfold listenerDisconnect
  split
  · exact eraseListener_nextListener h _
  · rfl

@[simp] theorem listenerDisconnect_transports (h : Host) (id : ℕ) :
    (h.listenerDisconnect id).transports = h.transports := by
  unfold listenerDisconnect
  split
  · rfl
  · rfl

/-- Disconnecting a listener keeps the others installed. -/
theorem Installed.listenerDisconnect (hi : Installed h) (id : ℕ) :
    Installed (h.listenerDisconnect id) := by
  unfold Host.listenerDisconnect
  cases hf : h.listenerList.find? (·.id = id) with
  | some l => exact hi.eraseListener (List.mem_of_find?_eq_some hf) rfl rfl
  | none => exact hi

theorem foldl_listenerDisconnect_listenerList (ids : List ℕ) :
    ∀ h : Host, (ids.foldl listenerDisconnect h).listenerList =
      h.listenerList.filter fun a => a.id ∉ ids := by
  induction ids with
  | nil => simp
  | cons id ids ih =>
    intro h
    rw [List.foldl_cons, ih, listenerDisconnect_listenerList, List.filter_filter]
    apply List.filter_congr
    intro a _
    simp only [List.mem_cons, not_or, Bool.decide_and]
    exact Bool.and_comm _ _

theorem foldl_listenerDisconnect_nextListener (ids : List ℕ) :
    ∀ h : Host, (ids.foldl listenerDisconnect h).nextListener = h.nextListener := by
  induction ids with
  | nil => exact fun h => rfl
  | cons id ids ih => exact fun h => (ih _).trans (listenerDisconnect_nextListener h id)

theorem foldl_listenerDisconnect_transports (ids : List ℕ) :
    ∀ h : Host, (ids.foldl listenerDisconnect h).transports = h.transports := by
  induction ids with
  | nil => exact fun h => rfl
  | cons id ids ih => exact fun h => (ih _).trans (listenerDisconnect_transports h id)

theorem Installed.foldl_listenerDisconnect (ids : List ℕ) :
    ∀ {h : Host}, Installed h → Installed (ids.foldl Host.listenerDisconnect h) := by
  induction ids with
  | nil => exact fun hi => hi
  | cons id ids ih => exact fun hi => ih (hi.listenerDisconnect id)

/-- `RunDisconnects` erases the listeners in the transport's `disconnects_`. -/
theorem runDisconnects_listenerList (h : Host) (t : ℕ) : (h.runDisconnects t).listenerList =
    h.listenerList.filter fun l => l.id ∉ (h.transports t).disconnects :=
  foldl_listenerDisconnect_listenerList _ h

theorem runDisconnects_transports_ne (h : Host) {t u : ℕ} (hu : u ≠ t) :
    (h.runDisconnects t).transports u = h.transports u := by
  rw [runDisconnects, modifyTransport_ne _ hu, foldl_listenerDisconnect_transports]

theorem runDisconnects_transports_same (h : Host) (t : ℕ) :
    (h.runDisconnects t).transports t = { h.transports t with disconnects := [] } := by
  rw [runDisconnects, modifyTransport_same, foldl_listenerDisconnect_transports]

theorem Installed.runDisconnects (hi : Installed h) (t : ℕ) : Installed (h.runDisconnects t) := by
  have hfold := hi.foldl_listenerDisconnect (h.transports t).disconnects
  exact ⟨hfold.nodup, hfold.owns⟩

/-- `RunDisconnects` keeps the registry: the listeners over `t` are gone, and no others. -/
theorem Registry.runDisconnects (hr : Registry h) (t : ℕ) : Registry (h.runDisconnects t) where
  nodup := by
    rw [runDisconnects_listenerList]
    exact (List.filter_sublist.map _).nodup hr.nodup
  lt_next := by
    rw [runDisconnects_listenerList]
    intro l hl
    exact (hr.lt_next l (List.mem_of_mem_filter hl)).trans_eq
      (foldl_listenerDisconnect_nextListener _ h).symm
  registered := fun id u => by
    rw [runDisconnects_listenerList]
    by_cases hu : u = t
    · subst hu
      rw [runDisconnects_transports_same]
      refine ⟨fun hid => absurd hid List.not_mem_nil, ?_⟩
      rintro ⟨l, hl, rfl, ht⟩
      obtain ⟨hl, hnot⟩ := List.mem_filter.mp hl
      have hmem := (hr.mem_disconnects_iff hl u).mpr ht
      simp [hmem] at hnot
    · rw [runDisconnects_transports_ne h hu, hr.registered]
      constructor
      · rintro ⟨l, hl, rfl, ht⟩
        have hnot : l.id ∉ (h.transports t).disconnects := by
          rw [hr.mem_disconnects_iff hl, ht]
          exact fun heq => hu (Option.some.inj heq)
        exact ⟨l, List.mem_filter.mpr ⟨hl, by simpa using hnot⟩, rfl, ht⟩
      · rintro ⟨l, hl, hid, ht⟩
        exact ⟨l, List.mem_of_mem_filter hl, hid, ht⟩

/-! ## Installing -/

/-- What is in a list after an element of it was replaced. -/
theorem mem_map_replace {ls : List AListener} {l l' a : AListener} (hl : l ∈ ls) :
    (a ∈ ls.map fun b => if b.id = l.id then l' else b) ↔ a = l' ∨ (a ∈ ls ∧ a.id ≠ l.id) := by
  rw [List.mem_map]
  constructor
  · rintro ⟨b, hb, rfl⟩
    split
    · exact .inl rfl
    · rename_i hne
      exact .inr ⟨hb, hne⟩
  · rintro (rfl | ⟨ha, hne⟩)
    · exact ⟨l, hl, if_pos rfl⟩
    · exact ⟨a, ha, if_neg hne⟩

/-- Replacing a listener keeps what it has in common with its replacement. -/
theorem map_replace {β : Type} (f : AListener → β) {ls : List AListener} {l l' : AListener}
    (hf : ∀ a ∈ ls, a.id = l.id → f a = f l') :
    (ls.map fun b => if b.id = l.id then l' else b).map f = ls.map f := by
  rw [List.map_map]
  apply List.map_congr_left
  intro a ha
  simp only [Function.comp_apply]
  split
  · rename_i hid
    exact (hf a ha hid).symm
  · rfl

theorem rebindListener_listenerList (h : Host) (l : AListener) (r : InstallRequest) :
    (h.rebindListener l r).listenerList =
      h.listenerList.map fun a => if a.id = l.id then retarget l r else a := by
  unfold rebindListener
  split <;> rfl

theorem rebindListener_nextListener (h : Host) (l : AListener) (r : InstallRequest) :
    (h.rebindListener l r).nextListener = h.nextListener := by
  unfold rebindListener
  split <;> rfl

theorem rebindListener_ambient (h : Host) (l : AListener) (r : InstallRequest) :
    (h.rebindListener l r).ambient = h.ambient := by
  unfold rebindListener
  split <;> rfl

/-- Rebinding moves the listener from the `disconnects_` of its old transport to the new one's. -/
theorem mem_rebindListener_disconnects (hr : Registry h) {l : AListener}
    (hl : l ∈ h.listenerList) (r : InstallRequest) (id t : ℕ) :
    id ∈ ((h.rebindListener l r).transports t).disconnects ↔
      (id = l.id ∧ r.transport = some t) ∨ (id ≠ l.id ∧ id ∈ (h.transports t).disconnects) := by
  have hmem := hr.mem_disconnects_iff hl t
  unfold rebindListener
  split
  · rename_i htr
    rw [htr] at hmem
    by_cases hid : id = l.id
    · simp only [hid, true_and, ne_eq, not_true_eq_false, false_and, or_false]
      exact hmem
    · simp only [hid, false_and, ne_eq, not_false_eq_true, true_and, false_or]
  · rw [addDisconnect_disconnects, removeDisconnect_disconnects]
    by_cases hid : id = l.id
    · subst hid
      by_cases hold : l.transport = some t <;> by_cases hnew : r.transport = some t <;>
        simp_all
    · by_cases hold : l.transport = some t <;> by_cases hnew : r.transport = some t <;>
        simp [hold, hnew, hid]

/-- Rebinding keeps the registry. -/
theorem Registry.rebindListener (hr : Registry h) {l : AListener} (hl : l ∈ h.listenerList)
    (r : InstallRequest) : Registry (h.rebindListener l r) where
  nodup := by
    have hid : ∀ a ∈ h.listenerList, a.id = l.id → a.id = (retarget l r).id := fun _ _ hid => hid
    rw [rebindListener_listenerList, map_replace AListener.id hid]
    exact hr.nodup
  lt_next := by
    rw [rebindListener_listenerList, rebindListener_nextListener]
    intro a ha
    rcases (mem_map_replace hl).mp ha with rfl | ⟨ha, -⟩
    · exact hr.lt_next l hl
    · exact hr.lt_next a ha
  registered := fun id t => by
    rw [mem_rebindListener_disconnects hr hl, rebindListener_listenerList, hr.registered]
    constructor
    · rintro (⟨rfl, ht⟩ | ⟨hne, a, ha, rfl, ht⟩)
      · exact ⟨_, (mem_map_replace hl).mpr (.inl rfl), rfl, ht⟩
      · exact ⟨a, (mem_map_replace hl).mpr (.inr ⟨ha, hne⟩), rfl, ht⟩
    · rintro ⟨a, ha, rfl, ht⟩
      rcases (mem_map_replace hl).mp ha with rfl | ⟨ha, hne⟩
      · exact .inl ⟨rfl, ht⟩
      · exact .inr ⟨hne, a, ha, rfl, ht⟩

/-- Rebinding leaves every event where it is. -/
theorem Installed.rebindListener (hi : Installed h) (hr : Registry h) {l : AListener}
    (hl : l ∈ h.listenerList) (r : InstallRequest) : Installed (h.rebindListener l r) where
  nodup := by
    have hfde : ∀ a ∈ h.listenerList, a.id = l.id → a.fde = (retarget l r).fde := by
      intro a ha hid
      rw [hr.eq_of_id ha hl hid]
      rfl
    rw [rebindListener_listenerList, map_replace AListener.fde hfde]
    exact hi.nodup
  owns := by
    rw [rebindListener_listenerList, rebindListener_ambient]
    intro a ha
    rcases (mem_map_replace hl).mp ha with rfl | ⟨ha, -⟩
    · exact hi.owns l hl
    · exact hi.owns a ha

/-- Binding a new listener keeps the registry. -/
theorem Registry.bindListener (hr : Registry h) (r : InstallRequest) (listening : Listening) :
    Registry (h.bindListener r listening) where
  nodup := by
    have hnew : h.nextListener ∉ h.listenerList.map AListener.id := by
      intro hmem
      obtain ⟨l, hl, hid⟩ := List.mem_map.mp hmem
      exact absurd (hr.lt_next l hl) (by omega)
    simp only [Host.bindListener, addDisconnect, boundListener, List.map_append, List.map_cons,
      List.map_nil]
    exact List.Nodup.append hr.nodup (List.nodup_singleton _) (by simpa using hnew)
  lt_next := by
    simp only [Host.bindListener, addDisconnect, boundListener, List.mem_append,
      List.mem_singleton]
    rintro l (hl | rfl)
    · exact Nat.lt_succ_of_lt (hr.lt_next l hl)
    · exact Nat.lt_succ_self _
  registered := fun id t => by
    have hdisc : id ∈ ((h.bindListener r listening).transports t).disconnects ↔
        id ∈ (h.transports t).disconnects ∨ (id = h.nextListener ∧ r.transport = some t) := by
      rw [Host.bindListener, addDisconnect_disconnects]
      split
      · simp [boundListener, *]
      · simp [*]
    rw [hdisc, hr.registered]
    simp only [Host.bindListener, addDisconnect, List.mem_append, List.mem_singleton]
    constructor
    · rintro (⟨l, hl, hid, ht⟩ | ⟨rfl, ht⟩)
      · exact ⟨l, .inl hl, hid, ht⟩
      · exact ⟨h.boundListener r listening, .inr rfl, rfl, ht⟩
    · rintro ⟨l, hl | rfl, hid, ht⟩
      · exact .inl ⟨l, hl, hid, ht⟩
      · exact .inr ⟨hid.symm, ht⟩

/-- The new listener's event owns its descriptor, and the others stay installed. -/
theorem Installed.bindListener (hi : Installed h) (r : InstallRequest) (listening : Listening) :
    Installed (h.bindListener r listening) where
  nodup := by
    have hnew : (h.ambient.install listening.fd).2 ∉ h.listenerList.map AListener.fde := by
      intro hmem
      obtain ⟨l, hl, hfde⟩ := List.mem_map.mp hmem
      exact (hi.owns l hl).ne_install listening.fd hfde
    simp only [Host.bindListener, addDisconnect, boundListener, List.map_append, List.map_cons,
      List.map_nil]
    exact List.Nodup.append hi.nodup (List.nodup_singleton _) (by simpa using hnew)
  owns := by
    have hinstall : ∀ l ∈ h.listenerList ++ [h.boundListener r listening],
        (h.ambient.install listening.fd).1.Owns l.fde l.fd := by
      intro l hl
      rcases List.mem_append.mp hl with hl | hl
      · exact (hi.owns l hl).install listening.fd
      · rw [List.mem_singleton.mp hl]
        exact h.ambient.install_owns listening.fd
    intro l hl
    simp only [Host.bindListener, addDisconnect] at hl ⊢
    split
    · exact hinstall l hl
    · exact (hinstall l hl).set _ _

/-- What `install_listener` can do: nothing, rebind a listener of that name, or bind a new one. -/
theorem installListener_cases (h : Host) (r : InstallRequest) :
    ((h.installListener r).2 = h ∧ (h.installListener r).1.status ≠ .ok) ∨
    (∃ l ∈ h.listenerList, l.localName = r.localName ∧ l.isSmartSocket = false ∧
      (h.installListener r).2 = h.rebindListener l r) ∨
    ∃ listening, r.listening = .ok listening ∧
      (h.installListener r).2 = h.bindListener r listening := by
  unfold installListener
  cases hf : h.listenerList.find? (·.localName = r.localName) with
  | some l =>
    have hl := List.mem_of_find?_eq_some hf
    have hname : l.localName = r.localName := by simpa using List.find?_some hf
    by_cases hsmart : l.isSmartSocket
    · simp [hsmart]
    · by_cases hnorebind : r.noRebind
      · simp [hsmart, hnorebind]
      · exact .inr (.inl ⟨l, hl, hname, by simpa using hsmart, by simp [hsmart, hnorebind]⟩)
  | none =>
    cases hlisten : r.listening with
    | error e => simp
    | ok listening => exact .inr (.inr ⟨listening, rfl, rfl⟩)

/-- `install_listener` keeps the registry. -/
theorem Registry.installListener (hr : Registry h) (r : InstallRequest) :
    Registry (h.installListener r).2 := by
  obtain ⟨heq, -⟩ | ⟨l, hl, -, -, heq⟩ | ⟨listening, -, heq⟩ := installListener_cases h r
  · rwa [heq]
  · rw [heq]
    exact hr.rebindListener hl r
  · rw [heq]
    exact hr.bindListener r listening

/-- `install_listener` keeps every listener installed. -/
theorem Installed.installListener (hi : Installed h) (hr : Registry h) (r : InstallRequest) :
    Installed (h.installListener r).2 := by
  obtain ⟨heq, -⟩ | ⟨l, hl, -, -, heq⟩ | ⟨listening, -, heq⟩ := installListener_cases h r
  · rwa [heq]
  · rw [heq]
    exact hi.rebindListener hr hl r
  · rw [heq]
    exact hi.bindListener r listening

end Host

end AdbMobile
