import AdbMobile.Server.Frame

/-!
# Listeners across a relaunch

`launch_server` closes the smart sockets and deletes the event context, but not the listeners of
`adb forward`: `clear_listener_list` is never called. Their events go with the old context, and
their entries stay in `listener_list`, where `install_listener` finds them by name and answers that
the name is bound.

In a run from the start of the server every listener is installed in the ambient context, and every
name that `install_listener` accepts is listened on, exactly when no relaunch finds a listener other
than the smart sockets (`listeners_installed_iff`).
-/

namespace AdbMobile

open ByteString Run Host

/-- The name that a successful `install_listener` reports: the resolved port, where there is one. -/
def InstallResult.name (res : InstallResult) (localName : Bytes) : Bytes :=
  match res.resolvedTcpPort with
  | some port => lit "tcp:" ++ decimal port
  | none => localName

/-- Every listener's event is installed in the ambient context and owns the listener's
descriptor. -/
def ListenersInstalled (h : Host) : Prop := ∀ l ∈ h.listenerList, h.ambient.Owns l.fde l.fd

/-- When `install_listener` succeeds, the ambient context listens on the name. -/
def InstalledNameListens (h : Host) : LooperEvent → Host → Prop
  | .installListener r, h' => (h.installListener r).1.status = .ok →
      ∃ l ∈ h'.listenerList, l.localName = (h.installListener r).1.name r.localName ∧
        h'.ambient.Owns l.fde l.fd
  | _, _ => True

/-- A relaunch finds no listener but smart sockets. -/
def RelaunchFindsSmartSockets (h : Host) : LooperEvent → Prop
  | .relaunch => ∀ l ∈ h.listenerList, l.isSmartSocket
  | _ => True

instance : DecidablePred ListenersInstalled := fun h =>
  inferInstanceAs (Decidable (∀ l ∈ h.listenerList, h.ambient.Owns l.fde l.fd))

namespace Host

variable {h : Host}

/-- A request that succeeds leaves a listener of the name that it reports. -/
theorem installListener_name {r : InstallRequest} (hok : (h.installListener r).1.status = .ok) :
    ∃ l ∈ (h.installListener r).2.listenerList,
      l.localName = (h.installListener r).1.name r.localName := by
  unfold installListener at hok ⊢
  cases hf : h.listenerList.find? (·.localName = r.localName) with
  | some l =>
    have hl := List.mem_of_find?_eq_some hf
    have hname : l.localName = r.localName := by simpa using List.find?_some hf
    simp only [hf] at hok ⊢
    by_cases hsmart : l.isSmartSocket
    · simp [hsmart] at hok
    · by_cases hnorebind : r.noRebind
      · simp [hsmart, hnorebind] at hok
      · rw [if_neg hsmart, if_neg hnorebind]
        refine ⟨retarget l r, ?_, hname⟩
        rw [rebindListener_listenerList]
        exact (mem_map_replace hl).mpr (.inl rfl)
  | none =>
    simp only [hf] at hok ⊢
    cases hlisten : r.listening with
    | error e => simp [hlisten] at hok
    | ok listening =>
      refine ⟨h.boundListener r listening, ?_, ?_⟩
      · exact List.mem_append_right _ (List.mem_singleton_self _)
      · simp only [InstallResult.name, boundListener, Listening.name]
        split <;> simp_all

/-- The answer of `install_listener` does not depend on the trace. -/
theorem installListener_quiet (h : Host) (r : InstallRequest) :
    (h.quiet.installListener r).1 = (h.installListener r).1 := by
  unfold installListener
  cases h.listenerList.find? (·.localName = r.localName) with
  | some l =>
    dsimp only
    split
    · rfl
    · split <;> rfl
  | none =>
    dsimp only
    split <;> rfl

/-- The rest of the list is what `close_smartsockets` leaves. -/
theorem Installed.closeSmartsockets (hi : Installed h) (hr : Registry h) :
    Installed h.closeSmartsockets :=
  (foldl_eraseListener_induct (P := Installed) (fun _ _ _ hi hl => hi.eraseListener hl rfl rfl)
    hr hi List.filter_sublist).2

/-- Every event but a relaunch keeps the listeners installed. -/
theorem Installed.handle (hi : Installed h) (hr : Registry h) {e : LooperEvent}
    (he : e ≠ .relaunch) : Installed (h.handle e) := by
  cases e with
  | packet t p env => exact hi.handlePacket env t p
  | updateReverseConfig t service => exact ⟨hi.nodup, hi.owns⟩
  | installListener r => exact hi.installListener hr r
  | removeListener name =>
    obtain heq | ⟨l, hl, heq⟩ := removeListener_cases h name
    · simp only [Host.handle, heq]
      exact hi
    · simp only [Host.handle, heq]
      exact hi.eraseListener hl rfl rfl
  | removeAllListeners =>
    exact (foldl_eraseListener_induct (P := Installed)
      (fun _ _ _ hi hl => hi.eraseListener hl rfl rfl) hr hi List.filter_sublist).2
  | enableServerSockets =>
    refine ⟨hi.nodup, fun l hl => ?_⟩
    have hset : ∀ (ls : List AListener) (c : FdContext), c.Owns l.fde l.fd →
        (ls.foldl (fun c l => c.set l.fde fdeRead) c).Owns l.fde l.fd := by
      intro ls
      induction ls with
      | nil => exact fun c hc => hc
      | cons a ls ih => exact fun c hc => ih _ (hc.set a.fde fdeRead)
    exact hset _ _ (hi.owns l hl)
  | connectionError t => exact (hi.handleOffline t).of_same (.handleError h t)
  | registerTransport t startDetached => exact hi.of_same (.registerTransport h t startDetached)
  | relaunch => exact absurd rfl he
  | _ => exact ⟨hi.nodup, hi.owns⟩

theorem closeSmartsockets_generation (h : Host) :
    h.closeSmartsockets.ambient.generation = h.ambient.generation :=
  foldl_keeps (fun h : Host => h.ambient.generation) (f := eraseListener)
    (fun h l => h.ambient.destroy_generation l.fde) _ h

/-- What a relaunch leaves in the list: the listeners that are no smart sockets. -/
theorem relaunch_listenerList (hr : Registry h) :
    h.relaunch.listenerList = h.listenerList.filter fun l => !l.isSmartSocket := by
  have hfold := foldl_eraseListener_listenerList
    (h.listenerList.filter fun l => l.isSmartSocket) h
  refine hfold.trans (List.filter_congr fun l hl => ?_)
  have hmem : l.id ∈ (h.listenerList.filter fun l => l.isSmartSocket).map AListener.id ↔
      l.isSmartSocket := by
    rw [List.mem_map]
    constructor
    · rintro ⟨a, ha, hid⟩
      obtain ⟨ha, hsmart⟩ := List.mem_filter.mp ha
      rwa [hr.eq_of_id ha hl hid] at hsmart
    · exact fun hsmart => ⟨l, List.mem_filter.mpr ⟨hl, hsmart⟩, rfl⟩
  simp [hmem]

/-- A listener that outlives a relaunch is not installed any more. -/
theorem relaunch_not_owns (hi : Installed h) {l : AListener} (hl : l ∈ h.listenerList) :
    ¬ h.relaunch.ambient.Owns l.fde l.fd := by
  apply FdContext.not_owns_of_generation
  have hgen : l.fde.context = h.ambient.generation := (hi.owns l hl).1
  have hnext : h.relaunch.ambient.generation = h.ambient.generation + 1 :=
    congrArg (· + 1) h.closeSmartsockets_generation
  omega

/-- The server starts without listeners. -/
theorem Installed.initial (delayedAckEnabled : Bool) :
    Installed (Host.initial delayedAckEnabled) :=
  ⟨List.nodup_nil, fun _ hl => absurd hl List.not_mem_nil⟩

/-- One step keeps both invariants, where a relaunch finds only smart sockets. -/
theorem Installed.step {h' : Host} {e : LooperEvent} (hr : Registry h) (hi : Installed h)
    (hg : RelaunchFindsSmartSockets h e) (hs : h.step e = some h') : Registry h' ∧
      Installed h' := by
  obtain ⟨hen, rfl⟩ := step_eq_some hs
  have hr' : Registry h.quiet := hr.of_same ⟨rfl, rfl, rfl, fun _ => rfl⟩
  have hi' : Installed h.quiet := hi.of_same ⟨rfl, rfl, rfl, fun _ => rfl⟩
  have hen' : h.quiet.Enabled e := by cases e <;> exact hen
  refine ⟨hr'.handle hen', ?_⟩
  by_cases he : e = .relaunch
  · -- Nothing is left in the list.
    subst he
    have hnil : h.quiet.relaunch.listenerList = [] := by
      rw [relaunch_listenerList hr', List.filter_eq_nil_iff]
      intro l hl
      simpa using hg l hl
    constructor
    · exact hnil ▸ List.nodup_nil
    · exact fun l hl => absurd (hnil ▸ hl) List.not_mem_nil
  · exact hi'.handle hr' he

end Host

/-- In every run from the start of the server, every listener is installed in the ambient context
throughout, and every name that `install_listener` accepts is listened on, exactly when every
relaunch finds no listener but smart sockets. -/
theorem listeners_installed_iff (delayedAckEnabled : Bool) (es : List LooperEvent) :
    (Throughout Host.step ListenersInstalled (Host.initial delayedAckEnabled) es ∧
      EachStep Host.step InstalledNameListens (Host.initial delayedAckEnabled) es) ↔
    Meets Host.step RelaunchFindsSmartSockets (Host.initial delayedAckEnabled) es := by
  refine throughout_and_eachStep_iff_meets (I := fun h => Registry h ∧ Installed h)
    (fun h hI => hI.2.owns) (fun h e h' hI hg hs => ?_) (fun h e h' hI hg hs hPQ => ?_)
    ⟨Registry.initial _, Installed.initial _⟩
  · have hI' := Installed.step hI.1 hI.2 hg hs
    refine ⟨hI', ?_⟩
    obtain ⟨-, rfl⟩ := step_eq_some hs
    cases e with
    | installListener r =>
      intro hok
      rw [← installListener_quiet] at hok ⊢
      obtain ⟨l, hl, hname⟩ := installListener_name hok
      exact ⟨l, hl, hname, hI'.2.owns l hl⟩
    | _ => trivial
  · obtain ⟨-, rfl⟩ := step_eq_some hs
    cases e with
    | relaunch =>
      simp only [RelaunchFindsSmartSockets, not_forall] at hg
      obtain ⟨l, hl, hsmart⟩ := hg
      have hr' : Registry h.quiet := hI.1.of_same ⟨rfl, rfl, rfl, fun _ => rfl⟩
      have hi' : Installed h.quiet := hI.2.of_same ⟨rfl, rfl, rfl, fun _ => rfl⟩
      have hleft : l ∈ h.quiet.relaunch.listenerList := by
        rw [relaunch_listenerList hr']
        exact List.mem_filter.mpr ⟨hl, by simpa using hsmart⟩
      exact relaunch_not_owns hi' hl (hPQ.1 l hleft)
    | _ => exact hg trivial

/-- A device connects, and a port is forwarded to it. -/
def forwardPort : List LooperEvent :=
  [.newTransport 1 .local (lit "dev") .offline true,
    .registerTransport 1 false,
    .packet 1 ⟨⟨Command.cnxn.word, 0x01000001, 0x100000, 8, 0, 0⟩, lit "device::"⟩
      ⟨false, .signature, []⟩,
    .installListener ⟨lit "tcp:6100", lit "tcp:7100", some 1, false, false, .ok ⟨9, 0⟩⟩]

/-- After a relaunch the forward is in the list, and its event is not in the new context. -/
theorem listeners_not_installed :
    ¬ ∀ (delayedAckEnabled : Bool) (es : List LooperEvent),
      Throughout Host.step ListenersInstalled (Host.initial delayedAckEnabled) es ∧
        EachStep Host.step InstalledNameListens (Host.initial delayedAckEnabled) es := by
  intro hall
  have hlast := (hall false (forwardPort ++ [.relaunch])).1
  revert hlast
  decide +kernel

end AdbMobile
