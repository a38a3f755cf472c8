import AdbMobile.Server.ForwardRequest

/-!
# The reverse forwards of the host and of the device

A `reverse:` service goes to the device, whose daemon gives what follows the prefix to
`handle_forward_request` and listens; the host reads the same service in `UpdateReverseConfig` and
records the local address, which the device may then ask it to open. The two read it differently:
the host splits at the first semicolon, takes a NUL for a byte like others, does not know whether
the device refused or could not bind, and records the name that was asked for, which for `tcp:0` is
not the name that the device listens under.

What the host does to its map is a `ConfigChange`, and what the device does to its list a
`ListenerChange`. In a sequence of services every listener on the device has its target in the
host's map throughout exactly when no service makes the host drop a local that a listener still
needs, or the device give a listener a target that the host does not record
(`listeners_covered_iff`).
-/

namespace AdbMobile

open ByteString Run Host

/-- A `reverse:` service. -/
structure ReverseService where
  /-- What follows `reverse:`. -/
  command : Bytes
  /-- What `socket_spec_listen` opens on the device. -/
  listening : Except Bytes Listening

/-- The host's transport, and the daemon. -/
structure ReverseState where
  transport : ATransport
  device : Host

/-- The host reads the service, and the daemon serves the command. There the transport of the host
is number 0. -/
def reverseStep (s : ReverseState) (r : ReverseService) : Option ReverseState :=
  some
    { transport := s.transport.updateReverseConfig (lit "reverse:" ++ r.command)
      device := s.device.afterForwardRequest ⟨r.command, .ok 0, r.listening⟩ }

/-- The host lets each listener of the device open its target. -/
def Covered (s : ReverseState) : Prop :=
  ∀ l ∈ s.device.listenerList, s.transport.isReverseConfigured l.connectTo = true

instance (s : ReverseState) : Decidable (Covered s) := by
  unfold Covered
  infer_instance

/-! ## The host -/

/-- What a service does to `reverse_forwards_`. -/
inductive ConfigChange
  | keep
  | record (remote localAddr : Bytes)
  | forget (remote : Bytes)
  | clear
  deriving DecidableEq, Repr

namespace ConfigChange

/-- The change. -/
def apply (c : ConfigChange) (m : AList fun _ : Bytes => Bytes) : AList fun _ : Bytes => Bytes :=
  match c with
  | keep => m
  | record remote localAddr => m.insert remote localAddr
  | forget remote => m.erase remote
  | clear => ∅

/-- The entry of the remote is overwritten or erased. -/
def Drops (c : ConfigChange) (remote : Bytes) : Prop :=
  match c with
  | keep => False
  | record remote' _ | forget remote' => remote = remote'
  | clear => True

/-- The local that is recorded. -/
def recorded : ConfigChange → Option Bytes
  | record _ localAddr => some localAddr
  | _ => none

/-- The local is recorded, or another remote keeps it. -/
def Leaves (c : ConfigChange) (m : AList fun _ : Bytes => Bytes) (localAddr : Bytes) : Prop :=
  c.recorded = some localAddr ∨ ∃ remote, m.lookup remote = some localAddr ∧ ¬ c.Drops remote

/-- The locals of the map after a change. -/
theorem exists_lookup_apply (c : ConfigChange) (m : AList fun _ : Bytes => Bytes)
    (localAddr : Bytes) :
    (∃ remote, (c.apply m).lookup remote = some localAddr) ↔ c.Leaves m localAddr := by
  cases c with
  | keep =>
    refine ⟨fun ⟨remote, h⟩ => .inr ⟨remote, h, fun hdrop => hdrop⟩, ?_⟩
    rintro (h | ⟨remote, h, -⟩)
    · cases h
    · exact ⟨remote, h⟩
  | record remote' localAddr' =>
    constructor
    · rintro ⟨remote, h⟩
      by_cases hremote : remote = remote'
      · subst hremote
        rw [apply, AList.lookup_insert] at h
        exact .inl h
      · rw [apply, AList.lookup_insert_ne hremote] at h
        exact .inr ⟨remote, h, hremote⟩
    · rintro (h | ⟨remote, h, hremote⟩)
      · exact ⟨remote', (AList.lookup_insert m).trans h⟩
      · exact ⟨remote, (AList.lookup_insert_ne hremote).trans h⟩
  | forget remote' =>
    constructor
    · rintro ⟨remote, h⟩
      by_cases hremote : remote = remote'
      · subst hremote
        rw [apply, AList.lookup_erase] at h
        cases h
      · rw [apply, AList.lookup_erase_ne hremote] at h
        exact .inr ⟨remote, h, hremote⟩
    · rintro (h | ⟨remote, h, hremote⟩)
      · cases h
      · exact ⟨remote, (AList.lookup_erase_ne hremote).trans h⟩
  | clear =>
    constructor
    · rintro ⟨remote, h⟩
      cases h
    · rintro (h | ⟨remote, -, hdrop⟩)
      · cases h
      · exact absurd trivial hdrop

end ConfigChange

/-- How `UpdateReverseConfig` reads a command. -/
def configChange (m : AList fun _ : Bytes => Bytes) (command : Bytes) : ConfigChange :=
  match consumePrefix command (lit "forward:") with
  | some forward =>
    let norebind := consumePrefix forward (lit "norebind:")
    let forward := norebind.getD forward
    if 59 ∈ forward then
      let remote := forward.takeWhile (· ≠ 59)
      if norebind.isSome ∧ remote ∈ m then .keep
      else .record remote (forward.drop (remote.length + 1))
    else .keep
  | none =>
    match consumePrefix command (lit "killforward:") with
    | some remote => if 59 ∈ remote then .keep else .forget remote
    | none => if command = lit "killforward-all" then .clear else .keep

/-- The change is what `UpdateReverseConfig` does. -/
theorem reverseForwardsAfter_eq (m : AList fun _ : Bytes => Bytes) (command : Bytes) :
    ATransport.reverseForwardsAfter m (lit "reverse:" ++ command) =
      (configChange m command).apply m := by
  unfold ATransport.reverseForwardsAfter configChange
  rw [consumePrefix_eq_some_iff.mpr rfl]
  dsimp only
  cases consumePrefix command (lit "forward:") with
  | some forward =>
    dsimp only
    split
    · split <;> rfl
    · rfl
  | none =>
    dsimp only
    cases consumePrefix command (lit "killforward:") with
    | some remote =>
      dsimp only
      split <;> rfl
    | none =>
      dsimp only
      split <;> rfl

/-- An address may be opened if it is a local of the map. -/
theorem isReverseConfigured_iff (t : ATransport) (localAddr : Bytes) :
    t.isReverseConfigured localAddr = true ↔
      ∃ remote, t.reverseForwards.lookup remote = some localAddr := by
  rw [ATransport.isReverseConfigured, List.any_eq_true]
  constructor
  · rintro ⟨⟨remote, localAddr'⟩, hmem, heq⟩
    have heq : localAddr' = localAddr := by simpa using heq
    exact ⟨remote, AList.mem_lookup_iff.mpr (heq ▸ hmem)⟩
  · rintro ⟨remote, hlook⟩
    exact ⟨⟨remote, localAddr⟩, AList.mem_lookup_iff.mp hlook, by simp⟩

/-! ## The device -/

/-- What a service does to the listeners of the device. -/
inductive ListenerChange
  | keep
  | remove (l : AListener)
  | removeAll
  | retarget (l : AListener) (connectTo : Bytes)
  | add (connectTo : Bytes)

namespace ListenerChange

/-- The listener stays as it is. `remove_all_listeners` keeps a target with a star. -/
def Spares (c : ListenerChange) (l : AListener) : Prop :=
  match c with
  | keep | add _ => True
  | remove a | retarget a _ => l.id ≠ a.id
  | removeAll => l.connectTo.head? = some 42

/-- The target that a listener is given. -/
def given : ListenerChange → Option Bytes
  | retarget _ connectTo | add connectTo => some connectTo
  | _ => none

/-- The targets of the second list are those of the first after the change. -/
def Describes (c : ListenerChange) (h h' : Host) : Prop :=
  ∀ P : Bytes → Prop, (∀ l ∈ h'.listenerList, P l.connectTo) ↔
    (∀ l ∈ h.listenerList, c.Spares l → P l.connectTo) ∧ ∀ connectTo ∈ c.given, P connectTo

end ListenerChange

/-- How `install_listener` ends on the device. -/
def installChange (h : Host) (r : InstallRequest) : ListenerChange :=
  match h.listenerList.find? (·.localName = r.localName) with
  | some l => if l.isSmartSocket ∨ r.noRebind then .keep else .retarget l r.connectTo
  | none => if r.listening.isOk then .add r.connectTo else .keep

/-- How `forward:` ends on the device. -/
def forwardChange (h : Host) (service : Bytes) (noRebind : Bool)
    (listening : Except Bytes Listening) : ListenerChange :=
  match split 59 service with
  | [localName, connectTo] =>
    if localName = [] ∨ connectTo = [] ∨ connectTo.head? = some 42 then .keep
    else
      installChange h
        { localName, connectTo, transport := some 0, noRebind, disabled := false, listening }
  | _ => .keep

/-- How `killforward:` ends on the device. -/
def killChange (h : Host) (name : Bytes) : ListenerChange :=
  if name = [] ∨ 59 ∈ name then .keep
  else ((h.listenerList.find? (·.localName = name)).map .remove).getD .keep

/-- How a command ends on the device. -/
def listenerChange (h : Host) (r : ReverseService) : ListenerChange :=
  let service := cString r.command
  if service = lit "killforward-all" then .removeAll
  else
    match consumePrefix service (lit "killforward:") with
    | some name => killChange h name
    | none =>
      match consumePrefix service (lit "forward:") with
      | some service =>
        let norebind := consumePrefix service (lit "norebind:")
        forwardChange h (norebind.getD service) norebind.isSome r.listening
      | none => .keep

variable {h : Host}

theorem describes_keep (h : Host) : ListenerChange.keep.Describes h h := by
  intro P
  refine ⟨fun hall => ⟨fun l hl _ => hall l hl, fun c hc => ?_⟩,
    fun hall l hl => hall.1 l hl trivial⟩
  cases hc

theorem describes_remove (h : Host) (l : AListener) :
    (ListenerChange.remove l).Describes h (h.eraseListener l) := by
  intro P
  rw [eraseListener_listenerList]
  constructor
  · intro hall
    refine ⟨fun a ha hne => hall a (List.mem_filter.mpr ⟨ha, decide_eq_true hne⟩), fun c hc => ?_⟩
    cases hc
  · intro hall a ha
    obtain ⟨ha, hne⟩ := List.mem_filter.mp ha
    exact hall.1 a ha (of_decide_eq_true (p := a.id ≠ l.id) hne)

theorem describes_removeAll (hr : Registry h) :
    ListenerChange.removeAll.Describes h h.removeAllListeners := by
  intro P
  -- No other listener has the id of one that is erased.
  have hstays : ∀ l ∈ h.listenerList, l.id ∉ (h.listenerList.filter fun a =>
      a.connectTo.head? ≠ some 42).map AListener.id ↔ l.connectTo.head? = some 42 := by
    intro l hl
    rw [List.mem_map]
    constructor
    · intro hnot
      by_contra hhead
      exact hnot ⟨l, List.mem_filter.mpr ⟨hl, by simpa using hhead⟩, rfl⟩
    · rintro hhead ⟨a, ha, hid⟩
      obtain ⟨ha, hne⟩ := List.mem_filter.mp ha
      rw [hr.eq_of_id ha hl hid, hhead] at hne
      simp at hne
  rw [Host.removeAllListeners, foldl_eraseListener_listenerList]
  constructor
  · intro hall
    refine ⟨fun l hl hhead => hall l (List.mem_filter.mpr ⟨hl, ?_⟩), fun c hc => ?_⟩
    · exact decide_eq_true ((hstays l hl).mpr hhead)
    · cases hc
  · intro hall l hl
    obtain ⟨hl, hnot⟩ := List.mem_filter.mp hl
    exact hall.1 l hl ((hstays l hl).mp (of_decide_eq_true hnot))

theorem describes_retarget {l : AListener} (hl : l ∈ h.listenerList) (r : InstallRequest) :
    (ListenerChange.retarget l r.connectTo).Describes h (h.rebindListener l r) := by
  intro P
  rw [rebindListener_listenerList]
  constructor
  · intro hall
    refine ⟨fun a ha hne => hall a ((mem_map_replace hl).mpr (.inr ⟨ha, hne⟩)), fun c hc => ?_⟩
    cases hc
    exact hall _ ((mem_map_replace hl).mpr (.inl rfl))
  · intro hall a ha
    obtain rfl | ⟨ha, hne⟩ := (mem_map_replace hl).mp ha
    · exact hall.2 _ rfl
    · exact hall.1 a ha hne

theorem describes_add (h : Host) (r : InstallRequest) (listening : Listening) :
    (ListenerChange.add r.connectTo).Describes h (h.bindListener r listening) := by
  intro P
  have hlist : (h.bindListener r listening).listenerList =
      h.listenerList ++ [h.boundListener r listening] := rfl
  rw [hlist, List.forall_mem_append, List.forall_mem_singleton]
  constructor
  · rintro ⟨hall, hnew⟩
    refine ⟨fun l hl _ => hall l hl, fun c hc => ?_⟩
    cases hc
    exact hnew
  · rintro ⟨hall, hnew⟩
    exact ⟨fun l hl => hall l hl trivial, hnew _ rfl⟩

/-- `install_listener` on the daemon. -/
theorem describes_installListener (h : Host) (r : InstallRequest) :
    (installChange h r).Describes h (h.installListener r).2 := by
  unfold installChange Host.installListener
  cases hf : h.listenerList.find? (·.localName = r.localName) with
  | some l =>
    dsimp only
    by_cases hsmart : l.isSmartSocket
    · rw [if_pos hsmart, if_pos (.inl hsmart)]
      exact describes_keep h
    · by_cases hnorebind : r.noRebind
      · rw [if_neg hsmart, if_pos hnorebind, if_pos (.inr hnorebind)]
        exact describes_keep h
      · rw [if_neg hsmart, if_neg hnorebind, if_neg (not_or.mpr ⟨hsmart, hnorebind⟩)]
        exact describes_retarget (List.mem_of_find?_eq_some hf) r
  | none =>
    cases r.listening with
    | error e => exact describes_keep h
    | ok listening => exact describes_add h r listening

/-- `forward:` on the daemon. -/
theorem describes_forward (h : Host) (service : Bytes) (noRebind : Bool)
    (listening : Except Bytes Listening) :
    (forwardChange h service noRebind listening).Describes h
      (h.forward service noRebind 0 listening).2 := by
  unfold forwardChange Host.forward
  rcases split 59 service with - | ⟨localName, - | ⟨connectTo, - | ⟨third, rest⟩⟩⟩
  · exact describes_keep h
  · exact describes_keep h
  · dsimp only
    by_cases hbad : localName = [] ∨ connectTo = [] ∨ connectTo.head? = some 42
    · rw [if_pos hbad, if_pos hbad]
      exact describes_keep h
    · rw [if_neg hbad, if_neg hbad]
      exact describes_installListener h _
  · exact describes_keep h

/-- `killforward:` on the daemon. -/
theorem describes_killForward (h : Host) (name : Bytes) :
    (killChange h name).Describes h (h.killForward name).2 := by
  unfold killChange
  obtain ⟨hne, hsep, heq⟩ | ⟨hbad, heq⟩ := killForward_cases h name
  · rw [heq, if_neg (not_or.mpr ⟨hne, hsep⟩), removeListener]
    cases h.listenerList.find? (·.localName = name) with
    | none => exact describes_keep h
    | some l => exact describes_remove h l
  · rw [heq, if_pos (by rwa [← not_not (a := _ ∨ _), not_or])]
    exact describes_keep h

/-- The change is what the daemon does. -/
theorem describes_afterForwardRequest (hr : Registry h) (r : ReverseService) :
    (listenerChange h r).Describes h (h.afterForwardRequest ⟨r.command, .ok 0, r.listening⟩) := by
  unfold listenerChange afterForwardRequest handleForwardRequest
  dsimp only
  generalize cString r.command = service
  -- The services in the order of the code.
  by_cases hlist : service = lit "list-forward"
  · subst hlist
    exact describes_keep h
  rw [if_neg hlist]
  by_cases hall : service = lit "killforward-all"
  · rw [if_pos hall, if_pos hall]
    exact describes_removeAll hr
  rw [if_neg hall, if_neg hall]
  cases hkill : consumePrefix service (lit "killforward:") with
  | some name =>
    rw [if_pos (.inr ⟨name, (consumePrefix_eq_some_iff.mp hkill).symm⟩)]
    exact describes_killForward h name
  | none =>
    cases hforward : consumePrefix service (lit "forward:") with
    | some rest =>
      have hrest := consumePrefix_eq_some_iff.mp hforward
      have hdrop : service.drop 8 = rest := by rw [hrest]; rfl
      rw [if_pos (.inl ⟨rest, hrest.symm⟩), hdrop]
      dsimp only
      cases consumePrefix rest (lit "norebind:") with
      | some rest => exact describes_forward h rest true r.listening
      | none => exact describes_forward h rest false r.listening
    | none =>
      rw [if_neg]
      · exact describes_keep h
      · rintro (⟨rest, hrest⟩ | ⟨rest, hrest⟩)
        · rw [consumePrefix_eq_some_iff.mpr hrest.symm] at hforward
          cases hforward
        · rw [consumePrefix_eq_some_iff.mpr hrest.symm] at hkill
          cases hkill

/-! ## Both -/

/-- No local is dropped that a listener which stays has as its target, and a target that a listener
is given is recorded or kept. -/
structure KeepsCover (s : ReverseState) (r : ReverseService) : Prop where
  needed : ∀ remote localAddr, s.transport.reverseForwards.lookup remote = some localAddr →
    (configChange s.transport.reverseForwards r.command).Drops remote →
    (∃ l ∈ s.device.listenerList, (listenerChange s.device r).Spares l ∧ l.connectTo = localAddr) →
    (configChange s.transport.reverseForwards r.command).Leaves s.transport.reverseForwards localAddr
  given : ∀ connectTo ∈ (listenerChange s.device r).given,
    (configChange s.transport.reverseForwards r.command).Leaves s.transport.reverseForwards connectTo

/-- One service. -/
theorem covered_reverseStep_iff {s s' : ReverseState} {r : ReverseService}
    (hcovered : Covered s) (hr : Registry s.device) (hs : reverseStep s r = some s') :
    Covered s' ↔ KeepsCover s r := by
  cases hs
  have hleaves : ∀ localAddr, (s.transport.updateReverseConfig
      (lit "reverse:" ++ r.command)).isReverseConfigured localAddr = true ↔
      (configChange s.transport.reverseForwards r.command).Leaves s.transport.reverseForwards
        localAddr := by
    intro localAddr
    rw [isReverseConfigured_iff, ATransport.updateReverseConfig, reverseForwardsAfter_eq,
      ConfigChange.exists_lookup_apply]
  rw [Covered]
  simp only [hleaves]
  rw [describes_afterForwardRequest hr r fun localAddr =>
    (configChange s.transport.reverseForwards r.command).Leaves s.transport.reverseForwards
      localAddr]
  constructor
  · rintro ⟨hstays, hgiven⟩
    refine ⟨?_, hgiven⟩
    rintro remote localAddr - - ⟨l, hl, hspares, rfl⟩
    exact hstays l hl hspares
  · rintro ⟨hneeded, hgiven⟩
    refine ⟨fun l hl hspares => ?_, hgiven⟩
    obtain ⟨remote, hlook⟩ := (isReverseConfigured_iff _ _).mp (hcovered l hl)
    by_cases hdrops : (configChange s.transport.reverseForwards r.command).Drops remote
    · exact hneeded remote l.connectTo hlook hdrops ⟨l, hl, hspares, rfl⟩
    · exact .inr ⟨remote, hlook, hdrops⟩

/-- A connection over which no service was sent. -/
def ReverseState.start (type : TransportType) (serial : Bytes) (state : ConnectionState)
    (isTcpDevice : Bool) : ReverseState :=
  ⟨.new type serial state isTcpDevice, .initial false⟩

/-- In every sequence of `reverse:` services, whatever the device can bind and whichever ports it
gets, the host's map covers the listeners of the device throughout exactly when no service drops a
local that is still needed or gives a listener a target that is not recorded. -/
theorem listeners_covered_iff (type : TransportType) (serial : Bytes) (state : ConnectionState)
    (isTcpDevice : Bool) (rs : List ReverseService) :
    Throughout reverseStep Covered (.start type serial state isTcpDevice) rs ↔
      Meets reverseStep KeepsCover (.start type serial state isTcpDevice) rs := by
  refine throughout_iff_meets (I := fun s => Covered s ∧ Registry s.device) (fun s hI => hI.1)
    (fun s r s' hI hkeeps hs => ?_) (fun s r s' hI hnot hs hcovered => ?_)
    ⟨fun l hl => absurd hl List.not_mem_nil, .initial false⟩
  · refine ⟨(covered_reverseStep_iff hI.1 hI.2 hs).mpr hkeeps, ?_⟩
    cases hs
    exact hI.2.afterForwardRequest _
  · exact hnot ((covered_reverseStep_iff hI.1 hI.2 hs).mp hcovered)

/-- Two forwards from ports that the device chooses. -/
def twoChosenPorts : List ReverseService :=
  [⟨lit "forward:tcp:0;tcp:80", .ok ⟨7, 5000⟩⟩, ⟨lit "forward:tcp:0;tcp:81", .ok ⟨8, 5001⟩⟩]

/-- The second takes the place of the first in the host's map, and not on the device. -/
theorem twoChosenPorts_not_covered :
    ¬ ∀ (type : TransportType) (serial : Bytes) (state : ConnectionState) (isTcpDevice : Bool)
      (rs : List ReverseService),
      Throughout reverseStep Covered (.start type serial state isTcpDevice) rs := by
  intro hall
  have hcovered := hall .usb [] .device false twoChosenPorts
  revert hcovered
  decide +kernel

end AdbMobile
