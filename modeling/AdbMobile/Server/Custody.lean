import AdbMobile.Server.Stages

/-!
# Custody of transports

At every moment a transport is in the hands of one thread at most: the caller that registers it, the
looper's queue, the threads of its connection, or the reconnect handler. What they all hold of a
transport is its `tokens`. The steps of the threads pass a token on. None makes a second one, and
one kind of step loses that of a transport which stays in `transport_list` (`Custody.step`).
-/

namespace AdbMobile

open ByteString Run

namespace ServerState

/-- What the threads hold, a transport as often as it is held. -/
def custody (s : ServerState) : List ℕ :=
  s.callers ++ (s.runQueue.map LooperCallback.transport ++ s.handler.held)

/-- How often a transport is held, the threads of its connection included. -/
def tokens (s : ServerState) (t : ℕ) : ℕ :=
  s.custody.count t + if (s.connections t).Up then 1 else 0

/-! ## Custody -/

/-- A transport as a socket's is: `fdevent_register_transport` starts its connection. -/
def IsSocket (x : ATransport) : Prop := x.type = .local ∧ x.connectionState ≠ .noPerm

/-- What holds between all steps: no transport is held twice, none that is deleted is held, and one
whose connection is yet to be started has a new one. -/
structure Custody (s : ServerState) : Prop where
  tokens_le : ∀ t, s.tokens t ≤ 1
  live : ∀ t, t ∉ s.host.live → s.tokens t = 0
  listed : ∀ t ∈ s.host.transportList, t ∈ s.host.live
  unlisted : ∀ t ∈ s.callers, t ∉ s.host.transportList
  fresh : ∀ t, t ∈ s.callers ∨ .register t ∈ s.runQueue → s.connections t = .new
  socket : ∀ t, IsSocket (s.host.transports t)

variable {s s' : ServerState} {t : ℕ} {a : ServerAction}

theorem Custody.initial (delayedAckEnabled : Bool) : Custody (initial delayedAckEnabled) where
  tokens_le := fun _ => Nat.zero_le _
  live := fun _ _ => rfl
  listed := fun _ ht => absurd ht List.not_mem_nil
  unlisted := fun _ ht => absurd ht List.not_mem_nil
  fresh := fun _ _ => rfl
  socket := fun _ => ⟨rfl, fun hn => nomatch hn⟩

/-- A change of the looper's tables that lists and deletes no transport. -/
structure SameTables (h h' : Host) : Prop where
  live : h'.live = h.live
  transportList : h'.transportList = h.transportList
  socket : ∀ t, IsSocket (h.transports t) → IsSocket (h'.transports t)

/-- A transport with the same identity, and not in the state of an inaccessible device. -/
theorem IsSocket.of_identity {x y : ATransport} (hx : IsSocket x)
    (hidentity : y.identity = x.identity)
    (hnoPerm : y.connectionState = .noPerm → x.connectionState = .noPerm) : IsSocket y :=
  ⟨(congrArg Prod.fst hidentity).trans hx.1, fun hn => hx.2 (hnoPerm hn)⟩

theorem SameTables.refl (h : Host) : SameTables h h := ⟨rfl, rfl, fun _ => id⟩

theorem SameTables.of_registration {h h' : Host} (hsame : h.SameRegistration h') :
    SameTables h h' :=
  ⟨hsame.live, hsame.transportList, fun t ht => ht.of_identity (hsame.identity t) (hsame.noPerm t)⟩

/-- A step starts with an empty trace. -/
theorem SameTables.of_quiet {h h' : Host} (hsame : SameTables h.quiet h') : SameTables h h' :=
  ⟨hsame.live, hsame.transportList, hsame.socket⟩

theorem SameTables.handleError (h : Host) (t : ℕ) : SameTables h (h.handleError t) :=
  ⟨h.handleError_live t, h.handleError_transportList t,
    fun u hu => hu.of_identity (h.handleError_identity t u) (h.handleError_noPerm t u)⟩

/-- Kicking a transport sets its flag. -/
theorem SameTables.kick (h : Host) (t : ℕ) : SameTables h (h.handle (.kick t)) := by
  refine ⟨rfl, rfl, fun u hu => ?_⟩
  by_cases hut : u = t
  · subst hut
    simpa [Host.handle, IsSocket] using hu
  · simpa [Host.handle, Host.modifyTransport_ne h hut] using hu

/-- Where the tables stay and no transport gets another holder, custody stays in order. -/
theorem Custody.of_tokens_le (hI : Custody s) (hhost : SameTables s.host s'.host)
    (htokens : ∀ t, s'.tokens t ≤ s.tokens t) (hcallers : s'.callers ⊆ s.callers)
    (hfresh : ∀ t, t ∈ s'.callers ∨ .register t ∈ s'.runQueue → s'.connections t = .new) :
    Custody s' where
  tokens_le := fun t => (htokens t).trans (hI.tokens_le t)
  live := fun t ht => Nat.le_zero.mp ((htokens t).trans (hI.live t (hhost.live ▸ ht)).le)
  listed := by
    rw [hhost.transportList, hhost.live]
    exact hI.listed
  unlisted := fun t ht => hhost.transportList ▸ hI.unlisted t (hcallers ht)
  fresh := hfresh
  socket := fun t => hhost.socket t (hI.socket t)

/-- What a thread holds counts. -/
theorem tokens_pos_of_mem (ht : t ∈ s.custody) : 0 < s.tokens t :=
  Nat.lt_of_lt_of_le (List.count_pos_iff.mpr ht) (Nat.le_add_right _ _)

/-- A transport that a thread holds has no connection with threads. -/
theorem Custody.not_up (hI : Custody s) (ht : t ∈ s.custody) : ¬ (s.connections t).Up := by
  intro hup
  have hone := hI.tokens_le t
  have hpos := List.count_pos_iff.mpr ht
  rw [tokens, if_pos hup] at hone
  omega

/-- A transport that a thread holds is held once. -/
theorem Custody.count_eq_one (hI : Custody s) (ht : t ∈ s.custody) : s.custody.count t = 1 := by
  have hone := hI.tokens_le t
  have hpos := List.count_pos_iff.mpr ht
  rw [tokens, if_neg (hI.not_up ht)] at hone
  omega

/-- A transport that a thread holds is not deleted. -/
theorem Custody.mem_live (hI : Custody s) (ht : t ∈ s.custody) : t ∈ s.host.live := by
  by_contra hlive
  have hpos := tokens_pos_of_mem ht
  have hzero := hI.live t hlive
  omega

/-- Where the threads hold the same and the same connections are up, so are the tokens. -/
theorem tokens_congr (hcustody : s'.custody.Perm s.custody)
    (hconnections : ∀ t, (s'.connections t).Up ↔ (s.connections t).Up) (t : ℕ) :
    s'.tokens t = s.tokens t := by
  rw [tokens, tokens, hcustody.count_eq]
  simp only [hconnections]

/-! ## The operations -/

/-- A connection that is changed is up or not as its threads are. -/
theorem up_setConnection {c : Connection} (hc : c.Up ↔ (s.connections t).Up) (u : ℕ) :
    ((s.setConnection t c).connections u).Up ↔ (s.connections u).Up := by
  by_cases hu : u = t
  · subst hu
    simpa [setConnection] using hc
  · simp [setConnection, hu]

/-- A connection that calls `HandleError` hands its transport to the looper. -/
theorem tokens_fail {c : Connection} (hup : (s.connections t).Up) (hc : c.failed = true) (u : ℕ) :
    ((s.setConnection t c).post [.connectionError t]).tokens u = s.tokens u := by
  have hcustody : ((s.setConnection t c).post [.connectionError t]).custody.Perm
      (t :: s.custody) := by
    simp only [custody, post, setConnection, List.map_append, List.map_cons, List.map_nil,
      LooperCallback.transport, List.append_assoc, List.singleton_append]
    exact (List.perm_middle.append_left s.callers).trans List.perm_middle
  rw [tokens, tokens, hcustody.count_eq]
  by_cases hu : u = t
  · subst hu
    simp [post, setConnection, Connection.Up, hc, hup.1, hup.2]
  · have hne : t ≠ u := fun heq => hu heq.symm
    simp [post, setConnection, hu, hne]

/-- Stopping a connection takes its transport from no one, and gives it to no second one. -/
theorem tokens_stopConnection (s : ServerState) (t u : ℕ) :
    (s.stopConnection t).tokens u = s.tokens u := by
  obtain ⟨heq, -⟩ | ⟨hstarted, ⟨hfailed, heq⟩ | ⟨hfailed, heq⟩⟩ := s.stopConnection_cases t
  · rw [heq]
  · rw [heq]
    have hup : ∀ v, ((s.setConnection t ⟨true, true, true⟩).connections v).Up ↔
        (s.connections v).Up :=
      up_setConnection (by simp [Connection.Up, hfailed])
    have hcustody : (s.setConnection t ⟨true, true, true⟩).custody.Perm s.custody := .refl _
    exact tokens_congr hcustody hup u
  · rw [heq]
    exact tokens_fail ⟨hstarted, hfailed⟩ rfl u

/-- Stopping a connection registers no transport. -/
theorem register_mem_stopConnection {u : ℕ} :
    .register u ∈ (s.stopConnection t).runQueue ↔ .register u ∈ s.runQueue := by
  obtain ⟨heq, -⟩ | ⟨-, ⟨-, heq⟩ | ⟨-, heq⟩⟩ := s.stopConnection_cases t <;>
    simp [heq, post, setConnection]

/-- Stopping leaves a connection that is not started, and all others. -/
theorem stopConnection_connections {u : ℕ} (hu : u ≠ t ∨ s.connections u = .new) :
    (s.stopConnection t).connections u = s.connections u := by
  obtain ⟨heq, -⟩ | ⟨hstarted, ⟨-, heq⟩ | ⟨-, heq⟩⟩ := s.stopConnection_cases t
  · rw [heq]
  all_goals
    have hut : u ≠ t := by
      rcases hu with hu | hu
      · exact hu
      · rintro rfl
        simp [hu, Connection.new] at hstarted
    simp [heq, post, setConnection, hut]

/-- Stopping a connection keeps custody in order. -/
theorem Custody.stopConnection (hI : Custody s) (t : ℕ) : Custody (s.stopConnection t) := by
  obtain ⟨hhost, -, hcallers, -, -⟩ := s.stopConnection_frame t
  refine hI.of_tokens_le ?_ (fun u => (tokens_stopConnection s t u).le) ?_ fun u hu => ?_
  · rw [hhost]
    exact .refl _
  · rw [hcallers]
    exact fun _ => id
  · rw [hcallers, register_mem_stopConnection] at hu
    rw [stopConnection_connections (.inr (hI.fresh u hu))]
    exact hI.fresh u hu

/-- A kick registers no transport. -/
theorem register_mem_kick {u : ℕ} : .register u ∈ (s.kick t).runQueue ↔
    .register u ∈ s.runQueue := by
  unfold kick
  split
  · exact Iff.rfl
  · exact register_mem_stopConnection (s := { s with host := s.host.handle (.kick t) })

/-- A kick takes no transport from its place. -/
theorem tokens_kick (s : ServerState) (t u : ℕ) : (s.kick t).tokens u = s.tokens u := by
  unfold kick
  split
  · rfl
  · exact tokens_stopConnection _ t u

/-- Kicking a transport keeps custody in order. -/
theorem Custody.kick (hI : Custody s) (t : ℕ) : Custody (s.kick t) := by
  unfold ServerState.kick
  split
  · exact hI
  · have hflag : Custody { s with host := s.host.handle (.kick t) } :=
      hI.of_tokens_le (.kick s.host t) (fun _ => le_rfl) (fun _ => id) hI.fresh
    exact hflag.stopConnection t

/-! ## The looper's callbacks -/

/-- `fdevent_register_transport` starts the connection. -/
theorem handle_register (hsocket : IsSocket (s.host.transports t)) {now : ℕ}
    (hs : s.handle (LooperCallback.register t).event now = some s') :
    ∃ h, s' = { s with host := h }.startConnection t ∧ h.live = s.host.live ∧
      h.transports = s.host.transports ∧ h.transportList =
        if t ∈ s.host.pendingList then t :: s.host.transportList else s.host.transportList := by
  obtain ⟨h, hstep, rfl⟩ := Option.map_eq_some_iff.mp hs
  obtain ⟨-, rfl⟩ := Host.step_eq_some hstep
  obtain ⟨heffects, hlive, hlist, htransports⟩ :=
    Host.registerTransport_spec s.host.quiet false hsocket.1 hsocket.2
  refine ⟨_, ?_, hlive, htransports, hlist⟩
  rw [LooperCallback.event, Host.handle, heffects]
  rfl

/-- `fdevent_unregister_transport` deletes the transport. -/
theorem handle_unregister {now : ℕ}
    (hs : s.handle (LooperCallback.unregister t).event now = some s') :
    s' = { s with host := s.host.quiet.unregisterTransport t } := by
  obtain ⟨h, hstep, rfl⟩ := Option.map_eq_some_iff.mp hs
  obtain ⟨-, rfl⟩ := Host.step_eq_some hstep
  rfl

/-- The callback of `HandleError` stops the connection, and tracks a TCP transport that was not
kicked; any other is to be removed. -/
theorem handle_connectionError {now : ℕ}
    (hs : s.handle (LooperCallback.connectionError t).event now = some s') :
    ∃ h, SameTables s.host h ∧
      (∀ u, (h.transports u).identity = (s.host.transports u).identity) ∧
      s' = carryOut now ({ s with host := h }.stopConnection t)
        (if (s.host.transports t).isTcpDevice ∧ !(s.host.transports t).kicked then
          .trackTransport t else .removeTransport t) := by
  obtain ⟨h, hstep, rfl⟩ := Option.map_eq_some_iff.mp hs
  obtain ⟨-, rfl⟩ := Host.step_eq_some hstep
  refine ⟨s.host.quiet.handleError t, (SameTables.handleError s.host.quiet t).of_quiet,
    Host.handleError_identity s.host.quiet t, ?_⟩
  rw [LooperCallback.event, Host.handle, Host.handleError_effects]
  rfl

/-- Another event changes nothing but the tables. -/
theorem handle_event {e : LooperEvent} {now : ℕ} (he : e.registers = false)
    (hs : s.handle e now = some s') :
    ∃ h, SameTables s.host h ∧
      (∀ u, (h.transports u).identity = (s.host.transports u).identity) ∧
      s' = { s with host := h } := by
  obtain ⟨h, hstep, rfl⟩ := Option.map_eq_some_iff.mp hs
  obtain ⟨-, rfl⟩ := Host.step_eq_some hstep
  have hsame := Host.SameRegistration.handle s.host.quiet he
  refine ⟨s.host.quiet.handle e, (SameTables.of_registration hsame).of_quiet, hsame.identity, ?_⟩
  rw [hsame.effects]
  rfl

/-- A callback that is run is no longer held by the looper's queue. -/
theorem custody_pop {c : LooperCallback} {queue : List LooperCallback}
    (hqueue : s.runQueue = c :: queue) :
    s.custody.Perm (c.transport :: { s with runQueue := queue }.custody) := by
  simp only [custody, hqueue, List.map_cons, List.cons_append]
  exact List.perm_middle

/-- A callback that is run takes a token with it, and no other. -/
theorem Custody.tokens_pop (hI : Custody s) {c : LooperCallback} {queue : List LooperCallback}
    (hqueue : s.runQueue = c :: queue) (u : ℕ) : { s with runQueue := queue }.tokens u =
      if u = c.transport then 0 else s.tokens u := by
  have hperm := custody_pop hqueue
  have hcount := hperm.count_eq u
  rw [List.count_cons] at hcount
  split
  · rename_i hu
    have hmem : u ∈ s.custody := hperm.mem_iff.mpr (hu ▸ List.mem_cons_self ..)
    have hone := hI.count_eq_one hmem
    have hup : ¬ (({ s with runQueue := queue } : ServerState).connections u).Up := hI.not_up hmem
    rw [tokens, if_neg hup]
    simp only [hu, beq_self_eq_true, if_true] at hcount hone ⊢
    omega
  · rename_i hu
    have hne : ¬ (c.transport == u) = true := by simpa using fun heq => hu heq.symm
    rw [if_neg hne] at hcount
    rw [tokens, tokens, hcount]
    rfl

/-- Without the callback at its head, the queue holds less. -/
theorem Custody.pop (hI : Custody s) {c : LooperCallback} {queue : List LooperCallback}
    (hqueue : s.runQueue = c :: queue) : Custody { s with runQueue := queue } := by
  refine hI.of_tokens_le (.refl _) (fun u => ?_) (fun _ => id) fun u hu => ?_
  · rw [hI.tokens_pop hqueue]
    split
    · exact Nat.zero_le _
    · exact le_rfl
  · refine hI.fresh u (hu.imp_right fun hmem => ?_)
    rw [hqueue]
    exact List.mem_cons_of_mem _ hmem

/-- The transport of a callback is not deleted. -/
theorem Custody.callback_live (hI : Custody s) {c : LooperCallback}
    {queue : List LooperCallback} (hqueue : s.runQueue = c :: queue) :
    c.transport ∈ s.host.live :=
  hI.mem_live ((custody_pop hqueue).mem_iff.mpr (List.mem_cons_self ..))

/-- The transport of a callback has the callback's token. -/
theorem Custody.callback_tokens (hI : Custody s) {c : LooperCallback}
    {queue : List LooperCallback} (hqueue : s.runQueue = c :: queue) :
    s.tokens c.transport = 1 := by
  have hpos := tokens_pos_of_mem ((custody_pop hqueue).mem_iff.mpr (List.mem_cons_self ..))
  have hle := hI.tokens_le c.transport
  omega

/-- A transport that nobody holds. -/
theorem not_mem_custody (ht : s.tokens t = 0) : t ∉ s.custody ∧ ¬ (s.connections t).Up := by
  rw [tokens] at ht
  constructor
  · exact List.count_eq_zero.mp (by omega)
  · intro hup
    rw [if_pos hup] at ht
    omega

/-- Giving a transport that nobody holds to a thread makes one token. -/
theorem tokens_give (hcustody : s'.custody.Perm (t :: s.custody))
    (hconnections : s'.connections = s.connections) (u : ℕ) :
    s'.tokens u = s.tokens u + if u = t then 1 else 0 := by
  rw [tokens, tokens, hcustody.count_eq, hconnections, List.count_cons]
  by_cases hu : u = t
  · simp [hu, Nat.add_right_comm]
  · have hne : t ≠ u := fun heq => hu heq.symm
    simp [hu, hne]

/-- It keeps custody in order, as long as it is no registration. -/
theorem Custody.give (hI : Custody s) (hlive : t ∈ s.host.live) (hnone : s.tokens t = 0)
    (hcustody : s'.custody.Perm (t :: s.custody)) (hconnections : s'.connections = s.connections)
    (hhost : s'.host = s.host) (hcallers : s'.callers = s.callers)
    (hqueue : ∀ u, .register u ∈ s'.runQueue → .register u ∈ s.runQueue) : Custody s' where
  tokens_le := fun u => by
    have hone := hI.tokens_le u
    rw [tokens_give hcustody hconnections]
    split
    · rename_i hu
      rw [hu, hnone]
    · exact hone
  live := fun u hu => by
    rw [hhost] at hu
    have hne : u ≠ t := fun heq => hu (heq ▸ hlive)
    rw [tokens_give hcustody hconnections, hI.live u hu, if_neg hne]
  listed := hhost ▸ hI.listed
  unlisted := by
    rw [hcallers, hhost]
    exact hI.unlisted
  fresh := fun u hu => by
    rw [hconnections]
    exact hI.fresh u (hu.imp (fun hc => hcallers ▸ hc) (hqueue u))
  socket := hhost ▸ hI.socket

/-- Starting the connection of a transport that nobody holds hands it to the connection. -/
theorem tokens_start {h : Host} (hnone : s.tokens t = 0) (hfresh : s.connections t = .new) (u : ℕ) :
    ({ s with host := h }.startConnection t).tokens u = if u = t then 1 else s.tokens u := by
  have hcustody : ({ s with host := h }.startConnection t).custody = s.custody := rfl
  rw [tokens, hcustody]
  by_cases hu : u = t
  · have hcount : s.custody.count t = 0 := List.count_eq_zero.mpr (not_mem_custody hnone).1
    simp [hu, hcount, startConnection, setConnection, hfresh, Connection.new]
  · simp [startConnection, setConnection, hu, tokens]

/-- Registering a transport keeps custody in order, and loses no token. -/
theorem Custody.register (hI : Custody s) {queue : List LooperCallback} {now : ℕ}
    (hqueue : s.runQueue = .register t :: queue)
    (hs : { s with runQueue := queue }.handle (LooperCallback.register t).event now = some s') :
    Custody s' ∧ ∀ u, s'.tokens u = s.tokens u := by
  have hpop := hI.pop hqueue
  have htokens : ∀ u, { s with runQueue := queue }.tokens u = if u = t then 0 else s.tokens u :=
    hI.tokens_pop hqueue
  have hfresh : s.connections t = .new := hI.fresh t (.inr (hqueue ▸ List.mem_cons_self ..))
  have hlive : t ∈ s.host.live := hI.callback_live hqueue
  have hnone : { s with runQueue := queue }.tokens t = 0 := by
    rw [htokens]
    exact if_pos rfl
  have hone : s.tokens t = 1 := hI.callback_tokens hqueue
  have hnot := not_mem_custody hnone
  obtain ⟨h, rfl, hhlive, htransports, hlist⟩ := handle_register (hpop.socket t) hs
  -- The token passes from the callback to the connection that is started.
  have hstart : ∀ u, ({ s with runQueue := queue, host := h }.startConnection t).tokens u =
      s.tokens u := by
    intro u
    rw [tokens_start (s := { s with runQueue := queue }) hnone hfresh, htokens]
    by_cases hu : u = t
    · rw [if_pos hu, hu, hone]
    · rw [if_neg hu, if_neg hu]
  have hcallers : t ∉ s.callers := fun hc => hnot.1 (List.mem_append_left _ hc)
  refine ⟨⟨fun u => ?_, fun u hu => ?_, fun u hu => ?_, fun u hu => ?_, fun u hu => ?_, ?_⟩, hstart⟩
  · rw [hstart]
    exact hI.tokens_le u
  · rw [hstart]
    exact hI.live u (hhlive ▸ hu)
  · have hu : u ∈ h.transportList := hu
    show u ∈ h.live
    rw [hhlive]
    rw [hlist] at hu
    split at hu
    · rcases List.mem_cons.mp hu with rfl | hu
      · exact hlive
      · exact hI.listed u hu
    · exact hI.listed u hu
  · show u ∉ h.transportList
    rw [hlist]
    split
    · rw [List.mem_cons, not_or]
      exact ⟨fun heq => hcallers (heq ▸ hu), hI.unlisted u hu⟩
    · exact hI.unlisted u hu
  · have hut : u ≠ t := by
      rintro rfl
      rcases hu with hu | hu
      · exact hcallers hu
      · exact hnot.1 (List.mem_append_right _ (List.mem_append_left _
          (List.mem_map_of_mem (f := LooperCallback.transport) hu)))
    have hconnections : ({ s with runQueue := queue, host := h }.startConnection t).connections u =
        s.connections u := by
      simp [startConnection, setConnection, hut]
    rw [hconnections]
    exact hpop.fresh u hu
  · intro u
    show IsSocket (h.transports u)
    rw [htransports]
    exact hI.socket u

/-- Deleting a transport keeps custody in order. -/
theorem Custody.unregister (hI : Custody s) {queue : List LooperCallback} {now : ℕ}
    (hqueue : s.runQueue = .unregister t :: queue)
    (hs : { s with runQueue := queue }.handle (LooperCallback.unregister t).event now = some s') :
    Custody s' := by
  have hpop := hI.pop hqueue
  have htokens := hI.tokens_pop hqueue
  rw [handle_unregister hs]
  refine ⟨hpop.tokens_le, fun u hu => ?_, fun u hu => ?_, fun u hu hmem => ?_, hpop.fresh,
    hpop.socket⟩
  · by_cases hut : u = t
    · exact (htokens u).trans (if_pos hut)
    · exact hpop.live u fun hmem => hu (List.mem_filter.mpr ⟨hmem, by simpa using hut⟩)
  · obtain ⟨hmem, hut⟩ := List.mem_filter.mp hu
    exact List.mem_filter.mpr ⟨hI.listed u hmem, hut⟩
  · exact hI.unlisted u hu (List.mem_filter.mp hmem).1

/-- The callback of `HandleError` keeps custody in order. It loses the token of its transport where
that is tracked by a handler that does not run, and no other. -/
theorem Custody.connectionError (hI : Custody s) {queue : List LooperCallback} {now : ℕ}
    (hqueue : s.runQueue = .connectionError t :: queue)
    (hs : { s with runQueue := queue }.handle (LooperCallback.connectionError t).event now =
      some s') :
    Custody s' ∧ ∀ u, s'.tokens u =
      if u = t ∧ (s.host.transports t).isTcpDevice ∧ (s.host.transports t).kicked = false ∧
        s.handler.running = false then 0 else s.tokens u := by
  have hpop := hI.pop hqueue
  have htokens : ∀ u, { s with runQueue := queue }.tokens u = if u = t then 0 else s.tokens u :=
    hI.tokens_pop hqueue
  have hlive : t ∈ s.host.live := hI.callback_live hqueue
  have hone : s.tokens t = 1 := hI.callback_tokens hqueue
  obtain ⟨h, hsame, -, rfl⟩ := handle_connectionError hs
  -- The state in which the transport is tracked, or queued for its removal.
  obtain ⟨s₁, hs₁⟩ : ∃ s₁, s₁ = { s with runQueue := queue, host := h }.stopConnection t :=
    ⟨_, rfl⟩
  have hI₁ : Custody s₁ := by
    have htables : Custody { s with runQueue := queue, host := h } :=
      hpop.of_tokens_le hsame (fun _ => le_rfl) (fun _ => id) hpop.fresh
    rw [hs₁]
    exact htables.stopConnection t
  have htokens₁ : ∀ u, s₁.tokens u = if u = t then 0 else s.tokens u := by
    intro u
    rw [hs₁, tokens_stopConnection]
    exact htokens u
  obtain ⟨hhost, hhandler, -, -, -⟩ :=
    stopConnection_frame { s with runQueue := queue, host := h } t
  rw [← hs₁] at hhost hhandler ⊢
  have hnone : s₁.tokens t = 0 := (htokens₁ t).trans (if_pos rfl)
  have hlive₁ : t ∈ s₁.host.live := by
    rw [hhost]
    exact hsame.live ▸ hlive
  -- Where the transport is given to a thread, no token is lost.
  have hgiven : ∀ s' : ServerState, s'.custody.Perm (t :: s₁.custody) →
      s'.connections = s₁.connections → s'.host = s₁.host → s'.callers = s₁.callers →
      (∀ u, .register u ∈ s'.runQueue → .register u ∈ s₁.runQueue) →
      Custody s' ∧ ∀ u, s'.tokens u = s.tokens u := by
    intro s' hcustody hconnections hhost hcallers hregister
    refine ⟨hI₁.give hlive₁ hnone hcustody hconnections hhost hcallers hregister, fun u => ?_⟩
    rw [tokens_give hcustody hconnections, htokens₁]
    by_cases hu : u = t
    · rw [if_pos hu, if_pos hu, hu, hone]
    · rw [if_neg hu, if_neg hu, Nat.add_zero]
  split
  · rename_i htrack
    cases hrunning : s.handler.running with
    | true =>
      have hheld := ReconnectHandler.trackTransport_held now (h := s₁.handler) (t := t)
        (by rw [hhandler]; exact hrunning)
        fun ht => (not_mem_custody hnone).1 (List.mem_append_right _ (List.mem_append_right _ ht))
      obtain ⟨hI', htokens'⟩ := hgiven
        { s₁ with handler := s₁.handler.trackTransport t now }
        (((hheld.append_left _).trans List.perm_middle).append_left _ |>.trans List.perm_middle)
        rfl rfl rfl fun _ => id
      exact ⟨hI', fun u => (htokens' u).trans (if_neg (by simp)).symm⟩
    | false =>
      have hsame : s₁.handler.trackTransport t now = s₁.handler := by
        rw [ReconnectHandler.trackTransport, if_neg (by rw [hhandler]; simp [hrunning])]
      have heq : carryOut now s₁ (.trackTransport t) = s₁ := by
        simp only [carryOut, hsame]
      have hkicked : (s.host.transports t).kicked = false := by simpa using htrack.2
      rw [heq]
      refine ⟨hI₁, fun u => ?_⟩
      rw [htokens₁]
      by_cases hu : u = t
      · rw [if_pos hu, if_pos ⟨hu, htrack.1, hkicked, rfl⟩]
      · rw [if_neg hu, if_neg fun hlost => hu hlost.1]
  · rename_i hremove
    obtain ⟨hI', htokens'⟩ := hgiven (s₁.post [.unregister t])
      (by
        simp only [custody, post, List.map_append, List.map_cons, List.map_nil,
          List.append_assoc, List.singleton_append, LooperCallback.transport]
        exact (List.perm_middle.append_left _).trans List.perm_middle)
      rfl rfl rfl (by simp [post])
    refine ⟨hI', fun u => ?_⟩
    rw [if_neg ?_]
    · exact htokens' u
    · rintro ⟨-, htcp, hkicked, -⟩
      exact hremove ⟨htcp, by simpa using hkicked⟩

/-! ## The steps -/

/-- The looper has a TCP transport tracked by a handler that does not run. -/
def Loses (s : ServerState) (a : ServerAction) (t : ℕ) : Prop :=
  ∃ now queue, a = .runCallback now ∧ s.runQueue = .connectionError t :: queue ∧
    (s.host.transports t).isTcpDevice ∧ (s.host.transports t).kicked = false ∧
    s.handler.running = false

/-- A transport that is listed after a step was listed before, and keeps its token unless the step
loses it, or it has one. -/
def Passes (s : ServerState) (a : ServerAction) (s' : ServerState) : Prop :=
  ∀ t ∈ s'.host.transportList, s'.tokens t = 1 ∨
    (t ∈ s.host.transportList ∧ (s'.tokens t = s.tokens t ∨ Loses s a t))

/-- A step that lists no transport and keeps the tokens of those that are listed. -/
theorem Passes.of_tokens (hlist : s'.host.transportList = s.host.transportList)
    (htokens : ∀ u ∈ s.host.transportList, s'.tokens u = s.tokens u) : Passes s a s' :=
  fun u hu => .inr ⟨hlist ▸ hu, .inl (htokens u (hlist ▸ hu))⟩

/-- A step in which no token is passed on. -/
theorem Custody.of_tokens (hI : Custody s) (hhost : SameTables s.host s'.host)
    (htokens : ∀ t, s'.tokens t = s.tokens t) (hcallers : s'.callers ⊆ s.callers)
    (hfresh : ∀ t, t ∈ s'.callers ∨ .register t ∈ s'.runQueue → s'.connections t = .new) :
    Custody s' ∧ Passes s a s' :=
  ⟨hI.of_tokens_le hhost (fun t => (htokens t).le) hcallers hfresh,
    .of_tokens hhost.transportList fun t _ => htokens t⟩

/-- A new transport has the token of its caller. -/
theorem Custody.registerSocket (hI : Custody s) {t : ℕ} {serial : Bytes} {isTcpDevice : Bool}
    {h : Host} (hs : s.host.step (.newTransport t .local serial .offline isTcpDevice) = some h) :
    Custody ({ s with host := h, callers := t :: s.callers }.setConnection t .new) ∧
    ∀ u ∈ s.host.live, ({ s with host := h, callers := t :: s.callers }.setConnection t .new).tokens
      u = s.tokens u := by
  obtain ⟨⟨hdead, -, -⟩, rfl⟩ := Host.step_eq_some hs
  -- A transport that is not live has no token, so its caller has the only one.
  have hnone := not_mem_custody (hI.live t hdead)
  have htokens : ∀ u, ({ s with
      host := s.host.quiet.handle (.newTransport t .local serial .offline isTcpDevice)
      callers := t :: s.callers }.setConnection t .new).tokens u =
        if u = t then 1 else s.tokens u := by
    intro u
    by_cases hu : u = t
    · have hcount : s.custody.count t = 0 := List.count_eq_zero.mpr hnone.1
      have hcustody : (t :: s.custody).count t = 1 := by rw [List.count_cons_self, hcount]
      rw [if_pos hu, hu]
      simpa [tokens, custody, setConnection, Connection.new] using hcustody
    · have hne : t ≠ u := fun heq => hu heq.symm
      simp [tokens, custody, setConnection, hu, hne]
  refine ⟨⟨fun u => ?_, fun u hu => ?_, fun u hu => ?_, fun u hu hmem => ?_, fun u hu => ?_,
    fun u => ?_⟩, fun u hu => ?_⟩
  · rw [htokens]
    split
    · exact le_rfl
    · exact hI.tokens_le u
  · have hu : u ∉ t :: s.host.live := hu
    rw [List.mem_cons, not_or] at hu
    rw [htokens, if_neg hu.1]
    exact hI.live u hu.2
  · exact List.mem_cons_of_mem _ (hI.listed u hu)
  · rcases List.mem_cons.mp hu with rfl | hu
    · exact hdead (hI.listed _ hmem)
    · exact hI.unlisted u hu hmem
  · by_cases hut : u = t
    · simp [setConnection, hut]
    · have hu' : u ∈ s.callers ∨ .register u ∈ s.runQueue :=
        hu.imp_left fun hmem => (List.mem_cons.mp hmem).resolve_left hut
      simpa [setConnection, hut] using hI.fresh u hu'
  · by_cases hut : u = t
    · simp [setConnection, Host.handle, IsSocket, ATransport.new, hut]
    · simpa [setConnection, Host.handle, Host.modifyTransport_ne _ hut] using hI.socket u
  · rw [htokens, if_neg]
    exact fun heq => hdead (heq ▸ hu)

/-- The registration that a caller queues takes its token along. -/
theorem Custody.registerTransport (hI : Custody s) (ht : t ∈ s.callers) :
    Custody ({ s with callers := s.callers.erase t }.post [.register t]) ∧
    ∀ u, ({ s with callers := s.callers.erase t }.post [.register t]).tokens u = s.tokens u := by
  have hcustody : ({ s with callers := s.callers.erase t }.post [.register t]).custody.Perm
      s.custody := by
    have hmove : (s.callers.erase t ++ (s.runQueue.map LooperCallback.transport ++
        t :: s.handler.held)).Perm (t :: (s.callers.erase t ++
          (s.runQueue.map LooperCallback.transport ++ s.handler.held))) :=
      (List.perm_middle.append_left _).trans List.perm_middle
    simp only [custody, post, List.map_append, List.map_cons, List.map_nil,
      LooperCallback.transport, List.append_assoc, List.singleton_append]
    exact hmove.trans ((List.perm_cons_erase ht).symm.append_right _)
  have htokens := tokens_congr hcustody fun _ => Iff.rfl
  refine ⟨hI.of_tokens_le (.refl _) (fun u => (htokens u).le) (List.erase_subset) fun u hu => ?_,
    htokens⟩
  rcases hu with hu | hu
  · exact hI.fresh u (.inl (List.mem_of_mem_erase hu))
  · rcases List.mem_append.mp hu with hu | hu
    · exact hI.fresh u (.inr hu)
    · cases List.mem_singleton.mp hu
      exact hI.fresh t (.inl ht)

/-- A connection that fails hands its transport to the looper. -/
theorem Custody.connectionFails (hI : Custody s) (hup : (s.connections t).Up) :
    Custody ((s.setConnection t { s.connections t with failed := true }).post
      [.connectionError t]) := by
  refine hI.of_tokens_le (.refl _) (fun u => (tokens_fail hup rfl u).le) (fun _ => id)
    fun u hu => ?_
  have hu' : u ∈ s.callers ∨ .register u ∈ s.runQueue :=
    hu.imp_right fun hmem => by simpa [post, setConnection] using hmem
  have hut : u ≠ t := by
    rintro rfl
    rw [hI.fresh u hu'] at hup
    cases hup.1
  simpa [post, setConnection, hut] using hI.fresh u hu'

theorem Custody.deviceStep (hI : Custody s) (hs : s.deviceStep a = some s') :
    Custody s' ∧ Passes s a s' := by
  cases deviceStep_inv hs with
  | already => exact ⟨hI, .of_tokens rfl fun _ _ => rfl⟩
  | registerSocket _ hstep =>
    obtain ⟨hI', htokens⟩ := hI.registerSocket hstep
    obtain ⟨-, rfl⟩ := Host.step_eq_some hstep
    exact ⟨hI', .of_tokens rfl fun u hu => htokens u (hI.listed u hu)⟩
  | registerTransport hcaller =>
    obtain ⟨hI', htokens⟩ := hI.registerTransport hcaller
    exact ⟨hI', .of_tokens rfl fun u _ => htokens u⟩
  | connectionFails hup =>
    exact ⟨hI.connectionFails hup, .of_tokens rfl fun u _ => tokens_fail hup rfl u⟩

theorem Custody.looperStep (hI : Custody s) (hs : s.looperStep a = some s') :
    Custody s' ∧ Passes s a s' := by
  cases (looperStep_inv hs).2 with
  | @runCallback now c queue _ hqueue hs =>
    cases c with
    | register t =>
      obtain ⟨hI', htokens⟩ := hI.register hqueue hs
      obtain ⟨h, rfl, -, -, hlist⟩ := handle_register ((hI.pop hqueue).socket t) hs
      refine ⟨hI', fun u hu => ?_⟩
      have hu : u ∈ h.transportList := hu
      rw [hlist] at hu
      split at hu
      · rcases List.mem_cons.mp hu with rfl | hu
        · exact .inl ((htokens u).trans (hI.callback_tokens hqueue))
        · exact .inr ⟨hu, .inl (htokens u)⟩
      · exact .inr ⟨hu, .inl (htokens u)⟩
    | unregister t =>
      -- The token of a transport that is removed is not lost, for it is not listed any more.
      refine ⟨hI.unregister hqueue hs, fun u hu => ?_⟩
      rw [handle_unregister hs] at hu ⊢
      obtain ⟨hu, hut⟩ := List.mem_filter.mp hu
      have hut : u ≠ t := by simpa using hut
      exact .inr ⟨hu, .inl ((hI.tokens_pop hqueue u).trans (if_neg hut))⟩
    | connectionError t =>
      obtain ⟨hI', htokens⟩ := hI.connectionError hqueue hs
      refine ⟨hI', fun u hu => ?_⟩
      obtain ⟨h, hsame, -, rfl⟩ := handle_connectionError hs
      have hlist : u ∈ s.host.transportList := by
        rw [carryOut_host, (stopConnection_frame _ _).1] at hu
        exact hsame.transportList ▸ hu
      refine .inr ⟨hlist, ?_⟩
      rw [htokens]
      split
      · rename_i hloses
        obtain ⟨rfl, hloses⟩ := hloses
        exact .inr ⟨now, queue, rfl, hqueue, hloses⟩
      · exact .inl rfl
  | event he hs =>
    obtain ⟨h, hsame, -, rfl⟩ := handle_event he hs
    exact hI.of_tokens hsame (fun _ => rfl) (fun _ => id) hI.fresh
  | @kick t =>
    exact ⟨hI.kick t, .of_tokens (s.kick_transportList t) fun u _ => tokens_kick s t u⟩

/-- What the handler lets go of it queues on the looper, so the tokens stay. -/
theorem Custody.letGo (hI : Custody s) {h : ReconnectHandler} {cs : List LooperCallback}
    (hheld : s.handler.held.Perm (h.held ++ cs.map LooperCallback.transport))
    (hfresh : ∀ u, .register u ∈ cs → s.connections u = .new) :
    Custody ({ s with handler := h }.post cs) ∧
    ∀ u, ({ s with handler := h }.post cs).tokens u = s.tokens u := by
  have hcustody : ({ s with handler := h }.post cs).custody.Perm s.custody := by
    have hmove : (cs.map LooperCallback.transport ++ h.held).Perm s.handler.held :=
      List.perm_append_comm.trans hheld.symm
    simp only [custody, post, List.map_append, List.append_assoc]
    exact (hmove.append_left _).append_left _
  have htokens := tokens_congr hcustody fun _ => Iff.rfl
  refine ⟨hI.of_tokens_le (.refl _) (fun u => (htokens u).le) (fun _ => id) fun u hu => ?_, htokens⟩
  rcases hu with hu | hu
  · exact hI.fresh u (.inl hu)
  · exact (List.mem_append.mp hu).elim (fun hu => hI.fresh u (.inr hu)) (hfresh u)

/-- A handler that holds the same. -/
theorem Custody.holdSame (hI : Custody s) {h : ReconnectHandler} (hheld : h.held = s.handler.held) :
    Custody { s with handler := h } ∧
    ∀ u, { s with handler := h }.tokens u = s.tokens u := by
  have htokens : ∀ u, { s with handler := h }.tokens u = s.tokens u := by
    intro u
    simp only [tokens, custody, hheld]
  exact ⟨hI.of_tokens_le (.refl _) (fun u => (htokens u).le) (fun _ => id) hI.fresh, htokens⟩

/-- A transport that the handler's thread is at has no connection, and the one that a reconnection
installs is not started yet. -/
theorem Custody.reconnected (hI : Custody s) {attempt : ReconnectAttempt}
    (hthread : s.handler.thread = .reconnecting attempt) :
    Custody (s.setConnection attempt.transport .new) ∧
    ∀ u, (s.setConnection attempt.transport .new).tokens u = s.tokens u := by
  have hheld : attempt.transport ∈ s.custody := by
    refine List.mem_append_right _ (List.mem_append_right _ ?_)
    simp [ReconnectHandler.held, hthread, HandlerPhase.attempt]
  have htokens : ∀ u, (s.setConnection attempt.transport .new).tokens u = s.tokens u :=
    tokens_congr (s := s) (.refl _)
      (up_setConnection (iff_of_false (by simp [Connection.new]) (hI.not_up hheld)))
  refine ⟨hI.of_tokens_le (.refl _) (fun u => (htokens u).le) (fun _ => id) fun u hu => ?_, htokens⟩
  by_cases hut : u = attempt.transport
  · simp [setConnection, hut]
  · simpa [setConnection, hut] using hI.fresh u hu

/-- Nothing else in the handler's queue is about the transport of the attempt. -/
theorem Custody.attempt_not_queued (hI : Custody s) {attempt : ReconnectAttempt}
    (hthread : s.handler.thread = .reconnecting attempt) :
    ∀ b ∈ s.handler.queue, b.transport ≠ attempt.transport := by
  intro b hb heq
  have hheld : s.handler.held =
      attempt.transport :: s.handler.queue.map ReconnectAttempt.transport := by
    rw [ReconnectHandler.held, hthread]
    rfl
  have hmem : attempt.transport ∈ s.custody := by
    refine List.mem_append_right _ (List.mem_append_right _ ?_)
    rw [hheld]
    exact List.mem_cons_self ..
  have hpos : 0 < (s.handler.queue.map ReconnectAttempt.transport).count
      attempt.transport := List.count_pos_iff.mpr (List.mem_map.mpr ⟨b, hb, heq⟩)
  have hone := hI.count_eq_one hmem
  rw [custody, List.count_append, List.count_append, hheld, List.count_cons_self] at hone
  omega

theorem Custody.handlerStep (hI : Custody s) (hs : s.handlerStep a = some s') :
    Custody s' ∧ Passes s a s' := by
  cases handlerStep_inv hs with
  | wakeUp =>
    obtain ⟨hI', htokens⟩ := hI.holdSame (ReconnectHandler.notifyOne_held (h := s.handler))
    exact ⟨hI', .of_tokens rfl fun u _ => htokens u⟩
  | enterWait hthread =>
    obtain ⟨hI', htokens⟩ := hI.holdSame (ReconnectHandler.enterWait_held hthread)
    exact ⟨hI', .of_tokens rfl fun u _ => htokens u⟩
  | @scan now _ hthread _ hr =>
    subst hr
    obtain ⟨hI', htokens⟩ := hI.letGo (ReconnectHandler.scan_held
      (fun t => (s.host.transports t).kicked) now hthread)
      fun u hu => absurd hu (ReconnectHandler.register_not_mem_scan _ _ u)
    exact ⟨hI', .of_tokens rfl fun u _ => htokens u⟩
  | @success now _ _ hthread hr =>
    -- The connection is a new one before its transport is to be registered.
    subst hr
    have hheld := ReconnectHandler.finish_held .success now hthread (hI.attempt_not_queued hthread)
    obtain ⟨hI₁, htokens₁⟩ := hI.reconnected hthread
    obtain ⟨hI', htokens⟩ := hI₁.letGo hheld fun u hu => by
      rw [(ReconnectHandler.register_mem_finish.mp hu).2]
      simp [setConnection]
    exact ⟨hI', .of_tokens rfl fun u _ => (htokens u).trans (htokens₁ u)⟩
  | @failure result now _ _ hresult hthread hr =>
    subst hr
    have hheld := ReconnectHandler.finish_held result now hthread (hI.attempt_not_queued hthread)
    obtain ⟨hI', htokens⟩ := hI.letGo hheld fun u hu =>
      absurd (ReconnectHandler.register_mem_finish.mp hu).1 hresult
    exact ⟨hI', .of_tokens rfl fun u _ => htokens u⟩

/-- Kicking every transport keeps custody in order. -/
theorem Custody.foldl_kick (hI : Custody s) (ts : List ℕ) :
    Custody (ts.foldl ServerState.kick s) ∧
    ∀ u, (ts.foldl ServerState.kick s).tokens u = s.tokens u :=
  foldl_kick_induct (P := fun s₁ => Custody s₁ ∧ ∀ u, s₁.tokens u = s.tokens u)
    (fun s₁ t h => ⟨h.1.kick t, fun u => (tokens_kick s₁ t u).trans (h.2 u)⟩) ts
    ⟨hI, fun _ => rfl⟩

theorem Custody.launchStep (hI : Custody s) (hS : Stages s) (hs : s.launchStep a = some s') :
    Custody s' ∧ Passes s a s' := by
  cases launchStep_inv hs with
  | launch | relaunch | loopExit =>
    exact hI.of_tokens (.refl _) (fun _ => rfl) (fun _ => id) hI.fresh
  | enterLoop =>
    have htokens : ∀ u, ({ s with
        handler := if s.initialized then s.handler else s.handler.start
        initialized := true
        stage := .looping } : ServerState).tokens u = s.tokens u := by
      intro u
      simp only [tokens, custody, hS.enterLoop_held]
    exact hI.of_tokens (.refl _) htokens (fun _ => id) hI.fresh
  | stop =>
    have hclose := Host.SameRegistration.closeSmartsockets s.host
    exact hI.of_tokens (.of_registration hclose) (fun _ => rfl) (fun _ => id) hI.fresh
  | stopNotify =>
    obtain ⟨hI', htokens⟩ := hI.holdSame (ReconnectHandler.notifyOne_held (h := s.handler))
    exact ⟨hI'.of_tokens_le (.refl _) (fun _ => le_rfl) (fun _ => id) hI'.fresh,
      .of_tokens rfl fun u _ => htokens u⟩
  | join _ hreturn =>
    obtain ⟨hI', htokens⟩ := hI.letGo (handlerReturn_drain hreturn) fun u hu => by
      simp [ReconnectHandler.drain] at hu
    exact ⟨hI'.of_tokens_le (.refl _) (fun _ => le_rfl) (fun _ => id) hI'.fresh,
      .of_tokens rfl fun u _ => htokens u⟩
  | kickAll =>
    obtain ⟨hI', htokens⟩ := hI.foldl_kick s.host.transportList
    exact ⟨hI'.of_tokens_le (.refl _) (fun _ => le_rfl) (fun _ => id) hI'.fresh,
      .of_tokens (foldl_kick_frame s.host.transportList s).2.2.2 fun u _ => htokens u⟩
  | clearTransportList _ hk =>
    subst hk
    obtain ⟨hI', -⟩ := hI.foldl_kick s.host.transportList
    exact ⟨⟨hI'.tokens_le, hI'.live, fun u hu => absurd hu List.not_mem_nil,
      fun u _ => List.not_mem_nil, hI'.fresh, hI'.socket⟩, fun u hu => absurd hu List.not_mem_nil⟩
  | fdeventReset hstage =>
    -- What is queued is dropped, and nothing is listed.
    refine ⟨hI.of_tokens_le ⟨rfl, rfl, fun _ => id⟩ (fun u => ?_) (fun _ => id) fun u hu => ?_,
      fun u hu => ?_⟩
    · simp only [tokens, custody, List.count_append, List.map_nil, List.count_nil]
      omega
    · exact hI.fresh u (.inl (hu.resolve_right List.not_mem_nil))
    · have hu : u ∈ s.host.transportList := hu
      rw [hS.cleared hstage] at hu
      exact absurd hu List.not_mem_nil

/-- Every step keeps custody in order, and only a connection error whose transport is tracked in
vain loses the token of a transport that stays listed. -/
theorem Custody.step (hI : Custody s) (hS : Stages s) (hs : s.step a = some s') :
    Custody s' ∧ Passes s a s' := by
  obtain hs | hs | hs | hs := step_cases hs
  · exact hI.deviceStep hs
  · exact hI.looperStep hs
  · exact hI.handlerStep hs
  · exact hI.launchStep hS hs

end ServerState

end AdbMobile
