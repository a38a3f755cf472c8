import AdbMobile.Lib.Table
import AdbMobile.Server.ForwardRequest
import AdbMobile.Server.ListenerRegistry

/-!
# The table of forwards

To its users `listener_list` is a table from local names to targets: `install_listener` puts an
entry, `remove_listener` takes one out, and a transport that goes away takes out those over it. The
code does this with listeners that have ids and events, and that are recorded in the `disconnects_`
of their transports, through which `RunDisconnects` finds them.

A `ForwardTable` is the table alone, with the operations as its users see them. In every sequence of
calls the list is that of the table (`forwardTable_refines`), and the replies to forward requests,
the text of `list-forward` among them, are those that the table gives (`forward_answers`). So an
entry lasts until a call that names it or its transport (`forward_lasts`).
-/

namespace AdbMobile

open ByteString Run Table

/-- What a local name is forwarded to. -/
structure ForwardTarget where
  connectTo : Bytes
  transport : Option ℕ
  deriving DecidableEq, Repr

/-- The target of a smart socket. -/
def ForwardTarget.isSmartSocket (x : ForwardTarget) : Bool := x.connectTo = kSmartSocketConnectTo

/-- The targets of local names, in the order in which the names were installed. -/
abbrev ForwardTable := List (Bytes × ForwardTarget)

namespace ForwardTable

/-- A request for a name: a new target where it may be rebound, and a new entry where there is none
and the system can bind it. -/
def install (s : ForwardTable) (r : InstallRequest) : InstallResult × ForwardTable :=
  let target : ForwardTarget := ⟨r.connectTo, r.transport⟩
  match get r.localName s with
  | some x =>
    if x.isSmartSocket then
      ({ status := .internalError, error := some (lit "cannot repurpose smartsocket") }, s)
    else if r.noRebind then ({ status := .cannotRebind, error := some (lit "cannot rebind") }, s)
    else ({ status := .ok }, put r.localName target s)
  | none =>
    match r.listening with
    | .error e => ({ status := .cannotBind, error := some e }, s)
    | .ok listening =>
      ({ status := .ok
         resolvedTcpPort := if listening.resolved ≠ 0 then some listening.resolved else none },
        put (listening.name r.localName) target s)

/-- A name is taken out. -/
def removeName (s : ForwardTable) (name : Bytes) : InstallStatus × ForwardTable :=
  if (get name s).isSome then (.ok, remove name s) else (.listenerNotFound, s)

/-- A rebinding to or from no transport. -/
def RebindsNull (s : ForwardTable) (r : InstallRequest) : Prop :=
  ∃ x ∈ get r.localName s, x.isSmartSocket = false ∧ r.noRebind = false ∧
    x.transport ≠ r.transport ∧ (x.transport = none ∨ r.transport = none)

instance (s : ForwardTable) (r : InstallRequest) : Decidable (s.RebindsNull r) := by
  unfold RebindsNull
  infer_instance

/-- The table after a call. -/
def step (s : ForwardTable) : ListenerCall → Option ForwardTable
  | .installListener r => if s.RebindsNull r then none else some (s.install r).2
  | .removeListener name => some (s.removeName name).2
  | .removeAllListeners => some (s.filter fun e => e.2.connectTo.head? = some 42)
  | .closeSmartsockets => some (s.filter fun e => !e.2.isSmartSocket)
  | .runDisconnects t => some (s.filter fun e => e.2.transport ≠ some t)

/-- A line of the list: the serial of the transport, the name, and the target. -/
def line (serial : ℕ → Bytes) (e : Bytes × ForwardTarget) : Bytes :=
  let serial := (e.2.transport.map serial).getD []
  (if serial ≠ [] then cString serial else lit "(reverse)") ++ lit " " ++ cString e.1 ++ lit " " ++
    cString e.2.connectTo ++ lit "\n"

/-- The fields of a line. -/
def fields (serial : ℕ → Bytes) (e : Bytes × ForwardTarget) : List Bytes :=
  let serial := (e.2.transport.map serial).getD []
  [if serial ≠ [] then serial else lit "(reverse)", e.1, e.2.connectTo]

/-- The list of the forwards. -/
def text (serial : ℕ → Bytes) (s : ForwardTable) : Bytes :=
  (s.filter fun e => !e.2.isSmartSocket).flatMap (line serial)

/-- The fields that a user takes out of the list. -/
def parse (text : Bytes) : List (List Bytes) := (split 10 text).dropLast.map (split 32)

/-- A field that is told from those around it. -/
def PlainField (s : Bytes) : Prop := 0 ∉ s ∧ 10 ∉ s ∧ 32 ∉ s

instance (s : Bytes) : Decidable (PlainField s) := by
  unfold PlainField
  infer_instance

/-- A line is its fields, with a space between them and a newline behind them. -/
theorem line_eq {serial : ℕ → Bytes} {e : Bytes × ForwardTarget}
    (h : ∀ f ∈ fields serial e, PlainField f) : line serial e = join 32 (fields serial e) ++ [10] := by
  have hplain : ∀ f ∈ fields serial e, cString f = f := fun f hf =>
    (cString_eq_self_iff f).mpr (h f hf).1
  unfold fields at hplain ⊢
  simp only [List.mem_cons, List.not_mem_nil, or_false, forall_eq_or_imp, forall_eq] at hplain
  obtain ⟨hserial, hname, hto⟩ := hplain
  rw [line, hname, hto]
  have hfirst : (if (e.2.transport.map serial).getD [] ≠ [] then
      cString ((e.2.transport.map serial).getD []) else lit "(reverse)") =
        if (e.2.transport.map serial).getD [] ≠ [] then (e.2.transport.map serial).getD []
        else lit "(reverse)" := by
    split
    · rename_i hne
      rwa [if_pos hne] at hserial
    · rfl
  have hspace : lit " " = [32] := by decide
  have hnewline : lit "\n" = [10] := by decide
  simp only [hfirst, hspace, hnewline, join, List.intercalate_cons_cons,
    List.intercalate_singleton, List.append_assoc]

/-- What a user takes out of the list are the forwards, where the fields are told apart. -/
theorem parse_text {serial : ℕ → Bytes} {s : ForwardTable}
    (h : ∀ e ∈ s, e.2.isSmartSocket = false → ∀ f ∈ fields serial e, PlainField f) :
    parse (s.text serial) = (s.filter fun e => !e.2.isSmartSocket).map (fields serial) := by
  have hplain : ∀ e ∈ s.filter fun e => !e.2.isSmartSocket,
      ∀ f ∈ fields serial e, PlainField f := by
    intro e he
    obtain ⟨he, hsmart⟩ := List.mem_filter.mp he
    exact h e he (by simpa using hsmart)
  have htext : s.text serial = (s.filter fun e => !e.2.isSmartSocket).flatMap fun e =>
      join 32 (fields serial e) ++ [10] := by
    rw [text]
    exact List.flatMap_congr fun e he => line_eq (hplain e he)
  have hlines : ∀ e ∈ s.filter fun e => !e.2.isSmartSocket, 10 ∉ join 32 (fields serial e) :=
    fun e he => not_mem_join (by decide) fun f hf => (hplain e he f hf).2.1
  rw [parse, htext, split_lines hlines, List.dropLast_concat, List.map_map]
  refine List.map_congr_left fun e he => ?_
  exact split_join (fun f hf => (hplain e he f hf).2.2) (List.cons_ne_nil _ _)

end ForwardTable

/-! ## Requests -/

/-- What a forward request asks for. -/
inductive ForwardCommand
  | list
  | killAll
  /-- `transport_acquirer` found no transport. -/
  | refused (message : Bytes)
  | kill (localName : Bytes)
  | forward (service localName connectTo : Bytes) (noRebind : Bool) (transport : ℕ)
  /-- The parts of the service are not what the command takes. -/
  | bad (message : Bytes)

namespace ForwardRequest

/-- The parts of a `killforward:`. -/
def killCommand (service : Bytes) : ForwardCommand :=
  match split 59 service with
  | [localName] =>
    if localName = [] then .bad (lit "bad killforward: " ++ service) else .kill localName
  | _ => .bad (lit "bad killforward: " ++ service)

/-- The parts of a `forward:`. -/
def forwardCommand (service : Bytes) (noRebind : Bool) (t : ℕ) : ForwardCommand :=
  match split 59 service with
  | [localName, connectTo] =>
    if localName = [] ∨ connectTo = [] ∨ connectTo.head? = some 42 then
      .bad (lit "bad forward: " ++ service)
    else .forward service localName connectTo noRebind t
  | _ => .bad (lit "bad forward: " ++ service)

/-- What a request asks for, if it is a forward request. -/
def command (r : ForwardRequest) : Option ForwardCommand :=
  let service := cString r.service
  if service = lit "list-forward" then some .list
  else if service = lit "killforward-all" then some .killAll
  else if lit "forward:" <+: service ∨ lit "killforward:" <+: service then
    match r.transport with
    | .error e => some (.refused e)
    | .ok t =>
      match consumePrefix service (lit "killforward:") with
      | some service => some (killCommand service)
      | none =>
        let service := service.drop 8
        match consumePrefix service (lit "norebind:") with
        | some service => some (forwardCommand service true t)
        | none => some (forwardCommand service false t)
  else none

/-- The call that a command makes to install a listener. -/
def installRequest (listening : Except Bytes Listening) (localName connectTo : Bytes)
    (noRebind : Bool) (t : ℕ) : InstallRequest :=
  { localName, connectTo, transport := some t, noRebind, disabled := false, listening }

end ForwardRequest

/-- The replies to a command and the table after it. -/
def ForwardTable.execute (serial : ℕ → Bytes) (listening : Except Bytes Listening)
    (s : ForwardTable) : ForwardCommand → List Reply × ForwardTable
  | .list => ([.okay, .protocolString (s.text serial)], s)
  | .killAll => ([.okay, .okay], s.filter fun e => e.2.connectTo.head? = some 42)
  | .refused message | .bad message => ([.fail message], s)
  | .kill localName =>
    (forwardReplies localName { status := (s.removeName localName).1 }, (s.removeName localName).2)
  | .forward service localName connectTo noRebind t =>
    let r := s.install (ForwardRequest.installRequest listening localName connectTo noRebind t)
    (forwardReplies service r.1, r.2)

namespace Host

/-- The table that `listener_list` is to its users. -/
def forwardTable (h : Host) : ForwardTable :=
  h.listenerList.map fun l => (l.localName, ⟨l.connectTo, l.transport⟩)

variable {h h' : Host}

/-! ## One call -/

/-- The entry of a name is that of the first listener with it. -/
theorem get_forwardTable (h : Host) (name : Bytes) : get name h.forwardTable =
    (h.listenerList.find? (·.localName = name)).map fun l => ⟨l.connectTo, l.transport⟩ := by
  rw [Table.get, forwardTable, List.find?_map, Option.map_map]
  rfl

/-- The names differ where those of the listeners do. -/
theorem Tidy.keyed (ht : Tidy h) : Keyed h.forwardTable := by
  unfold Keyed forwardTable
  rw [List.map_map]
  exact ht.names

/-- A listener is smart where its target is. -/
theorem isSmartSocket_target (l : AListener) :
    (⟨l.connectTo, l.transport⟩ : ForwardTarget).isSmartSocket = l.isSmartSocket := rfl

/-- Taking listeners out of the list takes out their entries. -/
theorem forwardTable_filter (h : Host) {p : AListener → Bool} {q : Bytes × ForwardTarget → Bool}
    (hpq : ∀ l ∈ h.listenerList, p l = q (l.localName, ⟨l.connectTo, l.transport⟩)) :
    ((h.listenerList.filter p).map fun l =>
      ((l.localName, ⟨l.connectTo, l.transport⟩) : Bytes × ForwardTarget)) =
        h.forwardTable.filter q := by
  rw [forwardTable, List.filter_map]
  exact congrArg _ (List.filter_congr hpq)

/-- Listeners with one name are one. -/
theorem Tidy.eq_of_name (ht : Tidy h) {l l' : AListener} (hl : l ∈ h.listenerList)
    (hl' : l' ∈ h.listenerList) (hname : l.localName = l'.localName) : l = l' :=
  List.inj_on_of_nodup_map ht.names hl hl' hname

/-- In the list a listener is told by its id as by its name. -/
theorem Tidy.id_iff_name (ht : Tidy h) (hr : Registry h) {l l' : AListener}
    (hl : l ∈ h.listenerList) (hl' : l' ∈ h.listenerList) :
    l.id = l'.id ↔ l.localName = l'.localName := by
  constructor
  · intro hid
    rw [hr.eq_of_id hl hl' hid]
  · intro hname
    rw [ht.eq_of_name hl hl' hname]

/-- `remove_listener` takes out the name. -/
theorem forwardTable_removeListener (hr : Registry h) (ht : Tidy h) (name : Bytes) :
    (h.removeListener name).1 = (h.forwardTable.removeName name).1 ∧
      (h.removeListener name).2.forwardTable = (h.forwardTable.removeName name).2 := by
  unfold removeListener ForwardTable.removeName
  rw [get_forwardTable]
  cases hf : h.listenerList.find? (·.localName = name) with
  | none => exact ⟨rfl, rfl⟩
  | some l =>
    have hl := List.mem_of_find?_eq_some hf
    have hname : l.localName = name := by simpa using List.find?_some hf
    refine ⟨rfl, forwardTable_filter h fun a ha => ?_⟩
    have hiff := ht.id_iff_name hr ha hl
    rw [hname] at hiff
    simpa using hiff

/-- `install_listener` puts the entry that it is asked for. -/
theorem forwardTable_installListener (hr : Registry h) (ht : Tidy h) {r : InstallRequest}
    (hp : h.Promised (.installListener r)) :
    (h.installListener r).1 = (h.forwardTable.install r).1 ∧
      (h.installListener r).2.forwardTable = (h.forwardTable.install r).2 := by
  have hget := get_forwardTable h r.localName
  unfold installListener ForwardTable.install
  cases hf : h.listenerList.find? (·.localName = r.localName) with
  | some l =>
    have hl := List.mem_of_find?_eq_some hf
    have hname : l.localName = r.localName := by simpa using List.find?_some hf
    rw [hf, Option.map_some] at hget
    simp only [hget, isSmartSocket_target]
    by_cases hsmart : l.isSmartSocket = true
    · simp only [hsmart, if_true, and_self]
    · by_cases hrebind : r.noRebind = true
      · simp only [hsmart, hrebind, if_true, if_false, Bool.false_eq_true, and_self]
      · simp only [hsmart, hrebind, if_false, Bool.false_eq_true, true_and]
        rw [put_of_some hget, forwardTable, rebindListener_listenerList, forwardTable, List.map_map,
          List.map_map]
        refine List.map_congr_left fun a ha => ?_
        have hiff := ht.id_iff_name hr ha hl
        rw [hname] at hiff
        simp only [Function.comp_apply]
        by_cases hid : a.id = l.id
        · rw [if_pos hid, if_pos (hiff.mp hid), retarget, hname]
        · rw [if_neg hid, if_neg (hiff.not.mp hid)]
  | none =>
    rw [hf, Option.map_none] at hget
    simp only [hget]
    cases hlisten : r.listening with
    | error e => exact ⟨rfl, rfl⟩
    | ok listening =>
      refine ⟨rfl, ?_⟩
      have hnew : get (listening.name r.localName) h.forwardTable = none := by
        have hports := bound_name_new hf (hp.2 hf listening (by rw [hlisten]; rfl))
        refine get_eq_none_iff.mpr fun e he => ?_
        obtain ⟨l, hl, rfl⟩ := List.mem_map.mp he
        exact hports l hl
      dsimp only
      rw [put_of_none hnew]
      simp only [bindListener, forwardTable, addDisconnect, boundListener, List.map_append,
        List.map_cons, List.map_nil]

/-- Erasing listeners of the list takes out their entries. -/
theorem forwardTable_eraseListeners (hr : Registry h) (p : AListener → Bool)
    {q : Bytes × ForwardTarget → Bool}
    (hpq : ∀ l ∈ h.listenerList, p l = !q (l.localName, ⟨l.connectTo, l.transport⟩)) :
    ((h.listenerList.filter p).foldl eraseListener h).forwardTable = h.forwardTable.filter q := by
  rw [forwardTable, foldl_eraseListener_listenerList]
  refine forwardTable_filter h fun l hl => ?_
  have hmem : l.id ∈ (h.listenerList.filter p).map AListener.id ↔ p l = true := by
    constructor
    · intro hmem
      obtain ⟨a, ha, hid⟩ := List.mem_map.mp hmem
      obtain ⟨ha, hpa⟩ := List.mem_filter.mp ha
      rwa [← hr.eq_of_id ha hl hid]
    · exact fun hpl => List.mem_map_of_mem (List.mem_filter.mpr ⟨hl, hpl⟩)
  have hnot : decide (l.id ∉ (h.listenerList.filter p).map AListener.id) = !p l := by
    cases hpl : p l with
    | true => exact decide_eq_false (not_not.mpr (hmem.mpr hpl))
    | false => exact decide_eq_true (hmem.not.mpr (by simp [hpl]))
  rw [hnot, hpq l hl, Bool.not_not]

/-- `RunDisconnects` takes out the entries over the transport. -/
theorem forwardTable_runDisconnects (hr : Registry h) (t : ℕ) :
    (h.runDisconnects t).forwardTable =
      h.forwardTable.filter fun e => e.2.transport ≠ some t := by
  rw [forwardTable, runDisconnects_listenerList]
  refine forwardTable_filter h fun l hl => ?_
  exact decide_eq_decide.mpr (hr.mem_disconnects_iff hl t).not

/-- A call rebinds to or from a null pointer exactly where the table says so. -/
theorem rebindsNull_iff (h : Host) (r : InstallRequest) :
    h.RebindsNull r ↔ h.forwardTable.RebindsNull r := by
  unfold RebindsNull ForwardTable.RebindsNull
  rw [get_forwardTable]
  cases h.listenerList.find? (·.localName = r.localName) with
  | none => simp
  | some l => simp [isSmartSocket_target]

/-- A call does to the table what its users see of it. -/
theorem forwardTable_step {c : ListenerCall} (hi : Registry h ∧ Tidy h) (hp : h.Promised c)
    (hs : h.listenerStep c = some h') : h.forwardTable.step c = some h'.forwardTable := by
  obtain ⟨hr, ht⟩ := hi
  cases c with
  | installListener r =>
    simp only [listenerStep] at hs
    split at hs
    · cases hs
    · rename_i hnot
      cases hs
      rw [ForwardTable.step, if_neg ((rebindsNull_iff h r).not.mp hnot),
        (forwardTable_installListener hr ht hp).2]
  | removeListener name =>
    cases hs
    rw [ForwardTable.step, (forwardTable_removeListener hr ht name).2]
  | removeAllListeners =>
    cases hs
    rw [ForwardTable.step, removeAllListeners, forwardTable_eraseListeners hr]
    exact fun l _ => by simp
  | closeSmartsockets =>
    cases hs
    rw [ForwardTable.step, closeSmartsockets, forwardTable_eraseListeners hr]
    exact fun l _ => by rw [isSmartSocket_target, Bool.not_not]
  | runDisconnects t =>
    cases hs
    rw [ForwardTable.step, forwardTable_runDisconnects hr]

/-- A call that does not return is none that the table takes. -/
theorem forwardTable_step_none {c : ListenerCall} (hs : h.listenerStep c = none) :
    h.forwardTable.step c = none := by
  cases c with
  | installListener r =>
    simp only [listenerStep] at hs
    split at hs
    · rename_i hnull
      rw [ForwardTable.step, if_pos ((rebindsNull_iff h r).mp hnull)]
    · cases hs
  | _ => cases hs

/-! ## Every sequence of calls -/

/-- In every sequence of calls from the start of the server in which the promises are kept, the
listeners, with their ids, their events and their records in the `disconnects_` of the transports,
are to their users a table with distinct names: the calls do to it what the operations of the table
do, up to a call that dereferences a null pointer. -/
theorem forwardTable_refines (delayedAckEnabled : Bool) (calls : List ListenerCall)
    (hp : Meets listenerStep Promised (.initial delayedAckEnabled) calls) :
    (run listenerStep (.initial delayedAckEnabled) calls).map forwardTable =
      run ForwardTable.step [] calls ∧
    Throughout listenerStep (fun h => Keyed h.forwardTable) (.initial delayedAckEnabled) calls := by
  have hinit : Registry (.initial delayedAckEnabled) ∧ Tidy (.initial delayedAckEnabled) :=
    ⟨.initial delayedAckEnabled, .initial delayedAckEnabled⟩
  have hkeep : ∀ h c h', Registry h ∧ Tidy h → h.Promised c → listenerStep h c = some h' →
      Registry h' ∧ Tidy h' := fun h c h' hi hp hs => listenerStep_keeps hi hp hs
  constructor
  · exact run_refines hkeep (fun h c h' hi hp hs => forwardTable_step hi hp hs)
      (fun h c _ hs => forwardTable_step_none hs) hinit hp
  · exact (throughout_of_meets hkeep hinit hp).mono fun h hi => hi.2.keyed

/-! ## Every request -/

/-- The system is asked for no port that a listener has, if the command installs a listener. -/
def PortFresh (h : Host) (r : ForwardRequest) : Prop :=
  ∀ service localName connectTo noRebind t,
    r.command = some (.forward service localName connectTo noRebind t) →
      h.Promised (.installListener
        (ForwardRequest.installRequest r.listening localName connectTo noRebind t))

/-- The list of the listeners is that of the table. -/
theorem text_forwardTable (h : Host) :
    h.forwardTable.text (fun t => (h.transports t).serial) = h.formatListeners := by
  rw [ForwardTable.text, forwardTable, List.filter_map, List.flatMap_map]
  rfl

/-- A `killforward:` does what its command does to the table. -/
theorem killForward_execute (hr : Registry h) (ht : Tidy h) (serial : ℕ → Bytes)
    (listening : Except Bytes Listening) (service : Bytes) :
    ((h.killForward service).1, (h.killForward service).2.forwardTable) =
      h.forwardTable.execute serial listening (ForwardRequest.killCommand service) := by
  unfold killForward ForwardRequest.killCommand
  cases hsplit : split 59 service with
  | nil => rfl
  | cons localName rest =>
    cases rest with
    | cons => rfl
    | nil =>
      obtain ⟨rfl, -⟩ := split_eq_singleton_iff.mp hsplit
      obtain ⟨hstatus, htable⟩ := forwardTable_removeListener hr ht localName
      by_cases hempty : localName = []
      · simp only [hempty, if_true]
        rfl
      · simp only [if_neg hempty, ForwardTable.execute]
        rw [← hstatus, ← htable]

/-- And a `forward:`. -/
theorem forward_execute (hr : Registry h) (ht : Tidy h) (serial : ℕ → Bytes)
    (listening : Except Bytes Listening) (service : Bytes) (noRebind : Bool) (t : ℕ)
    (hp : ∀ localName connectTo, ForwardRequest.forwardCommand service noRebind t =
      .forward service localName connectTo noRebind t → h.Promised (.installListener
        (ForwardRequest.installRequest listening localName connectTo noRebind t))) :
    ((h.forward service noRebind t listening).1,
      (h.forward service noRebind t listening).2.forwardTable) =
        h.forwardTable.execute serial listening
          (ForwardRequest.forwardCommand service noRebind t) := by
  unfold ForwardRequest.forwardCommand at hp ⊢
  unfold forward
  cases hsplit : split 59 service with
  | nil => rfl
  | cons localName rest =>
    cases rest with
    | nil => rfl
    | cons connectTo rest =>
      cases rest with
      | cons => rfl
      | nil =>
        simp only [hsplit] at hp ⊢
        by_cases hbad : localName = [] ∨ connectTo = [] ∨ connectTo.head? = some 42
        · simp only [if_pos hbad]
          rfl
        · simp only [if_neg hbad] at hp ⊢
          obtain ⟨hresult, htable⟩ := forwardTable_installListener hr ht (hp localName connectTo rfl)
          rw [ForwardTable.execute, ← hresult, ← htable]
          rfl

/-- A request is answered, and changes the listeners, as its command does with the table. -/
theorem handleForwardRequest_execute (hr : Registry h) (ht : Tidy h) (r : ForwardRequest)
    (hfresh : h.PortFresh r) :
    (h.handleForwardRequest r).map (fun answer => (answer.1, answer.2.forwardTable)) =
      r.command.map (h.forwardTable.execute (fun t => (h.transports t).serial) r.listening) := by
  unfold PortFresh at hfresh
  unfold handleForwardRequest ForwardRequest.command at *
  simp only at hfresh ⊢
  by_cases hlist : cString r.service = lit "list-forward"
  · rw [if_pos hlist, if_pos hlist, Option.map_some, Option.map_some, ForwardTable.execute,
      text_forwardTable]
  rw [if_neg hlist, if_neg hlist]
  rw [if_neg hlist] at hfresh
  by_cases hall : cString r.service = lit "killforward-all"
  · rw [if_pos hall, if_pos hall, Option.map_some, Option.map_some, ForwardTable.execute,
      removeAllListeners, forwardTable_eraseListeners hr]
    exact fun l _ => by simp
  rw [if_neg hall, if_neg hall]
  rw [if_neg hall] at hfresh
  split
  · rename_i hprefix
    rw [if_pos hprefix] at hfresh
    cases htransport : r.transport with
    | error e => rfl
    | ok t =>
      simp only [htransport] at hfresh ⊢
      cases hkill : consumePrefix (cString r.service) (lit "killforward:") with
      | some name =>
        simp only [Option.map_some]
        rw [killForward_execute hr ht]
      | none =>
        simp only [hkill] at hfresh ⊢
        cases hrebind : consumePrefix ((cString r.service).drop 8) (lit "norebind:") with
        | some service =>
          simp only [hrebind] at hfresh
          simp only [Option.map_some]
          rw [forward_execute hr ht _ _ _ _ _ fun localName connectTo hcommand =>
            hfresh _ _ _ _ _ (congrArg some hcommand)]
        | none =>
          simp only [hrebind] at hfresh
          simp only [Option.map_some]
          rw [forward_execute hr ht _ _ _ _ _ fun localName connectTo hcommand =>
            hfresh _ _ _ _ _ (congrArg some hcommand)]
  · rfl

/-- After every sequence of calls in which the promises are kept, a forward request is answered, and
changes the table, as its command does with the table alone; and a user who splits the text of
`list-forward` into lines and fields gets the forwards of the table, in the order in which their
names were installed, where no field has a space or a newline in it. -/
theorem forward_answers (delayedAckEnabled : Bool) (calls : List ListenerCall) (h : Host)
    (hrun : run listenerStep (.initial delayedAckEnabled) calls = some h)
    (hp : Meets listenerStep Promised (.initial delayedAckEnabled) calls) (r : ForwardRequest)
    (hfresh : h.PortFresh r) :
    let serial := fun t => (h.transports t).serial
    (h.handleForwardRequest r).map (fun answer => (answer.1, answer.2.forwardTable)) =
      r.command.map (h.forwardTable.execute serial r.listening) ∧
    ((∀ e ∈ h.forwardTable, e.2.isSmartSocket = false →
        ∀ f ∈ ForwardTable.fields serial e, ForwardTable.PlainField f) →
      ForwardTable.parse h.formatListeners =
        (h.forwardTable.filter fun e => !e.2.isSmartSocket).map (ForwardTable.fields serial)) := by
  have hinv : Throughout listenerStep (fun h => Registry h ∧ Tidy h) (.initial delayedAckEnabled)
      calls :=
    throughout_of_meets (fun _ _ _ hi hp hs => listenerStep_keeps hi hp hs)
      ⟨.initial delayedAckEnabled, .initial delayedAckEnabled⟩ hp
  obtain ⟨hr, ht⟩ := hinv.last hrun
  refine ⟨handleForwardRequest_execute hr ht r hfresh, fun hplain => ?_⟩
  rw [← text_forwardTable, ForwardTable.parse_text hplain]

/-- The call neither names the entry nor takes it out with others. -/
def Spares (name : Bytes) (target : ForwardTarget) : ListenerCall → Prop
  | .installListener r => r.localName ≠ name
  | .removeListener other => other ≠ name
  | .removeAllListeners => target.connectTo.head? = some 42
  | .closeSmartsockets => target.isSmartSocket = false
  | .runDisconnects t => target.transport ≠ some t

/-- The name that a listener was installed under, as its caller learns it. -/
def reportedName (result : InstallResult) (localName : Bytes) : Bytes :=
  result.resolvedTcpPort.elim localName fun port => lit "tcp:" ++ decimal port

/-- What is installed is there. -/
theorem get_installListener (hi : Registry h ∧ Tidy h) {r : InstallRequest}
    (hp : h.Promised (.installListener r)) (hok : (h.installListener r).1.status = .ok) :
    get (reportedName (h.installListener r).1 r.localName)
      (h.installListener r).2.forwardTable = some ⟨r.connectTo, r.transport⟩ := by
  obtain ⟨hresult, htable⟩ := forwardTable_installListener hi.1 hi.2 hp
  rw [hresult] at hok ⊢
  rw [htable]
  unfold ForwardTable.install at hok ⊢
  cases hget : Table.get r.localName h.forwardTable with
  | some x =>
    simp only [hget] at hok ⊢
    by_cases hsmart : x.isSmartSocket = true
    · simp [hsmart] at hok
    · by_cases hrebind : r.noRebind = true
      · simp [hsmart, hrebind] at hok
      · simp [hsmart, hrebind, reportedName]
  | none =>
    simp only [hget] at hok ⊢
    cases hlisten : r.listening with
    | error e => simp [hlisten] at hok
    | ok listening =>
      have hname : reportedName { status := .ok, resolvedTcpPort :=
          if listening.resolved ≠ 0 then some listening.resolved else none } r.localName =
            listening.name r.localName := by
        unfold reportedName Listening.name
        split <;> rfl
      simp only [hname, get_put_self]

/-- A call that spares an entry leaves it. -/
theorem get_of_spares (hi : Registry h ∧ Tidy h) {c : ListenerCall} (hp : h.Promised c)
    {name : Bytes} {target : ForwardTarget} (hget : get name h.forwardTable = some target)
    (hspares : Spares name target c) (hs : h.listenerStep c = some h') :
    get name h'.forwardTable = some target := by
  have hkeyed := hi.2.keyed
  have hstep := forwardTable_step hi hp hs
  cases c with
  | installListener r =>
    simp only [listenerStep] at hs
    split at hs
    · cases hs
    · cases hs
      rw [(forwardTable_installListener hi.1 hi.2 hp).2, ForwardTable.install]
      cases hother : Table.get r.localName h.forwardTable with
      | some x =>
        dsimp only
        split
        · exact hget
        · split
          · exact hget
          · rw [get_put_ne (Ne.symm hspares), hget]
      | none =>
        cases hlisten : r.listening with
        | error e => exact hget
        | ok listening =>
          have hnew : listening.name r.localName ≠ name := by
            have hf : h.listenerList.find? (·.localName = r.localName) = none := by
              rw [get_forwardTable] at hother
              exact Option.map_eq_none_iff.mp hother
            have hports := bound_name_new hf (hp.2 hf listening (by rw [hlisten]; rfl))
            obtain ⟨l, hl, hentry⟩ := List.mem_map.mp (hkeyed.get_eq_some_iff.mp hget)
            have hname : l.localName = name := congrArg Prod.fst hentry
            exact fun heq => hports l hl (hname.trans heq.symm)
          dsimp only
          rw [get_put_ne (Ne.symm hnew), hget]
  | removeListener other =>
    rw [← Option.some.inj hstep, ForwardTable.removeName]
    split
    · exact hkeyed.get_filter _ hget (by simpa using Ne.symm hspares)
    · exact hget
  | removeAllListeners =>
    rw [← Option.some.inj hstep]
    exact hkeyed.get_filter _ hget (decide_eq_true hspares)
  | closeSmartsockets =>
    have hsmart : target.isSmartSocket = false := hspares
    rw [← Option.some.inj hstep]
    exact hkeyed.get_filter _ hget (by simp [hsmart])
  | runDisconnects t =>
    rw [← Option.some.inj hstep]
    exact hkeyed.get_filter _ hget (decide_eq_true hspares)

/-- A listener that was installed is there, under the name that the caller was told and with the
target that it asked for, until a call that names it, or that takes it out with others: in every
sequence of calls in which the promises are kept, and whatever happens to the other listeners and
transports meanwhile. -/
theorem forward_lasts (delayedAckEnabled : Bool) (before after : List ListenerCall)
    (r : InstallRequest) (h h' : Host)
    (hrun : run listenerStep (.initial delayedAckEnabled) before = some h)
    (hp : Meets listenerStep Promised (.initial delayedAckEnabled) before)
    (hp' : Meets listenerStep Promised h (.installListener r :: after))
    (hrun' : run listenerStep h (.installListener r :: after) = some h')
    (hok : (h.installListener r).1.status = .ok)
    (hspares : ∀ c ∈ after, Spares (reportedName (h.installListener r).1 r.localName)
      ⟨r.connectTo, r.transport⟩ c) :
    ∃ l ∈ h'.listenerList, l.localName = reportedName (h.installListener r).1 r.localName ∧
      l.connectTo = r.connectTo ∧ l.transport = r.transport := by
  have hkeep : ∀ h c h', Registry h ∧ Tidy h → h.Promised c → listenerStep h c = some h' →
      Registry h' ∧ Tidy h' := fun h c h' hi hp hs => listenerStep_keeps hi hp hs
  have hinv := (throughout_of_meets hkeep
    ⟨.initial delayedAckEnabled, .initial delayedAckEnabled⟩ hp).last hrun
  obtain ⟨h₁, hinstall, hafter⟩ := Option.bind_eq_some_iff.mp hrun'
  obtain ⟨hpromised, hmeets⟩ := hp' h₁ hinstall
  have hh₁ : h₁ = (h.installListener r).2 := by
    simp only [listenerStep] at hinstall
    split at hinstall
    · cases hinstall
    · exact (Option.some.inj hinstall).symm
  have hget := get_installListener hinv hpromised hok
  rw [← hh₁] at hget
  have hspared := Meets.and hmeets (meets_of_forall fun c hc _ => hspares c hc)
  have hall : Throughout listenerStep (fun h₂ => (Registry h₂ ∧ Tidy h₂) ∧
      get (reportedName (h.installListener r).1 r.localName) h₂.forwardTable =
        some ⟨r.connectTo, r.transport⟩) h₁ after :=
    throughout_of_meets (fun _ _ _ h₂ hg hs =>
      ⟨hkeep _ _ _ h₂.1 hg.1 hs, get_of_spares h₂.1 hg.1 h₂.2 hg.2 hs⟩)
      ⟨hkeep h _ h₁ hinv hpromised hinstall, hget⟩ hspared
  obtain ⟨hfinal, hget'⟩ := hall.last hafter
  obtain ⟨l, hl, hentry⟩ := List.mem_map.mp (hfinal.2.keyed.get_eq_some_iff.mp hget')
  have htarget := congrArg Prod.snd hentry
  exact ⟨l, hl, congrArg Prod.fst hentry, congrArg ForwardTarget.connectTo htarget,
    congrArg ForwardTarget.transport htarget⟩

/-- A request for a name, bound to port 6100 where it is one that the system picks. -/
def forwardOf (name target : Bytes) (t : ℕ) : InstallRequest :=
  { localName := name, connectTo := target, transport := some t, noRebind := false,
    disabled := false, listening := .ok ⟨3, if name = lit "tcp:0" then 6100 else 0⟩ }

/-- Two forwards are installed, one of them on a port that the system picks, and that one is given
another target. -/
def forwardCalls : List ListenerCall :=
  [.installListener (forwardOf (lit "tcp:0") (lit "tcp:80") 1),
    .installListener (forwardOf (lit "tcp:7000") (lit "tcp:90") 2),
    .installListener (forwardOf (lit "tcp:6100") (lit "tcp:81") 2)]

/-- They are a table of two entries. -/
theorem forwardCalls_refine : (run listenerStep (.initial false) forwardCalls).map forwardTable =
    some [(lit "tcp:6100", ⟨lit "tcp:81", some 2⟩), (lit "tcp:7000", ⟨lit "tcp:90", some 2⟩)] :=
  (forwardTable_refines false forwardCalls (by decide)).1.trans (by decide)

/-- The list is asked for. -/
def listRequest : ForwardRequest := ⟨lit "list-forward", .error [], .error []⟩

/-- The answer is the table's. -/
theorem listRequest_answered : ∃ h, run listenerStep (.initial false) forwardCalls = some h ∧
    (h.handleForwardRequest listRequest).map (fun answer => (answer.1, answer.2.forwardTable)) =
      some ([.okay, .protocolString (lit
        "(reverse) tcp:6100 tcp:81\n(reverse) tcp:7000 tcp:90\n")], h.forwardTable) :=
  ⟨_, rfl, (forward_answers false forwardCalls _ rfl (by decide) listRequest
    fun _ _ _ _ _ hcommand => by cases hcommand).1.trans (by decide)⟩

/-- The first of the forwards is still there when the other one has gone with its transport. -/
theorem forward_stays : ∃ h', ∃ l ∈ Host.listenerList h', l.localName = lit "tcp:6100" ∧
    l.connectTo = lit "tcp:80" ∧ l.transport = some 1 :=
  ⟨_, forward_lasts false [] [.installListener (forwardOf (lit "tcp:7000") (lit "tcp:90") 2),
    .runDisconnects 2] (forwardOf (lit "tcp:0") (lit "tcp:80") 1) _ _ rfl (by decide) (by decide)
    rfl (by decide) (by
      simp only [List.mem_cons, List.not_mem_nil, or_false, forall_eq_or_imp, forall_eq, Spares]
      decide)⟩

end Host

end AdbMobile
