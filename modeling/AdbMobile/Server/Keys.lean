import AdbMobile.Lib.Run
import AdbMobile.Server.HandlePacket

/-!
# Authentication keys

A transport offers its private keys to the device one after the other. `keys_` holds the key that is
offered now and those still to come, so it is empty before the keys are fetched and again when all
have been offered. `NextKey` fetches them in both cases, and a `nullptr` comes between two rounds.

What the deque holds is then a place on a ring: with `n` keys there are `n + 1` places, the last of
which is the empty deque, and `NextKey` moves on by one (`nextKey_at`). So `NextKey` returns all
keys in order, then `nullptr`, and the same again, `Key` what `NextKey` has returned, and
`ResetKeys` starts a new round (`keys_in_order`).

`adb_auth_get_private_keys` is outside the repository, and what it returns is a parameter. A
`shared_ptr` is an `Option`.
-/

namespace AdbMobile

/-- `keys_` of a transport. -/
structure AuthKeys (κ : Type) where
  keys : List (Option κ)

namespace AuthKeys

variable {κ : Type}

/-- The keys of a transport as its constructor leaves them. -/
def new : AuthKeys κ := ⟨[]⟩

/-- `Key`. -/
def key (a : AuthKeys κ) : Option κ :=
  match a.keys with
  | [] => none
  | k :: _ => k

/-- `NextKey`: what it returns, and the keys after it. `none` is the failure of its `CHECK`. -/
def nextKey (privateKeys : List (Option κ)) (a : AuthKeys κ) : Option (Option κ × AuthKeys κ) :=
  match a.keys with
  | [] =>
    if privateKeys.isEmpty then none
    else some (key ⟨privateKeys⟩, ⟨privateKeys⟩)
  | _ :: rest => some (key ⟨rest⟩, ⟨rest⟩)

/-- `ResetKeys`. -/
def resetKeys (_ : AuthKeys κ) : AuthKeys κ := ⟨[]⟩

end AuthKeys

/-- A call on the keys of a transport. -/
inductive KeyCall
  | key | nextKey | resetKeys
  deriving DecidableEq, Repr

/-- The keys of a transport, and what `NextKey` has returned since the last `ResetKeys`. -/
structure KeyLog (κ : Type) where
  keys : AuthKeys κ
  offered : List (Option κ)

section Keys

variable {κ : Type} (privateKeys : List (Option κ))

namespace KeyLog

/-- A transport is created. -/
def new : KeyLog κ := ⟨.new, []⟩

/-- The effect of a call. -/
def step (l : KeyLog κ) : KeyCall → Option (KeyLog κ)
  | .key => some l
  | .nextKey => (l.keys.nextKey privateKeys).map fun r => ⟨r.2, l.offered ++ [r.1]⟩
  | .resetKeys => some ⟨l.keys.resetKeys, []⟩

end KeyLog

/-- The number of calls of `NextKey` since the last `ResetKeys`, after another call. -/
def KeyCall.count (m : ℕ) : KeyCall → ℕ
  | .key => m
  | .nextKey => m + 1
  | .resetKeys => 0

/-- The calls of `NextKey` since the last `ResetKeys`. -/
def callsSinceReset (calls : List KeyCall) : ℕ := calls.foldl KeyCall.count 0

/-- The call on the keys of `t` that an effect of the looper is. -/
def Effect.keyCall (t : ℕ) : Effect → Option KeyCall
  | .resetKeys u => if u = t then some .resetKeys else none
  | _ => none

/-- What call `i` of `NextKey` offers, from 0: the keys in order, then `nullptr`, and the same
again. -/
def offer (i : ℕ) : Option κ := privateKeys[i % (privateKeys.length + 1)]?.join

/-! ## The ring -/

theorem offer_period (i : ℕ) :
    offer privateKeys (i + (privateKeys.length + 1)) = offer privateKeys i := by
  rw [offer, Nat.add_mod_right, offer]

/-- A round has every key once, in order, and `nullptr` at its end. -/
theorem offers_round :
    (List.range (privateKeys.length + 1)).map (offer privateKeys) = privateKeys ++ [none] := by
  refine List.ext_getElem (by simp) fun i hi hi' => ?_
  rw [List.length_map, List.length_range] at hi
  rw [List.getElem_map, List.getElem_range, offer, Nat.mod_eq_of_lt hi]
  by_cases hlt : i < privateKeys.length
  · rw [List.getElem_append_left hlt, List.getElem?_eq_getElem hlt, Option.join_some]
  · obtain rfl : i = privateKeys.length := by omega
    simp

/-- The place on the ring after `m` calls. Before the first, and after each round, it is the last
one, where the deque is empty. -/
def place (m : ℕ) : ℕ := (m + privateKeys.length) % (privateKeys.length + 1)

/-- The deque at a place. -/
def AuthKeys.at (m : ℕ) : AuthKeys κ := ⟨privateKeys.drop (place privateKeys m)⟩

theorem place_zero : place privateKeys 0 = privateKeys.length := by
  rw [place, Nat.zero_add, Nat.mod_eq_of_lt (Nat.lt_succ_self _)]

theorem place_succ (m : ℕ) : place privateKeys (m + 1) = m % (privateKeys.length + 1) := by
  rw [place, Nat.add_assoc, Nat.add_comm 1, Nat.add_mod_right]

/-- The place after the next call is the next one on the ring. -/
theorem place_next (m : ℕ) :
    place privateKeys (m + 1) = (place privateKeys m + 1) % (privateKeys.length + 1) := by
  rw [place, place, Nat.mod_add_mod, Nat.add_right_comm]

theorem place_le (m : ℕ) : place privateKeys m ≤ privateKeys.length :=
  Nat.lt_succ_iff.mp (Nat.mod_lt _ privateKeys.length.succ_pos)

theorem key_drop (p : ℕ) : AuthKeys.key ⟨privateKeys.drop p⟩ = privateKeys[p]?.join := by
  rw [← List.head?_drop, AuthKeys.key]
  cases privateKeys.drop p <;> rfl

/-- After a call, `Key` returns what the call has offered. -/
theorem key_at_succ (m : ℕ) : (AuthKeys.at privateKeys (m + 1)).key = offer privateKeys m := by
  rw [AuthKeys.at, key_drop, place_succ, offer]

theorem at_zero : AuthKeys.at privateKeys 0 = .new := by
  rw [AuthKeys.at, place_zero, List.drop_length, AuthKeys.new]

/-- `NextKey` moves on by one. -/
theorem nextKey_at (hkeys : privateKeys ≠ []) (m : ℕ) :
    (AuthKeys.at privateKeys m).nextKey privateKeys =
      some (offer privateKeys m, .at privateKeys (m + 1)) := by
  rw [← key_at_succ, AuthKeys.at, AuthKeys.at, place_next, AuthKeys.nextKey]
  obtain hlt | hlast := Nat.lt_or_eq_of_le (place_le privateKeys m)
  · rw [List.drop_eq_getElem_cons hlt, Nat.mod_eq_of_lt (Nat.succ_lt_succ hlt)]
  · -- The deque is empty, and the keys are fetched again.
    rw [hlast, List.drop_length, if_neg (by simpa using hkeys), Nat.mod_self, List.drop_zero]

/-! ## The run -/

/-- The deque is where as many calls lead, and what they have returned is what is offered. -/
structure InCycle (l : KeyLog κ) : Prop where
  keys : l.keys = .at privateKeys l.offered.length
  offered : l.offered = (List.range l.offered.length).map (offer privateKeys)

theorem inCycle_new : InCycle privateKeys .new where
  keys := (at_zero privateKeys).symm
  offered := rfl

/-- `Key` returns what was offered last, and `nullptr` before anything is. -/
theorem InCycle.key_eq {l : KeyLog κ} (h : InCycle privateKeys l) :
    l.keys.key = l.offered.getLast?.join := by
  rw [h.keys, h.offered, List.length_map, List.length_range]
  cases l.offered.length with
  | zero =>
    rw [at_zero]
    rfl
  | succ m =>
    rw [key_at_succ, List.range_succ, List.map_append, List.map_singleton,
      List.getLast?_concat, Option.join_some]

/-- A call keeps the deque in the cycle, and does not abort. -/
theorem InCycle.step (hkeys : privateKeys ≠ []) {l : KeyLog κ} (h : InCycle privateKeys l)
    (call : KeyCall) : ∃ l', l.step privateKeys call = some l' ∧ InCycle privateKeys l' ∧
      l'.offered.length = call.count l.offered.length := by
  cases call with
  | key => exact ⟨l, rfl, h, rfl⟩
  | resetKeys => exact ⟨.new, rfl, inCycle_new privateKeys, rfl⟩
  | nextKey =>
    have hlength : ∀ k : Option κ, (l.offered ++ [k]).length = l.offered.length + 1 := fun k =>
      List.length_append
    refine ⟨⟨.at privateKeys (l.offered.length + 1),
      l.offered ++ [offer privateKeys l.offered.length]⟩, ?_, ⟨?_, ?_⟩, hlength _⟩
    · rw [KeyLog.step, h.keys, nextKey_at privateKeys hkeys, Option.map_some]
    · rw [hlength]
    · rw [hlength, List.range_succ, List.map_append, ← h.offered, List.map_singleton]

/-- And so does a run of calls. -/
theorem InCycle.run (hkeys : privateKeys ≠ []) (calls : List KeyCall) :
    ∀ {l : KeyLog κ}, InCycle privateKeys l → ∃ l',
      Run.run (KeyLog.step privateKeys) l calls = some l' ∧ InCycle privateKeys l' ∧
        l'.offered.length = calls.foldl KeyCall.count l.offered.length := by
  induction calls with
  | nil => exact fun h => ⟨_, rfl, h, rfl⟩
  | cons call calls ih =>
    intro l h
    obtain ⟨l₁, hstep, h₁, hcount⟩ := h.step privateKeys hkeys call
    obtain ⟨l', hrun, h', hcounts⟩ := ih h₁
    refine ⟨l', by rw [Run.run, hstep]; exact hrun, h', ?_⟩
    rw [hcounts, hcount, List.foldl_cons]

/-- A round starts with the first key, whatever the deque was before `ResetKeys`. -/
theorem nextKey_resetKeys (hkeys : privateKeys ≠ []) (a : AuthKeys κ) :
    a.resetKeys.nextKey privateKeys = some (privateKeys.head?.join, ⟨privateKeys⟩) := by
  rw [AuthKeys.resetKeys, AuthKeys.nextKey, if_neg (by simpa using hkeys)]
  cases privateKeys <;> rfl

/-- `transport_destroy` resets the keys of a transport that it hands to the reconnect handler. -/
theorem transportDestroy_resets {h : Host} {t : ℕ} (htcp : (h.transports t).isTcpDevice = true)
    (hkicked : (h.transports t).kicked = false) :
    ∃ effects, (h.transportDestroy t).trace = h.trace ++ effects ++ [.trackTransport t] ∧
      effects.filterMap (Effect.keyCall t) = [.resetKeys] := by
  refine ⟨[.stopConnection t, .resetKeys t], ?_, ?_⟩
  · rw [Host.transportDestroy, if_pos ⟨htcp, by rw [hkicked]; rfl⟩]
    simp [Host.emit]
  · have hreset : Effect.keyCall t (.resetKeys t) = some .resetKeys := if_pos rfl
    rw [List.filterMap_cons_none rfl, List.filterMap_cons_some hreset, List.filterMap_nil]

/-- From the creation of a transport on, or since `ResetKeys`, `NextKey` returns the private keys in
order, then `nullptr`, and the same again, and `Key` what `NextKey` has returned last. After
`ResetKeys`, which `transport_destroy` calls before the transport is reconnected, it starts with the
first key. -/
theorem keys_in_order (hkeys : privateKeys ≠ []) :
    ((List.range (privateKeys.length + 1)).map (offer privateKeys) = privateKeys ++ [none] ∧
      ∀ i, offer privateKeys (i + (privateKeys.length + 1)) = offer privateKeys i) ∧
    (∀ calls : List KeyCall, ∃ l, Run.run (KeyLog.step privateKeys) .new calls = some l ∧
      l.offered = (List.range (callsSinceReset calls)).map (offer privateKeys) ∧
      l.keys.key = l.offered.getLast?.join) ∧
    (∀ a : AuthKeys κ, a.resetKeys.nextKey privateKeys =
      some (privateKeys.head?.join, ⟨privateKeys⟩)) ∧
    ∀ (h : Host) (t : ℕ), (h.transports t).isTcpDevice = true → (h.transports t).kicked = false →
      ∃ effects, (h.transportDestroy t).trace = h.trace ++ effects ++ [.trackTransport t] ∧
        effects.filterMap (Effect.keyCall t) = [.resetKeys] := by
  refine ⟨⟨offers_round privateKeys, offer_period privateKeys⟩, fun calls => ?_,
    nextKey_resetKeys privateKeys hkeys, fun _ _ => transportDestroy_resets⟩
  obtain ⟨l, hrun, hcycle, hcount⟩ := InCycle.run privateKeys hkeys calls (inCycle_new privateKeys)
  refine ⟨l, hrun, ?_, hcycle.key_eq⟩
  rw [hcycle.offered, hcount]
  rfl

/-- Two keys, and five calls. -/
theorem keys_in_order_two :
    ∃ l, Run.run (KeyLog.step [some 1, some 2]) .new (List.replicate 5 .nextKey) = some l ∧
      l.offered = [some 1, some 2, none, some 1, some 2] ∧ l.keys.key = some 2 := by
  obtain ⟨l, hrun, hoffered, hkey⟩ :=
    (keys_in_order [some 1, some 2] (List.cons_ne_nil _ _)).2.1 (List.replicate 5 .nextKey)
  have hfive : l.offered = [some 1, some 2, none, some 1, some 2] := hoffered.trans (by decide)
  exact ⟨l, hrun, hfive, by rw [hkey, hfive]; rfl⟩

end Keys

end AdbMobile
