import Mathlib.Data.List.Nodup

/-!
# Tables

A table is a list of entries, each with its key, in the order in which the keys came. `put` changes
the entry of a key where it stands, and adds one for a new key at the end; entries are taken out by
`List.filter`. Where no key comes twice (`Keyed`) a table is a function from its keys: `get` after
each operation is what it is for an update of that function.
-/

namespace Table

variable {κ ν : Type*}

/-- No key comes twice. -/
def Keyed (t : List (κ × ν)) : Prop := (t.map Prod.fst).Nodup

/-- Taking entries out of a table leaves a table. -/
theorem Keyed.filter {t : List (κ × ν)} (h : Keyed t) (p : κ × ν → Bool) : Keyed (t.filter p) :=
  (List.filter_sublist.map _).nodup h

variable [DecidableEq κ]

/-- The value of a key. -/
def get (k : κ) (t : List (κ × ν)) : Option ν := (t.find? (·.1 = k)).map Prod.snd

/-- Gives a key a value. -/
def put (k : κ) (v : ν) (t : List (κ × ν)) : List (κ × ν) :=
  if (get k t).isSome then t.map fun e => if e.1 = k then (k, v) else e else t ++ [(k, v)]

/-- Takes a key out. -/
def remove (k : κ) (t : List (κ × ν)) : List (κ × ν) := t.filter (·.1 ≠ k)

variable {t : List (κ × ν)} {k k' : κ} {v v' : ν}

theorem get_eq_none_iff : get k t = none ↔ ∀ e ∈ t, e.1 ≠ k := by
  simp [get]

/-- In a table the value of a key is that of its entry. -/
theorem Keyed.get_eq_some_iff (h : Keyed t) : get k t = some v ↔ (k, v) ∈ t := by
  unfold get
  constructor
  · intro hget
    obtain ⟨⟨k', v'⟩, hfind, rfl⟩ := Option.map_eq_some_iff.mp hget
    have hkey : k' = k := by simpa using List.find?_some hfind
    exact hkey ▸ List.mem_of_find?_eq_some hfind
  · intro hmem
    have hsome : (t.find? (·.1 = k)).isSome :=
      List.find?_isSome.mpr ⟨(k, v), hmem, decide_eq_true rfl⟩
    obtain ⟨e, hfind⟩ := Option.isSome_iff_exists.mp hsome
    have hkey : e.1 = k := by simpa using List.find?_some hfind
    have he : e = (k, v) :=
      List.inj_on_of_nodup_map h (List.mem_of_find?_eq_some hfind) hmem hkey
    rw [hfind, he, Option.map_some]

/-- A new key comes at the end. -/
theorem put_of_none (h : get k t = none) (v : ν) : put k v t = t ++ [(k, v)] :=
  if_neg (by simp [h])

/-- A key that is there stays where it is. -/
theorem put_of_some (h : get k t = some v') (v : ν) :
    put k v t = t.map fun e => if e.1 = k then (k, v) else e :=
  if_pos (by simp [h])

/-- What is put is there. -/
@[simp] theorem get_put_self : get k (put k v t) = some v := by
  cases hget : get k t with
  | some w =>
    obtain ⟨e, hfind, -⟩ := Option.map_eq_some_iff.mp hget
    have hkey : e.1 = k := by simpa using List.find?_some hfind
    have hcomp : ((fun x : κ × ν => decide (x.1 = k)) ∘ fun e => if e.1 = k then (k, v) else e) =
        fun e => decide (e.1 = k) := by
      funext x
      simp only [Function.comp_apply]
      split <;> simp_all
    rw [put_of_some hget, get, List.find?_map, hcomp, hfind, Option.map_some, Option.map_some,
      if_pos hkey]
  | none =>
    have hfind : t.find? (·.1 = k) = none := by simpa using get_eq_none_iff.mp hget
    rw [put_of_none hget, get, List.find?_append, hfind]
    simp

/-- And the other keys keep their values. -/
@[simp] theorem get_put_ne (h : k' ≠ k) : get k' (put k v t) = get k' t := by
  cases hget : get k t with
  | some w =>
    have hcomp : ((fun x : κ × ν => decide (x.1 = k')) ∘ fun e => if e.1 = k then (k, v) else e) =
        fun e => decide (e.1 = k') := by
      funext x
      simp only [Function.comp_apply]
      split <;> simp_all
    rw [put_of_some hget, get, List.find?_map, hcomp, get, Option.map_map]
    refine Option.map_congr fun e he => ?_
    have hkey : e.1 = k' := by simpa using List.find?_some he
    rw [Function.comp_apply, if_neg (hkey ▸ h)]
  | none =>
    rw [put_of_none hget, get, List.find?_append, get]
    simp [Ne.symm h]

/-- Taking entries out leaves the values of the others. -/
theorem Keyed.get_filter (h : Keyed t) (p : κ × ν → Bool) (hget : get k t = some v)
    (hp : p (k, v) = true) : get k (t.filter p) = some v :=
  (h.filter p).get_eq_some_iff.mpr (List.mem_filter.mpr ⟨h.get_eq_some_iff.mp hget, hp⟩)

/-- Putting an entry into a table gives a table. -/
theorem Keyed.put (h : Keyed t) (k : κ) (v : ν) : Keyed (put k v t) := by
  cases hget : get k t with
  | some w =>
    have hkeys : (t.map fun e => if e.1 = k then (k, v) else e).map Prod.fst = t.map Prod.fst := by
      rw [List.map_map]
      refine List.map_congr_left fun e _ => ?_
      simp only [Function.comp_apply]
      split
      · rename_i hkey
        exact hkey.symm
      · rfl
    rw [Keyed, put_of_some hget, hkeys]
    exact h
  | none =>
    have hall := get_eq_none_iff.mp hget
    rw [Keyed, put_of_none hget, List.map_append]
    refine List.Nodup.append h (List.nodup_singleton _) ?_
    simpa using fun v he => hall (k, v) he rfl

end Table
