import Mathlib.Data.List.AList
import Mathlib.Data.List.Perm.Basic

/-!
# Finite dictionaries with an unspecified iteration order

Hash maps are association lists without duplicate keys. A loop over such a map visits its
pairs in an order that the map does not promise, so every loop takes an `IterationOrder`,
and results about loops hold for all of them.
-/

set_option autoImplicit false

namespace TaskForceRadio

/-- A finite map with decidable keys. -/
abbrev Dictionary (K V : Type) := AList (fun _ : K => V)

/-- A rearrangement of the visited elements, chosen by the container. -/
structure IterationOrder (α : Type) where
  arrange : List α → List α
  perm : ∀ xs, (arrange xs).Perm xs

namespace IterationOrder
variable {α : Type}

/-- The order in which the model stores the elements. -/
def stored : IterationOrder α := ⟨id, fun xs => List.Perm.refl xs⟩

/-- The order that visits `x` first whenever it is present. -/
def front [DecidableEq α] (x : α) : IterationOrder α where
  arrange xs := if x ∈ xs then x :: xs.erase x else xs
  perm xs := by
    by_cases hx : x ∈ xs
    · rw [if_pos hx]
      exact (List.perm_cons_erase hx).symm
    · rw [if_neg hx]

@[simp] theorem mem_arrange (order : IterationOrder α) (xs : List α) (x : α) :
    x ∈ order.arrange xs ↔ x ∈ xs := (order.perm xs).mem_iff

theorem front_arrange [DecidableEq α] (x : α) (xs : List α) (hx : x ∈ xs) :
    (front x).arrange xs = x :: xs.erase x := if_pos hx

end IterationOrder

namespace Dictionary
variable {K V : Type}

/-- The stored pairs. -/
def pairs (m : Dictionary K V) : List (K × V) := m.entries.map (fun e => (e.1, e.2))

/-- The stored values, once for every key. -/
def values (m : Dictionary K V) : List V := m.entries.map (fun e => e.2)

/-- The number of keys. -/
def count (m : Dictionary K V) : Nat := m.entries.length

theorem count_eq_length_keys (m : Dictionary K V) : m.count = m.keys.length :=
  (List.length_map _).symm

variable [DecidableEq K]

theorem mem_pairs (m : Dictionary K V) (k : K) (v : V) :
    (k, v) ∈ m.pairs ↔ m.lookup k = some v := by
  have hm := AList.mem_lookup_iff (s := m) (a := k) (b := v)
  rw [Option.mem_def] at hm
  rw [hm]
  constructor
  · intro h
    obtain ⟨⟨k', v'⟩, he, heq⟩ := List.mem_map.mp h
    obtain ⟨rfl, rfl⟩ := Prod.mk.inj heq
    exact he
  · intro h
    exact List.mem_map.mpr ⟨⟨k, v⟩, h, rfl⟩

theorem mem_values (m : Dictionary K V) (v : V) :
    v ∈ m.values ↔ ∃ k, m.lookup k = some v := by
  constructor
  · intro h
    obtain ⟨⟨k, v'⟩, he, rfl⟩ := List.mem_map.mp h
    exact ⟨k, (mem_pairs m k v').mp (List.mem_map.mpr ⟨_, he, rfl⟩)⟩
  · rintro ⟨k, hk⟩
    have hm := AList.mem_lookup_iff.mp (Option.mem_def.mpr hk)
    exact List.mem_map.mpr ⟨⟨k, v⟩, hm, rfl⟩

theorem lookup_insert_ite (m : Dictionary K V) (k k' : K) (v : V) :
    (m.insert k v).lookup k' = if k' = k then some v else m.lookup k' := by
  by_cases h : k' = k
  · subst h
    rw [if_pos rfl, AList.lookup_insert]
  · rw [if_neg h, AList.lookup_insert_ne h]

theorem lookup_erase_ite (m : Dictionary K V) (k k' : K) :
    (m.erase k).lookup k' = if k' = k then none else m.lookup k' := by
  by_cases h : k' = k
  · subst h
    rw [if_pos rfl, AList.lookup_erase]
  · rw [if_neg h, AList.lookup_erase_ne h]

theorem lookup_of_lookup_erase {m : Dictionary K V} {k k' : K} {v : V}
    (h : (m.erase k).lookup k' = some v) :
    k' ≠ k ∧ m.lookup k' = some v := by
  rw [lookup_erase_ite] at h
  split at h
  · cases h
  · rename_i hne
    exact ⟨hne, h⟩

/-- What a map holds after an insertion is the new pair or was there before. -/
theorem lookup_of_lookup_insert {m : Dictionary K V} {k k' : K} {v w : V}
    (h : (m.insert k w).lookup k' = some v) :
    v = w ∨ m.lookup k' = some v := by
  rw [lookup_insert_ite] at h
  split at h
  · exact Or.inl (Option.some.inj h).symm
  · exact Or.inr h

theorem count_erase_le (m : Dictionary K V) (k : K) : count (m.erase k) ≤ m.count := by
  rw [count_eq_length_keys, count_eq_length_keys, AList.keys_erase]
  exact List.length_erase_le

theorem count_erase_of_lookup {m : Dictionary K V} {k : K} {v : V} (h : m.lookup k = some v) :
    count (m.erase k) + 1 = m.count := by
  have hmem : k ∈ m.keys := by
    rw [← AList.mem_keys, ← AList.lookup_isSome, h]
    rfl
  rw [count_eq_length_keys, count_eq_length_keys, AList.keys_erase]
  exact List.length_erase_add_one hmem

theorem count_insert_le (m : Dictionary K V) (k : K) (v : V) :
    count (m.insert k v) ≤ m.count + 1 := by
  rw [count_eq_length_keys, count_eq_length_keys, AList.keys_insert, List.length_cons]
  exact Nat.succ_le_succ List.length_erase_le

/-- Erasing a new key undoes its insertion. -/
theorem erase_insert {m : Dictionary K V} {k : K} (h : m.lookup k = none) (v : V) :
    (m.insert k v).erase k = m := by
  apply AList.ext
  show ((m.insert k v).entries).kerase k = m.entries
  rw [AList.entries_insert_of_notMem (AList.lookup_eq_none.mp h)]
  exact List.kerase_cons_eq rfl

/-- A table that a loop fills holds for every key what came last for it. -/
theorem lookup_foldl_insert {α : Type} (key : α → K) (value : α → V) (xs : List α)
    (m : Dictionary K V) (k : K) :
    (xs.foldl (fun m x => m.insert (key x) (value x)) m).lookup k =
      ((xs.findRev? (fun x => key x = k)).map value).or (m.lookup k) := by
  induction xs generalizing m with
  | nil => rfl
  | cons x xs ih =>
    have hlater := ih (m.insert (key x) (value x))
    rw [List.foldl_cons, hlater, List.findRev?]
    cases xs.findRev? (fun x => decide (key x = k)) with
    | some y => rfl
    | none =>
      by_cases hkey : key x = k
      · subst hkey
        simp [AList.lookup_insert]
      · have hother : k ≠ key x := fun h => hkey h.symm
        simp [hkey, AList.lookup_insert_ne hother]

variable [DecidableEq V]

/-- The first key, in iteration order, that carries the value. -/
def firstKeyOf (order : IterationOrder (K × V)) (m : Dictionary K V) (v : V) : Option K :=
  ((order.arrange m.pairs).find? (fun p => p.2 = v)).map Prod.fst

/-- Remove the first pair, in iteration order, that carries the value. -/
def eraseFirstOf (order : IterationOrder (K × V)) (m : Dictionary K V) (v : V) :
    Dictionary K V :=
  match firstKeyOf order m v with
  | some k => m.erase k
  | none => m

theorem firstKeyOf_lookup {order : IterationOrder (K × V)} {m : Dictionary K V} {v : V} {k : K}
    (h : firstKeyOf order m v = some k) : m.lookup k = some v := by
  obtain ⟨p, hp, rfl⟩ := Option.map_eq_some_iff.mp h
  have hv : p.2 = v := by simpa using List.find?_some hp
  have hmem := (order.mem_arrange _ _).mp (List.mem_of_find?_eq_some hp)
  rw [← hv]
  exact (mem_pairs m p.1 p.2).mp hmem

theorem firstKeyOf_eq_none {order : IterationOrder (K × V)} {m : Dictionary K V} {v : V} :
    firstKeyOf order m v = none ↔ ∀ k, m.lookup k ≠ some v := by
  simp only [firstKeyOf, Option.map_eq_none_iff, List.find?_eq_none, IterationOrder.mem_arrange,
    decide_eq_true_eq, Prod.forall]
  constructor
  · intro h k hk
    exact h k v ((mem_pairs m k v).mpr hk) rfl
  · rintro h k w hw rfl
    exact h k ((mem_pairs m k w).mp hw)

/-- A value with exactly one key is found at that key, whatever the order. -/
theorem firstKeyOf_unique {order : IterationOrder (K × V)} {m : Dictionary K V} {v : V} {k : K}
    (hk : m.lookup k = some v) (hu : ∀ k', m.lookup k' = some v → k' = k) :
    firstKeyOf order m v = some k := by
  cases h : firstKeyOf order m v with
  | none => exact absurd hk (firstKeyOf_eq_none.mp h k)
  | some k' => rw [hu k' (firstKeyOf_lookup h)]

/-- Every key of a value is the first one in some order. -/
theorem exists_order_firstKeyOf {m : Dictionary K V} {v : V} {k : K} (hk : m.lookup k = some v) :
    ∃ order : IterationOrder (K × V), firstKeyOf order m v = some k := by
  refine ⟨IterationOrder.front (k, v), ?_⟩
  rw [firstKeyOf, IterationOrder.front_arrange _ _ ((mem_pairs m k v).mpr hk)]
  simp

/-- Removal by value where a value has at most one key. -/
theorem lookup_eraseFirstOf {order : IterationOrder (K × V)} {m : Dictionary K V} {key : V → K}
    (hown : ∀ k v, m.lookup k = some v → k = key v) (v : V) (k : K) :
    (eraseFirstOf order m v).lookup k =
      if m.lookup k = some v then none else m.lookup k := by
  rw [eraseFirstOf]
  split
  · rename_i k' hfirst
    have hlookup := firstKeyOf_lookup hfirst
    rw [lookup_erase_ite]
    by_cases hk : k = k'
    · subst hk
      rw [if_pos rfl, if_pos hlookup]
    · have hother : m.lookup k ≠ some v := by
        intro h
        exact hk ((hown k v h).trans (hown k' v hlookup).symm)
      rw [if_neg hk, if_neg hother]
  · rename_i hnone
    rw [if_neg (firstKeyOf_eq_none.mp hnone k)]

end Dictionary

end TaskForceRadio
