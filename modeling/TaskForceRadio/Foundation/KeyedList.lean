import Mathlib.Data.List.Nodup
import Mathlib.Logic.Function.Basic
import Mathlib.Order.Bounds.Basic
import Mathlib.Order.Defs.LinearOrder

/-!
# Lists as maps, and the least value of a list

A list whose entries have keys of their own is a map. An entry replaces the one with its key in
place or goes to the end; a key is removed with the first entry that has it. A scan keeps the
least value it has seen below a bound.
-/

set_option autoImplicit false

namespace TaskForceRadio.KeyedList

section Keyed
variable {α κ : Type} [DecidableEq κ] (key : α → κ)

def find (xs : List α) (k : κ) : Option α := xs.find? (fun x => key x = k)

def put (xs : List α) (x : α) : List α :=
  match xs.findIdx? (fun y => key y = key x) with
  | some i => xs.set i x
  | none => xs ++ [x]

def remove (xs : List α) (k : κ) : List α := xs.eraseP (fun x => key x = k)

theorem put_nil (x : α) : put key [] x = [x] := rfl

theorem put_cons (y : α) (xs : List α) (x : α) :
    put key (y :: xs) x = if key y = key x then x :: xs else y :: put key xs x := by
  simp only [put, List.findIdx?_cons]
  by_cases hkey : key y = key x
  · rw [if_pos hkey, decide_eq_true hkey]
    rfl
  · rw [if_neg hkey, decide_eq_false hkey]
    cases xs.findIdx? (fun y => key y = key x) with
    | none => rfl
    | some i => rfl

theorem find_cons (y : α) (xs : List α) (k : κ) :
    find key (y :: xs) k = if key y = k then some y else find key xs k := by
  simp only [find, List.find?_cons]
  by_cases hkey : key y = k
  · rw [if_pos hkey, decide_eq_true hkey]
  · rw [if_neg hkey, decide_eq_false hkey]

theorem remove_cons (y : α) (xs : List α) (k : κ) :
    remove key (y :: xs) k = if key y = k then xs else y :: remove key xs k := by
  simp only [remove, List.eraseP_cons]
  by_cases hkey : key y = k
  · rw [if_pos hkey, decide_eq_true hkey]
    rfl
  · rw [if_neg hkey, decide_eq_false hkey]
    rfl

/-- The entry is found under its key, everything else under the key it had. -/
theorem find_put (xs : List α) (x : α) :
    find key (put key xs x) = Function.update (find key xs) (key x) (some x) := by
  funext k
  induction xs with
  | nil =>
    rw [put_nil, find_cons, Function.update_apply]
    by_cases hk : key x = k
    · rw [if_pos hk, if_pos hk.symm]
    · rw [if_neg hk, if_neg (Ne.symm hk)]
  | cons y ys ih =>
    rw [Function.update_apply] at ih ⊢
    rw [put_cons, find_cons]
    by_cases hy : key y = key x
    · rw [if_pos hy, find_cons]
      by_cases hk : k = key x
      · rw [if_pos hk, if_pos hk.symm]
      · have hyk : key y ≠ k := fun h => hk (h.symm.trans hy)
        rw [if_neg hk, if_neg (Ne.symm hk), if_neg hyk]
    · rw [if_neg hy, find_cons, ih]
      by_cases hk : k = key x
      · have hyk : key y ≠ k := fun h => hy (h.trans hk)
        simp only [if_pos hk, if_neg hyk]
      · simp only [if_neg hk]

theorem mem_keys_put (xs : List α) (x : α) (k : κ) :
    k ∈ (put key xs x).map key ↔ k = key x ∨ k ∈ xs.map key := by
  induction xs with
  | nil => simp [put_nil]
  | cons y ys ih =>
    rw [put_cons]
    by_cases hy : key y = key x
    · simp [hy]
    · rw [if_neg hy, List.map_cons, List.mem_cons, ih, List.map_cons, List.mem_cons]
      exact or_left_comm

theorem nodup_put {xs : List α} (h : (xs.map key).Nodup) (x : α) :
    ((put key xs x).map key).Nodup := by
  induction xs with
  | nil => simp [put_nil]
  | cons y ys ih =>
    obtain ⟨hhead, htail⟩ := List.nodup_cons.mp h
    rw [put_cons]
    by_cases hy : key y = key x
    · rw [if_pos hy, List.map_cons, ← hy]
      exact h
    · rw [if_neg hy, List.map_cons, List.nodup_cons, mem_keys_put]
      exact ⟨fun hmem => hmem.elim hy hhead, ih htail⟩

theorem find_eq_none_of_not_mem {xs : List α} {k : κ} (h : k ∉ xs.map key) :
    find key xs k = none := by
  induction xs with
  | nil => rfl
  | cons y ys ih =>
    rw [List.map_cons, List.mem_cons, not_or] at h
    rw [find_cons, if_neg (Ne.symm h.1), ih h.2]

/-- With keys of their own, removing the first entry of a key removes the key. -/
theorem find_remove {xs : List α} (h : (xs.map key).Nodup) (k : κ) :
    find key (remove key xs k) = Function.update (find key xs) k none := by
  funext k'
  rw [Function.update_apply]
  induction xs with
  | nil =>
    split <;> rfl
  | cons y ys ih =>
    obtain ⟨hhead, htail⟩ := List.nodup_cons.mp h
    rw [remove_cons, find_cons]
    by_cases hy : key y = k
    · rw [if_pos hy]
      by_cases hk : k' = k
      · rw [if_pos hk, find_eq_none_of_not_mem]
        rw [hk, ← hy]
        exact hhead
      · have hyk : key y ≠ k' := fun h => hk (h.symm.trans hy)
        rw [if_neg hk, if_neg hyk]
    · rw [if_neg hy, find_cons, ih htail]
      by_cases hk : k' = k
      · have hyk : key y ≠ k' := fun h => hy (h.trans hk)
        simp only [if_pos hk, if_neg hyk]
      · simp only [if_neg hk]

theorem nodup_remove {xs : List α} (h : (xs.map key).Nodup) (k : κ) :
    ((remove key xs k).map key).Nodup :=
  h.sublist (List.Sublist.map key List.eraseP_sublist)

theorem find_eq_some_iff {xs : List α} (h : (xs.map key).Nodup) {k : κ} {x : α} :
    find key xs k = some x ↔ x ∈ xs ∧ key x = k := by
  induction xs with
  | nil => simp [find]
  | cons y ys ih =>
    obtain ⟨hhead, htail⟩ := List.nodup_cons.mp h
    rw [find_cons, List.mem_cons]
    by_cases hy : key y = k
    · rw [if_pos hy]
      constructor
      · intro hsome
        rw [← Option.some.inj hsome]
        exact ⟨Or.inl rfl, hy⟩
      · intro hall
        obtain ⟨rfl | hmem, hx⟩ := hall
        · rfl
        · exact absurd (List.mem_map.mpr ⟨x, hmem, hx.trans hy.symm⟩) hhead
    · rw [if_neg hy, ih htail]
      constructor
      · intro hmem
        exact ⟨Or.inr hmem.1, hmem.2⟩
      · intro hall
        obtain ⟨rfl | hmem, hx⟩ := hall
        · exact absurd hx hy
        · exact ⟨hmem, hx⟩

end Keyed

section Least
variable {K : Type} [LinearOrder K]

def leastBelow (bound : K) (found : Option K) (xs : List K) : Option K :=
  xs.foldl (fun least x => if x < least.getD bound then some x else least) found

/-- The scan ends with what it had or with the least value of the list below that. -/
theorem leastBelow_spec (bound : K) (found : Option K) (xs : List K) :
    leastBelow bound found xs = found ∧ (∀ x ∈ xs, found.getD bound ≤ x) ∨
      ∃ m ∈ xs, leastBelow bound found xs = some m ∧ m < found.getD bound ∧ ∀ x ∈ xs, m ≤ x := by
  induction xs generalizing found with
  | nil => exact Or.inl ⟨rfl, fun x hx => absurd hx List.not_mem_nil⟩
  | cons y ys ih =>
    simp only [leastBelow, List.foldl_cons]
    by_cases hy : y < found.getD bound
    · rw [if_pos hy]
      rcases ih (some y) with ⟨hsame, hleast⟩ | ⟨m, hm, hsome, hbelow, hleast⟩
      · refine Or.inr ⟨y, List.mem_cons_self, hsame, hy, ?_⟩
        intro x hx
        rcases List.mem_cons.mp hx with rfl | hx
        · exact le_refl _
        · exact hleast x hx
      · refine Or.inr ⟨m, List.mem_cons_of_mem _ hm, hsome, lt_trans hbelow hy, ?_⟩
        intro x hx
        rcases List.mem_cons.mp hx with rfl | hx
        · exact le_of_lt hbelow
        · exact hleast x hx
    · rw [if_neg hy]
      rcases ih found with ⟨hsame, hleast⟩ | ⟨m, hm, hsome, hbelow, hleast⟩
      · refine Or.inl ⟨hsame, ?_⟩
        intro x hx
        rcases List.mem_cons.mp hx with rfl | hx
        · exact not_lt.mp hy
        · exact hleast x hx
      · refine Or.inr ⟨m, List.mem_cons_of_mem _ hm, hsome, hbelow, ?_⟩
        intro x hx
        rcases List.mem_cons.mp hx with rfl | hx
        · exact le_trans (le_of_lt hbelow) (not_lt.mp hy)
        · exact hleast x hx

end Least

end TaskForceRadio.KeyedList
