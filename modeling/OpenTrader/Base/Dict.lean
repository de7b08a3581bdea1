import Mathlib.Algebra.BigOperators.Group.List.Basic
import Mathlib.Data.List.Nodup
import Mathlib.Tactic.Abel

/-!
# Insertion-ordered dictionaries

Library `Base`. A dictionary keeps one value per key and enumerates its entries in the
order of first insertion: overwriting keeps the place of a key, a new key goes last.
The record carries the uniqueness of its keys, so no operation needs it as a premise.
-/

namespace OpenTrader.Base

/-- A finite map with unique keys, listed in first-insertion order. -/
structure Dict (K V : Type) where
  entries : List (K × V)
  nodup : (entries.map Prod.fst).Nodup
  deriving DecidableEq

namespace Dict

variable {K V : Type} [DecidableEq K]

private def setList (k : K) (v : V) : List (K × V) → List (K × V)
  | [] => [(k, v)]
  | e :: rest => if e.1 = k then (k, v) :: rest else e :: setList k v rest

variable (d : Dict K V) (p : K → V → Bool) (k : K) (v : V)

private theorem keys_setList (es : List (K × V)) :
    (setList k v es).map Prod.fst =
      if k ∈ es.map Prod.fst then es.map Prod.fst else es.map Prod.fst ++ [k] := by
  induction es with
  | nil => rfl
  | cons e rest ih =>
    rw [setList]
    split
    · next he => simp [← he]
    · next he =>
      rw [List.map_cons, ih]
      by_cases hr : k ∈ rest.map Prod.fst
      · rw [if_pos hr, if_pos (by rw [List.map_cons]; exact List.mem_cons_of_mem _ hr)]
        rfl
      · rw [if_neg hr, if_neg (by
          rw [List.map_cons, List.mem_cons]
          rintro (hk | hk)
          · exact he hk.symm
          · exact hr hk)]
        rfl

private theorem nodup_setList (es : List (K × V)) (h : (es.map Prod.fst).Nodup) :
    ((setList k v es).map Prod.fst).Nodup := by
  rw [keys_setList]
  split
  · exact h
  · next hk =>
    rw [List.nodup_append]
    refine ⟨h, List.nodup_singleton k, ?_⟩
    intro a ha b hb hab
    rw [List.mem_singleton] at hb
    subst hab hb
    exact hk ha

/-- The dictionary with no entry. -/
def empty : Dict K V := ⟨[], List.nodup_nil⟩

/-- Value stored under a key. -/
def get? : Option V :=
  (d.entries.find? (fun e => decide (e.1 = k))).map Prod.snd

/-- Store a value: an existing key keeps its place, a new key is appended. -/
def set : Dict K V :=
  ⟨setList k v d.entries, nodup_setList k v d.entries d.nodup⟩

/-- Keep the entries that satisfy `p`, in order. -/
def filter (d : Dict K V) (p : K → V → Bool) : Dict K V :=
  ⟨d.entries.filter (fun e => p e.1 e.2),
    (List.filter_sublist.map Prod.fst).nodup d.nodup⟩

/-- Remove a key, if it is there. -/
def erase : Dict K V := d.filter fun j _ => decide (j ≠ k)

/-- Replace every value, in place. -/
def mapValues {W : Type} (f : V → W) : Dict K W :=
  ⟨d.entries.map fun e => (e.1, f e.2), by simpa [Function.comp_def] using d.nodup⟩

/-- Stored values in entry order. -/
def values : List V := d.entries.map Prod.snd

/-- Number of entries. -/
def size : Nat := d.entries.length

omit [DecidableEq K] in
/-- The replaced values are those of the old values. -/
@[simp] theorem values_mapValues {W : Type} (f : V → W) :
    (d.mapValues f).values = d.values.map f := by
  simp [mapValues, values]

/-- The empty dictionary stores nothing. -/
@[simp] theorem get?_empty : (empty : Dict K V).get? k = none := rfl

/-- Lookup finds exactly the listed entry of a key. -/
theorem get?_eq_some_iff : d.get? k = some v ↔ (k, v) ∈ d.entries := by
  obtain ⟨es, hn⟩ := d
  change ((es.find? (fun e => decide (e.1 = k))).map Prod.snd = some v) ↔ (k, v) ∈ es
  induction es with
  | nil => simp
  | cons e rest ih =>
    obtain ⟨hk, hr⟩ := List.nodup_cons.mp hn
    by_cases he : e.1 = k
    · rw [List.find?_cons_of_pos (by simpa using he), Option.map_some, Option.some.injEq,
        List.mem_cons]
      constructor
      · rintro rfl
        exact .inl (by rw [← he])
      · rintro (h | h)
        · rw [← h]
        · exact absurd (List.mem_map.mpr ⟨(k, v), h, rfl⟩) (he ▸ hk)
    · rw [List.find?_cons_of_neg (by simpa using he), ih hr, List.mem_cons]
      constructor
      · exact .inr
      · rintro (h | h)
        · exact absurd (congrArg Prod.fst h).symm he
        · exact h

/-- Lookup after a store reads the stored value at its key and the old value elsewhere. -/
theorem get?_set (j : K) (v : V) : (d.set k v).get? j = if k = j then some v else d.get? j := by
  obtain ⟨es, hn⟩ := d
  change ((setList k v es).find? (fun e => decide (e.1 = j))).map Prod.snd =
    if k = j then some v else (es.find? (fun e => decide (e.1 = j))).map Prod.snd
  clear hn
  induction es with
  | nil => by_cases hj : k = j <;> simp [setList, hj]
  | cons e rest ih =>
    rw [setList]
    split
    · next he => by_cases hj : k = j <;> simp [hj, he]
    · next he =>
      by_cases hej : e.1 = j
      · have hkj : k ≠ j := fun h => he (hej.trans h.symm)
        simp [hej, hkj]
      · rw [List.find?_cons_of_neg (by simpa using hej),
          List.find?_cons_of_neg (by simpa using hej), ih]

/-- Lookup of the key just stored. -/
@[simp] theorem get?_set_self : (d.set k v).get? k = some v := by
  rw [get?_set, if_pos rfl]

/-- Lookup of another key is unchanged by a store. -/
theorem get?_set_of_ne {k j : K} (h : k ≠ j) : (d.set k v).get? j = d.get? j := by
  rw [get?_set, if_neg h]

/-- Lookup after filtering keeps the old value exactly when it passes. -/
theorem get?_filter : (d.filter p).get? k = (d.get? k).filter (p k) := by
  apply Option.ext
  intro v
  rw [get?_eq_some_iff, Option.filter_eq_some_iff, get?_eq_some_iff]
  change (k, v) ∈ d.entries.filter (fun e => p e.1 e.2) ↔ _
  rw [List.mem_filter]

/-- Lookup finds the replaced value. -/
theorem get?_mapValues {W : Type} (f : V → W) (k : K) :
    (d.mapValues f).get? k = (d.get? k).map f := by
  rw [get?, get?, mapValues, List.find?_map, Option.map_map, Option.map_map]
  rfl

/-- The entries whose keys start with `j`. -/
def slice {J : Type} [DecidableEq J] (d : Dict (J × K) V) (j : J) : Dict K V where
  entries := d.entries.filterMap fun e => if e.1.1 = j then some (e.1.2, e.2) else none
  nodup := by
    have hkeys : (d.entries.filterMap fun e =>
        if e.1.1 = j then some (e.1.2, e.2) else none).map Prod.fst =
        (d.entries.map Prod.fst).filterMap fun key => if key.1 = j then some key.2 else none := by
      rw [List.map_filterMap, List.filterMap_map]
      refine List.filterMap_congr fun e _ => ?_
      by_cases h : e.1.1 = j <;> simp [h]
    rw [hkeys]
    refine d.nodup.filterMap fun key key' k hk hk' => ?_
    obtain ⟨hj, rfl⟩ : key.1 = j ∧ key.2 = k := by simpa using hk
    obtain ⟨hj', heq⟩ : key'.1 = j ∧ key'.2 = key.2 := by simpa using hk'
    exact Prod.ext (hj.trans hj'.symm) heq.symm

/-- Lookup in a slice. -/
theorem get?_slice {J : Type} [DecidableEq J] (d : Dict (J × K) V) (j : J) (k : K) :
    (d.slice j).get? k = d.get? (j, k) := by
  apply Option.ext
  intro v
  rw [get?_eq_some_iff, get?_eq_some_iff, slice, List.mem_filterMap]
  simp

/-- Lookup after a removal finds the other keys. -/
theorem get?_erase (j : K) : (d.erase k).get? j = if j = k then none else d.get? j := by
  rw [erase, get?_filter]
  cases d.get? j with
  | none => simp
  | some v => by_cases h : j = k <;> simp [Option.filter, h]

private theorem filter_setList_of_neg {p : K × V → Bool} {k : K} {v : V} (hv : ¬ p (k, v) = true)
    {es : List (K × V)} (hold : ∀ e ∈ es, e.1 = k → ¬ p e = true) :
    (setList k v es).filter p = es.filter p := by
  induction es with
  | nil => simp [setList, hv]
  | cons e rest ih =>
    have ih := ih fun e' he' => hold e' (List.mem_cons_of_mem e he')
    rw [setList]
    split
    · next he =>
      have hp := hold e List.mem_cons_self he
      rw [List.filter_cons_of_neg hv, List.filter_cons_of_neg hp]
    · by_cases hp : p e = true
      · rw [List.filter_cons_of_pos hp, List.filter_cons_of_pos hp, ih]
      · rw [List.filter_cons_of_neg hp, List.filter_cons_of_neg hp, ih]

private theorem forall_entries {q : V → Prop} (h : ∀ u ∈ d.get? k, q u) :
    ∀ e ∈ d.entries, e.1 = k → q e.2 := by
  rintro ⟨j, u⟩ he rfl
  exact h u ((d.get?_eq_some_iff j u).mpr he)

/-- Storing a value that does not pass, over one that does not pass if any, is not seen after
filtering. -/
theorem filter_set_of_neg {k : K} {v : V} (hv : ¬ p k v = true)
    (hold : ∀ u ∈ d.get? k, ¬ p k u = true) : (d.set k v).filter p = d.filter p := by
  have hentries := @filter_setList_of_neg K V _ (fun e => p e.1 e.2) k v hv d.entries
    (fun e he hk => by simpa only [hk] using d.forall_entries k hold e he hk)
  simp only [filter, set, Dict.mk.injEq]
  exact hentries

/-- A dictionary whose values all pass is its own filtering. -/
theorem filter_eq_self (d : Dict K V) (p : K → V → Bool) (h : ∀ k, ∀ v ∈ d.get? k, p k v = true) :
    d.filter p = d := by
  obtain ⟨es, hn⟩ := d
  simp only [filter, Dict.mk.injEq]
  rw [List.filter_eq_self]
  rintro ⟨k, v⟩ he
  exact h k v ((get?_eq_some_iff ⟨es, hn⟩ k v).mpr he)

/-- Two dictionaries whose values are related are written under one key: they stay related exactly
when the new values are. -/
theorem related_set_iff {W : Type} {P : V → W → Prop} {d : Dict K V} {log : Dict K W}
    (h : ∀ j v, d.get? j = some v → ∃ w, log.get? j = some w ∧ P v w) (k : K) (v : V) (w : W) :
    (∀ j v', (d.set k v).get? j = some v' → ∃ w', (log.set k w).get? j = some w' ∧ P v' w') ↔
      P v w := by
  constructor
  · intro hall
    obtain ⟨w', hw', hrelated⟩ := hall k v (get?_set_self d k v)
    cases (get?_set_self log k w).symm.trans hw'
    exact hrelated
  · intro hrelated j v' hv'
    rw [get?_set] at hv' ⊢
    split at hv'
    · next hk =>
      cases hv'
      exact ⟨w, if_pos hk, hrelated⟩
    · next hk =>
      rw [if_neg hk]
      exact h j v' hv'

omit [DecidableEq K] in
/-- Filtering makes no dictionary larger. -/
theorem size_filter_le : (d.filter p).size ≤ d.size :=
  List.length_filter_le _ _

/-- Lookup finds something exactly under the listed keys. -/
theorem isSome_get?_iff : (d.get? k).isSome = true ↔ k ∈ d.entries.map Prod.fst := by
  rw [get?, Option.isSome_map, List.find?_isSome]
  simp

/-- A store under a new key adds its entry at the end. -/
theorem entries_set {d : Dict K V} {k : K} (h : d.get? k = none) :
    (d.set k v).entries = d.entries ++ [(k, v)] := by
  have hlist (es : List (K × V)) (hk : k ∉ es.map Prod.fst) : setList k v es = es ++ [(k, v)] := by
    induction es with
    | nil => rfl
    | cons e rest ih =>
      rw [List.map_cons, List.mem_cons, not_or] at hk
      rw [setList, if_neg (Ne.symm hk.1), ih hk.2]
      rfl
  refine hlist d.entries fun hk => ?_
  rw [← isSome_get?_iff, h] at hk
  cases hk

/-- A store adds an entry for a new key only. -/
theorem size_set : (d.set k v).size = if (d.get? k).isSome then d.size else d.size + 1 := by
  have hsize (e : Dict K V) : e.size = (e.entries.map Prod.fst).length :=
    (List.length_map Prod.fst).symm
  rw [hsize, hsize, set, keys_setList]
  split_ifs with hm hsome hsome
  · rfl
  · exact absurd ((d.isSome_get?_iff k).mpr hm) hsome
  · exact absurd ((d.isSome_get?_iff k).mp hsome) hm
  · rw [List.length_append, List.length_singleton]

/-- A listed value is stored under some key. -/
theorem mem_values_iff : v ∈ d.values ↔ ∃ k, d.get? k = some v := by
  constructor
  · intro h
    obtain ⟨⟨k, u⟩, he, hu⟩ := List.mem_map.mp h
    exact ⟨k, (d.get?_eq_some_iff k v).mpr (hu ▸ he)⟩
  · rintro ⟨k, h⟩
    exact List.mem_map.mpr ⟨(k, v), (d.get?_eq_some_iff k v).mp h, rfl⟩

/-- A value listed after a store is the stored one or was listed before. -/
theorem mem_values_of_set {d : Dict K V} {k : K} {v w : V} (h : w ∈ (d.set k v).values) :
    w = v ∨ w ∈ d.values := by
  obtain ⟨j, hj⟩ := ((d.set k v).mem_values_iff w).mp h
  rw [get?_set] at hj
  split at hj
  · exact .inl (Option.some.inj hj).symm
  · exact .inr ((d.mem_values_iff w).mpr ⟨j, hj⟩)

/-- A store under a new key adds the value to those listed. -/
theorem mem_values_set_iff {d : Dict K V} {k : K} {v w : V} (h : d.get? k = none) :
    w ∈ (d.set k v).values ↔ w ∈ d.values ∨ w = v := by
  rw [values, entries_set v h, List.map_append, List.mem_append, ← values]
  simp

omit [DecidableEq K] in
private theorem sum_congr_of_not_mem {M : Type} [AddCommGroup M] {k : K} {f g : K → V → M}
    (h : ∀ j u, j ≠ k → g j u = f j u) {es : List (K × V)} (hk : k ∉ es.map Prod.fst) :
    (es.map (fun e => g e.1 e.2)).sum = (es.map (fun e => f e.1 e.2)).sum := by
  congr 1
  refine List.map_congr_left fun e he => h e.1 e.2 ?_
  rintro rfl
  exact hk (List.mem_map_of_mem he)

/-- After a store, a sum over the entries whose summand changed at most at the stored key
differs by the new summand there in place of the old one. -/
theorem sum_set {M : Type} [AddCommGroup M] {f g : K → V → M} (h : ∀ j u, j ≠ k → g j u = f j u) :
    ((d.set k v).entries.map (fun e => g e.1 e.2)).sum =
      (d.entries.map (fun e => f e.1 e.2)).sum + g k v - ((d.get? k).map (f k)).getD 0 := by
  obtain ⟨es, hn⟩ := d
  change ((setList k v es).map (fun e => g e.1 e.2)).sum =
    (es.map (fun e => f e.1 e.2)).sum + g k v -
      (((es.find? (fun e => decide (e.1 = k))).map Prod.snd).map (f k)).getD 0
  induction es with
  | nil => simp [setList]
  | cons e rest ih =>
    obtain ⟨he', hn'⟩ := List.nodup_cons.mp hn
    rw [setList]
    split
    · next he =>
      subst he
      simp only [List.map_cons, List.sum_cons, List.find?_cons_of_pos, decide_true,
        Option.map_some, Option.getD_some, sum_congr_of_not_mem h he']
      abel
    · next he =>
      rw [List.find?_cons_of_neg (by simpa using he), List.map_cons, List.sum_cons, ih hn',
        List.map_cons, List.sum_cons, h e.1 e.2 he]
      abel

end Dict
end OpenTrader.Base
