import Mathlib.Data.List.Nodup

/-!
# Rows under a unique key

Library `Base`. A table as the list of its rows, read and changed through a key that no two rows
share: a new row goes last, a known one is changed in its place.
-/

namespace OpenTrader.Base

variable {R K : Type} [DecidableEq K] (key : R → K)

/-- The row under a key. -/
def rowAt (k : K) (rows : List R) : Option R := rows.find? fun row => key row = k

/-- Change the row under a key. -/
def changeRow (k : K) (f : R → R) (rows : List R) : List R :=
  rows.map fun row => if key row = k then f row else row

/-- Change the row under a key, or add a new row last. -/
def upsertRow (k : K) (f : R → R) (new : R) (rows : List R) : List R :=
  if (rowAt key k rows).isSome then changeRow key k f rows else rows ++ [new]

variable {key} {k : K} {rows : List R}

/-- A row that is found is in the table and has the key. -/
theorem mem_of_rowAt {row : R} (h : rowAt key k rows = some row) : row ∈ rows ∧ key row = k :=
  ⟨List.mem_of_find?_eq_some h, by simpa using List.find?_some h⟩

/-- A row is not found when none has the key. -/
theorem rowAt_eq_none_iff : rowAt key k rows = none ↔ k ∉ rows.map key := by
  simp [rowAt]

/-- The rows with a key are the one row that is found, if any. -/
theorem filter_key (h : (rows.map key).Nodup) (k : K) :
    rows.filter (fun row => key row = k) = (rowAt key k rows).toList := by
  induction rows with
  | nil => rfl
  | cons row rows ih =>
    rw [List.map_cons, List.nodup_cons] at h
    by_cases hk : key row = k
    · have hn : rows.filter (fun row => key row = k) = [] := by
        rw [List.filter_eq_nil_iff]
        intro other hother
        rw [decide_eq_true_eq]
        intro hsame
        exact h.1 (List.mem_map.mpr ⟨other, hother, hsame.trans hk.symm⟩)
      simp [rowAt, hk, hn]
    · have := ih h.2
      simp only [rowAt] at this
      simp [rowAt, hk, this]

/-- A new row is found under its key. -/
theorem rowAt_concat {row : R} (h : rowAt key (key row) rows = none) (k : K) :
    rowAt key k (rows ++ [row]) = if key row = k then some row else rowAt key k rows := by
  unfold rowAt at h ⊢
  rw [List.find?_append]
  by_cases hk : key row = k
  · rw [← hk, h]
    simp
  · simp [hk]

/-- A new row keeps the keys unique. -/
theorem nodup_concat {row : R} (h : (rows.map key).Nodup) (hrow : rowAt key (key row) rows = none) :
    ((rows ++ [row]).map key).Nodup := by
  rw [rowAt_eq_none_iff] at hrow
  rw [List.map_append, List.map_singleton]
  exact List.nodup_append.mpr ⟨h, List.nodup_singleton _, by
    intro a ha b hb hab
    rw [List.mem_singleton.mp hb] at hab
    exact hrow (hab ▸ ha)⟩

variable {f : R → R}

/-- A column that the change leaves alone is as before. -/
theorem map_changeRow {γ : Type} {g : R → γ} (hg : ∀ row, key row = k → g (f row) = g row) :
    (changeRow key k f rows).map g = rows.map g := by
  rw [changeRow, List.map_map]
  apply List.map_congr_left
  intro row _
  by_cases hk : key row = k
  · simp [hk, hg row hk]
  · simp [hk]

/-- The changed row is found in the place of the one before. -/
theorem rowAt_changeRow (hf : ∀ row, key row = k → key (f row) = k) (j : K) :
    rowAt key j (changeRow key k f rows) =
      if k = j then (rowAt key k rows).map f else rowAt key j rows := by
  induction rows with
  | nil => simp [changeRow, rowAt]
  | cons row rows ih =>
    rw [changeRow, rowAt] at ih
    by_cases hrow : key row = k
    · by_cases hj : k = j
      · subst hj
        simp [changeRow, rowAt, hrow, hf row hrow]
      · simp only [changeRow, rowAt, List.map_cons, hrow, if_true, List.find?_cons,
          hf row hrow, hj, decide_false, if_false]
        rw [ih, if_neg hj]
        rfl
    · by_cases hj : k = j
      · subst hj
        simp only [changeRow, rowAt, List.map_cons, hrow, if_false, List.find?_cons, decide_false]
        rw [ih, if_pos rfl, if_pos trivial]
        rfl
      · simp only [changeRow, rowAt, List.map_cons, hrow, if_false, List.find?_cons]
        rw [ih, if_neg hj, if_neg hj]
        rfl

/-! ### Changing or adding -/

variable {new : R}

/-- What holds for the rows before, the changed and the new one, holds for all rows. -/
theorem forall_upsertRow {P : R → Prop} (hrows : ∀ row ∈ rows, P row)
    (hchange : ∀ row ∈ rows, P (f row)) (hnew : P new) :
    ∀ row ∈ upsertRow key k f new rows, P row := by
  intro row hrow
  unfold upsertRow at hrow
  split at hrow
  · obtain ⟨old, hold, rfl⟩ := List.mem_map.mp hrow
    split
    · exact hchange old hold
    · exact hrows old hold
  · rcases List.mem_append.mp hrow with hold | hlast
    · exact hrows row hold
    · rw [List.mem_singleton.mp hlast]
      exact hnew

/-- Rows that are numbered in order stay so. -/
theorem numbered_upsertRow {number : R → ℕ} (h : rows.map number = List.range rows.length)
    (hchange : ∀ row, number (f row) = number row) (hnew : number new = rows.length) :
    (upsertRow key k f new rows).map number = List.range (upsertRow key k f new rows).length := by
  unfold upsertRow
  split
  · rw [map_changeRow fun row _ => hchange row, h, changeRow, List.length_map]
  · rw [List.map_append, h, List.length_append, List.length_singleton, List.range_succ,
      List.map_singleton, hnew]

section

variable (hchange : ∀ row, key row = k → key (f row) = k) (hnew : key new = k)
include hchange hnew

/-- The keys stay unique. -/
theorem nodup_upsertRow (h : (rows.map key).Nodup) :
    ((upsertRow key k f new rows).map key).Nodup := by
  unfold upsertRow
  split
  · rw [map_changeRow fun row hk => (hchange row hk).trans hk.symm]
    exact h
  · next hn =>
    rw [← hnew] at hn
    exact nodup_concat h (Option.not_isSome_iff_eq_none.mp hn)

/-- Under its key there is the changed row or the new one. -/
theorem rowAt_upsertRow (j : K) :
    rowAt key j (upsertRow key k f new rows) =
      if k = j then some ((rowAt key k rows).elim new f) else rowAt key j rows := by
  unfold upsertRow
  cases hrow : rowAt key k rows with
  | none =>
    rw [Option.isSome_none, if_neg Bool.false_ne_true, Option.elim_none]
    rw [← hnew] at hrow ⊢
    exact rowAt_concat hrow j
  | some row =>
    rw [Option.isSome_some, if_pos rfl, rowAt_changeRow hchange, hrow]
    rfl

end

end OpenTrader.Base
