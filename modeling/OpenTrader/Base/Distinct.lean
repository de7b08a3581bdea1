import Mathlib.Data.List.Induction
import Mathlib.Data.List.Nodup
import Mathlib.Data.List.Perm.Basic

/-!
# First occurrence by key

Library `Base`. The entries of a list whose key was not met before, in order: what a
consumer that remembers the keys it has seen keeps of an at-least-once stream.
-/

namespace OpenTrader.Base

variable {α κ : Type} [DecidableEq κ] (key : α → κ)

/-- The loop: skip an entry whose key was seen, keep and remember it otherwise. -/
def distinctFrom (seen : List κ) : List α → List α
  | [] => []
  | x :: xs =>
    if key x ∈ seen then distinctFrom seen xs else x :: distinctFrom (key x :: seen) xs

/-- The first entry of each key. -/
def distinctBy (xs : List α) : List α := distinctFrom key [] xs

/-- No entry is kept of an empty list. -/
@[simp] theorem distinctBy_nil : distinctBy key [] = [] := rfl

private theorem distinctFrom_concat (seen : List κ) (xs : List α) (x : α) :
    distinctFrom key seen (xs ++ [x]) =
      if key x ∈ seen ∨ key x ∈ xs.map key then distinctFrom key seen xs
      else distinctFrom key seen xs ++ [x] := by
  induction xs generalizing seen with
  | nil => by_cases h : key x ∈ seen <;> simp [distinctFrom, h]
  | cons y ys ih =>
    simp only [List.cons_append, distinctFrom, List.map_cons, List.mem_cons]
    by_cases hy : key y ∈ seen
    · rw [if_pos hy, if_pos hy, ih]
      by_cases hxy : key x = key y
      · simp [hxy, hy]
      · simp [hxy]
    · rw [if_neg hy, if_neg hy, ih]
      by_cases hxy : key x = key y
      · simp [hxy]
      · by_cases hx : key x ∈ seen ∨ key x ∈ ys.map key
        · simp only [List.mem_cons, hxy, false_or, if_pos hx]
        · simp only [List.mem_cons, hxy, false_or, if_neg hx, List.cons_append]

/-- A further entry is kept exactly when its key is new. -/
theorem distinctBy_concat (xs : List α) (x : α) :
    distinctBy key (xs ++ [x]) =
      if key x ∈ xs.map key then distinctBy key xs else distinctBy key xs ++ [x] := by
  simp [distinctBy, distinctFrom_concat]

variable {xs ys : List α} {x : α}

/-- Something is kept of a list that is not empty. -/
theorem distinctBy_eq_nil_iff : distinctBy key xs = [] ↔ xs = [] := by
  cases xs <;> simp [distinctBy, distinctFrom]

/-- What is kept comes from the list. -/
theorem mem_of_mem_distinctBy (h : x ∈ distinctBy key xs) : x ∈ xs := by
  induction xs using List.reverseRecOn with
  | nil => exact h
  | append_singleton xs y ih =>
    rw [distinctBy_concat] at h
    split at h
    · exact List.mem_append_left [y] (ih h)
    · rcases List.mem_append.mp h with h | h
      · exact List.mem_append_left [y] (ih h)
      · exact List.mem_append_right xs h

/-- A list whose keys are all different is kept whole. -/
theorem distinctBy_eq_self (h : (xs.map key).Nodup) : distinctBy key xs = xs := by
  induction xs using List.reverseRecOn with
  | nil => rfl
  | append_singleton xs x ih =>
    rw [List.map_append, List.nodup_append] at h
    have hx : key x ∉ xs.map key := fun hm => h.2.2 _ hm (key x) (by simp) rfl
    rw [distinctBy_concat, if_neg hx, ih h.1]

/-- A map that keeps the keys goes past the selection. -/
theorem distinctBy_map {f : α → α} (hf : ∀ x, key (f x) = key x) (xs : List α) :
    distinctBy key (xs.map f) = (distinctBy key xs).map f := by
  induction xs using List.reverseRecOn with
  | nil => rfl
  | append_singleton xs x ih =>
    have hkeys : (xs.map f).map key = xs.map key := by
      rw [List.map_map]
      exact List.map_congr_left fun y _ => hf y
    rw [List.map_append, List.map_singleton, distinctBy_concat, distinctBy_concat, ih, hkeys, hf]
    split
    · rfl
    · rw [List.map_append, List.map_singleton]

/-- Every key of the list is kept once. -/
theorem exists_mem_distinctBy (h : x ∈ xs) : ∃ y ∈ distinctBy key xs, key y = key x := by
  induction xs using List.reverseRecOn generalizing x with
  | nil => cases h
  | append_singleton xs z ih =>
    rw [distinctBy_concat]
    split
    · next hz =>
      rcases List.mem_append.mp h with h | h
      · exact ih h
      · obtain ⟨w, hw, hk⟩ := List.mem_map.mp hz
        obtain ⟨y, hy, hyw⟩ := ih hw
        exact ⟨y, hy, hyw.trans (hk.trans (by rw [List.mem_singleton.mp h]))⟩
    · rcases List.mem_append.mp h with h | h
      · obtain ⟨y, hy, hk⟩ := ih h
        exact ⟨y, List.mem_append_left _ hy, hk⟩
      · exact ⟨x, List.mem_append_right _ h, rfl⟩

/-- A selection that the keys decide can be made before or after. -/
theorem distinctBy_filter {p : α → Bool} (hp : ∀ x ∈ xs, ∀ y ∈ xs, key x = key y → p x = p y) :
    distinctBy key (xs.filter p) = (distinctBy key xs).filter p := by
  induction xs using List.reverseRecOn with
  | nil => rfl
  | append_singleton xs x ih =>
    have ih := ih fun y hy z hz =>
      hp y (List.mem_append_left _ hy) z (List.mem_append_left _ hz)
    rw [List.filter_append, distinctBy_concat]
    by_cases hx : p x = true
    · have hkeys : key x ∈ (xs.filter p).map key ↔ key x ∈ xs.map key := by
        simp only [List.mem_map, List.mem_filter]
        constructor
        · rintro ⟨y, ⟨hy, -⟩, hk⟩
          exact ⟨y, hy, hk⟩
        · rintro ⟨y, hy, hk⟩
          have hpy := hp y (List.mem_append_left _ hy) x (by simp) hk
          exact ⟨y, ⟨hy, hpy.trans hx⟩, hk⟩
      have hone : [x].filter p = [x] := by simp [hx]
      rw [hone, distinctBy_concat, ih]
      simp only [hkeys]
      split
      · rfl
      · rw [List.filter_append, hone]
    · have hn : [x].filter p = [] := by simp [hx]
      rw [hn, List.append_nil, ih]
      split
      · rfl
      · rw [List.filter_append, hn, List.append_nil]

/-! ### Reordered lists -/

/-- What is kept has different keys. -/
theorem nodup_distinctBy (xs : List α) : ((distinctBy key xs).map key).Nodup := by
  induction xs using List.reverseRecOn with
  | nil => exact List.nodup_nil
  | append_singleton xs x ih =>
    rw [distinctBy_concat]
    split
    · exact ih
    · next hx =>
      rw [List.map_append, List.map_singleton]
      refine List.Nodup.append ih (List.nodup_singleton _) ?_
      rw [List.disjoint_singleton]
      intro hm
      obtain ⟨y, hy, hk⟩ := List.mem_map.mp hm
      exact hx (List.mem_map.mpr ⟨y, mem_of_mem_distinctBy key hy, hk⟩)

/-- Lists of the same entries, each decided by its key, keep the same entries. -/
theorem distinctBy_perm (hmem : ∀ x, x ∈ xs ↔ x ∈ ys)
    (hkey : ∀ x ∈ xs, ∀ y ∈ xs, key x = key y → x = y) :
    (distinctBy key xs).Perm (distinctBy key ys) := by
  have hkept {zs : List α} (hkey : ∀ x ∈ zs, ∀ y ∈ zs, key x = key y → x = y) (x : α) :
      x ∈ distinctBy key zs ↔ x ∈ zs := by
    refine ⟨mem_of_mem_distinctBy key, fun hx => ?_⟩
    obtain ⟨y, hy, hyx⟩ := exists_mem_distinctBy key hx
    rwa [← hkey y (mem_of_mem_distinctBy key hy) x hx hyx]
  have hkey' : ∀ x ∈ ys, ∀ y ∈ ys, key x = key y → x = y := by
    simp only [← hmem]
    exact hkey
  rw [List.perm_ext_iff_of_nodup (nodup_distinctBy key xs).of_map (nodup_distinctBy key ys).of_map]
  intro x
  rw [hkept hkey, hkept hkey', hmem]

private theorem distinctFrom_congr {seen seen' : List κ} (h : ∀ k, k ∈ seen ↔ k ∈ seen')
    (xs : List α) : distinctFrom key seen xs = distinctFrom key seen' xs := by
  induction xs generalizing seen seen' with
  | nil => rfl
  | cons x xs ih =>
    have hcons : ∀ k, k ∈ key x :: seen ↔ k ∈ key x :: seen' := by
      simp [h]
    simp only [distinctFrom, h, ih h, ih hcons]

private theorem distinctFrom_append (seen : List κ) (xs ys : List α) :
    distinctFrom key seen (xs ++ ys) =
      distinctFrom key seen xs ++ distinctFrom key (xs.map key ++ seen) ys := by
  induction xs generalizing seen with
  | nil => rfl
  | cons x xs ih =>
    simp only [List.cons_append, distinctFrom, List.map_cons]
    split
    · next hx =>
      rw [ih]
      congr 1
      apply distinctFrom_congr
      simp only [List.mem_cons, List.mem_append]
      grind
    · rw [ih, List.cons_append]
      congr 2
      apply distinctFrom_congr
      simp only [List.mem_cons, List.mem_append]
      grind

/-- A list with different keys is kept whole before what is kept of another. -/
theorem exists_distinctBy_append (hx : (xs.map key).Nodup) (ys : List α) :
    ∃ kept, distinctBy key (xs ++ ys) = xs ++ kept := by
  have hxs : distinctFrom key [] xs = xs := distinctBy_eq_self key hx
  unfold distinctBy
  rw [distinctFrom_append, hxs]
  exact ⟨_, rfl⟩

/-- Selecting from the first list before does not matter. -/
theorem distinctBy_append_left (xs ys : List α) :
    distinctBy key (distinctBy key xs ++ ys) = distinctBy key (xs ++ ys) := by
  have hkeys : ∀ k, k ∈ (distinctFrom key [] xs).map key ++ [] ↔ k ∈ xs.map key ++ [] := by
    intro k
    simp only [List.append_nil, List.mem_map]
    constructor
    · rintro ⟨x, hx, hk⟩
      exact ⟨x, mem_of_mem_distinctBy key hx, hk⟩
    · rintro ⟨x, hx, rfl⟩
      exact exists_mem_distinctBy key hx
  have hself : distinctFrom key [] (distinctFrom key [] xs) = distinctFrom key [] xs :=
    distinctBy_eq_self key (nodup_distinctBy key xs)
  unfold distinctBy
  rw [distinctFrom_append, distinctFrom_append, hself, distinctFrom_congr key hkeys]

/-- What is kept of a list behind a kept one does not depend on the order of the first. -/
theorem distinctBy_append_perm (h : xs.Perm ys) (hx : (xs.map key).Nodup) (zs : List α) :
    (distinctBy key (xs ++ zs)).Perm (distinctBy key (ys ++ zs)) := by
  have hy : (ys.map key).Nodup := (h.map key).nodup_iff.mp hx
  have hseen : ∀ k, k ∈ xs.map key ++ [] ↔ k ∈ ys.map key ++ [] := by
    intro k
    rw [List.append_nil, List.append_nil, (h.map key).mem_iff]
  have hxs : distinctFrom key [] xs = xs := distinctBy_eq_self key hx
  have hys : distinctFrom key [] ys = ys := distinctBy_eq_self key hy
  unfold distinctBy
  rw [distinctFrom_append, distinctFrom_append, hxs, hys, distinctFrom_congr key hseen]
  exact h.append_right _

end OpenTrader.Base
