import Mathlib.Data.List.Induction
import Mathlib.Data.List.Sort

/-!
# Keyed writes

Library `Base`. Values written one after the other, each under its key. What stands under a key is
the last write to it, so replaying writes that were made before does no harm as long as the later
ones follow, and a stable sort by key changes nothing.
-/

namespace OpenTrader.Base

variable {K V : Type} [DecidableEq K] {f g : K → V} {ws : List (K × V)} {k : K}

/-- Write values one after the other, each under its key. -/
def writeAll (f : K → V) (ws : List (K × V)) : K → V :=
  ws.foldl (fun f w => Function.update f w.1 w.2) f

@[simp] theorem writeAll_nil (f : K → V) : writeAll f [] = f := rfl

@[simp] theorem writeAll_cons (f : K → V) (w : K × V) (ws : List (K × V)) :
    writeAll f (w :: ws) = writeAll (Function.update f w.1 w.2) ws := rfl

theorem writeAll_append (f : K → V) (ws more : List (K × V)) :
    writeAll f (ws ++ more) = writeAll (writeAll f ws) more := by
  simp [writeAll]

/-- A key that is not written keeps its value. -/
theorem writeAll_of_notMem (h : k ∉ ws.map Prod.fst) : writeAll f ws k = f k := by
  induction ws generalizing f with
  | nil => rfl
  | cons w ws ih =>
    rw [List.map_cons, List.mem_cons, not_or] at h
    rw [writeAll_cons, ih h.2, Function.update_of_ne h.1]

/-- A key that is written holds one of its writes. -/
theorem mem_of_writeAll (h : k ∈ ws.map Prod.fst) : (k, writeAll f ws k) ∈ ws := by
  induction ws generalizing f with
  | nil => cases h
  | cons w ws ih =>
    rw [writeAll_cons]
    by_cases hk : k ∈ ws.map Prod.fst
    · exact List.mem_cons_of_mem w (ih hk)
    · have hw : k = w.1 := (List.mem_cons.mp h).resolve_right hk
      rw [writeAll_of_notMem hk, hw, Function.update_self]
      exact List.mem_cons_self

/-- Writes of the values of `g` make `g` when all keys that are not written have them already. -/
theorem writeAll_eq_of_forall (hwritten : ∀ w ∈ ws, w.2 = g w.1)
    (hrest : ∀ k, k ∉ ws.map Prod.fst → f k = g k) : writeAll f ws = g := by
  funext k
  by_cases hk : k ∈ ws.map Prod.fst
  · exact hwritten _ (mem_of_writeAll hk)
  · rw [writeAll_of_notMem hk, hrest k hk]

/-- A key that is written holds its last write, whatever it held before. -/
theorem writeAll_congr (h : k ∈ ws.map Prod.fst ∨ f k = g k) :
    writeAll f ws k = writeAll g ws k := by
  induction ws generalizing f g with
  | nil =>
    rcases h with h | h
    · cases h
    · exact h
  | cons w ws ih =>
    rw [writeAll_cons, writeAll_cons]
    apply ih
    by_cases hw : k = w.1
    · right
      rw [hw, Function.update_self, Function.update_self]
    · rw [Function.update_of_ne hw, Function.update_of_ne hw]
      simpa [hw] using h

/-- Writes `ys` that were made before can be made again if all that follows them is written too. -/
theorem writeAll_replay (f : K → V) (xs ys zs : List (K × V)) :
    writeAll (writeAll f (xs ++ ys)) (ys ++ zs) = writeAll f (xs ++ (ys ++ zs)) := by
  funext k
  rw [writeAll_append f xs (ys ++ zs)]
  apply writeAll_congr
  by_cases hk : k ∈ (ys ++ zs).map Prod.fst
  · exact .inl hk
  · right
    rw [writeAll_append]
    apply writeAll_of_notMem
    intro hys
    rw [List.map_append, List.mem_append, not_or] at hk
    exact hk.1 hys

/-- What stands under a key in the end is the last write to it. -/
theorem writeAll_eq_getLast? (f : K → V) (ws : List (K × V)) (k : K) :
    writeAll f ws k = (((ws.filter (·.1 = k)).getLast?).map Prod.snd).getD (f k) := by
  induction ws using List.reverseRecOn with
  | nil => rfl
  | append_singleton ws w ih =>
    rw [writeAll_append, writeAll_cons, writeAll_nil, List.filter_append]
    by_cases hw : w.1 = k
    · rw [List.filter_cons_of_pos (by simpa using hw), List.filter_nil, List.getLast?_concat, ← hw,
        Function.update_self]
      rfl
    · rw [List.filter_cons_of_neg (by simpa using hw), List.filter_nil, List.append_nil, ← ih,
        Function.update_of_ne (Ne.symm hw)]

/-- Only the writes to a key matter for it. -/
theorem writeAll_filter (f : K → V) (ws : List (K × V)) (k : K) :
    writeAll f (ws.filter (·.1 = k)) k = writeAll f ws k := by
  rw [writeAll_eq_getLast?, writeAll_eq_getLast?, List.filter_filter]
  simp only [Bool.and_self]

/-- A stable sort keeps the entries that are sorted alike in their order. -/
theorem filter_insertionSort {α : Type} {r : α → α → Prop} [DecidableRel r] [Std.Total r]
    [IsTrans α r] {p : α → Bool} (hp : ∀ a b, p a → p b → r a b) (l : List α) :
    (l.insertionSort r).filter p = l.filter p := by
  have hsorted : (l.filter p).Pairwise r := by
    apply List.Pairwise.imp_of_mem (R := fun _ _ => True)
    · intro a b ha hb _
      exact hp a b (List.of_mem_filter ha) (List.of_mem_filter hb)
    · exact List.pairwise_of_forall fun _ _ => trivial
  have hsublist := (List.sublist_insertionSort hsorted List.filter_sublist).filter p
  simp only [List.filter_filter, Bool.and_self] at hsublist
  exact (hsublist.eq_of_length ((List.perm_insertionSort r l).filter p).length_eq.symm).symm

end OpenTrader.Base
