import Mathlib.Algebra.Order.BigOperators.Group.List
import Mathlib.Tactic.Abel
import OpenTrader.Base.Trace

/-!
# Calls that run concurrently

Library `Base`. Any number of calls over one store. A move names the call that takes its next step;
the step reads and changes the store and that call only. The rules below carry over from one step to
every interleaving, and say what a round does, in which every call takes one step.
-/

namespace OpenTrader.Base

variable {σ π ι : Type}

/-- One store, and where each of the calls over it is. -/
structure Calls (σ π : Type) where
  store : σ
  calls : List π

namespace Calls

/-- The next step of the call `m.1`; no call is there for a number out of range. -/
def step (act : σ → π → ι → σ × π) (s : Calls σ π) (m : ℕ × ι) : Calls σ π :=
  match s.calls[m.1]? with
  | none => s
  | some call => ⟨(act s.store call m.2).1, s.calls.set m.1 (act s.store call m.2).2⟩

/-- Every call takes one step, in the order of the calls. -/
def round (act : σ → π → ι → σ × π) (x : ι) : σ → List π → Calls σ π
  | store, [] => ⟨store, []⟩
  | store, call :: calls =>
    let rest := round act x (act store call x).1 calls
    ⟨rest.store, (act store call x).2 :: rest.calls⟩

/-- The moves of rounds of `n` calls, one round for each input. -/
def roundMoves (n : ℕ) (xs : List ι) : List (ℕ × ι) :=
  xs.flatMap fun x => (List.range' 0 n).map (·, x)

variable {act : σ → π → ι → σ × π} {rel : π → π → Prop}

/-! ### Every interleaving -/

variable {first calls : List π} {xs : List ι} {n : ℕ} {x : ι} {store : σ}

private theorem forall₂_set (h : List.Forall₂ rel first calls) {i : ℕ} {call call' : π}
    (hi : calls[i]? = some call) (hcall : ∀ origin, rel origin call → rel origin call') :
    List.Forall₂ rel first (calls.set i call') := by
  induction h generalizing i with
  | nil => simp at hi
  | cons hhead htail ih =>
    cases i with
    | zero =>
      cases hi
      exact .cons (hcall _ hhead) htail
    | succ i => exact .cons hhead (ih hi)

/-- What every step keeps, of the store and between a call and where it started, holds throughout
every interleaving. -/
theorem throughout_related (dom : ι → Prop) (inv : σ → Prop) (rel : π → π → Prop)
    (hact : ∀ store origin call x, dom x → inv store → rel origin call →
      inv (act store call x).1 ∧ rel origin (act store call x).2)
    {s : Calls σ π} {moves : List (ℕ × ι)} (hdom : ∀ m ∈ moves, dom m.2) (hinv : inv s.store)
    (hrel : ∀ call ∈ s.calls, rel call call) :
    Throughout (step act) (fun s' => inv s'.store ∧ List.Forall₂ rel s.calls s'.calls) s moves := by
  have hkeep : ∀ (s' : Calls σ π) (m : ℕ × ι),
      (inv s'.store ∧ List.Forall₂ rel s.calls s'.calls) → dom m.2 →
        inv (step act s' m).store ∧ List.Forall₂ rel s.calls (step act s' m).calls := by
    intro s' m ⟨hinv, hcalls⟩ hx
    unfold step
    split
    · exact ⟨hinv, hcalls⟩
    · next call hcall =>
      obtain ⟨origin, -, horigin⟩ : ∃ origin ∈ s.calls, rel origin call := by
        obtain ⟨hi, rfl⟩ := List.getElem?_eq_some_iff.mp hcall
        have hi' : m.1 < s.calls.length := hcalls.length_eq ▸ hi
        exact ⟨s.calls[m.1], List.getElem_mem hi', hcalls.get hi' hi⟩
      refine ⟨(hact s'.store origin call m.2 hx hinv horigin).1, forall₂_set hcalls hcall ?_⟩
      intro origin horigin
      exact (hact s'.store origin call m.2 hx hinv horigin).2
  exact throughout_of_along hkeep ⟨hinv, List.forall₂_same.mpr hrel⟩ (along_input_iff.mpr hdom)

/-- A quantity of the store that every step moves by as much as its call's share of it is, in every
state, what it was before plus the shares. -/
theorem throughout_eq_sum {M : Type} [AddCommGroup M] (level : σ → M) (share : π → M)
    (hact : ∀ store call x, level (act store call x).1 - share (act store call x).2 =
      level store - share call)
    (s : Calls σ π) (moves : List (ℕ × ι)) :
    Throughout (step act) (fun s' => level s'.store - (s'.calls.map share).sum =
      level s.store - (s.calls.map share).sum) s moves := by
  refine throughout_of_step (fun s' m h => ?_) moves rfl
  rw [← h]
  unfold step
  split
  · rfl
  · next call hcall =>
    obtain ⟨hi, rfl⟩ := List.getElem?_eq_some_iff.mp hcall
    have hshare := hact s'.store s'.calls[m.1] m.2
    dsimp only
    rw [List.map_set, List.sum_set', dif_pos (by rwa [List.length_map]), List.getElem_map,
      sub_eq_iff_eq_add.mp hshare]
    abel

/-- The shares of the calls add up to no more than the bounds of where they started. -/
theorem sum_map_le_sum_map {M : Type} [AddMonoid M] [Preorder M] [AddLeftMono M] [AddRightMono M]
    {share bound : π → M} (h : List.Forall₂ rel first calls)
    (hle : ∀ origin call, rel origin call → share call ≤ bound origin) :
    (calls.map share).sum ≤ (first.map bound).sum := by
  refine List.Forall₂.sum_le_sum ?_
  rw [List.forall₂_map_left_iff, List.forall₂_map_right_iff]
  exact h.flip.imp fun call origin hrel => hle origin call hrel

/-- A partial view of the calls shows no more than the view of where they started, when a call shows
nothing or what its start shows. -/
theorem filterMap_sublist {α : Type} {f g : π → Option α} (h : List.Forall₂ rel first calls)
    (hview : ∀ origin call, rel origin call → g call = none ∨ g call = f origin) :
    (calls.filterMap g).Sublist (first.filterMap f) := by
  induction h with
  | nil => exact List.Sublist.refl _
  | @cons origin call first calls hhead htail ih =>
    rw [List.filterMap_cons, List.filterMap_cons]
    rcases hview origin call hhead with hn | heq
    · rw [hn]
      cases f origin with
      | none => exact ih
      | some a => exact ih.cons a
    · rw [heq]
      cases f origin with
      | none => exact ih
      | some a => exact ih.cons_cons a

/-- A call by itself takes its steps one after the other. -/
theorem run_replicate_single (act : σ → π → ι → σ × π) (x : ι) (n : ℕ) (store : σ) (call : π) :
    run (step act) ⟨store, [call]⟩ (List.replicate n (0, x)) =
      ⟨((fun s => act s.1 s.2 x)^[n] (store, call)).1,
        [((fun s => act s.1 s.2 x)^[n] (store, call)).2]⟩ := by
  induction n generalizing store call with
  | zero => rfl
  | succ n ih =>
    have hstep : step act ⟨store, [call]⟩ (0, x) =
        ⟨(act store call x).1, [(act store call x).2]⟩ := rfl
    rw [List.replicate_succ, run_cons, hstep, ih, Function.iterate_succ_apply]

/-! ### Rounds -/

private theorem run_round_from (x : ι) (store : σ) (before after : List π) :
    run (step act) ⟨store, before ++ after⟩ ((List.range' before.length after.length).map (·, x)) =
      ⟨(round act x store after).store, before ++ (round act x store after).calls⟩ := by
  induction after generalizing store before with
  | nil => simp [round]
  | cons call after ih =>
    have hstep : step act ⟨store, before ++ call :: after⟩ (before.length, x) =
        ⟨(act store call x).1, (before ++ [(act store call x).2]) ++ after⟩ := by
      simp [step]
    rw [List.length_cons, List.range'_succ, List.map_cons, run_cons, hstep, round]
    have hrest := ih (act store call x).1 (before ++ [(act store call x).2])
    rw [List.length_append, List.length_singleton] at hrest
    rw [hrest, List.append_assoc, List.singleton_append]

/-- A round loses no call. -/
theorem length_round (x : ι) (store : σ) (calls : List π) :
    (round act x store calls).calls.length = calls.length := by
  induction calls generalizing store with
  | nil => rfl
  | cons call calls ih => rw [round, List.length_cons, List.length_cons, ih]

/-- The moves of rounds give one round after the other. -/
theorem run_roundMoves (xs : List ι) (s : Calls σ π) :
    run (step act) s (roundMoves s.calls.length xs) =
      xs.foldl (fun s x => round act x s.store s.calls) s := by
  induction xs generalizing s with
  | nil => rfl
  | cons x xs ih =>
    have hround : run (step act) s ((List.range' 0 s.calls.length).map (·, x)) =
        round act x s.store s.calls := run_round_from x s.store [] s.calls
    rw [roundMoves, List.flatMap_cons, run_append, hround, List.foldl_cons, ← ih, length_round]
    rfl

/-- The inputs of rounds are related in the order of the moves when they are in the order of the
rounds. -/
theorem pairwise_roundMoves {r : ι → ι → Prop} (hself : ∀ x, r x x) (h : xs.Pairwise r) :
    (roundMoves n xs).Pairwise fun m m' => r m.2 m'.2 := by
  rw [roundMoves, List.pairwise_flatMap]
  constructor
  · intro x _
    rw [List.pairwise_map]
    exact List.pairwise_of_forall fun _ _ => hself x
  · refine h.imp fun hxy m hm m' hm' => ?_
    obtain ⟨_, _, rfl⟩ := List.mem_map.mp hm
    obtain ⟨_, _, rfl⟩ := List.mem_map.mp hm'
    exact hxy

/-- The inputs of the moves are those of the rounds. -/
theorem mem_of_mem_roundMoves {m : ℕ × ι} (h : m ∈ roundMoves n xs) : m.2 ∈ xs := by
  obtain ⟨x, hx, hm⟩ := List.mem_flatMap.mp h
  obtain ⟨_, _, rfl⟩ := List.mem_map.mp hm
  exact hx

/-- A round whose steps leave the store as it is takes each call from where `start` puts it to where
`stop` does. -/
theorem round_map_of_fixed {α : Type} {start stop : α → π}
    (hact : ∀ a, act store (start a) x = (store, stop a)) (as : List α) :
    round act x store (as.map start) = ⟨store, as.map stop⟩ := by
  induction as with
  | nil => rfl
  | cons a as ih => rw [List.map_cons, round, hact, ih, List.map_cons]

/-- A round takes the calls from where `start` puts them to where `stop` does, when each of its
steps does so in every store that keeps `inv`. -/
theorem round_map {α : Type} (inv : σ → Prop) (start stop : α → π) {as : List α}
    (hact : ∀ store, inv store → ∀ a ∈ as,
      inv (act store (start a) x).1 ∧ (act store (start a) x).2 = stop a)
    (hinv : inv store) :
    inv (round act x store (as.map start)).store ∧
      (round act x store (as.map start)).calls = as.map stop := by
  induction as generalizing store with
  | nil => exact ⟨hinv, rfl⟩
  | cons a as ih =>
    obtain ⟨hnext, hcall⟩ := hact store hinv a List.mem_cons_self
    obtain ⟨hrest, hcalls⟩ :=
      ih (fun store h b hb => hact store h b (List.mem_cons_of_mem a hb)) hnext
    exact ⟨hrest, by rw [List.map_cons, round, List.map_cons, hcall, hcalls]⟩

end Calls

end OpenTrader.Base
