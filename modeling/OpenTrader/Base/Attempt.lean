import Mathlib.Data.List.TakeWhile
import OpenTrader.Base.Fallible

/-!
# Programs that make calls

Library `Base`. A program makes calls to the outside in turn and stops at the first one that
raises. It leaves behind the calls that returned, in order, and its result. The calls are data, so
a statement can range over every choice of calls that raise.
-/

namespace OpenTrader.Base

variable {κ ε δ α β : Type}

/-- The calls a program has made, and how it ended. -/
structure Attempt (κ ε α : Type) where
  made : List κ
  result : Except ε α

namespace Attempt

instance : Monad (Attempt κ ε) where
  pure a := ⟨[], .ok a⟩
  bind x f :=
    match x.result with
    | .error e => ⟨x.made, .error e⟩
    | .ok a => ⟨x.made ++ (f a).made, (f a).result⟩

/-- A computation that makes no call. -/
def ofExcept (x : Except ε α) : Attempt κ ε α := ⟨[], x⟩

/-- A computation that has a result hands it on. -/
@[simp] theorem ofExcept_ok_bind (a : α) (f : α → Attempt κ ε β) :
    (ofExcept (.ok a) >>= f) = f a := rfl

/-- A computation that fails ends the program. -/
@[simp] theorem ofExcept_error_bind (e : ε) (f : α → Attempt κ ε β) :
    (ofExcept (.error e) >>= f) = ofExcept (.error e) := rfl

/-- The calls in turn, up to the first that raises. -/
def callAll (raises : κ → Bool) (error : κ → ε) (calls : List κ) : Attempt κ ε Unit where
  made := calls.takeWhile (!raises ·)
  result :=
    match calls.find? raises with
    | some call => .error (error call)
    | none => .ok ()

section

variable (raises : κ → Bool) (error : κ → ε) (before after : List κ)

/-- The calls of a second group are made only when none of the first raises. -/
theorem made_callAll_append :
    (callAll raises error (before ++ after)).made =
      if ∀ call ∈ before, raises call = false then
        before ++ (callAll raises error after).made
      else (callAll raises error before).made := by
  induction before with
  | nil => simp [callAll]
  | cons call calls ih =>
    by_cases h : raises call = true
    · simp [callAll, h]
    · simp only [callAll] at ih
      simp only [callAll, List.cons_append, List.takeWhile_cons, h, Bool.not_false, if_true, ih,
        List.forall_mem_cons, true_and]
      split <;> rfl

/-- Two groups of calls in turn are one group. -/
theorem callAll_bind_callAll_bind (f : Unit → Attempt κ ε β) :
    (callAll raises error before >>= fun _ => callAll raises error after >>= f) =
      (callAll raises error (before ++ after) >>= f) := by
  have hmade := made_callAll_append raises error before after
  cases hfind : before.find? raises with
  | none =>
    have hn : ∀ call ∈ before, raises call = false := by simpa using hfind
    have hself : before.takeWhile (!raises ·) = before := by
      rw [List.takeWhile_eq_self_iff]
      simpa using hn
    rw [if_pos hn] at hmade
    simp only [callAll] at hmade
    simp only [bind, callAll, hfind, List.find?_append, Option.none_or, hself, hmade]
    cases after.find? raises <;> simp
  | some call =>
    have hraises : ¬ ∀ call ∈ before, raises call = false := by
      intro hn
      have hfalse := hn call (List.mem_of_find?_eq_some hfind)
      rw [List.find?_some hfind] at hfalse
      cases hfalse
    rw [if_neg hraises] at hmade
    simp only [callAll] at hmade
    simp only [bind, callAll, hfind, List.find?_append, Option.some_or, hmade]

/-- A program that only has to return leaves the calls as they are. -/
theorem callAll_bind_pure (b : β) :
    (callAll raises error before >>= fun _ => pure b) =
      ⟨(callAll raises error before).made,
        (callAll raises error before).result.map fun _ => b⟩ := by
  cases hfind : before.find? raises <;> simp [bind, pure, callAll, hfind, Except.map]

/-- Calls of which none raises are all made. -/
theorem callAll_of_forall (h : ∀ call ∈ before, raises call = false) :
    callAll raises error before = ⟨before, .ok ()⟩ := by
  have hn : before.find? raises = none := by simpa using h
  have hself : before.takeWhile (!raises ·) = before := by
    rw [List.takeWhile_eq_self_iff]
    simpa using h
  rw [callAll, hn, hself]

/-- Calls return only when none of them raises. -/
theorem forall_of_callAll_eq_ok (h : (callAll raises error before).result = .ok ()) :
    ∀ call ∈ before, raises call = false := by
  cases hfind : before.find? raises with
  | none => simpa using hfind
  | some call =>
    simp only [callAll, hfind] at h
    cases h

/-- Calls of which none raises leave the result to the rest of the program. -/
theorem result_callAll_bind (f : Unit → Attempt κ ε β) (h : ∀ call ∈ before, raises call = false) :
    (callAll raises error before >>= f).result = (f ()).result := by
  have hn : before.find? raises = none := by simpa using h
  simp only [bind, callAll, hn]

/-- Calls fail exactly when one of them raises. -/
theorem callAll_eq_error_iff :
    (∃ e, (callAll raises error before).result = .error e) ↔
      ∃ call ∈ before, raises call = true := by
  cases hfind : before.find? raises with
  | none =>
    have hn := List.find?_eq_none.mp hfind
    simp only [callAll, hfind]
    constructor
    · rintro ⟨e, ⟨⟩⟩
    · rintro ⟨call, hcall, hraises⟩
      exact absurd hraises (hn call hcall)
  | some call =>
    simp only [callAll, hfind]
    exact iff_of_true ⟨_, rfl⟩ ⟨call, List.mem_of_find?_eq_some hfind, List.find?_some hfind⟩

end

/-! ### Programs that are tried in turn -/

/-- The program with its error told in another way. -/
def mapError (f : ε → δ) (x : Attempt κ ε α) : Attempt κ δ α := ⟨x.made, x.result.mapError f⟩

/-- The program, and after an error the one that handles it. The calls made stay made. -/
def recover (x : Attempt κ ε α) (handler : ε → Attempt κ δ α) : Attempt κ δ α :=
  match x.result with
  | .ok a => ⟨x.made, .ok a⟩
  | .error e => ⟨x.made ++ (handler e).made, (handler e).result⟩

/-- The programs in turn, up to the first that returns. -/
def firstOk : List (Attempt κ ε α) → Attempt κ (List ε) α
  | [] => ofExcept (.error [])
  | x :: xs => x.recover fun e => (firstOk xs).mapError (e :: ·)

/-- The program ends with an error. -/
def fails (x : Attempt κ ε α) : Bool :=
  match x.result with
  | .ok _ => false
  | .error _ => true

/-- A program that returns does not fail. -/
theorem fails_of_ok {x : Attempt κ ε α} {a : α} (h : x.result = .ok a) : x.fails = false := by
  simp only [fails, h]

/-- Calls fail when one of them raises. -/
theorem fails_callAll (raises : κ → Bool) (error : κ → ε) (calls : List κ) :
    (callAll raises error calls).fails = calls.any raises := by
  rw [Bool.eq_iff_iff, List.any_eq_true, ← callAll_eq_error_iff raises error, fails]
  cases (callAll raises error calls).result <;> simp

/-- Telling the error in another way does not change who fails. -/
@[simp] theorem fails_mapError (f : ε → δ) (x : Attempt κ ε α) :
    (x.mapError f).fails = x.fails := by
  obtain ⟨made, result⟩ := x
  cases result <;> rfl

/-- The calls of the programs that fail before the first one that returns. -/
def failures (xs : List (Attempt κ ε α)) : List κ := (xs.takeWhile fails).flatMap made

section

variable {xs : List (Attempt κ ε α)} (ys : List (Attempt κ ε α))

/-- Programs after ones that all fail are tried too. -/
theorem failures_append_of_fails (h : ∀ x ∈ xs, x.fails = true) :
    failures (xs ++ ys) = failures xs ++ failures ys := by
  rw [failures, List.takeWhile_append_of_pos h, List.flatMap_append, failures, failures,
    List.takeWhile_eq_self_iff.mpr h]

/-- Programs after one that returns are not tried. -/
theorem failures_append_of_ok {x : Attempt κ ε α} (hx : x ∈ xs) (h : x.fails = false) :
    failures (xs ++ ys) = failures xs := by
  have hlen : (xs.takeWhile fails).length ≠ xs.length := by
    intro hlen
    have hall := (List.takeWhile_prefix fails (l := xs)).eq_of_length hlen
    rw [List.takeWhile_eq_self_iff.mp hall x hx] at h
    cases h
  rw [failures, failures, List.takeWhile_append, if_neg hlen]

end

/-- How programs in turn end: one of them returns, or they all fail and calls of `after` follow. -/
inductive TriesInTurn (xs : List (Attempt κ ε α)) (after : List κ → Prop) :
    Attempt κ δ α → Prop where
  | returned {x : Attempt κ ε α} {a : α} (hx : x ∈ xs) (ha : x.result = .ok a) :
      TriesInTurn xs after ⟨failures xs ++ x.made, .ok a⟩
  | exhausted {last : List κ} {e : δ} (hfails : ∀ x ∈ xs, x.fails = true) (hlast : after last) :
      TriesInTurn xs after ⟨failures xs ++ last, .error e⟩

namespace TriesInTurn

variable {xs ys : List (Attempt κ ε α)} {after : List κ → Prop}

/-- Another error leaves the calls as they are. -/
theorem mapError {ε' : Type} {y : Attempt κ δ α} (h : TriesInTurn xs after y) (f : δ → ε') :
    TriesInTurn xs after (y.mapError f) := by
  cases h with
  | returned hx ha => exact .returned hx ha
  | exhausted hfails hlast => exact .exhausted hfails hlast

/-- Programs handled by more programs are all of them in turn. -/
theorem recover {ε' : Type} {y : Attempt κ δ α} {handler : δ → Attempt κ ε' α}
    (h : TriesInTurn xs (· = []) y) (hhandler : ∀ e, TriesInTurn ys after (handler e)) :
    TriesInTurn (xs ++ ys) after (y.recover handler) := by
  cases h with
  | @returned x a hx ha =>
    have hmade := failures_append_of_ok ys hx (fails_of_ok ha)
    rw [Attempt.recover, ← hmade]
    exact .returned (List.mem_append_left ys hx) ha
  | @exhausted last e hfails hlast =>
    have hmade := failures_append_of_fails ys hfails
    have hnext := hhandler e
    subst hlast
    have hrecover : (⟨failures xs ++ [], .error e⟩ : Attempt κ δ α).recover handler =
        ⟨failures xs ++ (handler e).made, (handler e).result⟩ := by
      rw [List.append_nil]
      rfl
    rw [hrecover]
    generalize handler e = z at hnext
    cases hnext with
    | @returned x a hx ha =>
      rw [← List.append_assoc, ← hmade]
      exact .returned (List.mem_append_right xs hx) ha
    | exhausted hfails' hlast' =>
      rw [← List.append_assoc, ← hmade]
      exact .exhausted (List.forall_mem_append.mpr ⟨hfails, hfails'⟩) hlast'

/-- One program is tried by itself. -/
theorem single (x : Attempt κ ε α) : TriesInTurn [x] (· = []) x := by
  obtain ⟨made, result⟩ := x
  cases result with
  | ok a => exact .returned (List.mem_singleton_self _) rfl
  | error e =>
    have hmade : failures [(⟨made, .error e⟩ : Attempt κ ε α)] ++ [] = made := by
      simp [failures, fails, List.takeWhile]
    have hfails : ∀ x ∈ [(⟨made, .error e⟩ : Attempt κ ε α)], x.fails = true := by simp [fails]
    have htried : TriesInTurn _ (· = []) (⟨_, .error e⟩ : Attempt κ ε α) := .exhausted hfails rfl
    rwa [hmade] at htried

/-- The first of the programs that returns is found in turn. -/
theorem firstOk (xs : List (Attempt κ ε α)) : TriesInTurn xs (· = []) (firstOk xs) := by
  induction xs with
  | nil => exact .exhausted (by simp) rfl
  | cons x xs ih => exact (single x).recover fun e => ih.mapError _

end TriesInTurn

end Attempt

end OpenTrader.Base
