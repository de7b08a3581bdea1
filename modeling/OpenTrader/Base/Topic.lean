import Mathlib.Data.List.Forall2

/-!
# Topic patterns

Library `Base`. A pattern is a list of tokens, two of which are wildcards: one stands for exactly
one token of a key, the other for any number of them. The matcher tries every length for the latter;
it decides whether the key splits into pieces that the tokens of the pattern cover.
-/

namespace OpenTrader.Base.Topic

variable {α : Type} [DecidableEq α] (one many : α)

/-- The piece of a key that a token of a pattern stands for. -/
def Covers (token : α) (piece : List α) : Prop :=
  if token = many then True
  else if token = one then piece.length = 1
  else piece = [token]

/-- The key splits into pieces that the tokens of the pattern cover, in order. -/
def Matches (pattern key : List α) : Prop :=
  ∃ pieces, List.Forall₂ (Covers one many) pattern pieces ∧ pieces.flatten = key

/-- The matcher. A final `many` needs no search. -/
def matchTokens : List α → List α → Bool
  | [], key => key.isEmpty
  | token :: pattern, key =>
    if token = many then
      if pattern = [] then true
      else (List.range (key.length + 1)).any fun idx => matchTokens pattern (key.drop idx)
    else
      match key with
      | [] => false
      | first :: rest => if token = one ∨ token = first then matchTokens pattern rest else false

variable {key pattern : List α} {token : α}

/-- The empty pattern matches the empty key. -/
theorem matches_nil_iff : Matches one many [] key ↔ key = [] := by
  simp [Matches, eq_comm]

/-- The first token covers the first piece. -/
theorem matches_cons_iff :
    Matches one many (token :: pattern) key ↔
      ∃ piece rest, key = piece ++ rest ∧ Covers one many token piece ∧
        Matches one many pattern rest := by
  unfold Matches
  constructor
  · rintro ⟨pieces, hpieces, rfl⟩
    obtain ⟨piece, tail, hpiece, htail, rfl⟩ := List.forall₂_cons_left_iff.mp hpieces
    exact ⟨piece, tail.flatten, rfl, hpiece, tail, htail, rfl⟩
  · rintro ⟨piece, rest, rfl, hpiece, tail, htail, rfl⟩
    exact ⟨piece :: tail, .cons hpiece htail, rfl⟩

private theorem matches_cons_of_ne (h : token ≠ many) :
    Matches one many (token :: pattern) key ↔
      ∃ first rest, key = first :: rest ∧ (token = one ∨ token = first) ∧
        Matches one many pattern rest := by
  rw [matches_cons_iff]
  constructor
  · rintro ⟨piece, rest, rfl, hpiece, hrest⟩
    rw [Covers, if_neg h] at hpiece
    by_cases hone : token = one
    · rw [if_pos hone] at hpiece
      obtain ⟨first, rfl⟩ := List.length_eq_one_iff.mp hpiece
      exact ⟨first, rest, rfl, .inl hone, hrest⟩
    · rw [if_neg hone] at hpiece
      exact ⟨token, rest, by rw [hpiece]; rfl, .inr rfl, hrest⟩
  · rintro ⟨first, rest, rfl, htoken, hrest⟩
    refine ⟨[first], rest, rfl, ?_, hrest⟩
    rw [Covers, if_neg h]
    by_cases hone : token = one
    · rw [if_pos hone]
      rfl
    · rw [if_neg hone, htoken.resolve_left hone]

/-- The matcher decides whether the pattern matches. -/
theorem matchTokens_iff (pattern key : List α) :
    matchTokens one many pattern key = true ↔ Matches one many pattern key := by
  induction pattern generalizing key with
  | nil => rw [matches_nil_iff, matchTokens, List.isEmpty_iff]
  | cons token pattern ih =>
    by_cases hmany : token = many
    · unfold matchTokens
      rw [if_pos hmany, matches_cons_iff]
      have hcovers (piece : List α) : Covers one many token piece := by
        rw [Covers, if_pos hmany]
        trivial
      split
      · next hlast =>
        refine iff_of_true rfl ⟨key, [], (List.append_nil key).symm, hcovers key, ?_⟩
        rw [hlast, matches_nil_iff]
      · simp only [List.any_eq_true, List.mem_range, ih]
        constructor
        · rintro ⟨idx, -, hrest⟩
          exact ⟨key.take idx, key.drop idx, (List.take_append_drop idx key).symm, hcovers _, hrest⟩
        · rintro ⟨piece, rest, rfl, -, hrest⟩
          refine ⟨piece.length, ?_, by rwa [List.drop_left]⟩
          rw [List.length_append]
          omega
    · unfold matchTokens
      rw [matches_cons_of_ne one many hmany, if_neg hmany]
      cases key with
      | nil => simp
      | cons first rest =>
        by_cases htoken : token = one ∨ token = first
        · simp only [if_pos htoken, ih]
          constructor
          · exact fun hrest => ⟨first, rest, rfl, htoken, hrest⟩
          · rintro ⟨_, _, ⟨⟩, -, hrest⟩
            exact hrest
        · simp only [if_neg htoken]
          refine iff_of_false (by simp) ?_
          rintro ⟨_, _, ⟨⟩, htoken', -⟩
          exact htoken htoken'

end OpenTrader.Base.Topic
