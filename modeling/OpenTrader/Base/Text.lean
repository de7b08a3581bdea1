import Mathlib.Data.List.DropRight

/-!
# Text primitives of the service runtimes

Library `Base`. Trimming and case mapping as `str.strip`, `str.upper`, `str.lower`
(Python services) and `strings.TrimSpace` (the Go service) apply them to message
fields. The identifiers, sides, modes and statuses these services compare are ASCII,
so case mapping is the ASCII one; the two whitespace sets are the complete ones.
-/

namespace OpenTrader.Base

variable (c : Char) (p : Char → Bool) (cs : List Char) (s : String)

/-- Characters removed by Python's `str.strip`. -/
def isSpace : Bool :=
  let n := c.toNat
  decide (9 ≤ n ∧ n ≤ 13) || decide (28 ≤ n ∧ n ≤ 32) || n == 133 || n == 160 || n == 5760 ||
    decide (8192 ≤ n ∧ n ≤ 8202) || n == 8232 || n == 8233 || n == 8239 || n == 8287 || n == 12288

/-- Characters removed by Go's `strings.TrimSpace`, which keeps the four separators 28-31. -/
def isGoSpace : Bool := isSpace c && !decide (28 ≤ c.toNat ∧ c.toNat ≤ 31)

private def trimList : List Char := (cs.dropWhile p).rdropWhile p

/-- Remove the leading and trailing characters that satisfy `p`. -/
def trimBy : String := String.ofList (trimList p s.toList)

/-- Python `str.strip()`. -/
def strip : String := trimBy isSpace s

/-- Go `strings.TrimSpace`. -/
def trimSpace : String := trimBy isGoSpace s

/-- Python `str.upper()` and Go `strings.ToUpper` on ASCII text. -/
def upper : String := String.ofList (s.toList.map Char.toUpper)

/-- Python `str.lower()` on ASCII text. -/
def lower : String := String.ofList (s.toList.map Char.toLower)

/-- Python `part in text`. -/
def containsText (part text : String) : Bool :=
  text.toList.tails.any fun rest => part.toList.isPrefixOf rest

/-- Truthiness of an optional text, as in `if value:`. -/
def truthy (s : Option String) : Bool := s.any (· ≠ "")

/-- `_strip_or_none`; `services/workers/execution_lifecycle.py:827-833`. -/
def stripOrNone (value : Option String) : Option String :=
  match value with
  | none => none
  | some text => if strip text = "" then none else some (strip text)

private theorem trimList_trimList : trimList p (trimList p cs) = trimList p cs := by
  have hhead : (trimList p cs).dropWhile p = trimList p cs := by
    refine List.dropWhile_eq_self_iff.mpr fun hlength => ?_
    have hpre : trimList p cs <+: cs.dropWhile p := List.rdropWhile_prefix p _
    rw [hpre.getElem hlength]
    exact List.dropWhile_get_zero_not p cs (hlength.trans_le hpre.length_le)
  rw [trimList, hhead]
  exact List.rdropWhile_idempotent p _

/-- Trimming is idempotent. -/
theorem trimBy_trimBy : trimBy p (trimBy p s) = trimBy p s := by
  simp only [trimBy, String.toList_ofList, trimList_trimList]

/-- Stripping is idempotent. -/
@[simp] theorem strip_strip : strip (strip s) = strip s := trimBy_trimBy _ _

private theorem trimList_map (f : Char → Char) (hf : ∀ c, p (f c) = p c) (cs : List Char) :
    trimList p (cs.map f) = (trimList p cs).map f := by
  have hcomp : p ∘ f = p := funext hf
  simp only [trimList, List.rdropWhile, List.dropWhile_map, hcomp, ← List.map_reverse]

/-- A digit or a letter is no whitespace. -/
theorem isSpace_of_alphanumeric (h : 48 ≤ c.toNat ∧ c.toNat ≤ 122) : isSpace c = false := by
  have hs : ∀ n : Nat, 48 ≤ n ∧ n ≤ 122 → (decide (9 ≤ n ∧ n ≤ 13) || decide (28 ≤ n ∧ n ≤ 32) ||
      n == 133 || n == 160 || n == 5760 || decide (8192 ≤ n ∧ n ≤ 8202) || n == 8232 ||
      n == 8233 || n == 8239 || n == 8287 || n == 12288) = false := by
    intro n hn
    simp only [Bool.or_eq_false_iff, decide_eq_false_iff_not, beq_eq_false_iff_ne]
    omega
  exact hs c.toNat h

-- a case mapping leaves a character alone or moves it among the letters
private theorem isSpace_of_moved {c d : Char}
    (h : d = c ∨ (48 ≤ c.toNat ∧ c.toNat ≤ 122) ∧ 48 ≤ d.toNat ∧ d.toNat ≤ 122) :
    isSpace d = isSpace c ∧ isGoSpace d = isGoSpace c := by
  rcases h with rfl | ⟨hc, hd⟩
  · exact ⟨rfl, rfl⟩
  · simp only [isGoSpace, isSpace_of_alphanumeric c hc, isSpace_of_alphanumeric d hd,
      Bool.false_and, and_self]

private theorem toUpper_cases :
    (97 ≤ c.toNat ∧ c.toNat ≤ 122 ∧ c.toUpper.toNat + 32 = c.toNat) ∨
      ¬ (97 ≤ c.toNat ∧ c.toNat ≤ 122) ∧ c.toUpper = c := by
  unfold Char.toUpper
  split <;> grind [Char.toNat, UInt32.toNat_add, UInt32.le_iff_toNat_le]

private theorem isSpace_toUpper :
    isSpace c.toUpper = isSpace c ∧ isGoSpace c.toUpper = isGoSpace c := by
  rcases toUpper_cases c with h | ⟨-, hsame⟩
  · exact isSpace_of_moved (.inr (by omega))
  · exact isSpace_of_moved (.inl hsame)

/-- Case mapping keeps the surrounding whitespace in place. -/
theorem strip_upper : strip (upper s) = upper (strip s) := by
  simp only [strip, upper, trimBy, String.toList_ofList,
    trimList_map _ _ fun c => (isSpace_toUpper c).1]

/-- A stripped text stays stripped in upper case. -/
@[simp] theorem strip_upper_strip : strip (upper (strip s)) = upper (strip s) := by
  rw [strip_upper, strip_strip]

/-- What Go has trimmed stays trimmed in upper case. -/
@[simp] theorem trimSpace_upper_trimSpace :
    trimSpace (upper (trimSpace s)) = upper (trimSpace s) := by
  have hupper (t : String) : trimSpace (upper t) = upper (trimSpace t) := by
    simp only [trimSpace, upper, trimBy, String.toList_ofList,
      trimList_map _ _ fun c => (isSpace_toUpper c).2]
  rw [hupper]
  exact congrArg upper (trimBy_trimBy isGoSpace s)

private theorem toUpper_toUpper : c.toUpper.toUpper = c.toUpper := by
  rcases toUpper_cases c.toUpper with ⟨hlow, -, -⟩ | ⟨-, hsame⟩
  · rcases toUpper_cases c with ⟨-, hhigh, hmoved⟩ | ⟨-, hsame⟩
    · omega
    · rw [hsame, hsame]
  · exact hsame

/-- Case mapping is done once. -/
@[simp] theorem upper_upper : upper (upper s) = upper s := by
  simp only [upper, String.toList_ofList, List.map_map]
  congr 1
  exact List.map_congr_left fun c _ => toUpper_toUpper c

/-- Case mapping neither empties nor fills a text. -/
@[simp] theorem upper_eq_empty_iff : upper s = "" ↔ s = "" := by
  have hs : s = "" ↔ s.toList = [] := String.toList_inj.symm
  rw [hs, ← String.toList_inj, upper, String.toList_ofList]
  exact List.map_eq_nil_iff

private theorem toLower_cases :
    (65 ≤ c.toNat ∧ c.toNat ≤ 90 ∧ c.toLower.toNat = c.toNat + 32) ∨
      ¬ (65 ≤ c.toNat ∧ c.toNat ≤ 90) ∧ c.toLower = c := by
  unfold Char.toLower
  split <;> grind [Char.toNat, UInt32.toNat_add, UInt32.le_iff_toNat_le]

private theorem isSpace_toLower : isSpace c.toLower = isSpace c := by
  rcases toLower_cases c with h | ⟨-, hsame⟩
  · exact (isSpace_of_moved (.inr (by omega))).1
  · rw [hsame]

private theorem toLower_toLower : c.toLower.toLower = c.toLower := by
  rcases toLower_cases c.toLower with ⟨-, hhigh, -⟩ | ⟨-, hsame⟩
  · rcases toLower_cases c with ⟨hlow, -, hmoved⟩ | ⟨-, hsame⟩
    · omega
    · rw [hsame, hsame]
  · exact hsame

/-- A stripped text stays stripped in lower case. -/
@[simp] theorem strip_lower_strip : strip (lower (strip s)) = lower (strip s) := by
  have hstrip (t : String) : strip (lower t) = lower (strip t) := by
    simp only [strip, lower, trimBy, String.toList_ofList, trimList_map _ _ isSpace_toLower]
  rw [hstrip, strip_strip]

/-- Lower case is put in once. -/
@[simp] theorem lower_lower : lower (lower s) = lower s := by
  simp only [lower, String.toList_ofList, List.map_map]
  congr 1
  exact List.map_congr_left fun c _ => toLower_toLower c

private theorem trimList_eq_nil_iff : trimList p cs = [] ↔ ∀ c ∈ cs, p c := by
  rw [trimList, List.rdropWhile_eq_nil_iff, ← List.dropWhile_eq_nil_iff,
    List.dropWhile_idempotent, List.dropWhile_eq_nil_iff]

private theorem trimList_append {p : Char → Bool} {ds : List Char} (h : ∀ d ∈ ds, p d) :
    trimList p (cs ++ ds) = trimList p cs := by
  by_cases hall : ∀ c ∈ cs, p c
  · have happ : ∀ c ∈ cs ++ ds, p c := by
      intro c hc
      rcases List.mem_append.mp hc with hc | hc
      · exact hall c hc
      · exact h c hc
    rw [(trimList_eq_nil_iff p cs).mpr hall, (trimList_eq_nil_iff p _).mpr happ]
  · have hne : (cs.dropWhile p).isEmpty = false := by
      rw [List.isEmpty_eq_false_iff, Ne, List.dropWhile_eq_nil_iff]
      exact hall
    have hrev : ∀ d ∈ ds.reverse, p d := fun d hd => h d (List.mem_reverse.mp hd)
    rw [trimList, List.dropWhile_append, hne, if_neg Bool.false_ne_true, List.rdropWhile,
      List.reverse_append, List.dropWhile_append_of_pos hrev, trimList, List.rdropWhile]

private theorem trimList_trimList_of_imp {p q : Char → Bool} (h : ∀ c, p c → q c)
    (cs : List Char) : trimList q (trimList p cs) = trimList q cs := by
  have htail : cs.dropWhile p =
      trimList p cs ++ ((cs.dropWhile p).reverse.takeWhile p).reverse := by
    rw [trimList, List.rdropWhile, ← List.reverse_append, List.takeWhile_append_dropWhile,
      List.reverse_reverse]
  have hhead : trimList q cs = trimList q (cs.dropWhile p) := by
    have hall : ∀ c ∈ cs.takeWhile p, q c := fun c hc => h c (List.mem_takeWhile_imp hc)
    have hsplit := List.takeWhile_append_dropWhile (p := p) (l := cs)
    calc trimList q cs = trimList q (cs.takeWhile p ++ cs.dropWhile p) := by rw [hsplit]
      _ = trimList q (cs.dropWhile p) := by
        rw [trimList, List.dropWhile_append_of_pos hall, trimList]
  rw [hhead, htail, trimList_append]
  intro c hc
  exact h c (List.mem_takeWhile_imp (List.mem_reverse.mp hc))

/-- Go trims less than Python does. -/
@[simp] theorem strip_trimSpace : strip (trimSpace s) = strip s := by
  have himp : ∀ c, isGoSpace c → isSpace c := fun c hc => (Bool.and_eq_true_iff.mp hc).1
  simp only [strip, trimSpace, trimBy, String.toList_ofList, trimList_trimList_of_imp himp]

private theorem trimList_sublist : (trimList p cs).Sublist cs :=
  (List.rdropWhile_prefix p _).sublist.trans (List.dropWhile_sublist p)

/-- Trimming adds no character. -/
theorem trimBy_sublist : (trimBy p s).toList.Sublist s.toList := by
  rw [trimBy, String.toList_ofList]
  exact trimList_sublist p s.toList

/-- Stripping makes no text longer. -/
theorem strip_length_le : (strip s).toList.length ≤ s.toList.length :=
  (trimBy_sublist isSpace s).length_le

/-- Trimming removes no other character. -/
theorem mem_trimBy_of_mem {p : Char → Bool} {s : String} {c : Char} (h : c ∈ s.toList)
    (hc : p c = false) : c ∈ (trimBy p s).toList := by
  have hdrop (cs : List Char) (hm : c ∈ cs) : c ∈ cs.dropWhile p := by
    rw [← List.takeWhile_append_dropWhile (p := p) (l := cs), List.mem_append] at hm
    rcases hm with htaken | hdropped
    · rw [List.mem_takeWhile_imp htaken] at hc
      cases hc
    · exact hdropped
  rw [trimBy, String.toList_ofList, trimList, List.rdropWhile, List.mem_reverse]
  exact hdrop _ (List.mem_reverse.mpr (hdrop _ h))

/-- Go has nothing to trim from what Python has stripped. -/
theorem trimSpace_of_stripped {s : String} (h : strip s = s) : trimSpace s = s := by
  have hboth := strip_trimSpace s
  have hsublist : (trimSpace s).toList.Sublist s.toList := trimBy_sublist isGoSpace s
  have hstripped : (strip (trimSpace s)).toList.Sublist (trimSpace s).toList :=
    trimBy_sublist isSpace (trimSpace s)
  rw [hboth, h] at hstripped
  exact String.toList_inj.mp (hsublist.eq_of_length_le hstripped.length_le)

/-- A text is blank when it has only whitespace. -/
theorem strip_eq_empty_iff : strip s = "" ↔ ∀ c ∈ s.toList, isSpace c := by
  rw [← trimList_eq_nil_iff, ← String.toList_inj, strip, trimBy, String.toList_ofList]
  rfl

/-- What is not blank to Python is not blank to Go. -/
theorem trimSpace_ne_empty {s : String} (h : strip s ≠ "") : trimSpace s ≠ "" := by
  intro hblank
  rw [← strip_trimSpace, hblank] at h
  exact h ((strip_eq_empty_iff "").mpr (by simp))

/-- A text that is not blank is not blank with more text after it. -/
theorem strip_append_ne_empty {s : String} (t : String) (h : strip s ≠ "") :
    strip (s ++ t) ≠ "" := by
  rw [Ne, strip_eq_empty_iff] at h ⊢
  intro hst
  exact h fun c hc => hst c (by rw [String.toList_append]; exact List.mem_append_left _ hc)

private theorem trimList_concat {p : Char → Bool} {c : Char} (hc : p c = false) :
    trimList p (cs ++ [c]) = cs.dropWhile p ++ [c] := by
  have hdrop : (cs ++ [c]).dropWhile p = cs.dropWhile p ++ [c] := by
    rw [List.dropWhile_append]
    split
    · next hempty => simp [List.isEmpty_iff.mp hempty, hc]
    · rfl
  rw [trimList, hdrop, List.rdropWhile_concat_neg _ _ _ (by simp [hc])]

/-- Text without whitespace stays whole behind a text that ends in no whitespace. -/
theorem strip_append_of_concat {s t : String} {cs : List Char} {c : Char}
    (hs : s.toList = cs ++ [c]) (hc : isSpace c = false)
    (ht : ∀ d ∈ t.toList, isSpace d = false) : strip (s ++ t) = strip s ++ t := by
  apply String.toList_inj.mp
  rw [String.toList_append, strip, strip, trimBy, trimBy, String.toList_ofList,
    String.toList_ofList, String.toList_append, hs, trimList_concat cs hc]
  rcases List.eq_nil_or_concat t.toList with hempty | ⟨ds, d, hlast⟩
  · rw [hempty, List.append_nil, List.append_nil, trimList_concat cs hc]
  · have hd : isSpace d = false := ht d (by rw [hlast]; simp)
    have hdrop : (cs ++ [c] ++ ds).dropWhile isSpace = cs.dropWhile isSpace ++ [c] ++ ds := by
      rw [List.append_assoc, List.dropWhile_append]
      split
      · next hempty => simp [List.isEmpty_iff.mp hempty, hc]
      · rw [List.append_assoc]
    rw [hlast, List.concat_eq_append, ← List.append_assoc, trimList_concat _ hd, hdrop,
      List.append_assoc _ ds [d]]

/-- A text between two characters that are no whitespace is stripped. -/
theorem strip_between {c d : Char} (hc : isSpace c = false) (hd : isSpace d = false)
    (cs : List Char) :
    strip (String.ofList (c :: (cs ++ [d]))) = String.ofList (c :: (cs ++ [d])) := by
  rw [strip, trimBy, String.toList_ofList, trimList, List.dropWhile_cons_of_neg (by simp [hc]),
    ← List.cons_append, List.rdropWhile_concat_neg _ _ _ (by simp [hd])]

private theorem countP_trimList : (trimList p cs).countP (!p ·) = cs.countP (!p ·) := by
  have hdrop (ds : List Char) : (ds.dropWhile p).countP (!p ·) = ds.countP (!p ·) := by
    have htaken : (ds.takeWhile p).countP (!p ·) = 0 := by
      rw [List.countP_eq_zero]
      intro c hc
      simp [List.mem_takeWhile_imp hc]
    have hsplit := congrArg (List.countP (!p ·))
      (List.takeWhile_append_dropWhile (p := p) (l := ds))
    rwa [List.countP_append, htaken, Nat.zero_add] at hsplit
  rw [trimList, List.rdropWhile, List.countP_reverse, hdrop, List.countP_reverse, hdrop]

/-- Two spellings of a text that end at the same character are the same one. -/
theorem eq_of_strip_eq {a b : String} {c : Char} {s t : List Char} (hc : isSpace c = false)
    (hstrip : strip a = strip b) (h : a.toList ++ c :: s = b.toList ++ c :: t) : a = b := by
  have hcount : a.toList.countP (!isSpace ·) = b.toList.countP (!isSpace ·) := by
    rw [← countP_trimList, ← countP_trimList isSpace b.toList]
    have hlist := congrArg String.toList hstrip
    rw [strip, strip, trimBy, trimBy, String.toList_ofList, String.toList_ofList] at hlist
    rw [hlist]
  -- what one spelling has more starts with the character, which is no whitespace
  have hextra (x : List Char) (y : List Char) (hx : c :: s = x ++ y ∨ c :: t = x ++ y)
      (hn : x.countP (!isSpace ·) = 0) : x = [] := by
    cases x with
    | nil => rfl
    | cons d x =>
      have hd : d = c := by
        rcases hx with hx | hx <;> exact (List.cons.inj hx).1.symm
      rw [hd, List.countP_cons_of_pos (by simp [hc])] at hn
      cases hn
  apply String.toList_inj.mp
  rcases List.append_eq_append_iff.mp h with ⟨x, hb, hs⟩ | ⟨x, ha, ht⟩
  · rw [hb, List.countP_append] at hcount
    rw [hb, hextra x _ (.inl hs) (by omega), List.append_nil]
  · rw [ha, List.countP_append] at hcount
    rw [ha, hextra x _ (.inr ht) (by omega), List.append_nil]

/-- What `_strip_or_none` returns is stripped and not blank. -/
theorem stripOrNone_some {value : Option String} {text : String}
    (h : stripOrNone value = some text) : strip text = text ∧ text ≠ "" := by
  cases value with
  | none => cases h
  | some raw =>
    unfold stripOrNone at h
    dsimp only at h
    split at h
    · cases h
    · next hb =>
      cases h
      exact ⟨strip_strip raw, hb⟩

-- Text functions are used through the laws above; only evaluation looks inside.
attribute [irreducible] strip trimSpace upper lower

end OpenTrader.Base
