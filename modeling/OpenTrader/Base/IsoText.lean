import Mathlib.Algebra.GroupWithZero.Nat
import Mathlib.Algebra.Order.BigOperators.Group.List
import Mathlib.Data.String.Basic

/-!
# The text of an instant

Library `Base`. The ISO 8601 text of a UTC time with microseconds, as Python's `datetime` prints it:
digits of a fixed width, and no fraction for a whole second. The texts of whole seconds are in the
order of the times. A whole second is after every other time of that second, since `.` is before
`Z`.
-/

namespace OpenTrader.Base

/-! ### Texts in the order of numbers -/

/-- Texts of one width, in the order of the numbers below `bound`. -/
structure Ordered (text : ℕ → List Char) (width bound : ℕ) : Prop where
  length : ∀ n < bound, (text n).length = width
  lt : ∀ m n, m < n → n < bound → text m < text n

section

variable {α : Type} [LinearOrder α]

private theorem append_lt_append {a b : List α} (h : a < b) (hlen : a.length = b.length)
    (c d : List α) : a ++ c < b ++ d := by
  induction h with
  | nil => simp at hlen
  | rel hlt => exact List.Lex.rel hlt
  | cons _ ih => exact List.Lex.cons (ih (by simpa using hlen))

private theorem append_left_lt_iff (a c d : List α) : a ++ c < a ++ d ↔ c < d := by
  induction a with
  | nil => rfl
  | cons x a ih => rw [List.cons_append, List.cons_append, List.cons_lt_cons_iff]; simp [ih]

end

namespace Ordered

variable {f : ℕ → List Char} {g : ℕ → ℕ → List Char} {width width' bound bound' : ℕ}

/-- Texts that go on are compared by the numbers first. -/
theorem append_lt_iff (h : Ordered f width bound) {m n : ℕ} (hm : m < bound) (hn : n < bound)
    (c d : List Char) : f m ++ c < f n ++ d ↔ m < n ∨ m = n ∧ c < d := by
  have hlen : (f m).length = (f n).length := (h.length m hm).trans (h.length n hn).symm
  rcases lt_trichotomy m n with hlt | rfl | hgt
  · exact iff_of_true (append_lt_append (h.lt m n hlt hn) hlen c d) (.inl hlt)
  · simp [append_left_lt_iff]
  · refine iff_of_false (lt_asymm (append_lt_append (h.lt n m hgt hm) hlen.symm d c)) ?_
    omega

/-- Fewer numbers. -/
theorem mono (h : Ordered f width bound) (hle : bound' ≤ bound) : Ordered f width bound' :=
  ⟨fun n hn => h.length n (hn.trans_le hle), fun m n hmn hn => h.lt m n hmn (hn.trans_le hle)⟩

/-- Numbers counted from one. -/
theorem succ (h : Ordered f width (bound + 1)) : Ordered (fun n => f (n + 1)) width bound :=
  ⟨fun n hn => h.length (n + 1) (by omega),
    fun m n hmn hn => h.lt (m + 1) (n + 1) (by omega) (by omega)⟩

/-- Two parts of a number, the first deciding, with a mark between their texts. -/
theorem append {i r : ℕ → ℕ} {part : ℕ → ℕ} (mark : List Char) (hf : Ordered f width bound)
    (hg : ∀ k, Ordered (g k) width' (part k)) (hin : ∀ n < bound', i n < bound ∧ r n < part (i n))
    (hlex : ∀ m n, m < n → n < bound' → i m < i n ∨ i m = i n ∧ r m < r n) :
    Ordered (fun n => f (i n) ++ (mark ++ g (i n) (r n))) (width + (mark.length + width'))
      bound' := by
  constructor
  · intro n hn
    obtain ⟨hi, hr⟩ := hin n hn
    rw [List.length_append, List.length_append, hf.length _ hi, (hg _).length _ hr]
  · intro m n hmn hn
    obtain ⟨hi, -⟩ := hin m (hmn.trans hn)
    obtain ⟨hi', hr'⟩ := hin n hn
    rcases hlex m n hmn hn with hlt | ⟨heq, hlt⟩
    · exact append_lt_append (hf.lt _ _ hlt hi') ((hf.length _ hi).trans (hf.length _ hi').symm) _ _
    · simp only [heq, append_left_lt_iff]
      exact (hg _).lt _ _ hlt hr'

/-- The quotient and the remainder by `unit`. -/
theorem divMod {g : ℕ → List Char} {unit : ℕ} (mark : List Char) (hf : Ordered f width bound)
    (hg : Ordered g width' unit) (hunit : 0 < unit) :
    Ordered (fun n => f (n / unit) ++ (mark ++ g (n % unit))) (width + (mark.length + width'))
      (bound * unit) := by
  refine append mark hf (fun _ => hg) (fun n hn => ?_) (fun m n hmn _ => ?_)
  · exact ⟨Nat.div_lt_of_lt_mul (Nat.mul_comm bound unit ▸ hn), Nat.mod_lt n hunit⟩
  · rcases (Nat.div_le_div_right hmn.le : m / unit ≤ n / unit).lt_or_eq with hlt | heq
    · exact .inl hlt
    · refine .inr ⟨heq, ?_⟩
      have hm := Nat.div_add_mod m unit
      have hn := Nat.div_add_mod n unit
      rw [heq] at hm
      omega

end Ordered

/-- The last `width` decimal digits. -/
def digits : ℕ → ℕ → List Char
  | 0, _ => []
  | width + 1, n => digits width (n / 10) ++ [Char.ofNat (48 + n % 10)]

/-- Digits of a fixed width are in the order of the numbers. -/
theorem ordered_digits (width : ℕ) : Ordered (digits width) width (10 ^ width) := by
  induction width with
  | zero => exact ⟨fun _ _ => rfl, fun m n hmn hn => absurd hn (by omega)⟩
  | succ width ih =>
    have hdigit : Ordered (fun n => [Char.ofNat (48 + n)]) 1 10 := by
      refine ⟨fun _ _ => rfl, fun m n hmn hn => ?_⟩
      have hlt : ∀ n < 10, ∀ m < n, Char.ofNat (48 + m) < Char.ofNat (48 + n) := by decide
      exact List.Lex.rel (hlt n hn m hmn)
    simpa [digits, pow_succ] using ih.divMod [] hdigit (by decide)

/-! ### Blocks -/

/-- The block in which the `n`-th place of consecutive blocks is, and its place there. -/
def locate : List ℕ → ℕ → ℕ × ℕ
  | [], n => (0, n)
  | size :: sizes, n =>
    if n < size then (0, n) else ((locate sizes (n - size)).1 + 1, (locate sizes (n - size)).2)

variable {sizes : List ℕ} {n m : ℕ}

/-- A place is in a block of the list. -/
theorem locate_lt (h : n < sizes.sum) :
    (locate sizes n).1 < sizes.length ∧ (locate sizes n).2 < sizes.getD (locate sizes n).1 0 := by
  induction sizes generalizing n with
  | nil => simp at h
  | cons size sizes ih =>
    rw [List.sum_cons] at h
    by_cases hn : n < size
    · simp [locate, hn]
    · obtain ⟨hi, hr⟩ := ih (show n - size < sizes.sum by omega)
      simpa [locate, hn] using ⟨hi, hr⟩

/-- A later place is in a later block, or later in the same block. -/
theorem locate_lex (sizes : List ℕ) (h : m < n) :
    (locate sizes m).1 < (locate sizes n).1 ∨
      (locate sizes m).1 = (locate sizes n).1 ∧ (locate sizes m).2 < (locate sizes n).2 := by
  induction sizes generalizing m n with
  | nil => exact .inr ⟨rfl, h⟩
  | cons size sizes ih =>
    by_cases hm : m < size <;> by_cases hn : n < size
    · simp [locate, hm, hn, h]
    · simp [locate, hm, hn]
    · omega
    · have hrest := ih (show m - size < n - size by omega)
      simpa [locate, hm, hn] using hrest

/-- The block and the place in it, when the texts of the places have one width. -/
theorem Ordered.blocks {f : ℕ → List Char} {g : ℕ → ℕ → List Char} {width width' : ℕ}
    (mark : List Char) (hf : Ordered f width sizes.length)
    (hg : ∀ k, Ordered (g k) width' (sizes.getD k 0)) :
    Ordered (fun n => f (locate sizes n).1 ++ (mark ++ g (locate sizes n).1 (locate sizes n).2))
      (width + (mark.length + width')) sizes.sum :=
  Ordered.append mark hf hg (fun _ hn => locate_lt hn) fun _ _ hmn _ => locate_lex sizes hmn

/-! ### Calendar -/

variable (micros second year day : ℕ)

/-- A leap year. -/
def IsLeapYear : Prop := year % 4 = 0 ∧ (year % 100 ≠ 0 ∨ year % 400 = 0)

instance (year : ℕ) : Decidable (IsLeapYear year) := inferInstanceAs (Decidable (_ ∧ _))

/-- The days of each month. -/
def monthDays : List ℕ :=
  [31, if IsLeapYear year then 29 else 28, 31, 30, 31, 30, 31, 31, 30, 31, 30, 31]

/-- The days of each year, over the 400 years after which the calendar repeats. -/
def cycleDays : List ℕ := (List.range 400).map fun year => (monthDays (year + 1)).sum

/-- The years before a day, and the days before it in its year. -/
def yearOf : ℕ × ℕ :=
  (day / 146097 * 400 + (locate cycleDays (day % 146097)).1, (locate cycleDays (day % 146097)).2)

/-- The date of a day, counted from the first day of year 1. -/
def dateText : List Char :=
  digits 4 ((yearOf day).1 + 1) ++ (['-'] ++ monthText (yearOf day).1 (yearOf day).2)
where
  monthText (year day : ℕ) : List Char :=
    digits 2 ((locate (monthDays (year + 1)) day).1 + 1) ++
      (['-'] ++ digits 2 ((locate (monthDays (year + 1)) day).2 + 1))

/-- The time of day, in seconds. -/
def clockText : List Char :=
  digits 2 (second / 60 / 60) ++ ([':'] ++ digits 2 (second / 60 % 60)) ++
    ([':'] ++ digits 2 (second % 60))

/-- The date and the time of day, in seconds from the start of year 1. -/
def secondText : List Char :=
  dateText (second / 86400) ++ (['T'] ++ clockText (second % 86400))

/-- The last texts: microseconds, unless there are none, and the mark of UTC. -/
def fractionText : List Char :=
  if micros = 0 then ['Z'] else '.' :: (digits 6 micros ++ ['Z'])

/-- `isoformat().replace("+00:00", "Z")` of a UTC `datetime`, given in microseconds from the start
of year 1. -/
def isoformat : String :=
  String.ofList (secondText (micros / 1000000) ++ fractionText (micros % 1000000))

/-- The end of the range of `datetime`, in seconds from the start of year 1. -/
def datetimeSeconds : ℕ := 3652059 * 86400

private theorem ordered_from_one {width bound : ℕ} (h : bound < 10 ^ width) :
    Ordered (fun n => digits width (n + 1)) width bound :=
  ((ordered_digits width).mono h).succ

private theorem ordered_monthText :
    Ordered (dateText.monthText year) 5 (monthDays (year + 1)).sum := by
  have hday (month : ℕ) : (monthDays (year + 1)).getD month 0 < 10 ^ 2 := by
    have hmonth : ∀ days ∈ 0 :: monthDays (year + 1), days < 10 ^ 2 := by
      simp only [monthDays, List.forall_mem_cons]
      split_ifs <;> simp
    rw [List.getD_eq_getElem?_getD]
    cases hg : (monthDays (year + 1))[month]? with
    | none => exact hmonth 0 List.mem_cons_self
    | some days => exact hmonth days (List.mem_cons_of_mem 0 (List.mem_of_getElem? hg))
  exact Ordered.blocks ['-'] (ordered_from_one (show 12 < 10 ^ 2 by decide)) fun month =>
    ordered_from_one (hday month)

private theorem locate_cycleDays_lt :
    (locate cycleDays (day % 146097)).1 < 400 ∧ (locate cycleDays (day % 146097)).2 <
      (monthDays ((locate cycleDays (day % 146097)).1 + 1)).sum := by
  have hsum : cycleDays.sum = 146097 := by decide +kernel
  have hday : day % 146097 < cycleDays.sum := by
    rw [hsum]
    exact Nat.mod_lt day (by decide)
  obtain ⟨hyear, hrest⟩ := locate_lt hday
  have hlen : cycleDays.length = 400 := by simp [cycleDays]
  rw [hlen] at hyear
  refine ⟨hyear, ?_⟩
  have hsize (year : ℕ) (h : year < 400) :
      cycleDays.getD year 0 = (monthDays (year + 1)).sum := by
    simp [cycleDays, h]
  rwa [hsize _ hyear] at hrest

private theorem yearOf_rest_lt : (yearOf day).2 < (monthDays ((yearOf day).1 + 1)).sum := by
  have hleap : IsLeapYear ((yearOf day).1 + 1) ↔
      IsLeapYear ((locate cycleDays (day % 146097)).1 + 1) := by
    unfold yearOf IsLeapYear
    omega
  rw [monthDays, if_congr hleap rfl rfl]
  exact (locate_cycleDays_lt day).2

private theorem yearOf_lex (h : m < n) :
    (yearOf m).1 < (yearOf n).1 ∨ (yearOf m).1 = (yearOf n).1 ∧ (yearOf m).2 < (yearOf n).2 := by
  have hm := (locate_cycleDays_lt m).1
  simp only [yearOf]
  by_cases hcycle : m / 146097 < n / 146097
  · omega
  · have hlex := locate_lex cycleDays (show m % 146097 < n % 146097 by omega)
    omega

private theorem ordered_dateText : Ordered dateText 10 3652059 := by
  have hend : yearOf 3652059 = (9999, 0) := by decide +kernel
  have hyear (day : ℕ) (hday : day < 3652059) : (yearOf day).1 < 9999 := by
    have hlex := yearOf_lex hday
    rw [hend] at hlex
    omega
  have hyears : Ordered (fun year => digits 4 (year + 1)) 4 9999 := ordered_from_one (by decide)
  exact hyears.append ['-'] ordered_monthText
    (fun day hday => ⟨hyear day hday, yearOf_rest_lt day⟩) fun m n hmn _ => yearOf_lex hmn

private theorem ordered_secondText : Ordered secondText 19 datetimeSeconds := by
  have htwo : Ordered (digits 2) 2 60 := (ordered_digits 2).mono (by decide)
  have hhour : Ordered (digits 2) 2 24 := (ordered_digits 2).mono (by decide)
  have hclock : Ordered clockText 8 86400 :=
    (hhour.divMod [':'] htwo (by decide)).divMod [':'] htwo (by decide)
  exact ordered_dateText.divMod ['T'] hclock (by decide)

private theorem fractionText_lt_iff (hm : m < 1000000) (hn : n < 1000000) :
    fractionText m < fractionText n ↔ m ≠ 0 ∧ (n = 0 ∨ m < n) := by
  unfold fractionText
  have hmark : '.' < 'Z' := by decide
  split_ifs with hm0 hn0 hn0
  · simp [hm0]
  · simp [hm0, List.cons_lt_cons_iff, hmark.not_gt, hmark.ne']
  · simp [hm0, hn0, List.cons_lt_cons_iff, hmark]
  · rw [List.cons_lt_cons_iff, (ordered_digits 6).append_lt_iff hm hn]
    simp [hm0, hn0]

/-- **Order of the texts.** The text of a time is before that of another one exactly when the time
is not the start of the other's second, and is before the other; for a whole second, before the next
second. -/
theorem isoformat_lt_iff (hm : m / 1000000 < datetimeSeconds) (hn : n / 1000000 < datetimeSeconds) :
    isoformat m < isoformat n ↔
      m ≠ n / 1000000 * 1000000 ∧ m < if n % 1000000 = 0 then n + 1000000 else n := by
  have hm' := Nat.mod_lt m (show 0 < 1000000 by decide)
  have hn' := Nat.mod_lt n (show 0 < 1000000 by decide)
  rw [isoformat, isoformat, String.lt_iff_toList_lt, String.toList_ofList, String.toList_ofList,
    ordered_secondText.append_lt_iff hm hn, fractionText_lt_iff hm' hn']
  split_ifs with hwhole <;> omega

example : isoformat 63902822400000000 = "2026-01-01T00:00:00Z" := by decide +kernel

end OpenTrader.Base
