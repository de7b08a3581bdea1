import Mathlib.Data.Char
import OpenTrader.Base.Json

/-!
# The text of a JSON value

Library `Base`. The text of a value, followed by anything that can follow a value, determines the
value up to the kind of its sequences.
-/

namespace OpenTrader.Base

/-! ### Quoted text is read back -/

private theorem escapes_distinct : ∀ a ∈ shortEscapes, ∀ b ∈ shortEscapes, a.2 = b.2 → a = b := by
  decide

private theorem escapes_ne_u : ∀ a ∈ shortEscapes, a.2 ≠ 'u' := by decide

private theorem digitChar_injective :
    ∀ m < 16, ∀ n < 16, Nat.digitChar m = Nat.digitChar n → m = n := by
  decide

variable {r r' : List Char} {c d : Char} {n m : ℕ} {z : ℤ}

private theorem hex4_append_inj (hm : m < 65536) (hn : n < 65536) (h : hex4 m ++ r = hex4 n ++ r') :
    m = n ∧ r = r' := by
  obtain ⟨hhex, hrest⟩ := List.append_inj h rfl
  refine ⟨?_, hrest⟩
  simp only [hex4, List.map_cons, List.map_nil, List.cons.injEq, and_true] at hhex
  obtain ⟨h₃, h₂, h₁, h₀⟩ := hhex
  have h₃ := digitChar_injective _ (by omega) _ (by omega) h₃
  have h₂ := digitChar_injective _ (by omega) _ (by omega) h₂
  have h₁ := digitChar_injective _ (by omega) _ (by omega) h₁
  have h₀ := digitChar_injective _ (by omega) _ (by omega) h₀
  omega

private theorem toNat_valid (c : Char) :
    c.toNat < 0xd800 ∨ 0xdfff < c.toNat ∧ c.toNat < 0x110000 := c.valid

private theorem codeUnits_append_inj
    (h : ((codeUnits c).flatMap fun unit => '\\' :: 'u' :: hex4 unit) ++ r =
      ((codeUnits d).flatMap fun unit => '\\' :: 'u' :: hex4 unit) ++ r') :
    c = d ∧ r = r' := by
  have hc := toNat_valid c
  have hd := toNat_valid d
  unfold codeUnits at h
  split_ifs at h with hc' hd' hd'
  all_goals simp only [List.flatMap_cons, List.flatMap_nil, List.append_nil, List.cons_append,
    List.append_assoc, List.cons.injEq, true_and] at h
  all_goals obtain ⟨heq, hrest⟩ := hex4_append_inj (by omega) (by omega) h
  · exact ⟨Char.toNat_inj.mp heq, hrest⟩
  -- no unit below the surrogates is the first of a pair
  · omega
  · omega
  · simp only [List.cons.injEq, true_and] at hrest
    obtain ⟨hlow, hrest⟩ := hex4_append_inj (by omega) (by omega) hrest
    exact ⟨Char.toNat_inj.mp (by omega), hrest⟩

private theorem escapeChar_cases (c : Char) :
    (∃ short ∈ shortEscapes, short.1 = c ∧ escapeChar c = ['\\', short.2]) ∨
      (c ≠ '\\' ∧ c ≠ '"' ∧ escapeChar c = [c]) ∨
      escapeChar c = (codeUnits c).flatMap fun unit => '\\' :: 'u' :: hex4 unit := by
  unfold escapeChar
  cases hfind : shortEscapes.find? (·.1 = c) with
  | some short =>
    have hshort := List.find?_some hfind
    exact .inl ⟨short, List.mem_of_find?_eq_some hfind, of_decide_eq_true hshort, rfl⟩
  | none =>
    rw [List.find?_eq_none] at hfind
    have hquote : c ≠ '"' := by
      rintro rfl
      exact hfind ('"', '"') (by decide) (by decide)
    have hbackslash : c ≠ '\\' := by
      rintro rfl
      exact hfind ('\\', '\\') (by decide) (by decide)
    by_cases hprintable : 32 ≤ c.toNat ∧ c.toNat ≤ 126
    · exact .inr (.inl ⟨hbackslash, hquote, if_pos hprintable⟩)
    · exact .inr (.inr (if_neg hprintable))

private theorem codeUnits_code (c : Char) :
    ∃ rest, ((codeUnits c).flatMap fun unit => '\\' :: 'u' :: hex4 unit) = '\\' :: 'u' :: rest := by
  unfold codeUnits
  split
  · exact ⟨_, rfl⟩
  · exact ⟨_, rfl⟩

private theorem escapeChar_append_inj (h : escapeChar c ++ r = escapeChar d ++ r') :
    c = d ∧ r = r' := by
  obtain ⟨cs, hcs⟩ := codeUnits_code c
  obtain ⟨ds, hds⟩ := codeUnits_code d
  rcases escapeChar_cases c with ⟨a, ha, hac, hc⟩ | ⟨hc', -, hc⟩ | hc
  · rcases escapeChar_cases d with ⟨b, hb, hbd, hd⟩ | ⟨hd', -, hd⟩ | hd
    · rw [hc, hd] at h
      simp only [List.cons_append, List.nil_append, List.cons.injEq, true_and] at h
      have hab := escapes_distinct a ha b hb h.1
      exact ⟨by rw [← hac, ← hbd, hab], h.2⟩
    · rw [hc, hd] at h
      exact absurd (List.cons.inj h).1.symm hd'
    · rw [hc, hd, hds] at h
      simp only [List.cons_append, List.nil_append, List.cons.injEq, true_and] at h
      exact absurd h.1 (escapes_ne_u a ha)
  · rcases escapeChar_cases d with ⟨b, -, -, hd⟩ | ⟨-, -, hd⟩ | hd
    · rw [hc, hd] at h
      exact absurd (List.cons.inj h).1 hc'
    · rw [hc, hd] at h
      exact List.cons.inj h
    · rw [hc, hd, hds] at h
      exact absurd (List.cons.inj h).1 hc'
  · rcases escapeChar_cases d with ⟨b, hb, -, hd⟩ | ⟨hd', -, hd⟩ | hd
    · rw [hc, hd, hcs] at h
      simp only [List.cons_append, List.nil_append, List.cons.injEq, true_and] at h
      exact absurd h.1.symm (escapes_ne_u b hb)
    · rw [hc, hd, hcs] at h
      exact absurd (List.cons.inj h).1.symm hd'
    · rw [hc, hd] at h
      exact codeUnits_append_inj h

private theorem escapeChar_append_ne_quote (c : Char) (r r' : List Char) :
    escapeChar c ++ r ≠ '"' :: r' := by
  intro h
  obtain ⟨cs, hcs⟩ := codeUnits_code c
  rcases escapeChar_cases c with ⟨a, -, -, hc⟩ | ⟨-, hquote, hc⟩ | hc
  · rw [hc] at h
    exact absurd (List.cons.inj h).1 (by decide)
  · rw [hc] at h
    exact hquote (List.cons.inj h).1
  · rw [hc, hcs] at h
    exact absurd (List.cons.inj h).1 (by decide)

private theorem flatMap_append_inj {α β : Type} {code : α → List Char} (mean : α → β) {close : Char}
    {xs ys : List α} (hhead : ∀ x rest rest', code x ++ rest ≠ close :: rest')
    (hr : ∀ x ∈ xs, ∀ (y : α) (xs' ys' : List α),
      code x ++ (xs'.flatMap code ++ close :: r) = code y ++ (ys'.flatMap code ++ close :: r') →
        mean x = mean y ∧ xs'.flatMap code ++ close :: r = ys'.flatMap code ++ close :: r')
    (h : xs.flatMap code ++ close :: r = ys.flatMap code ++ close :: r') :
    xs.map mean = ys.map mean ∧ r = r' := by
  induction xs generalizing ys with
  | nil =>
    cases ys with
    | nil => exact ⟨rfl, (List.cons.inj h).2⟩
    | cons y ys =>
      rw [List.flatMap_cons, List.append_assoc] at h
      exact absurd h.symm (hhead y _ _)
  | cons x xs ih =>
    obtain ⟨hx, hxs⟩ := List.forall_mem_cons.mp hr
    rw [List.flatMap_cons, List.append_assoc] at h
    cases ys with
    | nil => exact absurd h (hhead x _ _)
    | cons y ys =>
      rw [List.flatMap_cons, List.append_assoc] at h
      obtain ⟨hmean, htail⟩ := hx y xs ys h
      obtain ⟨hmeans, hrest⟩ := ih hxs htail
      exact ⟨by rw [List.map_cons, List.map_cons, hmean, hmeans], hrest⟩

private theorem quote_append_inj {s t : String} (h : quote s ++ r = quote t ++ r') :
    s = t ∧ r = r' := by
  simp only [quote, List.cons_append, List.append_assoc, List.nil_append, List.cons.injEq,
    true_and] at h
  obtain ⟨htext, hrest⟩ := flatMap_append_inj id escapeChar_append_ne_quote
    (fun _ _ _ _ _ heq => escapeChar_append_inj heq) h
  rw [List.map_id, List.map_id] at htext
  exact ⟨String.toList_inj.mp htext, hrest⟩

/-! ### Scalars are read back -/

private def isScalarChar (c : Char) : Bool := c.isAlphanum || ['.', '+', '-'].contains c

private theorem isScalarChar_of_isDigit (h : c.isDigit = true) : isScalarChar c = true := by
  simp [isScalarChar, Char.isAlphanum, h]

private theorem isDigit_of_mem_natRepr (h : c ∈ n.repr.toList) : c.isDigit = true := by
  rw [Nat.repr_eq_ofList_toDigits, String.toList_ofList] at h
  exact Nat.isDigit_of_mem_toDigits (by decide : 0 < 10) (by decide) h

private theorem mem_intRepr (h : c ∈ z.repr.toList) : c.isDigit = true ∨ c = '-' := by
  rw [Int.repr_eq_if] at h
  split at h
  · exact .inl (isDigit_of_mem_natRepr h)
  · rw [String.toList_append, List.mem_append] at h
    rcases h with h | h
    · exact .inr (by simpa using h)
    · exact .inl (isDigit_of_mem_natRepr h)

private theorem natRepr_injective (h : m.repr.toList = n.repr.toList) : m = n := by
  rw [Nat.repr_eq_ofList_toDigits, Nat.repr_eq_ofList_toDigits, String.toList_ofList,
    String.toList_ofList] at h
  rw [← @Nat.ofDigitChars_ten_toDigits m, h, Nat.ofDigitChars_ten_toDigits]

private theorem natRepr_ne_minus (m n : ℕ) : m.repr.toList ≠ ("-" ++ n.repr).toList := by
  intro h
  have hminus : '-' ∈ m.repr.toList := by
    rw [h, String.toList_append]
    exact List.mem_append_left _ (by decide)
  exact absurd (isDigit_of_mem_natRepr hminus) (by decide)

private theorem intRepr_injective {y : ℤ} (h : y.repr.toList = z.repr.toList) : y = z := by
  rw [Int.repr_eq_if, Int.repr_eq_if] at h
  split_ifs at h with hy hz hz
  · have := natRepr_injective h
    omega
  · exact absurd h (natRepr_ne_minus _ _)
  · exact absurd h.symm (natRepr_ne_minus _ _)
  · rw [String.toList_append, String.toList_append, List.append_cancel_left_eq] at h
    have := natRepr_injective h
    omega

private theorem intRepr_ne_nil (z : ℤ) : z.repr.toList ≠ [] := by
  rw [Int.repr_eq_if]
  split
  · rw [Nat.repr_eq_ofList_toDigits, String.toList_ofList]
    exact Nat.toDigits_ne_nil
  · simp [String.toList_append]

private theorem isScalarChar_of_mark (h : c ∈ ['.', 'e', '+', '-']) : isScalarChar c = true := by
  have hall : ['.', 'e', '+', '-'].all isScalarChar = true := by decide
  exact List.all_eq_true.mp hall c h

private theorem not_isScalarChar (h : c ∈ [',', ']', '\x7d', '"', '[', '\x7b']) :
    isScalarChar c = false := by
  have hall : [',', ']', '\x7d', '"', '[', '\x7b'].all (fun c => !isScalarChar c) = true := by
    decide
  simpa using List.all_eq_true.mp hall c h

private theorem not_digit_of_mark (h : c ∈ ['.', 'e']) : c.isDigit = false ∧ c ≠ '-' := by
  have hall : ['.', 'e'].all (fun c => !c.isDigit && c != '-') = true := by decide
  simpa using List.all_eq_true.mp hall c h

private theorem print_chars (s : JsonScalar) :
    s.print ≠ [] ∧ ∀ c ∈ s.print, isScalarChar c = true := by
  cases s with
  | null => exact ⟨by decide, List.all_eq_true.mp (by decide)⟩
  | bool value => cases value <;> exact ⟨by decide, List.all_eq_true.mp (by decide)⟩
  | int value =>
    refine ⟨intRepr_ne_nil value, fun c hc => ?_⟩
    rcases mem_intRepr hc with hdigit | rfl
    · exact isScalarChar_of_isDigit hdigit
    · exact isScalarChar_of_mark (by decide)
  | float value =>
    refine ⟨?_, fun c hc => ?_⟩
    · obtain ⟨c, hc, -⟩ := value.fractional
      exact List.ne_nil_of_mem hc
    · rcases value.numeric c hc with hdigit | hc
      · exact isScalarChar_of_isDigit hdigit
      · exact isScalarChar_of_mark hc

private theorem intRepr_ne_floatText (z : ℤ) (f : FloatText) : z.repr.toList ≠ f.text.toList := by
  intro h
  obtain ⟨c, hc, hmark⟩ := f.fractional
  rw [← h] at hc
  obtain ⟨hdigit, hminus⟩ := not_digit_of_mark hmark
  rcases mem_intRepr hc with h | h
  · rw [hdigit] at h
    cases h
  · exact hminus h

private def JsonScalar.isNumber : JsonScalar → Bool
  | .int _ => true
  | .float _ => true
  | _ => false

private theorem isNumber_iff (s : JsonScalar) :
    s.isNumber = true ↔ 'l' ∉ s.print ∧ 't' ∉ s.print := by
  cases s with
  | null => decide
  | bool value => cases value <;> decide
  | int value =>
    refine iff_of_true rfl ⟨fun hc => ?_, fun hc => ?_⟩
    all_goals
      rcases mem_intRepr hc with h | h
      all_goals exact absurd h (by decide)
  | float value =>
    refine iff_of_true rfl ⟨fun hc => ?_, fun hc => ?_⟩
    all_goals
      rcases value.numeric _ hc with h | h
      all_goals exact absurd h (by decide)

private theorem print_injective {s t : JsonScalar} (h : s.print = t.print) : s = t := by
  have hsame : s.isNumber = t.isNumber := by
    rw [Bool.eq_iff_iff, isNumber_iff, isNumber_iff, h]
  cases s with
  | null =>
    cases t with
    | null => rfl
    | bool value => cases value <;> exact absurd h (by decide)
    | int | float => cases hsame
  | bool value =>
    cases t with
    | null => cases value <;> exact absurd h (by decide)
    | bool value' =>
      cases value <;> cases value'
      all_goals first | rfl | exact absurd h (by decide)
    | int | float => cases hsame
  | int value =>
    cases t with
    | null | bool => cases hsame
    | int value' => rw [intRepr_injective h]
    | float value' => exact absurd h (intRepr_ne_floatText value value')
  | float value =>
    cases t with
    | null | bool => cases hsame
    | int value' => exact absurd h.symm (intRepr_ne_floatText value' value)
    | float value' =>
      obtain ⟨text, _, _⟩ := value
      obtain ⟨text', _, _⟩ := value'
      cases String.toList_inj.mp h
      rfl

/-! ### Values are read back -/

private def Ends (rest : List Char) : Prop := ∀ c ∈ rest.head?, c ∈ [',', ']', '\x7d']

private theorem ends_cons (hc : c ∈ [',', ']', '\x7d'] ) (rest : List Char) :
    Ends (c :: rest) := by
  simpa [Ends] using hc

private theorem not_scalarChar_of_ends {rest : List Char} (h : Ends rest) :
    ∀ c ∈ rest.head?, isScalarChar c = false := by
  intro c hc
  have hm : c ∈ [',', ']', '\x7d'] ++ ['"', '[', '\x7b'] := List.mem_append_left _ (h c hc)
  exact not_isScalarChar hm

private theorem append_inj_of_scalarChar {cs ds : List Char} (hcs : ∀ c ∈ cs, isScalarChar c = true)
    (hds : ∀ d ∈ ds, isScalarChar d = true) (hr : ∀ c ∈ r.head?, isScalarChar c = false)
    (hr' : ∀ c ∈ r'.head?, isScalarChar c = false) (h : cs ++ r = ds ++ r') : cs = ds ∧ r = r' := by
  induction cs generalizing ds with
  | nil =>
    cases ds with
    | nil => exact ⟨rfl, h⟩
    | cons d ds =>
      have hd := hr d (by rw [show r = _ from h]; rfl)
      rw [hds d (by simp)] at hd
      cases hd
  | cons c cs ih =>
    cases ds with
    | nil =>
      have hc := hr' c (by rw [show r' = _ from h.symm]; rfl)
      rw [hcs c (by simp)] at hc
      cases hc
    | cons d ds =>
      obtain ⟨rfl, htail⟩ := List.cons.inj h
      obtain ⟨-, hcs⟩ := List.forall_mem_cons.mp hcs
      obtain ⟨-, hds⟩ := List.forall_mem_cons.mp hds
      obtain ⟨rfl, hrest⟩ := ih hcs hds htail
      exact ⟨rfl, hrest⟩

private def ReadBack {α β : Type} (code : α → List Char) (mean : α → β) (x : α) : Prop :=
  ∀ y r r', Ends r → Ends r' → code x ++ r = code y ++ r' → mean x = mean y ∧ r = r'

section

variable {α β : Type} {code : α → List Char} {mean : α → β} {close : Char}

private theorem ends_commas (hclose : close ∈ [']', '\x7d']) (xs : List α) (r : List Char) :
    Ends (xs.flatMap (',' :: code ·) ++ close :: r) := by
  cases xs with
  | nil => exact ends_cons (List.mem_cons_of_mem ',' hclose) r
  | cons x xs => exact ends_cons (by decide) _

private theorem ne_comma (hclose : close ∈ [']', '\x7d']) : close ≠ ',' := by
  rintro rfl
  revert hclose
  decide

private theorem commas_append_inj (hclose : close ∈ [']', '\x7d']) {xs ys : List α}
    {r r' : List Char} (hr : ∀ x ∈ xs, ReadBack code mean x)
    (hhead : ∀ x rest rest', code x ++ rest ≠ close :: rest')
    (h : commas (xs.map code) ++ close :: r = commas (ys.map code) ++ close :: r') :
    xs.map mean = ys.map mean ∧ r = r' := by
  cases xs with
  | nil =>
    cases ys with
    | nil => exact ⟨rfl, (List.cons.inj h).2⟩
    | cons y ys =>
      rw [List.map_cons, commas, List.append_assoc] at h
      exact absurd h.symm (hhead y _ _)
  | cons x xs =>
    cases ys with
    | nil =>
      rw [List.map_cons, commas, List.append_assoc] at h
      exact absurd h (hhead x _ _)
    | cons y ys =>
      have htail : (x :: xs).flatMap (',' :: code ·) ++ close :: r =
          (y :: ys).flatMap (',' :: code ·) ++ close :: r' := by
        simpa [commas, List.flatMap_map] using h
      refine flatMap_append_inj mean (fun x _ _ heq => ?_) ?_ htail
      · exact ne_comma hclose (List.cons.inj heq).1.symm
      · intro x hx y xs' ys' heq
        exact hr x hx y _ _ (ends_commas hclose xs' r) (ends_commas hclose ys' r')
          (List.cons.inj heq).2

end

namespace JsonValue

private theorem dump_scalar (value : JsonScalar) : dump (.scalar value) = value.print :=
  fold_scalar ..

private theorem dump_text (value : String) : dump (.text value) = quote value := fold_text ..

private theorem dump_seq (kind : SequenceKind) (items : List JsonValue) :
    dump (.seq kind items) = '[' :: commas (items.map dump) ++ [']'] := fold_seq ..

private def dumpEntry (entry : String × JsonValue) : List Char :=
  quote entry.1 ++ ':' :: dump entry.2

private theorem dump_mapping (entries : List (String × JsonValue)) :
    dump (.mapping entries) = '\x7b' :: commas (entries.map dumpEntry) ++ ['\x7d'] := by
  refine (fold_mapping ..).trans ?_
  rw [List.map_map]
  rfl

private def shape : JsonValue → Option Char
  | .scalar _ => none
  | .text _ => some '"'
  | .seq _ _ => some '['
  | .mapping _ => some '\x7b'

private theorem dump_head (value : JsonValue) :
    ∃ c rest, dump value = c :: rest ∧
      value.shape = if isScalarChar c = true then none else some c := by
  cases value with
  | scalar value =>
    obtain ⟨hne, hchars⟩ := print_chars value
    obtain ⟨c, rest, hprint⟩ := List.exists_cons_of_ne_nil hne
    refine ⟨c, rest, (dump_scalar value).trans hprint, ?_⟩
    rw [if_pos (hchars c (by rw [hprint]; exact List.mem_cons_self))]
    rfl
  | text value => exact ⟨_, _, dump_text value, (if_neg (by simp [not_isScalarChar])).symm⟩
  | seq kind items => exact ⟨_, _, dump_seq kind items, (if_neg (by simp [not_isScalarChar])).symm⟩
  | mapping entries =>
    exact ⟨_, _, dump_mapping entries, (if_neg (by simp [not_isScalarChar])).symm⟩

private theorem shape_eq_of_dump {x y : JsonValue} {r r' : List Char}
    (h : dump x ++ r = dump y ++ r') : x.shape = y.shape := by
  obtain ⟨c, rest, hx, hshape⟩ := dump_head x
  obtain ⟨d, rest', hy, hshape'⟩ := dump_head y
  rw [hx, hy] at h
  rw [hshape, hshape', (List.cons.inj h).1]

private theorem dump_append_ne_close {close : Char} (hclose : close ∈ [']', '\x7d'])
    (value : JsonValue) (r r' : List Char) : dump value ++ r ≠ close :: r' := by
  intro h
  obtain ⟨c, rest, hdump, hshape⟩ := dump_head value
  rw [hdump] at h
  cases (List.cons.inj h).1
  have hplain : isScalarChar close = false := by
    refine not_isScalarChar (List.mem_cons_of_mem ',' ?_)
    exact List.mem_append_left ['"', '[', '\x7b'] hclose
  rw [hplain, if_neg Bool.false_ne_true] at hshape
  revert hclose
  cases value with
  | scalar value => cases hshape
  | text | seq | mapping =>
    cases hshape
    decide

private theorem dumpEntry_append_ne_close {close : Char} (hclose : close ∈ [']', '\x7d'])
    (entry : String × JsonValue) (r r' : List Char) : dumpEntry entry ++ r ≠ close :: r' := by
  intro h
  rw [dumpEntry, quote] at h
  cases (List.cons.inj h).1
  revert hclose
  decide

private theorem readBack_dumpEntry {entry : String × JsonValue}
    (h : ReadBack dump normalize entry.2) :
    ReadBack dumpEntry (fun e => (e.1, normalize e.2)) entry := by
  intro y r r' hr hr' heq
  rw [dumpEntry, dumpEntry, List.append_assoc, List.append_assoc] at heq
  obtain ⟨hk, hvalue⟩ := quote_append_inj heq
  obtain ⟨hmean, hrest⟩ := h y.2 r r' hr hr' (List.cons.inj hvalue).2
  exact ⟨Prod.ext hk hmean, hrest⟩

private theorem readBack_scalar (value : JsonScalar) : ReadBack dump normalize (.scalar value) := by
  intro y r r' hr hr' h
  have hshape := shape_eq_of_dump h
  cases y with
  | scalar value' =>
    rw [dump_scalar, dump_scalar] at h
    obtain ⟨hprint, hrest⟩ := append_inj_of_scalarChar (print_chars value).2
      (print_chars value').2 (not_scalarChar_of_ends hr) (not_scalarChar_of_ends hr') h
    rw [print_injective hprint]
    exact ⟨rfl, hrest⟩
  | text | seq | mapping => cases hshape

private theorem readBack_text (value : String) : ReadBack dump normalize (.text value) := by
  intro y r r' _ _ h
  have hshape := shape_eq_of_dump h
  cases y with
  | text value' =>
    rw [dump_text, dump_text] at h
    obtain ⟨rfl, hrest⟩ := quote_append_inj h
    exact ⟨rfl, hrest⟩
  | scalar | seq | mapping => exact absurd hshape (by simp [shape])

private theorem readBack_seq (kind : SequenceKind) {items : List JsonValue}
    (hitems : ∀ item ∈ items, ReadBack dump normalize item) :
    ReadBack dump normalize (.seq kind items) := by
  intro y r r' _ _ h
  have hshape := shape_eq_of_dump h
  cases y with
  | seq kind' items' =>
    rw [dump_seq, dump_seq] at h
    simp only [List.cons_append, List.append_assoc, List.nil_append, List.cons.injEq,
      true_and] at h
    obtain ⟨hitems, hrest⟩ := commas_append_inj (by decide) hitems
      (dump_append_ne_close (by decide)) h
    rw [normalize_seq, normalize_seq, hitems]
    exact ⟨rfl, hrest⟩
  | scalar | text | mapping => exact absurd hshape (by simp [shape])

private theorem readBack_mapping {entries : List (String × JsonValue)}
    (hentries : ∀ entry ∈ entries, ReadBack dump normalize entry.2) :
    ReadBack dump normalize (.mapping entries) := by
  intro y r r' _ _ h
  have hshape := shape_eq_of_dump h
  cases y with
  | mapping entries' =>
    rw [dump_mapping, dump_mapping] at h
    simp only [List.cons_append, List.append_assoc, List.nil_append, List.cons.injEq,
      true_and] at h
    obtain ⟨hentries, hrest⟩ := commas_append_inj (by decide)
      (fun entry hent => readBack_dumpEntry (hentries entry hent))
      (dumpEntry_append_ne_close (by decide)) h
    rw [normalize_mapping, normalize_mapping, hentries]
    exact ⟨rfl, hrest⟩
  | scalar | text | seq => exact absurd hshape (by simp [shape])

private theorem readBack_dump (value : JsonValue) : ReadBack dump normalize value := by
  induction value with
  | scalar value => exact readBack_scalar value
  | text value => exact readBack_text value
  | seq kind items ih => exact readBack_seq kind ih
  | mapping entries ih => exact readBack_mapping ih

/-- Values with the same text are the same, up to the kind of their sequences. -/
theorem normalize_eq_of_dump_eq {x y : JsonValue} (h : dump x = dump y) :
    normalize x = normalize y := by
  have hends : Ends [] := by simp [Ends]
  exact (readBack_dump x y [] [] hends hends (by rw [h])).1

-- an accent and a character beyond the sixteen bits of a code unit
example : String.ofList (dump (.mapping [("é", .seq .tuple [.scalar (.int (-3)), .text "𝄞"])])) =
    "\x7b\"\\u00e9\":[-3,\"\\ud834\\udd1e\"]\x7d" := by
  decide +kernel

end JsonValue

end OpenTrader.Base
