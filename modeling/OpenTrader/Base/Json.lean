import Mathlib.Data.Int.Notation
import Mathlib.Data.List.Basic

/-!
# JSON values

Library `Base`. Values as Python services hold them, with the two kinds of sequences that JSON makes
one, and the text of `json.dumps` with the separators `,` and `:` and ASCII output.
-/

namespace OpenTrader.Base

/-- The `repr` of a finite float, which determines it. -/
structure FloatText where
  text : String
  numeric : ∀ c ∈ text.toList, c.isDigit = true ∨ c ∈ ['.', 'e', '+', '-']
  fractional : ∃ c ∈ text.toList, c ∈ ['.', 'e']
  deriving DecidableEq

/-- A value without parts, other than text. -/
inductive JsonScalar where
  | null
  | bool (value : Bool)
  | int (value : ℤ)
  | float (value : FloatText)
  deriving DecidableEq

/-- A Python sequence that JSON can take. -/
inductive SequenceKind where
  | list
  | tuple
  deriving DecidableEq

/-- A JSON value; a mapping lists its entries in the order in which they were made. -/
inductive JsonValue where
  | scalar (value : JsonScalar)
  | text (value : String)
  | seq (kind : SequenceKind) (items : List JsonValue)
  | mapping (entries : List (String × JsonValue))

namespace JsonValue

/-! ### Recursion -/

section

variable {α : Type} (scalar : JsonScalar → α) (text : String → α)
  (seq : SequenceKind → List α → α) (mapping : List (String × α) → α)

mutual

/-- Replace the constructors of a value, from the inside out. -/
def fold : JsonValue → α
  | .scalar value => scalar value
  | .text value => text value
  | .seq kind items => seq kind (foldItems items)
  | .mapping entries => mapping (foldEntries entries)

private def foldItems : List JsonValue → List α
  | [] => []
  | item :: items => fold item :: foldItems items

private def foldEntries : List (String × JsonValue) → List (String × α)
  | [] => []
  | (key, value) :: entries => (key, fold value) :: foldEntries entries

end

private theorem foldItems_eq (items : List JsonValue) :
    foldItems scalar text seq mapping items = items.map (fold scalar text seq mapping) := by
  induction items with
  | nil => rfl
  | cons item items ih => rw [foldItems, ih, List.map_cons]

private theorem foldEntries_eq (entries : List (String × JsonValue)) :
    foldEntries scalar text seq mapping entries =
      entries.map fun e => (e.1, fold scalar text seq mapping e.2) := by
  induction entries with
  | nil => rfl
  | cons entry entries ih => rw [foldEntries, ih, List.map_cons]

@[simp] theorem fold_scalar (value : JsonScalar) :
    fold scalar text seq mapping (.scalar value) = scalar value := by
  rw [fold]

@[simp] theorem fold_text (value : String) :
    fold scalar text seq mapping (.text value) = text value := by
  rw [fold]

@[simp] theorem fold_seq (kind : SequenceKind) (items : List JsonValue) :
    fold scalar text seq mapping (.seq kind items) =
      seq kind (items.map (fold scalar text seq mapping)) := by
  rw [fold, foldItems_eq]

@[simp] theorem fold_mapping (entries : List (String × JsonValue)) :
    fold scalar text seq mapping (.mapping entries) =
      mapping (entries.map fun e => (e.1, fold scalar text seq mapping e.2)) := by
  rw [fold, foldEntries_eq]

end

/-- What holds of a value when it holds of its parts holds of every value. -/
@[elab_as_elim, induction_eliminator]
theorem inductionOn {motive : JsonValue → Prop} (scalar : ∀ value, motive (.scalar value))
    (text : ∀ value, motive (.text value))
    (seq : ∀ kind items, (∀ item ∈ items, motive item) → motive (.seq kind items))
    (mapping : ∀ entries, (∀ entry ∈ entries, motive entry.2) → motive (.mapping entries))
    (value : JsonValue) : motive value := by
  apply @JsonValue.rec motive (fun items => ∀ item ∈ items, motive item)
    (fun entries => ∀ entry ∈ entries, motive entry.2) (fun entry => motive entry.2)
  · exact scalar
  · exact text
  · exact seq
  · exact mapping
  · simp
  · intro item items hitem hitems
    exact List.forall_mem_cons.mpr ⟨hitem, hitems⟩
  · simp
  · intro entry entries hent hentries
    exact List.forall_mem_cons.mpr ⟨hent, hentries⟩
  · exact fun _ _ hvalue => hvalue

/-- The value with lists for all its sequences. -/
def normalize : JsonValue → JsonValue :=
  fold .scalar .text (fun _ items => .seq .list items) .mapping

section

@[simp] theorem normalize_scalar (value : JsonScalar) :
    normalize (.scalar value) = .scalar value := fold_scalar ..

@[simp] theorem normalize_text (value : String) : normalize (.text value) = .text value :=
  fold_text ..

@[simp] theorem normalize_seq (kind : SequenceKind) (items : List JsonValue) :
    normalize (.seq kind items) = .seq .list (items.map normalize) := fold_seq ..

@[simp] theorem normalize_mapping (entries : List (String × JsonValue)) :
    normalize (.mapping entries) = .mapping (entries.map fun e => (e.1, normalize e.2)) :=
  fold_mapping ..

/-- There is nothing left to normalize. -/
@[simp] theorem normalize_normalize (value : JsonValue) :
    normalize (normalize value) = normalize value := by
  induction value with
  | scalar | text => simp
  | seq kind items ih | mapping entries ih => simpa using ih

end

end JsonValue

/-! ### Text -/

/-- The escapes of one letter. -/
def shortEscapes : List (Char × Char) :=
  [('"', '"'), ('\\', '\\'), ('\x08', 'b'), ('\x0c', 'f'), ('\n', 'n'), ('\r', 'r'), ('\t', 't')]

/-- Four hexadecimal digits. -/
def hex4 (n : ℕ) : List Char :=
  [n / 4096 % 16, n / 256 % 16, n / 16 % 16, n % 16].map Nat.digitChar

/-- The UTF-16 code units of a character. -/
def codeUnits (c : Char) : List ℕ :=
  if c.toNat < 0x10000 then [c.toNat]
  else [0xd800 + (c.toNat - 0x10000) / 0x400, 0xdc00 + (c.toNat - 0x10000) % 0x400]

/-- A character within quotes. -/
def escapeChar (c : Char) : List Char :=
  match shortEscapes.find? (·.1 = c) with
  | some short => ['\\', short.2]
  | none =>
    if 32 ≤ c.toNat ∧ c.toNat ≤ 126 then [c]
    else (codeUnits c).flatMap fun unit => '\\' :: 'u' :: hex4 unit

/-- A text in quotes. -/
def quote (text : String) : List Char := '"' :: text.toList.flatMap escapeChar ++ ['"']

/-- Codes with commas between them. -/
def commas : List (List Char) → List Char
  | [] => []
  | code :: codes => code ++ codes.flatMap (',' :: ·)

/-- The text of a scalar. -/
def JsonScalar.print : JsonScalar → List Char
  | .null => "null".toList
  | .bool true => "true".toList
  | .bool false => "false".toList
  | .int value => value.repr.toList
  | .float value => value.text.toList

/-- The text of a value. -/
def JsonValue.dump : JsonValue → List Char :=
  fold JsonScalar.print quote (fun _ items => '[' :: commas items ++ [']'])
    fun entries => '\x7b' :: commas (entries.map fun e => quote e.1 ++ ':' :: e.2) ++ ['\x7d']

end OpenTrader.Base
