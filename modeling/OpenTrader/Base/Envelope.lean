import Mathlib.Algebra.Order.Field.Rat
import OpenTrader.Base.Text

/-!
# Message envelopes

Library `Base`. The canonical envelope of every service message and its validation,
`services/shared/contracts/message_envelope.py:24-73`, with the loosely typed number
fields and mappings the payloads carry. Amounts are exact rationals.
-/

namespace OpenTrader.Base

/-- A payload entry read as a number: missing, `None`, a number, or a text that `float` and
`Decimal` refuse. Go decodes no text to a number, so that on its path a price given as text is
`invalid`, that of a number included. -/
inductive NumField where
  | absent
  | null
  | num (value : ℚ)
  | invalid (raw : String)
  deriving DecidableEq

namespace NumField

/-- An optional number as a payload entry. -/
def ofOption : Option ℚ → NumField
  | none => .null
  | some value => .num value

/-- `payload.get(key, fallback)`. -/
def orElse (field fallback : NumField) : NumField :=
  match field with
  | .absent => fallback
  | _ => field

/-- `float(value or 0.0)`, where the empty text is falsy; the error carries the refused text. -/
def toFloat (field : NumField) : Except String ℚ :=
  match field with
  | .absent => .ok 0
  | .null => .ok 0
  | .num value => .ok value
  | .invalid raw => if raw = "" then .ok 0 else .error raw

/-- `_to_float(value, default=default)`, which falls back on every refused value. -/
def toFloatD (field : NumField) (default : ℚ) : ℚ :=
  match field with
  | .num value => value
  | _ => default

end NumField

/-- `_positive_or_none`; `services/workers/execution_lifecycle.py:836-842`. -/
def positiveOrNone (value : Option ℚ) : Option ℚ :=
  match value with
  | none => none
  | some number => if number ≤ 0 then none else some number

/-- `_positive_or_none` of a payload entry, which also drops what is no number. -/
def NumField.positiveOrNone (field : NumField) : Option ℚ :=
  match field with
  | .num value => Base.positiveOrNone (some value)
  | _ => none

/-! ### Payloads -/

/-- A value of a loosely typed mapping: of one that is no `None`, text or mapping, only what `str`
prints is kept. -/
inductive PayloadValue where
  | null
  | text (value : String)
  | mapping (entries : List (String × PayloadValue)) (printed : String)
  | other (printed : String)

/-- The entries of an object; the first one of a key counts. -/
structure Payload where
  entries : List (String × PayloadValue)

namespace PayloadValue

/-- `str(value)`. -/
def print : PayloadValue → String
  | .null => "None"
  | .text value => value
  | .mapping _ printed => printed
  | .other printed => printed

/-- The value as text, `isinstance(value, str)`. -/
def asText : PayloadValue → Option String
  | .text value => some value
  | _ => none

/-- `dict(value) if isinstance(value, Mapping) else {}`. -/
def asPayload : PayloadValue → Payload
  | .mapping entries _ => ⟨entries⟩
  | _ => ⟨[]⟩

end PayloadValue

namespace Payload

/-- `payload.get(key)`. -/
def get? (payload : Payload) (key : String) : Option PayloadValue :=
  (payload.entries.find? (·.1 = key)).map (·.2)

/-- `str(payload.get(key, default))`. -/
def getText (payload : Payload) (key default : String) : String :=
  ((payload.get? key).map PayloadValue.print).getD default

end Payload

/-! ### Envelopes -/

/-- A message; a header entry is `none` when it is missing or not text, the payload when it
is missing or not an object. -/
structure Envelope (P : Type) where
  traceId : Option String
  decisionId : Option String
  mode : Option String
  idempotencyKey : Option String
  eventType : Option String
  emittedAt : Option String
  payload : Option P
  service : Option String := none
  deriving DecidableEq

/-! ### Identifier and timestamp formats -/

private def isHexDigit (c : Char) : Bool :=
  c.isDigit || decide ('a' ≤ c ∧ c ≤ 'f') || decide ('A' ≤ c ∧ c ≤ 'F')

variable (s : String) (text cs : List Char)

private def dropText : List Char :=
  if text.isPrefixOf cs then cs.drop text.length else cs

/-- The texts `uuid.UUID` reads: 32 hexadecimal digits, optionally hyphenated, in braces or
after `urn:uuid:`. What else `int(hex, 16)` takes in 32 characters (a sign, `0x`, underscores, white
space, digits of other scripts) is left out. -/
def isUuid : Bool :=
  let body := dropText "uuid:".toList (dropText "urn:".toList s.toList)
  let bare := (trimBy (fun c => c == '{' || c == '}') (String.ofList body)).toList
  let hex := bare.filter (· ≠ '-')
  hex.length == 32 && hex.all isHexDigit

/-- `str(uuid.UUID(text))`: the digits that are read, in lower case and hyphenated. -/
def uuidText : String :=
  let body := dropText "uuid:".toList (dropText "urn:".toList s.toList)
  let bare := (trimBy (fun c => c == '{' || c == '}') (String.ofList body)).toList
  let digits := (bare.filter (· ≠ '-')).map Char.toLower
  let block (first count : ℕ) := String.ofList ((digits.drop first).take count)
  block 0 8 ++ "-" ++ block 8 4 ++ "-" ++ block 12 4 ++ "-" ++ block 16 4 ++ "-" ++ block 20 12

private theorem isSpace_of_isHexDigit {c : Char} (h : isHexDigit c = true) : isSpace c = false := by
  have hbetween (low high : Char) (hc : low.val ≤ c.val ∧ c.val ≤ high.val) :
      low.toNat ≤ c.toNat ∧ c.toNat ≤ high.toNat :=
    ⟨UInt32.le_iff_toNat_le.mp hc.1, UInt32.le_iff_toNat_le.mp hc.2⟩
  apply isSpace_of_alphanumeric
  simp only [isHexDigit, Char.isDigit, Bool.or_eq_true, Bool.and_eq_true, decide_eq_true_eq] at h
  rcases h with (hdigit | hlower) | hupper
  · exact ⟨(hbetween '0' '9' hdigit).1, (hbetween '0' '9' hdigit).2.trans (by decide)⟩
  · exact ⟨le_trans (by decide) (hbetween 'a' 'f' hlower).1,
      (hbetween 'a' 'f' hlower).2.trans (by decide)⟩
  · exact ⟨le_trans (by decide) (hbetween 'A' 'F' hupper).1,
      (hbetween 'A' 'F' hupper).2.trans (by decide)⟩

private theorem dropText_sublist : (dropText text cs).Sublist cs := by
  unfold dropText
  split
  · exact List.drop_sublist _ _
  · exact List.Sublist.refl _

private theorem mem_dropText {cs : List Char} {c : Char} (h : c ∈ cs) :
    c ∈ text ∨ c ∈ dropText text cs := by
  unfold dropText
  split
  · next hprefix =>
    obtain ⟨tail, rfl⟩ := List.isPrefixOf_iff_prefix.mp hprefix
    rw [List.drop_left]
    exact List.mem_append.mp h
  · exact .inr h

/-- An identifier has 32 characters at least. -/
theorem length_of_isUuid {s : String} (h : isUuid s = true) : 32 ≤ s.toList.length := by
  simp only [isUuid, Bool.and_eq_true, beq_iff_eq] at h
  rw [← h.1]
  refine (List.length_filter_le _ _).trans ((trimBy_sublist _ _).length_le.trans ?_)
  rw [String.toList_ofList]
  exact ((dropText_sublist _ _).trans (dropText_sublist _ _)).length_le

/-- An identifier has no whitespace in it. -/
theorem isSpace_of_mem_uuid {s : String} (h : isUuid s = true) {c : Char} (hc : c ∈ s.toList) :
    isSpace c = false := by
  simp only [isUuid, Bool.and_eq_true, List.all_eq_true] at h
  have hfixed : ("urn:".toList ++ "uuid:".toList).all (fun d => !isSpace d) = true ∧
      isSpace '{' = false ∧ isSpace '}' = false ∧ isSpace '-' = false := by decide +kernel
  obtain ⟨hmarks, hopen, hclose, hhyphen⟩ := hfixed
  simp only [List.all_append, Bool.and_eq_true, List.all_eq_true, Bool.not_eq_true'] at hmarks
  rcases mem_dropText "urn:".toList hc with hc | hc
  · exact hmarks.1 c hc
  rcases mem_dropText "uuid:".toList hc with hc | hc
  · exact hmarks.2 c hc
  by_cases hbrace : c = '{' ∨ c = '}'
  · rcases hbrace with rfl | rfl
    · exact hopen
    · exact hclose
  by_cases hc' : c = '-'
  · rw [hc', hhyphen]
  rw [← String.toList_ofList (l := dropText _ _)] at hc
  have hbare := mem_trimBy_of_mem (p := fun d => d == '{' || d == '}') hc (by simpa using hbrace)
  exact isSpace_of_isHexDigit (h.2 c (List.mem_filter.mpr ⟨hbare, by simpa using hc'⟩))

/-- An identifier is not blank. -/
theorem strip_ne_empty_of_isUuid {s : String} (h : isUuid s = true) : strip s ≠ "" := by
  obtain ⟨c, hc⟩ := List.exists_mem_of_length_pos (lt_of_lt_of_le (by decide) (length_of_isUuid h))
  rw [Ne, strip_eq_empty_iff]
  intro hblank
  have hspace := hblank c hc
  rw [isSpace_of_mem_uuid h hc] at hspace
  cases hspace

private def readDigits : Nat → List Char → Option (Nat × List Char)
  | 0, cs => some (0, cs)
  | _ + 1, [] => none
  | n + 1, c :: cs =>
    if c.isDigit then
      (readDigits n cs).map fun (value, rest) => ((c.toNat - '0'.toNat) * 10 ^ n + value, rest)
    else none

private def below (bound : Nat) (cs : List Char) : Option (List Char) :=
  match readDigits 2 cs with
  | some (value, rest) => if value < bound then some rest else none
  | none => none

private def daysInMonth (year month : Nat) : Nat :=
  if month = 2 then
    if year % 4 = 0 ∧ (year % 100 ≠ 0 ∨ year % 400 = 0) then 29 else 28
  else if month = 4 ∨ month = 6 ∨ month = 9 ∨ month = 11 then 30 else 31

private def calendarDate : Option (List Char) := do
  let (year, rest) ← readDigits 4 cs
  let dashed := rest.head? = some '-'
  let (month, rest) ← readDigits 2 (if dashed then rest.drop 1 else rest)
  let rest ←
    if dashed then (if rest.head? = some '-' then some (rest.drop 1) else none) else some rest
  let (day, rest) ← readDigits 2 rest
  if 1 ≤ year ∧ 1 ≤ month ∧ month ≤ 12 ∧ 1 ≤ day ∧ day ≤ daysInMonth year month then some rest
  else none

private def fraction : List Char :=
  match cs with
  | '.' :: rest => if (rest.head?.any Char.isDigit) then rest.dropWhile Char.isDigit else cs
  | ',' :: rest => if (rest.head?.any Char.isDigit) then rest.dropWhile Char.isDigit else cs
  | _ => cs

private def clockTime : Option (List Char) := do
  let rest ← below 24 cs
  let colon := rest.head? = some ':'
  match below 60 (if colon then rest.drop 1 else rest) with
  | none => if colon then none else some rest
  | some afterMinute =>
    if colon ∧ afterMinute.head? ≠ some ':' then some afterMinute
    else
      match below 60 (if colon then afterMinute.drop 1 else afterMinute) with
      | none => if colon then none else some afterMinute
      | some afterSecond => some (fraction afterSecond)

private def zoneOffset : Bool :=
  match cs with
  | c :: rest => (c == '+' || c == '-') && clockTime rest == some []
  | [] => false

/-- The timestamps `_validate_iso_datetime` accepts: a calendar date, one separator, a clock
time and a zone, with `Z` read as `+00:00`. The week dates of `fromisoformat` are left out. -/
def isIsoDatetime : Bool :=
  let cs := s.toList.flatMap (fun c => if c = 'Z' then "+00:00".toList else [c])
  match calendarDate cs with
  | some (_ :: rest) =>
    match clockTime rest with
    | some zone => zoneOffset zone
    | none => false
  | _ => false

/-- What `_utc_now_iso()` returns: the text of a valid zoned timestamp. -/
structure UtcStamp where
  text : String
  valid : isIsoDatetime text = true
  deriving DecidableEq

/-- Name-based identifiers, `str(uuid.uuid5(uuid.NAMESPACE_URL, name))`: a non-blank text
without surrounding whitespace. -/
structure Uuid5 where
  text : String → String
  stripped : ∀ name, strip (text name) = text name
  nonempty : ∀ name, text name ≠ ""

/-! ### Validation -/

/-- Reasons of `EnvelopeValidationError`. -/
inductive EnvelopeValidationError where
  | missingFields (names : List String)
  | invalidUuid (field : String)
  | unknownMode
  | blankIdempotencyKey
  | blankEventType
  | invalidTimestamp (field : String)
  deriving DecidableEq

/-- Message text of a validation error. -/
def EnvelopeValidationError.message : EnvelopeValidationError → String
  | .missingFields names => "Missing required field(s): " ++ String.intercalate ", " names
  | .invalidUuid field => field ++ " must be a valid UUID"
  | .unknownMode => "mode must be one of: MOCK, REAL"
  | .blankIdempotencyKey => "idempotency_key must be a non-empty string"
  | .blankEventType => "event_type must be a non-empty string"
  | .invalidTimestamp field => field ++ " must be a valid ISO-8601 timestamp"

/-- Required header entries that are missing, in alphabetical order. -/
def missingFields {P : Type} (e : Envelope P) : List String :=
  (if e.decisionId.isNone then ["decision_id"] else []) ++
  (if e.emittedAt.isNone then ["emitted_at"] else []) ++
  (if e.eventType.isNone then ["event_type"] else []) ++
  (if e.idempotencyKey.isNone then ["idempotency_key"] else []) ++
  (if e.mode.isNone then ["mode"] else []) ++
  (if e.payload.isNone then ["payload"] else []) ++
  (if e.traceId.isNone then ["trace_id"] else [])

/-- `validate_envelope`; `message_envelope.py:45-73`. -/
def validateEnvelope {P : Type} (e : Envelope P) : Except EnvelopeValidationError Unit :=
  if missingFields e ≠ [] then .error (.missingFields (missingFields e))
  else if ¬ e.traceId.any isUuid then .error (.invalidUuid "trace_id")
  else if ¬ e.decisionId.any isUuid then .error (.invalidUuid "decision_id")
  else if ¬ (e.mode = some "MOCK" ∨ e.mode = some "REAL") then .error .unknownMode
  else if ¬ e.idempotencyKey.any (strip · ≠ "") then .error .blankIdempotencyKey
  else if ¬ e.eventType.any (strip · ≠ "") then .error .blankEventType
  else if ¬ e.emittedAt.any isIsoDatetime then .error (.invalidTimestamp "emitted_at")
  else .ok ()

private theorem missingFields_eq_nil_iff {P : Type} (e : Envelope P) :
    missingFields e = [] ↔ e.decisionId.isSome ∧ e.emittedAt.isSome ∧ e.eventType.isSome ∧
      e.idempotencyKey.isSome ∧ e.mode.isSome ∧ e.payload.isSome ∧ e.traceId.isSome := by
  have hone (o : Prop) [Decidable o] (name : String) :
      (if o then [name] else []) = [] ↔ ¬ o := by
    split
    · next h => simp [h]
    · next h => simp [h]
  simp only [missingFields, List.append_eq_nil_iff, hone, Option.isNone_iff_eq_none,
    ← Option.isSome_iff_ne_none, and_assoc]

private theorem isSome_of_any {α : Type} {o : Option α} {p : α → Bool} (h : o.any p = true) :
    o.isSome = true := by
  cases o with
  | none => cases h
  | some a => rfl

/-- An accepted envelope carries every header entry in its required form, and a payload. -/
theorem validateEnvelope_ok_iff {P : Type} (e : Envelope P) :
    validateEnvelope e = .ok () ↔
      e.traceId.any isUuid ∧ e.decisionId.any isUuid ∧
      (e.mode = some "MOCK" ∨ e.mode = some "REAL") ∧
      e.idempotencyKey.any (strip · ≠ "") ∧ e.eventType.any (strip · ≠ "") ∧
      e.emittedAt.any isIsoDatetime ∧ e.payload.isSome := by
  unfold validateEnvelope
  constructor
  · intro h
    split_ifs at h with hm ht hd hmode hk hv hs
    have hp := ((missingFields_eq_nil_iff e).mp (not_not.mp hm)).2.2.2.2.2.1
    exact ⟨ht, hd, hmode, hk, hv, hs, hp⟩
  · rintro ⟨ht, hd, hmode, hk, hv, hs, hp⟩
    have hmodeSome : e.mode.isSome = true := by
      rcases hmode with hmode | hmode <;> rw [hmode] <;> rfl
    have hm : missingFields e = [] := (missingFields_eq_nil_iff e).mpr
      ⟨isSome_of_any hd, isSome_of_any hs, isSome_of_any hv, isSome_of_any hk, hmodeSome, hp,
        isSome_of_any ht⟩
    rw [if_neg (not_not.mpr hm), if_neg (not_not.mpr ht), if_neg (not_not.mpr hd),
      if_neg (not_not.mpr hmode), if_neg (not_not.mpr hk), if_neg (not_not.mpr hv),
      if_neg (not_not.mpr hs)]

attribute [irreducible] isUuid isIsoDatetime

end OpenTrader.Base
