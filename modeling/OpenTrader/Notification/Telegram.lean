import OpenTrader.Notification.Router

/-!
# Text of Telegram messages

Library `Notification`. `services/notification_service/telegram_gateway.py:15,104-119,145-152`. The
values of a message are escaped before they are put between the marks of the template. A reader of
MarkdownV2 takes the character after a backslash as text, and a reserved character as a mark. The
escape leaves a backslash as it is, so that the reader takes it for an escape.
-/

namespace OpenTrader.Notification
open Base

/-- `_MARKDOWN_V2_RESERVED`. -/
def markdownV2Reserved : List Char := "_*[]()~`>#+-=|\x7b\x7d.!".toList

/-- A character of a text, escaped. -/
def escapeMark (c : Char) : List Char := if c ∈ markdownV2Reserved then ['\\', c] else [c]

/-- `_escape_markdown_v2`; `telegram_gateway.py:145-152`. -/
def escapeMarkdownV2 (value : String) : String := String.ofList (value.toList.flatMap escapeMark)

variable (message : NotificationMessage)

/-- `str(message.metadata.get(key, default))`. -/
def NotificationMessage.metadataText (key default : String) : String :=
  ((message.metadata.find? (·.1 = key)).map (·.2)).getD default

/-- `render_telegram_message_text`; `telegram_gateway.py:104-119`. -/
def renderTelegramMessageText : String :=
  let title := escapeMarkdownV2 message.title
  let body := escapeMarkdownV2 message.body
  let severity := escapeMarkdownV2 message.severity.value
  let userId := escapeMarkdownV2 message.userId
  let traceId := escapeMarkdownV2 (message.metadataText "trace_id" "n/a")
  let decisionId := escapeMarkdownV2 (message.metadataText "decision_id" "n/a")
  "*" ++ title ++ "*\n" ++ body ++ "\n\n*severity:* `" ++ severity ++ "`\n*user:* `" ++ userId ++
    "`\n*trace:* `" ++ traceId ++ "`\n*decision:* `" ++ decisionId ++ "`"

/-! ### How a message is read -/

/-- What a reader makes of a character: text, a mark, or an escape of nothing at the end. -/
inductive MarkdownToken where
  | literal (c : Char)
  | mark (c : Char)
  | dangling
  deriving DecidableEq

/-- An unescaped character. -/
def plainToken (c : Char) : MarkdownToken :=
  if c ∈ markdownV2Reserved then .mark c else .literal c

/-- MarkdownV2: a backslash makes the next character text, and an unescaped reserved character is a
mark. -/
def readMarkdown : List Char → List MarkdownToken
  | [] => []
  | c :: cs =>
    if c = '\\' then
      match cs with
      | [] => [.dangling]
      | next :: rest => .literal next :: readMarkdown rest
    else plainToken c :: readMarkdown cs

/-- The characters as text. -/
def literals (cs : List Char) : List MarkdownToken := cs.map .literal

/-- The values of a message, each with the text of the template after it. -/
def messageValues : List (String × String) :=
  [(message.title, "*\n"), (message.body, "\n\n*severity:* `"),
    (message.severity.value, "`\n*user:* `"), (message.userId, "`\n*trace:* `"),
    (message.metadataText "trace_id" "n/a", "`\n*decision:* `"),
    (message.metadataText "decision_id" "n/a", "`")]

/-- The message as it is meant: the marks of the template, and the values as text. -/
def intendedTokens : List MarkdownToken :=
  .mark '*' :: (messageValues message).flatMap fun value =>
    literals value.1.toList ++ readMarkdown value.2.toList

/-! ### Reading what was escaped -/

section

variable {c : Char} {cs rest : List Char} {tokens : List MarkdownToken}

private theorem not_reserved_backslash : '\\' ∉ markdownV2Reserved := by decide

private theorem readMarkdown_escaped (c : Char) (cs : List Char) :
    readMarkdown ('\\' :: c :: cs) = .literal c :: readMarkdown cs := by
  simp [readMarkdown]

private theorem readMarkdown_plain (h : c ≠ '\\') (cs : List Char) :
    readMarkdown (c :: cs) = plainToken c :: readMarkdown cs := by
  rw [readMarkdown.eq_def]
  exact if_neg h

private theorem readMarkdown_escapeMark (h : c ≠ '\\') (cs : List Char) :
    readMarkdown (escapeMark c ++ cs) = .literal c :: readMarkdown cs := by
  unfold escapeMark
  split
  · exact readMarkdown_escaped c cs
  · next hplain =>
    rw [List.singleton_append, readMarkdown_plain h, plainToken, if_neg hplain]

private theorem readMarkdown_escape (h : '\\' ∉ cs) (rest : List Char) :
    readMarkdown (cs.flatMap escapeMark ++ rest) = literals cs ++ readMarkdown rest := by
  induction cs with
  | nil => rfl
  | cons c cs ih =>
    rw [List.mem_cons, not_or] at h
    rw [List.flatMap_cons, List.append_assoc, readMarkdown_escapeMark (Ne.symm h.1), ih h.2]
    rfl

private theorem readMarkdown_append (h : '\\' ∉ cs) (rest : List Char) :
    readMarkdown (cs ++ rest) = readMarkdown cs ++ readMarkdown rest := by
  induction cs with
  | nil => rfl
  | cons c cs ih =>
    rw [List.mem_cons, not_or] at h
    rw [List.cons_append, readMarkdown_plain (Ne.symm h.1), readMarkdown_plain (Ne.symm h.1),
      ih h.2]
    rfl

private theorem head_readMarkdown (hrest : rest.head? ≠ some '\\') :
    (readMarkdown rest).head? ≠ some (.literal '\\') := by
  cases rest with
  | nil => simp [readMarkdown]
  | cons c rest =>
    have hc : c ≠ '\\' := fun h => hrest (by rw [h]; rfl)
    rw [readMarkdown_plain hc, plainToken]
    split <;> simp [hc]

private theorem literals_backslash (count : ℕ) (cs : List Char) :
    List.replicate count (.literal '\\') ++ literals ('\\' :: cs) =
      .literal '\\' :: (List.replicate count (.literal '\\') ++ literals cs) := by
  rw [literals, List.map_cons, List.append_cons, ← List.replicate_succ']
  rfl

private theorem readMarkdown_after_backslash (hrest : rest.head? ≠ some '\\')
    (h : readMarkdown ('\\' :: (cs.flatMap escapeMark ++ rest)) = .literal '\\' :: tokens) :
    (∃ c more, cs = c :: more ∧ tokens.head? = some (.mark c)) ∨
      ∃ more, cs = '\\' :: more ∧ readMarkdown (more.flatMap escapeMark ++ rest) = tokens := by
  cases cs with
  | nil =>
    cases rest with
    | nil => simp [readMarkdown] at h
    | cons next rest =>
      rw [List.flatMap_nil, List.nil_append, readMarkdown_escaped, List.cons.injEq] at h
      exact absurd (congrArg some (MarkdownToken.literal.inj h.1)) hrest
  | cons next more =>
    rw [List.flatMap_cons, escapeMark] at h
    by_cases hreserved : next ∈ markdownV2Reserved
    · have hnext : next ≠ '\\' := fun h => not_reserved_backslash (h ▸ hreserved)
      rw [if_pos hreserved, List.append_assoc, List.cons_append, readMarkdown_escaped,
        List.singleton_append, readMarkdown_plain hnext, plainToken, if_pos hreserved] at h
      exact .inl ⟨next, more, rfl, by rw [← (List.cons.inj h).2]; rfl⟩
    · rw [if_neg hreserved, List.append_assoc, List.singleton_append, readMarkdown_escaped,
        List.cons.injEq, MarkdownToken.literal.injEq] at h
      exact .inr ⟨more, by rw [h.1], h.2⟩

-- A backslash is read together with what follows it. From then on the reader is behind by at least
-- one backslash of the text, here the `count` before the rest of it, and never catches up.
private theorem readMarkdown_ne_of_backslash {count : ℕ} (h : 0 < count ∨ '\\' ∈ cs)
    (hrest : rest.head? ≠ some '\\') :
    readMarkdown (cs.flatMap escapeMark ++ rest) ≠
      List.replicate count (.literal '\\') ++ literals cs ++ tokens := by
  induction hlen : cs.length using Nat.strong_induction_on generalizing count cs with
  | _ length ih =>
    subst hlen
    intro hr
    have hhead (hcount : 0 < count) :
        (readMarkdown (cs.flatMap escapeMark ++ rest)).head? = some (.literal '\\') := by
      obtain ⟨n, rfl⟩ := Nat.exists_eq_succ_of_ne_zero hcount.ne'
      rw [hr]
      rfl
    cases cs with
    | nil => exact head_readMarkdown hrest (hhead (by simpa using h))
    | cons c cs =>
      by_cases hc : c = '\\'
      · subst hc
        have hself : escapeMark '\\' = ['\\'] := if_neg not_reserved_backslash
        rw [literals_backslash, List.flatMap_cons, hself] at hr
        rcases readMarkdown_after_backslash hrest hr with
          ⟨c, more, rfl, hmark⟩ | ⟨more, rfl, hmore⟩
        · cases count with
          | zero => simp [literals] at hmark
          | succ count => simp [List.replicate_succ] at hmark
        · rw [literals_backslash] at hmore
          exact ih more.length (by simp only [List.length_cons]; omega) (.inl count.succ_pos) rfl
            hmore
      · rw [List.flatMap_cons, List.append_assoc, readMarkdown_escapeMark hc] at hr hhead
        have hz : count = 0 := by
          by_contra hcount
          exact hc (by simpa using hhead (Nat.pos_of_ne_zero hcount))
        subst hz
        have hm : '\\' ∈ cs := by simpa [Ne.symm hc] using h
        have htail : readMarkdown (cs.flatMap escapeMark ++ rest) =
            List.replicate 0 (.literal '\\') ++ literals cs ++ tokens := (List.cons.inj hr).2
        exact ih cs.length (by simp) (.inr hm) rfl htail

private theorem readMarkdown_ne_literals (h : '\\' ∈ cs) (hrest : rest.head? ≠ some '\\') :
    readMarkdown (cs.flatMap escapeMark ++ rest) ≠ literals cs ++ tokens :=
  @readMarkdown_ne_of_backslash cs rest tokens 0 (.inr h) hrest

end

/-! ### What is read back -/

-- The template has no backslash, so that only a value can be misread.
private theorem readMarkdown_values_iff {values : List (String × String)}
    (hafter : ∀ value ∈ values, value.2.toList ≠ [] ∧ '\\' ∉ value.2.toList) :
    readMarkdown (values.flatMap fun value =>
        value.1.toList.flatMap escapeMark ++ value.2.toList) =
      values.flatMap (fun value => literals value.1.toList ++ readMarkdown value.2.toList) ↔
      ∀ value ∈ values, '\\' ∉ value.1.toList := by
  induction values with
  | nil => simp [readMarkdown]
  | cons value values ih =>
    obtain ⟨⟨hne, hplain⟩, hrest⟩ := List.forall_mem_cons.mp hafter
    rw [List.flatMap_cons, List.flatMap_cons, List.append_assoc, List.append_assoc,
      List.forall_mem_cons, ← ih hrest]
    by_cases hvalue : '\\' ∈ value.1.toList
    · apply iff_of_false
      · refine readMarkdown_ne_literals hvalue fun hhead => hplain ?_
        rw [List.head?_append_of_ne_nil _ hne] at hhead
        exact List.mem_of_mem_head? hhead
      · exact fun h => h.1 hvalue
    · rw [readMarkdown_escape hvalue, readMarkdown_append hplain, List.append_cancel_left_eq,
        List.append_cancel_left_eq]
      exact (and_iff_right hvalue).symm

private theorem toList_renderTelegramMessageText :
    (renderTelegramMessageText message).toList = '*' :: (messageValues message).flatMap fun value =>
      value.1.toList.flatMap escapeMark ++ value.2.toList := by
  simp [renderTelegramMessageText, messageValues, escapeMarkdownV2]

/-- **Escaping for Telegram.** A text is read back from its escape exactly when it has no backslash,
and a message is read as it is meant exactly when none of its values has one. -/
theorem telegram_read_back_iff (text : String) (message : NotificationMessage) :
    (readMarkdown (escapeMarkdownV2 text).toList = literals text.toList ↔ '\\' ∉ text.toList) ∧
    (readMarkdown (renderTelegramMessageText message).toList = intendedTokens message ↔
      ∀ value ∈ messageValues message, '\\' ∉ value.1.toList) := by
  constructor
  · rw [escapeMarkdownV2, String.toList_ofList]
    constructor
    · intro hread hmem
      refine @readMarkdown_ne_literals text.toList [] [] hmem (by simp) ?_
      rwa [List.append_nil, List.append_nil]
    · intro hmem
      have hread := readMarkdown_escape hmem []
      rwa [List.append_nil, readMarkdown, List.append_nil] at hread
  · have hstar : plainToken '*' = .mark '*' := by decide
    rw [toList_renderTelegramMessageText, readMarkdown_plain (by decide), intendedTokens, hstar,
      List.cons.injEq, and_iff_right rfl]
    exact readMarkdown_values_iff (by simp [messageValues])

/-- A title with a backslash before a star ends the bold text and leaves the rest of the message
bold. -/
def boldTitle : NotificationMessage where
  messageId := "msg-1"
  userId := "user-1"
  gateway := "telegram"
  severity := .info
  title := "a\\*b"
  body := ""
  metadata := []

/-- The star of the title is read as a mark. -/
theorem title_star_read_as_mark :
    (readMarkdown (renderTelegramMessageText boldTitle).toList).take 5 =
        [.mark '*', .literal 'a', .literal '\\', .mark '*', .literal 'b'] ∧
      (intendedTokens boldTitle).take 5 =
        [.mark '*', .literal 'a', .literal '\\', .literal '*', .literal 'b'] := by
  decide +kernel

end OpenTrader.Notification
