import Mathlib.Data.List.Infix
import OpenTrader.Base.PyFloat
import OpenTrader.Notification.Router

/-!
# Dispatch to the gateways

Library `Notification`. `services/notification_service/gateway_dispatch.py:41-184`. What a call of
`send` ends with is a parameter: outcome `n` of a stream answers call `n`, whatever the gateways do.
Delays are exact rationals; a power that no float holds raises before the delay is bounded, outside
of the `try`, and ends the dispatch. The task that persists a dead letter runs on its own. The sends
are a history: their number picks the next outcome, and nothing else reads it.
-/

namespace OpenTrader.Notification
open Base

/-! ### The dispatcher -/

/-- What a call of `send` ends with. -/
inductive SendOutcome where
  | returned (status : String) (detail : Option String)
  | raised (message className : String) (retryable : Bool)
  deriving DecidableEq

/-- `DeliveryResult`. -/
structure DeliveryResult where
  messageId : String
  gateway : String
  status : String
  attempt : ℕ
  detail : Option String
  deriving DecidableEq

/-- An entry of the dead-letter list. -/
structure DeadLetter where
  event : NotificationEvent
  message : NotificationMessage
  result : DeliveryResult

/-- The settings of `GatewayDispatcher`, as `__post_init__` accepts them; of a gateway its name. -/
structure GatewayDispatcher where
  gateways : Dict String String
  maxAttempts : ℕ := 3
  backoffBaseSeconds : ℚ := 1 / 5
  backoffMultiplier : ℚ := 2
  maxBackoffSeconds : ℚ := 2
  maxAttempts_pos : 0 < maxAttempts
  backoffBaseSeconds_nonneg : 0 ≤ backoffBaseSeconds
  one_le_backoffMultiplier : 1 ≤ backoffMultiplier
  maxBackoffSeconds_pos : 0 < maxBackoffSeconds

/-- The dead letters, the sends with their outcomes, and the delays slept. -/
structure DispatchState where
  dlq : List DeadLetter := []
  sends : List (NotificationMessage × SendOutcome) := []
  slept : List ℚ := []

/-- `_is_retryable_status`; `gateway_dispatch.py:177-179`. -/
def isRetryableStatus (status : String) : Bool :=
  ["RETRYABLE", "RETRYABLE_ERROR", "FAILED_RETRYABLE"].contains (upper (strip status))

/-- `detail or default`. -/
def detailOr (detail : Option String) (default : String) : String :=
  if truthy detail then detail.getD default else default

namespace GatewayDispatcher

variable (d : GatewayDispatcher) (outcomes : ℕ → SendOutcome) (event : NotificationEvent)

/-- `_sleep_after_attempt`; `gateway_dispatch.py:167-174`. Nothing when the power raises. -/
def sleepAfterAttempt (attempt : ℕ) (s : DispatchState) : Option DispatchState :=
  if d.maxAttempts ≤ attempt then some s
  else
    (floatPower d.backoffMultiplier (attempt - 1)).map fun power =>
      let delay := d.backoffBaseSeconds * power
      let boundedDelay := min delay d.maxBackoffSeconds
      if boundedDelay ≤ 0 then s else { s with slept := s.slept ++ [boundedDelay] }

/-- A failed result, which `_append_dlq` appends to the dead letters. -/
def fail (message : NotificationMessage) (gateway : String) (attempt : ℕ) (detail : String)
    (s : DispatchState) : Option DeliveryResult × DispatchState :=
  let failed : DeliveryResult := ⟨message.messageId, gateway, "FAILED", attempt, some detail⟩
  (some failed, { s with dlq := s.dlq ++ [⟨event, message, failed⟩] })

/-- The attempts that are left in `_dispatch_single`; `gateway_dispatch.py:92-165`. There is no
result when the wait after one of them raises. -/
def attempts (gateway : String) (message : NotificationMessage) :
    ℕ → Option String → DispatchState → Option DeliveryResult × DispatchState
  | 0, lastError, s =>
    fail event message gateway d.maxAttempts (detailOr lastError "delivery_failed") s
  | left + 1, _, s =>
    let attempt := d.maxAttempts - left
    let outcome := outcomes s.sends.length
    let s := { s with sends := s.sends ++ [(message, outcome)] }
    let again (lastError : String) :=
      match d.sleepAfterAttempt attempt s with
      | some slept => attempts gateway message left lastError slept
      | none => (none, s)
    match outcome with
    | .raised text className retryable =>
      let lastError := if text = "" then className else text
      if retryable then again lastError else fail event message gateway attempt lastError s
    | .returned status detail =>
      if status = "DELIVERED" then
        (some ⟨message.messageId, gateway, "DELIVERED", attempt, detail⟩, s)
      else if isRetryableStatus status then again (detailOr detail "retryable_delivery_failed")
      else fail event message gateway attempt (detailOr detail "terminal_delivery_failed") s

/-- One message of `dispatch`; `gateway_dispatch.py:71-85`. -/
def dispatchMessage (message : NotificationMessage) (s : DispatchState) :
    Option DeliveryResult × DispatchState :=
  match d.gateways.get? message.gateway with
  | none => fail event message message.gateway 0 "gateway_not_registered" s
  | some gateway => d.attempts outcomes event gateway message d.maxAttempts none s

/-- `dispatch`; `gateway_dispatch.py:64-87`. What a message raises ends it without results. -/
def dispatch :
    List NotificationMessage → DispatchState → Option (List DeliveryResult) × DispatchState
  | [], s => (some [], s)
  | message :: messages, s =>
    match d.dispatchMessage outcomes event message s with
    | (none, s) => (none, s)
    | (some result, s) =>
      let (results, s) := dispatch messages s
      (results.map (result :: ·), s)

end GatewayDispatcher

/-! ### Accounting -/

/-- The message was delivered. -/
def SendOutcome.delivered : SendOutcome → Bool
  | .returned status _ => status = "DELIVERED"
  | .raised .. => false

/-- The message may be sent again. -/
def SendOutcome.retryable : SendOutcome → Bool
  | .returned status _ => isRetryableStatus status
  | .raised _ _ retryable => retryable

/-- A message, the outcomes of its sends, and its result. -/
structure Handled where
  message : NotificationMessage
  sent : List SendOutcome
  result : DeliveryResult

/-- A result that accounts for the sends of its message. -/
structure Handled.Accounted (maxAttempts : ℕ) (h : Handled) : Prop where
  messageId : h.result.messageId = h.message.messageId
  settled : h.result.status = "DELIVERED" ∨ h.result.status = "FAILED"
  delivered : h.result.status = "DELIVERED" ↔ ∃ outcome ∈ h.sent, outcome.delivered = true
  attempt : h.result.attempt = h.sent.length
  bounded : h.sent.length ≤ maxAttempts
  /-- Only a retryable outcome is followed by another send. -/
  retried : ∀ outcome ∈ h.sent.dropLast, outcome.retryable = true

/-- The dead letter of a handled message, if it failed. -/
def Handled.deadLetters (event : NotificationEvent) (h : Handled) : List DeadLetter :=
  if h.result.status = "FAILED" then [⟨event, h.message, h.result⟩] else []

/-- A message to a gateway. -/
def messageTo (gateway : String) : NotificationMessage where
  messageId := "m-1"
  userId := "u-1"
  gateway
  severity := .info
  title := ""
  body := ""
  metadata := []

/-- The powers of all delays that can come between attempts are floats. -/
def GatewayDispatcher.PowersFit (d : GatewayDispatcher) : Prop :=
  ∀ attempt, attempt + 1 < d.maxAttempts → d.backoffMultiplier ^ attempt < floatOverflow

/-- Every message has one result, in order, that accounts for its sends, and the dead letters grow
by the messages that failed. -/
def GatewayDispatcher.Accounts (d : GatewayDispatcher) (outcomes : ℕ → SendOutcome)
    (event : NotificationEvent) (messages : List NotificationMessage) (s : DispatchState) : Prop :=
  let last := d.dispatch outcomes event messages s
  ∃ handled : List Handled,
    handled.map (·.message) = messages ∧ last.1 = some (handled.map (·.result)) ∧
    (∀ h ∈ handled, h.Accounted d.maxAttempts) ∧
    last.2.sends = s.sends ++ handled.flatMap (fun h => h.sent.map (h.message, ·)) ∧
    last.2.dlq = s.dlq ++ handled.flatMap (·.deadLetters event)

section

variable {d : GatewayDispatcher} {outcomes : ℕ → SendOutcome} {event : NotificationEvent}
  {message : NotificationMessage} {gateway : String} {s start : DispatchState}

private theorem floatPower_eq (d : GatewayDispatcher) (attempt : ℕ) :
    floatPower d.backoffMultiplier attempt =
      if d.backoffMultiplier ^ attempt < floatOverflow then some (d.backoffMultiplier ^ attempt)
      else none := by
  have hpos := one_le_pow₀ d.one_le_backoffMultiplier (n := attempt)
  rw [floatPower, abs_of_nonneg (by linarith)]

private theorem sleepAfterAttempt_keeps (h : d.PowersFit) (attempt : ℕ) (hpos : 0 < attempt)
    (s : DispatchState) : ∃ slept, d.sleepAfterAttempt attempt s = some slept ∧
      slept.sends = s.sends ∧ slept.dlq = s.dlq := by
  unfold GatewayDispatcher.sleepAfterAttempt
  split_ifs with hlast
  · exact ⟨s, rfl, rfl, rfl⟩
  · rw [floatPower_eq, if_pos (h _ (by omega)), Option.map_some]
    refine ⟨_, rfl, ?_⟩
    dsimp only
    split_ifs <;> exact ⟨rfl, rfl⟩

private theorem not_delivered_of_retryable {outcome : SendOutcome}
    (h : outcome.retryable = true) : outcome.delivered = false := by
  have hstat : isRetryableStatus "DELIVERED" = false := by decide +kernel
  cases outcome with
  | returned status detail =>
    refine decide_eq_false ?_
    rintro rfl
    cases hstat.symm.trans h
  | raised => rfl

private def Settles (d : GatewayDispatcher) (event : NotificationEvent)
    (message : NotificationMessage) (start : DispatchState)
    (last : Option DeliveryResult × DispatchState) : Prop :=
  ∃ sent result, last.1 = some result ∧
    (Handled.mk message sent result).Accounted d.maxAttempts ∧
    last.2.sends = start.sends ++ sent.map (message, ·) ∧
    last.2.dlq = start.dlq ++ (Handled.mk message sent result).deadLetters event

variable {sent : List SendOutcome} {lastError : Option String} {attempt left : ℕ}

private theorem settles_fail (detail : String)
    (hsends : s.sends = start.sends ++ sent.map (message, ·)) (hdlq : s.dlq = start.dlq)
    (hattempt : attempt = sent.length) (hbound : sent.length ≤ d.maxAttempts)
    (hretried : ∀ outcome ∈ sent.dropLast, outcome.retryable = true)
    (hlost : ∀ outcome ∈ sent, outcome.delivered = false) :
    Settles d event message start
      (GatewayDispatcher.fail event message gateway attempt detail s) := by
  refine ⟨sent, _, rfl, ⟨rfl, .inr rfl, iff_of_false ?_ ?_, hattempt, hbound, hretried⟩, hsends, ?_⟩
  · simp
  · rintro ⟨outcome, hm, hdelivered⟩
    cases (hlost outcome hm).symm.trans hdelivered
  · rw [← hdlq]
    rfl

-- Along the loop the sends so far were all retryable, and together with the attempts that are left
-- they are `max_attempts`.
private theorem settles_attempts (hfit : d.PowersFit) (hleft : sent.length + left = d.maxAttempts)
    (hretried : ∀ outcome ∈ sent, outcome.retryable = true)
    (hsends : s.sends = start.sends ++ sent.map (message, ·)) (hdlq : s.dlq = start.dlq) :
    Settles d event message start
      (d.attempts outcomes event gateway message left lastError s) := by
  induction left generalizing lastError sent s with
  | zero =>
    exact settles_fail (detailOr lastError "delivery_failed") hsends hdlq (by omega) (by omega)
      (fun outcome hm => hretried outcome (List.mem_of_mem_dropLast hm))
      (fun outcome hm => not_delivered_of_retryable (hretried outcome hm))
  | succ left ih =>
    generalize hout : outcomes s.sends.length = outcome
    have hsent : s.sends ++ [(message, outcome)] =
        start.sends ++ (sent ++ [outcome]).map (message, ·) := by
      rw [hsends, List.append_assoc, List.map_append]
      rfl
    have hattempt : d.maxAttempts - left = (sent ++ [outcome]).length := by
      rw [List.length_append, List.length_singleton]
      omega
    have hbound : (sent ++ [outcome]).length ≤ d.maxAttempts := by omega
    have hearlier : ∀ earlier ∈ (sent ++ [outcome]).dropLast, earlier.retryable = true := by
      rwa [List.dropLast_concat]
    obtain ⟨slept, hslept, hkept, hkept'⟩ := sleepAfterAttempt_keeps hfit
      (d.maxAttempts - left) (by omega) { s with sends := s.sends ++ [(message, outcome)] }
    have hagain (hretry : outcome.retryable = true) (lastError : Option String) :
        Settles d event message start
          (d.attempts outcomes event gateway message left lastError slept) := by
      refine ih (by omega) ?_ (hkept.trans hsent) (hkept'.trans hdlq)
      simpa [or_imp, forall_and, hretry] using hretried
    have hfail (hlost : outcome.delivered = false) (detail : String) :
        Settles d event message start
          (GatewayDispatcher.fail event message gateway (d.maxAttempts - left) detail
            { s with sends := s.sends ++ [(message, outcome)] }) := by
      refine settles_fail detail hsent hdlq hattempt hbound hearlier fun earlier hm => ?_
      rcases List.mem_append.mp hm with hm | hm
      · exact not_delivered_of_retryable (hretried earlier hm)
      · rwa [List.mem_singleton.mp hm]
    rw [GatewayDispatcher.attempts, hout]
    dsimp only
    rw [hslept]
    cases outcome with
    | raised text className retryable =>
      cases retryable with
      | true => exact hagain rfl _
      | false => exact hfail rfl _
    | returned status detail =>
      dsimp only
      by_cases hstat : status = "DELIVERED"
      · rw [if_pos hstat]
        refine ⟨sent ++ [.returned status detail], _, rfl,
          ⟨rfl, .inl rfl, iff_of_true rfl ?_, hattempt, hbound, hearlier⟩, hsent, ?_⟩
        · exact ⟨_, List.mem_concat_self, decide_eq_true hstat⟩
        · rw [← hdlq]
          exact (List.append_nil _).symm
      · rw [if_neg hstat]
        split
        · next hretry => exact hagain hretry _
        · exact hfail (decide_eq_false hstat) _

private theorem settles_dispatchMessage (d : GatewayDispatcher)
    (h : (∀ name, d.gateways.get? name = none) ∨ d.PowersFit) (outcomes : ℕ → SendOutcome)
    (event : NotificationEvent) (message : NotificationMessage) (s : DispatchState) :
    Settles d event message s (d.dispatchMessage outcomes event message s) := by
  have hn : s.sends = s.sends ++ ([] : List SendOutcome).map (message, ·) :=
    (List.append_nil _).symm
  unfold GatewayDispatcher.dispatchMessage
  cases hgateway : d.gateways.get? message.gateway with
  | none => exact settles_fail _ hn rfl rfl (Nat.zero_le _) (by simp) (by simp)
  | some gateway =>
    rcases h with hnone | hfit
    · cases (hnone message.gateway).symm.trans hgateway
    · exact settles_attempts hfit (zero_add _) (by simp) hn rfl

private theorem accounts_of_powersFit (h : (∀ name, d.gateways.get? name = none) ∨ d.PowersFit)
    (messages : List NotificationMessage) : d.Accounts outcomes event messages s := by
  induction messages generalizing s with
  | nil => exact ⟨[], rfl, rfl, by simp, (List.append_nil _).symm, (List.append_nil _).symm⟩
  | cons message messages ih =>
    obtain ⟨sent, result, hresult, haccounted, hsends, hdlq⟩ :=
      settles_dispatchMessage d h outcomes event message s
    generalize hone : d.dispatchMessage outcomes event message s = one at hresult hsends hdlq
    obtain ⟨_, middle⟩ := one
    obtain rfl := hresult
    obtain ⟨handled, hmessages, hresults, hall, hrest, hletters⟩ := ih (s := middle)
    refine ⟨⟨message, sent, result⟩ :: handled, by rw [List.map_cons, hmessages], ?_,
      List.forall_mem_cons.mpr ⟨haccounted, hall⟩, ?_, ?_⟩
    · rw [GatewayDispatcher.dispatch, hone, List.map_cons, ← Option.map_some, ← hresults]
    · rw [GatewayDispatcher.dispatch, hone, List.flatMap_cons, ← List.append_assoc, ← hsends]
      exact hrest
    · rw [GatewayDispatcher.dispatch, hone, List.flatMap_cons, ← List.append_assoc, ← hdlq]
      exact hletters

-- A gateway that always asks to be tried again is waited for until a power raises.
private theorem attempts_raise (hattempt : d.maxAttempts ≤ attempt + left)
    (hlast : attempt + 1 < d.maxAttempts) (hlarge : floatOverflow ≤ d.backoffMultiplier ^ attempt)
    (hleft : left ≤ d.maxAttempts) :
    (d.attempts (fun _ => .raised "" "" true) event gateway message left lastError s).1 = none := by
  induction left generalizing lastError s with
  | zero => omega
  | succ left ih =>
    rw [GatewayDispatcher.attempts]
    dsimp only
    rw [if_pos rfl]
    split
    · next slept hslept =>
      refine ih ?_ (by omega)
      by_contra hnow
      have hsame : d.maxAttempts - left - 1 = attempt := by omega
      rw [GatewayDispatcher.sleepAfterAttempt, if_neg (by omega), hsame, floatPower_eq,
        if_neg (not_lt.mpr hlarge)] at hslept
      cases hslept
    · rfl

end

end OpenTrader.Notification
