import Mathlib.Tactic.Linarith
import OpenTrader.Base.Dict
import OpenTrader.Base.SlidingWindow
import OpenTrader.Notification.Event

/-!
# Routing of notifications

Library `Notification`. `services/notification_service/policy_router.py:18-129`. The router decides
for every matching preference and gateway whether an event is sent, suppressed as a repetition, or
suppressed by the rate limit. Times are seconds, as given by the caller; the digest of a message id
is a parameter. The emissions of a run are a history that no step reads.
-/

namespace OpenTrader.Notification
open Base

/-! ### Preferences -/

/-- `NotificationPreference`. -/
structure NotificationPreference where
  userId : String
  minSeverity : NotificationSeverity := .info
  gateways : List String := ["telegram"]
  strategyIds : List String := []
  eventTypes : List String := []
  deriving DecidableEq

/-- `NotificationMessage`. -/
structure NotificationMessage where
  messageId : String
  userId : String
  gateway : String
  severity : NotificationSeverity
  title : String
  body : String
  metadata : List (String × String)
  deriving DecidableEq

/-- `_matches_preference`; `policy_router.py:101-113`. -/
def matchesPreference (pref : NotificationPreference) (event : NotificationEvent) : Bool :=
  if event.severity.rank < pref.minSeverity.rank then false
  else if pref.eventTypes ≠ [] ∧ event.eventType ∉ pref.eventTypes then false
  else if pref.strategyIds ≠ [] then
    decide (event.payload.getText "strategy_id" "" ∈ pref.strategyIds)
  else true

/-- `_render_body`; `policy_router.py:121-129`. -/
def renderBody (event : NotificationEvent) : String :=
  let strategy := event.payload.getText "strategy_id" "n/a"
  let symbol := event.payload.getText "symbol" "n/a"
  let reason := event.payload.getText "reason" ""
  let suffix := if reason = "" then "" else " reason=" ++ reason
  "event=" ++ event.eventType ++ " severity=" ++ event.severity.value ++ " strategy=" ++ strategy ++
    " symbol=" ++ symbol ++ " mode=" ++ event.mode ++ suffix

/-- `_message_id`; `policy_router.py:116-118`. -/
def messageId (digest : String → String) (userId gateway eventId : String) : String :=
  "msg-" ++ digest (userId ++ "|" ++ gateway ++ "|" ++ eventId)

/-- The message of an event for one user and gateway. -/
def message (digest : String → String) (userId gateway : String) (event : NotificationEvent) :
    NotificationMessage where
  messageId := messageId digest userId gateway event.notificationEventId
  userId
  gateway
  severity := event.severity
  title := "[" ++ event.severity.value ++ "] " ++ event.eventType
  body := renderBody event
  metadata := [("trace_id", event.traceId), ("decision_id", event.decisionId),
    ("event_type", event.eventType), ("service", event.service), ("mode", event.mode)]

/-! ### The router -/

/-- The settings of `NotificationPolicyRouter`, as `__post_init__` accepts them. -/
structure NotificationPolicyRouter where
  preferences : List NotificationPreference := []
  dedupeWindowSeconds : ℚ := 120
  rateLimitPerMinute : ℤ := 30
  dedupeWindowSeconds_pos : 0 < dedupeWindowSeconds
  rateLimitPerMinute_pos : 0 < rateLimitPerMinute

/-- What the router remembers. -/
structure RouterState where
  dedupeSeenAt : Dict (String × String × String) ℚ := Dict.empty
  rateEvents : Dict (String × String) (List ℚ) := Dict.empty
  dedupeCount : ℕ := 0
  rateLimitCount : ℕ := 0

namespace NotificationPolicyRouter

variable (router : NotificationPolicyRouter)

/-- The preferences, or the default one. -/
def activePrefs : List NotificationPreference :=
  if router.preferences = [] then [{ userId := "ops-default", minSeverity := .info }]
  else router.preferences

/-- `_consume_rate_budget`; `policy_router.py:90-98`. -/
def consumeRateBudget (s : RouterState) (userId gateway : String) (now : ℚ) : RouterState × Bool :=
  let entries := ((s.rateEvents.get? (userId, gateway)).getD []).filter (now - 60 ≤ ·)
  if router.rateLimitPerMinute ≤ entries.length then
    ({ s with rateEvents := s.rateEvents.set (userId, gateway) entries }, false)
  else ({ s with rateEvents := s.rateEvents.set (userId, gateway) (entries ++ [now]) }, true)

variable (digest : String → String) (event : NotificationEvent)

/-- An event for one user and gateway; `policy_router.py:49-83`. -/
def routeGateway (now : ℚ) (userId : String) (routed : RouterState × List NotificationMessage)
    (gateway : String) : RouterState × List NotificationMessage :=
  let (s, messages) := routed
  let dedupeKey := (userId, gateway, event.idempotencyKey)
  if (s.dedupeSeenAt.get? dedupeKey).any (now - · < router.dedupeWindowSeconds) then
    ({ s with dedupeCount := s.dedupeCount + 1 }, messages)
  else
    match router.consumeRateBudget s userId gateway now with
    | (s, false) => ({ s with rateLimitCount := s.rateLimitCount + 1 }, messages)
    | (s, true) =>
      ({ s with dedupeSeenAt := s.dedupeSeenAt.set dedupeKey now },
        messages ++ [message digest userId gateway event])

/-- An event for one preference. -/
def routePreference (now : ℚ) (routed : RouterState × List NotificationMessage)
    (pref : NotificationPreference) : RouterState × List NotificationMessage :=
  if matchesPreference pref event then
    pref.gateways.foldl (router.routeGateway digest event now pref.userId) routed
  else routed

/-- `NotificationPolicyRouter.route`; `policy_router.py:37-85`. -/
def route (s : RouterState) (event : NotificationEvent) (now : ℚ) :
    RouterState × List NotificationMessage :=
  router.activePrefs.foldl (router.routePreference digest event now) (s, [])

/-- The users and gateways an event is for: the gateways of each matching preference. -/
def targets : List (String × String) :=
  (router.activePrefs.filter (matchesPreference · event)).flatMap fun pref =>
    pref.gateways.map (pref.userId, ·)

end NotificationPolicyRouter

/-! ### Runs -/

/-- A message with the key and the time of its event. -/
structure Emission where
  message : NotificationMessage
  idempotencyKey : String
  time : ℚ

/-- The router and what it has emitted. -/
structure RouterRun where
  state : RouterState := {}
  emitted : List Emission := []

/-- An event is routed. -/
def RouterRun.step (router : NotificationPolicyRouter) (digest : String → String) (run : RouterRun)
    (call : NotificationEvent × ℚ) : RouterRun :=
  let (state, messages) := router.route digest run.state call.1 call.2
  { state
    emitted := run.emitted ++
      messages.map fun message => ⟨message, call.1.idempotencyKey, call.2⟩ }

/-- The times of what was emitted for a user and gateway. -/
def emittedTimes (emitted : List Emission) (userId gateway : String) : List ℚ :=
  (emitted.filter fun e => e.message.userId = userId ∧ e.message.gateway = gateway).map (·.time)

/-- The times of what was emitted for a user and gateway under one idempotency key. -/
def keyTimes (emitted : List Emission) (userId gateway key : String) : List ℚ :=
  (emitted.filter fun e => (e.message.userId = userId ∧ e.message.gateway = gateway) ∧
    e.idempotencyKey = key).map (·.time)

/-! ### One user and gateway -/

section

variable {router : NotificationPolicyRouter} {digest : String → String} {s : RouterState}
  {log : List Emission} {now now' : ℚ} {event : NotificationEvent}

/-- The router's memory against what was emitted: the last time of every key is remembered, the
times that count for the rate limit are kept, and both contracts hold so far. -/
private structure Accounts (router : NotificationPolicyRouter) (now : ℚ) (s : RouterState)
    (log : List Emission) : Prop where
  seen : ∀ userId gateway key,
    s.dedupeSeenAt.get? (userId, gateway, key) = (keyTimes log userId gateway key).getLast?
  apart : ∀ userId gateway key, (keyTimes log userId gateway key).Pairwise
    fun earlier later => router.dedupeWindowSeconds ≤ later - earlier
  tracks : ∀ userId gateway, KeepsRecent 60 now (emittedTimes log userId gateway)
    ((s.rateEvents.get? (userId, gateway)).getD [])
  limited : ∀ userId gateway,
    WithinLimit 60 router.rateLimitPerMinute (emittedTimes log userId gateway)

private theorem accounts_new (router : NotificationPolicyRouter) (now : ℚ) :
    Accounts router now {} [] where
  seen _ _ _ := rfl
  apart _ _ _ := .nil
  tracks _ _ := .nil 60 now
  limited _ _ := .nil router.rateLimitPerMinute_pos.le

private theorem Accounts.later (h : Accounts router now s log) (hnow : now ≤ now') :
    Accounts router now' s log :=
  ⟨h.seen, h.apart, fun userId gateway => (h.tracks userId gateway).later hnow, h.limited⟩

private theorem emittedTimes_append (userId gateway user gate : String) :
    emittedTimes
        (log ++ [⟨message digest userId gateway event, event.idempotencyKey, now⟩]) user gate =
      if userId = user ∧ gateway = gate then emittedTimes log user gate ++ [now]
      else emittedTimes log user gate := by
  unfold emittedTimes
  rw [List.filter_append, List.map_append]
  split
  · next h => rw [List.filter_cons_of_pos (by exact decide_eq_true h)]; rfl
  · next h => rw [List.filter_cons_of_neg (by rw [decide_eq_true_iff]; exact h)]; simp

private theorem keyTimes_append (userId gateway user gate key : String) :
    keyTimes
        (log ++ [⟨message digest userId gateway event, event.idempotencyKey, now⟩]) user gate key =
      if (userId = user ∧ gateway = gate) ∧ event.idempotencyKey = key then
        keyTimes log user gate key ++ [now]
      else keyTimes log user gate key := by
  unfold keyTimes
  rw [List.filter_append, List.map_append]
  split
  · next h => rw [List.filter_cons_of_pos (by exact decide_eq_true h)]; rfl
  · next h => rw [List.filter_cons_of_neg (by rw [decide_eq_true_iff]; exact h)]; simp

/-- The rate budget keeps the times that count, and has room exactly when fewer than the limit do.
-/
private theorem Accounts.consumeRateBudget (h : Accounts router now s log)
    (userId gateway : String) :
    (∃ rateEvents, router.consumeRateBudget s userId gateway now =
        ({ s with rateEvents }, false) ∧ Accounts router now { s with rateEvents } log) ∨
    ∃ rateEvents, router.consumeRateBudget s userId gateway now = ({ s with rateEvents }, true) ∧
      ((recent 60 now (emittedTimes log userId gateway)).length : ℤ) < router.rateLimitPerMinute ∧
      ∀ user gate, KeepsRecent 60 now
        (if userId = user ∧ gateway = gate then emittedTimes log user gate ++ [now]
          else emittedTimes log user gate)
        ((rateEvents.get? (user, gate)).getD []) := by
  have hkept := (h.tracks userId gateway).prune
  unfold NotificationPolicyRouter.consumeRateBudget
  dsimp only
  split
  · left
    refine ⟨_, rfl, h.seen, h.apart, fun user gate => ?_, h.limited⟩
    dsimp only
    rw [Dict.get?_set]
    split
    · next heq =>
      cases heq
      exact hkept
    · exact h.tracks user gate
  · next hroom =>
    right
    refine ⟨_, rfl, ?_, fun user gate => ?_⟩
    · rw [← (h.tracks userId gateway).agrees]
      exact not_le.mp hroom
    · rw [Dict.get?_set]
      by_cases htarget : userId = user ∧ gateway = gate
      · obtain ⟨rfl, rfl⟩ := htarget
        rw [if_pos rfl, if_pos ⟨rfl, rfl⟩]
        exact hkept.add
      · rw [if_neg htarget, if_neg (by simpa [Prod.ext_iff] using htarget)]
        exact h.tracks user gate

private theorem Accounts.apart_append (h : Accounts router now s log) {userId gateway key : String}
    (hfree : (s.dedupeSeenAt.get? (userId, gateway, key)).any
      (now - · < router.dedupeWindowSeconds) = false) :
    (keyTimes log userId gateway key ++ [now]).Pairwise
      fun earlier later => router.dedupeWindowSeconds ≤ later - earlier := by
  have hapart := h.apart userId gateway key
  rw [h.seen] at hfree
  rw [List.pairwise_append]
  refine ⟨hapart, List.pairwise_singleton _ _, fun earlier hearlier later hlater => ?_⟩
  rw [List.mem_singleton.mp hlater]
  generalize keyTimes log userId gateway key = times at *
  cases times using List.reverseRecOn with
  | nil => cases hearlier
  | append_singleton front last =>
    rw [List.getLast?_concat, Option.any_some, decide_eq_false_iff_not, not_lt] at hfree
    rcases List.mem_append.mp hearlier with hfront | hlast
    · -- an earlier time lies before the last one, by more than a window
      have hgap := (List.pairwise_append.mp hapart).2.2 earlier hfront last List.mem_cons_self
      linarith [router.dedupeWindowSeconds_pos]
    · rwa [List.mem_singleton.mp hlast]

private def emissions (event : NotificationEvent) (now : ℚ) (messages : List NotificationMessage) :
    List Emission :=
  messages.map fun message => ⟨message, event.idempotencyKey, now⟩

private theorem Accounts.routeGateway {messages : List NotificationMessage}
    (h : Accounts router now s (log ++ emissions event now messages)) (userId gateway : String) :
    let routed := router.routeGateway digest event now userId (s, messages) gateway
    Accounts router now routed.1 (log ++ emissions event now routed.2) := by
  intro routed
  subst routed
  unfold NotificationPolicyRouter.routeGateway
  dsimp only
  split
  · exact ⟨h.seen, h.apart, h.tracks, h.limited⟩
  · next hfree =>
    rw [Bool.not_eq_true] at hfree
    rcases h.consumeRateBudget userId gateway with
      ⟨rateEvents, hbudget, hkept⟩ | ⟨rateEvents, hbudget, hroom, htracks⟩
    · rw [hbudget]
      exact ⟨hkept.seen, hkept.apart, hkept.tracks, hkept.limited⟩
    · rw [hbudget]
      have hlog : log ++ emissions event now (messages ++ [message digest userId gateway event]) =
          (log ++ emissions event now messages) ++
            [⟨message digest userId gateway event, event.idempotencyKey, now⟩] := by
        rw [emissions, List.map_append, List.append_assoc]
        rfl
      dsimp only
      rw [hlog]
      constructor
      · intro user gate key
        rw [Dict.get?_set, keyTimes_append]
        by_cases htarget : (userId = user ∧ gateway = gate) ∧ event.idempotencyKey = key
        · obtain ⟨⟨rfl, rfl⟩, rfl⟩ := htarget
          rw [if_pos rfl, if_pos ⟨⟨rfl, rfl⟩, rfl⟩, List.getLast?_concat]
        · rw [if_neg htarget, if_neg (by simpa [Prod.ext_iff, and_assoc] using htarget)]
          exact h.seen user gate key
      · intro user gate key
        rw [keyTimes_append]
        split
        · next htarget =>
          obtain ⟨⟨rfl, rfl⟩, rfl⟩ := htarget
          exact h.apart_append hfree
        · exact h.apart user gate key
      · intro user gate
        rw [emittedTimes_append]
        exact htracks user gate
      · intro user gate
        rw [emittedTimes_append]
        split
        · next htarget =>
          obtain ⟨rfl, rfl⟩ := htarget
          exact (h.limited userId gateway).add hroom
        · exact h.limited user gate

private theorem routeGateway_count (router : NotificationPolicyRouter) (digest : String → String)
    (event : NotificationEvent) (now : ℚ) (userId gateway : String)
    (routed : RouterState × List NotificationMessage) :
    let next := router.routeGateway digest event now userId routed gateway
    next.2.length + next.1.dedupeCount + next.1.rateLimitCount =
      routed.2.length + routed.1.dedupeCount + routed.1.rateLimitCount + 1 := by
  have hbudget (s : RouterState) :
      (router.consumeRateBudget s userId gateway now).1.dedupeCount = s.dedupeCount ∧
        (router.consumeRateBudget s userId gateway now).1.rateLimitCount = s.rateLimitCount := by
    unfold NotificationPolicyRouter.consumeRateBudget
    dsimp only
    split <;> exact ⟨rfl, rfl⟩
  intro next
  subst next
  obtain ⟨s, messages⟩ := routed
  obtain ⟨hdedupe, hrate⟩ := hbudget s
  unfold NotificationPolicyRouter.routeGateway
  dsimp only
  split
  · dsimp only
    omega
  · split
    · next heq =>
      rw [heq] at hdedupe hrate
      dsimp only at hdedupe hrate ⊢
      omega
    · next heq =>
      rw [heq] at hdedupe hrate
      dsimp only at hdedupe hrate ⊢
      rw [List.length_append, List.length_singleton]
      omega

end

/-! ### Whole runs -/

section

variable {router : NotificationPolicyRouter} {digest : String → String} {s : RouterState}
  {log : List Emission} {now : ℚ} {event : NotificationEvent}

private theorem route_eq_foldl (router : NotificationPolicyRouter) (digest : String → String)
    (s : RouterState) (event : NotificationEvent) (now : ℚ) :
    router.route digest s event now =
      (router.targets event).foldl
        (fun routed target => router.routeGateway digest event now target.1 routed target.2)
        (s, []) := by
  unfold NotificationPolicyRouter.route NotificationPolicyRouter.targets
  rw [List.foldl_flatMap, List.foldl_filter]
  simp only [List.foldl_map]
  rfl

private theorem Accounts.route (h : Accounts router now s log) (event : NotificationEvent) :
    Accounts router now (router.route digest s event now).1
      (log ++ emissions event now (router.route digest s event now).2) := by
  have hfold (targets : List (String × String)) (routed : RouterState × List NotificationMessage)
      (hrouted : Accounts router now routed.1 (log ++ emissions event now routed.2)) :
      let last := targets.foldl
        (fun routed target => router.routeGateway digest event now target.1 routed target.2) routed
      Accounts router now last.1 (log ++ emissions event now last.2) := by
    induction targets generalizing routed with
    | nil => exact hrouted
    | cons target targets ih => exact ih _ (hrouted.routeGateway target.1 target.2)
  rw [route_eq_foldl]
  refine hfold _ _ ?_
  rwa [emissions, List.map_nil, List.append_nil]

private theorem route_count (router : NotificationPolicyRouter) (digest : String → String)
    (s : RouterState) (event : NotificationEvent) (now : ℚ) :
    let routed := router.route digest s event now
    routed.2.length + routed.1.dedupeCount + routed.1.rateLimitCount =
      s.dedupeCount + s.rateLimitCount + (router.targets event).length := by
  have hfold (targets : List (String × String)) (routed : RouterState × List NotificationMessage) :
      let last := targets.foldl
        (fun routed target => router.routeGateway digest event now target.1 routed target.2) routed
      last.2.length + last.1.dedupeCount + last.1.rateLimitCount =
        routed.2.length + routed.1.dedupeCount + routed.1.rateLimitCount + targets.length := by
    induction targets generalizing routed with
    | nil => rfl
    | cons target targets ih =>
      have hnext := routeGateway_count router digest event now target.1 target.2 routed
      have hrest := ih (router.routeGateway digest event now target.1 routed target.2)
      dsimp only [List.foldl_cons] at hnext hrest ⊢
      rw [hrest, hnext, List.length_cons]
      omega
  have hall := hfold (router.targets event) (s, [])
  rw [← route_eq_foldl] at hall
  simpa using hall

private theorem run_count (router : NotificationPolicyRouter) (digest : String → String)
    (calls : List (NotificationEvent × ℚ)) (start : RouterRun) :
    let last := run (RouterRun.step router digest) start calls
    last.emitted.length + last.state.dedupeCount + last.state.rateLimitCount =
      start.emitted.length + start.state.dedupeCount + start.state.rateLimitCount +
        (calls.map fun call => (router.targets call.1).length).sum := by
  induction calls generalizing start with
  | nil => rfl
  | cons call calls ih =>
    have hrest := ih (start.step router digest call)
    have hroute := route_count router digest start.state call.1 call.2
    rw [run_cons]
    dsimp only [RouterRun.step] at hrest hroute ⊢
    rw [hrest, List.length_append, List.length_map, List.map_cons, List.sum_cons]
    omega

/-- **Routing contract.** For events at times that do not go back and every user and gateway: two
messages under one key are at least the dedupe window apart, no closed minute has more messages than
the rate limit, and over the run every matching preference and gateway of every event is emitted or
counted as suppressed. -/
theorem routing_contract (router : NotificationPolicyRouter) (digest : String → String)
    {calls : List (NotificationEvent × ℚ)} (hordered : calls.Pairwise (·.2 ≤ ·.2)) :
    let last := run (RouterRun.step router digest) {} calls
    (∀ userId gateway,
      (∀ key, (keyTimes last.emitted userId gateway key).Pairwise
        fun earlier later => router.dedupeWindowSeconds ≤ later - earlier) ∧
      WithinLimit 60 router.rateLimitPerMinute (emittedTimes last.emitted userId gateway)) ∧
    last.emitted.length + last.state.dedupeCount + last.state.rateLimitCount =
      (calls.map fun call => (router.targets call.1).length).sum := by
  intro last
  have hstep (now : ℚ) (s : RouterRun) (call : NotificationEvent × ℚ)
      (h : Accounts router now s.state s.emitted) (hnow : now ≤ call.2) :
      Accounts router call.2 (s.step router digest call).state
        (s.step router digest call).emitted :=
    (h.later hnow).route call.1
  obtain ⟨now, haccounts⟩ := exists_run_of_ordered hstep (s := {}) (accounts_new router) hordered
  refine ⟨fun userId gateway => ⟨haccounts.apart userId gateway, haccounts.limited userId gateway⟩,
    ?_⟩
  simpa using run_count router digest calls {}

/-- Two preferences of one user, one of them with its gateway twice. -/
def sampleRouter : NotificationPolicyRouter where
  preferences := [{ userId := "user-1", gateways := ["telegram", "telegram"] },
    { userId := "user-1", minSeverity := .critical }]
  rateLimitPerMinute := 1
  dedupeWindowSeconds_pos := by norm_num
  rateLimitPerMinute_pos := by norm_num

/-- A critical event under a key. -/
def sampleEvent (idempotencyKey : String) : NotificationEvent where
  notificationEventId := "event-1"
  traceId := "trace-1"
  decisionId := "decision-1"
  mode := "REAL"
  eventType := "system.health"
  severity := .critical
  idempotencyKey
  emittedAt := "2026-03-01T09:00:00Z"
  service := "system_health"
  payload := ⟨[]⟩

/-- Of two events for three targets each, one message is sent, two targets are repetitions of it and
three are over the limit of one message a minute. -/
theorem routing_contract_sample :
    let calls := [(sampleEvent "key-1", 0), (sampleEvent "key-2", 30)]
    let last := run (RouterRun.step sampleRouter id) {} calls
    (last.emitted.length, last.state.dedupeCount, last.state.rateLimitCount) = (1, 2, 3) ∧
      last.emitted.length + last.state.dedupeCount + last.state.rateLimitCount =
        (calls.map fun call => (sampleRouter.targets call.1).length).sum := by
  intro calls last
  refine ⟨by decide +kernel, (routing_contract sampleRouter id ?_).2⟩
  decide +kernel

end

end OpenTrader.Notification
