import OpenTrader.Execution.Delivery
import OpenTrader.Worker.Step

/-!
# The queue loop of the Go execution service

Library `Execution`. `services/real_execution_go/internal/service/runner.go:39-97` over a queue that
gives a message back after `Nack(true)`. A delivery whose handling fails is put back, every other
one is acknowledged, a skipped one too; an acknowledgement that fails ends the loop. Which message
of the queue comes next is left open. The commands that reached the bridge, the publications that
did not happen and the acknowledged messages are histories that no step reads.
-/

namespace OpenTrader.Execution
open Base Oms Worker

/-- A command that reached the bridge, with the bridge's reply. -/
structure Executed where
  dispatch : Dispatch
  reply : Except String BridgeResult

namespace Executed

/-- The lifecycle event of an execution. -/
def event (e : Executed) (now : String) : OrderEnvelope :=
  lifecycleEvent now e.dispatch.envelope e.dispatch.command e.reply

/-- The event of the execution is among the messages. -/
def Reported (e : Executed) (published : List OrderEnvelope) : Prop :=
  ∃ now, e.event now ∈ published

end Executed

/-- The queue, the idempotency store and what happened so far. -/
structure LoopState where
  queue : List DeliveryBody
  store : DispatchStore := .empty
  executed : List Executed := []
  published : List OrderEnvelope := []
  unpublished : List String := []
  acknowledged : List DeliveryBody := []
  stopped : Bool := false

/-- One pass of the loop: the message received, by its place in the queue, the clock, the bridge
and the publisher as they behave now, and the error of the acknowledgement. -/
structure Turn where
  index : ℕ
  now : String
  deps : HandlerDeps
  ackError : Option String := none

/-- What happens to the service: a message arrives in its queue, or the loop takes a turn. -/
inductive RunnerEvent where
  | arrive (body : DeliveryBody)
  | turn (t : Turn)

namespace LoopState

/-- The execution of a call, if its command reached the bridge. -/
def execution (t : Turn) (body : DeliveryBody) (result : HandleResult) : Option Executed :=
  if result.command.isSome then
    (readDelivery body).toOption.map fun d => ⟨d, t.deps.execute d.command⟩
  else none

/-- The keys of the executions whose event was not published. -/
def unpublishedKeys (t : Turn) (executed : List Executed) : List String :=
  (executed.filter fun e => t.deps.publication (e.event t.now) ≠ .published).map
    (·.dispatch.dispatchKey)

/-- `Nack(true)` after an error, `Ack` otherwise, and the end of the loop when that fails;
`runner.go:71-90`. -/
def settle (s : LoopState) (t : Turn) (body : DeliveryBody) (error : Option String) : LoopState :=
  if error.isSome then s
  else if t.ackError.isSome then { s with stopped := true }
  else
    { s with
      queue := s.queue.eraseIdx t.index
      acknowledged := s.acknowledged ++ [body] }

/-- A delivery is handled and settled. -/
def deliver (s : LoopState) (t : Turn) (body : DeliveryBody) : LoopState :=
  let result := handleBody t.deps t.now s.store body
  let executed := (execution t body result).toList
  { s with
    store := result.store
    executed := s.executed ++ executed
    published := s.published ++ result.published.toList
    unpublished := s.unpublished ++ unpublishedKeys t executed : LoopState }.settle t body
      result.error

/-- One event. The loop goes on when there is no message, and not after it has ended. -/
def step (s : LoopState) : RunnerEvent → LoopState
  | .arrive body => { s with queue := s.queue ++ [body] }
  | .turn t =>
    if s.stopped then s
    else
      match s.queue[t.index]? with
      | none => s
      | some body => s.deliver t body

/-! ### What a delivery does -/

private def execute (s : LoopState) (store : DispatchStore) (e : Executed) (now : String)
    (outcome : Publication) : LoopState :=
  { s with
    store
    executed := s.executed ++ [e]
    published := if outcome = .published then s.published ++ [e.event now] else s.published
    unpublished :=
      if outcome = .published then s.unpublished
      else s.unpublished ++ [e.dispatch.dispatchKey] }

section

variable {s : LoopState} {t : Turn} {body : DeliveryBody} {d : Dispatch}

private theorem deliver_of_error {text : String} (h : readDelivery body = .error text) :
    s.deliver t body = s := by
  unfold deliver execution
  rw [handleBody_of_error h]
  simp [settle, unpublishedKeys]

private theorem deliver_of_taken (h : readDelivery body = .ok d)
    (htaken : (s.store.get? d.dispatchKey).isSome = true) :
    s.deliver t body = s.settle t body none := by
  unfold deliver execution
  rw [handleBody_of_taken h htaken]
  simp [unpublishedKeys]

private theorem deliver_of_free (h : readDelivery body = .ok d)
    (hfree : s.store.get? d.dispatchKey = none) :
    let e : Executed := ⟨d, t.deps.execute d.command⟩
    let outcome := t.deps.publication (e.event t.now)
    ∃ store : DispatchStore,
      (∀ key, (store.get? key).isSome = true ↔
        d.dispatchKey = key ∨ (s.store.get? key).isSome = true) ∧
      s.deliver t body =
        (s.execute store e t.now outcome).settle t body (handleError e.reply outcome.error) := by
  intro e outcome
  obtain ⟨store, hkeys, hres⟩ := @handleBody_of_free t.deps t.now s.store body d h hfree
  change _ = { store, command := some d.command,
               published := if outcome = .published then some (e.event t.now) else none,
               error := handleError e.reply outcome.error : HandleResult } at hres
  have hexecution : execution t body (handleBody t.deps t.now s.store body) = some e := by
    rw [execution, hres, h]
    rfl
  refine ⟨store, hkeys, ?_⟩
  unfold deliver
  dsimp only
  rw [hexecution, hres]
  congr 1
  by_cases hpub : outcome = .published
  · have hmessage : t.deps.publication (e.event t.now) = .published := hpub
    simp [execute, unpublishedKeys, hpub, hmessage]
  · have hmessage : t.deps.publication (e.event t.now) ≠ .published := hpub
    simp [execute, unpublishedKeys, hpub, hmessage]

end

/-! ### Acknowledged deliveries and their reports -/

/-- An acknowledged delivery whose key was executed has its execution reported. -/
def AcknowledgedReported (s : LoopState) : Prop :=
  ∀ body ∈ s.acknowledged, ∀ d, readDelivery body = .ok d →
    ∀ e ∈ s.executed, e.dispatch.dispatchKey = d.dispatchKey → e.Reported s.published

/-- The histories agree with the store: a record is a key that was executed, a published message is
the event of an execution, an execution is reported unless its key is among the unpublished, and
the key of an acknowledged delivery has a record. -/
structure Reports (s : LoopState) : Prop where
  taken : ∀ key, (s.store.get? key).isSome = true ↔
    ∃ e ∈ s.executed, e.dispatch.dispatchKey = key
  published : ∀ message ∈ s.published, ∃ e ∈ s.executed, ∃ now, message = e.event now
  unpublished : ∀ key ∈ s.unpublished, ∃ e ∈ s.executed, e.dispatch.dispatchKey = key
  reported : ∀ e ∈ s.executed,
    e.Reported s.published ↔ e.dispatch.dispatchKey ∉ s.unpublished
  acknowledged : ∀ body ∈ s.acknowledged, ∀ d, readDelivery body = .ok d →
    (s.store.get? d.dispatchKey).isSome = true

private theorem reports_start (queue : List DeliveryBody) : Reports { queue } where
  taken key := by simp
  published := by simp
  unpublished := by simp
  reported := by simp
  acknowledged := by simp

section

variable {s : LoopState} {t : Turn} {body : DeliveryBody}

private theorem Reports.settle (h : Reports s) (error : Option String)
    (hk : ∀ d, readDelivery body = .ok d → (s.store.get? d.dispatchKey).isSome = true) :
    Reports (s.settle t body error) := by
  unfold LoopState.settle
  split
  · exact h
  · split
    · exact ⟨h.taken, h.published, h.unpublished, h.reported, h.acknowledged⟩
    · refine ⟨h.taken, h.published, h.unpublished, h.reported, ?_⟩
      intro body' hbody'
      rcases List.mem_append.mp hbody' with hold | hnew
      · exact h.acknowledged body' hold
      · rw [List.mem_singleton.mp hnew]
        exact hk

private theorem dispatchKey_eq_of_event {e e' : Executed} {now now' : String}
    (h : e.event now = e'.event now') : e.dispatch.dispatchKey = e'.dispatch.dispatchKey :=
  Dispatch.dispatchKey_eq_of_lifecycleEvent h

section

variable {store : DispatchStore} {e : Executed} {now : String} {outcome : Publication}

private theorem mem_published_execute {message : OrderEnvelope} :
    message ∈ (s.execute store e now outcome).published ↔
      message ∈ s.published ∨ outcome = .published ∧ message = e.event now := by
  unfold execute
  split <;> simp [*]

private theorem mem_unpublished_execute {key : String} :
    key ∈ (s.execute store e now outcome).unpublished ↔
      key ∈ s.unpublished ∨ outcome ≠ .published ∧ key = e.dispatch.dispatchKey := by
  unfold execute
  split <;> simp [*]

private theorem mem_executed_execute {e' : Executed} :
    e' ∈ (s.execute store e now outcome).executed ↔ e' ∈ s.executed ∨ e' = e := by
  unfold execute
  simp

private theorem Reports.fresh (h : Reports s) (hfree : s.store.get? e.dispatch.dispatchKey = none) :
    (∀ e' ∈ s.executed, e'.dispatch.dispatchKey ≠ e.dispatch.dispatchKey) ∧
      e.dispatch.dispatchKey ∉ s.unpublished := by
  have hk : ¬ (s.store.get? e.dispatch.dispatchKey).isSome = true := by simp [hfree]
  constructor
  · intro e' he' heq
    exact hk ((h.taken _).mpr ⟨e', he', heq⟩)
  · intro hm
    exact hk ((h.taken _).mpr (h.unpublished _ hm))

private theorem reported_execute_of_ne {e' : Executed}
    (hne : e'.dispatch.dispatchKey ≠ e.dispatch.dispatchKey) :
    e'.Reported (s.execute store e now outcome).published ↔ e'.Reported s.published := by
  constructor
  · rintro ⟨now', hm⟩
    rcases mem_published_execute.mp hm with hold | ⟨-, hnew⟩
    · exact ⟨now', hold⟩
    · exact absurd (dispatchKey_eq_of_event hnew) hne
  · rintro ⟨now', hm⟩
    exact ⟨now', mem_published_execute.mpr (.inl hm)⟩

private theorem Reports.reported_execute_self (h : Reports s)
    (hfree : s.store.get? e.dispatch.dispatchKey = none) :
    e.Reported (s.execute store e now outcome).published ↔ outcome = .published := by
  constructor
  · rintro ⟨now', hm⟩
    rcases mem_published_execute.mp hm with hold | ⟨hnew, -⟩
    · obtain ⟨e', he', now'', hev⟩ := h.published _ hold
      exact absurd (dispatchKey_eq_of_event hev).symm ((h.fresh hfree).1 e' he')
    · exact hnew
  · intro hpub
    exact ⟨now, mem_published_execute.mpr (.inr ⟨hpub, rfl⟩)⟩

private theorem Reports.execute (h : Reports s) (hfree : s.store.get? e.dispatch.dispatchKey = none)
    (hkeys : ∀ key, (store.get? key).isSome = true ↔
      e.dispatch.dispatchKey = key ∨ (s.store.get? key).isSome = true) :
    Reports (s.execute store e now outcome) := by
  obtain ⟨hne, hnew⟩ := h.fresh hfree
  constructor
  · intro key
    change (store.get? key).isSome = true ↔ _
    rw [hkeys, h.taken]
    simp only [mem_executed_execute, or_and_right, exists_or, exists_eq_left]
    exact or_comm
  · intro message hmessage
    rcases mem_published_execute.mp hmessage with hold | ⟨-, rfl⟩
    · obtain ⟨e', he', hev⟩ := h.published _ hold
      exact ⟨e', mem_executed_execute.mpr (.inl he'), hev⟩
    · exact ⟨e, mem_executed_execute.mpr (.inr rfl), now, rfl⟩
  · intro key hk
    rcases mem_unpublished_execute.mp hk with hold | ⟨-, rfl⟩
    · obtain ⟨e', he', hkey'⟩ := h.unpublished _ hold
      exact ⟨e', mem_executed_execute.mpr (.inl he'), hkey'⟩
    · exact ⟨e, mem_executed_execute.mpr (.inr rfl), rfl⟩
  · intro e' he'
    rw [mem_unpublished_execute]
    rcases mem_executed_execute.mp he' with hold | rfl
    · rw [reported_execute_of_ne (hne e' hold), h.reported e' hold]
      simp [hne e' hold]
    · rw [h.reported_execute_self hfree]
      simp [hnew]
  · intro body' hbody' d hd
    exact (hkeys _).mpr (.inr (h.acknowledged body' hbody' d hd))

private theorem AcknowledgedReported.execute (hr : AcknowledgedReported s) (h : Reports s)
    (hfree : s.store.get? e.dispatch.dispatchKey = none) :
    AcknowledgedReported (s.execute store e now outcome) := by
  intro body' hbody' d hd e' he' hk
  rcases mem_executed_execute.mp he' with hold | rfl
  · rw [reported_execute_of_ne ((h.fresh hfree).1 e' hold)]
    exact hr body' hbody' d hd e' hold hk
  · have htaken := h.acknowledged body' hbody' d hd
    rw [← hk, hfree] at htaken
    cases htaken

end

private theorem acknowledgedReported_settle_iff {error : Option String} :
    AcknowledgedReported (s.settle t body error) ↔ AcknowledgedReported s ∧
      (error = none → t.ackError = none → ∀ d, readDelivery body = .ok d →
        ∀ e ∈ s.executed, e.dispatch.dispatchKey = d.dispatchKey → e.Reported s.published) := by
  unfold settle
  cases error with
  | some text => simp
  | none =>
    cases hack : t.ackError with
    | some text => simp [AcknowledgedReported]
    | none => simp [AcknowledgedReported, or_imp, forall_and]

end

/-- What a turn needs: a delivery that will be acknowledged has no key whose execution was not
published, and where its key is free, the bridge refuses the command or there is a publisher. -/
def KeepsReported (s : LoopState) : RunnerEvent → Prop
  | .arrive _ => True
  | .turn t =>
    s.stopped = false → t.ackError = none → ∀ body, s.queue[t.index]? = some body →
      ∀ d, readDelivery body = .ok d → d.dispatchKey ∉ s.unpublished ∧
        (s.store.get? d.dispatchKey = none →
          t.deps.publish.isSome = true ∨ ∃ text, t.deps.execute d.command = .error text)

section

variable {s : LoopState} {t : Turn} {body : DeliveryBody} {d : Dispatch}

private theorem Reports.deliver (h : Reports s) : Reports (s.deliver t body) := by
  cases hr : readDelivery body with
  | error text =>
    rw [deliver_of_error hr]
    exact h
  | ok d =>
    have honly : ∀ d', readDelivery body = .ok d' → d' = d := by
      intro d' hd'
      rw [hr] at hd'
      exact (Except.ok.inj hd').symm
    cases hfree : s.store.get? d.dispatchKey with
    | some record =>
      have htaken : (s.store.get? d.dispatchKey).isSome = true := by simp [hfree]
      rw [deliver_of_taken hr htaken]
      exact h.settle none fun d' hd' => by rw [honly d' hd', htaken]
    | none =>
      obtain ⟨store, hkeys, hdeliver⟩ := @deliver_of_free s t body d hr hfree
      rw [hdeliver]
      have hexecute := @Reports.execute s store ⟨d, t.deps.execute d.command⟩ t.now
        (t.deps.publication (Executed.event ⟨d, t.deps.execute d.command⟩ t.now)) h hfree hkeys
      exact hexecute.settle _ fun d' hd' => (hkeys _).mpr (.inl (by rw [honly d' hd']))

private theorem Reports.forall_reported_iff (h : Reports s)
    (htaken : (s.store.get? d.dispatchKey).isSome = true) :
    (∀ e ∈ s.executed, e.dispatch.dispatchKey = d.dispatchKey → e.Reported s.published) ↔
      d.dispatchKey ∉ s.unpublished := by
  constructor
  · intro hall
    obtain ⟨e, he, hk⟩ := (h.taken _).mp htaken
    rw [← hk]
    exact (h.reported e he).mp (hall e he hk)
  · intro hk e he heq
    exact (h.reported e he).mpr (by rwa [heq])

private theorem handleError_eq_none_iff {reply : Except String BridgeResult}
    {publishError : Option String} : handleError reply publishError = none ↔
      (¬ ∃ text, reply = .error text) ∧ publishError = none := by
  cases reply <;> cases publishError <;> simp [handleError]

private theorem publication_eq_published_iff {deps : HandlerDeps} {message : OrderEnvelope} :
    deps.publication message = .published ↔
      (deps.publication message).error = none ∧ deps.publish.isSome = true := by
  unfold HandlerDeps.publication
  cases deps.publish with
  | none => simp
  | some publish =>
    dsimp only
    cases publish message <;> simp [Publication.error]

private theorem acknowledgedReported_deliver_of_free (h : Reports s)
    (hr : AcknowledgedReported s) (hread : readDelivery body = .ok d)
    (hfree : s.store.get? d.dispatchKey = none) :
    AcknowledgedReported (s.deliver t body) ↔ (t.ackError = none →
      t.deps.publish.isSome = true ∨ ∃ text, t.deps.execute d.command = .error text) := by
  obtain ⟨store, hkeys, hdeliver⟩ := @deliver_of_free s t body d hread hfree
  have hself := @Reports.reported_execute_self s store ⟨d, t.deps.execute d.command⟩ t.now
    (t.deps.publication (Executed.event ⟨d, t.deps.execute d.command⟩ t.now)) h hfree
  rw [hdeliver, acknowledgedReported_settle_iff, handleError_eq_none_iff]
  constructor
  · rintro ⟨-, hall⟩ hack
    by_cases hpublisher : t.deps.publish = none
    · have herror : (t.deps.publication
          (Executed.event ⟨d, t.deps.execute d.command⟩ t.now)).error = none := by
        simp [HandlerDeps.publication, hpublisher, Publication.error]
      by_contra hno
      have hrep := hall ⟨fun hrefused => hno (.inr hrefused), herror⟩ hack d hread _
        (mem_executed_execute.mpr (.inr rfl)) rfl
      exact hno (.inl (publication_eq_published_iff.mp (hself.mp hrep)).2)
    · exact .inl (Option.isSome_iff_ne_none.mpr hpublisher)
  · intro hcond
    refine ⟨hr.execute h hfree, ?_⟩
    rintro ⟨hacc, herror⟩ hack d' hd' e' he' hk
    rw [hread] at hd'
    cases hd'
    rcases mem_executed_execute.mp he' with hold | rfl
    · exact absurd hk ((@Reports.fresh s ⟨d, t.deps.execute d.command⟩ h hfree).1 e' hold)
    · have hpublisher := (hcond hack).resolve_right hacc
      exact hself.mpr (publication_eq_published_iff.mpr ⟨herror, hpublisher⟩)

private theorem Reports.step (h : Reports s) (event : RunnerEvent) : Reports (s.step event) := by
  cases event with
  | arrive body => exact ⟨h.taken, h.published, h.unpublished, h.reported, h.acknowledged⟩
  | turn t =>
    rw [LoopState.step]
    split
    · exact h
    · split
      · exact h
      · exact h.deliver

private theorem acknowledgedReported_step_iff (h : Reports s) (hr : AcknowledgedReported s)
    (event : RunnerEvent) : AcknowledgedReported (s.step event) ↔ KeepsReported s event := by
  cases event with
  | arrive body => exact iff_of_true hr trivial
  | turn t =>
    rw [LoopState.step, KeepsReported]
    cases hstopped : s.stopped with
    | true => simpa using hr
    | false =>
      cases hbody : s.queue[t.index]? with
      | none => simpa using hr
      | some body =>
        simp only [Bool.false_eq_true, ↓reduceIte, Option.some.injEq, forall_eq', forall_const]
        cases hread : readDelivery body with
        | error text => simpa [deliver_of_error hread] using hr
        | ok d =>
          simp only [Except.ok.injEq, forall_eq']
          cases hfree : s.store.get? d.dispatchKey with
          | some record =>
            have htaken : (s.store.get? d.dispatchKey).isSome = true := by simp [hfree]
            rw [deliver_of_taken hread htaken, acknowledgedReported_settle_iff,
              and_iff_right hr]
            simp [hread, h.forall_reported_iff htaken]
          | none =>
            have hnew : d.dispatchKey ∉ s.unpublished :=
              (@Reports.fresh s ⟨d, t.deps.execute d.command⟩ h hfree).2
            rw [acknowledgedReported_deliver_of_free h hr hread hfree]
            simp [hnew]

end

/-- Whatever arrives and whatever the bridge and the publisher do, the acknowledged deliveries are
reported throughout a run exactly when every turn meets its condition. -/
theorem acknowledged_reported_iff (queue : List DeliveryBody) (events : List RunnerEvent) :
    Throughout step AcknowledgedReported { queue } events ↔
      Along step KeepsReported { queue } events :=
  @throughout_iff_along_of_inv _ _ step Reports AcknowledgedReported KeepsReported _
    (fun _ event h _ => h.step event) (fun _ event h hr => acknowledgedReported_step_iff h hr event)
    events (reports_start queue) (by simp [AcknowledgedReported])

/-- A bridge that accepts every command, and a publisher that returns the given error. -/
def acceptingDeps (publishError : Option String) : HandlerDeps :=
  { execute := fun _ => .ok ⟨"x", "NEW"⟩, publish := some fun _ => publishError }

/-- An order that was sent to the bridge while the publisher failed, and then comes again. -/
def redelivered : LoopState :=
  run step { queue := [.ok (sampleIntent "BUY" 1 none (some "x"))] }
    [.turn ⟨0, "2026-01-01T00:00:00Z", acceptingDeps (some "no route"), none⟩,
      .turn ⟨0, "2026-01-01T00:00:01Z", acceptingDeps none, none⟩]

/-- It is acknowledged the second time, and nothing was published. -/
theorem not_acknowledgedReported_redelivered : ¬ AcknowledgedReported redelivered := by
  have hfacts : redelivered.acknowledged.map
        (fun body => (readDelivery body).toOption.map (·.dispatchKey)) = [some "k:CREATE_ORDER"] ∧
      redelivered.executed.map (·.dispatch.dispatchKey) = ["k:CREATE_ORDER"] ∧
      redelivered.published.length = 0 := by
    decide +kernel
  obtain ⟨hacknowledged, hexecuted, hpublished⟩ := hfacts
  obtain ⟨body, hbody, hread⟩ := List.map_eq_singleton_iff.mp hacknowledged
  obtain ⟨e, he, hkey⟩ := List.map_eq_singleton_iff.mp hexecuted
  obtain ⟨d, hd, hkey'⟩ := Option.map_eq_some_iff.mp hread
  intro h
  obtain ⟨now, hmem⟩ := h body (by simp [hbody]) d (toOption_eq_some_iff.mp hd) e (by simp [he])
    (hkey.trans hkey'.symm)
  rw [List.length_eq_zero_iff.mp hpublished] at hmem
  cases hmem

/-! ### Draining the queue -/

end LoopState

/-- The bridge accepts what it is sent, the publisher, if there is one, has no error, and the
acknowledgement succeeds. -/
structure Turn.Succeeds (t : Turn) : Prop where
  bridge : ∀ command, ∃ result, t.deps.execute command = .ok result
  publisher : ∀ message, (t.deps.publication message).error = none
  ack : t.ackError = none

namespace LoopState

/-- The state after a number of turns. -/
def afterTurns (turns : ℕ → Turn) (s : LoopState) : ℕ → LoopState
  | 0 => s
  | n + 1 => (afterTurns turns s n).step (.turn (turns n))

/-- However the messages are picked, turns that succeed empty the queue after finitely many
deliveries. -/
def Drains (s : LoopState) : Prop :=
  ∀ turns : ℕ → Turn, (∀ n, (turns n).Succeeds) →
    (∀ n, (afterTurns turns s n).queue ≠ [] →
      (turns n).index < (afterTurns turns s n).queue.length) →
    ∃ n, (afterTurns turns s n).queue = []

section

variable {s : LoopState} {t : Turn} {body : DeliveryBody}

private theorem settle_of_succeeds (ht : t.Succeeds) :
    s.settle t body none =
      { s with
        queue := s.queue.eraseIdx t.index
        acknowledged := s.acknowledged ++ [body] } := by
  simp [settle, ht.ack]

private theorem queue_deliver {d : Dispatch} (ht : t.Succeeds) (hr : readDelivery body = .ok d) :
    (s.deliver t body).queue = s.queue.eraseIdx t.index ∧
      (s.deliver t body).stopped = s.stopped := by
  cases hfree : s.store.get? d.dispatchKey with
  | some record =>
    rw [deliver_of_taken hr (by simp [hfree]), settle_of_succeeds ht]
    exact ⟨rfl, rfl⟩
  | none =>
    obtain ⟨store, -, hdeliver⟩ := @deliver_of_free s t body d hr hfree
    obtain ⟨result, hres⟩ := ht.bridge d.command
    rw [hdeliver, hres, ht.publisher]
    dsimp only [handleError]
    rw [settle_of_succeeds ht]
    exact ⟨rfl, rfl⟩

private theorem step_turn (hstopped : s.stopped = false) (hbody : s.queue[t.index]? = some body) :
    s.step (.turn t) = s.deliver t body := by
  simp [step, hstopped, hbody]

private theorem afterTurns_of_readable {turns : ℕ → Turn}
    (hsucceeds : ∀ n, (turns n).Succeeds) (hstopped : s.stopped = false)
    (hreadable : ∀ body ∈ s.queue, ∃ d, readDelivery body = .ok d)
    (hpicked : ∀ n, (turns n).index < (afterTurns turns s n).queue.length) (n : ℕ) :
    (afterTurns turns s n).queue.length + n = s.queue.length ∧
      (afterTurns turns s n).stopped = false ∧
      ∀ body ∈ (afterTurns turns s n).queue, ∃ d, readDelivery body = .ok d := by
  induction n with
  | zero => exact ⟨rfl, hstopped, hreadable⟩
  | succ n ih =>
    obtain ⟨hlen, hrunning, hall⟩ := ih
    have hindex := hpicked n
    obtain ⟨d, hr⟩ := hall _ (List.getElem_mem hindex)
    obtain ⟨hqueue, hstop⟩ := @queue_deliver (afterTurns turns s n) _ _ d (hsucceeds n) hr
    rw [afterTurns, step_turn hrunning (List.getElem?_eq_getElem hindex)]
    refine ⟨?_, hstop.trans hrunning, ?_⟩
    · rw [hqueue, List.length_eraseIdx_of_lt hindex]
      omega
    · intro body hbody
      rw [hqueue] at hbody
      exact hall body (List.mem_of_mem_eraseIdx hbody)

private theorem mem_afterTurns_of_unreadable {turns : ℕ → Turn} {text : String}
    (hsucceeds : ∀ n, (turns n).Succeeds) (hstopped : s.stopped = false)
    (hbody : body ∈ s.queue) (hr : readDelivery body = .error text) (n : ℕ) :
    body ∈ (afterTurns turns s n).queue ∧ (afterTurns turns s n).stopped = false := by
  induction n with
  | zero => exact ⟨hbody, hstopped⟩
  | succ n ih =>
    obtain ⟨hm, hrunning⟩ := ih
    rw [afterTurns]
    cases hpick : (afterTurns turns s n).queue[(turns n).index]? with
    | none =>
      have hidle : (afterTurns turns s n).step (.turn (turns n)) = afterTurns turns s n := by
        simp [step, hrunning, hpick]
      rw [hidle]
      exact ⟨hm, hrunning⟩
    | some picked =>
      rw [step_turn hrunning hpick]
      cases hpicked : readDelivery picked with
      | error reason =>
        rw [deliver_of_error hpicked]
        exact ⟨hm, hrunning⟩
      | ok d =>
        obtain ⟨hqueue, hstop⟩ := @queue_deliver (afterTurns turns s n) _ _ d (hsucceeds n) hpicked
        rw [hqueue, hstop]
        refine ⟨?_, hrunning⟩
        obtain ⟨hindex, hg⟩ := List.getElem?_eq_some_iff.mp hpick
        have hperm := List.getElem_cons_eraseIdx_perm hindex
        rw [hg] at hperm
        rcases List.mem_cons.mp (hperm.mem_iff.mpr hm) with rfl | hrest
        · rw [hr] at hpicked
          cases hpicked
        · exact hrest

private theorem acceptingTurn_succeeds (now : String) :
    Turn.Succeeds ⟨0, now, acceptingDeps none, none⟩ where
  bridge _ := ⟨_, rfl⟩
  publisher _ := rfl
  ack := rfl

private theorem not_drains_of_unreadable {text : String} (hstopped : s.stopped = false)
    (hbody : body ∈ s.queue) (hr : readDelivery body = .error text) : ¬ Drains s := by
  intro hdrains
  have hstays := @mem_afterTurns_of_unreadable s body
    (fun _ => ⟨0, "", acceptingDeps none, none⟩) text (fun _ => acceptingTurn_succeeds "") hstopped
    hbody hr
  obtain ⟨n, hempty⟩ := hdrains _ (fun _ => acceptingTurn_succeeds "")
    fun n _ => List.length_pos_of_mem (hstays n).1
  have hm := (hstays n).1
  rw [hempty] at hm
  cases hm

end

/-- The loop empties its queue exactly when every message in it can be read: it decodes, it is valid
and its command is. -/
theorem drains_iff_readable (store : DispatchStore) (queue : List DeliveryBody) :
    Drains { queue, store } ↔ ∀ body ∈ queue, ∃ d, readDelivery body = .ok d := by
  constructor
  · intro hdrains body hbody
    cases hread : readDelivery body with
    | ok d => exact ⟨d, rfl⟩
    | error text => exact absurd hdrains (not_drains_of_unreadable rfl hbody hread)
  · intro hreadable turns hsucceeds hpicked
    by_contra hnever
    have hne : ∀ n, (afterTurns turns { queue, store } n).queue ≠ [] := fun n hn => hnever ⟨n, hn⟩
    obtain ⟨hlength, -⟩ := afterTurns_of_readable hsucceeds rfl hreadable
      (fun n => hpicked n (hne n)) queue.length
    apply hne queue.length
    apply List.length_eq_zero_iff.mp
    dsimp only at hlength
    omega

/-- A body that is no JSON is delivered for ever. -/
theorem not_drains_malformed : ¬ Drains { queue := [.error "unexpected end of JSON input"] } :=
  not_drains_of_unreadable rfl (List.mem_singleton_self _) rfl

end LoopState

end OpenTrader.Execution
