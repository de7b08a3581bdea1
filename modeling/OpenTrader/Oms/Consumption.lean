import OpenTrader.Base.DurableQueue
import OpenTrader.Base.Trace
import OpenTrader.Oms.Atomicity

/-!
# Order updates between the queue and the ledgers

Library `Oms`. `services/shared/runtime/rabbitmq_http_broker.py:181-210,286-314` and
`services/workers/oms_lifecycle.py:84-205`. The broker asks for one message and acknowledges it
with the same request, so the message has left the queue before `run_once` has seen it. Whatever
raises from then on takes the message with it: nothing publishes it again, and its queue is never
asked to make it a dead letter.
-/

namespace OpenTrader.Oms
open Base

/-! ### The broker -/

/-- A published message: its place in the order of publication, its envelope and the length of
the text the envelope was encoded to. -/
structure Message where
  tag : ℕ
  envelope : OrderEnvelope
  bytes : ℕ
  deriving DecidableEq

/-- `ackmode` of the fetch request; `rabbitmq_http_broker.py:298`. -/
def fetchAckMode : AckMode := .ackRequeueFalse

/-- `truncate` of the fetch request; `rabbitmq_http_broker.py:300`. -/
def fetchTruncate : ℕ := 50000

/-- How the HTTP request of a fetch fails: it does not get to the broker, or its response does not
get back. -/
inductive RequestFault where
  | unreached
  | responseLost
  deriving DecidableEq

/-- What `consume` raises. -/
inductive ConsumeError where
  | requestFailed
  | invalidJson
  deriving DecidableEq

variable (fault : Option RequestFault) (queue : DurableQueue Message)

/-- `RabbitMQHTTPTopicBroker.consume` with `_default_rabbitmq_http_fetch`, on a queue that exists;
`rabbitmq_http_broker.py:181-210,286-314`. -/
def consume : DurableQueue Message × Except ConsumeError (Option Message) :=
  match fault with
  | some .unreached => (queue, .error .requestFailed)
  | some .responseLost => ((queue.get fetchAckMode).2, .error .requestFailed)
  | none =>
    match (queue.get fetchAckMode).1 with
    | none => ((queue.get fetchAckMode).2, .ok none)
    | some message =>
      -- A text that was cut off lacks its closing brace, and `json.loads` refuses it.
      if message.bytes ≤ fetchTruncate then ((queue.get fetchAckMode).2, .ok (some message))
      else ((queue.get fetchAckMode).2, .error .invalidJson)

/-! ### A step that is interrupted -/

/-- The points of `run_once` between which its ledgers change. -/
inductive RaisePoint where
  | consumed
  | recorded
  | reconciled
  | positioned
  | booked
  deriving DecidableEq

/-- The ledgers at a point of `run_once`, if the step gets there; `oms_lifecycle.py:119-173`. -/
def ledgersAt (now : String) (s : RunnerState) (u : OrderUpdate) : RaisePoint → Option RunnerState
  | .consumed => some s
  | .recorded =>
    some { s with lifecycleEvents := s.lifecycleEvents.set u.orderId (eventsForOrder s u) }
  | .reconciled => some (reconciledState s u)
  | .positioned =>
    u.positionFill.bind fun fill =>
      (s.positions.apply now fill).toOption.map fun positions =>
        { reconciledState s u with positions }
  | .booked => (bookFill now (reconciledState s u) u).toOption

/-- The ledgers that an exception at a point of `run_once` leaves, if the step gets there. -/
def interruptedState (now : String) (s : RunnerState) (envelope : OrderEnvelope)
    (point : RaisePoint) : Option RunnerState :=
  match readUpdate now envelope with
  | .ok (some u) => ledgersAt now s u point
  | _ => if point = .consumed then some s else none

/-- `run_once` on a consumed envelope, with an exception at the given point: the ledgers it leaves
and whether it completed. -/
def runInterrupted (base : ℚ) (now : String) (raised : Option RaisePoint) (s : RunnerState)
    (envelope : OrderEnvelope) : RunnerState × Bool :=
  match raised.bind (interruptedState now s envelope) with
  | some left => (left, false)
  | none =>
    ((runOnce base now s envelope).1, (runOnce base now s envelope).2.toOption.isSome)

/-! ### Publishers, broker and consumer -/

/-- The queue `oms.events.order_updates` with its consumer: all messages ever published, the one
that `run_once` is at, and those it completed. -/
structure ConsumptionState where
  oms : RunnerState := {}
  queue : DurableQueue Message := {}
  published : List Message := []
  processing : Option Message := none
  processed : List Message := []

/-- A publication, the `consume` of a `run_once` and the rest of it. -/
inductive ConsumptionStep where
  | publish (envelope : OrderEnvelope) (bytes : ℕ)
  | fetch (fault : Option RequestFault)
  | finish (now : String) (raised : Option RaisePoint)

/-- One step. The consumer is one loop, so it fetches nothing before it is done with a message. -/
def consumptionStep (base : ℚ) (s : ConsumptionState) : ConsumptionStep → ConsumptionState
  | .publish envelope bytes =>
    let message : Message := { tag := s.published.length, envelope, bytes }
    { s with queue := s.queue.publish message, published := s.published ++ [message] }
  | .fetch fault =>
    match s.processing with
    | some _ => s
    | none =>
      { s with
        queue := (consume fault s.queue).1
        processing := (consume fault s.queue).2.toOption.join }
  | .finish now raised =>
    match s.processing with
    | none => s
    | some message =>
      { s with
        oms := (runInterrupted base now raised s.oms message.envelope).1
        processing := none
        processed :=
          if (runInterrupted base now raised s.oms message.envelope).2 then
            s.processed ++ [message]
          else s.processed }

/-- No published message is lost: each is in the queue or a dead letter, or the one that is being
processed, or processed. -/
def NoneLost (s : ConsumptionState) : Prop :=
  ∀ message ∈ s.published, message ∈ s.queue.contents ∨ s.processing = some message ∨
    message ∈ s.processed

/-! ### What is read from an envelope -/

/-- The step has nothing to do: there is no payload, or its order id or symbol is blank. -/
def NothingToDo (envelope : OrderEnvelope) : Prop :=
  ∀ payload ∈ envelope.payload,
    strip (payload.orderId.getD "") = "" ∨ strip (payload.symbol.getD "") = ""

/-- The numbers that the step reads are numbers, and the quantity is not zero. -/
def NumbersReadable (envelope : OrderEnvelope) : Prop :=
  ∀ payload ∈ envelope.payload,
    (∃ quantity, payload.quantity = .num quantity ∧ quantity ≠ 0) ∧
    (isFillEventType (envelope.eventType.getD "") = true →
      (∃ price, (payload.fillPrice.orElse payload.price).toFloat = .ok price) ∧
      ∃ fee, (payload.feePaid.orElse payload.fee).toFloat = .ok fee)

section

variable {now : String} {envelope : OrderEnvelope} {payload : OrderPayload}

private theorem resolveRequestedQuantity_isOk_iff (field : NumField) :
    (∃ requested, resolveRequestedQuantity field = .ok requested) ↔
      ∃ quantity, field = .num quantity ∧ quantity ≠ 0 := by
  cases field with
  | absent | null | invalid => simp [resolveRequestedQuantity]
  | num value =>
    by_cases hz : value = 0
    · simp [resolveRequestedQuantity, hz]
    · simp [resolveRequestedQuantity, hz]

private theorem toLifecycleEvent_isOk_iff (hbody : envelope.payload = some payload)
    (hid : payload.orderId.getD "" ≠ "") {quantity : ℚ}
    (hq : payload.quantity = .num quantity) :
    (∃ event, toLifecycleEvent now envelope = .ok event) ↔
      (isFillEventType (envelope.eventType.getD "") = true →
        (∃ price, (payload.fillPrice.orElse payload.price).toFloat = .ok price) ∧
        ∃ fee, (payload.feePaid.orElse payload.fee).toFloat = .ok fee) := by
  have hnum : (NumField.num quantity).toFloat = .ok quantity := rfl
  rw [toLifecycleEvent, hbody]
  cases isFillEventType (envelope.eventType.getD "") with
  | false => simp
  | true =>
    simp only [Bool.not_true, Bool.false_or, beq_iff_eq, hid, if_false, hq, hnum,
      bind_isOk_iff, mapError_eq_ok_iff]
    simp [pure_eq_ok_iff]

private theorem readUpdate_eq_none_iff :
    readUpdate now envelope = .ok none ↔ NothingToDo envelope := by
  unfold readUpdate NothingToDo
  cases envelope.payload with
  | none => simp
  | some payload =>
    dsimp only
    split
    · next hblank => simpa using hblank
    · next hblank =>
      refine iff_of_false ?_ ?_
      · intro h
        obtain ⟨requested, -, h⟩ := bind_eq_ok_iff.mp h
        obtain ⟨event, -, h⟩ := bind_eq_ok_iff.mp h
        cases h
      · intro h
        exact hblank (h payload rfl)

private theorem readUpdate_isSome_iff :
    (∃ u, readUpdate now envelope = .ok (some u)) ↔
      ¬ NothingToDo envelope ∧ NumbersReadable envelope := by
  unfold readUpdate NothingToDo NumbersReadable
  cases hbody : envelope.payload with
  | none => simp
  | some payload =>
    dsimp only
    split
    · next hblank => simp [hblank]
    · next hblank =>
      have hid : payload.orderId.getD "" ≠ "" := by
        intro hraw
        rw [hraw] at hblank
        exact hblank (.inl (by decide +kernel))
      simp only [bind_eq_ok_iff, pure_eq_ok_iff, Option.some.injEq]
      constructor
      · rintro ⟨u, requested, hreq, event, hev, -⟩
        obtain ⟨quantity, hq, hz⟩ :=
          (resolveRequestedQuantity_isOk_iff _).mp ⟨requested, hreq⟩
        refine ⟨fun h => hblank (h payload rfl), ?_⟩
        rintro _ ⟨⟩
        exact ⟨⟨quantity, hq, hz⟩,
          (toLifecycleEvent_isOk_iff hbody hid hq).mp ⟨event, hev⟩⟩
      · rintro ⟨-, h⟩
        obtain ⟨⟨quantity, hq, hz⟩, hf⟩ := h payload rfl
        obtain ⟨requested, hreq⟩ :=
          (resolveRequestedQuantity_isOk_iff _).mpr ⟨quantity, hq, hz⟩
        obtain ⟨event, hev⟩ :=
          (@toLifecycleEvent_isOk_iff now _ _ hbody hid _ hq).mpr hf
        exact ⟨_, requested, hreq, event, hev, rfl⟩

private theorem positionFill_eq_none_iff {u : OrderUpdate}
    (hr : readUpdate now envelope = .ok (some u)) :
    u.positionFill = none ↔ isFillEventType (envelope.eventType.getD "") = false := by
  have hledger : ledgerFill now envelope = u.positionFill := by
    unfold ledgerFill
    rw [hr]
  rw [← hledger]
  constructor
  · intro hn
    rw [← Bool.not_eq_true]
    intro htype
    obtain ⟨payload, hbody, ⟨hid, hfull⟩, ⟨hsym, hnamed⟩, -⟩ := readUpdate_eq_some hr
    obtain ⟨-, hnumbers⟩ := readUpdate_isSome_iff.mp ⟨u, hr⟩
    obtain ⟨⟨quantity, hq, hz⟩, hf⟩ := hnumbers payload hbody
    obtain ⟨⟨price, hprice⟩, fee, hfee⟩ := hf htype
    obtain ⟨fill, hm, -⟩ := @ledgerFill_of_fill now _ _ _ _ _ hbody htype
      (hid ▸ hfull) (hsym ▸ hnamed) hq hz hprice hfee
    rw [hn] at hm
    cases hm
  · exact ledgerFill_eq_none

end

/-! ### What loses no message -/

/-- The rest of a `run_once` completes: there is nothing to do and no exception right after the
message was consumed; or the numbers of the update are readable, neither engine refuses it, and no
exception comes at a point the step gets to. -/
def Finishes (now : String) (raised : Option RaisePoint) (s : RunnerState)
    (envelope : OrderEnvelope) : Prop :=
  NothingToDo envelope ∧ raised ≠ some .consumed ∨
    ¬ NothingToDo envelope ∧ NumbersReadable envelope ∧
      (∀ point ∈ raised,
        point = .positioned ∧ isFillEventType (envelope.eventType.getD "") = false) ∧
      ∀ u, readUpdate now envelope = .ok (some u) → Completes s u

section

variable {base : ℚ} {now : String} {raised : Option RaisePoint} {s : RunnerState}
  {envelope : OrderEnvelope} {u : OrderUpdate}

private theorem ledgersAt_eq_none_iff (h : Completes s u) (point : RaisePoint) :
    ledgersAt now s u point = none ↔ point = .positioned ∧ u.positionFill = none := by
  cases point with
  | consumed | recorded | reconciled => simp [ledgersAt]
  | positioned =>
    cases hf : u.positionFill with
    | none => simp [ledgersAt, hf]
    | some fill =>
      obtain ⟨book, hbook⟩ := (bookable_iff_of_fill now hf).mp h.1
      simp [ledgersAt, hf, hbook, Except.toOption]
  | booked =>
    have hkeep : (reconciledState s u).positions = s.positions := rfl
    cases hf : u.positionFill with
    | none => simp [ledgersAt, bookFill, hf, Except.toOption]
    | some fill =>
      obtain ⟨book, hbook⟩ := (bookable_iff_of_fill now hf).mp h.1
      simp [ledgersAt, bookFill, hf, hkeep, hbook, Except.toOption]

private theorem runInterrupted_snd :
    (runInterrupted base now raised s envelope).2 = true ↔
      raised.bind (interruptedState now s envelope) = none ∧
        ∃ processed, (runOnce base now s envelope).2 = .ok processed := by
  unfold runInterrupted
  split
  · next left hleft => simp [hleft]
  · next hn =>
    rw [Option.isSome_iff_exists, hn]
    simp only [toOption_eq_some_iff, true_and]

private theorem runInterrupted_completes_iff :
    (runInterrupted base now raised s envelope).2 = true ↔ Finishes now raised s envelope := by
  rw [runInterrupted_snd]
  cases hr : readUpdate now envelope with
  | error e =>
    refine iff_of_false ?_ ?_
    · rintro ⟨-, processed, hproc⟩
      rw [runOnce, hr] at hproc
      cases hproc
    · rintro (⟨hnothing, -⟩ | ⟨hdo, hnumbers, -⟩)
      · rw [← @readUpdate_eq_none_iff now, hr] at hnothing
        cases hnothing
      · obtain ⟨u, hu⟩ := (@readUpdate_isSome_iff now envelope).mpr ⟨hdo, hnumbers⟩
        rw [hr] at hu
        cases hu
  | ok update =>
    cases update with
    | none =>
      have hnothing : NothingToDo envelope := readUpdate_eq_none_iff.mp hr
      have hrun : ∃ processed, (runOnce base now s envelope).2 = .ok processed :=
        ⟨false, by rw [runOnce, hr]⟩
      rw [and_iff_left hrun, Finishes]
      simp only [hnothing, true_and, not_true_eq_false, false_and, or_false]
      cases raised with
      | none => simp
      | some point => simp [interruptedState, hr]
    | some u =>
      obtain ⟨hdo, hnumbers⟩ := readUpdate_isSome_iff.mp ⟨u, hr⟩
      have hpoints : interruptedState now s envelope = ledgersAt now s u := by
        funext point
        rw [interruptedState, hr]
      rw [runOnce_isOk_iff base s hr, hpoints, Finishes]
      simp only [hdo, hnumbers, false_and, not_false_eq_true, true_and, false_or, hr,
        Except.ok.injEq, Option.some.injEq, forall_eq']
      refine and_congr_left fun hcompletes => ?_
      rw [← positionFill_eq_none_iff hr]
      cases raised with
      | none => simp
      | some point => simpa using ledgersAt_eq_none_iff hcompletes point

end

/-- The step loses no message. A fetch of a message comes back with it, and the message was not too
long; and the rest of a `run_once` completes. -/
def Keeps (s : ConsumptionState) : ConsumptionStep → Prop
  | .publish _ _ => True
  | .fetch fault => s.processing = none → ∀ message ∈ s.queue.ready.head?,
      fault ≠ some .responseLost ∧ (fault = none → message.bytes ≤ fetchTruncate)
  | .finish now raised => ∀ message ∈ s.processing, Finishes now raised s.oms message.envelope

/-! ### Custody of the messages -/

private def located (s : ConsumptionState) : List Message :=
  s.queue.contents ++ (s.processing.toList ++ s.processed)

private theorem noneLost_iff_subset {s : ConsumptionState} :
    NoneLost s ↔ s.published ⊆ located s := by
  simp only [NoneLost, List.subset_def, located, List.mem_append, Option.mem_toList]

/-- What one step does to the messages: it issues one, moves one, or loses one. -/
private inductive Effect (s t : ConsumptionState) (keeps : Prop) : Prop where
  | issued (message : Message) (hkeeps : keeps) (htag : message.tag = s.published.length)
      (hpublished : t.published = s.published ++ [message])
      (hlocated : (located t).Perm (message :: located s))
  | moved (hkeeps : keeps) (hpublished : t.published = s.published)
      (hlocated : (located t).Perm (located s))
  | lost (message : Message) (hkeeps : ¬ keeps) (hpublished : t.published = s.published)
      (hlocated : (located s).Perm (message :: located t))

private def FetchKeeps : Prop :=
  ∀ message ∈ queue.ready.head?,
    fault ≠ some .responseLost ∧ (fault = none → message.bytes ≤ fetchTruncate)

/-- What one fetch does to the queue: it takes nothing, hands a message over, or drops one. -/
private inductive Taken (queue left : DurableQueue Message) (reply : Option Message)
    (keeps : Prop) : Prop where
  | nothing (hkeeps : keeps) (hqueue : left = queue) (hreply : reply = none)
  | handed (message : Message) (hkeeps : keeps)
      (hcontents : queue.contents.Perm (message :: left.contents)) (hreply : reply = some message)
  | dropped (message : Message) (hkeeps : ¬ keeps)
      (hcontents : queue.contents.Perm (message :: left.contents)) (hreply : reply = none)

private theorem consume_taken :
    Taken queue (consume fault queue).1 (consume fault queue).2.toOption.join
      (FetchKeeps fault queue) := by
  cases hready : queue.ready with
  | nil =>
    have hg := DurableQueue.get_of_empty hready fetchAckMode
    refine .nothing (by simp [FetchKeeps, hready]) ?_ ?_
    all_goals rcases fault with _ | _ | _ <;> simp [consume, hg, Except.toOption]
  | cons message rest =>
    have hg : (queue.get fetchAckMode).1 = some message := DurableQueue.get_fst hready _
    have htaken : queue.contents.Perm (message :: (queue.get fetchAckMode).2.contents) :=
      DurableQueue.perm_cons_contents_get hready
    cases fault with
    | none =>
      by_cases hbytes : message.bytes ≤ fetchTruncate
      · refine .handed message (by simp [FetchKeeps, hready, hbytes]) ?_ ?_
        · simpa [consume, hg, hbytes] using htaken
        · simp [consume, hg, hbytes, Except.toOption]
      · refine .dropped message (by simp [FetchKeeps, hready, hbytes]) ?_ ?_
        · simpa [consume, hg, hbytes] using htaken
        · simp [consume, hg, hbytes, Except.toOption]
    | some fault =>
      cases fault with
      | unreached =>
        exact .nothing (by simp [FetchKeeps]) rfl rfl
      | responseLost =>
        exact .dropped message (by simp [FetchKeeps, hready]) htaken rfl

section

variable (base : ℚ) (s : ConsumptionState)

private theorem publish_effect (envelope : OrderEnvelope) (bytes : ℕ) :
    Effect s (consumptionStep base s (.publish envelope bytes)) True := by
  refine .issued ⟨s.published.length, envelope, bytes⟩ trivial rfl rfl ?_
  exact (DurableQueue.perm_contents_publish _ _).append_right _

private theorem fetch_effect (fault : Option RequestFault) :
    Effect s (consumptionStep base s (.fetch fault)) (Keeps s (.fetch fault)) := by
  cases hproc : s.processing with
  | some message =>
    refine .moved ?_ ?_ ?_
    all_goals simp [consumptionStep, Keeps, hproc]
  | none =>
    have hkeeps : Keeps s (.fetch fault) ↔ FetchKeeps fault s.queue := by
      simp [Keeps, FetchKeeps, hproc]
    rw [hkeeps]
    have hsame : (consumptionStep base s (.fetch fault)).published = s.published := by
      simp [consumptionStep, hproc]
    cases consume_taken fault s.queue with
    | nothing hkept hqueue hreply =>
      refine .moved hkept hsame ?_
      simp [consumptionStep, located, hproc, hqueue, hreply]
    | handed message hkept hcontents hreply =>
      refine .moved hkept hsame ?_
      simp only [consumptionStep, located, hproc, hreply, Option.toList_some,
        Option.toList_none, List.nil_append, List.singleton_append]
      exact List.perm_middle.trans (hcontents.symm.append_right s.processed)
    | dropped message hlost hcontents hreply =>
      refine .lost message hlost hsame ?_
      simp only [consumptionStep, located, hproc, hreply, Option.toList_none,
        List.nil_append]
      exact hcontents.append_right s.processed

private theorem finish_effect (now : String) (raised : Option RaisePoint) :
    Effect s (consumptionStep base s (.finish now raised)) (Keeps s (.finish now raised)) := by
  cases hproc : s.processing with
  | none =>
    refine .moved ?_ ?_ ?_
    all_goals simp [consumptionStep, Keeps, hproc]
  | some message =>
    have hkeeps : Keeps s (.finish now raised) ↔
        (runInterrupted base now raised s.oms message.envelope).2 = true := by
      rw [runInterrupted_completes_iff, Keeps, hproc]
      simp
    by_cases hcompleted : (runInterrupted base now raised s.oms message.envelope).2 = true
    · refine .moved (hkeeps.mpr hcompleted) ?_ ?_
      · simp [consumptionStep, hproc]
      · simp only [consumptionStep, located, hproc, hcompleted, if_true, Option.toList_none,
          Option.toList_some, List.nil_append]
        exact List.perm_append_comm.append_left s.queue.contents
    · refine .lost message (fun h => hcompleted (hkeeps.mp h)) ?_ ?_
      · simp [consumptionStep, hproc]
      · simp only [consumptionStep, located, hproc, hcompleted, Option.toList_none,
          Option.toList_some, List.nil_append, List.singleton_append]
        exact List.perm_middle

private theorem step_effect (x : ConsumptionStep) :
    Effect s (consumptionStep base s x) (Keeps s x) := by
  cases x with
  | publish envelope bytes => exact publish_effect base s envelope bytes
  | fetch fault => exact fetch_effect base s fault
  | finish now raised => exact finish_effect base s now raised

end

/-- Messages are numbered as they are published, and each is in at most one place. -/
private structure Custody (s : ConsumptionState) : Prop where
  numbered : ∀ message ∈ s.published, message.tag < s.published.length
  tracks : Tracks s.published (located s)

private theorem custody_step (base : ℚ) (s : ConsumptionState) (x : ConsumptionStep)
    (h : Custody s) (hx : Keeps s x) : Custody (consumptionStep base s x) := by
  cases step_effect base s x with
  | issued message hkeeps htag hpub hlocated =>
    have hfresh : message ∉ s.published := by
      intro hm
      have hlt := h.numbered message hm
      omega
    constructor
    · rw [hpub]
      intro other hother
      rw [List.length_append, List.length_singleton]
      rcases List.mem_append.mp hother with hold | hnew
      · have hlt := h.numbered other hold
        omega
      · rw [List.mem_singleton.mp hnew]
        omega
    · rw [hpub]
      exact h.tracks.issue hfresh hlocated
  | moved hkeeps hpub hlocated =>
    constructor
    · rw [hpub]
      exact h.numbered
    · rw [hpub]
      exact h.tracks.move hlocated
  | lost message hkeeps hpub hlocated => exact absurd hx hkeeps

private theorem noneLost_step_iff (base : ℚ) (s : ConsumptionState) (x : ConsumptionStep)
    (h : Custody s) (hs : NoneLost s) : NoneLost (consumptionStep base s x) ↔ Keeps s x := by
  rw [noneLost_iff_subset] at hs ⊢
  cases step_effect base s x with
  | issued message hkeeps htag hpub hlocated =>
    refine iff_of_true ?_ hkeeps
    rw [hpub, hlocated.subset_congr_right]
    intro other hother
    rcases List.mem_append.mp hother with hold | hnew
    · exact List.mem_cons_of_mem message (hs hold)
    · rw [List.mem_singleton.mp hnew]
      exact List.mem_cons_self
  | moved hkeeps hpub hlocated =>
    refine iff_of_true ?_ hkeeps
    rw [hpub, hlocated.subset_congr_right]
    exact hs
  | lost message hkeeps hpub hlocated =>
    refine iff_of_false ?_ hkeeps
    obtain ⟨hissued, hgone⟩ := h.tracks.lose hlocated
    rw [hpub]
    exact fun hsubset => hgone (hsubset hissued)

/-- From any ledgers and an empty queue, whose dead letters are kept or not, no message is lost
in any state of a run exactly when every step keeps its message. -/
theorem noneLost_iff_keeps (base : ℚ) (oms : RunnerState) (deadLetterExchange : Bool)
    (steps : List ConsumptionStep) :
    Throughout (consumptionStep base) NoneLost
        { oms, queue := { deadLetterExchange } } steps ↔
      Along (consumptionStep base) Keeps { oms, queue := { deadLetterExchange } } steps := by
  have hstart : Custody { oms, queue := { deadLetterExchange } } := by
    constructor
    · rintro message ⟨⟩
    · exact ⟨List.nodup_nil, List.Subperm.refl _⟩
  have hempty : NoneLost { oms, queue := { deadLetterExchange } } := by
    rintro message ⟨⟩
  exact throughout_iff_along_of_inv (custody_step base) (noneLost_step_iff base) steps hstart hempty

private def closeUpdate : Message :=
  { tag := 0, envelope := filledEnvelope "a" "t1" "CLOSE" 1 100, bytes := 300 }

private def closeConsumed : ConsumptionState :=
  run (consumptionStep 1000) { queue := { deadLetterExchange := true } }
    [.publish closeUpdate.envelope closeUpdate.bytes, .fetch none, .finish "t1" none]

/-- The runner raises on a filled CLOSE, and its message is nowhere any more, although the queue
has a dead-letter exchange. -/
theorem refused_update_is_lost :
    closeConsumed.published = [closeUpdate] ∧ closeConsumed.queue.contents = [] ∧
      closeConsumed.processing = none ∧ closeConsumed.processed = [] ∧
      ¬ NoneLost closeConsumed := by
  have hfinal : closeConsumed.published = [closeUpdate] ∧ closeConsumed.queue.contents = [] ∧
      closeConsumed.processing = none ∧ closeConsumed.processed = [] := by decide +kernel
  obtain ⟨hpublished, hcontents, hprocessing, hprocessed⟩ := hfinal
  refine ⟨hpublished, hcontents, hprocessing, hprocessed, fun h => ?_⟩
  have hplace := h closeUpdate (by rw [hpublished]; exact List.mem_cons_self)
  rw [hcontents, hprocessing, hprocessed] at hplace
  simp at hplace

end OpenTrader.Oms
