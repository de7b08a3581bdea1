import OpenTrader.Execution.Handler
import OpenTrader.Worker.Conservation
import OpenTrader.Worker.Reports

/-!
# Accounting of the fills of a REAL order

Library `Execution`. Two producers publish into the queue of the OMS for one REAL intent: the Go
handler, `services/real_execution_go/internal/service/handler.go:48-209`, once with the bridge's
reply, and the lifecycle worker, `services/workers/execution_lifecycle.py:418-510`, with every
snapshot it applies. The OMS runner, `services/workers/oms_lifecycle.py:84-171`, books the fills of
both. The steps of the three interleave in any order.
-/

namespace OpenTrader.Execution
open Base Oms Worker

/-- Handler, worker and OMS around one intent, with the largest filled total the exchange has
reported for its order. -/
structure RealSystem where
  store : DispatchStore := Dict.empty
  orders : TrackedOrders := Dict.empty
  queue : List OrderEnvelope := []
  oms : RunnerState := {}
  reported : ℚ := 0

/-- What can happen: the handler takes the intent and gets a reply, at a moment when the exchange
has executed some quantity; the worker tracks the intent, applies a snapshot or evicts; the OMS
consumes a message. -/
inductive RealInput where
  | dispatch (now : String) (reply : Except String BridgeResult) (executed : ℚ)
  | track (now : ℚ)
  | snapshot (snapshot : LifecycleStatusSnapshot) (source : SnapshotSource) (clock : Clock)
  | evict (now : ℚ)
  | consume (now : String)

section

variable (config : WorkerConfig) (uuid5 : Uuid5) (base : ℚ) (intent : IntentEnvelope)

/-- The handler's call for a reply, with a publisher that works. -/
def handleIntent (s : RealSystem) (now : String) (reply : Except String BridgeResult) :
    HandleResult :=
  handle { execute := fun _ => reply, publish := some fun _ => none } now s.store intent

/-- One step of the system. A snapshot that resolves to no tracked order is not applied, and a
reply only counts when the command reached the bridge. -/
def realStep (s : RealSystem) : RealInput → RealSystem
  | .dispatch now reply executed =>
    let result := handleIntent intent s now reply
    { s with
      store := result.store
      queue := s.queue ++ result.published.toList
      reported := if result.command.isSome then max s.reported executed else s.reported }
  | .track now => { s with orders := (step config uuid5 s.orders (.intent intent now)).1 }
  | .snapshot snapshot source clock =>
    let result := step config uuid5 s.orders (.snapshot snapshot source clock)
    { s with
      orders := result.1
      queue := s.queue ++ (result.2.map (·.2.envelope)).toList
      reported :=
        if (resolveOrder s.orders snapshot).isSome then max s.reported snapshot.filledQuantityTotal
        else s.reported }
  | .evict now => { s with orders := (step config uuid5 s.orders (.evict now)).1 }
  | .consume now =>
    match s.queue with
    | [] => s
    | message :: queue => { s with queue, oms := (runOnce base now s.oms message).1 }

end

/-- Once the OMS has consumed everything, its position has moved from where it started by the
signed quantity the exchange reports as filled. -/
def AccountedOnce (symbol : String) (side : Side) (start : ℚ) (s : RealSystem) : Prop :=
  s.queue = [] → s.oms.positions.quantity symbol = start + side.sign * s.reported

/-! ### When a step counts a fill once -/

/-- An id that is blank to the OMS is blank to the handler, which trims less. -/
def ReadsAlike (id : String) : Prop := strip id = "" → trimSpace id = ""

/-- A reply that reads as a fill comes when the exchange has executed the whole quantity beyond
what was reported, for a symbol in upper case; any other reply when the exchange has executed
nothing beyond it. -/
def RepliesOnce (intent : IntentEnvelope) (order : TrackedLifecycleOrder) (s : RealSystem)
    (now : String) (reply : Except String BridgeResult) (executed : ℚ) : Prop :=
  (handleIntent intent s now reply).command.isSome →
    if isFillEventType (replyStatus reply).1 then
      executed = s.reported + order.requestedQuantity ∧ ReadsAlike (replyOrderId reply) ∧
        ∀ payload ∈ intent.payload, strip (payload.symbol.getD "") = order.symbol ∧
          ReadsAlike (payload.clientOrderId.getD "")
    else executed ≤ s.reported

/-- A snapshot that reads as a fill and grows the worker's total comes when the worker has reported
all that was reported, and does not make the worker emit a rest nobody executed; any other
snapshot brings no quantity beyond what was reported. -/
def ShowsOnce (s : RealSystem) (order : TrackedLifecycleOrder)
    (snapshot : LifecycleStatusSnapshot) : Prop :=
  snapshot.Stripped ∧
    if (readStatus snapshot.status).any (·.isFill) then
      (order.reportedFilledQuantity < snapshot.filledQuantityTotal →
        order.reportedFilledQuantity = s.reported) ∧ ¬ InventsFill order snapshot
    else snapshot.filledQuantityTotal ≤ s.reported

/-- A fill above the dust threshold, of the mode of the position it meets, that takes it to zero
or beyond the dust threshold. -/
def BooksExactly (oms : RunnerState) (fill : PositionFill) : Prop :=
  match signedQuantity fill with
  | .error _ => False
  | .ok quantity =>
    (∀ p ∈ oms.positions.get? fill.symbol, p.mode = fill.mode) ∧
      snap (oms.positions.quantity fill.symbol + quantity) =
        oms.positions.quantity fill.symbol + quantity

/-- The step counts what the exchange executed once. -/
def CountsOnce (intent : IntentEnvelope) (order : TrackedLifecycleOrder) (s : RealSystem) :
    RealInput → Prop
  | .dispatch now reply executed => RepliesOnce intent order s now reply executed
  | .snapshot snapshot _ _ => ∀ e ∈ resolveOrder s.orders snapshot, ShowsOnce s e.2 snapshot
  | .consume now => ∀ message ∈ s.queue.head?, ∀ fill ∈ ledgerFill now message,
      BooksExactly s.oms fill
  | .track _ => True
  | .evict _ => True

instance (id : String) : Decidable (ReadsAlike id) := inferInstanceAs (Decidable (_ → _))

instance (intent : IntentEnvelope) (order : TrackedLifecycleOrder) (s : RealSystem) (now : String)
    (reply : Except String BridgeResult) (executed : ℚ) :
    Decidable (RepliesOnce intent order s now reply executed) :=
  inferInstanceAs (Decidable (_ → ite _ _ _))

instance (s : RealSystem) (order : TrackedLifecycleOrder) (snapshot : LifecycleStatusSnapshot) :
    Decidable (ShowsOnce s order snapshot) :=
  inferInstanceAs (Decidable (_ ∧ ite _ _ _))

instance (oms : RunnerState) (fill : PositionFill) : Decidable (BooksExactly oms fill) := by
  unfold BooksExactly
  split <;> infer_instance

instance (intent : IntentEnvelope) (order : TrackedLifecycleOrder) (s : RealSystem)
    (x : RealInput) : Decidable (CountsOnce intent order s x) :=
  match x with
  | .dispatch now reply executed =>
    inferInstanceAs (Decidable (RepliesOnce intent order s now reply executed))
  | .snapshot snapshot _ _ =>
    inferInstanceAs (Decidable (∀ e ∈ resolveOrder s.orders snapshot, ShowsOnce s e.2 snapshot))
  | .consume now =>
    inferInstanceAs (Decidable (∀ message ∈ s.queue.head?, ∀ fill ∈ ledgerFill now message,
      BooksExactly s.oms fill))
  | .track _ => .isTrue trivial
  | .evict _ => .isTrue trivial

/-! ### Messages in the queue -/

/-- The action of a side. -/
def sideAction : Side → OrderAction
  | .buy => .buy
  | .sell => .sell

private def Moves (symbol : String) (side : Side) (message : OrderEnvelope) (quantity : ℚ) : Prop :=
  ∀ now, (quantity = 0 ∧ ledgerFill now message = none) ∨
    ∃ fill ∈ ledgerFill now message, fill.symbol = symbol ∧ parseSide fill.side = some side ∧
      |fill.quantity| = quantity

private def Pending (symbol : String) (side : Side) (start : ℚ) (queue : List OrderEnvelope)
    (oms : RunnerState) (reported : ℚ) : Prop :=
  ∃ quantities, List.Forall₂ (Moves symbol side) queue quantities ∧
    oms.positions.quantity symbol + side.sign * quantities.sum = start + side.sign * reported

section

variable {symbol : String} {side : Side} {start reported : ℚ} {queue : List OrderEnvelope}
  {oms : RunnerState} {message : OrderEnvelope}

private theorem pending_append {quantity : ℚ} (h : Pending symbol side start queue oms reported)
    (hm : Moves symbol side message quantity) :
    Pending symbol side start (queue ++ [message]) oms (reported + quantity) := by
  obtain ⟨quantities, hqueue, hsum⟩ := h
  refine ⟨quantities ++ [quantity], List.rel_append hqueue (.cons hm .nil), ?_⟩
  rw [List.sum_append, List.sum_singleton, mul_add, mul_add, ← add_assoc, hsum, add_assoc]

private theorem quantity_runOnce {base : ℚ} {now : String} {fill : PositionFill}
    (hf : ledgerFill now message = some fill) (hside : parseSide fill.side = some side)
    (hbooks : BooksExactly oms fill) :
    (runOnce base now oms message).1.positions.quantity fill.symbol =
      oms.positions.quantity fill.symbol + side.sign * |fill.quantity| := by
  unfold BooksExactly at hbooks
  cases hs : signedQuantity fill with
  | error e => rw [hs] at hbooks; exact hbooks.elim
  | ok signed =>
    rw [hs] at hbooks
    obtain ⟨hmode, hsnap⟩ := hbooks
    obtain ⟨-, side', hside', rfl⟩ := (signedQuantity_eq_ok_iff fill signed).mp hs
    cases Option.mem_unique hside hside'
    rw [PositionBook.quantity_of_apply (runOnce_positions_of_booked base hf hs hmode) hs,
      if_pos rfl, hsnap]

private theorem pending_consume {base : ℚ} {now : String}
    (h : Pending symbol side start (message :: queue) oms reported)
    (hbooks : ∀ fill ∈ ledgerFill now message, BooksExactly oms fill) :
    Pending symbol side start queue (runOnce base now oms message).1 reported := by
  obtain ⟨quantities, hqueue, hsum⟩ := h
  cases hqueue with
  | cons hm hrest =>
    refine ⟨_, hrest, ?_⟩
    rw [List.sum_cons, mul_add, ← add_assoc] at hsum
    rw [← hsum]
    rcases hm now with ⟨rfl, hn⟩ | ⟨fill, hf, rfl, hside, rfl⟩
    · rw [(runOnce_ledgers_of_no_fill base hn).1, mul_zero, add_zero]
    · rw [quantity_runOnce hf hside (hbooks fill hf)]

end

/-! ### The worker's messages -/

private theorem parseSide_sideAction (side : Side) :
    parseSide (sideAction side).name = some side := by
  cases side <;> decide +kernel

private theorem moves_lifecycleEnvelope (uuid5 : Uuid5) (clock : Clock) (source : SnapshotSource)
    {order : TrackedLifecycleOrder} (status : LifecycleStatus) {quantity : ℚ}
    (averagePrice : Option ℚ) (feeDelta : ℚ) {side : Side} (hstripped : order.Stripped)
    (hact : order.action = sideAction side) (hq : 0 < quantity) :
    Moves order.symbol side
      (lifecycleEnvelope uuid5 clock source order status quantity averagePrice feeDelta)
      (if status.isFill then quantity else 0) := by
  intro now
  have hr := readUpdate_lifecycleEnvelope uuid5 clock source order status quantity averagePrice
    feeDelta hstripped hq now
  rw [ledgerFill, hr]
  cases hf : status.isFill with
  | false =>
    refine .inl ⟨rfl, ?_⟩
    simp [OrderUpdate.positionFill, feedUpdate, feedEvent, hf]
  | true =>
    refine .inr ⟨(feedUpdate uuid5 clock order status quantity averagePrice feeDelta
      now).toPositionFill (feedFill uuid5 clock order quantity averagePrice feeDelta now), ?_, rfl,
      ?_, ?_⟩
    · simp only [OrderUpdate.positionFill, feedUpdate, feedEvent, hf, if_true]
      rfl
    · simp only [OrderUpdate.toPositionFill, feedUpdate, hact]
      exact parseSide_sideAction side
    · simp [feedFill, positionFillToReconciliationFill, OrderUpdate.toPositionFill,
        abs_of_pos hq]

/-! ### The handler's message -/

private theorem strip_firstNonEmpty {values : List String}
    (halike : ∀ value ∈ values, ReadsAlike value)
    (hsome : ∃ value ∈ values, strip value ≠ "") : strip (firstNonEmpty values) ≠ "" := by
  obtain ⟨value, hm, hvalue⟩ := hsome
  have htrim : trimSpace value ≠ "" := by
    intro htrim
    rw [← strip_trimSpace, htrim] at hvalue
    exact hvalue (by decide +kernel)
  cases hfind : (values.map trimSpace).find? (· ≠ "") with
  | none =>
    have := List.find?_eq_none.mp hfind (trimSpace value) (List.mem_map_of_mem hm)
    simp [htrim] at this
  | some found =>
    obtain ⟨source, hsource, rfl⟩ := List.mem_map.mp (List.mem_of_find?_eq_some hfind)
    have hne : trimSpace source ≠ "" := by simpa using List.find?_some hfind
    rw [firstNonEmpty, hfind, Option.getD_some, strip_trimSpace]
    exact fun hblank => hne (halike source hsource hblank)

variable {reply : Except String BridgeResult} {command : Command} {decoded : GoEnvelope}

private theorem strip_handlerOrderId {envelope : GoEnvelope}
    (hreply : ReadsAlike (replyOrderId reply)) (hexchange : command.exchangeOrderId = "")
    (hclient : ReadsAlike command.clientOrderId) :
    strip (handlerOrderId envelope command reply) ≠ "" := by
  have hfallback : strip ("order-" ++ envelope.decisionId) ≠ "" :=
    strip_append_ne_empty _ (by decide +kernel)
  apply strip_firstNonEmpty
  · intro value hm
    simp only [List.mem_cons, List.not_mem_nil, or_false] at hm
    rcases hm with rfl | rfl | rfl | rfl
    · exact hreply
    · rw [hexchange]
      exact fun _ => by decide +kernel
    · exact hclient
    · exact fun hblank => absurd hblank hfallback
  · exact ⟨_, by simp, hfallback⟩

private theorem action_of_parse {text : String} {action : Action} {side : Side}
    (hhandler : parseBridgeAction (upper (trimSpace text)) = some action)
    (hworker : parseAction (upper (strip text)) = some (sideAction side)) :
    action ≠ .cancel ∧ parseSide (upper action.name) = some side := by
  have hname : upper (trimSpace text) = action.name := by
    unfold parseBridgeAction at hhandler
    split_ifs at hhandler with h h h h
    all_goals cases hhandler
    all_goals exact h
  have hstrip : upper (strip text) = strip action.name := by
    rw [← hname, strip_upper, strip_trimSpace]
  rw [hstrip] at hworker
  revert hworker
  cases action <;> cases side <;> decide +kernel

private theorem command_of_intent {intent : IntentEnvelope} {order : TrackedLifecycleOrder}
    {side : Side} {dispatchKey : String} (hint : intentOrder intent = .ok (some order))
    (hact : order.action = sideAction side) (hdecoded : decodeEnvelope intent = .ok decoded)
    (hcmd : toBridgeCommand decoded = .ok (command, dispatchKey)) :
    ∃ payload, intent.payload = some payload ∧ command.symbol = payload.symbol.getD "" ∧
      command.clientOrderId = payload.clientOrderId.getD "" ∧ command.exchangeOrderId = "" ∧
      parseSide (upper command.action.name) = some side ∧
      command.quantity = order.requestedQuantity := by
  obtain ⟨payload, quantity, hbody, hq, hfrom⟩ := fromIntent_of_intentOrder hint
  obtain ⟨hpay, -⟩ := decodeEnvelope_eq_ok hdecoded hbody
  obtain ⟨hsym, hactionText, hclient, hdecodedQuantity⟩ := decodePayload_eq_ok hpay
  obtain ⟨action, hparse, hbridge, -, -⟩ := toBridgeCommand_eq_ok hcmd
  have hworker := hfrom.action_eq
  rw [hact] at hworker
  rw [hactionText] at hparse
  obtain ⟨hcreate, hside⟩ := action_of_parse hparse hworker
  obtain ⟨hcsymbol, hcaction, hcquantity, hcclient, hcexchange⟩ :=
    bridgeCommand_eq_ok hbridge hcreate
  have hsame : decoded.payload.quantity = quantity :=
    Except.ok.inj (hdecodedQuantity.symm.trans hq)
  refine ⟨payload, hbody, hcsymbol.trans hsym, hcclient.trans hclient, hcexchange, ?_, ?_⟩
  · rw [hcaction]
    exact hside
  · rw [hcquantity, hsame, hfrom.quantity_eq]

private theorem moves_lifecycleEvent {order : TrackedLifecycleOrder} {side : Side} (now : String)
    (hq : command.quantity = order.requestedQuantity)
    (hside : parseSide (upper command.action.name) = some side)
    (hr : isFillEventType (replyStatus reply).1 → strip command.symbol = order.symbol ∧
      strip (handlerOrderId decoded command reply) ≠ "") :
    Moves order.symbol side (lifecycleEvent now decoded command reply)
      (if isFillEventType (replyStatus reply).1 then order.requestedQuantity else 0) := by
  intro now'
  cases hf : isFillEventType (replyStatus reply).1 with
  | false => exact .inl ⟨rfl, ledgerFill_eq_none hf⟩
  | true =>
    obtain ⟨hsym, hid⟩ := hr hf
    have hnonzero : |command.quantity| ≠ 0 := by
      rw [hq, abs_of_pos order.requested_pos]
      exact order.requested_pos.ne'
    have hnamed : strip command.symbol ≠ "" := hsym ▸ order.named.2
    have hledger : ∃ fill ∈ ledgerFill now' (lifecycleEvent now decoded command reply), _ :=
      ledgerFill_of_fill rfl hf hid hnamed rfl hnonzero rfl rfl
    obtain ⟨fill, hm, hfsymbol, -, hfside, hfq, -, -⟩ := hledger
    refine .inr ⟨fill, hm, hfsymbol.trans hsym, ?_, ?_⟩
    · rw [hfside]
      exact hside
    · rw [hfq, abs_abs, abs_abs, hq, abs_of_pos order.requested_pos]
      rfl

/-! ### One step -/

/-- A tracked order is the intent's, and has reported no more than the exchange has. -/
private structure Follows (order : TrackedLifecycleOrder) (side : Side) (reported : ℚ)
    (o : TrackedLifecycleOrder) : Prop where
  symbol : o.symbol = order.symbol
  action : o.action = sideAction side
  stripped : o.Stripped
  reported_le : o.reportedFilledQuantity ≤ reported

/-- What holds between the producers and the exchange: the tracked orders follow the intent, and all
that the exchange has reported is booked or under way. -/
private structure Accounted (order : TrackedLifecycleOrder) (side : Side) (start : ℚ)
    (s : RealSystem) : Prop where
  tracked : ∀ key o, s.orders.get? key = some o → Follows order side s.reported o
  pending : Pending order.symbol side start s.queue s.oms s.reported
  reported_nonneg : 0 ≤ s.reported

section

variable {config : WorkerConfig} {uuid5 : Uuid5} {base : ℚ} {intent : IntentEnvelope}
  {order : TrackedLifecycleOrder} {side : Side} {start : ℚ} {s : RealSystem}
  {snapshot : LifecycleStatusSnapshot} {o : TrackedLifecycleOrder} {now : String}

private theorem Follows.mono (h : Follows order side s.reported o) (total : ℚ) :
    Follows order side (max s.reported total) o :=
  { h with reported_le := h.reported_le.trans (le_max_left _ _) }

private theorem accounted_dispatch (hint : intentOrder intent = .ok (some order))
    (hact : order.action = sideAction side) (h : Accounted order side start s) {executed : ℚ}
    (hc : RepliesOnce intent order s now reply executed) :
    Accounted order side start
      (realStep config uuid5 base intent s (.dispatch now reply executed)) := by
  have hcase : HandleCase _ now s.store intent (handleIntent intent s now reply) :=
    handle_cases { execute := fun _ => reply, publish := some fun _ => none } now s.store intent
  unfold RepliesOnce at hc
  simp only [realStep]
  generalize handleIntent intent s now reply = result at hcase hc
  cases hcase with
  | silent hcmd hpub =>
    rw [hcmd, hpub, Option.toList_none, List.append_nil]
    exact ⟨h.tracked, h.pending, h.reported_nonneg⟩
  | dispatched decoded command dispatchKey hdecoded hto hfree hcmd hpub =>
    rw [hcmd, Option.isSome_some, forall_prop_of_true rfl] at hc
    simp only [hcmd, hpub, Option.bind_some, Option.isNone_none, if_true,
      Option.isSome_some, Option.toList_some]
    obtain ⟨payload, hbody, hsym, hclient, hexchange, hside, hq⟩ :=
      command_of_intent hint hact hdecoded hto
    have hr : isFillEventType (replyStatus reply).1 → strip command.symbol = order.symbol ∧
        strip (handlerOrderId decoded command reply) ≠ "" := by
      intro hf
      rw [if_pos hf] at hc
      obtain ⟨-, hreply, hr⟩ := hc
      rw [hsym]
      exact ⟨(hr payload hbody).1,
        strip_handlerOrderId hreply hexchange (hclient ▸ (hr payload hbody).2)⟩
    have hpending := pending_append h.pending (moves_lifecycleEvent now hq hside hr)
    refine ⟨fun key o hg => (h.tracked key o hg).mono _, ?_,
      h.reported_nonneg.trans (le_max_left _ _)⟩
    have hrep : max s.reported executed = s.reported +
        if isFillEventType (replyStatus reply).1 then order.requestedQuantity else 0 := by
      split at hc
      · next hf =>
        rw [hc.1, if_pos hf, max_eq_right]
        exact le_add_of_nonneg_right order.requested_pos.le
      · next hf => rw [if_neg hf, add_zero, max_eq_left hc]
    rw [hrep]
    exact hpending

private theorem accounted_orders {orders : TrackedOrders} (h : Accounted order side start s)
    (horders : ∀ key o, orders.get? key = some o → Follows order side s.reported o) :
    Accounted order side start { s with orders } :=
  ⟨horders, h.pending, h.reported_nonneg⟩

private theorem stripped_amend {existing amended : TrackedLifecycleOrder}
    (he : existing.Stripped) (ha : amended.Stripped) : (amend existing amended).Stripped := by
  unfold TrackedLifecycleOrder.Stripped amend
  dsimp only
  constructor
  · split
    · exact ha.1
    · exact he.1
  · split
    · exact ha.2
    · exact he.2

private theorem accounted_track (hint : intentOrder intent = .ok (some order))
    (hact : order.action = sideAction side) (h : Accounted order side start s) (now : ℚ) :
    Accounted order side start (realStep config uuid5 base intent s (.track now)) := by
  refine accounted_orders h fun key o hg => ?_
  have hstep := step_keyStep config uuid5 s.orders (.intent intent now) key
  rw [hg] at hstep
  generalize hold : s.orders.get? key = old at hstep
  generalize eventFor (step config uuid5 s.orders (.intent intent now)) key = event at hstep
  cases hstep with
  | kept => exact h.tracked key o hold
  | created _ _ _ hi =>
    cases Option.some.inj (Except.ok.inj (hi.symm.trans hint))
    refine ⟨rfl, hact, stripped_of_intentOrder hint, ?_⟩
    rw [(isFresh_of_intentOrder hint).reported_eq]
    exact h.reported_nonneg
  | amended _ _ existing amended _ hi _ hafter =>
    cases Option.some.inj (Except.ok.inj (hi.symm.trans hint))
    obtain ⟨hsym, -, hstripped, hrep⟩ := h.tracked key existing hold
    rw [hafter]
    exact ⟨hsym, hact, stripped_amend hstripped (stripped_of_intentOrder hint), hrep⟩

private theorem accounted_evict (h : Accounted order side start s) (now : ℚ) :
    Accounted order side start (realStep config uuid5 base intent s (.evict now)) := by
  refine accounted_orders h fun key o hg => ?_
  have hstep := step_keyStep config uuid5 s.orders (.evict now) key
  rw [hg] at hstep
  generalize hold : s.orders.get? key = old at hstep
  generalize eventFor (step config uuid5 s.orders (.evict now)) key = event at hstep
  cases hstep with
  | kept => exact h.tracked key o hold

private theorem accounted_consume (h : Accounted order side start s)
    (hc : ∀ message ∈ s.queue.head?, ∀ fill ∈ ledgerFill now message, BooksExactly s.oms fill) :
    Accounted order side start (realStep config uuid5 base intent s (.consume now)) := by
  obtain ⟨htracked, hpending, hnonneg⟩ := h
  unfold realStep
  dsimp only
  split
  · exact ⟨htracked, hpending, hnonneg⟩
  · next message queue hqueue =>
    rw [hqueue] at hpending hc
    exact ⟨htracked, pending_consume hpending (hc message rfl), hnonneg⟩

private theorem emission_counts (hle : o.reportedFilledQuantity ≤ s.reported)
    (hc : ShowsOnce s o snapshot) :
    max s.reported snapshot.filledQuantityTotal = s.reported +
      ((emission o snapshot).map fun e => if e.1.isFill then e.2 else 0).getD 0 := by
  obtain ⟨-, hc⟩ := hc
  cases hs : readStatus snapshot.status with
  | none =>
    rw [hs, Option.any_none, if_neg Bool.false_ne_true] at hc
    rw [emission_unknown hs, Option.map_none, Option.getD_none, add_zero, max_eq_left hc]
  | some status =>
    rw [hs, Option.any_some] at hc
    cases hf : status.isFill with
    | false =>
      rw [hf, if_neg Bool.false_ne_true] at hc
      rw [emission_other hs hf, max_eq_left hc]
      split <;> simp [hf]
    | true =>
      rw [hf, if_pos rfl] at hc
      obtain ⟨hsame, hinvents⟩ := hc
      rcases lt_or_ge o.reportedFilledQuantity snapshot.filledQuantityTotal with hgrown | hstale
      · rw [emission_grown hs hf hgrown, Option.map_some, Option.getD_some, if_pos hf,
          ← hsame hgrown, max_eq_right hgrown.le]
        ring
      · rw [max_eq_left (hstale.trans hle)]
        rw [emission_stale hs hf hstale hinvents, Option.map_none, Option.getD_none, add_zero]

private theorem accounted_snapshot (h : Accounted order side start s) {source : SnapshotSource}
    {clock : Clock} (hc : ∀ e ∈ resolveOrder s.orders snapshot, ShowsOnce s e.2 snapshot) :
    Accounted order side start
      (realStep config uuid5 base intent s (.snapshot snapshot source clock)) := by
  simp only [realStep, step, applySnapshot]
  cases hr : resolveOrder s.orders snapshot with
  | none => exact ⟨h.tracked, by simpa using h.pending, h.reported_nonneg⟩
  | some e =>
    obtain ⟨key, o⟩ := e
    obtain ⟨hsym, hact, hstripped, hle⟩ := h.tracked key o (get?_of_resolveOrder hr)
    have hshows := hc _ hr
    have hcounts := emission_counts hle hshows
    dsimp only
    rw [Option.isSome_some, if_pos rfl]
    refine ⟨?_, ?_, h.reported_nonneg.trans (le_max_left _ _)⟩
    · intro key' o' hg
      rw [Dict.get?_set] at hg
      split at hg
      · cases hg
        obtain ⟨hsym', hact', hle'⟩ := applyToOrder_keeps uuid5 clock source o snapshot
        exact ⟨hsym'.trans hsym, hact'.trans hact,
          stripped_applyToOrder hstripped hshows.1, hle'.trans (max_le_max_right _ hle)⟩
      · exact (h.tracked key' o' hg).mono _
    · rw [hcounts]
      cases he : emission o snapshot with
      | none =>
        rw [applyToOrder_of_none uuid5 clock source he]
        simpa using h.pending
      | some e =>
        rw [applyToOrder_of_some uuid5 clock source he]
        have hmoves := moves_lifecycleEnvelope uuid5 clock source e.1
          (averageAfter (absorbIds o snapshot) snapshot)
          (totalDelta (snapshot.feeTotal.getD 0) (absorbIds o snapshot).reportedFeeTotal)
          (stripped_absorbIds hstripped hshows.1) hact (emission_pos he)
        have hpending := pending_append h.pending (hsym ▸ hmoves)
        exact hpending

end

/-! ### Runs -/

/-- Along every run of handler, worker and OMS around a REAL intent to buy or sell in which every
step counts what the exchange executed once, the position of the OMS accounts for it once. -/
theorem accountedOnce_of_countsOnce (config : WorkerConfig) (uuid5 : Uuid5) (base : ℚ)
    {intent : IntentEnvelope} {order : TrackedLifecycleOrder} {side : Side}
    (hintent : intentOrder intent = .ok (some order)) (haction : order.action = sideAction side)
    (oms : RunnerState) {inputs : List RealInput}
    (h : Along (realStep config uuid5 base intent) (CountsOnce intent order) { oms } inputs) :
    Throughout (realStep config uuid5 base intent)
      (AccountedOnce order.symbol side (oms.positions.quantity order.symbol)) { oms } inputs := by
  have hstart : Accounted order side (oms.positions.quantity order.symbol) { oms } :=
    ⟨fun _ _ hget => absurd hget (by simp), ⟨[], .nil, by simp⟩, le_refl 0⟩
  refine (throughout_of_along ?_ hstart h).mono ?_
  · intro s x hs hc
    cases x with
    | dispatch now reply executed => exact accounted_dispatch hintent haction hs hc
    | track now => exact accounted_track hintent haction hs now
    | snapshot snapshot source clock => exact accounted_snapshot hs hc
    | evict now => exact accounted_evict hs now
    | consume now => exact accounted_consume hs hc
  · intro s hs hempty
    obtain ⟨quantities, hqueue, hsum⟩ := hs.pending
    rw [hempty] at hqueue
    cases hqueue
    rw [← hsum, List.sum_nil, mul_zero, add_zero]

/-- The intent of `sampleOrder`. -/
def orderIntent : IntentEnvelope := sampleIntent "BUY" 1 none (some "x")

/-- An order that the bridge reports as accepted and the worker sees filled in two parts. -/
def filledInParts : List RealInput :=
  [.dispatch "2026-01-01T00:00:00Z" (.ok ⟨"x", "NEW"⟩) 0, .track 0,
    .snapshot (sampleSnapshot "partially_filled" (2 / 5) (some 100) (some "x")) .privateStream
      sampleClock,
    .consume "2026-01-01T00:00:00Z", .consume "2026-01-01T00:00:00Z",
    .snapshot (sampleSnapshot "filled" 1 (some 100) (some "x")) .restFallback laterClock,
    .consume "2026-01-01T00:00:01Z"]

/-- Its fills are accounted for once. -/
theorem accountedOnce_filled_in_parts :
    Throughout (realStep {} sampleUuid5 0 orderIntent) (AccountedOnce sampleOrder.symbol .buy 0) {}
      filledInParts :=
  accountedOnce_of_countsOnce {} sampleUuid5 0 intentOrder_sampleOrder (by decide +kernel) {}
    (by decide +kernel)

/-- An order that the bridge reports as filled, and then the worker sees filled. -/
def filledTwice : RealSystem :=
  run (realStep {} sampleUuid5 0 orderIntent) {}
    [.dispatch "2026-01-01T00:00:00Z" (.ok ⟨"x", "FILLED"⟩) 1, .track 0,
      .snapshot (sampleSnapshot "filled" 1 (some 100) (some "x")) .privateStream sampleClock,
      .consume "2026-01-01T00:00:00Z", .consume "2026-01-01T00:00:00Z"]

/-- One unit is executed and the OMS holds two. -/
theorem filled_reply_and_snapshot_booked_twice :
    filledTwice.queue = [] ∧ filledTwice.reported = 1 ∧
      filledTwice.oms.positions.quantity "BTC/USDT" = 2 ∧
      ¬ AccountedOnce "BTC/USDT" .buy 0 filledTwice := by
  have hvalues : filledTwice.queue = [] ∧ filledTwice.reported = 1 ∧
      filledTwice.oms.positions.quantity "BTC/USDT" = 2 := by decide +kernel
  obtain ⟨hqueue, hreported, hquantity⟩ := hvalues
  refine ⟨hqueue, hreported, hquantity, ?_⟩
  intro h
  have h2 := h hqueue
  rw [hquantity, hreported] at h2
  norm_num [Side.sign] at h2

end OpenTrader.Execution
