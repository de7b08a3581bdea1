import OpenTrader.Simulation.Engine

/-!
# Limits of simulated orders

Library `Simulation`. `services/simulation_execution/engine.py:32-172,213-360`. A limit is the worst
price its order may fill at. The engine checks the limit of an OCO leg against the reference price
and fills the leg at the limit itself. The limit of a plain LIMIT order is not read once there is a
mid price: the order is filled at once, like a market order.
-/

namespace OpenTrader.Simulation
open Base Oms Execution

/-- A price a limit allows: not above it for a BUY, not below it for a SELL. -/
def WithinLimit (action : String) (limit price : ℚ) : Prop :=
  (action = "BUY" → price ≤ limit) ∧ (action = "SELL" → limit ≤ price)

/-- The payloads of the filled events of a result. -/
def reportedFills (result : SimulationExecutionResult) : List OrderPayload :=
  (result.events.filter (·.eventType = some "oms.order.filled")).filterMap (·.payload)

/-- A limit that binds a result: the positive limit of a LIMIT order, or the limit of the LIMIT leg
an OCO order reports as triggered. -/
inductive BoundBy (payload : IntentPayload) (result : SimulationExecutionResult) : ℚ → Prop where
  | order {limit : ℚ} (htype : upper (payload.orderType.getD "MARKET") = "LIMIT")
      (hlimit : payload.limitPrice = .num limit) (hpos : 0 < limit) : BoundBy payload result limit
  | leg {limit : ℚ} {legs : List (Option OcoLeg)} {report : OrderPayload} {i : ℕ} {leg : OcoLeg}
      (htype : upper (payload.orderType.getD "MARKET") = "OCO")
      (hlegs : payload.ocoLegs = some legs) (hreport : report ∈ reportedFills result)
      (hindex : report.triggeredLeg = some i) (hleg : legs[i]? = some (some leg))
      (hlegType : upper (leg.orderType.getD "") = "LIMIT")
      (hlimit : leg.limitPrice = .num limit) : BoundBy payload result limit

/-- A result that is filled only while the limit allows the reference price, and only at prices it
allows. -/
structure RespectsLimit (limit reference : ℚ) (result : SimulationExecutionResult) : Prop where
  filled : result.status = .filled →
    WithinLimit result.action limit result.fillPrice ∧ WithinLimit result.action limit reference
  reported : ∀ report ∈ reportedFills result, ∃ price, report.fillPrice = .num price ∧
    WithinLimit result.action limit price ∧ WithinLimit result.action limit reference

/-- An intent with a positive mid price whose result respects every limit that binds it. -/
def RespectsLimits (engine : Engine) (uuid5 : Uuid5) (now : UtcStamp)
    (envelope : IntentEnvelope) : Prop :=
  ∀ mid limit result, (envelope.payload.getD {}).midPrice = .num mid → 0 < mid →
    executeIntent engine uuid5 now envelope = .ok result →
    BoundBy (envelope.payload.getD {}) result limit → RespectsLimit limit mid result

/-- A plain LIMIT order the engine fills although its limit does not allow the mid price with
slippage. -/
structure FillsPastLimit (engine : Engine) (envelope : IntentEnvelope) (payload : IntentPayload)
    (mid limit : ℚ) : Prop where
  valid : validateEnvelope envelope = .ok ()
  mock : upper (envelope.mode.getD "") = "MOCK"
  symbol : strip (payload.symbol.getD "") ≠ ""
  quantity : ∃ quantity, payload.quantity.toFloat = .ok quantity ∧ quantity ≠ 0
  orderType : upper (payload.orderType.getD "MARKET") = "LIMIT"
  limit_eq : payload.limitPrice = .num limit
  limit_pos : 0 < limit
  mid_eq : payload.midPrice = .num mid
  mid_pos : 0 < mid
  past : ¬ WithinLimit (upper (payload.action.getD "")) limit
    (applySlippage engine mid (upper (payload.action.getD "")))

/-! ### What the engine reports -/

/-- A result of a fill, reported once. -/
structure FilledAt (order : SimulatedOrder) (price : ℚ) (leg : Option ℕ)
    (result : SimulationExecutionResult) : Prop where
  status : result.status = .filled
  action : result.action = order.action
  fillPrice : result.fillPrice = price
  report : ∃ report, reportedFills result = [report] ∧ report.fillPrice = .num price ∧
    report.triggeredLeg = leg

/-- A result without a fill. -/
structure Unfilled (result : SimulationExecutionResult) : Prop where
  status : result.status ≠ .filled
  report : reportedFills result = []

section

variable {engine : Engine} {now : UtcStamp} {envelope : IntentEnvelope} {order : SimulatedOrder}
  {result : SimulationExecutionResult} {limit reference price : ℚ} {leg : Option ℕ}

private theorem eq_of_buildEvent {eventType suffix : String} {payload : OrderPayload}
    {event : OrderEnvelope} (h : buildEvent now envelope eventType suffix payload = .ok event) :
    event = orderEvent now envelope eventType suffix payload := by
  rw [buildEvent] at h
  obtain ⟨_, -, h⟩ := bind_eq_ok_iff.mp h
  exact (pure_eq_ok_iff.mp h).symm

private theorem unfilled_of_ignore (h : ignore now envelope order = .ok result) :
    Unfilled result := by
  rw [ignore] at h
  obtain ⟨event, hev, h⟩ := bind_eq_ok_iff.mp h
  obtain rfl := pure_eq_ok_iff.mp h
  obtain rfl := eq_of_buildEvent hev
  exact ⟨by simp, by simp [reportedFills, orderEvent]⟩

private theorem unfilled_of_submit {triggerPrice : NumField}
    (h : submit now envelope order triggerPrice = .ok result) : Unfilled result := by
  rw [submit] at h
  obtain ⟨event, hev, h⟩ := bind_eq_ok_iff.mp h
  obtain rfl := pure_eq_ok_iff.mp h
  obtain rfl := eq_of_buildEvent hev
  exact ⟨by simp, by simp [reportedFills, orderEvent]⟩

private theorem filledAt_of_fill (h : fill engine now envelope order price leg = .ok result) :
    FilledAt order price leg result := by
  rw [fill] at h
  obtain ⟨created, hcreated, h⟩ := bind_eq_ok_iff.mp h
  obtain ⟨filled, hfilled, h⟩ := bind_eq_ok_iff.mp h
  obtain rfl := eq_of_buildEvent hcreated
  obtain rfl := eq_of_buildEvent hfilled
  cases leg with
  | none =>
    obtain rfl := pure_eq_ok_iff.mp h
    exact ⟨rfl, rfl, rfl, _, rfl, rfl, rfl⟩
  | some leg =>
    obtain ⟨event, hev, h⟩ := bind_eq_ok_iff.mp h
    obtain rfl := pure_eq_ok_iff.mp h
    obtain rfl := eq_of_buildEvent hev
    exact ⟨rfl, rfl, rfl, _, rfl, rfl, rfl⟩

private theorem Unfilled.respectsLimit (h : Unfilled result) :
    RespectsLimit limit reference result := by
  constructor
  · intro hstat
    exact absurd hstat h.status
  · intro report hreport
    rw [h.report] at hreport
    cases hreport

private theorem FilledAt.respectsLimit_iff (h : FilledAt order price leg result) :
    RespectsLimit limit reference result ↔
      WithinLimit order.action limit price ∧ WithinLimit order.action limit reference := by
  rw [← h.action, ← h.fillPrice]
  constructor
  · intro hrespects
    exact hrespects.filled h.status
  · intro hwithin
    refine ⟨fun _ => hwithin, ?_⟩
    obtain ⟨report, hreports, hprice, -⟩ := h.report
    intro report' hreport'
    rw [hreports, List.mem_singleton] at hreport'
    exact ⟨result.fillPrice, by rw [hreport', hprice, h.fillPrice], hwithin⟩

end

/-! ### How an intent is executed -/

section

variable {engine : Engine} {now : UtcStamp} {envelope : IntentEnvelope} {payload : IntentPayload}
  {order : SimulatedOrder} {mid : ℚ}

private theorem referencePrice_of_mid (hmid : payload.midPrice = .num mid) (hpos : 0 < mid) :
    referencePrice payload = .ok mid := by
  rw [referencePrice, hmid]
  simp [firstPositive, optionalNumber, hpos, bind, Except.bind, pure, Except.pure]

private theorem executeOrder_priced (hprice : referencePrice payload = .ok mid)
    (htype : ¬ (order.orderType = "STOP_MARKET" ∨ order.orderType = "TAKE_PROFIT_MARKET")) :
    executeOrder engine now envelope payload order =
      if order.action = "HOLD" ∨ order.quantity ≤ 0 then ignore now envelope order
      else if order.orderType = "OCO" then executeOco engine now envelope payload order
      else fill engine now envelope order (applySlippage engine mid order.action) none := by
  rw [executeOrder, hprice]
  refine if_congr Iff.rfl rfl ?_
  exact if_neg htype

end

/-! ### Legs of an OCO order -/

/-- Why a leg was taken: a LIMIT leg because its limit allows the reference price, any other leg for
its trigger. -/
def TakenLeg (action : String) (reference : ℚ) (leg : OcoLeg) : LegPrice → Prop
  | .limit price => leg.limitPrice = .num price ∧ WithinLimit action price reference
  | .market => upper (leg.orderType.getD "") ≠ "LIMIT"

section

variable {engine : Engine} {now : UtcStamp} {envelope : IntentEnvelope} {payload : IntentPayload}
  {order : SimulatedOrder} {result : SimulationExecutionResult} {action : String}
  {reference limit : ℚ}

private theorem eq_num_of_optionalNumber {field : NumField} {value : ℚ}
    (h : optionalNumber field = .ok (some value)) : field = .num value := by
  cases field <;> simp_all [optionalNumber]

variable {legs : List (Option OcoLeg)} {i k : ℕ}

private theorem takenLeg_or_later {leg : OcoLeg} {price : LegPrice}
    (h : triggeredLeg action reference i (some leg :: legs) = .ok (some (k, price))) :
    (k = i ∧ TakenLeg action reference leg price) ∨
      triggeredLeg action reference (i + 1) legs = .ok (some (k, price)) := by
  rw [triggeredLeg] at h
  by_cases hlimitLeg : upper (leg.orderType.getD "") = "LIMIT"
  · rw [if_pos hlimitLeg] at h
    obtain ⟨number, hnumber, h⟩ := bind_eq_ok_iff.mp h
    cases number with
    | none => cases h
    | some limit =>
      dsimp only at h
      split_ifs at h with hside
      · obtain ⟨rfl, rfl⟩ := Prod.mk.inj (Option.some.inj (pure_eq_ok_iff.mp h))
        refine .inl ⟨rfl, eq_num_of_optionalNumber hnumber, ?_, ?_⟩
        · rintro rfl
          simpa using hside
        · rintro rfl
          simpa using hside
      · exact .inr h
  · rw [if_neg hlimitLeg] at h
    split_ifs at h with htrigger
    · obtain ⟨number, -, h⟩ := bind_eq_ok_iff.mp h
      cases number with
      | none => cases h
      | some trigger =>
        dsimp only at h
        split_ifs at h with hside
        · obtain ⟨rfl, rfl⟩ := Prod.mk.inj (Option.some.inj (pure_eq_ok_iff.mp h))
          exact .inl ⟨rfl, hlimitLeg⟩
        · exact .inr h
    · exact .inr h

private theorem exists_takenLeg {price : LegPrice}
    (h : triggeredLeg action reference i legs = .ok (some (k, price))) :
    ∃ leg, i ≤ k ∧ legs[k - i]? = some (some leg) ∧ TakenLeg action reference leg price := by
  induction legs generalizing i with
  | nil => simp [triggeredLeg] at h
  | cons first legs ih =>
    cases first with
    | none => simp [triggeredLeg] at h
    | some leg =>
      rcases takenLeg_or_later h with ⟨rfl, htaken⟩ | hlater
      · exact ⟨leg, le_rfl, by simp, htaken⟩
      · obtain ⟨later, hk, hleg, htaken⟩ := ih hlater
        have hindex : k - i = k - (i + 1) + 1 := by omega
        refine ⟨later, by omega, ?_, htaken⟩
        rw [hindex, List.getElem?_cons_succ, hleg]

private theorem executeOco_cases (hprice : referencePrice payload = .ok reference)
    (h : executeOco engine now envelope payload order = .ok result) :
    Unfilled result ∨ ∃ legs k leg price, payload.ocoLegs = some legs ∧
      legs[k]? = some (some leg) ∧ TakenLeg order.action reference leg price ∧
      ∃ fillPrice, (∀ limit, price = .limit limit → fillPrice = limit) ∧
        FilledAt order fillPrice (some k) result := by
  rw [executeOco] at h
  split at h
  · next first second hlegs =>
    obtain ⟨price, hprice', h⟩ := bind_eq_ok_iff.mp h
    obtain rfl := Except.ok.inj (hprice.symm.trans hprice')
    obtain ⟨taken, htaken, h⟩ := bind_eq_ok_iff.mp h
    cases taken with
    | none => exact Or.inl (unfilled_of_submit h)
    | some taken =>
      obtain ⟨k, price⟩ := taken
      obtain ⟨leg, -, hleg, hreason⟩ := exists_takenLeg htaken
      refine Or.inr ⟨_, k, leg, price, hlegs, hleg, hreason, ?_⟩
      cases price with
      | limit limit =>
        refine ⟨limit, ?_, filledAt_of_fill h⟩
        intro limit' heq
        exact LegPrice.limit.inj heq
      | market =>
        refine ⟨_, ?_, filledAt_of_fill h⟩
        intro limit' heq
        cases heq
  · cases h

end

/-! ### Fills within the limit -/

section

variable {engine : Engine} {uuid5 : Uuid5} {now : UtcStamp} {envelope : IntentEnvelope}
  {payload : IntentPayload} {action : String} {mid limit : ℚ}

private theorem WithinLimit.of_applySlippage (hpos : 0 < mid)
    (h : WithinLimit action limit (applySlippage engine mid action)) :
    WithinLimit action limit mid := by
  have hslip : 0 ≤ engine.slippageBps / 10000 := div_nonneg engine.nonneg.1 (by norm_num)
  have hworse : 0 ≤ mid * (engine.slippageBps / 10000) := mul_nonneg hpos.le hslip
  constructor
  · rintro rfl
    have hf := h.1 rfl
    simp only [applySlippage, if_true] at hf
    linarith
  · rintro rfl
    have hf := h.2 rfl
    have hsell : ¬ "SELL" = "BUY" := by decide
    simp only [applySlippage, if_neg hsell] at hf
    linarith

section

variable {result : SimulationExecutionResult} (hpayload : envelope.payload.getD {} = payload)
  (hresult : executeIntent engine uuid5 now envelope = .ok result)
  (hmid : payload.midPrice = .num mid) (hpos : 0 < mid)
include hpayload hresult hmid hpos

private theorem respectsLimit_of_order
    (htype : upper (payload.orderType.getD "MARKET") = "LIMIT")
    (hlimit : payload.limitPrice = .num limit) (hlimitPos : 0 < limit)
    (hnot : ¬ FillsPastLimit engine envelope payload mid limit) :
    RespectsLimit limit mid result := by
  obtain ⟨hv, hmock, order, hr, hexec⟩ := executeIntent_eq_ok_iff.mp hresult
  rw [hpayload] at hr hexec
  obtain ⟨hsym, -, -, quantity, hq, rfl⟩ := readOrder_eq_ok_iff.mp hr
  have hplain : ¬ upper (payload.orderType.getD "MARKET") = "OCO" := by simp [htype]
  rw [executeOrder_priced (referencePrice_of_mid hmid hpos) (by simp [htype]),
    if_neg hplain] at hexec
  split_ifs at hexec with hignored
  · exact (unfilled_of_ignore hexec).respectsLimit
  · rw [(filledAt_of_fill hexec).respectsLimit_iff]
    have hf : WithinLimit (upper (payload.action.getD "")) limit
        (applySlippage engine mid (upper (payload.action.getD ""))) := by
      by_contra hpast
      have hne : quantity ≠ 0 := by
        rintro rfl
        exact hignored (Or.inr abs_zero.le)
      exact hnot ⟨hv, hmock, hsym, ⟨quantity, hq, hne⟩, htype, hlimit, hlimitPos,
        hmid, hpos, hpast⟩
    exact ⟨hf, hf.of_applySlippage hpos⟩

private theorem respectsLimit_of_leg {legs : List (Option OcoLeg)} {report : OrderPayload} {i : ℕ}
    {leg : OcoLeg} (htype : upper (payload.orderType.getD "MARKET") = "OCO")
    (hlegs : payload.ocoLegs = some legs)
    (hreport : report ∈ reportedFills result) (hindex : report.triggeredLeg = some i)
    (hleg : legs[i]? = some (some leg))
    (hlegType : upper (leg.orderType.getD "") = "LIMIT") (hlimit : leg.limitPrice = .num limit) :
    RespectsLimit limit mid result := by
  have hprice := referencePrice_of_mid hmid hpos
  obtain ⟨-, -, order, hr, hexec⟩ := executeIntent_eq_ok_iff.mp hresult
  rw [hpayload] at hr hexec
  obtain ⟨-, -, -, quantity, -, rfl⟩ := readOrder_eq_ok_iff.mp hr
  rw [executeOrder_priced hprice (by simp [htype]), if_pos htype] at hexec
  split_ifs at hexec with hignored
  · exact (unfilled_of_ignore hexec).respectsLimit
  · rcases executeOco_cases hprice hexec with
      hunfilled | ⟨legs', k, taken, price, hlegs', htaken, hreason, fillPrice, hf, hfilled⟩
    · exact hunfilled.respectsLimit
    · -- the leg that was filled is the one the event reports
      obtain ⟨report', hreports, -, hindex'⟩ := hfilled.report
      rw [hreports, List.mem_singleton] at hreport
      rw [hreport, hindex'] at hindex
      obtain rfl := Option.some.inj hindex
      obtain rfl := Option.some.inj (hlegs.symm.trans hlegs')
      obtain rfl := Option.some.inj (Option.some.inj (hleg.symm.trans htaken))
      cases price with
      | market => exact absurd hlegType hreason
      | limit limit' =>
        obtain ⟨hlimit', hwithin⟩ := hreason
        obtain rfl := NumField.num.inj (hlimit.symm.trans hlimit')
        rw [hfilled.respectsLimit_iff, hf limit rfl]
        exact ⟨⟨fun _ => le_rfl, fun _ => le_rfl⟩, hwithin⟩

end

private theorem FillsPastLimit.exists_filledAt (uuid5 : Uuid5) (now : UtcStamp)
    (hpayload : envelope.payload.getD {} = payload)
    (h : FillsPastLimit engine envelope payload mid limit) :
    ∃ order result, executeIntent engine uuid5 now envelope = .ok result ∧
      order.action = upper (payload.action.getD "") ∧
      FilledAt order (applySlippage engine mid order.action) none result := by
  obtain ⟨quantity, hq, hne⟩ := h.quantity
  have htrades : upper (payload.action.getD "") = "BUY" ∨
      upper (payload.action.getD "") = "SELL" := by
    by_contra hother
    rw [not_or] at hother
    exact h.past ⟨fun hbuy => absurd hbuy hother.1, fun hsell => absurd hsell hother.2⟩
  have hact : upper (payload.action.getD "") ∈
      ["BUY", "SELL", "HOLD", "CLOSE"] := by
    rcases htrades with htrades | htrades <;> simp [htrades]
  have htype : upper (payload.orderType.getD "MARKET") ∈
      ["MARKET", "LIMIT", "STOP_MARKET", "TAKE_PROFIT_MARKET", "OCO"] := by simp [h.orderType]
  obtain ⟨order, hr, ho, hlimit, hpos⟩ : ∃ order,
      readOrder uuid5 envelope payload = .ok order ∧
      order.action = upper (payload.action.getD "") ∧
      order.orderType = "LIMIT" ∧ 0 < order.quantity :=
    ⟨_, readOrder_eq_ok_iff.mpr ⟨h.symbol, hact, htype, quantity, hq, rfl⟩, rfl,
      h.orderType, abs_pos.mpr hne⟩
  have hactive : ¬ (order.action = "HOLD" ∨ order.quantity ≤ 0) := by
    rintro (hhold | hz)
    · rw [← ho, hhold] at htrades
      revert htrades
      decide
    · exact absurd hpos (not_lt.mpr hz)
  obtain ⟨result, hf⟩ := fill_isOk h.valid engine now order
    (applySlippage engine mid order.action) none
  have hexec : executeOrder engine now envelope payload order = .ok result := by
    rw [executeOrder_priced (referencePrice_of_mid h.mid_eq h.mid_pos) (by simp [hlimit]),
      if_neg hactive, if_neg (by simp [hlimit]), hf]
  subst hpayload
  exact ⟨order, result, executeIntent_eq_ok_iff.mpr ⟨h.valid, h.mock, order, hr, hexec⟩,
    ho, filledAt_of_fill hf⟩

/-- Simulated orders respect their limits exactly when no plain LIMIT order is filled past its own:
when the mid price with slippage is not above the limit of a BUY, nor below that of a SELL. -/
theorem limits_respected_iff (engine : Engine) (uuid5 : Uuid5) (now : UtcStamp)
    (envelope : IntentEnvelope) :
    RespectsLimits engine uuid5 now envelope ↔
      ∀ mid limit, ¬ FillsPastLimit engine envelope (envelope.payload.getD {}) mid limit := by
  constructor
  · intro hrespects mid limit hpast
    obtain ⟨order, result, hresult, haction, hfilled⟩ := hpast.exists_filledAt uuid5 now rfl
    have hbound : BoundBy (envelope.payload.getD {}) result limit :=
      .order hpast.orderType hpast.limit_eq hpast.limit_pos
    have hrespect := hrespects mid limit result hpast.mid_eq hpast.mid_pos hresult hbound
    have hwithin := (hfilled.respectsLimit_iff.mp hrespect).1
    rw [haction] at hwithin
    exact hpast.past hwithin
  · intro hnone mid limit result hmid hpos hresult hbound
    cases hbound with
    | order htype hlimit hlimitPos =>
      exact respectsLimit_of_order rfl hresult hmid hpos htype hlimit hlimitPos (hnone mid limit)
    | leg htype hlegs hreport hindex hleg hlegType hlimit =>
      exact respectsLimit_of_leg rfl hresult hmid hpos htype hlegs hreport hindex hleg hlegType
        hlimit

end

/-! ### A BUY above its limit -/

private def limitBuy : IntentEnvelope :=
  mockIntent "buy-1" { symbol := some "BTC/USDT", action := some "BUY", quantity := .num 1,
                       orderType := some "LIMIT", limitPrice := .num 100, midPrice := .num 200 }

/-- A BUY with a limit of 100 is filled at 200.06 while the mid price is 200. -/
theorem limit_buy_filled_above_limit :
    (∃ result, executeIntent defaultEngine oneUuid5 sampleTime limitBuy = .ok result ∧
      result.status = .filled ∧ result.action = "BUY" ∧ result.fillPrice = 20006 / 100) ∧
    ¬ RespectsLimits defaultEngine oneUuid5 sampleTime limitBuy := by
  have hrun : ((executeIntent defaultEngine oneUuid5 sampleTime limitBuy).map fun result =>
      (result.status, result.action, result.fillPrice)) =
        .ok (.filled, "BUY", 20006 / 100) := by decide +kernel
  cases hresult : executeIntent defaultEngine oneUuid5 sampleTime limitBuy with
  | error error =>
    rw [hresult] at hrun
    cases hrun
  | ok result =>
    rw [hresult] at hrun
    obtain ⟨hstatus, hrest⟩ := Prod.mk.inj (Except.ok.inj hrun)
    obtain ⟨haction, hprice⟩ := Prod.mk.inj hrest
    refine ⟨⟨result, rfl, hstatus, haction, hprice⟩, ?_⟩
    intro hrespects
    have htype : upper "LIMIT" = "LIMIT" := by decide +kernel
    have hrespect := hrespects 200 100 result rfl (by norm_num) hresult
      (.order htype rfl (by norm_num))
    have hbuy := (hrespect.filled hstatus).1.1 haction
    rw [hprice] at hbuy
    norm_num at hbuy

end OpenTrader.Simulation
