import OpenTrader.Base.Trace
import OpenTrader.Oms.Atomicity

/-!
# REAL and MOCK in one runner

Library `Oms`. `services/workers/oms_lifecycle.py:146-189`. The in-memory runner keeps one position
per symbol and hands all positions to the snapshot engine, whatever their mode; its store-backed
path asks for the position and the positions of the mode. A REAL update is judged as if it came
alone exactly as long as no position of another mode is held when it comes.
-/

namespace OpenTrader.Oms
open Base

/-- Mode of a delivery, as the runner reads it. -/
def deliveryMode (d : Delivery) : String := (d.envelope.payload.map payloadMode).getD "MOCK"

/-- The delivery is a REAL one. -/
def isReal (d : Delivery) : Bool := deliveryMode d == "REAL"

/-- Order id of a delivery, as the runner reads it. -/
def deliveryOrderId (d : Delivery) : String :=
  strip ((d.envelope.payload.bind (·.orderId)).getD "")

/-- Deliveries of both modes in any order, no order id in both. -/
structure Interleaving where
  deliveries : List Delivery
  separate : ∀ x ∈ deliveries, ∀ y ∈ deliveries, isReal x = true → ¬ isReal y = true →
    deliveryOrderId x ≠ deliveryOrderId y

/-- What a step means for the REAL side. -/
structure RealOutcome where
  returned : Option Bool
  orders : String → Option ReconciliationOrder
  positions : String → Option PositionState
  totals : Option (ℚ × ℚ × ℚ)

/-- The outcome of a step: what it returned unless it raised, the REAL orders and positions it
left, and the portfolio totals it reported. -/
def realOutcome (result : RunnerState × Except RunnerError Bool) : RealOutcome where
  returned := result.2.toOption
  orders id := (result.1.orders.get? id).filter (·.mode == "REAL")
  positions symbol := (result.1.positions.get? symbol).filter (·.mode == "REAL")
  totals := if result.2.toOption = some true then result.1.lastActivity.map (·.totals) else none

/-- Every REAL delivery has the outcome it has after the REAL deliveries before it alone. -/
def ModeIsolated (base : ℚ) (deliveries : List Delivery) : Prop :=
  ∀ before d after, deliveries = before ++ d :: after → isReal d = true →
    realOutcome (runOnce base d.now (run (receive base) {} before) d.envelope) =
      realOutcome (runOnce base d.now (run (receive base) {} (before.filter isReal)) d.envelope)

/-- A REAL update, unless its fill is dust or of no known side, comes while every position held is
a REAL one. -/
def MeetsRealOnly (s : RunnerState) (d : Delivery) : Prop :=
  isReal d = true → ∀ u, readUpdate d.now d.envelope = .ok (some u) →
    (∀ fill ∈ u.positionFill, ∃ signed, signedQuantity fill = .ok signed) →
    ∀ symbol, ∀ p ∈ s.positions.get? symbol, p.mode = "REAL"

/-! ### What an update takes from its delivery -/

section

variable {d : Delivery} {u : OrderUpdate}

private theorem upper_strip_payloadMode (payload : OrderPayload) :
    upper (strip (payloadMode payload)) = payloadMode payload := by
  unfold payloadMode
  dsimp only
  split
  · exact upper_strip_mock
  · rw [strip_upper_strip, upper_upper]

private theorem update_of_delivery (h : readUpdate d.now d.envelope = .ok (some u)) :
    u.mode = deliveryMode d ∧ upper (strip u.mode) = u.mode ∧ u.orderId = deliveryOrderId d := by
  obtain ⟨payload, hbody, ⟨hid, -⟩, -, hmode, -, -, -, -⟩ := readUpdate_eq_some h
  refine ⟨?_, ?_, ?_⟩
  · rw [hmode, deliveryMode, hbody]
    rfl
  · rw [hmode]
    exact upper_strip_payloadMode payload
  · rw [hid, deliveryOrderId, hbody]
    rfl

private theorem ledgerFill_of_delivery {fill : PositionFill}
    (h : ledgerFill d.now d.envelope = some fill) :
    fill.mode = deliveryMode d ∧ upper (strip fill.mode) = fill.mode := by
  unfold ledgerFill at h
  split at h
  · next u hu =>
    obtain ⟨hmode, hnormal, -⟩ := update_of_delivery hu
    obtain ⟨raw, -, rfl⟩ := Option.map_eq_some_iff.mp h
    exact ⟨hmode, hnormal⟩
  · cases h

end

private theorem totals_runOnce {base : ℚ} {now : String} {s : RunnerState}
    {envelope : OrderEnvelope} {u : OrderUpdate} (hr : readUpdate now envelope = .ok (some u))
    (hcompletes : Completes s u) :
    (runOnce base now s envelope).2 = .ok true ∧
      (runOnce base now s envelope).1.lastActivity.map (·.totals) =
        some (bookTotals base (runOnce base now s envelope).1) := by
  obtain ⟨processed, hok⟩ := (runOnce_isOk_iff base s hr).mpr hcompletes
  rw [runOnce, hr] at hok ⊢
  obtain ⟨rfl, -, htotals⟩ := writeUpdate_ok hok
  exact ⟨hok, htotals⟩

/-! ### The mixed run and the REAL run -/

/-- The orders of the runner that got all deliveries against those of the one that got the REAL
ones, whose order ids are those of `realId`. -/
private structure MirrorsOrders (realId : String → Prop) (mixed alone : RunnerState) : Prop where
  orders : ∀ id, realId id → mixed.orders.get? id = alone.orders.get? id
  events : ∀ id, realId id → mixed.lifecycleEvents.get? id = alone.lifecycleEvents.get? id
  otherOrders : ∀ id, ¬ realId id →
    (∀ order ∈ mixed.orders.get? id, order.mode ≠ "REAL") ∧ alone.orders.get? id = none

/-- The positions and mark prices of the two runners. -/
private structure MirrorsBook (mixed alone : RunnerState) : Prop where
  positions : mixed.positions.positions.filter (fun _ p => p.mode == "REAL") =
    alone.positions.positions
  normal : ∀ symbol, ∀ p ∈ mixed.positions.get? symbol, upper (strip p.mode) = p.mode
  marks : ∀ symbol, ∀ p ∈ alone.positions.get? symbol,
    mixed.markPrices.get? symbol = alone.markPrices.get? symbol ∧
      (alone.markPrices.get? symbol).isSome

private structure Mirrors (realId : String → Prop) (mixed alone : RunnerState) : Prop extends
  MirrorsOrders realId mixed alone, MirrorsBook mixed alone

section

variable {realId : String → Prop} {mixed alone : RunnerState}

private theorem MirrorsOrders.realOrders (h : MirrorsOrders realId mixed alone) (id : String) :
    (mixed.orders.get? id).filter (·.mode == "REAL") =
      (alone.orders.get? id).filter (·.mode == "REAL") := by
  by_cases hid : realId id
  · rw [h.orders id hid]
  · obtain ⟨hother, hn⟩ := h.otherOrders id hid
    rw [hn, Option.filter_none, Option.filter_eq_none_iff]
    intro order ho hreal
    exact hother order ho (beq_iff_eq.mp hreal)

variable (h : MirrorsBook mixed alone)
include h

private theorem MirrorsBook.get?_alone (symbol : String) :
    alone.positions.get? symbol = (mixed.positions.get? symbol).filter (·.mode == "REAL") := by
  rw [PositionBook.get?, ← h.positions, Dict.get?_filter]
  rfl

private theorem MirrorsBook.real_alone {symbol : String} {p : PositionState}
    (hp : alone.positions.get? symbol = some p) : p.mode = "REAL" := by
  rw [h.get?_alone, Option.filter_eq_some_iff] at hp
  exact beq_iff_eq.mp hp.2

private theorem MirrorsBook.realPositions (symbol : String) :
    (mixed.positions.get? symbol).filter (·.mode == "REAL") =
      (alone.positions.get? symbol).filter (·.mode == "REAL") := by
  rw [h.get?_alone, Option.filter_filter]
  simp

private theorem MirrorsBook.positions_eq
    (hreal : ∀ symbol, ∀ p ∈ mixed.positions.get? symbol, p.mode = "REAL") :
    mixed.positions = alone.positions := by
  have hself : mixed.positions.positions.filter (fun _ p => p.mode == "REAL") =
      mixed.positions.positions :=
    Dict.filter_eq_self _ _ fun symbol p hp => beq_iff_eq.mpr (hreal symbol p hp)
  have hdict := hself.symm.trans h.positions
  cases hm : mixed.positions
  cases ha : alone.positions
  rw [hm, ha] at hdict
  simpa only [PositionBook.mk.injEq] using hdict

omit h in
private theorem realOutcome_eq {x y : RunnerState × Except RunnerError Bool}
    (h : Mirrors realId x.1 y.1) (hreturned : x.2.toOption = y.2.toOption)
    (htotals : x.2.toOption = some true →
      x.1.lastActivity.map (·.totals) = y.1.lastActivity.map (·.totals)) :
    realOutcome x = realOutcome y := by
  unfold realOutcome
  simp only [h.realOrders, h.realPositions, hreturned]
  congr 1
  split
  · next htrue => exact htotals (hreturned.trans htrue)
  · rfl

end

/-! ### A delivery of another mode -/

section

variable {base : ℚ} {realId : String → Prop} {mixed alone : RunnerState} {d : Delivery}
  {fill : PositionFill} {book : PositionBook} {symbol : String}

private theorem MirrorsBook.apply_other (h : MirrorsBook mixed alone) (hmode : fill.mode ≠ "REAL")
    (hnormal : upper (strip fill.mode) = fill.mode)
    (hbook : mixed.positions.apply d.now fill = .ok book) :
    book.positions.filter (fun _ p => p.mode == "REAL") = alone.positions.positions ∧
      (∀ symbol, ∀ p ∈ book.get? symbol, upper (strip p.mode) = p.mode) ∧
      alone.positions.get? fill.symbol = none := by
  have hold : ∀ p ∈ mixed.positions.get? fill.symbol, p.mode = fill.mode :=
    ((PositionBook.apply_isOk_iff _ _ _).mp ⟨book, hbook⟩).2
  obtain ⟨update, hupdate, rfl⟩ := PositionBook.apply_eq_ok hbook
  obtain ⟨-, -, -, hcur, -, -, -⟩ := PositionBook.applyFill_get? hupdate
  refine ⟨?_, ?_, ?_⟩
  · have hnew : ¬ (update.current.mode == "REAL") = true := by rw [hcur]; simpa using hmode
    have hset := Dict.filter_set_of_neg mixed.positions.positions (fun _ p => p.mode == "REAL")
      hnew (fun p hp => by rw [hold p hp]; simpa using hmode)
    exact hset.trans h.positions
  · intro symbol p hp
    rw [PositionBook.get?_store] at hp
    split at hp
    · cases hp
      rw [hcur]
      exact hnormal
    · exact h.normal symbol p hp
  · rw [h.get?_alone, Option.filter_eq_none_iff]
    intro p hp hreal
    exact hmode ((hold p hp).symm.trans (beq_iff_eq.mp hreal))

-- what a delivery does to the positions and prices depends on the positions alone
private theorem receive_cases (base : ℚ) (positions : PositionBook) (d : Delivery) :
    (∀ s, s.positions = positions → (receive base s d).positions = positions ∧
        (receive base s d).markPrices = s.markPrices) ∨
      ∃ fill book, ledgerFill d.now d.envelope = some fill ∧
        positions.apply d.now fill = .ok book ∧
        ∀ s, s.positions = positions → (receive base s d).positions = book ∧
          (receive base s d).markPrices = s.markPrices.set fill.symbol fill.price := by
  have hledgers (s : RunnerState) := runOnce_ledgers base d.now s d.envelope
  simp only [receive, hledgers]
  cases hf : ledgerFill d.now d.envelope with
  | none =>
    left
    rintro s rfl
    exact ⟨rfl, rfl⟩
  | some fill =>
    simp only [Option.map_some, Option.getD_some, PositionBook.book, bookMarkPrice]
    cases hbook : positions.apply d.now fill with
    | error e =>
      left
      rintro s rfl
      rw [hbook]
      exact ⟨rfl, rfl⟩
    | ok book =>
      right
      refine ⟨fill, book, rfl, hbook, ?_⟩
      rintro s rfl
      rw [hbook]
      exact ⟨rfl, rfl⟩

private theorem MirrorsOrders.other (h : MirrorsOrders realId mixed alone)
    (hmode : deliveryMode d ≠ "REAL") (hid : ¬ realId (deliveryOrderId d)) :
    MirrorsOrders realId (receive base mixed d) alone := by
  rcases readUpdate_cases base d.now d.envelope with ⟨u, hr⟩ | ⟨-, result, -, hrun⟩
  · obtain ⟨hu, -, huid⟩ := update_of_delivery hr
    obtain ⟨horders, hevs⟩ := runOnce_orderLedger base mixed hr
    have hne {id : String} (hin : realId id) : u.orderId ≠ id := by
      rintro rfl
      exact hid (huid ▸ hin)
    constructor
    · intro id hin
      rw [receive, horders, Dict.get?_set_of_ne _ _ (hne hin), h.orders id hin]
    · intro id hin
      rw [receive, hevs, Dict.get?_set_of_ne _ _ (hne hin), h.events id hin]
    · intro id hother
      refine ⟨fun order ho => ?_, (h.otherOrders id hother).2⟩
      rw [receive, horders, Dict.get?_set] at ho
      split at ho
      · cases ho
        exact hu.trans_ne hmode
      · exact (h.otherOrders id hother).1 order ho
  · rw [receive, hrun]
    exact h

private theorem MirrorsBook.other (h : MirrorsBook mixed alone) (hmode : deliveryMode d ≠ "REAL") :
    MirrorsBook (receive base mixed d) alone := by
  rcases receive_cases base mixed.positions d with hkept | ⟨fill, book, hf, hbook, hnew⟩
  · obtain ⟨hsame, hmarks⟩ := hkept mixed rfl
    exact ⟨hsame ▸ h.positions, hsame ▸ h.normal, hmarks ▸ h.marks⟩
  · obtain ⟨hnew, hmarks⟩ := hnew mixed rfl
    obtain ⟨hfmode, hnormal⟩ := ledgerFill_of_delivery hf
    obtain ⟨hfilter, hnormals, hn⟩ := h.apply_other (hfmode.trans_ne hmode) hnormal hbook
    refine ⟨hnew ▸ hfilter, hnew ▸ hnormals, fun symbol p hp => ?_⟩
    have hne : fill.symbol ≠ symbol := by
      rintro rfl
      rw [hn] at hp
      cases hp
    rw [hmarks, Dict.get?_set_of_ne _ _ hne]
    exact h.marks symbol p hp

private theorem mirrors_other (h : Mirrors realId mixed alone) (hreal : ¬ isReal d = true)
    (hid : ¬ realId (deliveryOrderId d)) : Mirrors realId (receive base mixed d) alone := by
  have hmode : deliveryMode d ≠ "REAL" := fun hm => hreal (beq_iff_eq.mpr hm)
  exact ⟨h.toMirrorsOrders.other hmode hid, h.toMirrorsBook.other hmode⟩

/-! ### A REAL delivery -/

variable {u : OrderUpdate}

private theorem MirrorsOrders.reconciled_eq (h : MirrorsOrders realId mixed alone)
    (hid : realId u.orderId) :
    reconciledOrder mixed u = reconciledOrder alone u ∧
      eventsForOrder mixed u = eventsForOrder alone u := by
  have hexisting : existingOrder mixed u = existingOrder alone u := by
    rw [existingOrder, existingOrder, h.orders _ hid]
  have hevs : eventsForOrder mixed u = eventsForOrder alone u := by
    rw [eventsForOrder, eventsForOrder, h.events _ hid]
  refine ⟨?_, hevs⟩
  simp only [reconciledOrder, updatedOrder, hexisting, hevs]

private theorem MirrorsOrders.real (h : MirrorsOrders realId mixed alone)
    (hr : readUpdate d.now d.envelope = .ok (some u)) (hid : realId u.orderId) :
    MirrorsOrders realId (receive base mixed d) (receive base alone d) := by
  obtain ⟨ho, hevs⟩ := h.reconciled_eq hid
  obtain ⟨hmixed, hmixed'⟩ := runOnce_orderLedger base mixed hr
  obtain ⟨halone, halone'⟩ := runOnce_orderLedger base alone hr
  constructor
  · intro id hin
    rw [receive, receive, hmixed, halone, ho, Dict.get?_set, Dict.get?_set, h.orders id hin]
  · intro id hin
    rw [receive, receive, hmixed', halone', hevs, Dict.get?_set, Dict.get?_set,
      h.events id hin]
  · intro id hother
    have hne : u.orderId ≠ id := by
      rintro rfl
      exact hother hid
    rw [receive, receive, hmixed, halone, Dict.get?_set_of_ne _ _ hne, Dict.get?_set_of_ne _ _ hne]
    exact h.otherOrders id hother

private theorem MirrorsBook.completes_alone (h : MirrorsBook mixed alone) (hmode : u.mode = "REAL")
    (hsigned : ∀ fill ∈ u.positionFill, ∃ signed, signedQuantity fill = .ok signed) :
    Completes alone u := by
  refine ⟨fun fill hf => ⟨hsigned fill hf, fun p hp => ?_⟩, fun symbol p hp _ => ⟨?_, .inr ?_⟩⟩
  · rw [h.real_alone hp, hmode]
  · rw [h.real_alone hp, hmode]
  · rw [(alone.positions.settled symbol p hp).1]
    exact (h.marks symbol p hp).2

private theorem MirrorsBook.not_completes (h : MirrorsBook mixed alone) (hmode : u.mode = "REAL")
    {p : PositionState} (hp : mixed.positions.get? symbol = some p) (hother : p.mode ≠ "REAL") :
    ¬ Completes mixed u := by
  rintro ⟨hbookable, hmarkable⟩
  by_cases hreplaced : u.positionFill.isSome → symbol ≠ u.symbol
  · obtain ⟨hsame, -⟩ := hmarkable symbol p hp hreplaced
    rw [h.normal symbol p hp, hmode, upper_strip_real] at hsame
    exact hother hsame
  · obtain ⟨hsome, hsym⟩ := Classical.not_imp.mp hreplaced
    obtain ⟨fill, hf⟩ := Option.isSome_iff_exists.mp hsome
    rw [not_not.mp hsym] at hp
    exact hother (((hbookable fill hf).2 p hp).trans hmode)

private theorem MirrorsBook.book_real (h : MirrorsBook mixed alone) (hmode : fill.mode = "REAL")
    (hbook : alone.positions.apply d.now fill = .ok book) {p : PositionState}
    (hp : book.get? symbol = some p) :
    p.mode = "REAL" ∧ (fill.symbol = symbol ∨ alone.positions.get? symbol = some p) := by
  obtain ⟨update, hupdate, rfl⟩ := PositionBook.apply_eq_ok hbook
  obtain ⟨-, -, -, hcur, -, -, -⟩ := PositionBook.applyFill_get? hupdate
  rw [PositionBook.get?_store] at hp
  split at hp
  · next hsym =>
    cases hp
    exact ⟨hcur.trans hmode, .inl hsym⟩
  · exact ⟨h.real_alone hp, .inr hp⟩

private theorem MirrorsBook.real (h : MirrorsBook mixed alone) (hreal : isReal d = true)
    (hsame : mixed.positions = alone.positions) :
    (receive base mixed d).positions = (receive base alone d).positions ∧
      MirrorsBook (receive base mixed d) (receive base alone d) := by
  have hpositions : (receive base mixed d).positions = (receive base alone d).positions := by
    rw [receive, receive, (runOnce_ledgers ..).1, (runOnce_ledgers ..).1, hsame]
  have hbook : ∀ symbol, ∀ p ∈ (receive base alone d).positions.get? symbol, p.mode = "REAL" ∧
      (receive base mixed d).markPrices.get? symbol =
        (receive base alone d).markPrices.get? symbol ∧
      ((receive base alone d).markPrices.get? symbol).isSome := by
    intro symbol p hp
    rcases receive_cases base alone.positions d with hkept | ⟨fill, book, hf, hbook, hnew⟩
    · rw [(hkept alone rfl).1] at hp
      rw [(hkept mixed hsame).2, (hkept alone rfl).2]
      exact ⟨h.real_alone hp, h.marks symbol p hp⟩
    · have hmode : fill.mode = "REAL" :=
        (ledgerFill_of_delivery hf).1.trans (beq_iff_eq.mp hreal)
      rw [(hnew alone rfl).1] at hp
      obtain ⟨hpmode, hwhere⟩ := h.book_real hmode hbook hp
      rw [(hnew mixed hsame).2, (hnew alone rfl).2, Dict.get?_set, Dict.get?_set]
      refine ⟨hpmode, ?_⟩
      split
      · exact ⟨rfl, rfl⟩
      · next hne => exact h.marks symbol p (hwhere.resolve_left hne)
  refine ⟨hpositions, ?_, fun symbol p hp => ?_, fun symbol p hp => (hbook symbol p hp).2⟩
  · rw [hpositions]
    exact Dict.filter_eq_self _ _ fun symbol p hp => beq_iff_eq.mpr (hbook symbol p hp).1
  · rw [hpositions] at hp
    rw [(hbook symbol p hp).1, upper_strip_real]

private theorem bookTotals_eq {s t : RunnerState} (hsame : s.positions = t.positions)
    (hmarks : ∀ symbol, ∀ p ∈ t.positions.get? symbol,
      s.markPrices.get? symbol = t.markPrices.get? symbol) :
    bookTotals base s = bookTotals base t := by
  have hpnl : s.positions.positions.values.map (markedPnl s.markPrices) =
      t.positions.positions.values.map (markedPnl t.markPrices) := by
    rw [hsame]
    apply List.map_congr_left
    intro p hp
    obtain ⟨symbol, hg⟩ := (Dict.mem_values_iff _ p).mp hp
    have hsym : p.symbol = symbol := (t.positions.settled symbol p hg).1
    rw [markedPnl, markedPnl, hsym, hmarks symbol p hg]
  rw [bookTotals, bookTotals, hpnl, hsame]

private theorem toOption_of_not_completes {s : RunnerState}
    (hr : readUpdate d.now d.envelope = .ok (some u)) (h : ¬ Completes s u) :
    (runOnce base d.now s d.envelope).2.toOption = none := by
  cases hres : (runOnce base d.now s d.envelope).2 with
  | error e => rfl
  | ok processed => exact absurd ((runOnce_isOk_iff base s hr).mp ⟨processed, hres⟩) h

private def SameReal (base : ℚ) (mixed alone : RunnerState) (d : Delivery) : Prop :=
  realOutcome (runOnce base d.now mixed d.envelope) =
    realOutcome (runOnce base d.now alone d.envelope)

private theorem Mirrors.refused_real (h : Mirrors realId mixed alone)
    (hr : readUpdate d.now d.envelope = .ok (some u)) (hid : realId u.orderId)
    {fill : PositionFill} (hf : u.positionFill = some fill) {error : PositionEngineError}
    (hsigned : signedQuantity fill = .error error) :
    Mirrors realId (receive base mixed d) (receive base alone d) ∧
      SameReal base mixed alone d := by
  have hledgerFill : ledgerFill d.now d.envelope = some fill := by
    rw [ledgerFill, hr]
    exact hf
  have hrefused (s : RunnerState) : ¬ Completes s u := by
    rintro ⟨hbookable, -⟩
    obtain ⟨⟨signed, hok⟩, -⟩ := hbookable fill hf
    rw [hsigned] at hok
    cases hok
  have hkept (s : RunnerState) : (receive base s d).positions = s.positions ∧
      (receive base s d).markPrices = s.markPrices :=
    runOnce_ledgers_of_refused base hledgerFill hsigned
  have hbook : MirrorsBook (receive base mixed d) (receive base alone d) := by
    constructor
    · rw [(hkept mixed).1, (hkept alone).1]
      exact h.positions
    · rw [(hkept mixed).1]
      exact h.normal
    · rw [(hkept alone).1, (hkept mixed).2, (hkept alone).2]
      exact h.marks
  have hafter : Mirrors realId _ _ := ⟨h.toMirrorsOrders.real hr hid, hbook⟩
  have hn (s : RunnerState) := @toOption_of_not_completes base d u s hr (hrefused s)
  refine ⟨hafter, realOutcome_eq hafter ((hn mixed).trans (hn alone).symm) fun htrue => ?_⟩
  rw [hn mixed] at htrue
  cases htrue

private theorem Mirrors.completed_real (h : Mirrors realId mixed alone) (hreal : isReal d = true)
    (hr : readUpdate d.now d.envelope = .ok (some u)) (hid : realId u.orderId)
    (hsigned : ∀ fill ∈ u.positionFill, ∃ signed, signedQuantity fill = .ok signed)
    (hall : ∀ symbol, ∀ p ∈ mixed.positions.get? symbol, p.mode = "REAL") :
    Mirrors realId (receive base mixed d) (receive base alone d) ∧
      SameReal base mixed alone d := by
  have hmode : u.mode = "REAL" := (update_of_delivery hr).1.trans (beq_iff_eq.mp hreal)
  have hsame := h.positions_eq hall
  obtain ⟨hpositions, hbook⟩ := @MirrorsBook.real base _ _ _ h.toMirrorsBook hreal hsame
  have hafter : Mirrors realId _ _ := ⟨h.toMirrorsOrders.real hr hid, hbook⟩
  have halone : Completes alone u := h.completes_alone hmode hsigned
  have hmixed : Completes mixed u := by
    refine ⟨fun fill hf => ⟨hsigned fill hf, fun p hp => ?_⟩, fun symbol p hp _ => ?_⟩
    · rw [hall u.symbol p hp, hmode]
    · have hp' : alone.positions.get? symbol = some p := hsame ▸ hp
      obtain ⟨hmark, hsome⟩ := h.marks symbol p hp'
      refine ⟨by rw [hall symbol p hp, hmode], .inr ?_⟩
      rw [(mixed.positions.settled symbol p hp).1, hmark]
      exact hsome
  obtain ⟨hok, htotals⟩ := @totals_runOnce base _ _ _ _ hr hmixed
  obtain ⟨hok', htotals'⟩ := @totals_runOnce base _ _ _ _ hr halone
  refine ⟨hafter, realOutcome_eq hafter (by rw [hok, hok']) fun _ => ?_⟩
  have hequal := @bookTotals_eq base (receive base mixed d) (receive base alone d) hpositions
    fun symbol p hp => (hbook.marks symbol p hp).1
  exact htotals.trans ((congrArg some hequal).trans htotals'.symm)

private theorem Mirrors.real_iff (h : Mirrors realId mixed alone) (hreal : isReal d = true)
    (hid : realId (deliveryOrderId d)) :
    (SameReal base mixed alone d ↔ MeetsRealOnly mixed d) ∧
      (MeetsRealOnly mixed d → Mirrors realId (receive base mixed d) (receive base alone d)) := by
  rcases readUpdate_cases base d.now d.envelope with ⟨u, hr⟩ | ⟨hn, result, hfalse, hrun⟩
  · obtain ⟨humode, -, huid⟩ := update_of_delivery hr
    have hmode : u.mode = "REAL" := humode.trans (beq_iff_eq.mp hreal)
    rw [← huid] at hid
    by_cases hsigned : ∀ fill ∈ u.positionFill, ∃ signed, signedQuantity fill = .ok signed
    · by_cases hall : ∀ symbol, ∀ p ∈ mixed.positions.get? symbol, p.mode = "REAL"
      · obtain ⟨hafter, heq⟩ :=
          @Mirrors.completed_real base _ _ _ _ _ h hreal hr hid hsigned hall
        exact ⟨iff_of_true heq fun _ _ _ _ => hall, fun _ => hafter⟩
      · have hfails : ¬ MeetsRealOnly mixed d := fun hmeets =>
          hall (hmeets hreal u hr hsigned)
        refine ⟨iff_of_false (fun heq => ?_) hfails, fun hmeets => absurd hmeets hfails⟩
        have hreturned := congrArg RealOutcome.returned heq
        obtain ⟨hok, -⟩ := @totals_runOnce base _ _ _ _ hr (h.completes_alone hmode hsigned)
        simp only [not_forall] at hall
        obtain ⟨symbol, p, hp, hother⟩ := hall
        have hraised := @toOption_of_not_completes base d u mixed hr
          (h.not_completes hmode hp hother)
        rw [realOutcome, realOutcome, hraised, hok] at hreturned
        cases hreturned
    · have hvacuous : MeetsRealOnly mixed d := by
        intro _ u' hu' hsigned'
        obtain rfl : u = u' := Option.some.inj (Except.ok.inj (hr.symm.trans hu'))
        exact absurd hsigned' hsigned
      simp only [not_forall] at hsigned
      obtain ⟨fill, hf, hunsigned⟩ := hsigned
      cases herror : signedQuantity fill with
      | ok signed => exact absurd ⟨signed, herror⟩ hunsigned
      | error e =>
        obtain ⟨hafter, heq⟩ := @Mirrors.refused_real base _ _ _ _ _ h hr hid _ hf _ herror
        exact ⟨iff_of_true heq hvacuous, fun _ => hafter⟩
  · -- without an update both runs return the same and stay where they are
    rw [SameReal, receive, receive, hrun, hrun]
    refine ⟨iff_of_true (realOutcome_eq h rfl fun htrue => absurd htrue hfalse) ?_, fun _ => h⟩
    intro _ u hu
    exact absurd hu (hn u)

end

/-! ### Both runs side by side -/

private def RealId (deliveries : List Delivery) (id : String) : Prop :=
  ∃ d ∈ deliveries, isReal d = true ∧ deliveryOrderId d = id

private def SameOutcome (base : ℚ) (p : RunnerState × RunnerState) (d : Delivery) : Prop :=
  isReal d = true → SameReal base p.1 p.2 d

private theorem modeIsolated_iff_sameOutcome (base : ℚ) (deliveries : List Delivery) :
    ModeIsolated base deliveries ↔
      Along (beside (receive base) isReal) (SameOutcome base) ({}, {}) deliveries := by
  rw [along_beside_iff]
  exact Iff.rfl

private theorem mirrors_start (realId : String → Prop) : Mirrors realId {} {} where
  orders _ _ := rfl
  events _ _ := rfl
  otherOrders _ _ := ⟨by rintro order ⟨⟩, rfl⟩
  positions := rfl
  normal := by rintro symbol p ⟨⟩
  marks := by rintro symbol p ⟨⟩

private theorem Interleaving.isReal_iff (x : Interleaving) :
    ∀ d ∈ x.deliveries, isReal d = true ↔ RealId x.deliveries (deliveryOrderId d) := by
  intro d hd
  constructor
  · intro hreal
    exact ⟨d, hd, hreal, rfl⟩
  · rintro ⟨y, hy, hyreal, hyid⟩
    by_contra hreal
    exact x.separate y hy d hd hyreal hreal hyid

section

variable {base : ℚ} {realId : String → Prop} {p : RunnerState × RunnerState} {d : Delivery}

private theorem mirrors_beside (hp : Mirrors realId p.1 p.2)
    (hid : isReal d = true ↔ realId (deliveryOrderId d)) (hmeets : MeetsRealOnly p.1 d) :
    Mirrors realId (beside (receive base) isReal p d).1 (beside (receive base) isReal p d).2 := by
  unfold beside
  by_cases hreal : isReal d = true
  · rw [if_pos hreal]
    exact (hp.real_iff hreal (hid.mp hreal)).2 hmeets
  · rw [if_neg hreal]
    exact mirrors_other hp hreal fun hin => hreal (hid.mpr hin)

private theorem sameOutcome_iff (hp : Mirrors realId p.1 p.2)
    (hid : isReal d = true ↔ realId (deliveryOrderId d)) :
    SameOutcome base p d ↔ MeetsRealOnly p.1 d := by
  by_cases hreal : isReal d = true
  · have hout := (@Mirrors.real_iff base _ _ _ _ hp hreal (hid.mp hreal)).1
    exact ⟨fun hsame => hout.mp (hsame hreal), fun hmeets _ => hout.mpr hmeets⟩
  · exact iff_of_true (fun h => absurd h hreal) fun h => absurd h hreal

end

/-- Every REAL update is judged as if the REAL deliveries came alone exactly when each comes
while all positions held are REAL ones. -/
theorem modeIsolated_iff_meetsRealOnly (base : ℚ) (x : Interleaving) :
    ModeIsolated base x.deliveries ↔ Along (receive base) MeetsRealOnly {} x.deliveries := by
  rw [modeIsolated_iff_sameOutcome]
  have hmeets : Along (beside (receive base) isReal) (SameOutcome base) ({}, {}) x.deliveries ↔
      Along (beside (receive base) isReal) (fun p d => MeetsRealOnly p.1 d) ({}, {})
        x.deliveries :=
    @along_iff_along _ _ _ (fun p => Mirrors (RealId x.deliveries) p.1 p.2) _ _ _ _
      (fun d => isReal d = true ↔ RealId x.deliveries (deliveryOrderId d))
      (fun _ _ hp hid hcond => mirrors_beside hp hid hcond)
      (fun _ _ hp hid => sameOutcome_iff hp hid) x.isReal_iff (mirrors_start _)
  rw [hmeets]
  exact @along_simulation _ _ _ (fun _ => True) _ _ _ Prod.fst (fun _ _ _ => trivial)
    (fun _ _ _ => rfl) _ x.deliveries trivial

/-- A REAL fill of order `b`. -/
def realFill : Delivery where
  now := "t2"
  envelope := { filledEnvelope "b" "t2" "BUY" 1 100 with
    payload := (filledEnvelope "b" "t2" "BUY" 1 100).payload.map ({ · with mode := some "REAL" }) }

/-- A MOCK fill of order `a`, then the REAL fill in the same symbol. -/
def mockThenReal : Interleaving where
  deliveries := [⟨"t1", filledEnvelope "a" "t1" "BUY" 1 100⟩, realFill]
  separate := by decide +kernel

/-- The REAL fill is refused after the MOCK one and booked without it. -/
theorem real_fill_refused_after_mock :
    (runOnce 0 "t2" (run (receive 0) {} (mockThenReal.deliveries.take 1)) realFill.envelope).2 =
        .error (.position (.modeMismatch "MOCK" "REAL")) ∧
      (runOnce 0 "t2" {} realFill.envelope).2 = .ok true ∧
      ¬ ModeIsolated 0 mockThenReal.deliveries := by
  have hmixed : (runOnce 0 "t2" (run (receive 0) {} (mockThenReal.deliveries.take 1))
      realFill.envelope).2 = .error (.position (.modeMismatch "MOCK" "REAL")) := by
    decide +kernel
  have halone : (runOnce 0 "t2" {} realFill.envelope).2 = .ok true := by decide +kernel
  refine ⟨hmixed, halone, fun hisolated => ?_⟩
  have hreturned := congrArg RealOutcome.returned
    (hisolated (mockThenReal.deliveries.take 1) realFill [] rfl (by decide +kernel))
  have hfirst : (mockThenReal.deliveries.take 1).filter isReal = [] := by decide +kernel
  rw [hfirst] at hreturned
  have hdiffer : (runOnce 0 "t2" (run (receive 0) {} (mockThenReal.deliveries.take 1))
      realFill.envelope).2.toOption = (runOnce 0 "t2" {} realFill.envelope).2.toOption := hreturned
  rw [hmixed, halone] at hdiffer
  cases hdiffer

end OpenTrader.Oms
