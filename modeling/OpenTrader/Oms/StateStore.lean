import OpenTrader.Base.Rows
import OpenTrader.Oms.Runner

/-!
# The SQL state store of the OMS runner

Library `Oms`. `SQLAlchemyRuntimeOMSStateStore`, `services/workers/runtime_persistence.py:97-560`,
as the tables its own schema creates: keyed rows without foreign keys, lifecycle events in the
order of insertion. Orders and fills are stored under a UUID made from their id, and symbols in
upper case under an id made from their name. A number is written as a `float` to a `REAL` column
and read as the `Decimal` of its text; what it is then, and what `str.upper` makes of a text, are
parameters. The rows of the snapshots, which nothing reads, keep the numbers as they are computed.
The store writes one exchange, so the exchange id of a row is left out.
-/

namespace OpenTrader.Oms
open Base

/-! ### Ids -/

/-- Name-based ids that do not collide, `str.upper`, and what a number in range of a `float` is when
it is read back from its column. -/
structure StoreIds extends Uuid5 where
  injective : Function.Injective text
  upperCase : String → String
  upperCase_upperCase : ∀ text, upperCase (upperCase text) = upperCase text
  column : ℚ → ℚ

/-- Ids over ASCII symbols and numbers that their columns keep. -/
structure NameIds extends StoreIds where
  upperCase_eq : upperCase = upper
  column_eq : column = id

instance : Coe NameIds StoreIds := ⟨NameIds.toStoreIds⟩

/-- `_coerce_uuid`; `runtime_persistence.py:968-975`. A blank text, for which the source draws a
random id, never reaches it. -/
def coerceUuid (ids : StoreIds) (value : String) : String :=
  let normalized := strip value
  if isUuid normalized then uuidText normalized else ids.text normalized

/-- `_runtime_exchange_id`; `runtime_persistence.py:493-494`. -/
def runtimeExchangeId (ids : StoreIds) : String := ids.text "runtime_mock"

/-- The id of a symbol that is not in the table yet; `runtime_persistence.py:529`. -/
def symbolId (ids : StoreIds) (symbol : String) : String :=
  ids.text (runtimeExchangeId ids ++ ":" ++ symbol)

private theorem symbolId_injective (ids : StoreIds) : Function.Injective (symbolId ids) := by
  intro a b h
  have hname := ids.injective h
  exact (String.append_right_inj _).mp hname

/-! ### Tables -/

/-- A row of `orders`. -/
structure OrderRow where
  symbolId : String
  exchangeOrderId : String
  clientOrderId : String
  side : String
  orderType : String
  status : OmsState
  mode : String
  price : Option ℚ
  quantity : ℚ
  filledQuantity : ℚ
  averagePrice : Option ℚ
  createdAt : String
  updatedAt : String
  deriving DecidableEq

/-- A row of `fills`. -/
structure FillRow where
  orderId : String
  exchangeFillId : String
  side : String
  mode : String
  quantity : ℚ
  price : ℚ
  fee : ℚ
  feeCurrency : String
  filledAt : String
  deriving DecidableEq

/-- A row of `runtime_oms_lifecycle_events`. -/
structure EventRow where
  orderId : String
  eventType : String
  status : Option String
  fillId : Option String
  fillQuantity : Option ℚ
  fillPrice : Option ℚ
  fillFee : Option ℚ
  fillSource : Option String
  deriving DecidableEq

/-- A row of `positions`; a number takes the place of the random id. -/
structure PositionRow where
  id : ℕ
  symbolId : String
  mode : String
  side : String
  quantity : ℚ
  entryPrice : ℚ
  realizedPnl : ℚ
  status : PositionStatus
  openedAt : String
  closedAt : Option String
  deriving DecidableEq

/-- An event as it is loaded; `runtime_persistence.py:276-296`. -/
def EventRow.load (key : String) (row : EventRow) : LifecycleEvent :=
  { eventType := row.eventType
    status := row.status
    fill := row.fillId.map fun fillId =>
      { fillId
        orderId := key
        quantity := row.fillQuantity.getD 0
        price := row.fillPrice.getD 0
        fee := row.fillFee.getD 0
        source := if truthy row.fillSource then row.fillSource.getD "" else "runtime_worker" } }

/-- A joined row as a position; the time is `COALESCE(closed_at, opened_at)`. -/
def PositionRow.toState (symbol : String) (row : PositionRow) : PositionState :=
  { mode := row.mode
    symbol
    quantity := row.quantity
    averageEntryPrice := row.entryPrice
    realizedPnl := row.realizedPnl
    status := row.status
    updatedAt := row.closedAt.getD row.openedAt }

/-- The side column of a position. -/
def positionSide (quantity : ℚ) : String :=
  if quantity > 0 then "LONG" else if quantity < 0 then "SHORT" else "FLAT"

/-- The columns an `UPDATE` of a position sets. -/
def PositionRow.update (ids : StoreIds) (symbolId : String) (position : PositionState)
    (row : PositionRow) : PositionRow :=
  { row with
    symbolId
    mode := position.mode
    side := positionSide (ids.column position.quantity)
    quantity := ids.column position.quantity
    entryPrice := ids.column position.averageEntryPrice
    realizedPnl := ids.column position.realizedPnl
    status := position.status
    closedAt := if position.status = .closed then some position.updatedAt else none }

/-- The tables of the store. `symbols` holds the text of a symbol under its id. -/
structure Tables where
  symbols : Dict String String := Dict.empty
  orders : Dict String OrderRow := Dict.empty
  fills : Dict String FillRow := Dict.empty
  lifecycleEvents : List EventRow := []
  positions : List PositionRow := []
  markPrices : Dict (String × String) ℚ := Dict.empty
  portfolioSnapshots : List PortfolioSnapshot := []

namespace Tables

variable (ids : StoreIds) (now : String) (t : Tables)

/-- `_ensure_symbol_refs`; `runtime_persistence.py:496-550`. -/
def ensureSymbolRefs (symbol : String) : Tables × String :=
  let normalized := ids.upperCase (strip symbol)
  match t.symbols.entries.find? (·.2 = normalized) with
  | some existing => (t, existing.1)
  | none =>
    ({ t with symbols := t.symbols.set (symbolId ids normalized) normalized },
      symbolId ids normalized)

variable (orderId mode : String)

/-- `get_order`; `runtime_persistence.py:109-137`. -/
def getOrder : Option ReconciliationOrder := do
  let row ← t.orders.get? (coerceUuid ids orderId)
  let symbol ← t.symbols.get? row.symbolId
  return {
    orderId := coerceUuid ids orderId
    symbol
    mode := row.mode
    requestedQuantity := row.quantity
    status := row.status
    filledQuantity := row.filledQuantity
    averagePrice := row.averagePrice }

/-- The row `upsert_order` writes over `existing`: a known order keeps its side, its type, its
client order id and its time of creation. -/
def orderRow (symbolId : String) (existing : Option OrderRow) (order : ReconciliationOrder) :
    OrderRow :=
  { symbolId
    exchangeOrderId := order.orderId
    clientOrderId := (existing.map (·.clientOrderId)).getD order.orderId
    side := (existing.map (·.side)).getD "BUY"
    orderType := (existing.map (·.orderType)).getD "MARKET"
    status := order.status
    mode := order.mode
    price := order.averagePrice.map ids.column
    quantity := ids.column order.requestedQuantity
    filledQuantity := ids.column order.filledQuantity
    averagePrice := order.averagePrice.map ids.column
    createdAt := (existing.map (·.createdAt)).getD now
    updatedAt := now }

/-- `upsert_order`; `runtime_persistence.py:139-195`. -/
def upsertOrder (order : ReconciliationOrder) : Tables :=
  let refs := t.ensureSymbolRefs ids order.symbol
  let key := coerceUuid ids order.orderId
  { refs.1 with
    orders := refs.1.orders.set key (orderRow ids now refs.2 (refs.1.orders.get? key) order) }

/-- The event row of `append_lifecycle_event`; `runtime_persistence.py:200-219`. -/
def eventRow (event : LifecycleEvent) : EventRow :=
  { orderId
    eventType := event.eventType
    status := event.status
    fillId := event.fill.map (·.fillId)
    fillQuantity := event.fill.map fun fill => ids.column fill.quantity
    fillPrice := event.fill.map fun fill => ids.column fill.price
    fillFee := event.fill.map fun fill => ids.column fill.fee
    fillSource := event.fill.map (·.source) }

/-- The fill row of `append_lifecycle_event`, with the side and the mode of the row of its order;
`runtime_persistence.py:224-263`. A known fill keeps its order. -/
def fillRow (key : String) (existing : Option FillRow) (order : Option OrderRow)
    (fill : ReconciliationFill) : FillRow :=
  { orderId := (existing.map (·.orderId)).getD key
    exchangeFillId := fill.fillId
    side := (order.map (·.side)).getD "BUY"
    mode := (order.map (·.mode)).getD "MOCK"
    quantity := ids.column fill.quantity
    price := ids.column fill.price
    fee := ids.column fill.fee
    feeCurrency := "USD"
    filledAt := now }

/-- `append_lifecycle_event`; `runtime_persistence.py:197-263`. -/
def appendLifecycleEvent (event : LifecycleEvent) : Tables :=
  let key := coerceUuid ids orderId
  { t with
    lifecycleEvents := t.lifecycleEvents ++ [eventRow ids key event]
    fills :=
      match event.fill with
      | none => t.fills
      | some fill =>
        let fillKey := coerceUuid ids fill.fillId
        t.fills.set fillKey
          (fillRow ids now key (t.fills.get? fillKey) (t.orders.get? key) fill) }

/-- `load_lifecycle_events`; `runtime_persistence.py:265-297`. -/
def loadLifecycleEvents : List LifecycleEvent :=
  let key := coerceUuid ids orderId
  (t.lifecycleEvents.filter (·.orderId = key)).map (EventRow.load key)

/-- `ORDER BY opened_at DESC LIMIT 1`. -/
def latest (rows : List PositionRow) : Option PositionRow :=
  rows.foldl (fun best row =>
    match best with
    | none => some row
    | some first => if first.openedAt < row.openedAt then some row else some first) none

/-- The rows of a mode and a symbol. -/
def positionRows (symbol : String) : List PositionRow :=
  t.positions.filter fun row => row.mode = mode ∧ t.symbols.get? row.symbolId = some symbol

/-- `get_position`; `runtime_persistence.py:299-329`. -/
def getPosition (symbol : String) : Option PositionState :=
  (latest (t.positionRows mode symbol)).map (PositionRow.toState symbol)

/-- The row an `INSERT` of a position writes. -/
def newPositionRow (id : ℕ) (symbolId : String) (position : PositionState) : PositionRow :=
  { id
    symbolId
    mode := position.mode
    side := positionSide (ids.column position.quantity)
    quantity := ids.column position.quantity
    entryPrice := ids.column position.averageEntryPrice
    realizedPnl := ids.column position.realizedPnl
    status := position.status
    openedAt := position.updatedAt
    closedAt := if position.status = .closed then some position.updatedAt else none }

/-- `upsert_position`; `runtime_persistence.py:331-405`. -/
def upsertPosition (position : PositionState) : Tables :=
  let refs := t.ensureSymbolRefs ids position.symbol
  let rows := refs.1.positions.filter fun row =>
    row.mode = position.mode ∧ row.symbolId = refs.2
  { refs.1 with
    positions :=
      match latest rows with
      | none =>
        refs.1.positions ++ [newPositionRow ids refs.1.positions.length refs.2 position]
      | some existing =>
        refs.1.positions.map fun row =>
          if row.id = existing.id then row.update ids refs.2 position else row }

/-- `list_positions`; `runtime_persistence.py:407-440`. -/
def listPositions : List PositionState :=
  let joined := t.positions.filterMap fun row =>
    if row.mode = mode then (t.symbols.get? row.symbolId).map fun symbol => (symbol, row) else none
  let ordered := joined.mergeSort fun a b =>
    a.1 < b.1 || (a.1 == b.1 && !decide (a.2.openedAt < b.2.openedAt))
  (distinctBy Prod.fst ordered).map fun entry => entry.2.toState entry.1

/-- `upsert_mark_price`; `runtime_persistence.py:442-460`. -/
def upsertMarkPrice (symbol : String) (markPrice : ℚ) : Tables :=
  { t with markPrices := t.markPrices.set (mode, symbol) (ids.column markPrice) }

/-- `load_mark_prices`; `runtime_persistence.py:462-471`. -/
def loadMarkPrices : Dict String ℚ :=
  t.markPrices.entries.foldl (fun prices entry =>
    if entry.1.1 = mode then prices.set entry.1.2 entry.2 else prices) Dict.empty

/-- `insert_portfolio_snapshot`; `runtime_persistence.py:473-491`. -/
def insertPortfolioSnapshot (snapshot : PortfolioSnapshot) : Tables :=
  { t with portfolioSnapshots := t.portfolioSnapshots ++ [snapshot] }

/-! ### What the tables keep -/

/-- The key of a position: there is one row for a mode and a symbol. -/
def positionKey (row : PositionRow) : String × String := (row.mode, row.symbolId)

/-- Every symbol stands in upper case under its own id, every order and position refers to one, a
mode and a symbol have one position, and no event names a status. -/
structure Sound (t : Tables) : Prop where
  symbol : ∀ id symbol, t.symbols.get? id = some symbol →
    id = symbolId ids symbol ∧ ids.upperCase symbol = symbol
  order : ∀ key row, t.orders.get? key = some row → (t.symbols.get? row.symbolId).isSome
  position : ∀ row ∈ t.positions, (t.symbols.get? row.symbolId).isSome
  numbered : t.positions.map (·.id) = List.range t.positions.length
  single : (t.positions.map positionKey).Nodup
  statusless : ∀ row ∈ t.lifecycleEvents, row.status = none

/-- The tables without rows are sound. -/
theorem sound_empty : Sound ids {} where
  symbol := fun _ _ h => by cases h
  order := fun _ _ h => by cases h
  position := fun _ h => by cases h
  numbered := rfl
  single := List.nodup_nil
  statusless := fun _ h => by cases h

variable {ids now t}

/-- Nothing but the symbols changes. -/
theorem ensureSymbolRefs_fst (symbol : String) :
    ∃ symbols, (t.ensureSymbolRefs ids symbol).1 = { t with symbols } := by
  unfold ensureSymbolRefs
  dsimp only
  split
  · exact ⟨t.symbols, rfl⟩
  · exact ⟨_, rfl⟩

section

variable (h : t.Sound ids) (symbol : String)
include h

/-- A symbol is referred to by the id of its upper-case text. -/
theorem ensureSymbolRefs_snd : (t.ensureSymbolRefs ids symbol).2 =
    symbolId ids (ids.upperCase (strip symbol)) := by
  unfold ensureSymbolRefs
  dsimp only
  split
  · next existing hfound =>
    have htext : existing.2 = ids.upperCase (strip symbol) := by simpa using List.find?_some hfound
    have hm := (t.symbols.get?_eq_some_iff existing.1 existing.2).mpr
      (List.mem_of_find?_eq_some hfound)
    rw [(h.symbol _ _ hm).1, htext]
  · rfl

private theorem get?_ensureSymbolRefs :
    (t.ensureSymbolRefs ids symbol).1.symbols.get? (symbolId ids (ids.upperCase (strip symbol))) =
        some (ids.upperCase (strip symbol)) ∧
      ∀ id text, t.symbols.get? id = some text →
        (t.ensureSymbolRefs ids symbol).1.symbols.get? id = some text := by
  unfold ensureSymbolRefs
  dsimp only
  split
  · next existing hfound =>
    have htext : existing.2 = ids.upperCase (strip symbol) := by simpa using List.find?_some hfound
    have hg := (t.symbols.get?_eq_some_iff existing.1 existing.2).mpr
      (List.mem_of_find?_eq_some hfound)
    rw [(h.symbol _ _ hg).1, htext] at hg
    exact ⟨hg, fun _ _ hother => hother⟩
  · next hfound =>
    refine ⟨Dict.get?_set_self _ _ _, ?_⟩
    intro id text hg
    have hne : symbolId ids (ids.upperCase (strip symbol)) ≠ id := by
      intro hid
      rw [(h.symbol _ _ hg).1] at hid
      have hsame := symbolId_injective ids hid
      rw [← hsame] at hg
      have hm := (t.symbols.get?_eq_some_iff _ _).mp hg
      exact List.find?_eq_none.mp hfound _ hm (by simp)
    change (t.symbols.set _ _).get? id = some text
    rw [Dict.get?_set_of_ne _ _ hne]
    exact hg

theorem sound_ensureSymbolRefs : (t.ensureSymbolRefs ids symbol).1.Sound ids := by
  obtain ⟨-, hkept⟩ := get?_ensureSymbolRefs h symbol
  have hisSome {id : String} (hsome : (t.symbols.get? id).isSome) :
      ((t.ensureSymbolRefs ids symbol).1.symbols.get? id).isSome := by
    obtain ⟨text, htext⟩ := Option.isSome_iff_exists.mp hsome
    rw [hkept id text htext]
    rfl
  have hsym : ∀ id text, (t.ensureSymbolRefs ids symbol).1.symbols.get? id = some text →
      id = symbolId ids text ∧ ids.upperCase text = text := by
    intro id text hg
    unfold ensureSymbolRefs at hg
    dsimp only at hg
    split at hg
    · exact h.symbol id text hg
    · rw [Dict.get?_set] at hg
      split at hg
      · next hid =>
        cases hg
        exact ⟨hid.symm, ids.upperCase_upperCase _⟩
      · exact h.symbol id text hg
  obtain ⟨symbols, hfst⟩ := @ensureSymbolRefs_fst ids t symbol
  rw [hfst] at hisSome hsym ⊢
  exact ⟨hsym, fun key row hrow => hisSome (h.order key row hrow),
    fun row hrow => hisSome (h.position row hrow), h.numbered, h.single, h.statusless⟩

end

/-! ### Positions -/

theorem latest_toList (row : Option PositionRow) : latest row.toList = row := by
  cases row <;> rfl

private theorem filter_positionKey (rows : List PositionRow) (mode id : String) :
    (rows.filter fun row => row.mode = mode ∧ row.symbolId = id) =
      rows.filter fun row => positionKey row = (mode, id) := by
  simp only [positionKey, Prod.mk.injEq]

private theorem positionRows_eq (h : t.Sound ids) (mode symbol : String) :
    t.positionRows mode symbol =
      (rowAt positionKey (mode, symbolId ids symbol) t.positions).toList := by
  rw [← filter_key h.single, ← filter_positionKey]
  unfold positionRows
  apply List.filter_congr
  intro row hrow
  obtain ⟨text, htext⟩ := Option.isSome_iff_exists.mp (h.position row hrow)
  have hid := (h.symbol _ _ htext).1
  rw [htext, hid]
  simp [(symbolId_injective ids).eq_iff]

theorem getPosition_eq (h : t.Sound ids) (mode symbol : String) :
    t.getPosition mode symbol =
      (rowAt positionKey (mode, symbolId ids symbol) t.positions).map
        (PositionRow.toState symbol) := by
  rw [getPosition, positionRows_eq h, latest_toList]

/-- A position is read under its own mode and symbol, and a symbol that is found is in upper case.
-/
theorem getPosition_eq_some (h : t.Sound ids) {mode symbol : String} {p : PositionState}
    (hp : t.getPosition mode symbol = some p) :
    p.mode = mode ∧ p.symbol = symbol ∧ ids.upperCase symbol = symbol := by
  rw [getPosition_eq h] at hp
  obtain ⟨row, hrow, rfl⟩ := Option.map_eq_some_iff.mp hp
  obtain ⟨hm, hk⟩ := mem_of_rowAt hrow
  obtain ⟨hmode, hid⟩ := Prod.mk.inj hk
  obtain ⟨text, htext⟩ := Option.isSome_iff_exists.mp (h.position row hm)
  obtain ⟨hown, hupper⟩ := h.symbol _ _ htext
  rw [symbolId_injective ids (hown.symm.trans hid)] at hupper
  exact ⟨hmode, rfl, hupper⟩

/-- There is one row for every position that is read. -/
theorem length_positionRows (h : t.Sound ids) {mode symbol : String} {p : PositionState}
    (hp : t.getPosition mode symbol = some p) : (t.positionRows mode symbol).length = 1 := by
  rw [getPosition_eq h] at hp
  obtain ⟨row, hrow, -⟩ := Option.map_eq_some_iff.mp hp
  rw [positionRows_eq h, hrow]
  rfl

end Tables

/-- A position with the numbers its columns hold. -/
def PositionState.columns (ids : StoreIds) (p : PositionState) : PositionState :=
  { p with
    quantity := ids.column p.quantity
    averageEntryPrice := ids.column p.averageEntryPrice
    realizedPnl := ids.column p.realizedPnl }

/-- An order with the numbers its columns hold. -/
def ReconciliationOrder.columns (ids : StoreIds) (order : ReconciliationOrder) :
    ReconciliationOrder :=
  { order with
    requestedQuantity := ids.column order.requestedQuantity
    filledQuantity := ids.column order.filledQuantity
    averagePrice := order.averagePrice.map ids.column }

/-- A position apart from the time of its last change. -/
def PositionState.untimed (p : PositionState) : PositionState := { p with updatedAt := "" }

theorem PositionState.untimed_inj {p q : PositionState} (h : q.untimed = p.untimed) :
    q.quantity = p.quantity ∧ q.averageEntryPrice = p.averageEntryPrice ∧
      q.realizedPnl = p.realizedPnl := by
  simp only [untimed, PositionState.mk.injEq] at h
  exact ⟨h.2.2.1, h.2.2.2.1, h.2.2.2.2.1⟩

namespace Tables

variable {ids : StoreIds} {now : String} {t : Tables}

/-- Writing a position changes the symbols and the positions alone. -/
theorem upsertPosition_frame (p : PositionState) :
    ∃ symbols positions, t.upsertPosition ids p = { t with symbols, positions } := by
  obtain ⟨symbols, hfst⟩ := @ensureSymbolRefs_fst ids t p.symbol
  refine ⟨symbols, (t.upsertPosition ids p).positions, ?_⟩
  have heq : t.upsertPosition ids p =
      { (t.ensureSymbolRefs ids p.symbol).1 with
        positions := (t.upsertPosition ids p).positions } := rfl
  rw [hfst] at heq
  exact heq

private theorem positionKey_update (id : String) (p : PositionState) (row : PositionRow) :
    positionKey (row.update ids id p) = (p.mode, id) := rfl

private theorem positions_upsertPosition (h : t.Sound ids) (p : PositionState) :
    (t.upsertPosition ids p).positions =
      let id := symbolId ids (ids.upperCase (strip p.symbol))
      upsertRow positionKey (p.mode, id) (·.update ids id p)
        (newPositionRow ids t.positions.length id p) t.positions := by
  obtain ⟨symbols, hfst⟩ := @ensureSymbolRefs_fst ids t p.symbol
  unfold upsertPosition
  dsimp only
  rw [ensureSymbolRefs_snd h, hfst]
  dsimp only
  rw [filter_positionKey, filter_key h.single, latest_toList]
  unfold upsertRow
  cases hrow : rowAt positionKey (p.mode, symbolId ids (ids.upperCase (strip p.symbol)))
      t.positions with
  | none => rfl
  | some existing =>
    obtain ⟨hm, hkey⟩ := mem_of_rowAt hrow
    rw [Option.isSome_some, if_pos rfl]
    apply List.map_congr_left
    intro row hother
    have hids : (t.positions.map (·.id)).Nodup := by
      rw [h.numbered]
      exact List.nodup_range
    -- the random id and the key select the same row
    have hsame : row.id = existing.id ↔
        positionKey row = (p.mode, symbolId ids (ids.upperCase (strip p.symbol))) := by
      rw [← hkey]
      constructor
      · intro hid
        rw [List.inj_on_of_nodup_map hids hother hm hid]
      · intro hk
        rw [List.inj_on_of_nodup_map h.single hother hm hk]
    simp only [hsame]

/-- Writing a position keeps the tables sound. -/
theorem sound_upsertPosition (h : t.Sound ids) (p : PositionState) :
    (t.upsertPosition ids p).Sound ids := by
  have hrefs := sound_ensureSymbolRefs h p.symbol
  have hpositions := positions_upsertPosition h p
  obtain ⟨symbols, hfst⟩ := @ensureSymbolRefs_fst ids t p.symbol
  have hsome : ((t.ensureSymbolRefs ids p.symbol).1.symbols.get?
      (symbolId ids (ids.upperCase (strip p.symbol)))).isSome := by
    rw [(get?_ensureSymbolRefs h p.symbol).1]
    rfl
  have heq : t.upsertPosition ids p =
      { (t.ensureSymbolRefs ids p.symbol).1 with
        positions := (t.upsertPosition ids p).positions } := rfl
  rw [hpositions] at heq
  rw [hfst] at hrefs hsome heq
  rw [heq]
  exact
    { symbol := hrefs.symbol
      order := hrefs.order
      position := forall_upsertRow hrefs.position (fun _ _ => hsome) hsome
      numbered := numbered_upsertRow h.numbered (fun _ => rfl) rfl
      single := nodup_upsertRow (fun row _ => positionKey_update _ p row) rfl h.single
      statusless := hrefs.statusless }

private theorem rowAt_upsertPosition (h : t.Sound ids) (p : PositionState) (key : String × String) :
    ∃ id openedAt, rowAt positionKey key (t.upsertPosition ids p).positions =
      if (p.mode, symbolId ids (ids.upperCase (strip p.symbol))) = key then
        some { newPositionRow ids id (symbolId ids (ids.upperCase (strip p.symbol))) p with
          openedAt }
      else rowAt positionKey key t.positions := by
  rw [positions_upsertPosition h]
  dsimp only
  rw [rowAt_upsertRow (fun row _ => positionKey_update _ p row) rfl]
  cases rowAt positionKey (p.mode, symbolId ids (ids.upperCase (strip p.symbol))) t.positions with
  | none => exact ⟨t.positions.length, p.updatedAt, rfl⟩
  | some existing => exact ⟨existing.id, existing.openedAt, rfl⟩

/-- A position is read back with the numbers of its columns, under the upper-case text of its
symbol, and the other positions stay as they are. -/
theorem getPosition_upsertPosition (h : t.Sound ids) (p : PositionState) (mode symbol : String) :
    ((t.upsertPosition ids p).getPosition mode symbol).map (·.untimed) =
      if p.mode = mode ∧ ids.upperCase (strip p.symbol) = symbol then
        some { p.columns ids with symbol }.untimed
      else (t.getPosition mode symbol).map (·.untimed) := by
  obtain ⟨id, openedAt, hrow⟩ := rowAt_upsertPosition h p (mode, symbolId ids symbol)
  rw [getPosition_eq (sound_upsertPosition h p), getPosition_eq h, hrow]
  have hk : (p.mode, symbolId ids (ids.upperCase (strip p.symbol))) = (mode, symbolId ids symbol) ↔
      p.mode = mode ∧ ids.upperCase (strip p.symbol) = symbol := by
    rw [Prod.mk.injEq, (symbolId_injective ids).eq_iff]
  by_cases hsame : p.mode = mode ∧ ids.upperCase (strip p.symbol) = symbol
  · rw [if_pos (hk.mpr hsame), if_pos hsame]
    obtain ⟨rfl, -⟩ := hsame
    rfl
  · rw [if_neg (mt hk.mp hsame), if_neg hsame]

/-! ### Orders -/

private theorem getOrder_congr {t' : Tables} (h : t.Sound ids) (horders : t'.orders = t.orders)
    (hkept : ∀ id text, t.symbols.get? id = some text → t'.symbols.get? id = some text)
    (orderId : String) : t'.getOrder ids orderId = t.getOrder ids orderId := by
  unfold getOrder
  rw [horders]
  cases hrow : t.orders.get? (coerceUuid ids orderId) with
  | none => rfl
  | some row =>
    obtain ⟨text, htext⟩ := Option.isSome_iff_exists.mp (h.order _ _ hrow)
    simp only [Option.bind_eq_bind, Option.bind_some, htext, hkept _ _ htext]

/-- Writing a position leaves the orders alone. -/
theorem getOrder_upsertPosition (h : t.Sound ids) (p : PositionState) (orderId : String) :
    (t.upsertPosition ids p).getOrder ids orderId = t.getOrder ids orderId := by
  obtain ⟨symbols, hfst⟩ := @ensureSymbolRefs_fst ids t p.symbol
  apply getOrder_congr h
  · change (t.ensureSymbolRefs ids p.symbol).1.orders = t.orders
    rw [hfst]
  · exact (get?_ensureSymbolRefs h p.symbol).2

/-- An order is read back with the numbers of its columns, under its UUID and the upper-case text of
its symbol, and the other orders stay as they are. -/
theorem getOrder_upsertOrder (h : t.Sound ids) (order : ReconciliationOrder) (orderId : String) :
    (t.upsertOrder ids now order).getOrder ids orderId =
      if coerceUuid ids order.orderId = coerceUuid ids orderId then
        some { order.columns ids with
          orderId := coerceUuid ids orderId, symbol := ids.upperCase (strip order.symbol) }
      else t.getOrder ids orderId := by
  obtain ⟨hnew, hkept⟩ := get?_ensureSymbolRefs h order.symbol
  obtain ⟨symbols, hfst⟩ := @ensureSymbolRefs_fst ids t order.symbol
  have hsnd := ensureSymbolRefs_snd h order.symbol
  have horders : (t.ensureSymbolRefs ids order.symbol).1.orders = t.orders := by rw [hfst]
  split
  · next hk =>
    simp only [upsertOrder, getOrder, hk, Dict.get?_set_self, orderRow, hsnd, hnew,
      Option.bind_eq_bind, Option.bind_some]
    rfl
  · next hk =>
    rw [← getOrder_congr h horders hkept]
    unfold upsertOrder getOrder
    dsimp only
    rw [Dict.get?_set_of_ne _ _ hk]

theorem sound_upsertOrder (h : t.Sound ids) (order : ReconciliationOrder) :
    (t.upsertOrder ids now order).Sound ids := by
  have hrefs := sound_ensureSymbolRefs h order.symbol
  have hnew := (get?_ensureSymbolRefs h order.symbol).1
  refine ⟨hrefs.symbol, ?_, hrefs.position, hrefs.numbered, hrefs.single, hrefs.statusless⟩
  intro key row hrow
  unfold upsertOrder at hrow
  dsimp only at hrow
  rw [Dict.get?_set] at hrow
  split at hrow
  · cases hrow
    change ((t.ensureSymbolRefs ids order.symbol).1.symbols.get?
      (t.ensureSymbolRefs ids order.symbol).2).isSome
    rw [ensureSymbolRefs_snd h, hnew]
    rfl
  · exact hrefs.order key row hrow

/-- A queue event names no status, so appending it keeps the tables sound. -/
theorem sound_appendLifecycleEvent (h : t.Sound ids) (orderId : String) (event : QueueEvent) :
    (t.appendLifecycleEvent ids now orderId event.toLifecycleEvent).Sound ids := by
  refine ⟨h.symbol, h.order, h.position, h.numbered, h.single, ?_⟩
  intro row hrow
  rcases List.mem_append.mp hrow with hrow | hrow
  · exact h.statusless row hrow
  · rw [List.mem_singleton.mp hrow]
    exact event.statusless

end Tables

end OpenTrader.Oms
