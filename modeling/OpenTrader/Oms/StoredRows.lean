import OpenTrader.Base.Trace
import OpenTrader.Oms.StoreRunner

/-!
# What the rows of the state store tell

Library `Oms`. `services/workers/runtime_persistence.py:139-405` over whole runs of
`services/workers/oms_lifecycle.py:101-187`. A position is written under the upper-case text of its
symbol and read under the text as it came, with the numbers its columns hold. The side of an order
is written once, as `BUY`, and a fill takes its side and its mode from the row its order had
before.
-/

namespace OpenTrader.Oms
open Base

private def bracketed (name : String) : String := String.ofList ('<' :: (name.toList ++ ['>']))

private theorem bracketed_stripped (name : String) : strip (bracketed name) = bracketed name :=
  strip_between (by decide) (by decide) _

private theorem bracketed_nonempty (name : String) : bracketed name ≠ "" := by
  intro h
  have hlist := congrArg String.toList h
  simp [bracketed] at hlist

private theorem bracketed_injective : Function.Injective bracketed := by
  intro a b h
  have hlist := congrArg String.toList h
  simpa [bracketed, String.toList_inj] using hlist

/-- Names in brackets, in the place of name-based ids. -/
def bracketedIds : NameIds where
  text name := String.ofList ('<' :: (name.toList ++ ['>']))
  stripped := bracketed_stripped
  nonempty := bracketed_nonempty
  injective := bracketed_injective
  upperCase := upper
  upperCase_upperCase := upper_upper
  column := id
  upperCase_eq := rfl
  column_eq := rfl

/-- A fill of one coin in a symbol and a mode. -/
def coinFill (orderId emittedAt mode symbol action : String) : Delivery where
  now := emittedAt
  envelope :=
    { filledEnvelope orderId emittedAt action 1 100 with
      payload := some { orderId := some orderId, symbol := some symbol, mode := some mode,
                        action := some action, quantity := .num 1, fillPrice := .num 100 } }

/-! ### Positions -/

/-- The tables, with the position the runner wrote last for each mode and symbol. -/
structure PositionLog where
  tables : Tables := {}
  last : Dict (String × String) PositionState := Dict.empty

/-- A delivery is handled. -/
def PositionLog.step (ids : StoreIds) (base : ℚ) (s : PositionLog) (d : Delivery) :
    PositionLog where
  tables := s.tables.receive ids base d
  last :=
    match readUpdate d.now d.envelope with
    | .ok (some u) =>
      match s.tables.written d.now u with
      | some p => s.last.set (u.mode, u.symbol) p
      | none => s.last
    | _ => s.last

/-- The next update in a mode and a symbol starts from the position `p`: that is what is read, it is
the only row there is, and the engine takes every fill that is no dust and of a known side. -/
structure Tables.StartsFrom (ids : StoreIds) (t : Tables) (mode symbol : String)
    (p : PositionState) : Prop where
  read : ∃ q, t.getPosition mode symbol = some q ∧ q.quantity = p.quantity ∧
    q.averageEntryPrice = p.averageEntryPrice ∧ q.realizedPnl = p.realizedPnl
  single : (t.positionRows mode (ids.upperCase symbol)).length = 1
  accepted : ∀ now fill, fill.mode = mode → fill.symbol = symbol →
    (∃ signed, signedQuantity fill = .ok signed) →
    ∃ update, applyFill now (t.getPosition mode symbol) fill = .ok update

/-- The position that was written last for a mode and a symbol is the one the next update starts
from. -/
def PositionLog.RoundTrips (ids : StoreIds) (s : PositionLog) : Prop :=
  ∀ mode symbol p, s.last.get? (mode, symbol) = some p → s.tables.StartsFrom ids mode symbol p

/-- The columns keep the numbers of a position. -/
structure StoreIds.Keeps (ids : StoreIds) (p : PositionState) : Prop where
  quantity : ids.column p.quantity = p.quantity
  averageEntryPrice : ids.column p.averageEntryPrice = p.averageEntryPrice
  realizedPnl : ids.column p.realizedPnl = p.realizedPnl

/-- A fill the engine takes names its symbol in upper case, and the columns keep the numbers of the
position it makes of the one that was written last for its mode and symbol. -/
def PositionLog.Storable (ids : StoreIds) (s : PositionLog) (d : Delivery) : Prop :=
  ∀ u fill update, readUpdate d.now d.envelope = .ok (some u) → u.positionFill = some fill →
    applyFill d.now (s.last.get? (u.mode, u.symbol)) fill = .ok update →
      ids.upperCase u.symbol = u.symbol ∧ ids.Keeps update.current

section

variable {ids : StoreIds} {base : ℚ} {s : PositionLog} {d : Delivery} {u : OrderUpdate}

/-- The tables are sound, and the positions that are there are those that were written. -/
private structure PositionLog.Kept (ids : StoreIds) (s : PositionLog) : Prop where
  sound : s.tables.Sound ids
  kept : ∀ mode symbol, (s.tables.getPosition mode symbol).map (·.untimed) =
    (s.last.get? (mode, symbol)).map (·.untimed)

private theorem PositionLog.Kept.roundTrips (h : s.Kept ids) : s.RoundTrips ids := by
  intro mode symbol p hlast
  have hkept := h.kept mode symbol
  rw [hlast] at hkept
  obtain ⟨q, hr, huntimed⟩ := Option.map_eq_some_iff.mp hkept
  obtain ⟨hmode, hsym, hupper⟩ := Tables.getPosition_eq_some h.sound hr
  refine ⟨⟨q, hr, PositionState.untimed_inj huntimed⟩, ?_, ?_⟩
  · rw [hupper]
    exact Tables.length_positionRows h.sound hr
  · rintro now fill rfl rfl ⟨signed, hsigned⟩
    obtain ⟨hd, side, hside, -⟩ := (signedQuantity_eq_ok_iff _ _).mp hsigned
    refine ⟨_, (applyFill_eq_ok_iff now _ fill _).mpr ⟨side, hside, hd, ?_, rfl⟩⟩
    rw [hr]
    rintro _ ⟨⟩
    exact ⟨hmode, hsym⟩

/-- What is written is what the engine makes of the position that was written last. -/
private theorem PositionLog.Kept.written_eq (h : s.Kept ids) (now : String) :
    s.tables.written now u = u.positionFill.bind fun fill =>
      (applyFill now (s.last.get? (u.mode, u.symbol)) fill).toOption.map (·.current) := by
  unfold Tables.written
  cases u.positionFill with
  | none => rfl
  | some fill => exact applyFill_untimed (h.kept u.mode u.symbol)

private theorem PositionLog.Kept.storable_iff (h : s.Kept ids)
    (hu : readUpdate d.now d.envelope = .ok (some u)) :
    s.Storable ids d ↔ ∀ p, s.tables.written d.now u = some p →
      ids.upperCase u.symbol = u.symbol ∧ ids.Keeps p := by
  simp only [PositionLog.Storable, hu, h.written_eq, Except.ok.injEq, Option.some.injEq,
    Option.bind_eq_some_iff, Option.map_eq_some_iff, toOption_eq_some_iff]
  constructor
  · rintro hstorable p ⟨fill, hfill, update, hupdate, rfl⟩
    exact hstorable u fill update rfl hfill hupdate
  · rintro hwritten _ fill update rfl hfill hupdate
    exact hwritten _ ⟨fill, hfill, update, hupdate, rfl⟩

private theorem PositionLog.Kept.of_quiet (h : s.Kept ids)
    (hquiet : ∀ u, readUpdate d.now d.envelope = .ok (some u) → s.tables.written d.now u = none) :
    (s.step ids base d).Kept ids := by
  by_cases hr : ∃ u, readUpdate d.now d.envelope = .ok (some u)
  · obtain ⟨u, hu⟩ := hr
    have hn := hquiet u hu
    refine ⟨Tables.sound_receive h.sound, ?_⟩
    intro mode symbol
    simp only [PositionLog.step, hu, hn]
    rw [Tables.getPosition_receive h.sound hu, hn]
    simpa using h.kept mode symbol
  · have hne : ∀ u, readUpdate d.now d.envelope ≠ .ok (some u) := fun u hu => hr ⟨u, hu⟩
    have hsame : s.step ids base d = s := by
      unfold PositionLog.step
      rw [Tables.receive_of_ne hne]
      split
      · next u hu => exact absurd hu (hne u)
      · rfl
    rw [hsame]
    exact h

/-- The symbol of an update has no white space around it. -/
theorem strip_symbol_of_readUpdate (hu : readUpdate d.now d.envelope = .ok (some u)) :
    strip u.symbol = u.symbol := by
  obtain ⟨payload, -, -, ⟨hsym, -⟩, -⟩ := readUpdate_eq_some hu
  rw [hsym, strip_strip]

section

variable (h : s.Kept ids) (hu : readUpdate d.now d.envelope = .ok (some u)) {p : PositionState}
  (hp : s.tables.written d.now u = some p)
include h hu hp

private theorem PositionLog.Kept.of_written (hupper : ids.upperCase u.symbol = u.symbol)
    (hkeeps : ids.Keeps p) : (s.step ids base d).Kept ids := by
  obtain ⟨-, hsym⟩ := Tables.written_eq_some hp
  refine ⟨Tables.sound_receive h.sound, ?_⟩
  intro mode symbol
  simp only [PositionLog.step, hu, hp]
  rw [Tables.getPosition_receive h.sound hu, strip_symbol_of_readUpdate hu, hupper, hp,
    Dict.get?_set]
  simp only [Prod.mk.injEq]
  split
  · next hk =>
    rw [← hk.2, ← hsym, Option.map_some, Option.some_or, Option.map_some]
    simp only [PositionState.columns, hkeeps.quantity, hkeeps.averageEntryPrice,
      hkeeps.realizedPnl]
  · exact h.kept mode symbol

private theorem storable_of_roundTrips (hround : (s.step ids base d).RoundTrips ids) :
    ids.upperCase u.symbol = u.symbol ∧ ids.Keeps p := by
  have hlast : (s.step ids base d).last.get? (u.mode, u.symbol) = some p := by
    simp only [PositionLog.step, hu, hp]
    exact Dict.get?_set_self _ _ _
  obtain ⟨q, hr, hq, havg, hpnl⟩ := (hround _ _ p hlast).read
  have hupper := (Tables.getPosition_eq_some (Tables.sound_receive h.sound) hr).2.2
  have hread := @Tables.getPosition_receive ids base s.tables u d h.sound hu u.mode u.symbol
  change (s.tables.receive ids base d).getPosition u.mode u.symbol = some q at hr
  rw [strip_symbol_of_readUpdate hu, hupper, if_pos ⟨rfl, rfl⟩, hp, hr] at hread
  obtain ⟨hq', havg', hpnl'⟩ := PositionState.untimed_inj (Option.some.inj hread)
  exact ⟨hupper, ⟨hq'.symm.trans hq, havg'.symm.trans havg, hpnl'.symm.trans hpnl⟩⟩

end

end

/-- **Positions.** In a run from empty tables the next update in a mode and a symbol always starts
from the position that was written last, exactly when every fill the engine takes names its symbol
in upper case and makes a position whose numbers the columns keep. -/
theorem stored_position_round_trip_iff (ids : StoreIds) (base : ℚ) (ds : List Delivery) :
    Throughout (PositionLog.step ids base) (PositionLog.RoundTrips ids) {} ds ↔
      Along (PositionLog.step ids base) (PositionLog.Storable ids) {} ds := by
  have hinv : ∀ (s : PositionLog) (d : Delivery), s.Kept ids → s.Storable ids d →
      (s.step ids base d).Kept ids := by
    intro s d hkept hstorable
    by_cases hwritten : ∃ u p, readUpdate d.now d.envelope = .ok (some u) ∧
        s.tables.written d.now u = some p
    · obtain ⟨u, p, hu, hp⟩ := hwritten
      obtain ⟨hupper, hkeeps⟩ := (hkept.storable_iff hu).mp hstorable p hp
      exact hkept.of_written hu hp hupper hkeeps
    · apply hkept.of_quiet
      intro u hu
      by_contra hne
      obtain ⟨p, hp⟩ := Option.ne_none_iff_exists'.mp hne
      exact hwritten ⟨u, p, hu, hp⟩
  have hstep : ∀ (s : PositionLog) (d : Delivery), s.Kept ids → s.RoundTrips ids →
      ((s.step ids base d).RoundTrips ids ↔ s.Storable ids d) := by
    intro s d hkept _
    refine ⟨fun hround => ?_, fun hstorable => (hinv s d hkept hstorable).roundTrips⟩
    by_cases hr : ∃ u, readUpdate d.now d.envelope = .ok (some u)
    · obtain ⟨u, hu⟩ := hr
      exact (hkept.storable_iff hu).mpr fun p hp => storable_of_roundTrips hkept hu hp hround
    · exact fun u _ _ hu => absurd ⟨u, hu⟩ hr
  have hempty : PositionLog.Kept ids {} := ⟨Tables.sound_empty ids, fun _ _ => rfl⟩
  exact throughout_iff_along_of_inv hinv hstep ds hempty hempty.roundTrips

/-- The position of a fill in a lower-case symbol is written and not found again. -/
theorem lower_case_position_lost :
    let s := PositionLog.step bracketedIds 0 {}
      (coinFill "order-1" "2026-03-01T09:00:00Z" "MOCK" "btc/usdt" "BUY")
    (s.last.get? ("MOCK", "btc/usdt")).map (·.quantity) = some 1 ∧
      s.tables.getPosition "MOCK" "btc/usdt" = none := by
  decide +kernel

/-! ### Fills and orders -/

/-- The tables, with the update that reported each fill and each order last, under the ids of their
rows. -/
structure ReportLog where
  tables : Tables := {}
  fills : Dict String OrderUpdate := Dict.empty
  orders : Dict String OrderUpdate := Dict.empty

/-- A delivery is handled. -/
def ReportLog.step (ids : StoreIds) (base : ℚ) (s : ReportLog) (d : Delivery) : ReportLog where
  tables := s.tables.receive ids base d
  fills :=
    match readUpdate d.now d.envelope with
    | .ok (some u) =>
      match u.event.toLifecycleEvent.fill with
      | some fill => s.fills.set (coerceUuid ids fill.fillId) u
      | none => s.fills
    | _ => s.fills
  orders :=
    match readUpdate d.now d.envelope with
    | .ok (some u) => s.orders.set (coerceUuid ids u.orderId) u
    | _ => s.orders

/-- A side column and an update name the same side. -/
def SameSide (side : String) (u : OrderUpdate) : Prop :=
  ∃ known, parseSide side = some known ∧ parseSide u.side = some known

/-- Every fill has the side and the mode of the update that reported it, and every order the side of
its update. -/
structure ReportLog.Truthful (s : ReportLog) : Prop where
  fill : ∀ id row, s.tables.fills.get? id = some row →
    ∃ u, s.fills.get? id = some u ∧ SameSide row.side u ∧ row.mode = u.mode
  order : ∀ id row, s.tables.orders.get? id = some row →
    ∃ u, s.orders.get? id = some u ∧ SameSide row.side u

/-- The update buys, and a fill is in the mode its order was last written in, or in `MOCK` when its
order has no row yet. -/
def ReportLog.Expected (ids : StoreIds) (s : ReportLog) (d : Delivery) : Prop :=
  ∀ u, readUpdate d.now d.envelope = .ok (some u) → parseSide u.side = some .buy ∧
    (u.event.toLifecycleEvent.fill.isSome →
      u.mode = ((s.tables.orders.get? (coerceUuid ids u.orderId)).map (·.mode)).getD "MOCK")

section

variable {ids : StoreIds} {base : ℚ} {s : ReportLog} {d : Delivery} {u : OrderUpdate}

/-- The tables are sound and every order is written as one to buy. -/
private structure ReportLog.Buys (ids : StoreIds) (s : ReportLog) : Prop where
  sound : s.tables.Sound ids
  side : ∀ id row, s.tables.orders.get? id = some row → row.side = "BUY"

private theorem parseSide_buy : parseSide "BUY" = some .buy := by decide +kernel

private theorem sameSide_buy_iff : SameSide "BUY" u ↔ parseSide u.side = some .buy := by
  constructor
  · rintro ⟨known, hbuy, hside⟩
    rw [hside, ← hbuy, parseSide_buy]
  · exact fun hside => ⟨.buy, parseSide_buy, hside⟩

private theorem ReportLog.step_of_ne (h : ∀ u, readUpdate d.now d.envelope ≠ .ok (some u)) :
    s.step ids base d = s := by
  unfold ReportLog.step
  rw [Tables.receive_of_ne h]
  split
  · next u hu => exact absurd hu (h u)
  · rfl

private theorem ReportLog.Buys.lookup (h : s.Buys ids) (key : String) :
    ((s.tables.orders.get? key).map (·.side)).getD "BUY" = "BUY" := by
  cases hrow : s.tables.orders.get? key with
  | none => rfl
  | some row => exact h.side key row hrow

private theorem ReportLog.Buys.step (h : s.Buys ids) : (s.step ids base d).Buys ids := by
  by_cases hr : ∃ u, readUpdate d.now d.envelope = .ok (some u)
  · obtain ⟨u, hu⟩ := hr
    refine ⟨Tables.sound_receive h.sound, ?_⟩
    intro id row hrow
    change (s.tables.receive ids base d).orders.get? id = some row at hrow
    rw [(Tables.receive_frame h.sound hu).2.2, Dict.get?_set] at hrow
    split at hrow
    · cases hrow
      exact h.lookup _
    · exact h.side id row hrow
  · rw [ReportLog.step_of_ne fun u hu => hr ⟨u, hu⟩]
    exact h

private def InOrderMode (ids : StoreIds) (s : ReportLog) (u : OrderUpdate) : Prop :=
  u.event.toLifecycleEvent.fill.isSome →
    u.mode = ((s.tables.orders.get? (coerceUuid ids u.orderId)).map (·.mode)).getD "MOCK"

section

variable (h : s.Buys ids) (ht : s.Truthful) (hu : readUpdate d.now d.envelope = .ok (some u))
include h ht hu

private theorem order_truthful_iff :
    (∀ id row, (s.step ids base d).tables.orders.get? id = some row →
        ∃ u, (s.step ids base d).orders.get? id = some u ∧ SameSide row.side u) ↔
      parseSide u.side = some .buy := by
  have hlog : (s.step ids base d).orders = s.orders.set (coerceUuid ids u.orderId) u := by
    simp only [ReportLog.step, hu]
  change (∀ id row, (s.tables.receive ids base d).orders.get? id = some row → _) ↔ _
  rw [(Tables.receive_frame h.sound hu).2.2, hlog, Dict.related_set_iff ht.order]
  change SameSide (((s.tables.orders.get? _).map (·.side)).getD "BUY") u ↔ _
  rw [h.lookup, sameSide_buy_iff]

private theorem fill_truthful_iff (hbuy : parseSide u.side = some .buy) :
    (∀ id row, (s.step ids base d).tables.fills.get? id = some row →
        ∃ u, (s.step ids base d).fills.get? id = some u ∧ SameSide row.side u ∧
          row.mode = u.mode) ↔ InOrderMode ids s u := by
  unfold InOrderMode
  change (∀ id row, (s.tables.receive ids base d).fills.get? id = some row → _) ↔ _
  rw [(Tables.receive_frame h.sound hu).2.1]
  cases hf : u.event.toLifecycleEvent.fill with
  | none =>
    have hlog : (s.step ids base d).fills = s.fills := by
      simp only [ReportLog.step, hu, hf]
    have htables : (s.tables.record ids d.now u).fills = s.tables.fills := by
      simp only [Tables.record, Tables.appendLifecycleEvent, hf]
    rw [hlog, htables]
    exact iff_of_true ht.fill (by simp)
  | some fill =>
    have hlog : (s.step ids base d).fills = s.fills.set (coerceUuid ids fill.fillId) u := by
      simp only [ReportLog.step, hu, hf]
    have htables : (s.tables.record ids d.now u).fills =
        s.tables.fills.set (coerceUuid ids fill.fillId)
          (Tables.fillRow ids d.now (coerceUuid ids u.orderId)
            (s.tables.fills.get? (coerceUuid ids fill.fillId))
            (s.tables.orders.get? (coerceUuid ids u.orderId)) fill) := by
      simp only [Tables.record, Tables.appendLifecycleEvent, hf]
    rw [hlog, htables, Dict.related_set_iff ht.fill]
    change SameSide (((s.tables.orders.get? _).map (·.side)).getD "BUY") u ∧ _ = u.mode ↔ _
    rw [h.lookup, sameSide_buy_iff, Option.isSome_some]
    exact ⟨fun hrow _ => hrow.2.symm, fun hmode => ⟨hbuy, (hmode rfl).symm⟩⟩

end

private theorem truthful_step_iff (h : s.Buys ids) (ht : s.Truthful) :
    (s.step ids base d).Truthful ↔ s.Expected ids d := by
  by_cases hr : ∃ u, readUpdate d.now d.envelope = .ok (some u)
  · obtain ⟨u, hu⟩ := hr
    have hexpected : s.Expected ids d ↔ parseSide u.side = some .buy ∧ InOrderMode ids s u := by
      simp only [ReportLog.Expected, InOrderMode, hu, Except.ok.injEq, Option.some.injEq,
        forall_eq']
    rw [hexpected, ← @order_truthful_iff ids base s d u h ht hu]
    constructor
    · intro hnext
      have hbuy := (order_truthful_iff h ht hu).mp hnext.order
      exact ⟨hnext.order, (fill_truthful_iff h ht hu hbuy).mp hnext.fill⟩
    · rintro ⟨ho, hmode⟩
      have hbuy := (order_truthful_iff h ht hu).mp ho
      exact ⟨(fill_truthful_iff h ht hu hbuy).mpr hmode, ho⟩
  · have hne : ∀ u, readUpdate d.now d.envelope ≠ .ok (some u) := fun u hu => hr ⟨u, hu⟩
    rw [ReportLog.step_of_ne hne]
    exact iff_of_true ht fun u hu => absurd hu (hne u)

end

/-- In a run from empty tables every fill and every order has the side, and every fill the mode, of
the envelope that reported it, exactly when every update buys and every fill is in the mode its
order was last written in, or in `MOCK` when it is the first of its order. -/
theorem stored_rows_truthful_iff (ids : StoreIds) (base : ℚ) (ds : List Delivery) :
    Throughout (ReportLog.step ids base) ReportLog.Truthful {} ds ↔
      Along (ReportLog.step ids base) (ReportLog.Expected ids) {} ds := by
  have hstep : ∀ (s : ReportLog) (d : Delivery), s.Buys ids → s.Truthful →
      ((s.step ids base d).Truthful ↔ s.Expected ids d) :=
    fun _ _ hbuys htruthful => truthful_step_iff hbuys htruthful
  have hbuys : ReportLog.Buys ids {} := ⟨Tables.sound_empty ids, fun _ _ h => by cases h⟩
  have htruthful : ReportLog.Truthful {} := by
    constructor
    all_goals
      intro _ _ h
      cases h
  exact throughout_iff_along_of_inv (fun s d h _ => h.step) hstep ds hbuys htruthful

/-- A first fill that sells in mode `REAL` is stored as one that buys in mode `MOCK`. -/
theorem real_sell_stored_as_mock_buy :
    let s := ReportLog.step bracketedIds 0 {}
      (coinFill "order-1" "2026-03-01T09:00:00Z" "REAL" "BTC/USDT" "SELL")
    (s.tables.fills.entries.map fun e =>
        (e.2.side, e.2.mode, (s.fills.get? e.1).map fun u => (u.side, u.mode))) =
      [("BUY", "MOCK", some ("SELL", "REAL"))] ∧
    (s.tables.orders.entries.map fun e => (e.2.side, (s.orders.get? e.1).map (·.side))) =
      [("BUY", some "SELL")] := by
  decide +kernel

end OpenTrader.Oms
