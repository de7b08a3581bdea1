import OpenTrader.Base.Trace
import OpenTrader.Ingestion.OrderBook

/-!
# The synchronized book of a stream

Library `Ingestion`. What `OrderBookSyncEngine` is for: an exchange numbers its updates, and
whatever snapshots and ranges of updates arrive in whatever order, the engine holds the exchange's
book at its own sequence number; `services/market_ingestion/order_book_sync.py:35-65` with the
levels of `services/market_ingestion/contracts.py:34-54`. A range may repeat updates that are
already in the book: what stands under a price is its last write, and the range ends with the latest
one.
-/

namespace OpenTrader.Ingestion
open Base Market Agent

/-! ### The exchange's side -/

/-- An update of the exchange: a price of a side is set to an amount, zero removes it. -/
structure LevelUpdate where
  side : BookSide
  price : ℚ
  amount : ℚ
  nonneg : 0 ≤ amount

/-- The level of an update. -/
def LevelUpdate.level (u : LevelUpdate) : OrderBookLevel := ⟨u.price, u.amount⟩

/-- The updates of an exchange, numbered from one on. -/
abbrev LevelStream := ℕ → LevelUpdate

namespace LevelStream

variable (stream : LevelStream)

/-- The amounts of a side after the first updates. -/
def book : ℕ → BookSide → ℚ → Option ℚ
  | 0, _, _ => none
  | n + 1, side, price =>
    let u := stream (n + 1)
    if u.side = side ∧ u.price = price then (if u.amount = 0 then none else some u.amount)
    else book n side price

/-- The levels of a side that `count` updates from number `first` on set, in the order of the
stream. -/
def levels (side : BookSide) (first count : ℕ) : List OrderBookLevel :=
  (((List.range' first count).map stream).filter (·.side = side)).map (·.level)

end LevelStream

/-- A snapshot of the whole book after some number of updates, its rows in any order. -/
structure StreamSnapshot (stream : LevelStream) extends OrderBookSnapshot where
  position : ℕ
  sequence_eq : sequence = some (position : ℤ)
  rows : BookSide → List OrderBookLevel
  complete : ∀ side price amount,
    ⟨price, amount⟩ ∈ rows side ↔ stream.book position side price = some amount
  bids_eq : parseLevels .bid false ((rows .bid).map levelRow) = .ok bids
  asks_eq : parseLevels .ask false ((rows .ask).map levelRow) = .ok asks

/-- A delta with the updates of a range, in the order of the stream. -/
structure StreamDelta (stream : LevelStream) extends OrderBookDelta where
  first : ℕ
  last : ℕ
  first_pos : 1 ≤ first
  first_le : first ≤ last
  start_eq : sequenceStart = some (first : ℤ)
  end_eq : sequenceEnd = some (last : ℤ)
  bids_eq : parseLevels .bid true ((stream.levels .bid first (last + 1 - first)).map levelRow) =
    .ok bids
  asks_eq : parseLevels .ask true ((stream.levels .ask first (last + 1 - first)).map levelRow) =
    .ok asks

/-- What arrives at the engine. -/
inductive Arrival (stream : LevelStream) where
  | load (snapshot : StreamSnapshot stream)
  | delta (range : StreamDelta stream)

/-- The call an arrival leads to; a load that does not raise counts as taken. -/
def Arrival.receive {stream : LevelStream} (e : OrderBookSyncEngine) :
    Arrival stream → OrderBookSyncEngine × Except OrderBookSyncError Bool
  | .load snapshot =>
    let loaded := e.loadSnapshot snapshot.toOrderBookSnapshot
    (loaded.1, loaded.2.map fun _ => true)
  | .delta range => e.applyDelta range.toOrderBookDelta

/-- The engine holds the exchange's book at its sequence number, and no empty levels. -/
structure Synchronized (stream : LevelStream) (e : OrderBookSyncEngine) : Prop where
  book : ∃ position : ℕ, e.sequence = some (position : ℤ) ∧
    ∀ side price, (e.side side).get? price = stream.book position side price
  positive : ∀ side price amount, (e.side side).get? price = some amount → 0 < amount

/-- What a call leaves: the synchronized book unless it raises, and the engine as it was when it
returns `False` or raises. -/
def Handled (stream : LevelStream) (e : OrderBookSyncEngine) :
    OrderBookSyncEngine × Except OrderBookSyncError Bool → Prop
  | (next, .ok true) => Synchronized stream next
  | (next, .ok false) => next = e ∧ Synchronized stream next
  | (next, .error _) => next = e

/-- The arrival is of the engine's scope and takes it on: a snapshot, or once there is one a delta
that contains the next sequence number. -/
def Arrival.IsDue {stream : LevelStream} (e : OrderBookSyncEngine) : Arrival stream → Prop
  | .load snapshot => e.validateScope snapshot.exchange snapshot.symbol = .ok ()
  | .delta range => e.initialized = true ∧
    e.validateScope range.exchange range.symbol = .ok () ∧ ∃ sequence, e.sequence = some sequence ∧
      range.first ≤ sequence + 1 ∧ sequence + 1 ≤ range.last

/-! ### Books as writes -/

section

variable {stream : LevelStream}

private theorem levelWrite_level (u : LevelUpdate) :
    levelWrite u.level = (u.price, if u.amount = 0 then none else some u.amount) := by
  have hle : u.amount ≤ 0 ↔ u.amount = 0 := ⟨fun h => le_antisymm h u.nonneg, fun h => h.le⟩
  simp only [levelWrite, LevelUpdate.level, hle]

private theorem LevelStream.levels_append (side : BookSide) (first count more : ℕ) :
    stream.levels side first (count + more) =
      stream.levels side first count ++ stream.levels side (first + count) more := by
  unfold levels
  rw [← List.range'_append_1, List.map_append, List.filter_append, List.map_append]

private theorem LevelStream.book_eq_writeAll (side : BookSide) (n : ℕ) :
    stream.book n side = writeAll (fun _ => none) ((stream.levels side 1 n).map levelWrite) := by
  induction n with
  | zero => rfl
  | succ n ih =>
    funext price
    rw [levels_append, List.map_append, writeAll_append, ← ih, book, Nat.add_comm n 1]
    by_cases hside : (stream (1 + n)).side = side
    · have hlevels : stream.levels side (1 + n) 1 = [(stream (1 + n)).level] := by
        simp [levels, hside]
      rw [hlevels, List.map_singleton, writeAll_cons, writeAll_nil, levelWrite_level]
      by_cases hprice : (stream (1 + n)).price = price
      · rw [if_pos ⟨hside, hprice⟩, ← hprice, Function.update_self]
      · rw [if_neg fun h => hprice h.2, Function.update_of_ne (Ne.symm hprice)]
    · have hlevels : stream.levels side (1 + n) 1 = [] := by simp [levels, hside]
      rw [hlevels, if_neg fun h => hside h.1]
      rfl

variable {side : BookSide}

private theorem LevelStream.book_pos {n : ℕ} {price amount : ℚ}
    (h : stream.book n side price = some amount) : 0 < amount := by
  induction n with
  | zero => cases h
  | succ n ih =>
    rw [book] at h
    split at h
    · split at h
      · cases h
      · next hne =>
        cases h
        exact lt_of_le_of_ne (stream (n + 1)).nonneg (Ne.symm hne)
    · exact ih h

variable {parsed : List OrderBookLevel} {first position : ℕ}

private theorem writeAll_parseLevels {count : ℕ}
    (h : parseLevels side true ((stream.levels side first count).map levelRow) = .ok parsed)
    (f : ℚ → Option ℚ) :
    writeAll f (parsed.map levelWrite) =
      writeAll f ((stream.levels side first count).map levelWrite) := by
  have hall : (stream.levels side first count).filter (fun level => !skipped true level.amount) =
      stream.levels side first count := by
    rw [List.filter_eq_self]
    intro level hlevel
    obtain ⟨u, -, rfl⟩ := List.mem_map.mp hlevel
    simp [skipped, LevelUpdate.level, not_lt.mpr u.nonneg]
  rw [parseLevels_rows, hall] at h
  rw [← Except.ok.inj h, writeAll_insertionSort]

private theorem writeAll_range {last : ℕ} (hpos : 1 ≤ first) (hstart : first ≤ position + 1)
    (hend : position + 1 ≤ last) :
    writeAll (stream.book position side)
        ((stream.levels side first (last + 1 - first)).map levelWrite) =
      stream.book last side := by
  have hbefore : stream.levels side 1 position =
      stream.levels side 1 (first - 1) ++ stream.levels side first (position + 1 - first) := by
    have hsplit := @LevelStream.levels_append stream side 1 (first - 1) (position + 1 - first)
    rwa [show first - 1 + (position + 1 - first) = position by omega,
      show 1 + (first - 1) = first by omega] at hsplit
  have hrange : stream.levels side first (last + 1 - first) =
      stream.levels side first (position + 1 - first) ++
        stream.levels side (position + 1) (last - position) := by
    have hsplit := @LevelStream.levels_append stream side first (position + 1 - first)
      (last - position)
    rwa [show position + 1 - first + (last - position) = last + 1 - first by omega,
      show first + (position + 1 - first) = position + 1 by omega] at hsplit
  have hafter : stream.levels side 1 last =
      stream.levels side 1 (first - 1) ++ stream.levels side first (last + 1 - first) := by
    have hsplit := @LevelStream.levels_append stream side 1 (first - 1) (last + 1 - first)
    rwa [show first - 1 + (last + 1 - first) = last by omega,
      show 1 + (first - 1) = first by omega] at hsplit
  rw [LevelStream.book_eq_writeAll, LevelStream.book_eq_writeAll, hafter, hbefore, hrange]
  simp only [List.map_append]
  exact writeAll_replay _ _ _ _

private theorem get?_levelDict_of_complete {rows : List OrderBookLevel}
    (hcomplete : ∀ price amount,
      ⟨price, amount⟩ ∈ rows ↔ stream.book position side price = some amount)
    (h : parseLevels side false (rows.map levelRow) = .ok parsed) :
    (levelDict parsed).get? = stream.book position side := by
  have hpos : ∀ level ∈ rows, 0 < level.amount :=
    fun level hlevel => LevelStream.book_pos ((hcomplete level.price level.amount).mp hlevel)
  have hall : rows.filter (fun level => !skipped false level.amount) = rows := by
    rw [List.filter_eq_self]
    intro level hlevel
    have := hpos level hlevel
    simp [skipped, this.le, this.ne']
  rw [parseLevels_rows, hall] at h
  cases h
  have hkept : (rows.insertionSort (levelOrder side)).filter (0 < ·.amount) =
      rows.insertionSort (levelOrder side) := by
    rw [List.filter_eq_self]
    intro level hlevel
    exact decide_eq_true (hpos level ((List.mem_insertionSort _).mp hlevel))
  rw [get?_levelDict, hkept, writeAll_insertionSort]
  apply writeAll_eq_of_forall
  · intro w hw
    obtain ⟨level, hlevel, rfl⟩ := List.mem_map.mp hw
    rw [levelWrite, if_neg (not_le.mpr (hpos level hlevel))]
    exact ((hcomplete level.price level.amount).mp hlevel).symm
  · intro price hprice
    cases hbook : stream.book position side price with
    | none => rfl
    | some amount =>
      refine absurd ?_ hprice
      rw [List.map_map, List.mem_map]
      exact ⟨⟨price, amount⟩, (hcomplete _ _).mpr hbook, rfl⟩

end

/-! ### What can arrive -/

/-- Every range of a stream can arrive, in every scope. -/
theorem exists_streamDelta (stream : LevelStream) (exchange symbol : String) {first last : ℕ}
    (hpos : 1 ≤ first) (hle : first ≤ last) :
    ∃ delta : StreamDelta stream, delta.exchange = exchange ∧ delta.symbol = symbol ∧
      delta.first = first ∧ delta.last = last :=
  ⟨{ exchange, symbol, first, last
     first_pos := hpos
     first_le := hle
     sequenceStart := some first
     sequenceEnd := some last
     bids := _
     asks := _
     start_eq := rfl
     end_eq := rfl
     bids_eq := parseLevels_rows _ _ _
     asks_eq := parseLevels_rows _ _ _ }, rfl, rfl, rfl, rfl⟩

/-- Every position of a stream has a snapshot, in every scope. -/
theorem exists_streamSnapshot (stream : LevelStream) (exchange symbol : String) (position : ℕ) :
    ∃ snapshot : StreamSnapshot stream, snapshot.exchange = exchange ∧ snapshot.symbol = symbol ∧
      snapshot.position = position := by
  have hcomplete : ∀ side price amount, (⟨price, amount⟩ : OrderBookLevel) ∈
      (applySideUpdates Dict.empty (stream.levels side 1 position)).entries.map
        (fun item => ⟨item.1, item.2⟩) ↔ stream.book position side price = some amount := by
    intro side price amount
    rw [LevelStream.book_eq_writeAll]
    change _ ↔ writeAll (Dict.empty : Dict ℚ ℚ).get? _ price = some amount
    rw [← get?_applySideUpdates, Dict.get?_eq_some_iff, List.mem_map]
    constructor
    · rintro ⟨⟨p, a⟩, hm, heq⟩
      cases heq
      exact hm
    · exact fun hm => ⟨(price, amount), hm, rfl⟩
  exact ⟨{
    exchange, symbol, position
    sequence := some position
    timestampMs := none
    sequence_eq := rfl
    rows := _
    complete := hcomplete
    bids := _
    asks := _
    bids_eq := parseLevels_rows _ _ _
    asks_eq := parseLevels_rows _ _ _ }, rfl, rfl, rfl⟩

/-! ### The engine's side -/

section

variable {stream : LevelStream} {e : OrderBookSyncEngine}

private theorem synchronized_of_book {position : ℕ} (hsequence : e.sequence = some (position : ℤ))
    (hbids : e.bids.get? = stream.book position .bid)
    (hasks : e.asks.get? = stream.book position .ask) : Synchronized stream e := by
  have hbook : ∀ side price, (e.side side).get? price = stream.book position side price := by
    intro side price
    cases side with
    | bid => exact congrFun hbids price
    | ask => exact congrFun hasks price
  refine ⟨⟨position, hsequence, hbook⟩, ?_⟩
  intro side price amount hamount
  rw [hbook] at hamount
  exact LevelStream.book_pos hamount

private theorem handled_load (snapshot : StreamSnapshot stream) :
    Handled stream e ((Arrival.load snapshot).receive e) := by
  unfold Arrival.receive
  dsimp only
  rw [OrderBookSyncEngine.loadSnapshot]
  cases e.validateScope snapshot.exchange snapshot.symbol with
  | error error => exact rfl
  | ok =>
    have hbids := get?_levelDict_of_complete (snapshot.complete .bid) snapshot.bids_eq
    have hasks := get?_levelDict_of_complete (snapshot.complete .ask) snapshot.asks_eq
    exact @synchronized_of_book stream { e with
      bids := levelDict snapshot.bids
      asks := levelDict snapshot.asks
      sequence := snapshot.sequence
      initialized := true } snapshot.position snapshot.sequence_eq hbids hasks

private theorem Synchronized.update (h : Synchronized stream e) (delta : StreamDelta stream)
    {sequence : ℤ} (hsequence : e.sequence = some sequence)
    (hstart : (delta.first : ℤ) ≤ sequence + 1) (hend : sequence + 1 ≤ (delta.last : ℤ)) :
    Synchronized stream (e.update (some (delta.last : ℤ)) delta.toOrderBookDelta) := by
  obtain ⟨position, hposition, hbook⟩ := h.book
  obtain rfl : sequence = position := Option.some.inj (hsequence.symm.trans hposition)
  have hbids : e.bids.get? = stream.book position .bid := funext (hbook .bid)
  have hasks : e.asks.get? = stream.book position .ask := funext (hbook .ask)
  have hfst := delta.first_pos
  apply synchronized_of_book (e := e.update _ _) rfl
  · change (applySideUpdates e.bids delta.bids).get? = _
    rw [get?_applySideUpdates, hbids, writeAll_parseLevels delta.bids_eq,
      writeAll_range hfst (by omega) (by omega)]
  · change (applySideUpdates e.asks delta.asks).get? = _
    rw [get?_applySideUpdates, hasks, writeAll_parseLevels delta.asks_eq,
      writeAll_range hfst (by omega) (by omega)]

private theorem handled_delta (h : e.initialized = true → Synchronized stream e)
    (delta : StreamDelta stream) : Handled stream e ((Arrival.delta delta).receive e) := by
  unfold Arrival.receive
  dsimp only
  rw [OrderBookSyncEngine.applyDelta]
  split
  · exact rfl
  · next hinit =>
    have hsync := h (by simpa using hinit)
    obtain ⟨position, hposition, -⟩ := hsync.book
    cases e.validateScope delta.exchange delta.symbol with
    | error error => exact rfl
    | ok =>
      rw [hposition, delta.start_eq, delta.end_eq]
      dsimp only
      split
      · exact ⟨rfl, hsync⟩
      · next hstale =>
        split
        · exact rfl
        · next hgap => exact hsync.update delta hposition (not_lt.mp hgap) (not_lt.mp hstale)

private theorem Handled.synchronized
    {result : OrderBookSyncEngine × Except OrderBookSyncError Bool}
    (hhandled : Handled stream e result)
    (h : e.initialized = true → Synchronized stream e) (hinit : result.1.initialized = true) :
    Synchronized stream result.1 := by
  obtain ⟨next, answer⟩ := result
  cases answer with
  | error error =>
    obtain rfl : next = e := hhandled
    exact h hinit
  | ok taken =>
    cases taken with
    | true => exact hhandled
    | false => exact hhandled.2

theorem handled_receive (h : e.initialized = true → Synchronized stream e) (a : Arrival stream) :
    Handled stream e (a.receive e) := by
  cases a with
  | load snapshot => exact handled_load snapshot
  | delta range => exact handled_delta h range

private theorem taken_of_isDue {a : Arrival stream} (h : a.IsDue e) :
    (a.receive e).2 = .ok true := by
  cases a with
  | load snapshot =>
    have hscope : e.validateScope snapshot.exchange snapshot.symbol = .ok () := h
    simp [Arrival.receive, OrderBookSyncEngine.loadSnapshot, hscope, Except.map]
  | delta range =>
    obtain ⟨hinit, hscope, sequence, hsequence, hstart, hend⟩ := h
    simp [Arrival.receive, OrderBookSyncEngine.applyDelta, hinit, hscope, hsequence,
      range.start_eq, range.end_eq, not_lt.mpr hstart, not_lt.mpr hend]

end

/-- Whatever snapshots of a stream are loaded and whatever ranges of it arrive, in whatever order:
after every call that does not raise the engine holds the stream's book at its sequence number, all
amounts positive, and a call that returns `False` or raises leaves the engine as it was. A snapshot
and a range with the next update, both of the engine's scope, are taken. -/
theorem order_book_synchronized (exchange symbol : String) (stream : LevelStream)
    (arrivals : List (Arrival stream)) :
    Along (fun e a => (Arrival.receive e a).1)
      (fun e a => Handled stream e (a.receive e) ∧ (a.IsDue e → (a.receive e).2 = .ok true))
      { exchange, symbol } arrivals := by
  have hstep : ∀ (e : OrderBookSyncEngine) (a : Arrival stream),
      (e.initialized = true → Synchronized stream e) →
      ((a.receive e).1.initialized = true → Synchronized stream (a.receive e).1) :=
    fun e a h => (handled_receive h a).synchronized h
  have hempty : ({ exchange, symbol } : OrderBookSyncEngine).initialized = true →
      Synchronized stream { exchange, symbol } := fun h => by cases h
  exact (throughout_of_step hstep arrivals hempty).along fun e a h =>
    ⟨handled_receive h a, taken_of_isDue⟩

end OpenTrader.Ingestion
