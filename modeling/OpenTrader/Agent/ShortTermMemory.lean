import OpenTrader.Base.Dict
import OpenTrader.Base.IsoText
import OpenTrader.Base.SlidingWindow

/-!
# Short-term memory

Library `Agent`. `services/agent_orchestrator/sqlalchemy_memory_store.py:16-148,349-361`. Slots of
a decision have a time to live. The store in memory compares times, the store in a SQL table
compares their texts, byte by byte as SQLite does. Both read one clock, and times are exact. What
`json.loads` reads back of a payload that `json.dumps` wrote is a parameter: nothing when the
payload cannot be written.
-/

namespace OpenTrader.Agent
open Base

/-! ### Stores -/

/-- A reading of the UTC clock, in microseconds from the start of year 1. -/
structure UtcTime where
  micros : ℕ
  inRange : micros / 1000000 < datetimeSeconds

/-- The decision to which slots belong. -/
structure DecisionScope where
  mode : String
  strategyId : String
  decisionId : String
  deriving DecidableEq

/-- `max(int(ttl_seconds), 1)`, in microseconds. -/
def ttlMicros (ttlSeconds : ℤ) : ℕ := (max ttlSeconds 1).toNat * 1000000

section

variable {P : Type}

/-- `InMemoryTTLShortTermStore`: the payload and the expiry of each slot. -/
abbrev InMemoryTTLShortTermStore (P : Type) := Dict (DecisionScope × String) (P × ℕ)

namespace InMemoryTTLShortTermStore

/-- `InMemoryTTLShortTermStore.write_slot`; `sqlalchemy_memory_store.py:23-35`. -/
def writeSlot (store : InMemoryTTLShortTermStore P) (now : UtcTime) (key : DecisionScope × String)
    (payload : P) (ttlSeconds : ℤ) : InMemoryTTLShortTermStore P :=
  store.set key (payload, now.micros + ttlMicros ttlSeconds)

/-- `InMemoryTTLShortTermStore.read_slots`; `sqlalchemy_memory_store.py:37-57`. -/
def readSlots (store : InMemoryTTLShortTermStore P) (now : UtcTime) (scope : DecisionScope) :
    Dict String P × InMemoryTTLShortTermStore P :=
  let kept := store.filter fun _ slot => decide ¬ slot.2 ≤ now.micros
  ((kept.slice scope).mapValues Prod.fst, kept)

end InMemoryTTLShortTermStore

/-- A row of `runtime_decision_slots`, with the payload as it is read back. -/
structure SlotRow (P : Type) where
  payload : P
  expiresAt : String

/-- `SQLiteShortTermMemoryStore`: the rows under their primary key. -/
abbrev SQLiteShortTermMemoryStore (P : Type) := Dict (DecisionScope × String) (SlotRow P)

/-- `_utc_future_iso`; it raises past year 9999. -/
def utcFutureIso (now : UtcTime) (ttlSeconds : ℤ) : Option String :=
  let expiry := now.micros + ttlMicros ttlSeconds
  if expiry / 1000000 < datetimeSeconds then some (isoformat expiry) else none

namespace SQLiteShortTermMemoryStore

/-- `SQLiteShortTermMemoryStore.write_slot`; `sqlalchemy_memory_store.py:79-113`. Nothing is written
when it raises. -/
def writeSlot (reread : P → Option P) (store : SQLiteShortTermMemoryStore P) (now : UtcTime)
    (key : DecisionScope × String) (payload : P) (ttlSeconds : ℤ) :
    Option (SQLiteShortTermMemoryStore P) := do
  let expiresAt ← utcFutureIso now ttlSeconds
  let payload ← reread payload
  return store.set key ⟨payload, expiresAt⟩

/-- `SQLiteShortTermMemoryStore.read_slots`; `sqlalchemy_memory_store.py:115-148`. -/
def readSlots (store : SQLiteShortTermMemoryStore P) (now : UtcTime) (scope : DecisionScope) :
    Dict String P × SQLiteShortTermMemoryStore P :=
  let nowIso := isoformat now.micros
  let kept := store.filter fun _ row => decide ¬ row.expiresAt ≤ nowIso
  let rows := kept.filter fun _ row => decide (nowIso < row.expiresAt)
  ((rows.slice scope).mapValues (·.payload), kept)

end SQLiteShortTermMemoryStore

/-! ### Calls of both stores -/

/-- A call, with the reading of the clock. -/
inductive MemoryCall (P : Type) where
  | write (now : UtcTime) (key : DecisionScope × String) (payload : P) (ttlSeconds : ℤ)
  | read (now : UtcTime) (scope : DecisionScope)

/-- The microseconds on the clock at a call. -/
def MemoryCall.micros : MemoryCall P → ℕ
  | .write now _ _ _ => now.micros
  | .read now _ => now.micros

/-- Calls at times that do not go back. -/
structure MemoryCalls (P : Type) where
  calls : List (MemoryCall P)
  ordered : calls.Pairwise (·.micros ≤ ·.micros)

/-- The last write of a slot: its payload, its expiry, and whether a read since then fell on the
start of the second of the expiry. -/
structure SlotEntry (P : Type) where
  payload : P
  expiresAt : ℕ
  readOnSecond : Bool

/-- Both stores, and the last write of each slot. -/
structure SlotRun (P : Type) where
  memory : InMemoryTTLShortTermStore P := Dict.empty
  table : SQLiteShortTermMemoryStore P := Dict.empty
  book : DecisionScope × String → Option (SlotEntry P) := fun _ => none

/-- A read notes whether it falls on the start of the second of the expiry. -/
def SlotEntry.read (entry : SlotEntry P) (now : UtcTime) : SlotEntry P :=
  { entry with
    readOnSecond := entry.readOnSecond ||
      decide (now.micros = entry.expiresAt / 1000000 * 1000000) }

/-- Until its expiry, the payload. -/
def SlotEntry.timely (entry : SlotEntry P) (now : UtcTime) : Option P :=
  if now.micros < entry.expiresAt then some entry.payload else none

/-- A read agrees on a slot: before the expiry, the payload is read back as it was, and, unless the
expiry is a whole second, no read fell on the start of its second; in the second after an expiry
that is a whole second, a read fell on it. -/
def SlotEntry.Agrees (reread : P → Option P) (entry : SlotEntry P) (now : UtcTime) : Prop :=
  (now.micros < entry.expiresAt → reread entry.payload = some entry.payload ∧
    (entry.expiresAt % 1000000 = 0 ∨ (entry.read now).readOnSecond = false)) ∧
  (entry.expiresAt % 1000000 = 0 → entry.expiresAt ≤ now.micros →
    now.micros < entry.expiresAt + 1000000 → (entry.read now).readOnSecond = true)

namespace SlotRun

variable (reread : P → Option P)

/-- Both stores take a call; a write that raises leaves the table as it is. -/
def step (run : SlotRun P) : MemoryCall P → SlotRun P
  | .write now key payload ttlSeconds =>
    { memory := run.memory.writeSlot now key payload ttlSeconds
      table := (run.table.writeSlot reread now key payload ttlSeconds).getD run.table
      book := Function.update run.book key
        (some ⟨payload, now.micros + ttlMicros ttlSeconds, false⟩) }
  | .read now scope =>
    { memory := (run.memory.readSlots now scope).2
      table := (run.table.readSlots now scope).2
      book := fun key => (run.book key).map (·.read now) }

/-- The table answers as the store in memory does: a write does not raise, and a read returns the
same slots. -/
def SameAnswer (run : SlotRun P) : MemoryCall P → Prop
  | .write now key payload ttlSeconds =>
    (run.table.writeSlot reread now key payload ttlSeconds).isSome = true
  | .read now scope => ∀ slot, (run.table.readSlots now scope).1.get? slot =
    (run.memory.readSlots now scope).1.get? slot

/-- The store in memory returns each slot of the scope until the expiry of its last write. -/
def Timely (run : SlotRun P) : MemoryCall P → Prop
  | .write _ _ _ _ => True
  | .read now scope => ∀ slot, (run.memory.readSlots now scope).1.get? slot =
    (run.book (scope, slot)).bind (·.timely now)

/-- The calls on which the stores agree: a write whose expiry and payload have a text, and a read
that agrees on every slot of its scope. -/
def Agrees (run : SlotRun P) : MemoryCall P → Prop
  | .write now _ payload ttlSeconds =>
    (now.micros + ttlMicros ttlSeconds) / 1000000 < datetimeSeconds ∧ (reread payload).isSome = true
  | .read now scope => ∀ slot, ∀ entry ∈ run.book (scope, slot), entry.Agrees reread now

end SlotRun

/-! ### What is shown -/

private def shown {V : Type} (d : Dict (DecisionScope × String) V) (live : V → Bool) (out : V → P)
    (key : DecisionScope × String) : Option P :=
  ((d.get? key).filter live).map out

private theorem get?_slice_filter {V : Type} (d : Dict (DecisionScope × String) V) (live : V → Bool)
    (out : V → P) (scope : DecisionScope) (slot : String) :
    (((d.filter fun _ v => live v).slice scope).mapValues out).get? slot =
      shown d live out (scope, slot) := by
  rw [Dict.get?_mapValues, Dict.get?_slice, Dict.get?_filter, shown]

private theorem shown_filter {V : Type} (d : Dict (DecisionScope × String) V)
    (live live' : V → Bool) (out : V → P) (key : DecisionScope × String) :
    shown (d.filter fun _ v => live v) live' out key =
      (shown d live out key).bind fun _ => shown d live' out key := by
  rw [shown, shown, shown, Dict.get?_filter]
  cases d.get? key with
  | none => rfl
  | some v => by_cases h : live v = true <;> simp [Option.filter, h]

private theorem get?_readMemory (store : InMemoryTTLShortTermStore P) (now : UtcTime)
    (scope : DecisionScope) (slot : String) : (store.readSlots now scope).1.get? slot =
      shown store (fun slot => decide ¬ slot.2 ≤ now.micros) Prod.fst (scope, slot) :=
  get?_slice_filter store _ _ scope slot

-- the second test of the query is the one that the deletion has made
private theorem get?_readTable (store : SQLiteShortTermMemoryStore P) (now : UtcTime)
    (scope : DecisionScope) (slot : String) : (store.readSlots now scope).1.get? slot =
      shown store (fun row => decide ¬ row.expiresAt ≤ isoformat now.micros) (·.payload)
        (scope, slot) := by
  simp only [SQLiteShortTermMemoryStore.readSlots, get?_slice_filter, shown_filter, not_le]
  cases shown store _ _ (scope, slot) <;> rfl

private theorem shown_set {V : Type} (d : Dict (DecisionScope × String) V) (live : V → Bool)
    (out : V → P) (k key : DecisionScope × String) (v : V) :
    shown (d.set k v) live out key =
      if k = key then (if live v then some (out v) else none) else shown d live out key := by
  rw [shown, Dict.get?_set]
  by_cases hk : k = key
  · by_cases h : live v = true <;> simp [hk, Option.filter, h]
  · simp [hk, shown]

/-! ### The last writes -/

variable {reread : P → Option P} {run : SlotRun P} {entry : SlotEntry P} {now t : UtcTime}

private def SlotEntry.textEnd (entry : SlotEntry P) : ℕ :=
  if entry.expiresAt % 1000000 = 0 then entry.expiresAt + 1000000 else entry.expiresAt

private def SlotEntry.inTable (reread : P → Option P) (entry : SlotEntry P) (now : UtcTime) :
    Option P :=
  if (entry.read now).readOnSecond = false ∧ now.micros < entry.textEnd then reread entry.payload
  else none

private theorem SlotEntry.timely_read (hle : now.micros ≤ t.micros) :
    (entry.read now).timely t = (entry.timely now).bind fun _ => entry.timely t := by
  by_cases ht : t.micros < entry.expiresAt
  · simp [timely, read, ht, hle.trans_lt ht]
  · simp [timely, read, ht]

private theorem SlotEntry.inTable_read (hle : now.micros ≤ t.micros) :
    (entry.read now).inTable reread t =
      (entry.inTable reread now).bind fun _ => entry.inTable reread t := by
  have hiff : ((entry.read now).read t).readOnSecond = false ∧ t.micros < entry.textEnd ↔
      ((entry.read now).readOnSecond = false ∧ now.micros < entry.textEnd) ∧
        (entry.read t).readOnSecond = false ∧ t.micros < entry.textEnd := by
    simp only [read, Bool.or_eq_false_iff]
    constructor
    · rintro ⟨⟨⟨hr, hnow⟩, ht⟩, hlt⟩
      exact ⟨⟨⟨hr, hnow⟩, hle.trans_lt hlt⟩, ⟨hr, ht⟩, hlt⟩
    · rintro ⟨⟨hnow, -⟩, ⟨-, ht⟩, hlt⟩
      exact ⟨⟨hnow, ht⟩, hlt⟩
  refine (if_congr hiff rfl rfl).trans ?_
  unfold inTable
  by_cases hnow : (entry.read now).readOnSecond = false ∧ now.micros < entry.textEnd
  · cases hbody : reread entry.payload with
    | none => simp [read, hbody]
    | some payload =>
      simp only [hnow, true_and, and_self, if_true, Option.bind_some]
      exact if_congr Iff.rfl hbody rfl
  · simp only [hnow, false_and, if_false, Option.bind_none]

private theorem SlotEntry.inTable_eq_iff (hreads : (reread entry.payload).isSome = true)
    (hpast : entry.readOnSecond = true → entry.expiresAt / 1000000 * 1000000 ≤ now.micros) :
    entry.inTable reread now = entry.timely now ↔ entry.Agrees reread now := by
  obtain ⟨payload, hbody⟩ := Option.isSome_iff_exists.mp hreads
  unfold inTable textEnd timely Agrees
  rw [hbody]
  by_cases hwhole : entry.expiresAt % 1000000 = 0
  · by_cases hlt : now.micros < entry.expiresAt
    -- no read before a whole expiry fell on it
    · have hr : (entry.read now).readOnSecond = false := by
        rw [Bool.eq_false_iff]
        intro hr
        rcases Bool.or_eq_true_iff.mp hr with hr | hr
        · have hsecond := hpast hr
          omega
        · have hsecond := of_decide_eq_true hr
          omega
      have hnext : now.micros < entry.expiresAt + 1000000 := by omega
      simp [hwhole, hlt, hr, hnext, hlt.not_ge]
    · cases hr : (entry.read now).readOnSecond with
      | true => simp [hlt]
      | false => simp [hlt, hwhole, not_lt.mp hlt]
  · by_cases hlt : now.micros < entry.expiresAt <;>
      cases hr : (entry.read now).readOnSecond <;> simp [hlt, hwhole]

private def MemoryTracks (now : ℕ) (run : SlotRun P) : Prop :=
  ∀ key (t : UtcTime), now ≤ t.micros →
    shown run.memory (fun slot => decide ¬ slot.2 ≤ t.micros) Prod.fst key =
      (run.book key).bind (·.timely t)

private theorem MemoryTracks.step {now : ℕ} (h : MemoryTracks now run) (call : MemoryCall P)
    (hle : now ≤ call.micros) : MemoryTracks call.micros (run.step reread call) := by
  intro key t ht
  have hold := h key t (hle.trans ht)
  cases call with
  | write now' k payload ttlSeconds =>
    simp only [SlotRun.step, InMemoryTTLShortTermStore.writeSlot, shown_set, Function.update_apply]
    by_cases hk : k = key
    · rw [if_pos hk, if_pos hk.symm, Option.bind_some, SlotEntry.timely]
      exact if_congr (by rw [decide_eq_true_iff, not_le]) rfl rfl
    · rw [if_neg hk, if_neg (Ne.symm hk)]
      exact hold
  | read now' scope =>
    simp only [SlotRun.step, InMemoryTTLShortTermStore.readSlots, shown_filter]
    rw [hold, h key now' hle]
    cases run.book key with
    | none => rfl
    | some entry => exact (SlotEntry.timely_read ht).symm

private structure TableTracks (reread : P → Option P) (now : ℕ) (run : SlotRun P) : Prop where
  shows : ∀ key (t : UtcTime), now ≤ t.micros →
    shown run.table (fun row => decide ¬ row.expiresAt ≤ isoformat t.micros) (·.payload) key =
      (run.book key).bind (·.inTable reread t)
  reads : ∀ key, ∀ entry ∈ run.book key, (reread entry.payload).isSome = true
  past : ∀ key, ∀ entry ∈ run.book key, entry.readOnSecond = true →
    entry.expiresAt / 1000000 * 1000000 ≤ now

private theorem TableTracks.step {now : ℕ} (h : TableTracks reread now run) (call : MemoryCall P)
    (hle : now ≤ call.micros) (hagrees : run.Agrees reread call) :
    TableTracks reread call.micros (run.step reread call) := by
  cases call with
  | write now' k payload ttlSeconds =>
    obtain ⟨hfits, hreads⟩ := hagrees
    obtain ⟨payload', hbody⟩ := Option.isSome_iff_exists.mp hreads
    have htable : run.table.writeSlot reread now' k payload ttlSeconds =
        some (run.table.set k ⟨payload', isoformat (now'.micros + ttlMicros ttlSeconds)⟩) := by
      simp [SQLiteShortTermMemoryStore.writeSlot, utcFutureIso, hfits, hbody]
    have hent : ∀ key, ∀ entry ∈ (run.step reread (.write now' k payload ttlSeconds)).book key,
        entry = ⟨payload, now'.micros + ttlMicros ttlSeconds, false⟩ ∨ entry ∈ run.book key := by
      intro key entry hm
      simp only [SlotRun.step, Function.update_apply] at hm
      split_ifs at hm with hk
      · exact .inl (Option.some.inj hm).symm
      · exact .inr hm
    constructor
    · intro key t ht
      have hold := h.shows key t (hle.trans ht)
      have hiso := isoformat_lt_iff t.inRange hfits
      simp only [SlotRun.step, htable, Option.getD_some, shown_set, Function.update_apply]
      by_cases hk : k = key
      · rw [if_pos hk, if_pos hk.symm, Option.bind_some, SlotEntry.inTable, hbody]
        refine if_congr ?_ rfl rfl
        rw [decide_eq_true_iff, not_le, hiso, SlotEntry.textEnd, SlotEntry.read]
        simp
      · rw [if_neg hk, if_neg (Ne.symm hk)]
        exact hold
    · intro key entry hm
      rcases hent key entry hm with rfl | hm
      · exact hreads
      · exact h.reads key entry hm
    · intro key entry hm hr
      rcases hent key entry hm with rfl | hm
      · cases hr
      · exact (h.past key entry hm hr).trans hle
  | read now' scope =>
    constructor
    · intro key t ht
      simp only [SlotRun.step, SQLiteShortTermMemoryStore.readSlots, shown_filter]
      rw [h.shows key t (hle.trans ht), h.shows key now' hle]
      cases run.book key with
      | none => rfl
      | some entry => exact (SlotEntry.inTable_read ht).symm
    · intro key entry hent
      obtain ⟨old, hold, rfl⟩ := Option.map_eq_some_iff.mp hent
      exact h.reads key old hold
    · intro key entry hent hr
      obtain ⟨old, hold, rfl⟩ := Option.map_eq_some_iff.mp hent
      rcases Bool.or_eq_true_iff.mp hr with hr | hr
      · exact (h.past key old hold hr).trans hle
      · exact (of_decide_eq_true hr).ge

private theorem timely_of_tracks {now : ℕ} (h : MemoryTracks now run) (call : MemoryCall P)
    (hle : now ≤ call.micros) : run.Timely call := by
  cases call with
  | write => trivial
  | read now' scope =>
    intro slot
    rw [get?_readMemory]
    exact h (scope, slot) now' hle

private theorem sameAnswer_iff {now : ℕ} (hmemory : MemoryTracks now run)
    (htable : TableTracks reread now run) (call : MemoryCall P) (hle : now ≤ call.micros) :
    run.SameAnswer reread call ↔ run.Agrees reread call := by
  cases call with
  | write now' k payload ttlSeconds =>
    rw [SlotRun.SameAnswer, SQLiteShortTermMemoryStore.writeSlot, utcFutureIso, SlotRun.Agrees]
    split_ifs with hfits
    · cases reread payload <;> simp [hfits]
    · simp [hfits]
  | read now' scope =>
    refine forall_congr' fun slot => ?_
    have hin := timely_of_tracks hmemory (.read now' scope) hle slot
    rw [hin, get?_readTable, htable.shows _ now' hle]
    cases hent : run.book (scope, slot) with
    | none => simp
    | some entry =>
      have hpast (h : entry.readOnSecond = true) := (htable.past _ entry hent h).trans hle
      simpa using SlotEntry.inTable_eq_iff (htable.reads _ entry hent) hpast

/-- **One lifetime, two orders.** The store in memory returns each slot until the expiry of its last
write. The table answers every call as the store in memory does exactly when no write raises and
each read agrees on the slots of its scope: the text of a whole second is after those of the other
times of that second, so a slot that expires on it is returned for up to a second more, and a read
on it deletes the slots that expire later in that second. -/
theorem short_term_stores_agree_iff (reread : P → Option P) (calls : MemoryCalls P) :
    Along (SlotRun.step reread) SlotRun.Timely {} calls.calls ∧
      (Along (SlotRun.step reread) (SlotRun.SameAnswer reread) {} calls.calls ↔
        Along (SlotRun.step reread) (SlotRun.Agrees reread) {} calls.calls) := by
  have hmemory (now : ℕ) : MemoryTracks now ({} : SlotRun P) := fun key t ht => rfl
  have htable (now : ℕ) : TableTracks reread now ({} : SlotRun P) :=
    ⟨fun key t ht => rfl, nofun, nofun⟩
  constructor
  · have hstep (now : ℕ) (run : SlotRun P) (call : MemoryCall P) (h : MemoryTracks now run)
        (hle : now ≤ call.micros) : MemoryTracks call.micros (run.step reread call) :=
      h.step call hle
    refine Along.mono ?_ (along_of_ordered hstep hmemory calls.ordered)
    rintro run call ⟨now, hle, h⟩
    exact timely_of_tracks h call hle
  · have hstep (now : ℕ) (run : SlotRun P) (call : MemoryCall P)
        (h : MemoryTracks now run ∧ TableTracks reread now run) (hle : now ≤ call.micros)
        (hagrees : run.Agrees reread call) :
        MemoryTracks call.micros (run.step reread call) ∧
          TableTracks reread call.micros (run.step reread call) :=
      ⟨h.1.step call hle, h.2.step call hle hagrees⟩
    exact along_iff_of_ordered hstep (fun now run call h hle => sameAnswer_iff h.1 h.2 call hle)
      (fun now => ⟨hmemory now, htable now⟩) calls.ordered

end

/-- Midnight of the first day of 2026, and half seconds after it. -/
def newYear (halves : Fin 10) : UtcTime where
  micros := 63902822400000000 + halves * 500000
  inRange := by
    rw [datetimeSeconds]
    omega

/-- A slot written for one second, and both stores read later. -/
def readLater (written read : Fin 10) : Option String × Option String :=
  let scope : DecisionScope := ⟨"paper", "momentum", "d-1"⟩
  let run := SlotRun.step some {} (.write (newYear written) (scope, "plan") "hold" 1)
  ((run.memory.readSlots (newYear read) scope).1.get? "plan",
    (run.table.readSlots (newYear read) scope).1.get? "plan")

/-- A slot that expires on a whole second is in the table half a second later. A slot that expires
half a second after a whole second is not in the table on that second. -/
theorem whole_second_read_differs :
    readLater 0 3 = (none, some "hold") ∧ readLater 1 2 = (some "hold", none) := by
  decide +kernel

end OpenTrader.Agent
