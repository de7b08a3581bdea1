import OpenTrader.Base.Trace
import OpenTrader.Execution.Delivery

/-!
# Handlers that run concurrently

Library `Execution`. `services/real_execution_go/internal/service/handler.go:48-76`, any number of
calls at once over one idempotency store: the in-memory one,
`internal/idempotency/store.go:44-81`, or Redis, `internal/idempotency/redis_store.go:41-77`,
without errors and within the lifetime of its keys. A call is at one of the points between its
store, bridge and publisher steps, and an interleaving is a list of moves that names the call each
step belongs to. A redelivery is one more delivery. The commands that reached the bridge are a
history that no step reads.
-/

namespace OpenTrader.Execution
open Base Oms

/-- `InMemoryStore` and `RedisStore`. -/
inductive StoreKind where
  | inMemory
  | redis
  deriving DecidableEq

namespace StoreKind

/-- The key a record is kept under. -/
def storageKey : StoreKind → String → String
  | .inMemory, dispatchKey => dispatchKey
  | .redis, dispatchKey => "idempotency:" ++ dispatchKey

variable (kind : StoreKind) (store : DispatchStore) (dispatchKey now : String)

/-- `TryStart`, one step under the mutex of the in-memory store or as one `SETNX`. -/
def tryStart : Option DispatchStore :=
  match store.get? (kind.storageKey dispatchKey) with
  | some _ => none
  | none => some (store.set (kind.storageKey dispatchKey)
      { dispatchKey, status := .started, updatedAt := now })

/-- `MarkFailed` and `MarkCompleted`. -/
def mark (reply : Except String BridgeResult) : DispatchStore :=
  store.set (kind.storageKey dispatchKey) (replyRecord dispatchKey now reply)

private theorem tryStart_inMemory :
    inMemory.tryStart store dispatchKey now = store.tryStart dispatchKey now := rfl

private theorem tryStart_eq_none_iff {kind : StoreKind} {store : DispatchStore}
    {dispatchKey now : String} : kind.tryStart store dispatchKey now = none ↔
      (store.get? (kind.storageKey dispatchKey)).isSome = true := by
  unfold tryStart
  cases store.get? (kind.storageKey dispatchKey) <;> simp

private theorem tryStart_eq_some_iff {kind : StoreKind} {store store' : DispatchStore}
    {dispatchKey now : String} : kind.tryStart store dispatchKey now = some store' ↔
      store.get? (kind.storageKey dispatchKey) = none ∧
      store' = store.set (kind.storageKey dispatchKey)
        { dispatchKey, status := .started, updatedAt := now } := by
  unfold tryStart
  cases store.get? (kind.storageKey dispatchKey) <;> simp [eq_comm]

private theorem storageKey_injective : Function.Injective kind.storageKey := by
  intro a b h
  cases kind with
  | inMemory => exact h
  | redis =>
    have hlist := congrArg String.toList h
    simp only [storageKey, String.toList_append] at hlist
    exact String.toList_inj.mp (List.append_cancel_left hlist)

end StoreKind

/-! ### Calls and moves -/

/-- Where a call of `Handle` is. -/
inductive Call where
  | received (body : DeliveryBody)
  | read (dispatch : Dispatch)
  | skipped (dispatch : Dispatch)
  | started (dispatch : Dispatch)
  | executed (dispatch : Dispatch) (reply : Except String BridgeResult)
  | marked (dispatch : Dispatch) (reply : Except String BridgeResult)
  | refused (error : String)
  | returned (dispatch : Dispatch) (error : Option String)

namespace Call

/-- The pair of a call that took its key. -/
def startedPair : Call → Option (String × Operation)
  | .started d | .executed d _ | .marked d _ | .returned d _ => some d.command.dispatchPair
  | _ => none

/-- The pair of a call whose command reached the bridge. -/
def executedPair : Call → Option (String × Operation)
  | .executed d _ | .marked d _ | .returned d _ => some d.command.dispatchPair
  | _ => none

/-- The error a call returned, `nil` for a skipped delivery. -/
def error : Call → Option String
  | .refused text => some text
  | .returned _ error => error
  | _ => none

end Call

/-- One store, and the calls over it in the order of their deliveries. -/
structure Handlers where
  store : DispatchStore := .empty
  calls : List Call := []
  executed : List Command := []
  published : List OrderEnvelope := []

/-- A step of one call, with what comes from outside: the body, the clock, the reply of the bridge
and the outcome of the publication. -/
inductive Move where
  | receive (body : DeliveryBody)
  | read (call : ℕ)
  | tryStart (call : ℕ) (now : String)
  | execute (call : ℕ) (reply : Except String BridgeResult)
  | mark (call : ℕ) (now : String)
  | publish (call : ℕ) (now : String) (outcome : Publication)

namespace Handlers

/-- The call moves on. -/
def setCall (s : Handlers) (i : ℕ) (call : Call) : Handlers :=
  { s with calls := s.calls.set i call }

/-- The pairs whose key was taken, by call. -/
def startedPairs (s : Handlers) : List (String × Operation) :=
  s.calls.filterMap Call.startedPair

/-- The pairs whose command reached the bridge, by call. -/
def executedPairs (s : Handlers) : List (String × Operation) :=
  s.calls.filterMap Call.executedPair

/-- One step of one call; a move that is not the next step of its call does nothing. -/
def step (kind : StoreKind) (s : Handlers) : Move → Handlers
  | .receive body => { s with calls := s.calls ++ [.received body] }
  | .read i =>
    match s.calls[i]? with
    | some (.received body) =>
      match readDelivery body with
      | .error text => s.setCall i (.refused text)
      | .ok d => s.setCall i (.read d)
    | _ => s
  | .tryStart i now =>
    match s.calls[i]? with
    | some (.read d) =>
      match kind.tryStart s.store d.dispatchKey now with
      | none => s.setCall i (.skipped d)
      | some store => { s.setCall i (.started d) with store }
    | _ => s
  | .execute i reply =>
    match s.calls[i]? with
    | some (.started d) =>
      { s.setCall i (.executed d reply) with executed := s.executed ++ [d.command] }
    | _ => s
  | .mark i now =>
    match s.calls[i]? with
    | some (.executed d reply) =>
      { s.setCall i (.marked d reply) with store := kind.mark s.store d.dispatchKey now reply }
    | _ => s
  | .publish i now outcome =>
    match s.calls[i]? with
    | some (.marked d reply) =>
      { s.setCall i (.returned d (handleError reply outcome.error)) with
        published :=
          if outcome = .published then
            s.published ++ [lifecycleEvent now d.envelope d.command reply]
          else s.published }
    | _ => s

end Handlers

/-! ### What a move does to the keys -/

section

variable {α β : Type} {f : α → Option β} {xs : List α} {i : ℕ} {x y : α}

private theorem perm_filterMap_set (h : xs[i]? = some x) :
    (xs.filterMap f).Perm ((f x).toList ++ (xs.eraseIdx i).filterMap f) ∧
      ((xs.set i y).filterMap f).Perm ((f y).toList ++ (xs.eraseIdx i).filterMap f) := by
  obtain ⟨hi, hx⟩ := List.getElem?_eq_some_iff.mp h
  have hcons : ∀ z, ((z :: xs.eraseIdx i).filterMap f) =
      (f z).toList ++ (xs.eraseIdx i).filterMap f := by
    intro z
    cases hz : f z <;> simp [hz]
  rw [← hcons x, ← hcons y]
  constructor
  · have hperm := (List.getElem_cons_eraseIdx_perm hi).symm
    rw [hx] at hperm
    exact hperm.filterMap f
  · exact (List.set_perm_cons_eraseIdx hi y).filterMap f

private theorem filterMap_set_of_eq (h : xs[i]? = some x) (hf : f y = f x) :
    ((xs.set i y).filterMap f).Perm (xs.filterMap f) := by
  obtain ⟨hold, hnew⟩ := @perm_filterMap_set α β f xs i x y h
  rw [hf] at hnew
  exact hnew.trans hold.symm

private theorem filterMap_set_of_new {b : β} (h : xs[i]? = some x) (hx : f x = none)
    (hy : f y = some b) : ((xs.set i y).filterMap f).Perm (b :: xs.filterMap f) := by
  obtain ⟨hold, hnew⟩ := @perm_filterMap_set α β f xs i x y h
  rw [hx] at hold
  rw [hy] at hnew
  exact hnew.trans (hold.symm.cons b)

private theorem filterMap_concat_of_none (hy : f y = none) :
    ((xs ++ [y]).filterMap f).Perm (xs.filterMap f) := by
  rw [List.filterMap_append, List.filterMap_cons_none hy, List.filterMap_nil, List.append_nil]

end

/-- The keys of a store. -/
def Taken (store : DispatchStore) (key : String) : Prop := (store.get? key).isSome = true

/-- What a move does: it takes a free key, it sends the command of a key that was taken to the
bridge, or it leaves both lists of pairs alone and writes no record but of a pair that was
started. -/
inductive Effect (kind : StoreKind) (s s' : Handlers) : Prop where
  | start (pair : String × Operation) :
      ¬ Taken s.store (kind.storageKey (dispatchKeyOf pair)) →
      (∀ key, Taken s'.store key ↔ kind.storageKey (dispatchKeyOf pair) = key ∨
        Taken s.store key) →
      s'.startedPairs.Perm (pair :: s.startedPairs) → s'.executedPairs.Perm s.executedPairs →
      s'.executed = s.executed → Effect kind s s'
  | execute (command : Command) : s'.store = s.store → s'.startedPairs.Perm s.startedPairs →
      s'.executedPairs.Perm (command.dispatchPair :: s.executedPairs) →
      s'.executed = s.executed ++ [command] → Effect kind s s'
  | quiet : (∀ key, Taken s'.store key ↔ Taken s.store key ∨
        ∃ pair ∈ s.startedPairs, kind.storageKey (dispatchKeyOf pair) = key ∧
          Taken s'.store key) →
      s'.startedPairs.Perm s.startedPairs → s'.executedPairs.Perm s.executedPairs →
      s'.executed = s.executed → Effect kind s s'

private theorem taken_set (store : DispatchStore) (k key : String) (record : DispatchRecord) :
    Taken (store.set k record) key ↔ k = key ∨ Taken store key := by
  unfold Taken
  rw [Dict.get?_set]
  by_cases hk : k = key <;> simp [hk]

namespace Handlers

variable {s : Handlers}

private theorem quiet_of_same {kind : StoreKind} {s' : Handlers} (hstore : s'.store = s.store)
    (hstarted : s'.startedPairs.Perm s.startedPairs)
    (hexec : s'.executedPairs.Perm s.executedPairs) (hcommands : s'.executed = s.executed) :
    Effect kind s s' := by
  refine .quiet ?_ hstarted hexec hcommands
  intro key
  rw [hstore]
  exact ⟨.inl, fun h => h.elim id fun ⟨_, _, _, h⟩ => h⟩

variable {d : Dispatch} {call call' : Call}

private theorem quiet_setCall {kind : StoreKind} {i : ℕ} (hcall : s.calls[i]? = some call)
    (hstarted : call'.startedPair = call.startedPair)
    (hexec : call'.executedPair = call.executedPair) : Effect kind s (s.setCall i call') :=
  quiet_of_same rfl (filterMap_set_of_eq hcall hstarted) (filterMap_set_of_eq hcall hexec) rfl

private theorem taken_mark {kind : StoreKind} (hpair : d.command.dispatchPair ∈ s.startedPairs)
    (now : String) (reply : Except String BridgeResult) (key : String) :
    Taken (kind.mark s.store d.dispatchKey now reply) key ↔ Taken s.store key ∨
      ∃ pair ∈ s.startedPairs, kind.storageKey (dispatchKeyOf pair) = key ∧
        Taken (kind.mark s.store d.dispatchKey now reply) key := by
  have htaken := taken_set s.store (kind.storageKey d.dispatchKey) key
    (replyRecord d.dispatchKey now reply)
  constructor
  · intro h
    rcases htaken.mp h with hk | hk
    · exact .inr ⟨_, hpair, by rw [← d.dispatchKey_eq, hk], h⟩
    · exact .inl hk
  · rintro (hk | ⟨_, -, -, hk⟩)
    · exact htaken.mpr (.inr hk)
    · exact hk

private theorem effect_step (kind : StoreKind) (s : Handlers) (move : Move) :
    Effect kind s (s.step kind move) := by
  have hidle : Effect kind s s := quiet_of_same rfl (.refl _) (.refl _) rfl
  cases move with
  | receive body =>
    exact quiet_of_same rfl (filterMap_concat_of_none rfl) (filterMap_concat_of_none rfl) rfl
  | read i =>
    rw [step]
    split
    · next body hcall =>
      split
      · exact quiet_setCall hcall rfl rfl
      · exact quiet_setCall hcall rfl rfl
    · exact hidle
  | tryStart i now =>
    rw [step]
    split
    · next d hcall =>
      split
      · exact quiet_setCall hcall rfl rfl
      · next store hstart =>
        obtain ⟨hfree, rfl⟩ := StoreKind.tryStart_eq_some_iff.mp hstart
        rw [d.dispatchKey_eq] at hfree
        refine .start d.command.dispatchPair ?_ ?_ (filterMap_set_of_new hcall rfl rfl)
          (filterMap_set_of_eq hcall rfl) rfl
        · rw [Taken, hfree]
          simp
        · intro key
          rw [← d.dispatchKey_eq]
          exact taken_set s.store _ key _
    · exact hidle
  | execute i reply =>
    rw [step]
    split
    · next d hcall =>
      exact .execute d.command rfl (filterMap_set_of_eq hcall rfl)
        (filterMap_set_of_new hcall rfl rfl) rfl
    · exact hidle
  | mark i now =>
    rw [step]
    split
    · next d reply hcall =>
      have hpair : d.command.dispatchPair ∈ s.startedPairs :=
        List.mem_filterMap.mpr ⟨_, List.mem_of_getElem? hcall, rfl⟩
      exact .quiet (taken_mark hpair now reply) (filterMap_set_of_eq hcall rfl)
        (filterMap_set_of_eq hcall rfl) rfl
    · exact hidle
  | publish i now outcome =>
    rw [step]
    split
    · next d reply hcall =>
      exact quiet_of_same rfl (filterMap_set_of_eq hcall rfl) (filterMap_set_of_eq hcall rfl) rfl
    · exact hidle

/-! ### The invariant of all interleavings -/

/-- The records are those of the pairs that were started, none was started twice, and the commands
that reached the bridge are those of the calls that are past it. -/
structure Claimed (kind : StoreKind) (s : Handlers) : Prop where
  taken : ∀ key, Taken s.store key ↔
    ∃ pair ∈ s.startedPairs, kind.storageKey (dispatchKeyOf pair) = key
  nodup : s.startedPairs.Nodup
  executed : (s.executed.map Command.dispatchPair).Perm s.executedPairs

private theorem claimed_start (kind : StoreKind) : Claimed kind {} where
  taken key := by simp [Taken, startedPairs]
  nodup := List.nodup_nil
  executed := .refl _

/-- Every move keeps the claims. -/
theorem Claimed.step {kind : StoreKind} (h : Claimed kind s) (move : Move) :
    Claimed kind (s.step kind move) := by
  have hm : ∀ {s' : Handlers}, s'.startedPairs.Perm s.startedPairs → ∀ key,
      (∃ pair ∈ s'.startedPairs, kind.storageKey (dispatchKeyOf pair) = key) ↔
        ∃ pair ∈ s.startedPairs, kind.storageKey (dispatchKeyOf pair) = key := by
    intro s' hperm key
    simp only [hperm.mem_iff]
  cases effect_step kind s move with
  | start pair hfree htaken hstarted hexec hcommands =>
    have hnew : pair ∉ s.startedPairs := fun hpair => hfree ((h.taken _).mpr ⟨pair, hpair, rfl⟩)
    constructor
    · intro key
      rw [htaken, h.taken]
      simp only [hstarted.mem_iff, List.mem_cons, exists_eq_or_imp]
    · exact hstarted.nodup_iff.mpr (List.nodup_cons.mpr ⟨hnew, h.nodup⟩)
    · rw [hcommands]
      exact h.executed.trans hexec.symm
  | execute command hstore hstarted hexec hcommands =>
    constructor
    · intro key
      rw [hstore, h.taken, hm hstarted]
    · exact hstarted.nodup_iff.mpr h.nodup
    · rw [hcommands, List.map_append]
      exact (List.perm_append_singleton _ _).trans ((h.executed.cons _).trans hexec.symm)
  | quiet htaken hstarted hexec hcommands =>
    constructor
    · intro key
      rw [htaken, hm hstarted, ← h.taken]
      constructor
      · rintro (hk | ⟨pair, hpair, hk, -⟩)
        · exact hk
        · exact (h.taken key).mpr ⟨pair, hpair, hk⟩
      · exact .inl
    · exact hstarted.nodup_iff.mpr h.nodup
    · rw [hcommands]
      exact h.executed.trans hexec.symm

private theorem claimed_throughout (kind : StoreKind) (moves : List Move) :
    Throughout (step kind) (Claimed kind) {} moves :=
  throughout_of_step (fun _ move h => h.step move) moves (claimed_start kind)

private theorem executedPairs_sublist (s : Handlers) : s.executedPairs.Sublist s.startedPairs := by
  unfold executedPairs startedPairs
  induction s.calls with
  | nil => exact List.Sublist.refl _
  | cons call calls ih =>
    cases call <;>
      simp only [List.filterMap_cons, Call.startedPair, Call.executedPair] <;>
      first
      | exact ih
      | exact ih.cons_cons _
      | exact ih.cons _

private theorem Claimed.nodup_executed {kind : StoreKind} (h : Claimed kind s) :
    (s.executed.map Command.dispatchPair).Nodup :=
  h.executed.nodup_iff.mpr (h.nodup.sublist s.executedPairs_sublist)

/-- A delivery that the move skips has the pair of another delivery, which has started. -/
def SkipsOnlyStarted (kind : StoreKind) (s : Handlers) (move : Move) : Prop :=
  ∀ (i : ℕ) (d : Dispatch), s.calls[i]? ≠ some (.skipped d) →
    (s.step kind move).calls[i]? = some (.skipped d) →
    ∃ j call, j ≠ i ∧ s.calls[j]? = some call ∧
      call.startedPair = some d.command.dispatchPair

private theorem eq_of_setCall {i j : ℕ} (hold : s.calls[i]? ≠ some call')
    (hnew : (s.setCall j call).calls[i]? = some call') : j = i ∧ call = call' := by
  change (s.calls.set j call)[i]? = some call' at hnew
  rw [List.getElem?_set] at hnew
  split at hnew
  · next hj =>
    split at hnew
    · exact ⟨hj, Option.some.inj hnew⟩
    · cases hnew
  · exact absurd hnew hold

private theorem taken_of_skipped {kind : StoreKind} {move : Move} {i : ℕ}
    (hold : s.calls[i]? ≠ some (.skipped d))
    (hnew : (s.step kind move).calls[i]? = some (.skipped d)) :
    s.calls[i]? = some (.read d) ∧ Taken s.store (kind.storageKey d.dispatchKey) := by
  cases move with
  | receive body =>
    rw [step] at hnew
    change (s.calls ++ [_])[i]? = _ at hnew
    rw [List.getElem?_append] at hnew
    split at hnew
    · exact absurd hnew hold
    · rw [List.getElem?_singleton] at hnew
      split at hnew <;> cases hnew
  | read j =>
    rw [step] at hnew
    split at hnew
    · split at hnew
      · cases (eq_of_setCall hold hnew).2
      · cases (eq_of_setCall hold hnew).2
    · exact absurd hnew hold
  | tryStart j now =>
    rw [step] at hnew
    split at hnew
    · next d' hcall =>
      split at hnew
      · next hrefused =>
        obtain ⟨rfl, hcall'⟩ := eq_of_setCall hold hnew
        cases hcall'
        exact ⟨hcall, StoreKind.tryStart_eq_none_iff.mp hrefused⟩
      · cases (eq_of_setCall hold hnew).2
    · exact absurd hnew hold
  | execute | mark | publish =>
    rw [step] at hnew
    split at hnew
    · cases (eq_of_setCall hold hnew).2
    · exact absurd hnew hold

private theorem Claimed.skipsOnlyStarted {kind : StoreKind} (h : Claimed kind s) (move : Move) :
    SkipsOnlyStarted kind s move := by
  intro i d hold hnew
  obtain ⟨hr, htaken⟩ := taken_of_skipped hold hnew
  obtain ⟨pair, hpair, hk⟩ := (h.taken _).mp htaken
  rw [d.dispatchKey_eq] at hk
  have hpair' : pair = d.command.dispatchPair :=
    dispatchKeyOf_injective (kind.storageKey_injective hk)
  obtain ⟨call, hcall, hstarted⟩ := List.mem_filterMap.mp hpair
  obtain ⟨j, hj⟩ := List.mem_iff_getElem?.mp hcall
  refine ⟨j, call, ?_, hj, by rw [hstarted, hpair']⟩
  rintro rfl
  rw [hr] at hj
  cases hj
  cases hstarted

/-- However the calls interleave, the bridge is called at most once for an idempotency key and an
operation, and no delivery is skipped but after another one of the same pair has started. -/
theorem dispatched_at_most_once (kind : StoreKind) (moves : List Move) :
    (∀ pair, ((run (step kind) {} moves).executed.map Command.dispatchPair).count pair ≤ 1) ∧
      Along (step kind) (SkipsOnlyStarted kind) {} moves := by
  have hclaimed := claimed_throughout kind moves
  constructor
  · exact List.nodup_iff_count_le_one.mp hclaimed.last.nodup_executed
  · exact hclaimed.along fun _ move h => h.skipsOnlyStarted move

/-! ### A call that nothing interrupts -/

/-- The moves of one call in a row, with the replies of the handler's bridge and publisher. -/
def uninterrupted (deps : HandlerDeps) (now : String) (i : ℕ) (body : DeliveryBody) : List Move :=
  .receive body :: .read i ::
    match readDelivery body with
    | .error _ => []
    | .ok d =>
      let reply := deps.execute d.command
      [.tryStart i now, .execute i reply, .mark i now,
        .publish i now (deps.publication (lifecycleEvent now d.envelope d.command reply))]

private theorem run_uninterrupted_started {deps : HandlerDeps} {now : String} {body : DeliveryBody}
    {started : DispatchStore} (hr : readDelivery body = .ok d)
    (hstart : s.store.tryStart d.dispatchKey now = some started) :
    let reply := deps.execute d.command
    let message := lifecycleEvent now d.envelope d.command reply
    run (step .inMemory) s (uninterrupted deps now s.calls.length body) =
      { store := started.set d.dispatchKey (replyRecord d.dispatchKey now reply)
        calls := s.calls ++ [.returned d (handleError reply (deps.publication message).error)]
        executed := s.executed ++ [d.command]
        published :=
          if deps.publication message = .published then s.published ++ [message]
          else s.published } := by
  simp [uninterrupted, hr, step, setCall, StoreKind.tryStart_inMemory, hstart, StoreKind.mark,
    StoreKind.storageKey]

/-- A call of `Handle` is its moves in a row. -/
theorem run_uninterrupted (deps : HandlerDeps) (now : String) (s : Handlers) (body : DeliveryBody) :
    let s' := run (step .inMemory) s (uninterrupted deps now s.calls.length body)
    let result := handleBody deps now s.store body
    s'.store = result.store ∧ s'.executed = s.executed ++ result.command.toList ∧
      s'.published = s.published ++ result.published.toList ∧
      ∃ call, s'.calls = s.calls ++ [call] ∧ call.error = result.error := by
  dsimp only
  cases hr : readDelivery body with
  | error text =>
    simp [uninterrupted, hr, step, setCall, handleBody_of_error hr, Call.error]
  | ok d =>
    rw [handleBody_of_ok hr]
    cases hstart : s.store.tryStart d.dispatchKey now with
    | none =>
      simp [uninterrupted, hr, step, setCall, StoreKind.tryStart_inMemory, hstart, Call.error]
    | some started =>
      rw [run_uninterrupted_started hr hstart]
      dsimp only
      rw [dispatchCommand_eq]
      refine ⟨rfl, rfl, ?_, _, rfl, rfl⟩
      dsimp only
      split <;> simp

end Handlers

end OpenTrader.Execution
