import Mathlib.Data.List.Chain
import OpenTrader.Base.Dict
import OpenTrader.Base.Text
import OpenTrader.Base.Trace

/-!
# Trading mode and strategies

Library `Api`. The mode part of the control plane state,
`services/api/state.py:30-47,186-278,842-865,998-1031,1048-1052`. The mode is kept three times: as
the global mode, in the record of every strategy and in the newest entry of the mode history.
-/

namespace OpenTrader.Api
open Base

/-- `_VALID_MODES`. -/
inductive TradingMode where
  | mock
  | real
  deriving DecidableEq

/-- `_VALID_STATES`. -/
inductive StrategyState where
  | enabled
  | disabled
  | paused
  deriving DecidableEq

/-- A `ValueError`. -/
structure ValueError where
  message : String
  deriving DecidableEq

/-- `StrategyRuntimeRecord`. -/
structure StrategyRuntimeRecord where
  strategyId : String
  symbol : String
  mode : TradingMode
  state : StrategyState
  updatedAt : String
  changedBy : String
  reason : Option String

/-- `ModeAuditRecord`. -/
structure ModeAuditRecord where
  eventId : String
  mode : TradingMode
  changedBy : String
  reason : String
  changedAt : String

/-- The mode fields of `ControlPlaneState`; the newest history entry comes first. -/
structure ModeState where
  mode : TradingMode
  strategies : Dict String StrategyRuntimeRecord
  modeHistory : List ModeAuditRecord

/-- `_normalize_mode`; `state.py:1020-1024`. -/
def normalizeMode (mode : String) : Except ValueError TradingMode :=
  if upper (strip mode) = "MOCK" then .ok .mock
  else if upper (strip mode) = "REAL" then .ok .real
  else .error ⟨"mode must be MOCK or REAL"⟩

/-- `_normalize_strategy_state`; `state.py:1027-1031`. -/
def normalizeStrategyState (state : String) : Except ValueError StrategyState :=
  if upper (strip state) = "ENABLED" then .ok .enabled
  else if upper (strip state) = "DISABLED" then .ok .disabled
  else if upper (strip state) = "PAUSED" then .ok .paused
  else .error ⟨"strategy state must be ENABLED, DISABLED, or PAUSED"⟩

/-- `_default_symbol`; `state.py:1048-1052`. -/
def defaultSymbol (strategyId : String) : String :=
  if containsText "eth" (lower strategyId) then "ETH/USDT" else "BTC/USDT"

/-- The mode fields of `build_default_state`; `state.py:842-865,998-1009`. -/
def buildDefaultState (now defaultMode : String) : Except ValueError ModeState := do
  let normalizedMode ← normalizeMode defaultMode
  let bootstrap (strategyId symbol : String) : StrategyRuntimeRecord :=
    { strategyId, symbol, mode := normalizedMode, state := .enabled, updatedAt := now,
      changedBy := "system", reason := some "bootstrap" }
  return {
    mode := normalizedMode
    strategies :=
      (Dict.empty.set "btc-momentum" (bootstrap "btc-momentum" "BTC/USDT")).set "eth-mean-revert"
        (bootstrap "eth-mean-revert" "ETH/USDT")
    modeHistory :=
      [{ eventId := "bootstrap-mode", mode := normalizedMode, changedBy := "system",
         reason := "bootstrap", changedAt := now }] }

namespace ModeState

variable (s : ModeState)

/-- `set_mode`; `state.py:213-244`. The reply tells whether the mode changed, and when. -/
def setMode (now eventId mode actor reason : String) :
    Except ValueError (Bool × String) × ModeState :=
  match normalizeMode mode with
  | .error error => (.error error, s)
  | .ok normalizedMode =>
    let changed := normalizedMode ≠ s.mode
    let s := { s with mode := normalizedMode }
    if ¬ changed then (.ok (false, now), s)
    else
      let strategies := s.strategies.mapValues fun record =>
        { record with
          mode := normalizedMode, updatedAt := now, changedBy := actor, reason := some reason }
      let entry : ModeAuditRecord :=
        { eventId, mode := normalizedMode, changedBy := actor, reason, changedAt := now }
      (.ok (true, now), { s with strategies, modeHistory := entry :: s.modeHistory })

/-- `set_strategy_state`; `state.py:253-278`. An unknown strategy is created. -/
def setStrategyState (now strategyId state actor reason : String) :
    Except ValueError StrategyRuntimeRecord × ModeState :=
  match normalizeStrategyState state with
  | .error error => (.error error, s)
  | .ok normalizedState =>
    let key := strip strategyId
    if key = "" then (.error ⟨"strategy_id must be non-empty"⟩, s)
    else
      let updated : StrategyRuntimeRecord :=
        { strategyId := key
          symbol := ((s.strategies.get? key).map (·.symbol)).getD (defaultSymbol key)
          mode := s.mode
          state := normalizedState
          updatedAt := now
          changedBy := actor
          reason := some reason }
      (.ok updated, { s with strategies := s.strategies.set key updated })

end ModeState

/-- A call with the clock text and the fresh id it draws. -/
inductive ModeCall where
  | setMode (now eventId mode actor reason : String)
  | setStrategyState (now strategyId state actor reason : String)
  deriving DecidableEq

/-- Whether the call raises, and the state after it. -/
def ModeCall.perform (s : ModeState) : ModeCall → Except ValueError Unit × ModeState
  | .setMode now eventId mode actor reason =>
    let (reply, s) := s.setMode now eventId mode actor reason
    (reply.map fun _ => (), s)
  | .setStrategyState now strategyId state actor reason =>
    let (reply, s) := s.setStrategyState now strategyId state actor reason
    (reply.map fun _ => (), s)

/-- The state after a call. -/
def modeStep (s : ModeState) (call : ModeCall) : ModeState := (call.perform s).2

/-! ### The three copies of the mode -/

/-- Every strategy has the global mode, so has the newest history entry, and the mode changes from
every entry to the next. -/
structure ModeState.Consistent (s : ModeState) : Prop where
  strategies_mode : ∀ record ∈ s.strategies.values, record.mode = s.mode
  newest : s.modeHistory.head?.map (·.mode) = some s.mode
  alternates : s.modeHistory.IsChain fun entry older => entry.mode ≠ older.mode

private theorem perform_cases (s : ModeState) (call : ModeCall) :
    (call.perform s).2 = s ∨
      (call.perform s).1 = .ok () ∧
        ((∃ entry restamp, entry.mode ≠ s.mode ∧ (∀ record, (restamp record).mode = entry.mode) ∧
            (call.perform s).2 =
              ⟨entry.mode, s.strategies.mapValues restamp, entry :: s.modeHistory⟩) ∨
          ∃ key record, record.mode = s.mode ∧
            (call.perform s).2 = { s with strategies := s.strategies.set key record }) := by
  cases call with
  | setMode now eventId mode actor reason =>
    simp only [ModeCall.perform, ModeState.setMode]
    cases normalizeMode mode with
    | error error => exact .inl rfl
    | ok normalizedMode =>
      by_cases hsame : normalizedMode = s.mode
      · subst hsame
        simp
      · right
        simp only [ne_eq, hsame, not_false_eq_true, not_true_eq_false, if_false]
        refine ⟨rfl, .inl ⟨⟨eventId, normalizedMode, actor, reason, now⟩, _, hsame, ?_, rfl⟩⟩
        exact fun _ => rfl
  | setStrategyState now strategyId state actor reason =>
    simp only [ModeCall.perform, ModeState.setStrategyState]
    cases normalizeStrategyState state with
    | error error => exact .inl rfl
    | ok normalizedState =>
      by_cases hk : strip strategyId = ""
      · simp [hk]
      · right
        simp only [hk, if_false]
        exact ⟨rfl, .inr ⟨_, _, rfl, rfl⟩⟩

private theorem unchanged_of_error {s : ModeState} {call : ModeCall} {error : ValueError}
    (h : (call.perform s).1 = .error error) : (call.perform s).2 = s := by
  rcases perform_cases s call with hsame | ⟨hok, -⟩
  · exact hsame
  · rw [hok] at h
    cases h

private theorem consistent_modeStep (s : ModeState) (call : ModeCall) (h : s.Consistent) :
    (modeStep s call).Consistent := by
  unfold modeStep
  obtain hsame | ⟨-, ⟨entry, restamp, hchanged, hmode, hnext⟩ | ⟨key, record, hmode, hnext⟩⟩ :=
    perform_cases s call
  · rw [hsame]
    exact h
  · rw [hnext]
    refine ⟨?_, rfl, ?_⟩
    · intro record hrec
      rw [Dict.values_mapValues] at hrec
      obtain ⟨old, -, rfl⟩ := List.mem_map.mp hrec
      exact hmode old
    · rw [List.isChain_cons]
      refine ⟨?_, h.alternates⟩
      intro older holder
      have hnewest : older.mode = s.mode := by
        have := h.newest
        rw [holder] at this
        exact Option.some.inj this
      rw [hnewest]
      exact hchanged
  · rw [hnext]
    refine ⟨?_, h.newest, h.alternates⟩
    intro record' hrec
    rcases Dict.mem_values_of_set hrec with rfl | hold
    · exact hmode
    · exact h.strategies_mode record' hold

private theorem consistent_buildDefaultState {now defaultMode : String} {s : ModeState}
    (h : buildDefaultState now defaultMode = .ok s) : s.Consistent := by
  unfold buildDefaultState at h
  cases hmode : normalizeMode defaultMode with
  | error error =>
    rw [hmode] at h
    cases h
  | ok normalizedMode =>
    rw [hmode] at h
    cases h
    refine ⟨?_, rfl, List.isChain_singleton _⟩
    intro record hrec
    rcases Dict.mem_values_of_set hrec with rfl | hrec
    · rfl
    · rcases Dict.mem_values_of_set hrec with rfl | hrec
      · rfl
      · cases hrec

/-- **Mode consistency.** In every state that calls lead to from the state of the start, every
strategy has the global mode, so has the newest history entry, and no two consecutive entries have
the same mode; a call that raises leaves the state as it was. -/
theorem mode_consistent {now defaultMode : String} {s : ModeState}
    (h : buildDefaultState now defaultMode = .ok s) (calls : List ModeCall) :
    Throughout modeStep ModeState.Consistent s calls ∧
      Along modeStep (fun s call => ∀ error, (call.perform s).1 = .error error →
        modeStep s call = s) s calls := by
  constructor
  · exact throughout_of_step consistent_modeStep calls (consistent_buildDefaultState h)
  · exact along_of_forall (fun _ _ _ herror => unchanged_of_error herror) s calls

/-- A start in mode MOCK, a switch to REAL and a new strategy after it. -/
theorem mode_consistent_switched : ∃ s,
    buildDefaultState "2026-03-01T09:00:00Z" "mock" = .ok s ∧
      Throughout modeStep ModeState.Consistent s
        [.setMode "2026-03-01T09:01:00Z" "e-1" "real" "ops" "go live",
          .setStrategyState "2026-03-01T09:02:00Z" "sol-carry" "paused" "ops" "new"] := by
  have hmode : normalizeMode "mock" = .ok .mock := by decide +kernel
  have hstart : ∃ s, buildDefaultState "2026-03-01T09:00:00Z" "mock" = .ok s := by
    unfold buildDefaultState
    rw [hmode]
    exact ⟨_, rfl⟩
  obtain ⟨s, hs⟩ := hstart
  exact ⟨s, hs, (mode_consistent hs _).1⟩

end OpenTrader.Api
