import OpenTrader.Base.Text

/-!
# Order states

Library `Oms`. The order states, their text form and the terminal ones;
`services/oms/state_machine.py:6-17,72-76`.
-/

namespace OpenTrader.Oms
open Base

/-- `OMS_STATES`. -/
inductive OmsState where
  | new
  | submitted
  | opened
  | partiallyFilled
  | filled
  | canceled
  | rejected
  | expired
  deriving DecidableEq

namespace OmsState

/-- Text of a state. -/
def name : OmsState → String
  | .new => "NEW"
  | .submitted => "SUBMITTED"
  | .opened => "OPEN"
  | .partiallyFilled => "PARTIALLY_FILLED"
  | .filled => "FILLED"
  | .canceled => "CANCELED"
  | .rejected => "REJECTED"
  | .expired => "EXPIRED"

/-- All states, in the source's order. -/
def all : List OmsState :=
  [.new, .submitted, .opened, .partiallyFilled, .filled, .canceled, .rejected, .expired]

/-- Membership in `TERMINAL_STATES`. -/
def isTerminal : OmsState → Bool
  | .filled | .canceled | .rejected | .expired => true
  | _ => false

end OmsState

/-- `OMSStateTransitionError` of an unknown state text. -/
structure OmsStateTransitionError where
  state : String
  deriving DecidableEq

/-- Message text of an unknown state. -/
def OmsStateTransitionError.message (e : OmsStateTransitionError) : String :=
  "unknown OMS state: " ++ e.state

/-- `normalize_state`; `state_machine.py:72-76`. -/
def normalizeState (state : String) : Except OmsStateTransitionError OmsState :=
  match OmsState.all.find? (fun s => s.name == upper (strip state)) with
  | some s => .ok s
  | none => .error ⟨state⟩

end OpenTrader.Oms
