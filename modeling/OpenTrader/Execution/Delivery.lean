import OpenTrader.Execution.Handler

/-!
# Deliveries of the Go execution service

Library `Execution`. What `Handle` reads from a message body before it asks the idempotency store,
`services/real_execution_go/internal/service/handler.go:49-57`: a body that decodes, is valid and
has a valid command, with the dispatch key of the command. The key stands for the idempotency key
and the operation, and a lifecycle event tells both.
-/

namespace OpenTrader.Execution
open Base Oms

/-- The body of a message: the envelope it holds, or the error of `json.Unmarshal`. -/
abbrev DeliveryBody := Except String IntentEnvelope

/-- The idempotency key and the operation of a command. -/
def Command.dispatchPair (command : Command) : String × Operation :=
  (command.idempotencyKey, command.operation)

/-- The dispatch key of an idempotency key and an operation. -/
def dispatchKeyOf (pair : String × Operation) : String := pair.1 ++ ":" ++ pair.2.name

/-- A delivery that reaches the store: its envelope, and the command and key built from it. -/
structure Dispatch where
  envelope : GoEnvelope
  command : Command
  dispatchKey : String
  built : toBridgeCommand envelope = .ok (command, dispatchKey)

/-- `DecodeEnvelope` and `toBridgeCommand` of a body; `handler.go:49-57`. -/
def readDelivery (body : DeliveryBody) : Except String Dispatch :=
  match body with
  | .error text => .error ("decode envelope: " ++ text)
  | .ok message =>
    match decodeEnvelope message with
    | .error text => .error text
    | .ok envelope =>
      match h : toBridgeCommand envelope with
      | .error text => .error text
      | .ok (command, dispatchKey) => .ok ⟨envelope, command, dispatchKey, h⟩

/-- `Handle` of a body; `handler.go:48-76`. -/
def handleBody (deps : HandlerDeps) (now : String) (store : DispatchStore) (body : DeliveryBody) :
    HandleResult :=
  match body with
  | .error text => { store, error := some ("decode envelope: " ++ text) }
  | .ok message => handle deps now store message

/-- What the publisher did with a message, if there is one. -/
inductive Publication where
  | unconfigured
  | published
  | failed (error : String)
  deriving DecidableEq

/-- The error of a publication. -/
def Publication.error : Publication → Option String
  | .failed error => some error
  | _ => none

/-- What the publisher of a handler does with a message. -/
def HandlerDeps.publication (deps : HandlerDeps) (message : OrderEnvelope) : Publication :=
  match deps.publish with
  | none => .unconfigured
  | some publish =>
    match publish message with
    | none => .published
    | some error => .failed error

/-! ### What a call does with a body -/

section

variable {deps : HandlerDeps} {now : String} {store : DispatchStore} {body : DeliveryBody}

/-- A call that took its key, by what the publisher did. -/
theorem dispatchCommand_eq (deps : HandlerDeps) (now : String) (store : DispatchStore)
    (envelope : GoEnvelope) (command : Command) (dispatchKey : String) :
    let reply := deps.execute command
    let message := lifecycleEvent now envelope command reply
    dispatchCommand deps now store envelope command dispatchKey =
      { store := store.set dispatchKey (replyRecord dispatchKey now reply)
        command := some command
        published := if deps.publication message = .published then some message else none
        error := handleError reply (deps.publication message).error } := by
  unfold dispatchCommand HandlerDeps.publication
  dsimp only
  cases deps.publish with
  | none => rfl
  | some publish =>
    cases hmessage : publish (lifecycleEvent now envelope command (deps.execute command)) <;>
      simp [hmessage, Publication.error]

/-- A body that cannot be read is refused. -/
theorem handleBody_of_error {text : String} (h : readDelivery body = .error text) :
    handleBody deps now store body = { store, error := some text } := by
  unfold readDelivery at h
  unfold handleBody handle
  cases body with
  | error raw => cases h; rfl
  | ok message =>
    cases hdecode : decodeEnvelope message with
    | error raw => simp only [hdecode] at h ⊢; cases h; rfl
    | ok envelope =>
      simp only [hdecode] at h ⊢
      split at h
      · next raw hcmd => cases h; simp only [hcmd]
      · cases h

/-- A delivery that can be read takes its key or is skipped. -/
theorem handleBody_of_ok {d : Dispatch} (h : readDelivery body = .ok d) :
    handleBody deps now store body =
      match store.tryStart d.dispatchKey now with
      | none => { store }
      | some started => dispatchCommand deps now started d.envelope d.command d.dispatchKey := by
  unfold readDelivery at h
  cases body with
  | error raw => cases h
  | ok message =>
    cases hdecode : decodeEnvelope message with
    | error raw => simp only [hdecode] at h; cases h
    | ok envelope =>
      simp only [hdecode] at h
      split at h
      · cases h
      · next command dispatchKey hcmd =>
        cases h
        exact handle_of_command hdecode hcmd

/-- A key that is taken gives the delivery up, without an error. -/
theorem handleBody_of_taken {d : Dispatch} (h : readDelivery body = .ok d)
    (htaken : (store.get? d.dispatchKey).isSome = true) :
    handleBody deps now store body = { store } := by
  obtain ⟨record, hrec⟩ := Option.isSome_iff_exists.mp htaken
  rw [handleBody_of_ok h, DispatchStore.tryStart, hrec]

/-- A key that is free is taken, the command goes to the bridge and the reply to the publisher. -/
theorem handleBody_of_free {d : Dispatch} (h : readDelivery body = .ok d)
    (hfree : store.get? d.dispatchKey = none) :
    let reply := deps.execute d.command
    let message := lifecycleEvent now d.envelope d.command reply
    ∃ store' : DispatchStore,
      (∀ key, (store'.get? key).isSome = true ↔
        d.dispatchKey = key ∨ (store.get? key).isSome = true) ∧
      handleBody deps now store body =
        { store := store'
          command := some d.command
          published := if deps.publication message = .published then some message else none
          error := handleError reply (deps.publication message).error } := by
  dsimp only
  rw [handleBody_of_ok h, DispatchStore.tryStart, hfree]
  dsimp only
  rw [dispatchCommand_eq]
  refine ⟨_, fun key => ?_, rfl⟩
  rw [Dict.get?_set, Dict.get?_set]
  by_cases hk : d.dispatchKey = key <;> simp [hk]

end

/-! ### Keys -/

private theorem length_name (operation : Operation) : operation.name.toList.length = 12 := by
  cases operation <;> rfl

private theorem name_injective : Function.Injective Operation.name := by
  intro a b h
  cases a <;> cases b <;> first | rfl | exact absurd h (by decide)

/-- The names of the operations have one length, so a key tells where its last part begins. -/
theorem dispatchKeyOf_injective : Function.Injective dispatchKeyOf := by
  rintro ⟨key, operation⟩ ⟨key', operation'⟩ h
  have hlist := congrArg String.toList h
  simp only [dispatchKeyOf, String.toList_append] at hlist
  have hlen : operation.name.toList.length = operation'.name.toList.length := by
    rw [length_name, length_name]
  obtain ⟨hhead, hname⟩ := List.append_inj' hlist hlen
  have hk := List.append_cancel_right hhead
  rw [String.toList_inj.mp hk, name_injective (String.toList_inj.mp hname)]

namespace Dispatch

variable (d : Dispatch)

private theorem command_eq : d.command.idempotencyKey = d.envelope.idempotencyKey ∧
    (d.command.operation = .cancelOrder ↔ d.command.action = .cancel) := by
  obtain ⟨envelope, command, dispatchKey, built⟩ := d
  obtain ⟨action, -, hcmd, -⟩ := toBridgeCommand_eq_ok built
  unfold bridgeCommand at hcmd
  dsimp only at hcmd
  split at hcmd
  · cases hcmd
    exact ⟨rfl, fun _ => rfl, fun _ => rfl⟩
  · next hcreate =>
    split at hcmd
    · cases hcmd
    · cases hcmd
      refine ⟨rfl, ?_, fun h => absurd h hcreate⟩
      intro h
      cases h

private theorem idempotencyKey_command : d.command.idempotencyKey = d.envelope.idempotencyKey :=
  d.command_eq.1

/-- The dispatch key of a delivery is the key of its command's pair. -/
theorem dispatchKey_eq : d.dispatchKey = dispatchKeyOf d.command.dispatchPair := by
  obtain ⟨_, -, -, -, hk⟩ := toBridgeCommand_eq_ok d.built
  rw [hk, dispatchKeyOf, Command.dispatchPair, d.idempotencyKey_command]

private theorem dispatchKey_eq_iff (d' : Dispatch) :
    d.dispatchKey = d'.dispatchKey ↔ d.command.dispatchPair = d'.command.dispatchPair := by
  rw [d.dispatchKey_eq, d'.dispatchKey_eq, dispatchKeyOf_injective.eq_iff]

private theorem operation_eq_of_action {d d' : Dispatch}
    (h : d.command.action.name = d'.command.action.name) :
    d.command.operation = d'.command.operation := by
  have hcancel := d.command_eq.2
  have hcancel' := d'.command_eq.2
  have hact : d.command.action = d'.command.action := by
    revert h
    cases d.command.action <;> cases d'.command.action <;> first | exact fun _ => rfl | decide
  cases hop : d.command.operation <;> cases hop' : d'.command.operation <;>
    simp_all

/-- A lifecycle event tells the dispatch key of the delivery it is about. -/
theorem dispatchKey_eq_of_lifecycleEvent {d d' : Dispatch} {now now' : String}
    {reply reply' : Except String BridgeResult}
    (h : lifecycleEvent now d.envelope d.command reply =
      lifecycleEvent now' d'.envelope d'.command reply') : d.dispatchKey = d'.dispatchKey := by
  have htype := congrArg Envelope.eventType h
  have hk := congrArg Envelope.idempotencyKey h
  have hact := congrArg (fun e : OrderEnvelope => e.payload.bind (·.action)) h
  simp only [lifecycleEvent, Option.some.injEq, Option.bind_some] at htype hk hact
  rw [htype] at hk
  have hlist := congrArg String.toList hk
  simp only [String.toList_append] at hlist
  have hkeys := String.toList_inj.mp (List.append_cancel_left hlist)
  rw [dispatchKey_eq_iff]
  simp only [Command.dispatchPair, idempotencyKey_command, hkeys, operation_eq_of_action hact]

end Dispatch

end OpenTrader.Execution
