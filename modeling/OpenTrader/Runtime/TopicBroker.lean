import Mathlib.Data.List.Dedup
import Mathlib.Data.List.Sort
import Mathlib.Data.Rat.Defs
import Mathlib.Data.String.Basic
import OpenTrader.Base.Dict
import OpenTrader.Base.Topic
import OpenTrader.Base.Trace

/-!
# The in-memory topic broker

Library `Runtime`. `services/shared/runtime/broker.py:22-142`. Queues are unbounded, so that a put
never waits. Messages are of any type: the broker copies them and looks at none.
-/

namespace OpenTrader.Runtime
open Base

/-! ### Topics -/

/-- `text.split(".")`. -/
def splitDots (text : String) : List String := (text.toList.splitOn '.').map String.ofList

/-- `_match_tokens`; `broker.py:123-142`. -/
def matchTokens (patternTokens routingTokens : List String) : Bool :=
  Topic.matchTokens "*" "#" patternTokens routingTokens

/-- `_topic_matches`; `broker.py:117-120`. -/
def topicMatches (pattern routingKey : String) : Bool :=
  matchTokens (splitDots pattern) (splitDots routingKey)

/-- The tokens of the routing key split into pieces that those of the pattern stand for: `*` for
exactly one token, `#` for any number of them, any other token for itself. -/
def TopicMatches (pattern routingKey : String) : Prop :=
  Topic.Matches "*" "#" (splitDots pattern) (splitDots routingKey)

/-! ### The broker -/

/-- The exceptions of the broker. -/
inductive BrokerError where
  | configuration (message : String)
  | keyError (queueName : String)
  deriving DecidableEq

/-- `PublishedMessage`. -/
structure PublishedMessage (M : Type) where
  queue : String
  routingKey : String
  message : M
  deriving DecidableEq

/-- `InMemoryTopicBroker`: the messages of each queue, the first one first, and the queues bound to
each pattern. -/
structure TopicBroker (M : Type) where
  queues : Dict String (List M) := Dict.empty
  bindings : Dict String (List String) := Dict.empty

namespace TopicBroker

variable {M : Type} (b : TopicBroker M)

variable (routingKey queueName : String)

/-- `declare_queue`; `broker.py:46-49`. -/
def declareQueue : Except BrokerError Unit × TopicBroker M :=
  if queueName = "" then (.error (.configuration "queue_name must be non-empty"), b)
  else
    (.ok (), { b with queues := b.queues.set queueName ((b.queues.get? queueName).getD []) })

/-- `bind_queue`; `broker.py:51-55`. -/
def bindQueue : Except BrokerError Unit × TopicBroker M :=
  if routingKey = "" then (.error (.configuration "routing_key must be non-empty"), b)
  else
    match b.declareQueue queueName with
    | (.error error, b) => (.error error, b)
    | (.ok (), b) =>
      let bound := (b.bindings.get? routingKey).getD []
      (.ok (), { b with bindings := b.bindings.set routingKey (bound.insert queueName) })

/-- `_resolve_queues`; `broker.py:106-114`. -/
def resolveQueues : List String :=
  let bound := (b.bindings.entries.filter fun e => topicMatches e.1 routingKey).flatMap (·.2)
  let queues := if (b.queues.get? routingKey).isSome then bound ++ [routingKey] else bound
  queues.dedup.insertionSort (· ≤ ·)

/-- The loop over the target queues; `broker.py:63-69`. -/
def deliver (routingKey : String) (message : M) :
    List String → TopicBroker M → Except BrokerError (List (PublishedMessage M)) × TopicBroker M
  | [], b => (.ok [], b)
  | queueName :: targets, b =>
    match b.queues.get? queueName with
    | none => (.error (.keyError queueName), b)
    | some messages =>
      let (published, b) := deliver routingKey message targets
        { b with queues := b.queues.set queueName (messages ++ [message]) }
      (published.map (⟨queueName, routingKey, message⟩ :: ·), b)

/-- `publish`; `broker.py:57-70`. A message that is no `dict` is `none`. -/
def publish (message : Option M) : Except BrokerError (List (PublishedMessage M)) × TopicBroker M :=
  match message with
  | none => (.error (.configuration "message must be a dict"), b)
  | some message => deliver routingKey message (b.resolveQueues routingKey) b

/-- What `consume` answers: a message, none in time, or nothing yet. -/
inductive Consumed (M : Type) where
  | message (message : M)
  | timedOut
  | waiting
  deriving DecidableEq

/-- `consume`; `broker.py:72-88`. A call whose wait ends with a message is one that comes when the
message is there. -/
def consume (timeoutSeconds : Option ℚ) : Except BrokerError (Consumed M) × TopicBroker M :=
  match b.queues.get? queueName with
  | none => (.error (.configuration ("queue not declared: " ++ queueName)), b)
  | some (message :: messages) =>
    (.ok (.message message), { b with queues := b.queues.set queueName messages })
  | some [] => (.ok (if timeoutSeconds = none then .waiting else .timedOut), b)

/-- `drain`; `broker.py:96-104`. -/
def drain : Except BrokerError (List M) × TopicBroker M :=
  match b.queues.get? queueName with
  | none => (.error (.configuration ("queue not declared: " ++ queueName)), b)
  | some messages => (.ok messages, { b with queues := b.queues.set queueName [] })

/-- The messages in a queue, none when it is not declared. -/
def contents : List M := (b.queues.get? queueName).getD []

end TopicBroker

/-- A call of the broker. -/
inductive BrokerCall (M : Type) where
  | declare (queueName : String)
  | bind (routingKey queueName : String)
  | publish (routingKey : String) (message : Option M)
  | consume (queueName : String) (timeoutSeconds : Option ℚ)
  | drain (queueName : String)

namespace BrokerCall

variable {M : Type}

/-- The broker after a call. -/
def perform (b : TopicBroker M) : BrokerCall M → TopicBroker M
  | .declare queueName => (b.declareQueue queueName).2
  | .bind routingKey queueName => (b.bindQueue routingKey queueName).2
  | .publish routingKey message => (b.publish routingKey message).2
  | .consume queueName timeoutSeconds => (b.consume queueName timeoutSeconds).2
  | .drain queueName => (b.drain queueName).2

/-- The messages that a call takes out of a queue and answers with. -/
def takes (b : TopicBroker M) (queueName : String) : BrokerCall M → List M
  | .consume name timeoutSeconds =>
    if name = queueName then
      match (b.consume name timeoutSeconds).1 with
      | .ok (.message message) => [message]
      | _ => []
    else []
  | .drain name =>
    if name = queueName then
      match (b.drain name).1 with
      | .ok messages => messages
      | .error _ => []
    else []
  | _ => []

/-- The messages that calls take out of a queue, in order. -/
def taken (queueName : String) : TopicBroker M → List (BrokerCall M) → List M
  | _, [] => []
  | b, call :: calls => call.takes b queueName ++ taken queueName (call.perform b) calls

end BrokerCall

/-! ### What a queue is due -/

section

variable {M : Type}

variable (calls : List (BrokerCall M)) (queueName : String)

/-- The calls have declared the queue, by itself or with a binding. -/
def DeclaredBy : Prop :=
  queueName ≠ "" ∧ ∃ call ∈ calls,
    call = .declare queueName ∨ ∃ routingKey, routingKey ≠ "" ∧ call = .bind routingKey queueName

/-- The calls have bound the queue to the pattern. -/
def BoundBy (pattern queueName : String) : Prop :=
  pattern ≠ "" ∧ queueName ≠ "" ∧ .bind pattern queueName ∈ calls

/-- After the calls a message with this routing key is due to the queue: the queue is declared, and
the key is its name or matches a pattern bound to it. -/
def DueAfter (routingKey : String) : Prop :=
  DeclaredBy calls queueName ∧
    (routingKey = queueName ∨
      ∃ pattern, BoundBy calls pattern queueName ∧ TopicMatches pattern routingKey)

open Classical in
/-- The messages that later calls publish and that are due to the queue, each once. -/
noncomputable def due (queueName : String) : List (BrokerCall M) → List (BrokerCall M) → List M
  | _, [] => []
  | before, call :: calls =>
    (match call with
      | .publish routingKey (some message) =>
        if DueAfter before queueName routingKey then [message] else []
      | _ => []) ++ due queueName (before ++ [call]) calls

/-- What a broker knows of the calls before: which queues they declared and bound. -/
structure Knows (before : List (BrokerCall M)) (b : TopicBroker M) : Prop where
  declared : ∀ queueName, (b.queues.get? queueName).isSome = true ↔ DeclaredBy before queueName
  bound : ∀ pattern queueName,
    queueName ∈ (b.bindings.get? pattern).getD [] ↔ BoundBy before pattern queueName

/-- A bound queue is declared. -/
theorem BoundBy.declaredBy {calls : List (BrokerCall M)} {pattern queueName : String}
    (h : BoundBy calls pattern queueName) : DeclaredBy calls queueName :=
  ⟨h.2.1, _, h.2.2, .inr ⟨pattern, h.1, rfl⟩⟩

variable {call : BrokerCall M}

private theorem declaredBy_concat {before : List (BrokerCall M)} {queueName : String} :
    DeclaredBy (before ++ [call]) queueName ↔ DeclaredBy before queueName ∨
      queueName ≠ "" ∧ (call = .declare queueName ∨
        ∃ routingKey, routingKey ≠ "" ∧ call = .bind routingKey queueName) := by
  simp only [DeclaredBy, List.mem_append, List.mem_singleton, or_and_right, exists_or,
    exists_eq_left, ← and_or_left]

private theorem boundBy_concat {before : List (BrokerCall M)} {pattern queueName : String} :
    BoundBy (before ++ [call]) pattern queueName ↔ BoundBy before pattern queueName ∨
      pattern ≠ "" ∧ queueName ≠ "" ∧ call = .bind pattern queueName := by
  simp only [BoundBy, List.mem_append, List.mem_singleton, and_or_left,
    eq_comm (b := BrokerCall.bind pattern queueName)]

private theorem knows_empty : Knows [] ({} : TopicBroker M) where
  declared queueName := by simp [DeclaredBy]
  bound pattern queueName := by simp [BoundBy]

/-! ### One call -/

variable {before : List (BrokerCall M)} {b : TopicBroker M}

private theorem declareQueue_spec (b : TopicBroker M) (name queueName : String) :
    (((b.declareQueue name).2.queues.get? queueName).isSome = true ↔
        (b.queues.get? queueName).isSome = true ∨ name ≠ "" ∧ name = queueName) ∧
      (b.declareQueue name).2.contents queueName = b.contents queueName ∧
      (b.declareQueue name).2.bindings = b.bindings := by
  unfold TopicBroker.declareQueue TopicBroker.contents
  by_cases hname : name = ""
  · simp [hname]
  · simp only [hname, if_false, Dict.get?_set]
    by_cases hqueue : name = queueName
    · subst hqueue
      simp [hname]
    · simp [hqueue]

private theorem bindQueue_spec (b : TopicBroker M) (routingKey name queueName : String) :
    (((b.bindQueue routingKey name).2.queues.get? queueName).isSome = true ↔
        (b.queues.get? queueName).isSome = true ∨
          routingKey ≠ "" ∧ name ≠ "" ∧ name = queueName) ∧
      (b.bindQueue routingKey name).2.contents queueName = b.contents queueName ∧
      ∀ pattern, queueName ∈ ((b.bindQueue routingKey name).2.bindings.get? pattern).getD [] ↔
        queueName ∈ (b.bindings.get? pattern).getD [] ∨
          routingKey ≠ "" ∧ name ≠ "" ∧ name = queueName ∧ pattern = routingKey := by
  obtain ⟨hdeclared, hcontents, hbindings⟩ := declareQueue_spec b name queueName
  unfold TopicBroker.bindQueue
  by_cases hk : routingKey = ""
  · simp [hk]
  · rw [if_neg hk]
    by_cases hname : name = ""
    · have hfails : b.declareQueue name =
          (.error (.configuration "queue_name must be non-empty"), b) := if_pos hname
      simp only [hfails]
      simp [hname]
    · have hok : b.declareQueue name = (.ok (), (b.declareQueue name).2) := by
        simp only [TopicBroker.declareQueue, hname, if_false]
      rw [hok]
      refine ⟨?_, hcontents, ?_⟩
      · rw [hdeclared]
        simp [hk]
      · intro pattern
        simp only [hbindings, Dict.get?_set]
        by_cases hpattern : routingKey = pattern
        · subst hpattern
          simp only [if_true, Option.getD_some, List.mem_insert_iff, ne_eq, hk, hname,
            not_false_eq_true, true_and, and_true, eq_comm (a := queueName)]
          exact or_comm
        · simp [hpattern, Ne.symm hpattern]

private theorem deliver_spec (routingKey : String) (message : M) {targets : List String}
    (hnodup : targets.Nodup) (hdeclared : ∀ name ∈ targets, (b.queues.get? name).isSome = true) :
    let b' := (TopicBroker.deliver routingKey message targets b).2
    (∀ queueName, (b'.queues.get? queueName).isSome = (b.queues.get? queueName).isSome ∧
        b'.contents queueName =
          b.contents queueName ++ if queueName ∈ targets then [message] else []) ∧
      b'.bindings = b.bindings := by
  induction targets generalizing b with
  | nil => simp [TopicBroker.deliver]
  | cons name targets ih =>
    obtain ⟨hnew, hnodup⟩ := List.nodup_cons.mp hnodup
    obtain ⟨messages, hmessages⟩ := Option.isSome_iff_exists.mp (hdeclared name (by simp))
    have hkept (queueName : String) :
        ((b.queues.set name (messages ++ [message])).get? queueName).isSome =
          (b.queues.get? queueName).isSome := by
      rw [Dict.get?_set]
      split
      · next h => rw [← h, hmessages]; rfl
      · rfl
    obtain ⟨hrest, hbindings⟩ := @ih { b with queues := b.queues.set name (messages ++ [message]) }
      hnodup fun other hother => by
        rw [hkept]
        exact hdeclared other (List.mem_cons_of_mem name hother)
    simp only [TopicBroker.deliver, hmessages]
    refine ⟨fun queueName => ?_, hbindings⟩
    obtain ⟨hsome, hcontents⟩ := hrest queueName
    refine ⟨hsome.trans (hkept queueName), hcontents.trans ?_⟩
    simp only [TopicBroker.contents, Dict.get?_set, List.mem_cons]
    by_cases hqueue : name = queueName
    · subst hqueue
      simp [hmessages, hnew]
    · simp [hqueue, Ne.symm hqueue]

private theorem mem_boundQueues_iff (h : Knows before b) (routingKey queueName : String) :
    queueName ∈ (b.bindings.entries.filter fun e => topicMatches e.1 routingKey).flatMap (·.2) ↔
      ∃ pattern, BoundBy before pattern queueName ∧ TopicMatches pattern routingKey := by
  have hmatch (pattern : String) : topicMatches pattern routingKey = true ↔
      TopicMatches pattern routingKey := Topic.matchTokens_iff _ _ _ _
  simp only [List.mem_flatMap, List.mem_filter, hmatch]
  constructor
  · rintro ⟨⟨pattern, bound⟩, ⟨hent, htopic⟩, hm⟩
    refine ⟨pattern, (h.bound pattern queueName).mp ?_, htopic⟩
    rw [(b.bindings.get?_eq_some_iff pattern bound).mpr hent]
    exact hm
  · rintro ⟨pattern, hbound, htopic⟩
    have hm := (h.bound pattern queueName).mpr hbound
    cases hg : b.bindings.get? pattern with
    | none =>
      rw [hg] at hm
      cases hm
    | some bound =>
      rw [hg] at hm
      have hent := (b.bindings.get?_eq_some_iff pattern bound).mp hg
      exact ⟨(pattern, bound), ⟨hent, htopic⟩, hm⟩

private theorem resolveQueues_spec (h : Knows before b) (routingKey : String) :
    (b.resolveQueues routingKey).Nodup ∧
      ∀ queueName, queueName ∈ b.resolveQueues routingKey ↔
        DueAfter before queueName routingKey := by
  have hbound := fun queueName => mem_boundQueues_iff h routingKey queueName
  unfold TopicBroker.resolveQueues
  refine ⟨?_, fun queueName => ?_⟩
  · exact (List.perm_insertionSort _ _).nodup_iff.mpr (List.nodup_dedup _)
  · rw [(List.perm_insertionSort _ _).mem_iff, List.mem_dedup, DueAfter]
    have hbounds : (∃ pattern, BoundBy before pattern queueName ∧
        TopicMatches pattern routingKey) → DeclaredBy before queueName :=
      fun ⟨_, hbound, _⟩ => hbound.declaredBy
    split
    · next hsome =>
      rw [h.declared] at hsome
      rw [List.mem_append, hbound, List.mem_singleton]
      constructor
      · rintro (hm | rfl)
        · exact ⟨hbounds hm, .inr hm⟩
        · exact ⟨hsome, .inl rfl⟩
      · rintro ⟨-, rfl | hm⟩
        · exact .inr rfl
        · exact .inl hm
    · next hn =>
      rw [h.declared] at hn
      rw [hbound]
      constructor
      · exact fun hm => ⟨hbounds hm, .inr hm⟩
      · rintro ⟨hdeclared, rfl | hm⟩
        · exact absurd hdeclared hn
        · exact hm

private theorem Knows.of_queues {b' : TopicBroker M} (h : Knows before b)
    (hdeclare : ∀ queueName, call ≠ .declare queueName)
    (hbind : ∀ routingKey queueName, call ≠ .bind routingKey queueName)
    (hqueues : ∀ queueName,
      (b'.queues.get? queueName).isSome = (b.queues.get? queueName).isSome)
    (hbindings : b'.bindings = b.bindings) : Knows (before ++ [call]) b' where
  declared queueName := by
    rw [hqueues, h.declared, declaredBy_concat]
    simp [hdeclare, hbind]
  bound pattern queueName := by
    rw [hbindings, h.bound, boundBy_concat]
    simp [hbind]

private def Removes (b : TopicBroker M) (call : BrokerCall M) : Prop :=
  (call.perform b = b ∧ ∀ queueName, call.takes b queueName = []) ∨
    ∃ name removed rest, b.queues.get? name = some (removed ++ rest) ∧
      call.perform b = { b with queues := b.queues.set name rest } ∧
      ∀ queueName, call.takes b queueName = if name = queueName then removed else []

private theorem removes_consume (b : TopicBroker M) (name : String) (timeoutSeconds : Option ℚ) :
    Removes b (.consume name timeoutSeconds) := by
  cases hg : b.queues.get? name with
  | none => exact .inl (by simp [BrokerCall.perform, BrokerCall.takes, TopicBroker.consume, hg])
  | some messages =>
    cases messages with
    | nil =>
      left
      by_cases htimeout : timeoutSeconds = none
      all_goals
        simp [BrokerCall.perform, BrokerCall.takes, TopicBroker.consume, hg, htimeout]
    | cons message messages =>
      exact .inr ⟨name, [message], messages, hg,
        by simp [BrokerCall.perform, TopicBroker.consume, hg],
        by simp [BrokerCall.takes, TopicBroker.consume, hg]⟩

private theorem removes_drain (b : TopicBroker M) (name : String) : Removes b (.drain name) := by
  cases hg : b.queues.get? name with
  | none => exact .inl (by simp [BrokerCall.perform, BrokerCall.takes, TopicBroker.drain, hg])
  | some messages =>
    exact .inr ⟨name, messages, [], by simp [hg],
      by simp [BrokerCall.perform, TopicBroker.drain, hg],
      by simp [BrokerCall.takes, TopicBroker.drain, hg]⟩

private theorem Removes.queues (h : Removes b call) :
    (∀ queueName, ((call.perform b).queues.get? queueName).isSome =
        (b.queues.get? queueName).isSome) ∧
      (call.perform b).bindings = b.bindings := by
  rcases h with ⟨hperform, -⟩ | ⟨name, removed, rest, hg, hperform, -⟩
  · simp [hperform]
  · rw [hperform]
    refine ⟨fun queueName => ?_, rfl⟩
    rw [Dict.get?_set]
    split
    · next hqueue => rw [← hqueue, hg]; rfl
    · rfl

private theorem Removes.takes_append (h : Removes b call) (queueName : String) :
    call.takes b queueName ++ (call.perform b).contents queueName = b.contents queueName := by
  rcases h with ⟨hperform, htakes⟩ | ⟨name, removed, rest, hg, hperform, htakes⟩
  · simp [hperform, htakes]
  · rw [hperform, htakes, TopicBroker.contents, TopicBroker.contents, Dict.get?_set]
    split
    · next hqueue => simp [← hqueue, hg]
    · rfl

private theorem knows_perform (h : Knows before b) (call : BrokerCall M) :
    Knows (before ++ [call]) (call.perform b) := by
  cases call with
  | declare name =>
    refine ⟨fun queueName => ?_, fun pattern queueName => ?_⟩
    · rw [BrokerCall.perform, (declareQueue_spec b name queueName).1, h.declared,
        declaredBy_concat]
      grind
    · rw [BrokerCall.perform, (declareQueue_spec b name queueName).2.2, h.bound, boundBy_concat]
      simp
  | bind routingKey name =>
    refine ⟨fun queueName => ?_, fun pattern queueName => ?_⟩
    · rw [BrokerCall.perform, (bindQueue_spec b routingKey name queueName).1, h.declared,
        declaredBy_concat]
      refine or_congr_right ⟨?_, ?_⟩
      · rintro ⟨hk, hname, rfl⟩
        exact ⟨hname, .inr ⟨routingKey, hk, rfl⟩⟩
      · rintro ⟨hname, hcall | ⟨_, hk, hcall⟩⟩
        all_goals cases hcall
        exact ⟨hk, hname, rfl⟩
    · rw [BrokerCall.perform, (bindQueue_spec b routingKey name queueName).2.2, h.bound,
        boundBy_concat]
      grind
  | publish routingKey message =>
    cases message with
    | none => exact h.of_queues (by simp) (by simp) (fun _ => rfl) rfl
    | some message =>
      obtain ⟨hnodup, hm⟩ := resolveQueues_spec h routingKey
      obtain ⟨hqueues, hbindings⟩ := deliver_spec routingKey message hnodup
        fun name hname => (h.declared name).mpr ((hm name).mp hname).1
      exact h.of_queues (by simp) (by simp) (fun queueName => (hqueues queueName).1) hbindings
  | consume name timeoutSeconds =>
    obtain ⟨hqueues, hbindings⟩ := (removes_consume b name timeoutSeconds).queues
    exact h.of_queues (by simp) (by simp) hqueues hbindings
  | drain name =>
    obtain ⟨hqueues, hbindings⟩ := (removes_drain b name).queues
    exact h.of_queues (by simp) (by simp) hqueues hbindings

private theorem due_cons (before : List (BrokerCall M)) (call : BrokerCall M)
    (calls : List (BrokerCall M)) :
    due queueName before (call :: calls) =
      due queueName before [call] ++ due queueName (before ++ [call]) calls := by
  simp only [due, List.append_nil]

private theorem takes_append_contents (h : Knows before b) (queueName : String)
    (call : BrokerCall M) :
    call.takes b queueName ++ (call.perform b).contents queueName =
      b.contents queueName ++ due queueName before [call] := by
  cases call with
  | declare name =>
    simp [BrokerCall.takes, BrokerCall.perform, due, (declareQueue_spec b name queueName).2.1]
  | bind routingKey name =>
    simp [BrokerCall.takes, BrokerCall.perform, due,
      (bindQueue_spec b routingKey name queueName).2.1]
  | publish routingKey message =>
    cases message with
    | none => simp [BrokerCall.takes, BrokerCall.perform, TopicBroker.publish, due]
    | some message =>
      obtain ⟨hnodup, hm⟩ := resolveQueues_spec h routingKey
      have hdeliver := (deliver_spec routingKey message hnodup
        fun name hname => (h.declared name).mpr ((hm name).mp hname).1).1 queueName
      simp only [BrokerCall.takes, BrokerCall.perform, TopicBroker.publish, due, List.nil_append,
        List.append_nil, hdeliver.2]
      by_cases hdue : DueAfter before queueName routingKey
      · rw [if_pos hdue, if_pos ((hm queueName).mpr hdue)]
      · rw [if_neg hdue, if_neg (mt (hm queueName).mp hdue)]
  | consume name timeoutSeconds =>
    rw [(removes_consume b name timeoutSeconds).takes_append]
    simp [due]
  | drain name =>
    rw [(removes_drain b name).takes_append]
    simp [due]

/-! ### Every run -/

private theorem taken_append_contents (calls : List (BrokerCall M)) (h : Knows before b) :
    BrokerCall.taken queueName b calls ++ (run BrokerCall.perform b calls).contents queueName =
      b.contents queueName ++ due queueName before calls := by
  induction calls generalizing before b with
  | nil => simp [BrokerCall.taken, due]
  | cons call calls ih =>
    calc BrokerCall.taken queueName b (call :: calls) ++
          (run BrokerCall.perform b (call :: calls)).contents queueName
        = call.takes b queueName ++ (BrokerCall.taken queueName (call.perform b) calls ++
            (run BrokerCall.perform (call.perform b) calls).contents queueName) := by
          simp [BrokerCall.taken]
      _ = call.takes b queueName ++ (call.perform b).contents queueName ++
            due queueName (before ++ [call]) calls := by
          rw [ih (knows_perform h call), List.append_assoc]
      _ = b.contents queueName ++ due queueName before (call :: calls) := by
          rw [takes_append_contents h, List.append_assoc, ← due_cons]

/-- In every run of the broker the messages taken out of a queue, followed by those still in it, are
the messages published to it, in order and each once: those whose key, when they were published,
was the queue's name or matched a pattern bound to it. -/
theorem broker_delivers (queueName : String) (calls : List (BrokerCall M)) :
    BrokerCall.taken queueName {} calls ++
        (run BrokerCall.perform ({} : TopicBroker M) calls).contents queueName =
      due queueName [] calls :=
  taken_append_contents queueName calls knows_empty

end

end OpenTrader.Runtime
