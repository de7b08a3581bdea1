import Mathlib.Data.List.Perm.Subperm

/-!
# Durable queues and the custody of messages

Library `Base`. A first-in first-out queue with a dead-letter queue beside it, and a client that
gets one message at a time and says with the request what becomes of it. `Tracks` relates the
messages ever issued to those that are still somewhere.
-/

namespace OpenTrader.Base

variable {α : Type}

/-- What a client asks for when it gets a message: the message is acknowledged or rejected, and
put back in its place or not. -/
inductive AckMode where
  | ackRequeueTrue
  | ackRequeueFalse
  | rejectRequeueTrue
  | rejectRequeueFalse
  deriving DecidableEq

/-- A queue. Its dead letters are kept only when it has a dead-letter exchange. -/
structure DurableQueue (α : Type) where
  ready : List α := []
  deadLetters : List α := []
  deadLetterExchange : Bool := false

namespace DurableQueue

/-- The messages in the queue and in its dead-letter queue. -/
def contents (q : DurableQueue α) : List α := q.ready ++ q.deadLetters

/-- A message goes to the end. -/
def publish (q : DurableQueue α) (message : α) : DurableQueue α :=
  { q with ready := q.ready ++ [message] }

/-- The first message, and the queue after it was given out. -/
def get (mode : AckMode) (q : DurableQueue α) : Option α × DurableQueue α :=
  match q.ready with
  | [] => (none, q)
  | message :: rest =>
    (some message,
      match mode with
      | .ackRequeueTrue => q
      | .rejectRequeueTrue => q
      | .ackRequeueFalse => { q with ready := rest }
      | .rejectRequeueFalse =>
        { q with
          ready := rest
          deadLetters :=
            if q.deadLetterExchange then q.deadLetters ++ [message] else q.deadLetters })

/-- A publication adds its message. -/
theorem perm_contents_publish (q : DurableQueue α) (message : α) :
    (q.publish message).contents.Perm (message :: q.contents) := by
  simp only [contents, publish, List.append_assoc, List.singleton_append]
  exact List.perm_middle

/-- An empty queue gives nothing and stays as it is. -/
theorem get_of_empty {q : DurableQueue α} (h : q.ready = []) (mode : AckMode) :
    q.get mode = (none, q) := by
  simp only [get, h]

section

variable {q : DurableQueue α} {message : α} {rest : List α}

/-- What is given out is the first message. -/
theorem get_fst (h : q.ready = message :: rest) (mode : AckMode) :
    (q.get mode).1 = some message := by
  simp only [get, h]

/-- A message that is acknowledged and not put back leaves the queue. -/
theorem perm_cons_contents_get (h : q.ready = message :: rest) :
    q.contents.Perm (message :: (q.get .ackRequeueFalse).2.contents) := by
  simp only [get, h, contents, List.cons_append]
  rfl

end

end DurableQueue

/-! ### Custody -/

/-- No two of the issued messages are the same, and each is at most once among the located. -/
structure Tracks (issued located : List α) : Prop where
  nodup : issued.Nodup
  subperm : located.Subperm issued

namespace Tracks

variable {issued located located' : List α} {message : α}

/-- A new message is issued and located. -/
theorem issue (h : Tracks issued located) (hfresh : message ∉ issued)
    (hlocated : located'.Perm (message :: located)) : Tracks (issued ++ [message]) located' where
  nodup := by
    rw [List.nodup_append]
    refine ⟨h.nodup, by simp, ?_⟩
    intro a ha b hb heq
    rw [List.mem_singleton.mp hb] at heq
    exact hfresh (heq ▸ ha)
  subperm := by
    have hcons : (message :: located).Subperm (message :: issued) :=
      (List.subperm_cons message).mpr h.subperm
    have hend : (message :: issued).Perm (issued ++ [message]) :=
      (List.perm_append_singleton message issued).symm
    exact (hlocated.subperm.trans hcons).trans hend.subperm

/-- Messages that are moved stay located. -/
theorem move (h : Tracks issued located) (hlocated : located'.Perm located) :
    Tracks issued located' :=
  ⟨h.nodup, hlocated.subperm.trans h.subperm⟩

/-- A message that leaves the located ones was issued and is not among them any more. -/
theorem lose (h : Tracks issued located) (hlocated : located.Perm (message :: located')) :
    message ∈ issued ∧ message ∉ located' := by
  have hcons : (message :: located').Subperm issued := hlocated.symm.subperm.trans h.subperm
  have hnodup : (message :: located').Nodup := by
    obtain ⟨part, hperm, hsublist⟩ := hcons
    exact hperm.nodup (h.nodup.sublist hsublist)
  exact ⟨hcons.subset List.mem_cons_self, (List.nodup_cons.mp hnodup).1⟩

end Tracks

end OpenTrader.Base
