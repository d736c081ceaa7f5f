import SqlAccess.Connection.Basic

/-!
# Scripted connections

A connection that plays back prepared answers: each command takes the next reply, each batch the
next batch answer, and where the script has run out they succeed with nothing to show.
-/

namespace SqlAccess

structure ScriptedReply where
  delay : Option Duration
  failure : Option Error
  affected : Option Nat
  table : Option Table

structure ScriptedConnection where
  description : String
  state : ConnectionState
  replies : List ScriptedReply
  /-- the failures of the next batches; none for a batch that succeeds -/
  batches : List (Option Error)
  cancelFails : Bool

namespace ScriptedConnection

/-- The reply of a script that has run out. -/
def emptyReply : ScriptedReply := ⟨none, none, none, none⟩

/-- Takes the next reply, of which `result` is what it holds if it does not fail. -/
def play {α : Type} (c : ScriptedConnection) (result : ScriptedReply → α) :
    Pending α × ScriptedConnection :=
  let reply := c.replies.headD emptyReply
  let outcome :=
    match reply.failure with
    | some e => .error e
    | none => .ok (result reply)
  (⟨reply.delay, outcome⟩, { c with replies := c.replies.tail })

instance : Connection ScriptedConnection where
  description := (·.description)
  state := (·.state)
  connect c := (.ok (), { c with state := .open })
  disconnect c := (.ok (), { c with state := .closed })
  batch _ c :=
    let outcome :=
      match c.batches.head? with
      | some (some e) => .error e
      | _ => .ok ()
    (outcome, { c with batches := c.batches.tail })
  execute _ c := c.play fun reply => reply.affected.getD 1
  query _ c := c.play fun reply => reply.table.getD (.empty [])
  cancel c :=
    (if c.cancelFails then .error (.connection "cancel refused") else .ok (), c)

end ScriptedConnection

end SqlAccess
