import Dataflow.Call
import Dataflow.Store

/-!
# The call queue

Pending calls wait in the order in which they were made. A call is eligible when none of the
variables it is bound to is reserved and all its inputs are ready; `eligible` looks at the
bindings in order and stops at the first that rules the call out. A scan passes over ineligible
calls to the first eligible one, and tells an empty queue from one in which nothing can run.
-/

set_option autoImplicit false

namespace Dataflow

/-- Whether the bindings of a call allow it to run now. -/
def eligibleBindings (store : Store) : List Binding → Except Fault Bool
  | [] => .ok true
  | b :: rest =>
    match store.get b.name with
    | .error fault => .error fault
    | .ok v =>
      if v.bound then .ok false
      else if b.direction = .input ∧ v.ready = false then .ok false
      else eligibleBindings store rest

/-- Whether a call can run now. -/
def PendingCall.eligible (call : PendingCall) (store : Store) : Except Fault Bool :=
  eligibleBindings store call.bindings

/-- The calls that wait, oldest first. -/
abbrev Queue := List PendingCall

/-- What a scan of the queue finds. -/
inductive Scan where
  /-- Nothing is queued. -/
  | empty
  /-- Calls are queued and none can run. -/
  | stuck
  /-- The first call that can run, and its place. -/
  | runnable (index : Nat) (call : PendingCall)
  deriving DecidableEq, Repr

/-- A scan with the calls it passed over, in order; checking a call may fault. -/
structure Survey where
  skipped : List PendingCall
  found : Except Fault Scan
  deriving Repr

namespace Queue

/-- Appends a call. -/
def enqueue (queue : Queue) (call : PendingCall) : Queue :=
  queue ++ [call]

/-- Scans the part of a queue that starts at `index`, where `whenNone` is what a scan without an
eligible call finds. -/
def surveyFrom (store : Store) (whenNone : Scan) (index : Nat) : Queue → Survey
  | [] => ⟨[], .ok whenNone⟩
  | call :: rest =>
    match call.eligible store with
    | .error fault => ⟨[], .error fault⟩
    | .ok true => ⟨[], .ok (.runnable index call)⟩
    | .ok false =>
      let survey := surveyFrom store whenNone (index + 1) rest
      ⟨call :: survey.skipped, survey.found⟩

/-- Scans a queue. -/
def survey (queue : Queue) (store : Store) : Survey :=
  surveyFrom store (if queue.isEmpty then .empty else .stuck) 0 queue

/-- What a scan finds, the queue staying as it is. -/
def select (queue : Queue) (store : Store) : Except Fault Scan :=
  (queue.survey store).found

/-- The queue without the call that a scan found. -/
def remove (queue : Queue) : Scan → Queue
  | .runnable index _ => queue.eraseIdx index
  | _ => queue

end Queue

end Dataflow
