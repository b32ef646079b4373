import Rtsp.Packet

/-!
Packets on their way to the owner of a source. Whoever receives one pushes it into a bounded queue
and never waits: a packet that finds the queue full is dropped. One delivery takes packets from
the head of the queue and holds each until the owner is done with it. After a cancellation what
is still in the queue is discarded when its turn comes.

A queue without room hands a packet over only while the delivery waits for one.
-/
namespace Rtsp

structure Relay where
  capacity : Nat
  queue : List Packet
  held : Option Packet
  given : List Packet
  relayed : Nat
  dropped : Nat
  touched : Bool
  cancelled : Bool
  deriving DecidableEq, Repr

namespace Relay

def start (capacity : Nat) : Relay := ⟨capacity, [], none, [], 0, 0, false, false⟩

/-- The owner is given a packet, unless there is to be no more. -/
def give (r : Relay) (p : Packet) : Relay :=
  if r.cancelled then r else { r with held := some p, given := r.given ++ [p] }

def push (r : Relay) (p : Packet) : Relay :=
  let r := { r with touched := true }
  if r.queue.length < r.capacity then { r with queue := r.queue ++ [p] }
  else if r.capacity = 0 ∧ r.held = none then r.give p
  else { r with dropped := r.dropped + 1 }

/-- A free delivery takes the head of the queue. -/
def take (r : Relay) : Relay :=
  match r.held, r.queue with
  | none, p :: rest => { r with queue := rest }.give p
  | _, _ => r

/-- The owner is done with a packet. -/
def release (r : Relay) : Relay :=
  match r.held with
  | some _ => { r with held := none, relayed := r.relayed + 1 }
  | none => r

def cancel (r : Relay) : Relay := { r with cancelled := true }

/-- The delivery goes on until it holds a packet or none is left. -/
def settle (r : Relay) : Relay := (List.range r.queue.length).foldl (fun r _ => r.take) r

/-- Nobody pushes any more, and the owner is done with packet after packet. -/
def close (r : Relay) : Relay :=
  (List.range (r.queue.length + 1)).foldl (fun r _ => r.settle.release) r

end Relay

end Rtsp
