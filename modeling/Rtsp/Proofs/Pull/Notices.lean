import Rtsp.Pull.Source

/-!
What the owner of a source is told. Some notices are about the life of the source: the states that
it enters, and the fault that ends it. While a session plays there are none of these: whatever
happens to it, the owner is told of packets and at last that the session is over.
-/
namespace Rtsp.Pull

def Notice.state? : Notice → Option Lifecycle.State
  | .state s => some s
  | _ => none

def Notice.fault? : Notice → Option Fault
  | .fault f => some f
  | _ => none

/-- The states that were published, in order. -/
def statesOf (ns : List Notice) : List Lifecycle.State := ns.filterMap Notice.state?

/-- The faults that the owner was told of, in order. -/
def faultsOf (ns : List Notice) : List Fault := ns.filterMap Notice.fault?

/-- Not about the life of the source. -/
def Notice.Quiet (n : Notice) : Prop := n.state? = none ∧ n.fault? = none

theorem statesOf_append (a b : List Notice) : statesOf (a ++ b) = statesOf a ++ statesOf b :=
  List.filterMap_append

theorem faultsOf_append (a b : List Notice) : faultsOf (a ++ b) = faultsOf a ++ faultsOf b :=
  List.filterMap_append

theorem statesOf_quiet {ns : List Notice} (h : ∀ n ∈ ns, n.Quiet) : statesOf ns = [] :=
  List.filterMap_eq_nil_iff.mpr fun n hn => (h n hn).1

theorem faultsOf_quiet {ns : List Notice} (h : ∀ n ∈ ns, n.Quiet) : faultsOf ns = [] :=
  List.filterMap_eq_nil_iff.mpr fun n hn => (h n hn).2

namespace Playing

def Quiet (p : Playing) : Prop := ∀ n ∈ p.notices, n.Quiet

variable {p : Playing}

theorem Quiet.of_notices_eq {p' : Playing} (hp : p.Quiet) (h : p'.notices = p.notices) :
    p'.Quiet := by
  unfold Quiet
  rw [h]
  exact hp

theorem Quiet.move (hp : p.Quiet) (f : Relay → Relay) : (p.move f).Quiet := by
  intro n hn
  rcases List.mem_append.mp hn with hn | hn
  · exact hp n hn
  · obtain ⟨packet, -, rfl⟩ := List.mem_map.mp hn
    exact ⟨rfl, rfl⟩

theorem Quiet.route (hp : p.Quiet) (f : Frame) : (p.route f).Quiet := by
  unfold Playing.route
  split
  · exact hp.move _
  · exact hp

theorem Quiet.receive (hp : p.Quiet) (m : Message) : (p.receive m).2.Quiet := by
  cases m with
  | frame f => exact hp.route f
  | request r => exact hp
  | response r => exact hp

theorem Quiet.turn (hp : p.Quiet) (settings : Settings) (idle : Bool) :
    (p.turn settings idle).2.Quiet := by
  unfold Playing.turn
  split
  · exact hp
  split
  · exact hp
  split
  · exact hp
  · exact hp
  · rename_i m c _
    have hmoved : Playing.Quiet { p with connection := c } := hp
    have hm := hmoved.receive m
    split
    · rename_i hreceive
      rw [hreceive] at hm
      exact hm
    · rename_i hreceive
      rw [hreceive] at hm
      exact hm

theorem notices_reportFrom (ssrc : UInt32) (tracks : List Session.Track) (p : Playing) :
    (reportFrom ssrc tracks p).notices = p.notices := by
  induction tracks generalizing p with
  | nil => rfl
  | cons t rest ih =>
    unfold reportFrom
    split
    · exact ih p
    · split
      · exact ih _
      · rfl

theorem notices_ping (p : Playing) : p.ping.notices = p.notices := by
  unfold ping
  split <;> rfl

theorem Quiet.datagram (hp : p.Quiet) (medium : Nat) (kind : Packet.Kind) (payload : Bytes) :
    (p.datagram medium kind payload).Quiet := by
  unfold Playing.datagram
  split
  · exact hp.move _
  · exact hp

/-- No event tells of anything but packets. -/
theorem Quiet.step (hp : p.Quiet) (settings : Settings) (e : Event) :
    (p.step settings e).2.Quiet := by
  cases e with
  | turn idle => exact hp.turn settings idle
  | datagram medium kind payload => exact hp.datagram medium kind payload
  | take => exact hp.move Relay.take
  | release => exact hp.move Relay.release
  | report ssrc => exact hp.of_notices_eq (notices_reportFrom ssrc p.session.tracks p)
  | ping => exact hp.of_notices_eq (notices_ping p)
  | fault f => exact hp
  | cancel => exact hp

theorem Quiet.wind (hp : p.Quiet) (settings : Settings) (e : Event) : (p.wind settings e).Quiet := by
  cases e with
  | turn idle => exact hp
  | _ => exact hp.step settings _

theorem Quiet.foldl_wind (hp : p.Quiet) (settings : Settings) (events : List Event) :
    (events.foldl (Playing.wind settings) p).Quiet := by
  induction events generalizing p with
  | nil => exact hp
  | cons e rest ih => exact ih (hp.wind settings e)

theorem Quiet.run (hp : p.Quiet) (settings : Settings) (events : List Event) :
    (p.run settings events).2.Quiet := by
  induction events generalizing p with
  | nil => exact hp
  | cons e rest ih =>
    have hstep := hp.step settings e
    unfold Playing.run
    split
    · rename_i h p' heq
      rw [heq] at hstep
      exact hstep.foldl_wind settings rest
    · rename_i p' heq
      rw [heq] at hstep
      exact ih hstep

theorem quiet_start (settings : Settings) (session : Session) (ports : List Handshake.Pair)
    (connection : Connection) : (start settings session ports connection).Quiet := by
  have hfold : ∀ (early : List Frame) (p : Playing), p.Quiet → (early.foldl route p).Quiet := by
    intro early
    induction early with
    | nil => exact fun p hp => hp
    | cons f rest ih => exact fun p hp => ih _ (hp.route f)
  exact hfold _ _ fun n hn => absurd hn List.not_mem_nil

theorem Quiet.close (hp : p.Quiet) : p.close.Quiet := by
  intro n hn
  rcases List.mem_append.mp hn with hn | hn
  · exact Quiet.move (p := { p with connection := _ }) hp Relay.close n hn
  · rw [List.mem_singleton.mp hn]
    exact ⟨rfl, rfl⟩

end Playing

end Rtsp.Pull
