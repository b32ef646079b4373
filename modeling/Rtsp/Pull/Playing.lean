import Rtsp.Connection
import Rtsp.Handshake
import Rtsp.Relay
import Rtsp.Supervisor

/-!
A session that plays. Frames on its channels and datagrams at its ports go through a relay to the
owner, requests of the server are answered, and the server is shown signs of life. It lasts until
something fails, until there has been silence for too long, or until it is cancelled; then what is
still in the relay is delivered, and the owner learns that it is over.

What the world does to a session is a list of events in any order: a turn of the reader, the
arrival of a datagram, a move of the delivery, a sign of life or its failure, a cancellation.
-/
namespace Rtsp.Pull

/-- What the owner of a source is told, and what it is asked. -/
inductive Notice
  | state (s : Lifecycle.State)
  | ready (s : Session)
  | packet (p : Packet)
  | notReady
  | fault (f : Fault)
  | asked (r : Reconnect) (usual : Duration) (answer : Option Duration)
  deriving DecidableEq, Repr

inductive Event
  | turn (idle : Bool)
  | datagram (medium : Nat) (kind : Packet.Kind) (payload : Bytes)
  | take
  | release
  | report (ssrc : UInt32)
  | ping
  | fault (f : Fault)
  | cancel
  deriving DecidableEq, Repr

/-- A session, the pairs of ports that were taken for it, and the rest of what it takes to play. -/
structure Playing where
  session : Session
  ports : List Handshake.Pair
  connection : Connection
  relay : Relay
  failure : Option Halt
  notices : List Notice

namespace Playing

/-- A move of the relay; the owner is told of every packet that it is given. -/
def move (p : Playing) (step : Relay → Relay) : Playing :=
  let relay := step p.relay
  { p with
    relay := relay
    notices := p.notices ++ (relay.given.drop p.relay.given.length).map .packet }

def push (p : Playing) (packet : Packet) : Playing := p.move fun relay => relay.push packet

/-- A frame on a channel of the session is a packet, and any other is nothing. -/
def route (p : Playing) (f : Frame) : Playing :=
  match p.session.route? f.channel with
  | some (medium, kind) => p.push ⟨medium, kind, f.payload⟩
  | none => p

/-- A datagram reaches the session only at one of its pairs of ports, and belongs to the medium whose
number is that of the pair. -/
def datagram (p : Playing) (medium : Nat) (kind : Packet.Kind) (payload : Bytes) : Playing :=
  if medium < p.ports.length then p.push ⟨medium, kind, payload⟩ else p

def start (settings : Settings) (session : Session) (ports : List Handshake.Pair)
    (connection : Connection) : Playing :=
  let (early, connection) := connection.takeEarly
  early.foldl route ⟨session, ports, connection, .start settings.queueSize, none, []⟩

/-- Silence for the time allowed. Where UDP was tried without being asked for and nothing has ever
come, it is of no use here. -/
def silence (settings : Settings) (p : Playing) : Fault :=
  if p.session.mode = .udp ∧ p.relay.touched = false ∧ settings.transport = .auto then
    .fallback ("no UDP data within ".toList ++ settings.readTimeout.text)
  else .timeout .read

/-- What a unit of the control stream does to the session. -/
def receive (p : Playing) (m : Message) : Except Halt Unit × Playing :=
  match m with
  | .frame f => (.ok (), p.route f)
  | .request r =>
    let (result, connection) := p.connection.answer r
    (result, { p with connection := connection })
  | .response _ => (.ok (), p)

/-- What ends the session once a turn has gone well. -/
def afterTurn (settings : Settings) (idle : Bool) (p : Playing) : Option Halt :=
  if idle then some (.fault (p.silence settings)) else none

/-- A cancellation that a read meets with is one for the relay as well. -/
def follow (p : Playing) (c : Connection) : Playing :=
  { p with
    connection := c
    relay := if c.cancellation.requested then p.relay.cancel else p.relay }

/-- One turn of the reader, at whose end the silence may have lasted too long. -/
def turn (settings : Settings) (idle : Bool) (p : Playing) : Option Halt × Playing :=
  if p.connection.cancellation.requested then (some (.fault .cancelled), p)
  else if p.failure.isSome then (p.failure, p)
  else
    match p.connection.poll with
    | (.error h, c) => (some h, p.follow c)
    | (.ok (.nothing _), c) =>
      let p := { p with connection := c }
      (p.afterTurn settings idle, p)
    | (.ok (.unit m), c) =>
      match { p with connection := c }.receive m with
      | (.error h, p) => (some h, p)
      | (.ok (), p) => (p.afterTurn settings idle, p)

/-- Reports on the control channels of a session that has them; a failure is left to the reader. -/
def reportFrom (ssrc : UInt32) : List Session.Track → Playing → Playing
  | [], p => p
  | t :: rest, p =>
    match t.carrier with
    | .udp _ _ => reportFrom ssrc rest p
    | .tcp _ rtcp =>
      match p.connection.sendFrame ⟨rtcp, Rtp.receiverReport ssrc⟩ with
      | (.ok (), c) => reportFrom ssrc rest { p with connection := c }
      | (.error h, c) => { p with connection := c, failure := some h }

def ping (p : Playing) : Playing :=
  match p.connection.sendRequest (.make .options p.session.base) with
  | (.ok _, c) => { p with connection := c }
  | (.error h, c) => { p with connection := c, failure := some h }

def cancel (p : Playing) : Playing :=
  { p with connection := p.connection.cancel, relay := p.relay.cancel }

/-- What an event does; a turn of the reader may end the session. -/
def step (settings : Settings) (p : Playing) : Event → Option Halt × Playing
  | .turn idle => p.turn settings idle
  | .datagram medium kind payload => (none, p.datagram medium kind payload)
  | .take => (none, p.move Relay.take)
  | .release => (none, p.move Relay.release)
  | .report ssrc => (none, reportFrom ssrc p.session.tracks p)
  | .ping => (none, p.ping)
  | .fault f => (none, { p with failure := some (.fault f) })
  | .cancel => (none, p.cancel)

/-- After the end the reader does nothing more, but datagrams may still arrive. -/
def wind (settings : Settings) (p : Playing) : Event → Playing
  | .turn _ => p
  | e => (p.step settings e).2

/-- The session until it ends, and why; without an event that ends it, it is cancelled. -/
def run (settings : Settings) : Playing → List Event → Halt × Playing
  | p, [] => (.fault .cancelled, p.cancel)
  | p, e :: rest =>
    match p.step settings e with
    | (some h, p) => (h, rest.foldl (wind settings) p)
    | (none, p) => run settings p rest

/-- A session that was cancelled is torn down; what the relay still holds is delivered. -/
def close (p : Playing) : Playing :=
  let connection :=
    if p.connection.cancellation.requested then
      (p.connection.sendRequest (.make .teardown p.session.base)).2
    else p.connection
  let p := { p with connection := connection }.move Relay.close
  { p with notices := p.notices ++ [.notReady] }

end Playing

end Rtsp.Pull
