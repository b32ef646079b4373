import Rtsp.Pull.Playing

/-!
A source pulls one stream for its owner, attempt after attempt, until it is stopped, until trying
again cannot help, or until the owner no longer wants it. It can be started again after that, and
remembers that UDP was of no use.
-/
namespace Rtsp.Pull

/-- What a source has done: tried in some mode with the record of failures as it was then, and
failed in some way. -/
inductive Entry
  | attempt (mode : Session.Mode) (reconnect : Reconnect)
  | failure (f : Fault)
  deriving DecidableEq, Repr

structure Source where
  settings : Settings
  state : Lifecycle.State
  relayed : Nat
  dropped : Nat
  lastFault : Option Fault.Kind
  reconnect : Reconnect
  ready : Bool
  running : Bool
  asked : Nat
  notices : List Notice
  journal : List Entry

namespace Source

/-- A source that has not been started. -/
def make (settings : Settings) : Source :=
  ⟨settings, .terminated, 0, 0, none, .fresh, false, false, 0, [], []⟩

def tell (s : Source) (n : Notice) : Source := { s with notices := s.notices ++ [n] }

def write (s : Source) (e : Entry) : Source := { s with journal := s.journal ++ [e] }

end Source

/-- How the owner answers each question, counted from the first. -/
abbrev Policies := Nat → Policy

/-- What the clock shows when the dialling begins, when the owner has answered how long to wait, and
when the waiting begins. It is taken to stand still while a handshake lasts. -/
structure Times where
  dialling : Clock
  answered : Clock
  waiting : Clock

/-- The clock is at its beginning all the time. -/
def Times.zero : Times := ⟨.zero, .zero, .zero⟩

/-- All that the world contributes to an attempt: what becomes of the dialling, the network behind
it, the ports that can be had, the numbers that nobody can foresee, what happens while playing,
whether a stop is requested before the end of the attempt is looked at, and the time. -/
structure Attempt where
  dial : Except Fault (List Connection.Arrival × List (Option Fault.Trouble))
  ports : Handshake.Ports
  entropy : Auth.Entropy
  events : List Event
  stopped : Bool
  times : Times

/-- A source at work. -/
structure Worker where
  source : Source
  supervisor : Supervisor

namespace Worker

/-- Every state that the supervisor publishes is shared and told. -/
def share (w : Worker) (before : Supervisor) : Worker :=
  { w with
    source :=
      { w.source with
        state := w.supervisor.shared
        notices := w.source.notices ++
          (w.supervisor.published.drop before.published.length).map .state } }

def fire (w : Worker) (e : Lifecycle.Event) : Worker :=
  share { w with supervisor := w.supervisor.fire e } w.supervisor

def start (s : Source) : Worker :=
  let source := { s with state := .connecting, lastFault := none, running := true }
  share ⟨source, .start s.reconnect⟩ ⟨.connecting, .connecting, [], s.reconnect⟩

/-- The work is over. -/
def finish (w : Worker) : Source :=
  { w.source with
    reconnect := { w.supervisor.reconnect with pause := none }
    ready := false
    running := false }

/-- A stop while nothing else goes on. -/
def stop (w : Worker) : Source := (w.fire .stop).finish

/-- The lower transport of the next attempt. -/
def mode (w : Worker) : Session.Mode := w.source.settings.mode w.supervisor.reconnect.forceTcp

/-- The attempt is on record. -/
def note (w : Worker) : Worker :=
  { w with source := w.source.write (.attempt w.mode w.supervisor.reconnect) }

/-- A session begins to play. -/
def begin (w : Worker) (session : Session) : Worker :=
  let w := w.fire .played
  { source := { w.source.tell (.ready session) with ready := true }
    supervisor := w.supervisor.recordPlay }

/-- What a session told the owner was told, and its packets are counted. -/
def record (w : Worker) (p : Playing) : Worker :=
  { w with
    source :=
      { w.source with
        notices := w.source.notices ++ p.notices
        relayed := w.source.relayed + p.relay.relayed
        dropped := w.source.dropped + p.relay.dropped } }

/-- A session has played. It is closed after a fault, and left as it is after what is no fault; the
packets that may still be delivered then are left out. -/
def leave (w : Worker) (p : Playing) : Halt → Worker
  | .fault _ =>
    let w := w.record p.close
    { w with source := { w.source with ready := false } }
  | .overflow | .stray => w.record p

/-- The part of an attempt that plays. -/
def play (w : Worker) (a : Attempt) (n : Handshake.Negotiated) (c : Connection) :
    Halt × Bool × Worker :=
  let c := { c.attach n.session.id n.signer with entropy := n.entropy }
  let w := w.begin n.session
  let settings := w.source.settings
  let (h, p) := (Playing.start settings n.session n.ports c).run settings a.events
  (h, p.connection.cancellation.requested, w.leave p h)

/-- The dialling, for which the clock has to tell a deadline. The deadlines of the responses are as
far off from when they are waited for, and are taken to be told if this one is. -/
def dial (w : Worker) (a : Attempt) :
    Except Halt (List Connection.Arrival × List (Option Fault.Trouble)) :=
  match a.times.dialling.after? w.source.settings.readTimeout with
  | some _ => a.dial.mapError .fault
  | none => .error .overflow

/-- The handshake of an attempt whose dialling went well. -/
def shake (w : Worker) (a : Attempt) (arrivals : List Connection.Arrival)
    (writes : List (Option Fault.Trouble)) : Except Halt Handshake.Negotiated × Connection :=
  (Handshake.dialogue ⟨w.source.settings, w.mode, a.ports⟩ a.entropy).run Connection.exchange
    (.start arrivals writes a.entropy)

/-- One attempt: why it ended, whether it was cancelled, and what it left behind. -/
def attempt (w : Worker) (a : Attempt) : Halt × Bool × Worker :=
  match w.dial a with
  | .error h => (h, false, w.note)
  | .ok (arrivals, writes) =>
    let connected := w.note.fire .connected
    match w.shake a arrivals writes with
    | (.error h, c) => (h, c.cancellation.requested, connected)
    | (.ok n, c) => connected.play a n c

/-- A worker that waits for its next attempt, a source whose work is over, or one whose worker was
lost to what is no fault and left everything as it was. What a lost worker had set going may go on
for a while: the delivery of its relay and the readers of its ports. That is left out, so what is
said of a source holds if no worker was lost to it in the midst of a session before. -/
inductive Stage
  | waiting (w : Worker)
  | finished (s : Source)
  | lost (s : Source)

def recordFailure (w : Worker) (f : Fault) : Worker :=
  { source := { w.source.write (.failure f) with lastFault := some f.kind }
    supervisor := w.supervisor.recordFailure f }

/-- The answer of the owner when it is asked. -/
def wish (policies : Policies) (w : Worker) : Option Duration :=
  policies w.source.asked w.supervisor.reconnect w.source.settings.retryPause

/-- The owner is asked, and answers. -/
def question (policies : Policies) (w : Worker) : Worker :=
  let usual := w.source.settings.retryPause
  { w with
    source :=
      { w.source.tell (.asked w.supervisor.reconnect usual (w.wish policies)) with
        asked := w.source.asked + 1 } }

/-- The owner is asked when to try again. -/
def ask (policies : Policies) (now : Clock) (w : Worker) :
    Except Halt (Option Duration) × Worker :=
  match w.supervisor.pause (policies w.source.asked) w.source.settings.retryPause now with
  | .error h => (.error h, w.question policies)
  | .ok (answer, supervisor) => (.ok answer, { w.question policies with supervisor := supervisor })

/-- The worker is lost, and with it what it has not handed back. -/
def abandon (w : Worker) : Source := { w.source with running := false }

/-- The next attempt is waited for, if the clock can tell when to make it. -/
def await (w : Worker) (now : Clock) (pause : Duration) : Stage :=
  match now.after? pause with
  | some _ => .waiting w
  | none => .lost w.abandon

/-- The owner is told of a fault. -/
def report (w : Worker) (f : Fault) : Worker := { w with source := w.source.tell (.fault f) }

/-- What follows a failure. -/
def recover (policies : Policies) (times : Times) (w : Worker) (f : Fault) : Stage :=
  let w := (w.fire .failed).recordFailure f
  if f.isTerminal then .finished ((w.report f).fire (.released false)).finish
  else
    match w.ask policies times.answered with
    | (.error _, w) => .lost w.abandon
    | (.ok none, w) => .finished (w.fire (.released false)).finish
    | (.ok (some pause), w) => (w.fire (.released true)).await times.waiting pause

/-- An attempt and what follows it. -/
def step (policies : Policies) (w : Worker) (a : Attempt) : Stage :=
  match w.attempt a with
  | (.fault f, cancelled, w) =>
    if f = .cancelled ∨ cancelled ∨ a.stopped then .finished w.stop
    else w.recover policies a.times f
  | (.overflow, _, w) | (.stray, _, w) => .lost w.abandon

/-- Attempt after attempt; a worker that still waits when they are used up is stopped. -/
def run (policies : Policies) : Worker → List Attempt → Source
  | w, [] => w.stop
  | w, a :: rest =>
    match w.step policies a with
    | .waiting w => run policies w rest
    | .finished s => s
    | .lost s => s

end Worker

namespace Source

/-- A source is started once at a time. -/
def start (s : Source) : Except Fault Worker :=
  if s.running then .error .running else .ok (Worker.start s)

/-- A run from start to end. -/
def run (policies : Policies) (s : Source) (attempts : List Attempt) : Except Fault Source :=
  s.start.map fun w => w.run policies attempts

end Source

end Rtsp.Pull
