import Rtsp.Auth.Signer
import Rtsp.Control
import Rtsp.Description.Basic
import Rtsp.Dialogue
import Rtsp.Settings
import Rtsp.Transport

/-!
How a source comes to play: it asks for the description of the stream, sets up every medium that
can be played, and asks for all of them to be played. A request that is refused for want of
credentials is signed and sent once more, and everything after it is signed too.
-/
namespace Rtsp.Handshake

/-- What the client has learned so far. The session has a name, and a timeout if the server told
one; `bound` pairs of ports are taken. -/
structure Progress where
  signer : Option Auth.Signer
  session : Option (Text × Option Duration)
  entropy : Auth.Entropy
  bound : Nat

def Progress.start (e : Auth.Entropy) : Progress := ⟨none, none, e, 0⟩

/-- Two ports that belong together. -/
abbrev Pair := UInt16 × UInt16

/-- The pairs of ports that can be had, one after another. -/
abbrev Ports := Nat → Option Pair

/-- What all requests of a handshake have in common. -/
structure Plan where
  settings : Settings
  mode : Session.Mode
  ports : Ports

def sessionFields (p : Progress) : Header :=
  (p.session.map fun s => ⟨"Session".toList, s.1⟩).toList

/-- A request with fields of its own, the name of the session, and a signature. -/
def compose (p : Progress) (method : Method) (uri : Text) (fields : Header) : Request × Progress :=
  let request := { Request.make method uri with header := fields ++ sessionFields p }
  match p.signer with
  | none => (request, p)
  | some signer =>
    let (value, signer, entropy) := signer.sign p.entropy method.name uri
    (request.add "Authorization".toList value, { p with signer := some signer, entropy := entropy })

def unauthorized : UInt16 := 401

def unsupportedTransport : UInt16 := 461

/-- What a client can do about a refusal: sign with its credentials, if it has some and knows what
the server asks for. -/
def answer? (settings : Settings) (method : Method) (response : Response) :
    Except Fault Auth.Signer :=
  match settings.locator.credentials with
  | none =>
    .error (.authentication
      (method.name ++ " requires credentials and none are configured".toList))
  | some credentials =>
    match Auth.Challenge.ofResponse? response with
    | none =>
      .error (.authentication (method.name ++ " challenge uses no supported scheme".toList))
    | some challenge => .ok (.make credentials challenge)

/-- One request, sent again with a signature if it is refused without. -/
def send (settings : Settings) (p : Progress) (method : Method) (uri : Text) (fields : Header) :
    Dialogue (Response × Progress) :=
  let (request, p) := compose p method uri fields
  .ask request fun response =>
    if response.status ≠ unauthorized then pure (response, p)
    else
      match answer? settings method response with
      | .error f => .fail f
      | .ok signer =>
        let (request, p) := compose { p with signer := some signer } method uri fields
        .ask request fun response =>
          if response.status ≠ unauthorized then pure (response, p)
          else
            .fail (.authentication
              (method.name ++ " rejected the configured credentials".toList))

/-- What a client proposes for one medium: two ports of its own, or two channels. -/
inductive Proposal
  | ports (rtp rtcp : UInt16)
  | channels (rtp rtcp : UInt8)
  deriving DecidableEq, Repr

def Proposal.transport : Proposal → Transport
  | .ports rtp rtcp => .ofPorts rtp rtcp
  | .channels rtp rtcp => .ofChannels rtp rtcp

/-- What becomes of a proposal in the light of the reply. -/
def Proposal.settle : Proposal → Option Transport → Except Text Session.Carrier
  | .ports rtp rtcp, none => .ok (.udp (rtp, rtcp) none)
  | .ports rtp rtcp, some reply =>
    if reply.tcp || reply.interleaved.isSome then .error "server answered with TCP transport".toList
    else .ok (.udp (rtp, rtcp) reply.serverPort)
  | .channels rtp rtcp, none => .ok (.tcp rtp rtcp)
  | .channels rtp rtcp, some reply =>
    if !reply.tcp && reply.clientPort.isSome then .error "server answered with UDP transport".toList
    else
      match reply.interleaved with
      | some (rtp, rtcp) => .ok (.tcp rtp rtcp)
      | none => .ok (.tcp rtp rtcp)

/-- The proposal for the medium at `index`, and the pair of ports that is taken for it: the next pair
that can be had, or none and two channels of its own. -/
def propose (plan : Plan) (p : Progress) (index : Nat) (control : Text) :
    Except Fault ((Proposal × Option Pair) × Progress) :=
  match plan.mode with
  | .udp =>
    match plan.ports p.bound with
    | some pair => .ok ((.ports pair.1 pair.2, some pair), { p with bound := p.bound + 1 })
    | none => .error (.connection "no free UDP port pair for RTP/RTCP".toList)
  | .tcp =>
    if 2 * index < 256 then
      .ok ((.channels (2 * index).toUInt8 (2 * index + 1).toUInt8, none), p)
    else .error (.setup control 0 "too many media for interleaved channels".toList)

/-- The session that a reply names, unless there is one already. -/
def nameSession (p : Progress) (response : Response) : Option Progress :=
  match p.session, response.value? "Session".toList with
  | some _, _ => some p
  | none, some value => some { p with session := some (Session.parseHeader value) }
  | none, none => none

/-- UDP may be given up for TCP if nobody asked for it. -/
def mayFallBack (plan : Plan) : Bool :=
  plan.mode == .udp && plan.settings.transport == .auto

/-- What a reply to a proposal makes of the medium. -/
def accept (plan : Plan) (p : Progress) (control : Text) (proposal : Proposal)
    (response : Response) : Except Fault ((Session.Carrier × Option UInt32) × Progress) :=
  if response.status = unsupportedTransport ∧ mayFallBack plan then
    .error (.fallback ("server does not support UDP for ".toList ++ control))
  else if response.isSuccess = false then
    .error (.setup control response.status response.reason)
  else
    match nameSession p response with
    | none => .error (.setup control response.status "response has no Session header".toList)
    | some p =>
      let reply := (response.value? "Transport".toList).bind Transport.parse?
      match proposal.settle reply with
      | .error reason => .error (.setup control response.status reason)
      | .ok carrier => .ok ((carrier, reply.bind Transport.ssrc), p)

def ofExcept {α : Type} (r : Except Fault α) : Dialogue α := .done (r.mapError .fault)

/-- One medium, and the pair of ports that was taken for it. -/
def setup (plan : Plan) (p : Progress) (index : Nat) (base : Text) (medium : Media.Medium) :
    Dialogue ((Session.Track × Option Pair) × Progress) := do
  let control := Control.resolve base medium.control
  let ((proposal, pair), p) ← ofExcept (propose plan p index control)
  let (response, p) ← send plan.settings p .setup control
    [⟨"Transport".toList, proposal.transport.text⟩]
  let ((carrier, ssrc), p) ← ofExcept (accept plan p control proposal response)
  pure ((⟨medium, control, carrier, ssrc⟩, pair), p)

/-- Medium after medium, the first of which has number `index`, and the pairs of ports that were taken
on the way. -/
def setupAll (plan : Plan) (base : Text) :
    Nat → Progress → List Media.Medium → Dialogue ((List Session.Track × List Pair) × Progress)
  | _, p, [] => pure (([], []), p)
  | index, p, medium :: rest => do
    let ((track, pair), p) ← setup plan p index base medium
    let ((tracks, pairs), p) ← setupAll plan base (index + 1) p rest
    pure ((track :: tracks, pair.toList ++ pairs), p)

def unexpected (method : Method) (response : Response) : Fault :=
  .status method response.status response.reason

/-- What the control attributes of a description are relative to. -/
def baseOf (uri : Text) (response : Response) : Text :=
  let told := Text.trim (((response.value? "Content-Base".toList).or
    (response.value? "Content-Location".toList)).getD [])
  if told = [] then uri else told

def describe (plan : Plan) (p : Progress) : Dialogue ((Text × Description) × Progress) := do
  let uri := plan.settings.locator.uri
  let (response, p) ← send plan.settings p .describe uri
    [⟨"Accept".toList, "application/sdp".toList⟩]
  if response.isSuccess then
    let description ← Dialogue.done (Description.parse (response.body.getD []))
    pure ((baseOf uri response, description), p)
  else .fail (unexpected .describe response)

/-- The range that is played, as far as it is known. -/
def play (plan : Plan) (p : Progress) (uri : Text) : Dialogue (Option Text × Progress) := do
  let wanted := plan.settings.rangeText
  let (response, p) ← send plan.settings p .play uri
    (wanted.map fun range => ⟨"Range".toList, range⟩).toList
  if response.isSuccess then pure ((response.value? "Range".toList).or wanted, p)
  else .fail (unexpected .play response)

/-- What a handshake leaves behind: the session, the pairs of ports that were taken for it, and the
signer of what follows. -/
structure Negotiated where
  session : Session
  ports : List Pair
  signer : Option Auth.Signer
  entropy : Auth.Entropy

def sessionOf (p : Progress) (base : Text) (tracks : List Session.Track) (range : Option Text) :
    Session :=
  let (id, timeout) := p.session.getD ([], none)
  ⟨id, timeout.getD Session.defaultTimeout, base, tracks, range⟩

/-- The whole handshake. -/
def dialogue (plan : Plan) (e : Auth.Entropy) : Dialogue Negotiated := do
  let ((base, description), p) ← describe plan (.start e)
  let ((tracks, pairs), p) ← setupAll plan base 0 p description.media
  let (range, p) ← play plan p (Control.resolve base description.control)
  pure ⟨sessionOf p base tracks range, pairs, p.signer, p.entropy⟩

end Rtsp.Handshake
