import Rtsp.Proofs.Handshake.Pieces
import Rtsp.Proofs.Session.Routing

/-!
The channels of a session. A medium travels on the two channels that the last reply to its request
names, and on the two of its place if that reply names none. Nothing keeps a server from naming
channels that another medium has. Every packet is routed to the medium it is from exactly where no
two of all these channels are the same, and so wherever the replies leave each medium the channels of
its place.
-/
namespace Rtsp.Handshake

/-- The channels of the medium at `index`, by the reply to its request. -/
def channelsBy (index : Nat) (response : Response) : UInt8 × UInt8 :=
  ((told? response).bind Transport.interleaved).getD
    ((2 * index).toUInt8, (2 * index + 1).toUInt8)

/-- Both are those of the place `index`, and are there. -/
def OfPlace (index : Nat) (channels : UInt8 × UInt8) : Prop :=
  channels.1.toNat = 2 * index ∧ channels.2.toNat = 2 * index + 1

/-- The reply names the channels of the place, or none. -/
def Leaves (index : Nat) (response : Response) : Prop :=
  ∀ channels, (told? response).bind Transport.interleaved = some channels → OfPlace index channels

def onChannels (channels : UInt8 × UInt8) : Session.Carrier := .tcp channels.1 channels.2

section Settle

variable {index : Nat}

theorem ofPlace_toUInt8 (h : 2 * index + 1 < 256) :
    OfPlace index ((2 * index).toUInt8, (2 * index + 1).toUInt8) := by
  constructor
  · simp; omega
  · simp; omega

theorem ofPlace_channelsBy {response : Response} (h : 2 * index + 1 < 256)
    (hleaves : Leaves index response) : OfPlace index (channelsBy index response) := by
  unfold channelsBy
  cases hnamed : (told? response).bind Transport.interleaved with
  | none => exact ofPlace_toUInt8 h
  | some channels => exact hleaves channels hnamed

theorem OfPlace.ext {a b : UInt8 × UInt8} (ha : OfPlace index a) (hb : OfPlace index b) : a = b :=
  Prod.ext (UInt8.toNat_inj.mp (ha.1.trans hb.1.symm)) (UInt8.toNat_inj.mp (ha.2.trans hb.2.symm))

/-- A proposal of channels is settled on those that the reply names, or on itself. -/
theorem carrier_of_settle {rtp rtcp : UInt8} {reply : Option Transport} {carrier : Session.Carrier}
    (h : (Proposal.channels rtp rtcp).settle reply = .ok carrier) :
    carrier = onChannels ((reply.bind Transport.interleaved).getD (rtp, rtcp)) := by
  cases reply with
  | none => exact (Except.ok.inj h).symm
  | some th =>
    simp only [Proposal.settle] at h
    split at h
    · cases h
    cases hnamed : th.interleaved with
    | none =>
      rw [hnamed] at h
      rw [Option.bind_some, hnamed]
      exact (Except.ok.inj h).symm
    | some channels =>
      rw [hnamed] at h
      rw [Option.bind_some, hnamed]
      exact (Except.ok.inj h).symm

theorem SetUp.channels {plan : Plan} {base : Text} {medium : Media.Medium} {r : Round}
    {t : Session.Track} {pair : Option Pair} (hmode : plan.mode = .tcp)
    (h : SetUp plan base index medium r t pair) :
    2 * index + 1 < 256 ∧
      ∃ response, r.answer = .ok response ∧ t.carrier = onChannels (channelsBy index response) := by
  obtain ⟨proposal, response, hproposes, -, hanswer, hsettle⟩ := h.settled
  cases hproposes with
  | ports hudp =>
    rw [hmode] at hudp
    cases hudp
  | @channels rtp rtcp _ hrtp hrtcp =>
    have hbound : 2 * index + 1 < 256 := hrtcp ▸ rtcp.toNat_lt
    have hasked : (rtp, rtcp) = ((2 * index).toUInt8, (2 * index + 1).toUInt8) :=
      OfPlace.ext ⟨hrtp, hrtcp⟩ (ofPlace_toUInt8 hbound)
    refine ⟨hbound, response, hanswer, ?_⟩
    rw [carrier_of_settle hsettle, hasked]
    rfl

end Settle

theorem SetUpFrom.targets_eq {plan : Plan} {base : Text} {index : Nat} {media : List Media.Medium}
    {rounds : List Round} {tracks : List Session.Track} {pairs : List Pair}
    (h : SetUpFrom plan base index media rounds tracks pairs) :
    rounds.map Round.target = tracks.map fun t => (.setup, t.control) := by
  induction h with
  | nil => rfl
  | cons hfirst _ ih => rw [List.map_cons, List.map_cons, hfirst.target_eq, ih]

theorem SetUpFrom.channels {plan : Plan} {base : Text} {index : Nat} {media : List Media.Medium}
    {rounds : List Round} {tracks : List Session.Track} {pairs : List Pair} (hmode : plan.mode = .tcp)
    (h : SetUpFrom plan base index media rounds tracks pairs) :
    ∃ replies : List Response, rounds.map Round.answer = replies.map Except.ok ∧
      tracks.map Session.Track.carrier =
        (replies.mapIdx fun i => channelsBy (index + i)).map onChannels ∧
      ∀ i < replies.length, 2 * (index + i) + 1 < 256 := by
  induction h with
  | nil index => exact ⟨[], rfl, rfl, fun i hi => absurd hi (Nat.not_lt_zero i)⟩
  | @cons index medium r t pair media rounds tracks pairs hfirst _ ih =>
    obtain ⟨hbound, response, hanswer, hcarrier⟩ := hfirst.channels hmode
    obtain ⟨replies, hanswers, hcarriers, hbounds⟩ := ih
    have hshift : ∀ i, index + (i + 1) = index + 1 + i := by omega
    have hlater : (fun i => channelsBy (index + (i + 1))) = fun i => channelsBy (index + 1 + i) :=
      funext fun i => congrArg channelsBy (hshift i)
    refine ⟨response :: replies, ?_, ?_, fun i hi => ?_⟩
    · rw [List.map_cons, List.map_cons, hanswer, hanswers]
    · rw [List.map_cons, List.mapIdx_cons, List.map_cons, hcarrier, hcarriers, hlater]
      rfl
    · cases i with
      | zero => exact hbound
      | succ i =>
        rw [hshift]
        exact hbounds i (Nat.lt_of_succ_lt_succ hi)

/-- Channels that are all those of their places differ. -/
theorem nodup_of_places {pairs : List (UInt8 × UInt8)}
    (h : ∀ (i : Nat) (hi : i < pairs.length), OfPlace i pairs[i]) :
    ((pairs.map onChannels).flatMap Session.Carrier.channels).Nodup := by
  rw [List.flatMap_map, List.nodup_flatMap]
  constructor
  · intro channels hmem
    obtain ⟨i, hi, rfl⟩ := List.mem_iff_getElem.mp hmem
    obtain ⟨hrtp, hrtcp⟩ := h i hi
    have hne : pairs[i].1 ≠ pairs[i].2 := fun heq => by
      rw [heq] at hrtp
      omega
    simp [onChannels, Session.Carrier.channels, Session.Carrier.lanes, hne]
  · -- A channel of two places would be both of one pair of numbers and of another.
    rw [List.pairwise_iff_getElem]
    intro i j hi hj hij channel hleft hright
    simp only [onChannels, Session.Carrier.channels, Session.Carrier.lanes, List.map_cons,
      List.map_nil, List.mem_pair] at hleft hright
    have hi' := h i hi
    have hj' := h j hj
    unfold OfPlace at hi' hj'
    rcases hleft with rfl | rfl <;> rcases hright with heq | heq <;> rw [heq] at hi' <;> omega

/-- The tracks of a session over one connection are on the channels that the last replies to their
requests settle. Routing is unambiguous if and only if all these channels differ, and so if each
reply names the channels of the place or none. -/
theorem routing_unambiguous_iff {plan : Plan} {e : Auth.Entropy}
    {server : List Request → Except Halt Response} {n : Negotiated} (hmode : plan.mode = .tcp)
    (h : ((dialogue plan e).against server).1 = .ok n) :
    ∃ opening setups closing, ∃ replies : List Response,
      turnsAfter server [] ((dialogue plan e).against server).2 =
        (opening :: (setups ++ [closing])).flatMap Round.turns ∧
      (∀ r ∈ opening :: (setups ++ [closing]), r.Sound plan.settings) ∧
      setups.map Round.target = n.session.tracks.map (fun t => (.setup, t.control)) ∧
      setups.map Round.answer = replies.map Except.ok ∧
      n.session.tracks.map Session.Track.carrier = (replies.mapIdx channelsBy).map onChannels ∧
      (n.session.Unambiguous ↔
        ((replies.mapIdx channelsBy).flatMap fun p => [p.1, p.2]).Nodup) ∧
      ((∀ (i : Nat) response, replies[i]? = some response → Leaves i response) →
        n.session.Unambiguous) := by
  obtain ⟨description, opening, setups, closing, hturns, haccount⟩ :=
    ((recounts_dialogue plan e).against server).2 n h
  obtain ⟨replies, hanswers, hcarriers, hbounds⟩ := haccount.tracks.channels hmode
  simp only [Nat.zero_add] at hcarriers hbounds
  refine ⟨opening, setups, closing, replies, hturns, haccount.sound, haccount.tracks.targets_eq,
    hanswers, hcarriers, ?_, fun hleaves => ?_⟩
  · rw [Session.unambiguous_iff, hcarriers, List.flatMap_map]
    rfl
  · rw [Session.unambiguous_iff, hcarriers]
    refine nodup_of_places fun i hi => ?_
    rw [List.length_mapIdx] at hi
    rw [List.getElem_mapIdx]
    exact ofPlace_channelsBy (hbounds i hi) (hleaves i _ (List.getElem?_eq_getElem hi))

/-- A reply that names channels for a medium. -/
def joinedOn (channels : String) : Response :=
  joined.add "Transport".toList ("RTP/AVP/TCP;interleaved=".toList ++ channels.toList)

theorem routing_unambiguous_swapped :
    let responses := [describedTwice, joinedOn "2-3", joinedOn "0-1", consent]
    ∃ settings n, (Settings.Draft.ofUrl "rtsp://cam/live".toList).build = .ok settings ∧
      ((dialogue ⟨settings, .tcp, fun _ => none⟩ (.counting 0)).against (script responses)).1 =
        .ok n ∧
      n.session.tracks.map Session.Track.carrier = [.tcp 2 3, .tcp 0 1] ∧
      n.session.Unambiguous := by
  intro responses
  have hcomes : (outcome "rtsp://cam/live" .tcp (fun _ => none) responses).map
      (fun x => x.1.tracks.map Session.Track.carrier) = some [.tcp 2 3, .tcp 0 1] := by
    decide +kernel
  obtain ⟨x, hx, hcarriers⟩ := Option.map_eq_some_iff.mp hcomes
  obtain ⟨settings, n, hbuild, hrun, hsession, -⟩ := exists_negotiated_of_outcome hx
  rw [← hsession] at hcarriers
  obtain ⟨-, -, -, replies, -, -, -, -, hchosen, hiff, -⟩ := routing_unambiguous_iff rfl hrun
  refine ⟨settings, n, hbuild, hrun, hcarriers, hiff.mpr ?_⟩
  have hchannels : ((replies.mapIdx channelsBy).flatMap fun p => [p.1, p.2]) =
      [Session.Carrier.tcp 2 3, .tcp 0 1].flatMap Session.Carrier.channels := by
    rw [← hcarriers, hchosen, List.flatMap_map]
    rfl
  rw [hchannels]
  decide

/-- The channels of the place of a medium may be those that another medium has been given. -/
theorem routing_ambiguous_shared :
    let responses := [describedTwice, joinedOn "2-3", joined, consent]
    ∃ settings n, (Settings.Draft.ofUrl "rtsp://cam/live".toList).build = .ok settings ∧
      ((dialogue ⟨settings, .tcp, fun _ => none⟩ (.counting 0)).against (script responses)).1 =
        .ok n ∧
      n.session.tracks.map Session.Track.carrier = [.tcp 2 3, .tcp 2 3] ∧
      n.session.route? 2 = some (0, .rtp) ∧ n.session.route? 3 = some (0, .rtcp) ∧
      ¬ n.session.Unambiguous := by
  intro responses
  have hcomes : (outcome "rtsp://cam/live" .tcp (fun _ => none) responses).map
      (fun x => (x.1.tracks.map Session.Track.carrier, x.1.route? 2, x.1.route? 3)) =
        some ([.tcp 2 3, .tcp 2 3], some (0, .rtp), some (0, .rtcp)) := by
    decide +kernel
  obtain ⟨x, hx, heq⟩ := Option.map_eq_some_iff.mp hcomes
  obtain ⟨settings, n, hbuild, hrun, hsession, -⟩ := exists_negotiated_of_outcome hx
  rw [← hsession] at heq
  obtain ⟨hcarriers, hroutes⟩ := Prod.mk.inj heq
  obtain ⟨hrtp, hrtcp⟩ := Prod.mk.inj hroutes
  refine ⟨settings, n, hbuild, hrun, hcarriers, hrtp, hrtcp, fun hclear => ?_⟩
  rw [Session.unambiguous_iff, hcarriers] at hclear
  revert hclear
  decide

end Rtsp.Handshake
