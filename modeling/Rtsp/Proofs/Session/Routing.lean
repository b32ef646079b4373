import Mathlib.Data.List.Flatten
import Mathlib.Data.List.Nodup
import Rtsp.Message
import Rtsp.Session

/-!
Where the packets on a channel belong. A session gives them to the first track that has the channel.
Hence each track gets what comes on its own channels, and each kind of packet on the channel for it,
if and only if no two of all the channels are the same. Whatever the channels, a packet is one of a
medium that the session has.
-/
namespace Rtsp.Session

/-- The channels that are used, and what each of them carries. -/
def Carrier.lanes : Carrier → List (UInt8 × Packet.Kind)
  | .tcp rtp rtcp => [(rtp, .rtp), (rtcp, .rtcp)]
  | .udp _ _ => []

def Carrier.channels (c : Carrier) : List UInt8 := c.lanes.map Prod.fst

/-- What comes on a channel of a track belongs to that track, as what the channel carries. -/
def Unambiguous (s : Session) : Prop :=
  ∀ (i : Nat) t channel kind, s.tracks[i]? = some t → (channel, kind) ∈ t.carrier.lanes →
    s.route? channel = some (i, kind)

/-- The same of some tracks that are numbered from `index`. -/
def UnambiguousFrom (index : Nat) (tracks : List Track) : Prop :=
  ∀ (i : Nat) t channel kind, tracks[i]? = some t → (channel, kind) ∈ t.carrier.lanes →
    routeFrom channel index tracks = some (index + i, kind)

section Track

variable (t : Track) (channel : UInt8)

theorem Track.kind?_eq_none_iff : t.kind? channel = none ↔ channel ∉ t.carrier.channels := by
  unfold kind? Carrier.channels Carrier.lanes
  cases t.carrier with
  | udp client server => simp
  | tcp rtp rtcp =>
    by_cases hrtp : rtp = channel
    · simp [hrtp]
    · by_cases hrtcp : rtcp = channel
      · simp [hrtp, hrtcp]
      · simp [hrtp, hrtcp, Ne.symm hrtp, Ne.symm hrtcp]

/-- A track knows what its channels carry if they differ. -/
theorem Track.nodup_channels_iff :
    t.carrier.channels.Nodup ↔
      ∀ channel kind, (channel, kind) ∈ t.carrier.lanes → t.kind? channel = some kind := by
  unfold kind? Carrier.channels Carrier.lanes
  cases t.carrier with
  | udp client server => simp
  | tcp rtp rtcp =>
    have hnodup : ([(rtp, Packet.Kind.rtp), (rtcp, .rtcp)].map Prod.fst).Nodup ↔ rtp ≠ rtcp := by
      simp
    rw [hnodup]
    constructor
    · intro hne channel kind hlane
      rcases List.mem_pair.mp hlane with heq | heq
      · obtain ⟨rfl, rfl⟩ := Prod.mk.inj heq
        exact if_pos rfl
      · obtain ⟨rfl, rfl⟩ := Prod.mk.inj heq
        exact (if_neg hne).trans (if_pos rfl)
    · rintro h rfl
      have hkind := h rtp .rtcp (List.mem_cons_of_mem _ List.mem_cons_self)
      cases (if_pos rfl).symm.trans hkind

end Track

section Cons

variable (index : Nat) {t : Track} (tracks : List Track) {channel : UInt8}

theorem routeFrom_cons_of_mem (h : channel ∈ t.carrier.channels) :
    ∃ kind, t.kind? channel = some kind ∧
      routeFrom channel index (t :: tracks) = some (index, kind) := by
  obtain ⟨kind, hkind⟩ := Option.ne_none_iff_exists'.mp fun hnone =>
    (t.kind?_eq_none_iff channel).mp hnone h
  exact ⟨kind, hkind, by simp only [routeFrom, hkind]⟩

theorem routeFrom_cons_of_not_mem (h : channel ∉ t.carrier.channels) :
    routeFrom channel index (t :: tracks) = routeFrom channel (index + 1) tracks := by
  simp only [routeFrom, (t.kind?_eq_none_iff channel).mpr h]

theorem unambiguousFrom_cons :
    UnambiguousFrom index (t :: tracks) ↔
      t.carrier.channels.Nodup ∧ UnambiguousFrom (index + 1) tracks ∧
        ∀ u ∈ tracks, ∀ channel ∈ u.carrier.channels, channel ∉ t.carrier.channels := by
  constructor
  · intro h
    have hother : ∀ (i : Nat) u channel kind, tracks[i]? = some u →
        (channel, kind) ∈ u.carrier.lanes → channel ∉ t.carrier.channels := by
      intro i u channel kind hu hlane hmem
      obtain ⟨kind', -, hroute⟩ := routeFrom_cons_of_mem index tracks hmem
      have hplace := hroute.symm.trans (h (i + 1) u channel kind hu hlane)
      have hindex : index = index + (i + 1) := congrArg Prod.fst (Option.some.inj hplace)
      omega
    refine ⟨(t.nodup_channels_iff).mpr fun channel kind hlane => ?_, ?_, ?_⟩
    · obtain ⟨kind', hkind, hroute⟩ :=
        routeFrom_cons_of_mem index tracks (List.mem_map_of_mem hlane)
      have hplace := hroute.symm.trans (h 0 t channel kind rfl hlane)
      exact hkind.trans (congrArg some (congrArg Prod.snd (Option.some.inj hplace)))
    · intro i u channel kind hu hlane
      have hroute := h (i + 1) u channel kind hu hlane
      rw [routeFrom_cons_of_not_mem index tracks (hother i u channel kind hu hlane)] at hroute
      rw [hroute, Nat.add_assoc, Nat.add_comm 1 i]
    · intro u hu channel hchannel
      obtain ⟨i, hi⟩ := List.mem_iff_getElem?.mp hu
      obtain ⟨⟨channel, kind⟩, hlane, rfl⟩ := List.mem_map.mp hchannel
      exact hother i u channel kind hi hlane
  · rintro ⟨hfirst, hrest, hother⟩ i u channel kind hu hlane
    cases i with
    | zero =>
      obtain rfl := Option.some.inj hu
      have hkind := (t.nodup_channels_iff).mp hfirst channel kind hlane
      simp only [routeFrom, hkind, Nat.add_zero]
    | succ i =>
      have hnot := hother u (List.mem_of_getElem? hu) channel (List.mem_map_of_mem hlane)
      rw [routeFrom_cons_of_not_mem index tracks hnot, hrest i u channel kind hu hlane,
        Nat.add_assoc, Nat.add_comm 1 i]

end Cons

/-- Nothing is routed wrong if and only if all channels differ. -/
theorem unambiguousFrom_iff (index : Nat) (tracks : List Track) :
    UnambiguousFrom index tracks ↔
      ((tracks.map Track.carrier).flatMap Carrier.channels).Nodup := by
  induction tracks generalizing index with
  | nil => simp [UnambiguousFrom]
  | cons t tracks ih =>
    have hdisjoint : t.carrier.channels.Disjoint
        ((tracks.map Track.carrier).flatMap Carrier.channels) ↔
        ∀ u ∈ tracks, ∀ channel ∈ u.carrier.channels, channel ∉ t.carrier.channels := by
      rw [List.disjoint_comm, List.flatMap_map]
      simp only [List.Disjoint, List.mem_flatMap]
      exact ⟨fun h u hu channel hchannel => h ⟨u, hu, hchannel⟩,
        fun h channel ⟨u, hu, hchannel⟩ => h u hu channel hchannel⟩
    rw [unambiguousFrom_cons, ih (index + 1), List.map_cons, List.flatMap_cons,
      List.nodup_append', hdisjoint]

theorem unambiguous_iff (s : Session) :
    s.Unambiguous ↔ ((s.tracks.map Track.carrier).flatMap Carrier.channels).Nodup := by
  rw [← unambiguousFrom_iff 0]
  simp only [Unambiguous, UnambiguousFrom, route?, Nat.zero_add]

section Packet

variable {channel : UInt8} {kind : Packet.Kind}

theorem lt_of_routeFrom {index i : Nat} {tracks : List Track}
    (h : routeFrom channel index tracks = some (i, kind)) : i < index + tracks.length := by
  induction tracks generalizing index with
  | nil => cases h
  | cons t tracks ih =>
    unfold routeFrom at h
    rw [List.length_cons]
    split at h
    · obtain ⟨rfl, -⟩ := Prod.mk.inj (Option.some.inj h)
      omega
    · have hlt := ih h
      omega

/-- The packet that a frame is, if its channel belongs to a medium of the session. -/
def packet? (s : Session) (f : Frame) : Option Packet :=
  (s.route? f.channel).map fun x => ⟨x.1, x.2, f.payload⟩

theorem medium_lt_of_packet? {s : Session} {f : Frame} {p : Packet} (h : s.packet? f = some p) :
    p.medium < s.tracks.length := by
  obtain ⟨x, hroute, rfl⟩ := Option.map_eq_some_iff.mp h
  simpa using lt_of_routeFrom hroute

end Packet

end Rtsp.Session
