import Rtsp.Instant

/-!
What is read as an instant is a day of the calendar and a second of that day. In the basic form the
reader checks that. In the form of the Internet it checks what is written, and taking the offset off
then goes over to the next day or back to the last one, but never leaves the calendar: an offset is
less than a day.
-/
namespace Rtsp.Instant

/-- A day that its month has, and a second of the day, sixty standing for a leap second. -/
structure Sound (i : Instant) : Prop where
  month_pos : 1 ≤ i.month
  month_le : i.month ≤ 12
  day_pos : 1 ≤ i.day
  day_le : i.day ≤ daysIn i.year i.month
  hour_le : i.hour ≤ 23
  minute_le : i.minute ≤ 59
  second_le : i.second ≤ 60

theorem isValid_iff {i : Instant} : i.isValid = true ↔ isCovered i.year = true ∧ i.Sound := by
  simp only [isValid, Bool.and_eq_true, decide_eq_true_eq]
  constructor
  · rintro ⟨⟨⟨⟨⟨⟨⟨hyear, hmonth⟩, hmonth'⟩, hday⟩, hday'⟩, hhour⟩, hminute⟩, hsecond⟩
    exact ⟨hyear, hmonth, hmonth', hday, hday', hhour, hminute, hsecond⟩
  · rintro ⟨hyear, hmonth, hmonth', hday, hday', hhour, hminute, hsecond⟩
    exact ⟨⟨⟨⟨⟨⟨⟨hyear, hmonth⟩, hmonth'⟩, hday⟩, hday'⟩, hhour⟩, hminute⟩, hsecond⟩

theorem valid?_eq_some_iff {i j : Instant} :
    valid? i = some j ↔ i = j ∧ isCovered i.year = true ∧ i.Sound := by
  rw [← isValid_iff, valid?]
  split
  · rename_i hvalid
    simp [hvalid]
  · rename_i hvalid
    simp [hvalid]

section Shift

variable {i : Instant}

theorem daysIn_bounds (year : Int) (month : Nat) :
    1 ≤ daysIn year month ∧ daysIn year month ≤ 31 := by
  unfold daysIn
  grind

theorem Sound.nextDay (h : i.Sound) : i.nextDay.Sound := by
  obtain ⟨hmonth, hmonth', hday, hday', hhour, hminute, hsecond⟩ := h
  unfold Instant.nextDay
  split
  · rename_i hlt
    exact ⟨hmonth, hmonth', by simp, hlt, hhour, hminute, hsecond⟩
  split
  · rename_i hlt
    exact ⟨by simp, hlt, Nat.le_refl 1, (daysIn_bounds _ _).1, hhour, hminute, hsecond⟩
  · exact ⟨Nat.le_refl 1, by simp, Nat.le_refl 1, (daysIn_bounds _ _).1, hhour, hminute, hsecond⟩

theorem Sound.previousDay (h : i.Sound) : i.previousDay.Sound := by
  obtain ⟨hmonth, hmonth', hday, hday', hhour, hminute, hsecond⟩ := h
  unfold Instant.previousDay
  split
  · rename_i hlt
    exact ⟨hmonth, hmonth', Nat.le_sub_one_of_lt hlt, Nat.le_trans (Nat.sub_le _ _) hday', hhour,
      hminute, hsecond⟩
  split
  · rename_i hlt
    exact ⟨Nat.le_sub_one_of_lt hlt, Nat.le_trans (Nat.sub_le _ _) hmonth', (daysIn_bounds _ _).1,
      Nat.le_refl _, hhour, hminute, hsecond⟩
  · exact ⟨by simp, Nat.le_refl 12, by simp, Nat.le_refl 31, hhour, hminute, hsecond⟩

/-- Minutes of a day set the clock, whatever it showed. -/
theorem Sound.set (h : i.Sound) {clock : Int} (hpos : 0 ≤ clock) (hlt : clock < 1440) :
    Sound { i with hour := (clock / 60).toNat, minute := (clock % 60).toNat } where
  month_pos := h.month_pos
  month_le := h.month_le
  day_pos := h.day_pos
  day_le := h.day_le
  hour_le := by
    simp only
    omega
  minute_le := by
    simp only
    omega
  second_le := h.second_le

/-- Less than a day is taken off by going over at most one midnight. -/
theorem Sound.earlier (h : i.Sound) {minutes : Int} (hlow : -1440 < minutes)
    (hhigh : minutes < 1440) : (i.earlier minutes).Sound := by
  have hhour := h.hour_le
  have hminute := h.minute_le
  unfold Instant.earlier
  simp only
  split
  · exact h.previousDay.set (by omega) (by omega)
  split
  · exact h.nextDay.set (by omega) (by omega)
  · exact h.set (by omega) (by omega)

end Shift

section Read

variable {t : Text} {i : Instant}

theorem sound_of_basic? (h : basic? t = some i) : i.Sound := by
  unfold basic? at h
  simp only [Option.bind_eq_bind, Option.bind_eq_some_iff] at h
  obtain ⟨_, -, _, -, _, -, _, -, _, -, _, -, _, -, h⟩ := h
  split at h
  · obtain ⟨rfl, -, hsound⟩ := valid?_eq_some_iff.mp h
    exact hsound
  · cases h

theorem offset?_lt {minutes : Int} (h : offset? t = some minutes) :
    -1440 < minutes ∧ minutes < 1440 := by
  unfold offset? at h
  split at h
  · obtain rfl := Option.some.inj h
    omega
  simp only [Option.bind_eq_bind, Option.bind_eq_some_iff] at h
  obtain ⟨⟨sign, _⟩, hsign, ⟨hours, _⟩, -, _, -, ⟨minutes', _⟩, -, h⟩ := h
  split at h
  · rename_i hbounds
    obtain rfl := Option.some.inj h
    have hunit : sign = 1 ∨ sign = -1 := by
      unfold offsetSign? sign? at hsign
      grind
    rcases hunit with rfl | rfl <;> omega
  · cases h

theorem sound_of_internet? (h : internet? t = some i) : i.Sound := by
  unfold internet? at h
  simp only [Option.bind_eq_bind, Option.bind_eq_some_iff] at h
  obtain ⟨_, -, _, -, _, -, _, -, _, -, _, -, _, -, _, -, _, -, _, -, _, -, _, -, offset, hoffset,
    written, hwritten, h⟩ := h
  obtain rfl := Option.some.inj h
  obtain ⟨rfl, -, hsound⟩ := valid?_eq_some_iff.mp hwritten
  exact hsound.earlier (offset?_lt hoffset).1 (offset?_lt hoffset).2

/-- Whatever form an instant is read from, it is one of the calendar. -/
theorem sound_of_parse? (h : parse? t = some i) : i.Sound := by
  rcases Option.or_eq_some_iff.mp h with h | ⟨-, h⟩
  · exact sound_of_basic? h
  · exact sound_of_internet? h

end Read

end Rtsp.Instant
