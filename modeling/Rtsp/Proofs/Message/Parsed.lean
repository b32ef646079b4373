import Rtsp.Decoder
import Rtsp.Proofs.Result

/-!
What stands behind a message that was read, and behind one that was not. A start line was found and
is what the message tells of itself, and the lines behind it, up to the first empty one, are its
header. Where no message is read the fault is in one of these.
-/
namespace Rtsp

theorem Header.mapM_of_ofLines {lines : List Text} {h : Header} (hread : ofLines lines = .ok h) :
    (lines.takeWhile (· != [])).mapM field? = some h := by
  unfold ofLines at hread
  split at hread
  · rename_i h' hmap
    rw [hmap, Except.ok.inj hread]
  · cases hread

theorem Header.cause_of_ofLines {lines : List Text} {cause : ParseFault}
    (h : ofLines lines = .error cause) : cause = .header := by
  unfold ofLines at h
  split at h
  · cases h
  · exact (Except.error.inj h).symm

namespace Response

theorem exists_lines_of_parse {t : Text} {r : Response} (h : parse t = .ok r) :
    ∃ start lines, Text.lines t = start :: lines ∧ status? start = some (r.status, r.reason) ∧
      Header.ofLines lines = .ok r.header ∧ r.body = none := by
  unfold parse at h
  split at h
  · cases h
  rename_i start lines hlines
  split at h
  · cases h
  rename_i status reason hstatus
  obtain ⟨header, hread, rfl⟩ := exists_of_map_eq_ok h
  exact ⟨start, lines, hlines, hstatus, hread, rfl⟩

theorem cause_of_parse {t : Text} {cause : ParseFault} (h : parse t = .error cause) :
    cause = .empty ∨ cause = .statusLine ∨ cause = .header := by
  unfold parse at h
  split at h
  · exact .inl (Except.error.inj h).symm
  split at h
  · exact .inr (.inl (Except.error.inj h).symm)
  · exact .inr (.inr (Header.cause_of_ofLines (eq_error_of_map h)))

end Response

namespace Request

theorem exists_lines_of_parse {t : Text} {r : Request} (h : parse t = .ok r) :
    ∃ start lines, Text.lines t = start :: lines ∧
      Text.words start = [r.method, r.uri, r.version] ∧
      Header.ofLines lines = .ok r.header ∧ r.body = none := by
  unfold parse at h
  split at h
  · cases h
  rename_i start lines hlines
  split at h
  · rename_i method uri version hwords
    split at h
    · obtain ⟨header, hread, rfl⟩ := exists_of_map_eq_ok h
      exact ⟨start, lines, hlines, hwords, hread, rfl⟩
    · cases h
  · cases h

theorem cause_of_parse {t : Text} {cause : ParseFault} (h : parse t = .error cause) :
    cause = .empty ∨ cause = .requestLine ∨ cause = .header := by
  unfold parse at h
  split at h
  · exact .inl (Except.error.inj h).symm
  split at h
  · split at h
    · exact .inr (.inr (Header.cause_of_ofLines (eq_error_of_map h)))
    · exact .inr (.inl (Except.error.inj h).symm)
  · exact .inr (.inl (Except.error.inj h).symm)

end Request

namespace Decoder

variable {head : Text} {body : Option Text}

/-- A message is a response or a request that was read from the head, with the body. -/
theorem exists_of_parse {m : Message} (h : parse head body = .ok m) :
    (∃ r, Response.parse head = .ok r ∧ m = .response { r with body := body }) ∨
      ∃ r, Request.parse head = .ok r ∧ m = .request { r with body := body } := by
  unfold parse at h
  split at h
  · obtain ⟨r, hr, rfl⟩ := exists_of_map_eq_ok h
    exact .inl ⟨r, hr, rfl⟩
  · obtain ⟨r, hr, rfl⟩ := exists_of_map_eq_ok h
    exact .inr ⟨r, hr, rfl⟩

theorem cause_of_parse {cause : ParseFault} (h : parse head body = .error cause) :
    cause = .empty ∨ cause = .statusLine ∨ cause = .requestLine ∨ cause = .header := by
  unfold parse at h
  split at h
  · rcases Response.cause_of_parse (eq_error_of_map h) with rfl | rfl | rfl <;> simp
  · rcases Request.cause_of_parse (eq_error_of_map h) with rfl | rfl | rfl <;> simp

end Decoder

end Rtsp
