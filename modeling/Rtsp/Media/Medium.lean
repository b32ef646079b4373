import Rtsp.Media.Format

/-!
One elementary stream that a server offers: what it is, how it is addressed, and the formats in
which it may arrive.
-/
namespace Rtsp.Media

inductive Kind
  | video
  | audio
  | application
  deriving DecidableEq, Repr

namespace Kind

def all : List Kind := [.video, .audio, .application]

def name : Kind → Text
  | .video => "video".toList
  | .audio => "audio".toList
  | .application => "application".toList

/-- Letter case counts. -/
def ofName? (name : Text) : Option Kind := all.find? fun k => k.name == name

theorem ofName?_name (k : Kind) : ofName? k.name = some k := by cases k <;> decide

end Kind

structure Medium where
  kind : Kind
  control : Text
  formats : List Format
  deriving DecidableEq, Repr

namespace Medium

def format? (m : Medium) (payloadType : UInt8) : Option Format :=
  m.formats.find? fun f => f.payloadType == payloadType

/-- The formats in one line. -/
def codecs (m : Medium) : Text := [',', ' '].intercalate (m.formats.map Format.codec)

end Medium

end Rtsp.Media
