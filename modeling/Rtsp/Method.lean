import Rtsp.Text.Basic

/-!
The requests that a client sends.
-/
namespace Rtsp

inductive Method
  | options
  | describe
  | setup
  | play
  | teardown
  | getParameter
  deriving DecidableEq, Repr

namespace Method

def all : List Method := [.options, .describe, .setup, .play, .teardown, .getParameter]

/-- The name on the wire. -/
def name : Method → Text
  | .options => "OPTIONS".toList
  | .describe => "DESCRIBE".toList
  | .setup => "SETUP".toList
  | .play => "PLAY".toList
  | .teardown => "TEARDOWN".toList
  | .getParameter => "GET_PARAMETER".toList

def ofName? (name : Text) : Option Method := all.find? fun m => m.name == name

theorem ofName?_name (m : Method) : ofName? m.name = some m := by cases m <;> decide

end Method

end Rtsp
