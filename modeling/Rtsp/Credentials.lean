import Rtsp.Text.Quoted

/-!
A user name and a password. No password and an empty one are not the same, though both answer a
challenge alike.
-/
namespace Rtsp

structure Credentials where
  username : Text
  password : Option Text
  deriving DecidableEq, Repr

namespace Credentials

/-- The password that answers a challenge. -/
def secret (c : Credentials) : Text := c.password.getD []

/-- The credentials as they may be shown: without the password, but with whether there is one. -/
def redacted (c : Credentials) : Text :=
  "Credentials \x7b username: ".toList ++ Text.Quoted.encode c.username ++
    ", password: ".toList ++
    (if c.password.isSome then "Some(\"<redacted>\")".toList else "None".toList) ++
    " \x7d".toList

end Credentials

end Rtsp
