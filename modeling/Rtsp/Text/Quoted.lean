import Rtsp.Text.Number
import Rtsp.Text.Printable

/-!
A text in double quotes, as it is shown in a log: quotes and backslashes have a backslash before
them, and what cannot be seen is written as an escape.
-/
namespace Rtsp.Text.Quoted

def escape (c : Char) : Text :=
  if c = '"' ∨ c = '\\' then ['\\', c]
  else if c = '\x00' then ['\\', '0']
  else if c = '\t' then ['\\', 't']
  else if c = '\n' then ['\\', 'n']
  else if c = '\r' then ['\\', 'r']
  else if isPrintable c then [c]
  else '\\' :: 'u' :: '\x7b' :: hexadecimal c.toNat ++ ['\x7d']

def encode (t : Text) : Text := '"' :: t.flatMap escape ++ ['"']

end Rtsp.Text.Quoted
