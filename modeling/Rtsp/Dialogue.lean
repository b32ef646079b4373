import Rtsp.Halt
import Rtsp.Request
import Rtsp.Response

/-!
A dialogue is what one side of a conversation will say: it is over, or it asks and goes on
according to the response. Who responds is left open, so that what holds of a dialogue holds
against every server. Carried out with a server, it ends where the server fails to respond.
-/
namespace Rtsp

inductive Dialogue (α : Type)
  | done (result : Except Halt α)
  | ask (request : Request) (next : Response → Dialogue α)

/-- A way to get a response, which changes the state of whoever gives it. -/
abbrev Exchange (σ : Type) := σ → Request → Except Halt Response × σ

namespace Dialogue

variable {α β σ : Type}

def fail (f : Fault) : Dialogue α := .done (.error (.fault f))

def andThen (k : α → Dialogue β) : Dialogue α → Dialogue β
  | .done (.ok x) => k x
  | .done (.error h) => .done (.error h)
  | .ask request next => .ask request fun response => andThen k (next response)

instance : Monad Dialogue where
  pure x := .done (.ok x)
  bind d k := andThen k d

/-- The dialogue carried out from a state of the server's side. -/
def run (exchange : Exchange σ) : Dialogue α → σ → Except Halt α × σ
  | .done result, s => (result, s)
  | .ask request next, s =>
    match exchange s request with
    | (.ok response, s) => (next response).run exchange s
    | (.error h, s) => (.error h, s)

theorem run_andThen (exchange : Exchange σ) (d : Dialogue α) (k : α → Dialogue β) (s : σ) :
    (andThen k d).run exchange s =
      match d.run exchange s with
      | (.ok x, s) => (k x).run exchange s
      | (.error h, s) => (.error h, s) := by
  induction d generalizing s with
  | done result => cases result <;> rfl
  | ask request next ih =>
    simp only [andThen, run]
    cases exchange s request with
    | mk reply s' =>
      cases reply with
      | ok response => exact ih response s'
      | error h => rfl

/-- What a dialogue says against a server that responds by all requests so far, and how it ends. -/
def against (server : List Request → Except Halt Response) (d : Dialogue α) :
    Except Halt α × List Request :=
  d.run (fun said request => (server (said ++ [request]), said ++ [request])) []

end Dialogue

end Rtsp
