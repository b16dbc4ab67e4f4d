import TimingFleet.Session.Basic

/-!
# Requests

Everything an operation can ask of a session, as data.  A request has a reply of its own type, and
answering it is one of the session's operations.
-/

namespace TimingFleet

/-- One request to a session. -/
inductive Request where
  | hasNode (path : NodePath)
  | subNodes (path : NodePath)
  | read (path : NodePath)
  | readBlock (path : NodePath) (words : Nat)
  | write (path : NodePath) (value : UInt32)
  | writeBlock (path : NodePath) (values : List UInt32)
  | dispatch
  | wordValue (handle : WordHandle)
  | blockValue (handle : BlockHandle)
  deriving DecidableEq, Repr

/-- The type of the reply to a request. -/
@[reducible] def Request.Reply : Request → Type
  | .hasNode _ => Bool
  | .subNodes _ => List String
  | .read _ => WordHandle
  | .readBlock _ _ => BlockHandle
  | .write _ _ => Unit
  | .writeBlock _ _ => Unit
  | .dispatch => Unit
  | .wordValue _ => UInt32
  | .blockValue _ => List UInt32

/-- Answers a request. -/
def Session.answer (s : Session) : (r : Request) → Outcome Session r.Reply
  | .hasNode path => .ok (s.hasNode path) s
  | .subNodes path => ⟨s.subNodes path, s, []⟩
  | .read path => s.read path
  | .readBlock path words => s.readBlock path words
  | .write path value => s.write path value
  | .writeBlock path values => s.writeBlock path values
  | .dispatch => s.dispatch
  | .wordValue h => ⟨s.wordValue h, s, []⟩
  | .blockValue h => ⟨s.blockValue h, s, []⟩

/-- Sessions reached under the names `ι` in a state `σ`. -/
class Stations (ι σ : Type) where
  /-- Answers a request to the session at `i`. -/
  answer : (i : ι) → (r : Request) → σ → Outcome σ r.Reply

/-- A single session has no name. -/
instance : Stations Unit Session where
  answer _ r s := s.answer r

end TimingFleet
