import TimingFleet.Clock.Duration
import TimingFleet.Error

/-!
# Outcomes

What an operation leaves behind: a result or an error, the state it ends in, and the events it caused.
The state is there also when the operation failed.
-/

namespace TimingFleet

/-- The severity of a log line. -/
inductive Level where
  | warn
  | info
  | debug
  deriving DecidableEq, Repr

/-- Something an operation does besides changing its state. -/
inductive Event where
  /-- A line for the log. -/
  | log (level : Level) (text : String)
  /-- Time given to hardware to settle. -/
  | pause (duration : Duration)
  /-- Text for the operator. -/
  | print (text : String)
  deriving DecidableEq, Repr

/-- The result, final state and events of an operation. -/
structure Outcome (σ α : Type) where
  result : Except Error α
  state : σ
  events : List Event := []

namespace Outcome

variable {σ τ α β : Type}

/-- A success without events. -/
def ok (a : α) (s : σ) : Outcome σ α := ⟨.ok a, s, []⟩

/-- A failure without events. -/
def error (e : Error) (s : σ) : Outcome σ α := ⟨.error e, s, []⟩

/-- The same outcome after earlier events. -/
def after (events : List Event) (o : Outcome σ α) : Outcome σ α :=
  { o with events := events ++ o.events }

/-- Goes on from a success with its result and its state; a failure stays as it is. -/
def andThen (o : Outcome σ α) (f : α → σ → Outcome σ β) : Outcome σ β :=
  match o.result with
  | .ok a => (f a o.state).after o.events
  | .error e => ⟨.error e, o.state, o.events⟩

/-- The same outcome seen as one of a larger state. -/
def inState (f : σ → τ) (o : Outcome σ α) : Outcome τ α := ⟨o.result, f o.state, o.events⟩

@[simp] theorem result_after (es : List Event) (o : Outcome σ α) : (o.after es).result = o.result := rfl

@[simp] theorem state_after (es : List Event) (o : Outcome σ α) : (o.after es).state = o.state := rfl

theorem after_andThen (es : List Event) (o : Outcome σ α) (f : α → σ → Outcome σ β) :
    (o.after es).andThen f = (o.andThen f).after es := by
  obtain ⟨r, s, fs⟩ := o
  cases r <;> simp [andThen, after]

end Outcome

end TimingFleet
