import TimingFleet.Session.Request

/-!
# Procedures

A procedure is a tree of requests to sessions at the stations `ι`, with log lines, pauses and printed
text between them.  It is run against a state that holds the sessions; what it asks for, and in which
order, can also be read off without running it.  Main statement: running a sequence of two procedures
is running the first and then, if it succeeds, the second.
-/

namespace TimingFleet

/-- A procedure on sessions at the stations `ι`. -/
inductive Procedure (ι α : Type) where
  /-- Ends with a result. -/
  | done (a : α)
  /-- Ends with an error. -/
  | fail (e : Error)
  /-- Causes an event and goes on. -/
  | emit (e : Event) (next : Procedure ι α)
  /-- Goes on with the seconds on the wall clock. -/
  | clock (next : UInt64 → Procedure ι α)
  /-- Asks the session at `i` and goes on with its reply or its error. -/
  | ask (i : ι) (r : Request) (next : Except Error r.Reply → Procedure ι α)

namespace Procedure

variable {ι κ σ α β γ : Type}

/-- Goes on with the result of a procedure. -/
def bind : Procedure ι α → (α → Procedure ι β) → Procedure ι β
  | .done a, f => f a
  | .fail e, _ => .fail e
  | .emit e p, f => .emit e (p.bind f)
  | .clock p, f => .clock fun now => (p now).bind f
  | .ask i r p, f => .ask i r fun reply => (p reply).bind f

instance : Monad (Procedure ι) where
  pure := .done
  bind := bind

/-- Ends with success in any case, and with the error as a value if there is one. -/
def attempt : Procedure ι α → Procedure ι (Except Error α)
  | .done a => .done (.ok a)
  | .fail e => .done (.error e)
  | .emit e p => .emit e p.attempt
  | .clock p => .clock fun now => (p now).attempt
  | .ask i r p => .ask i r fun reply => (p reply).attempt

/-- The same procedure at other stations. -/
def mapStations (f : ι → κ) : Procedure ι α → Procedure κ α
  | .done a => .done a
  | .fail e => .fail e
  | .emit e p => .emit e (p.mapStations f)
  | .clock p => .clock fun now => (p now).mapStations f
  | .ask i r p => .ask (f i) r fun reply => (p reply).mapStations f

/-- A procedure on one session, at station `i`. -/
def atStation (i : ι) (p : Procedure Unit α) : Procedure ι α := p.mapStations fun _ => i

/-! ## Single steps -/

/-- Ends with `e` unless there is a value. -/
def ofExcept : Except Error α → Procedure ι α
  | .ok a => .done a
  | .error e => .fail e

/-- Asks, and fails with the session's error. -/
def request (i : ι) (r : Request) : Procedure ι r.Reply := .ask i r ofExcept

/-- Writes a log line. -/
def log (level : Level) (text : String) : Procedure ι Unit := .emit (.log level text) (.done ())

/-- Prints text for the operator. -/
def print (text : String) : Procedure ι Unit := .emit (.print text) (.done ())

/-- Prints a line for the operator. -/
def printLine (text : String) : Procedure ι Unit := print (text ++ "\n")

/-- The seconds on the wall clock. -/
def now : Procedure ι UInt64 := .clock .done

/-- Waits, unless there is no time to wait. -/
def settle (what : String) (duration : Duration) : Procedure ι Unit :=
  if duration.milliseconds = 0 then .done ()
  else do
    log .debug ("Waiting " ++ duration.text ++ " for " ++ what)
    .emit (.pause duration) (.done ())

/-- Runs a procedure for each item and collects the results. -/
def each (items : List β) (f : β → Procedure ι α) : Procedure ι (List α) :=
  match items with
  | [] => .done []
  | b :: rest => do
    let a ← f b
    let more ← each rest f
    return a :: more

/-! ## Requests to a single session -/

/-- Whether a node exists. -/
def hasNode (path : NodePath) : Procedure Unit Bool := request () (.hasNode path)

/-- The names of the nodes one part below. -/
def subNodes (path : NodePath) : Procedure Unit (List String) := request () (.subNodes path)

/-- Queues the read of a word. -/
def read (path : NodePath) : Procedure Unit WordHandle := request () (.read path)

/-- Queues the read of a block. -/
def readBlock (path : NodePath) (words : Nat) : Procedure Unit BlockHandle :=
  request () (.readBlock path words)

/-- Queues the write of a word. -/
def write (path : NodePath) (value : UInt32) : Procedure Unit Unit :=
  request () (.write path value)

/-- Queues the write of a block. -/
def writeBlock (path : NodePath) (values : List UInt32) : Procedure Unit Unit :=
  request () (.writeBlock path values)

/-- Serves the batch. -/
def dispatch : Procedure Unit Unit := request () .dispatch

/-- The value behind a word handle. -/
def wordValue (h : WordHandle) : Procedure Unit UInt32 := request () (.wordValue h)

/-- The values behind a block handle. -/
def blockValue (h : BlockHandle) : Procedure Unit (List UInt32) := request () (.blockValue h)

/-! ## Running -/

/-- Runs a procedure at a wall clock that stands at `now`. -/
def run [Stations ι σ] (now : UInt64) : Procedure ι α → σ → Outcome σ α
  | .done a, s => .ok a s
  | .fail e, s => .error e s
  | .emit e p, s => (p.run now s).after [e]
  | .clock p, s => (p now).run now s
  | .ask i r p, s =>
    let o := Stations.answer i r s
    ((p o.result).run now o.state).after o.events

/-- Every state in which a run asks something, with the station and the request. -/
def asked [Stations ι σ] (now : UInt64) : Procedure ι α → σ → List (σ × ι × Request)
  | .done _, _ => []
  | .fail _, _ => []
  | .emit _ p, s => p.asked now s
  | .clock p, s => (p now).asked now s
  | .ask i r p, s =>
    let o := Stations.answer i r s
    (s, i, r) :: (p o.result).asked now o.state


/-! ## Laws -/

variable [Stations ι σ]

theorem run_bind (now : UInt64) (p : Procedure ι α) (f : α → Procedure ι β) (s : σ) :
    (p.bind f).run now s = (p.run now s).andThen fun a s => (f a).run now s := by
  induction p generalizing s with
  | done a => rfl
  | fail e => rfl
  | emit e p ih => simp only [bind, run, ih, Outcome.after_andThen]
  | clock p ih => exact ih now s
  | ask i r p ih => simp only [bind, run, ih, Outcome.after_andThen]

theorem run_attempt (now : UInt64) (p : Procedure ι α) (s : σ) :
    p.attempt.run now s = ⟨.ok (p.run now s).result, (p.run now s).state, (p.run now s).events⟩ := by
  induction p generalizing s with
  | done a => rfl
  | fail e => rfl
  | emit e p ih => simp [attempt, run, ih, Outcome.after]
  | clock p ih => exact ih now s
  | ask i r p ih => simp [attempt, run, ih, Outcome.after]

end Procedure

end TimingFleet
