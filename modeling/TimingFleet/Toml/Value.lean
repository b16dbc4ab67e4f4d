/-!
# Values of TOML

What a document holds.  Floats and moments are kept as they are written.
-/

namespace TimingFleet.Toml

/-- A value. -/
inductive Value where
  | text (text : String)
  | integer (n : Int)
  | float (numeral : String)
  | boolean (b : Bool)
  /-- A date, a time of day, or both. -/
  | moment (text : String)
  | array (items : List Value)
  /-- The entries of a table; no two have the same key. -/
  | table (entries : List (String × Value))
  deriving Repr

end TimingFleet.Toml
