/-!
# Blank characters and trimming

The blank characters are the twenty-five code points with the property `White_Space`.  Trimming
removes them from one or both ends of a text, and a text is blank when it holds nothing else.
-/

namespace TimingFleet.Text

/-- A character with the property `White_Space`. -/
def isBlank (c : Char) : Bool :=
  let n := c.toNat
  (0x09 ≤ n && n ≤ 0x0d) || n == 0x20 || n == 0x85 || n == 0xa0 || n == 0x1680 ||
    (0x2000 ≤ n && n ≤ 0x200a) || n == 0x2028 || n == 0x2029 || n == 0x202f || n == 0x205f ||
    n == 0x3000

/-- The text without its leading blanks. -/
def trimStart (cs : List Char) : List Char := cs.dropWhile isBlank

/-- The text without its trailing blanks. -/
def trimEnd (cs : List Char) : List Char := (cs.reverse.dropWhile isBlank).reverse

/-- The text without blanks at either end. -/
def trim (cs : List Char) : List Char := trimEnd (trimStart cs)

/-- A text of blanks only; the empty text is one. -/
def blank (cs : List Char) : Bool := cs.all isBlank

/-! ## Trimming -/

theorem trimStart_append_of_blank {ws : List Char} (h : blank ws) (cs : List Char) :
    trimStart (ws ++ cs) = trimStart cs := by
  induction ws with
  | nil => rfl
  | cons w ws ih =>
    simp only [blank, List.all_cons, Bool.and_eq_true] at h
    simp only [trimStart, List.cons_append, List.dropWhile_cons, h.1, if_true]
    exact ih h.2

theorem trimEnd_append_of_blank {ws : List Char} (h : blank ws) (cs : List Char) :
    trimEnd (cs ++ ws) = trimEnd cs := by
  have hr : blank ws.reverse := by simpa [blank] using h
  simp only [trimEnd, List.reverse_append]
  congr 1
  exact trimStart_append_of_blank hr cs.reverse

end TimingFleet.Text
