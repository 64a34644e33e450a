import JsonTyping.Text.Ranges

/-!
# White space

The characters with the Unicode property `White_Space`, and the trimming of text at both ends. The
zero-width space and the byte order mark are not white space.
-/

namespace JsonTyping

/-- The code points of the Unicode property `White_Space`. -/
def blankRanges : CharRanges :=
  [(0x9, 0xD), (0x20, 0x20), (0x85, 0x85), (0xA0, 0xA0), (0x1680, 0x1680), (0x2000, 0x200A),
    (0x2028, 0x2029), (0x202F, 0x202F), (0x205F, 0x205F), (0x3000, 0x3000)]

/-- Whether a character is white space. -/
def isBlank (c : Char) : Bool := blankRanges.contains c

/-- Drops white space at the front. -/
def trimFront (cs : List Char) : List Char := cs.dropWhile isBlank

/-- Drops white space at both ends. -/
def trim (cs : List Char) : List Char := (trimFront (trimFront cs).reverse).reverse

/-- Drops white space at both ends of a string. -/
def trimText (s : String) : String := String.ofList (trim s.toList)

/-- No visible ASCII character is white space. -/
theorem isBlank_of_visible {c : Char} (h : 0x21 ≤ c.toNat ∧ c.toNat ≤ 0x7e) :
    isBlank c = false := by
  simp [isBlank, CharRanges.contains, blankRanges]
  omega

theorem isBlank_of_isDigit {c : Char} (h : c.isDigit = true) : isBlank c = false := by
  have := Char.isDigit_iff_toNat.1 h
  exact isBlank_of_visible ⟨Nat.le_trans (by decide) this.1, Nat.le_trans this.2 (by decide)⟩

theorem trimFront_cons_of_not_blank {c : Char} (cs : List Char) (h : isBlank c = false) :
    trimFront (c :: cs) = c :: cs :=
  List.dropWhile_cons_of_neg (Bool.eq_false_iff.1 h)

/-- A text without white space is left alone. -/
theorem trim_eq_self {cs : List Char} (h : ∀ c ∈ cs, isBlank c = false) : trim cs = cs := by
  have trimFront_eq_self {ds : List Char} (h : ∀ c ∈ ds, isBlank c = false) :
      trimFront ds = ds := by
    cases ds with
    | nil => rfl
    | cons d ds => exact trimFront_cons_of_not_blank ds (h d List.mem_cons_self)
  rw [trim, trimFront_eq_self h, trimFront_eq_self, List.reverse_reverse]
  exact fun c mem ↦ h c (List.mem_reverse.1 mem)

end JsonTyping
