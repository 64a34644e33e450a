import JsonTyping.Pattern.Occurrence
import JsonTyping.Pattern.Reader

/-!
# Patterns

A pattern is a text that has been compiled. What the library asks of a pattern is the text, which
stands for the pattern in reports and in comparisons, and whether the pattern occurs in another
text.

The first does not determine the second. A predicate may be given a pattern that was compiled
elsewhere, with options that its text does not show: flags, another line terminator, octal escapes.
So nothing is assumed of how a pattern occurs in texts. The library itself compiles patterns with
`Pattern.ofText?`, without any options, and these are the same if their texts are.
-/

namespace JsonTyping

/-- A compiled pattern. -/
structure Pattern where
  /-- The text that was compiled. -/
  source : String
  /-- Whether the pattern occurs in a text. -/
  occursIn : String → Bool

namespace Pattern

/-- Compiles a text with some flags set, if it is well formed. -/
def compile? (flags : Flags) (source : String) : Option Pattern := do
  let expr ← Expr.ofText? flags source.toList
  some ⟨source, fun text ↦ expr.occursIn text.toList⟩

/-- The pattern with a text, if the text is well formed. -/
def ofText? : String → Option Pattern := compile? .initial

/-- With the same flags, texts determine patterns. -/
theorem eq_of_compile? {flags : Flags} {p q : Pattern}
    (compiled : compile? flags p.source = some p) (compiled' : compile? flags q.source = some q)
    (same : p.source = q.source) : p = q := by
  rw [same, compiled'] at compiled
  exact (Option.some.inj compiled).symm

end Pattern

end JsonTyping
