import JsonTyping.Pattern.Expr

/-!
# Occurrences of expressions in a text

The meaning of an expression on a fixed text is a function on sets of positions: from the positions
where a match may begin to the positions where one may end. Position `i` lies before the character
number `i`. Whether a pattern occurs in a text needs no more than that, so neither the order of
alternatives nor the greed of repetitions plays a part.

A set of positions is a natural number, position `i` being its bit `i`. All these functions
distribute over unions. So a repetition without a limit remembers the positions from which it has
been entered and goes on only from new ones, however often it is asked; each position is new once.
-/

namespace JsonTyping.Pattern

/-- The positions at which a list holds what satisfies a test. -/
def positionsOf {α : Type} (test : α → Bool) (xs : List α) : Nat :=
  xs.foldr (fun x positions ↦ 2 * positions + (test x).toNat) 0

/-- The positions of the first set that are not in the second. -/
def without (positions others : Nat) : Nat := positions ^^^ (positions &&& others)

/-- A text as patterns see it: its characters, and the neighbours of each position. -/
structure Subject where
  chars : List Char
  gaps : List (Option Char × Option Char)

/-- The subject for a text. -/
def Subject.ofText (chars : List Char) : Subject :=
  ⟨chars, (none :: chars.map some).zip (chars.map some ++ [none])⟩

/-! ### Courses -/

/-- What an expression does on a fixed text. -/
inductive Course where
  /-- Goes nowhere. -/
  | stay
  /-- Takes the character at one of some positions. -/
  | move (starts : Nat)
  /-- Passes at some positions only. -/
  | check (places : Nat)
  | series (first second : Course)
  | branches (first second : Course)
  /-- At least one round. -/
  | loop (body : Course)
  /-- So many rounds. -/
  | exactly (body : Course) (rounds : Nat)
  /-- So many rounds at most. -/
  | upTo (body : Course) (rounds : Nat)

namespace Course

/-- The course of an expression on a text. -/
def ofExpr (subject : Subject) : Expr → Course
  | .empty => stay
  | .literal cs =>
    cs.foldr (fun c rest ↦ series (move (positionsOf (· == c) subject.chars)) rest) stay
  | .chars set => move (positionsOf set.contains subject.chars)
  | .assertion a => check (positionsOf (fun (before, after) ↦ a.holds before after) subject.gaps)
  | .sequence first rest => series (ofExpr subject first) (ofExpr subject rest)
  | .choice first rest => branches (ofExpr subject first) (ofExpr subject rest)
  | .group _ body => ofExpr subject body
  | .times body low high _ =>
    let body := ofExpr subject body
    match low, high with
    | 0, none => branches stay (loop body)
    | low + 1, none => series (exactly body low) (loop body)
    | low, some high => series (exactly body low) (upTo body (high - low))

/-- The positions from which the loops of a course have been entered so far. -/
inductive Trace where
  | fresh
  | pair (first second : Trace)
  | loop (seen : Nat) (body : Trace)

/-- The traces of two parts. -/
def Trace.split : Trace → Trace × Trace
  | pair first second => (first, second)
  | _ => (fresh, fresh)

/-- The positions seen by a loop and the trace of its body. -/
def Trace.enter : Trace → Nat × Trace
  | loop seen body => (seen, body)
  | _ => (0, fresh)

/--
Takes rounds as long as there are new positions, so many rounds at most. Returns the positions
reached and `found`, the positions seen, and the trace of the body.
-/
def explore (step : Trace → Nat → Nat × Trace) :
    Nat → Nat → Trace → Nat → Nat → Nat × Nat × Trace
  | 0, seen, trace, _, found => (found, seen, trace)
  | rounds + 1, seen, trace, positions, found =>
    let positions := without positions seen
    if positions = 0 then (found, seen, trace)
    else
      let (reached, trace) := step trace positions
      explore step rounds (seen ||| positions) trace reached (found ||| reached)

/-- Takes so many rounds, which are cut short where a round changes nothing. -/
def iterate (step : Nat → Nat) : Nat → Nat → Nat
  | 0, positions => positions
  | rounds + 1, positions =>
    let reached := step positions
    if reached = positions then positions else iterate step rounds reached

/--
The positions at which a course may end that begins at one of the given positions. Loops leave out
what they have reached before, as their traces tell; `limit` is the number of positions.
-/
def run (limit : Nat) : Course → Trace → Nat → Nat × Trace
  | stay, trace, positions => (positions, trace)
  | move starts, trace, positions => ((positions &&& starts) <<< 1, trace)
  | check places, trace, positions => (positions &&& places, trace)
  | series first second, trace, positions =>
    let (middle, firstTrace) := first.run limit trace.split.1 positions
    let (reached, secondTrace) := second.run limit trace.split.2 middle
    (reached, .pair firstTrace secondTrace)
  | branches first second, trace, positions =>
    let (reached, firstTrace) := first.run limit trace.split.1 positions
    let (reached', secondTrace) := second.run limit trace.split.2 positions
    (reached ||| reached', .pair firstTrace secondTrace)
  | loop body, trace, positions =>
    let (seen, bodyTrace) := trace.enter
    let (found, seen, bodyTrace) := explore (body.run limit) limit seen bodyTrace positions 0
    (found, .loop seen bodyTrace)
  | exactly body rounds, trace, positions =>
    (iterate (fun positions ↦ (body.run limit .fresh positions).1) rounds positions, trace)
  | upTo body rounds, trace, positions =>
    let (found, _, _) := explore (body.run limit) (min rounds limit) 0 .fresh positions positions
    (found, trace)

end Course

/-- Whether an expression has a match somewhere in a text. -/
def Expr.occursIn (e : Expr) (text : List Char) : Bool :=
  let subject := Subject.ofText text
  let limit := subject.gaps.length
  ((Course.ofExpr subject e).run limit .fresh (1 <<< limit - 1)).1 != 0

end JsonTyping.Pattern
