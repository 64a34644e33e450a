import JsonTyping.Pattern.CharSet

/-!
# Pattern expressions

Expressions are kept in a normal form, which the constructors in this module produce: a sequence
holds no sequence as its first part and no empty part, neighbouring literals are one literal, a
choice holds no choice as its first alternative, a choice among characters is a set, and a set of
one character is a literal. The normal form does not matter for what an expression matches; it
decides how much room its automaton takes.
-/

namespace JsonTyping.Pattern

/-! ### Assertions -/

/--
A condition on the place between two characters. Those about words say whether words are made of
the word characters of all scripts or of those of ASCII only.
-/
inductive Assertion where
  | textStart
  | textEnd
  /-- The start of the text or the place after a line feed. -/
  | lineStart
  /-- The end of the text or the place before a line feed. -/
  | lineEnd
  /-- The start of a line where a carriage return also ends lines, alone or before a line feed. -/
  | lineStartAnyBreak
  /-- The end of such a line. -/
  | lineEndAnyBreak
  /-- A word character on exactly one side. -/
  | wordBoundary (unicode : Bool)
  /-- A word character on both sides or on neither. -/
  | noWordBoundary (unicode : Bool)
  /-- A word character after but not before. -/
  | wordStart (unicode : Bool)
  /-- A word character before but not after. -/
  | wordEnd (unicode : Bool)
  /-- No word character before. -/
  | wordStartHalf (unicode : Bool)
  /-- No word character after. -/
  | wordEndHalf (unicode : Bool)
deriving DecidableEq

/-- Whether there is a word character at one side of a place. -/
def isWordSide (unicode : Bool) (side : Option Char) : Bool :=
  side.any (if unicode then CharSet.word else CharSet.asciiWord).contains

/-- Whether an assertion holds between two neighbours, of which the ends of the text have one. -/
def Assertion.holds (before after : Option Char) : Assertion → Bool
  | textStart => before.isNone
  | textEnd => after.isNone
  | lineStart => before.isNone || before == some '\n'
  | lineEnd => after.isNone || after == some '\n'
  | lineStartAnyBreak =>
    before.isNone || before == some '\n' || (before == some '\r' && after != some '\n')
  | lineEndAnyBreak =>
    after.isNone || after == some '\r' || (after == some '\n' && before != some '\r')
  | wordBoundary unicode => isWordSide unicode before != isWordSide unicode after
  | noWordBoundary unicode => isWordSide unicode before == isWordSide unicode after
  | wordStart unicode => !isWordSide unicode before && isWordSide unicode after
  | wordEnd unicode => isWordSide unicode before && !isWordSide unicode after
  | wordStartHalf unicode => !isWordSide unicode before
  | wordEndHalf unicode => !isWordSide unicode after

/-! ### Expressions -/

/-- A pattern expression. -/
inductive Expr where
  | empty
  /-- Some characters one after the other. -/
  | literal (chars : List Char)
  /-- One character of a set. -/
  | chars (set : CharSet)
  | assertion (a : Assertion)
  | sequence (first rest : Expr)
  | choice (first rest : Expr)
  /-- So many repetitions at least and, if there is a limit, at most. -/
  | times (body : Expr) (low : Nat) (high : Option Nat) (greedy : Bool)
  /-- A group with its number. -/
  | group (number : Nat) (body : Expr)
deriving DecidableEq

namespace Expr

/-! ### Measures -/

/-- Whether all matches of an expression are empty. -/
def isWidthless : Expr → Bool
  | empty | assertion _ => true
  | literal _ | chars _ => false
  | sequence first rest | choice first rest => first.isWidthless && rest.isWidthless
  | times body _ _ _ | group _ body => body.isWidthless

/-- A lower limit for the length of matches, if every part of the expression can be matched. -/
def leastLength? : Expr → Option Nat
  | empty | assertion _ => some 0
  | literal cs => some cs.length
  | chars set => if set.ranges = [] then none else some 1
  | sequence first rest => do some ((← first.leastLength?) + (← rest.leastLength?))
  | choice first rest => do some (min (← first.leastLength?) (← rest.leastLength?))
  | times body low _ _ => do some ((← body.leastLength?) * low)
  | group _ body => body.leastLength?

/-- Whether matches are known to take at least one character. -/
def alwaysConsumes (e : Expr) : Bool := e.leastLength?.any (0 < ·)

/-- Whether matches are known to begin with an assertion, before any character. -/
def startsWith (a : Assertion) : Expr → Bool
  | empty | literal _ | chars _ => false
  | assertion b => a = b
  | sequence first rest => first.startsWith a || (first.isWidthless && rest.startsWith a)
  | choice first rest => first.startsWith a && rest.startsWith a
  | times body low _ _ => 0 < low && body.startsWith a
  | group _ body => body.startsWith a

/-- Whether matches are known to end with an assertion, after all characters. -/
def endsWith (a : Assertion) : Expr → Bool
  | empty | literal _ | chars _ => false
  | assertion b => a = b
  | sequence first rest => rest.endsWith a || (rest.isWidthless && first.endsWith a)
  | choice first rest => first.endsWith a && rest.endsWith a
  | times body low _ _ => 0 < low && body.endsWith a
  | group _ body => body.endsWith a

/-! ### Sets and repetitions -/

/-- One character of a set. -/
def ofSet (set : CharSet) : Expr :=
  match set.only? with
  | some c => literal [c]
  | none => chars set

/-- A repetition. What takes no room need not be repeated more than once. -/
def repeated (body : Expr) (low : Nat) (high : Option Nat) (greedy : Bool) : Expr :=
  let (low, high) :=
    if body.isWidthless then (min low 1, some (min (high.getD 1) 1)) else (low, high)
  if high = some 0 then empty
  else if low = 1 ∧ high = some 1 then body
  else times body low high greedy

/-! ### Sequences -/

/-- The parts of a sequence; anything else is its own only part. -/
def parts : Expr → List Expr
  | empty => []
  | sequence first rest => first :: rest.parts
  | e => [e]

/-- The sequence of some parts. -/
def ofParts : List Expr → Expr
  | [] => empty
  | [e] => e
  | e :: rest => sequence e (ofParts rest)

/-- Puts a part in front of others, and a literal together with a literal. -/
def prepend : Expr → List Expr → List Expr
  | literal cs, literal ds :: rest => literal (cs ++ ds) :: rest
  | e, rest => e :: rest

/-- The expressions one after the other. -/
def concat (es : List Expr) : Expr := ofParts ((es.flatMap parts).foldr prepend [])

/-! ### Choices -/

/-- The alternatives of a choice; anything else is its own only alternative. -/
def alternatives : Expr → List Expr
  | choice first rest => first :: rest.alternatives
  | e => [e]

/-- The choice among some alternatives. -/
def ofAlternatives : List Expr → Expr
  | [] => chars .none
  | [e] => e
  | e :: rest => choice e (ofAlternatives rest)

/-- The character that is all that an expression matches. -/
def onlyChar? : Expr → Option Char
  | literal [c] => some c
  | _ => none

/-- The set of which an expression matches one character. -/
def onlySet? : Expr → Option CharSet
  | chars set => some set
  | _ => none

/-- A choice among single characters, or among sets, is one set. -/
def merged? (es : List Expr) : Option Expr :=
  match es.mapM onlyChar? with
  | some cs => some (ofSet (.ofChars cs))
  | none => (es.mapM onlySet?).map fun sets ↦ ofSet (.ofRanges (sets.flatMap CharSet.ranges))

/-- The parts that two lists have in common at the front. -/
def commonParts : List Expr → List Expr → List Expr
  | e :: rest, e' :: rest' => if e = e' then e :: commonParts rest rest' else []
  | _, _ => []

/-- The parts that all expressions have in common at the front, if all are sequences. -/
def sharedParts : List Expr → List Expr
  | [] => []
  | first :: rest =>
    if (first :: rest).all fun e ↦ 2 ≤ e.parts.length then
      rest.foldl (fun shared e ↦ commonParts shared e.parts) first.parts
    else
      []

/--
A choice among expressions. What sequences have in common at the front is taken out of the choice;
what is left has nothing in common, so one round is enough.
-/
def alternation (es : List Expr) : Expr :=
  match es.flatMap alternatives with
  | [e] => e
  | es =>
    (merged? es).getD <|
      match sharedParts es with
      | [] => ofAlternatives es
      | shared =>
        let rests := (es.map fun e ↦ concat (e.parts.drop shared.length)).flatMap alternatives
        concat (shared ++ [(merged? rests).getD (ofAlternatives rests)])

end Expr

end JsonTyping.Pattern
