import JsonTyping.Pattern.Bracket
import JsonTyping.Pattern.Storage
import JsonTyping.Text.Recent

/-!
# Reading patterns

A pattern is read from left to right by a machine that keeps the group being read and the groups
around it. Each group remembers its finished alternatives, the items of the current alternative,
and the flags in force, which end with the group. A pattern that is malformed has no expression,
and neither has one that asks for more than patterns offer: look-around, references to groups,
deeper nesting, or an automaton beyond the size limit.

Every step takes at least one character, so the length of the pattern bounds the steps.
-/

namespace JsonTyping.Pattern

/-! ### Repetitions -/

namespace Repetition

/-- Reads a count that fits 32 bits, with white space around it. -/
def readCount? (flags : Flags) (cs : List Char) : Option (Nat × List Char) :=
  let (digits, rest) := flags.readWhile Char.isDigit (trimFront cs)
  let count := valueOfDigits digits
  if digits = [] ∨ 0x100000000 ≤ count then none else some (count, trimFront rest)

/-- Reads counts after their opening brace: exactly so many, at least so many, or a span. -/
def readCounts? (flags : Flags) (cs : List Char) : Option (Nat × Option Nat × List Char) := do
  let (low, rest) ← readCount? flags (flags.skip cs)
  match rest with
  | '\x7d' :: rest => some (low, some low, rest)
  | ',' :: rest =>
    match flags.skip rest with
    | '\x7d' :: rest => some (low, none, rest)
    | rest =>
      match ← readCount? flags rest with
      | (high, '\x7d' :: rest) => if low ≤ high then some (low, some high, rest) else none
      | _ => none
  | _ => none

/-- Drops the mark of a repetition that prefers the shorter match, and tells if there is none. -/
def readGreed : List Char → Bool × List Char
  | '?' :: rest => (false, rest)
  | cs => (true, cs)

end Repetition

/-! ### Groups -/

/-- What has been read: an expression, and how deep its text is nested. -/
structure Piece where
  expr : Expr
  height : Nat

/-- The height of a list of items, which is one more than that of its items if it has several. -/
def listHeight (heights : List Nat) : Nat :=
  heights.foldl max 0 + if heights.length < 2 then 0 else 1

/-- A group being read. -/
structure Group where
  /-- The number of the group, if it has one. -/
  number : Option Nat
  flags : Flags
  /-- The alternatives before the current one, the last one first. -/
  finished : List Piece
  /-- The items of the current alternative, the last one first; a change of flags is `none`. -/
  items : List (Option Piece)

namespace Group

/-- A group with nothing in it. -/
def start (number : Option Nat) (flags : Flags) : Group := ⟨number, flags, [], []⟩

/-- Adds an item to the current alternative. -/
def push (g : Group) (piece : Piece) : Group := { g with items := some piece :: g.items }

/-- The current alternative. -/
def alternative (g : Group) : Piece :=
  let pieces := g.items.reverse.filterMap id
  ⟨.concat (pieces.map Piece.expr),
    listHeight (g.items.map fun item ↦ (item.map Piece.height).getD 0)⟩

/-- All alternatives read so far. -/
def content (g : Group) : Piece :=
  let pieces := (g.alternative :: g.finished).reverse
  ⟨.alternation (pieces.map Piece.expr), listHeight (pieces.map Piece.height)⟩

/-- The group as an item of the group around it. -/
def piece (g : Group) : Piece :=
  let content := g.content
  match g.number with
  | some number => ⟨.group number content.expr, content.height + 1⟩
  | none => ⟨content.expr, content.height + 1⟩

/-- Begins another alternative. -/
def bar (g : Group) : Group := { g with finished := g.alternative :: g.finished, items := [] }

/-- Repeats the last item, which has to be there and must not be a change of flags. -/
def repeatLast? (g : Group) (low : Nat) (high : Option Nat) (greedy : Bool) : Option Group :=
  match g.items with
  | some ⟨e, height⟩ :: items =>
    let e := e.repeated low high (greedy != g.flags.swapGreed)
    some { g with items := some ⟨e, height + 1⟩ :: items }
  | _ => none

/-- The height of the last item. -/
def lastHeight (g : Group) : Nat :=
  match g.items with
  | some piece :: _ => piece.height
  | _ => 0

end Group

/-- The height up to which patterns may be nested. -/
def heightLimit : Nat := 250

/--
The state of reading: the current group, the groups around it, how many groups have got a number,
and the names given so far.
-/
structure Reading where
  group : Group
  outer : List Group
  numbered : Nat
  names : List (List Char)

namespace Reading

/-! ### Names of groups -/

/-- The categories of numbers, which names may not begin with. -/
def nameNumber : CharSet := .ofCategoriesAnd Category.numbers recentDigitRanges

/-- Letters of all kinds, which names may begin with. -/
def nameLetter : CharSet := .ofRanges (CharSet.alphabetic.ranges ++ recentLetterRanges)

/-- Whether a character may stand in the name of a group, at its beginning or later. -/
def isNameChar (isFirst : Bool) (c : Char) : Bool :=
  c == '_' || nameLetter.contains c ||
    (!isFirst && (nameNumber.contains c || c == '.' || c == '[' || c == ']'))

/-- Whether a text may name a group. -/
def isName : List Char → Bool
  | [] => false
  | c :: rest => isNameChar true c && rest.all (isNameChar false)

/-! ### Steps -/

/-- Begins a group inside the current one. -/
def openGroup (r : Reading) (flags : Flags) : Reading :=
  { r with group := .start none flags, outer := r.group :: r.outer }

/-- Begins a group with a number inside the current one. -/
def openNumbered (r : Reading) : Reading :=
  { r with
    group := .start (some (r.numbered + 1)) r.group.flags
    outer := r.group :: r.outer
    numbered := r.numbered + 1 }

/-- Begins a group whose name follows; no two groups may share a name. -/
def openNamed? (r : Reading) (cs : List Char) : Option (Reading × List Char) :=
  let name := cs.takeWhile (· != '>')
  match cs.drop name.length with
  | [] => none
  | _ :: rest =>
    if isName name && !r.names.contains name then
      some ({ r.openNumbered with names := name :: r.names }, rest)
    else
      none

/-- Begins a group after its opening parenthesis, or changes the flags of the current one. -/
def openParenthesis? (r : Reading) (cs : List Char) : Option (Reading × List Char) :=
  match r.group.flags.skip cs with
  | '?' :: '=' :: _ => none
  | '?' :: '!' :: _ => none
  | '?' :: '<' :: '=' :: _ => none
  | '?' :: '<' :: '!' :: _ => none
  | '?' :: 'P' :: '<' :: rest => r.openNamed? rest
  | '?' :: '<' :: rest => r.openNamed? rest
  | '?' :: rest => do
    let (flags, letters, last, rest) ← r.group.flags.read? [] rest
    if last = ':' then some (r.openGroup flags, rest)
    else if letters = [] then none
    else some ({ r with group := { r.group with flags, items := none :: r.group.items } }, rest)
  | rest => some (r.openNumbered, rest)

/-- Adds an item to the current group. -/
def push (r : Reading) (piece : Piece) : Reading := { r with group := r.group.push piece }

/-- Adds an item that is not nested. -/
def pushExpr (r : Reading) (e : Expr) : Reading := r.push ⟨e, 0⟩

/-- Adds a literal character. -/
def pushChar (r : Reading) (c : Char) : Reading :=
  r.pushExpr (.ofSet (r.group.flags.adapt (.single c)))

/-- Ends the current group, which has to be inside another one. -/
def closeParenthesis? (r : Reading) : Option Reading :=
  match r.outer with
  | [] => none
  | outer :: outers => some { r with group := outer.push r.group.piece, outer := outers }

/-- Repeats the last item, unless a question mark that stands next makes it prefer less. -/
def repeatLast? (r : Reading) (low : Nat) (high : Option Nat) (rest : List Char) :
    Option (Reading × List Char) := do
  let (greedy, rest) := Repetition.readGreed rest
  some ({ r with group := ← r.group.repeatLast? low high greedy }, rest)

/-- Takes the item that begins with a character. -/
def step? (r : Reading) (c : Char) (rest : List Char) : Option (Reading × List Char) :=
  let flags := r.group.flags
  match c with
  | '(' => r.openParenthesis? rest
  | ')' => do some (← r.closeParenthesis?, rest)
  | '|' => some ({ r with group := r.group.bar }, rest)
  | '[' => do
    let (set, height, rest) ← Bracket.read? flags rest
    some (r.push ⟨.ofSet set, height⟩, rest)
  | '?' => r.repeatLast? 0 (some 1) rest
  | '*' => r.repeatLast? 0 none rest
  | '+' => r.repeatLast? 1 none rest
  | '\x7b' => do
    let (low, high, rest) ← Repetition.readCounts? flags rest
    r.repeatLast? low high (flags.skip rest)
  | '\\' => do
    let (escape, rest) ← Escape.read? flags rest
    match escape with
    | .literal c => some (r.pushChar c, rest)
    | .set set => some (r.pushExpr (.ofSet set), rest)
    | .assertion a => some (r.pushExpr (.assertion a), rest)
  | '.' => do some (r.pushExpr (.ofSet (← flags.dot?)), rest)
  | '^' => some (r.pushExpr (.assertion flags.startAnchor), rest)
  | '$' => some (r.pushExpr (.assertion flags.endAnchor), rest)
  | c => some (r.pushChar c, rest)

/-- Reads to the end of the pattern, where no group may be open. -/
def run? : Nat → Reading → List Char → Option Piece
  | 0, _, _ => none
  | fuel + 1, r, cs =>
    match r.group.flags.skip cs with
    | [] => if r.outer.isEmpty then some r.group.content else none
    | c :: rest => do
      let (r, rest) ← r.step? c rest
      if heightLimit < r.group.lastHeight then none else run? fuel r rest

end Reading

/-- The expression of a pattern that begins with some flags, if it is well formed and not too
large. -/
def Expr.ofText? (flags : Flags) (text : List Char) : Option Expr := do
  let piece ← Reading.run? (text.length + 1) ⟨.start none flags, [], 0, []⟩ text
  if piece.height ≤ heightLimit ∧ piece.expr.isStorable then some piece.expr else none

end JsonTyping.Pattern
