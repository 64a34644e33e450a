import JsonTyping.Pattern.Escape

/-!
# Classes between brackets

A class lists characters, ranges, escapes, named classes and further classes, which may be
combined by operators from left to right. A closing bracket that stands first is a literal, and so
are hyphens that stand first or last.

A class is read by a machine that keeps the class being read and the classes around it. Every step
takes at least one character, so the length of the text bounds the steps. The machine also keeps
how deep classes are nested, because patterns may not be nested too deep.
-/

namespace JsonTyping.Pattern

namespace Bracket

/-! ### Items -/

/-- Reads a character or an escape inside brackets. -/
def readAtom? (flags : Flags) : List Char → Option (Escape × List Char)
  | [] => none
  | '\\' :: rest => Escape.read? flags rest
  | c :: rest => some (.literal c, rest)

/-- The set that a character or an escape stands for inside brackets. -/
def setOf? : Escape → Option CharSet
  | .literal c => some (.single c)
  | .set s => some s
  | .assertion _ => none

/-- Reads a range, or the single character or escape where there is no range. -/
def readRange? (flags : Flags) (cs : List Char) : Option (CharSet × List Char) := do
  let (first, rest) ← readAtom? flags cs
  match flags.skip rest with
  | [] => none
  | '-' :: next =>
    let ahead := flags.lookAhead? next
    if ahead = some ']' ∨ ahead = some '-' then some (← setOf? first, '-' :: next)
    else
      match first, ← readAtom? flags (flags.skip next) with
      | .literal low, (.literal high, rest) =>
        if low ≤ high then some (.range low high, rest) else none
      | _, _ => none
  | rest => some (← setOf? first, rest)

/--
Reads a named class such as `:alpha:]` after its opening bracket, if there is one, and tells
whether its complement is meant.
-/
def readNamed? : List Char → Option (Bool × CharSet × List Char)
  | ':' :: rest => do
    let (negated, rest) := match rest with
      | '^' :: rest => (true, rest)
      | rest => (false, rest)
    let name := rest.takeWhile (· != ':')
    match rest.drop name.length with
    | ':' :: ']' :: rest => some (negated, ← CharSet.named? (String.ofList name), rest)
    | _ => none
  | _ => none

/-! ### Classes -/

/-- How the set to the left of an operator is combined with the one to its right. -/
abbrev Operator := CharSet → CharSet → CharSet

/-- A class being read. -/
structure Frame where
  negated : Bool
  /-- The last operator, the set to the left of it, and the height of that side. -/
  pending : Option (Operator × CharSet × Nat)
  /-- The characters of the items since then, as they come. -/
  items : CharRanges
  /-- The number of these items. -/
  count : Nat
  /-- The height of the highest of them. -/
  height : Nat

namespace Frame

/-- Begins a class after its opening bracket. -/
def start (flags : Flags) (cs : List Char) : Frame × List Char :=
  let (negated, cs) :=
    match flags.skip cs with
    | '^' :: rest => (true, rest)
    | cs => (false, cs)
  match flags.readWhile (· == '-') cs with
  | ([], ']' :: rest) => (⟨negated, none, (CharSet.single ']').ranges, 1, 0⟩, rest)
  | ([], rest) => (⟨negated, none, [], 0, 0⟩, rest)
  | (hyphens, rest) => (⟨negated, none, (CharSet.single '-').ranges, hyphens.length, 0⟩, rest)

/-- Adds an item. Without Unicode it has to be in ASCII. -/
def push? (frame : Frame) (flags : Flags) (set : CharSet) (height : Nat) : Option Frame :=
  if flags.unicode || set.isAscii then
    some
      { frame with
        items := set.ranges ++ frame.items
        count := frame.count + 1
        height := max frame.height height }
  else
    none

/-- The set read so far, and its height. -/
def value (frame : Frame) (flags : Flags) : CharSet × Nat :=
  let items := CharSet.ofRanges frame.items
  let height := if frame.count < 2 then frame.height else frame.height + 1
  match frame.pending with
  | none => (items, height)
  | some (operator, left, leftHeight) =>
    (operator (flags.adapt left) (flags.adapt items), max leftHeight height + 1)

/-- Goes on to the right of an operator. -/
def operate (frame : Frame) (flags : Flags) (operator : Operator) : Frame :=
  ⟨frame.negated, some (operator, frame.value flags), [], 0, 0⟩

/-- The set of a class that ends, and its height. -/
def close? (frame : Frame) (flags : Flags) : Option (CharSet × Nat) := do
  let (set, height) := frame.value flags
  let set := flags.adapt set
  some (← if frame.negated then flags.complement? set else some set, height + 1)

end Frame

/-- Reads the classes that are open, in so many steps at most, and gives the set and its height. -/
def run? (flags : Flags) :
    Nat → Frame → List Frame → List Char → Option (CharSet × Nat × List Char)
  | 0, _, _, _ => none
  | fuel + 1, frame, outer, cs =>
    match flags.skip cs with
    | [] => none
    | ']' :: rest => do
      let (set, height) ← frame.close? flags
      match outer with
      | [] => some (set, height, rest)
      | frame :: outer => run? flags fuel (← frame.push? flags set height) outer rest
    | '&' :: '&' :: rest => run? flags fuel (frame.operate flags .inter) outer rest
    | '-' :: '-' :: rest => run? flags fuel (frame.operate flags .difference) outer rest
    | '~' :: '~' :: rest => run? flags fuel (frame.operate flags .symmetricDifference) outer rest
    | '[' :: rest =>
      match readNamed? rest with
      | some (negated, set, rest) => do
        let set := flags.adapt set
        let set ← if negated then flags.complement? set else some set
        run? flags fuel (← frame.push? flags set 0) outer rest
      | none =>
        let (inner, rest) := Frame.start flags rest
        run? flags fuel inner (frame :: outer) rest
    | cs => do
      let (set, rest) ← readRange? flags cs
      run? flags fuel (← frame.push? flags set 0) outer rest

/-- Reads a class after its opening bracket, and gives the set and its height. -/
def read? (flags : Flags) (cs : List Char) : Option (CharSet × Nat × List Char) :=
  let (frame, rest) := Frame.start flags cs
  run? flags (rest.length + 1) frame [] rest

end Bracket

end JsonTyping.Pattern
