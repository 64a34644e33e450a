import JsonTyping.Pattern.Encoding
import JsonTyping.Pattern.Expr
import Std.Data.HashMap

/-!
# The room that a pattern takes

A pattern is offered only if its automata fit a limit: the one that reads texts forwards, and the
one that reads them backwards to find where a match begins. This module lays both out as far as
their size goes. States are counted, and the bytes that their edges take; states get numbers in the
order of layout, which decide which states of a set of characters can be shared.

Every state takes 32 bytes. An edge takes nothing when its state can have one edge only, 4 bytes
when it leaves a fork, and 8 bytes when it is one of several labelled edges.
-/

namespace JsonTyping.Pattern

/-! ### Layouts -/

/-- The direction in which an automaton reads. -/
inductive Direction where
  | forwards
  | backwards
deriving DecidableEq

/-- How much has been laid out: the number of states, and the bytes of their edges. -/
structure Layout where
  states : Nat
  edgeBytes : Nat

/-- The bytes that a layout takes. -/
def Layout.bytes (layout : Layout) : Nat := 32 * layout.states + layout.edgeBytes

/-- The bytes that an automaton may take. -/
def Layout.limit : Nat := 10 * 1024 * 1024

/-- A step of layout, which fails when the limit is exceeded. -/
abbrev Build (α : Type) := StateT Layout Option α

namespace Build

/-- Adds states and bytes of edges. -/
def grow (states edgeBytes : Nat) : Build Unit := fun layout ↦
  let layout := ⟨layout.states + states, layout.edgeBytes + edgeBytes⟩
  if layout.bytes ≤ Layout.limit then some ((), layout) else none

/-- Adds a state with so many bytes of edges and returns its number. -/
def state (edgeBytes : Nat) : Build Nat := do
  let number := (← get).states
  grow 1 edgeBytes
  return number

/-- Adds an edge to a fork. -/
def edge : Build Unit := grow 0 4

/-- Adds the edge that leaves a part, which takes room if the part ends with a fork. -/
def leave (endsWithFork : Bool) : Build Unit := if endsWithFork then edge else pure ()

/-! ### Sets of characters -/

/-- A number for some others, as hash tables use it. -/
def hashOf (values : List Nat) : UInt64 :=
  values.foldl (fun hash value ↦ (hash ^^^ value.toUInt64) * 1099511628211) 14695981039346656037

/-- Labelled edges: a range of bytes and the state to go to. -/
abbrev Edges := List (ByteRange × Nat)

/-- The states laid out for a set of characters that may be used again. A slot keeps the last. -/
abbrev Shared (α : Type) := Std.HashMap Nat (α × Nat)

/--
The state for a key: the one in the key's slot if it was made for the same key, or else the one
that `make` lays out, which takes the slot.
-/
def share {α : Type} [DecidableEq α] (slots : Nat) (numbers : α → List Nat) (make : α → Build Nat)
    (key : α) (shared : Shared α) : Build (Nat × Shared α) := do
  let slot := (hashOf (numbers key)).toNat % slots
  let laidOut : Build (Nat × Shared α) := do
    let state ← make key
    return (state, shared.insert slot (key, state))
  match shared[slot]? with
  | some (key', state) => if key' = key then return (state, shared) else laidOut
  | none => laidOut

/-- The state with some labelled edges. -/
def shareEdges : Edges → Shared Edges → Build (Nat × Shared Edges) :=
  share 10000 (fun edges ↦ edges.flatMap fun ((low, high), target) ↦ [low, high, target])
    fun edges ↦ state (8 * edges.length)

/-- The state with one labelled edge. -/
def shareEdge :
    ByteRange × Nat → Shared (ByteRange × Nat) → Build (Nat × Shared (ByteRange × Nat)) :=
  share 1000 (fun ((low, high), target) ↦ [target, low, high]) fun _ ↦ state 0

/--
Lays out sequences of byte ranges in increasing order that all lead to one state; sequences with
the same first range share its edge. So many byte ranges deep at most.
-/
def tree (target : Nat) :
    Nat → List (List ByteRange) → Shared Edges → Build (Nat × Shared Edges)
  | 0, _, shared => pure (target, shared)
  | depth + 1, sequences, shared => do
    if sequences = [[]] then return (target, shared)
    let groups := sequences.splitBy fun a b ↦ a.head? = b.head?
    let (edges, shared) ← groups.foldlM (fun (edges, shared) group ↦
      match group.head? with
      | some (range :: _) => do
        let (next, shared) ← tree target depth (group.map List.tail) shared
        return ((range, next) :: edges, shared)
      | _ => pure (edges, shared)) (([] : Edges), shared)
    shareEdges edges.reverse shared

/-- Lays out one sequence of byte ranges backwards, in front of a state. -/
def chain (target : Nat) (sequence : List ByteRange) (shared : Shared (ByteRange × Nat)) :
    Build (Shared (ByteRange × Nat)) := do
  let (_, shared) ← sequence.foldlM (fun (state, shared) range ↦ shareEdge (range, state) shared)
    (target, shared)
  return shared

/-- Lays out a set of characters. -/
def chars (direction : Direction) (set : CharSet) : Build Unit := do
  let target ← state 0
  if set.isAscii then
    let _ ← state (8 * set.ranges.length)
  else
    match direction with
    | .forwards =>
      let _ ← tree target 4 (encode set) ∅
    | .backwards =>
      let last ← state 0
      let _ ← (encode set).foldlM (fun shared sequence ↦ do
        let shared ← chain last sequence shared
        edge
        return shared) (∅ : Shared (ByteRange × Nat))

/-! ### Choices among words -/

/-- The bytes of a word in the order of reading. -/
def wordBytes (direction : Direction) (word : List Char) : List Nat :=
  let bytes := word.flatMap fun c ↦ bytesOf c.toNat
  match direction with
  | .forwards => bytes
  | .backwards => bytes.reverse

/-- The words of a choice, if all its alternatives are words. -/
def words? (e : Expr) : Option (List (List Char)) :=
  e.alternatives.mapM fun
    | .literal cs => some cs
    | _ => none

/-- Splits words at those that have ended, which leave the others as they are. -/
def chunks : List (List Nat) → List (List (Nat × List Nat))
  | [] => [[]]
  | [] :: rest => [] :: chunks rest
  | (byte :: word) :: rest =>
    match chunks rest with
    | chunk :: later => ((byte, word) :: chunk) :: later
    | [] => [[(byte, word)]]

/--
Lays out words that have been read up to the same place. Those before the next that has ended
there share edges, later ones are tried after it. Words of so many bytes at most.
-/
def dictionary : Nat → List (List Nat) → Build Unit
  | 0, _ => pure ()
  | length + 1, words => do
    let (ended, words) := words.span (· = [])
    let chunks := chunks (ended.take 1 ++ words)
    let nonempty := chunks.filter (· ≠ [])
    nonempty.forM fun chunk ↦ do
      let bytes := (chunk.map Prod.fst).eraseDups
      grow 1 (if bytes.length = 1 then 0 else 8 * bytes.length)
      bytes.forM fun byte ↦ do
        let rests := chunk.filterMap fun (byte', rest) ↦ if byte' = byte then some rest else none
        if rests.all (· = []) then pure () else dictionary length rests
    grow 1 (4 * (nonempty.length + (chunks.length - 1)))

/-! ### Repetitions -/

/-- Lays out so many parts one after the other; none of them still take a state. -/
def copies (part : Build Bool) : Nat → Build Bool
  | 0 => do
    let _ ← state 0
    return false
  | 1 => part
  | count + 2 => do
    leave (← part)
    copies part (count + 1)

/-- Lays out a part that may be left out. -/
def optional (part : Build Bool) : Build Bool := do
  grow 1 8
  let fork ← part
  grow 1 0
  leave fork
  return false

/-- Lays out so many parts more that may be left out, of which each needs the one before it. -/
def optionals (part : Build Bool) : Nat → Bool → Build Unit
  | 0, fork => leave fork
  | count + 1, fork => do
    grow 1 8
    let next ← part
    leave fork
    optionals part count next

/-- Lays out a part at least once. -/
def loop (part : Build Bool) : Build Bool := do
  leave (← part)
  grow 1 4
  return true

/-- Lays out a part any number of times; if it may be empty, its loop may be left out. -/
def anyNumber (part : Build Bool) (consumes : Bool) : Build Bool := do
  if consumes then
    grow 1 4
    leave (← part)
    return true
  else
    leave (← part)
    grow 3 16
    return false

/-- Lays out a repetition. -/
def times (part : Build Bool) (consumes : Bool) (low : Nat) (high : Option Nat) : Build Bool :=
  match low, high with
  | 0, some 1 => optional part
  | 0, none => anyNumber part consumes
  | 1, none => loop part
  | low, none => do
    leave (← copies part (low - 1))
    loop part
  | low, some high => do
    if low = high then copies part low
    else
      let fork ← copies part low
      grow 1 0
      optionals part (high - low) fork
      return false

/-! ### Expressions -/

/-- Lays out alternatives between a fork and a state in which they come together. -/
def choice : List (Build Bool) → Build Bool
  | first :: second :: rest => do
    let firstFork ← first
    let secondFork ← second
    grow 2 8
    leave firstFork
    leave secondFork
    rest.forM fun alternative ↦ do
      let fork ← alternative
      edge
      leave fork
    return false
  | [only] => only
  | [] => chars .forwards .none *> pure false

/-- How an expression is laid out, and how its alternatives are. -/
structure Plan where
  whole : Build Bool
  alternatives : List (Build Bool)

/-- The plan of an expression that is no choice. -/
def Plan.single (whole : Build Bool) : Plan := ⟨whole, [whole]⟩

/-- The plan of an expression. Laying it out tells whether it ends with a fork. -/
def plan (direction : Direction) : Expr → Plan
  | .empty | .assertion _ => .single do
    grow 1 0
    return false
  | .literal cs => .single do
    grow (wordBytes direction cs).length 0
    return false
  | .chars set => .single do
    chars direction set
    return false
  | .group _ body =>
    let part := (plan direction body).whole
    match direction with
    | .forwards => .single do
      grow 1 0
      leave (← part)
      grow 1 0
      return false
    | .backwards => .single part
  | .times body low high _ =>
    .single (times (plan direction body).whole body.alwaysConsumes low high)
  | .sequence first rest =>
    let first := (plan direction first).whole
    let rest := (plan direction rest).whole
    match direction with
    | .forwards => .single do
      leave (← first)
      rest
    | .backwards => .single do
      leave (← rest)
      first
  | .choice first rest =>
    let alternatives := (plan direction first).whole :: (plan direction rest).alternatives
    let whole : Build Bool := do
      match words? (.choice first rest) with
      | some words =>
        let words := words.map (wordBytes direction)
        grow 1 0
        dictionary ((words.map List.length).foldl max 0) words
        return false
      | none => choice alternatives
    ⟨whole, alternatives⟩

/-- Lays out the automaton of an expression, which may begin anywhere unless it is anchored. -/
def automaton (direction : Direction) (e : Expr) : Build Unit := do
  let isAnchored :=
    match direction with
    | .forwards => e.startsWith .textStart
    | .backwards => e.endsWith .textEnd
  if isAnchored then grow 1 0 else grow 3 16
  leave (← (plan direction (.group 0 e)).whole)
  grow 1 0

end Build

/-- Whether the automata of an expression fit the limit. -/
def Expr.isStorable (e : Expr) : Bool :=
  [Direction.forwards, .backwards].all fun direction ↦
    (Build.automaton direction e |>.run ⟨0, 0⟩).isSome

end JsonTyping.Pattern
