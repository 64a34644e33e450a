import JsonTyping.Pattern.Basic
import JsonTyping.Primitive
import JsonTyping.Uuid
import JsonTyping.Value.Text

/-!
# Predicates and rules

A predicate is a named test of one value. Predicates are total: a test that makes no sense for a
value, such as a bound on a string, simply fails. A rule is a list of predicates, all of which
have to hold; the first that fails is reported as a `Violation` with its arguments.

Predicates are equal when their names and arguments are. For most predicates of the library that
makes them the same test. A predicate supplied from outside is trusted to keep its name for one
test, and a pattern to keep its text for one way to be compiled.
-/

namespace JsonTyping

/-- A named test of one value. -/
inductive Predicate where
  /-- The value is of a kind. -/
  | kind (p : Primitive)
  /-- The value equals the argument. -/
  | equals (v : Value)
  /-- The value is the argument; JSON values have no identity beyond equality. -/
  | identical (v : Value)
  /-- The value is a number above the bound. -/
  | above (bound : Number)
  /-- The value is a number at or above the bound. -/
  | atLeast (bound : Number)
  /-- The value is a number below the bound. -/
  | below (bound : Number)
  /-- The value is a number at or below the bound. -/
  | atMost (bound : Number)
  /-- The value has exactly so many characters, items or entries. -/
  | size (n : UInt64)
  /-- The value has at least so many characters, items or entries. -/
  | minSize (n : UInt64)
  /-- The value has at most so many characters, items or entries. -/
  | maxSize (n : UInt64)
  /-- The value is not null and has something in it. -/
  | filled
  /-- The value is null or has nothing in it. -/
  | empty
  /-- The value is a string in which the pattern occurs. -/
  | format (pattern : Pattern)
  /-- The value is one of the listed values. -/
  | includedIn (vs : List Value)
  /-- The value is none of the listed values. -/
  | excludedFrom (vs : List Value)
  /-- The value has the argument as an item, a part of its text, or a key. -/
  | includes (v : Value)
  /-- The value could have the argument as an item, a part of its text, or a key, but has not. -/
  | excludes (v : Value)
  /-- The value is an odd integer. -/
  | odd
  /-- The value is an even integer. -/
  | even
  /-- The value is true. -/
  | isTrue
  /-- The value is false. -/
  | isFalse
  /-- The value is the text of a random UUID. -/
  | uuidV4
  /-- A test supplied from outside, with the arguments to report. -/
  | custom (name : String) (args : List Value) (check : Value → Bool)

/-- Whether a text occurs in another one. -/
def occursInText (part : List Char) : List Char → Bool
  | [] => part.isEmpty
  | c :: cs => part.isPrefixOf (c :: cs) || occursInText part cs

/-- Whether a value has another as an item, a part of its text or a key, if that can be asked. -/
def Value.includes? (v part : Value) : Option Bool :=
  match v, part with
  | .array items, _ => some (items.any (· == part))
  | .string s, .string t => some (occursInText t.toList s.toList)
  | .object es, .string key => some (Entries.contains es key)
  | _, _ => none

/-- How a value stands to a bound, if it is a number. -/
def Value.order? (v : Value) (bound : Number) : Option Ordering := v.number?.map (·.order bound)

namespace Predicate

/-- The name of a predicate. -/
def name : Predicate → String
  | kind _ => "type?"
  | equals _ => "eql?"
  | identical _ => "is?"
  | above _ => "gt?"
  | atLeast _ => "gteq?"
  | below _ => "lt?"
  | atMost _ => "lteq?"
  | size _ => "size?"
  | minSize _ => "min_size?"
  | maxSize _ => "max_size?"
  | filled => "filled?"
  | empty => "empty?"
  | format _ => "format?"
  | includedIn _ => "included_in?"
  | excludedFrom _ => "excluded_from?"
  | includes _ => "includes?"
  | excludes _ => "excludes?"
  | odd => "odd?"
  | even => "even?"
  | isTrue => "true?"
  | isFalse => "false?"
  | uuidV4 => "uuid_v4?"
  | custom name _ _ => name

/-- The arguments of a predicate. -/
def args : Predicate → List Value
  | kind p => [.string p.name]
  | equals v | identical v | includes v | excludes v => [v]
  | above n | atLeast n | below n | atMost n => [.number n]
  | size n | minSize n | maxSize n => [.ofUInt64 n]
  | format pattern => [.string pattern.source]
  | includedIn vs | excludedFrom vs => [.array vs]
  | custom _ args _ => args
  | filled | empty | odd | even | isTrue | isFalse | uuidV4 => []

/-- Whether a predicate holds of a value. -/
def test (p : Predicate) (v : Value) : Bool :=
  match p with
  | kind p => p.accepts v
  | equals w | identical w => v == w
  | above bound => v.order? bound == some .gt
  | atLeast bound => v.order? bound == some .gt || v.order? bound == some .eq
  | below bound => v.order? bound == some .lt
  | atMost bound => v.order? bound == some .lt || v.order? bound == some .eq
  | size n => v.size? == some n.toNat
  | minSize n => v.size?.any (n.toNat ≤ ·)
  | maxSize n => v.size?.any (· ≤ n.toNat)
  | filled => !v.isEmpty
  | empty => v.isEmpty
  | format pattern => v.string?.any pattern.occursIn
  | includedIn vs => vs.any (· == v)
  | excludedFrom vs => !vs.any (· == v)
  | includes w => v.includes? w == some true
  | excludes w => v.includes? w == some false
  | odd => v.signed?.any (· % 2 != 0)
  | even => v.signed?.any (· % 2 == 0)
  | isTrue => v == .bool true
  | isFalse => v == .bool false
  | uuidV4 => v.string?.any isUuidV4
  | custom _ _ check => check v

/-- Whether a predicate is supplied from outside the library. -/
def isCustom : Predicate → Bool
  | custom .. => true
  | _ => false

/-- Predicates are equal by name and arguments, those from outside only among themselves. -/
instance : BEq Predicate where
  beq p q := p.isCustom == q.isCustom && p.name == q.name && p.args == q.args

/-- The text of a predicate: its name and its arguments. -/
def text (p : Predicate) : String :=
  p.name ++ "(" ++ ", ".intercalate (p.args.map Value.text) ++ ")"

end Predicate

/-! ### Rules -/

/-- Predicates that all have to hold, in the order in which they are tested. -/
abbrev Rule := List Predicate

/-- The first predicate of a rule that fails on a value. -/
structure Violation where
  predicate : String
  args : List Value
  input : Value

/-- The wording of a violation: the predicate applied to its arguments and the value. -/
def Violation.message (v : Violation) : String :=
  v.predicate ++ "(" ++ ", ".intercalate ((v.args ++ [v.input]).map Value.text) ++ ") failed"

/-- Tests the predicates of a rule in order, up to the first that fails. -/
def Rule.check (rule : Rule) (v : Value) : Except Violation Unit :=
  match rule.find? fun p ↦ !p.test v with
  | some p => .error ⟨p.name, p.args, v⟩
  | none => .ok ()

/-- The text of a rule. -/
def Rule.text (rule : Rule) : String :=
  "Rule \x7b predicates: [" ++ ", ".intercalate (rule.map Predicate.text) ++ "] \x7d"

end JsonTyping
