import JsonTyping.Predicate

/-!
# What can be wrong with a value, and with a definition

A `TypeError` says why a value does not belong to a type. Containers report every member that
fails, each under its place, and a sum reports both branches, so an error is a tree. A `Failure`
is an error together with the input as far as it was converted before the error.

A `DefinitionError` says why a type cannot be built.
-/

namespace JsonTyping

/-- The place of a member in a container. -/
inductive Segment where
  | index (position : Nat)
  | key (name : String)
deriving DecidableEq, Repr

/-- The text of a place. -/
def Segment.text : Segment → String
  | index position => "[" ++ toString position ++ "]"
  | key name => name

/-- Why a value does not belong to a type. -/
inductive TypeError where
  /-- A predicate fails on the input. -/
  | constraint (input : Value) (violation : Violation)
  /-- A transform refuses the input. -/
  | coercion (input : Value) (reason : String)
  /-- A value is needed and the type yields none for the input. -/
  | notApplicable (input : Value)
  /-- Both branches of a sum fail. -/
  | sum (left right : TypeError)
  /-- Members of a container fail; these are all of them, in the order of the container. -/
  | aggregate (failures : List (Segment × TypeError))
  /-- A container is needed and the input is none. -/
  | notACollection (input : Value) (expected : Primitive)
  /-- A key that has to be there is missing. -/
  | missingKey (key : String)
  /-- A key is there that must not be. -/
  | unknownKey (key : String)

/-- A failing member: its place in the container and what is wrong there. -/
abbrev MemberFailure := Segment × TypeError

namespace TypeError

mutual

/-- The wording of an error. -/
def message : TypeError → String
  | constraint input violation =>
    input.text ++ " violates constraints (" ++ violation.message ++ ")"
  | coercion input reason => input.text ++ " cannot be coerced: " ++ reason
  | notApplicable input => input.text ++ " produced no value"
  | sum left right => left.message ++ "; " ++ right.message
  | aggregate failures => ", ".intercalate (memberMessages failures)
  | notACollection input expected => input.text ++ " is not " ++ expected.withArticle
  | missingKey key => key ++ " is missing"
  | unknownKey key => key ++ " is not allowed"

/-- The wordings of failing members. -/
def memberMessages : List (Segment × TypeError) → List String
  | [] => []
  | (place, error) :: failures =>
    (place.text ++ ": " ++ error.message) :: memberMessages failures

end

mutual

/-- How many things are wrong, counting inside sums and containers. -/
def leafCount : TypeError → Nat
  | sum left right => left.leafCount + right.leafCount
  | aggregate failures => memberLeafCount failures
  | _ => 1

/-- How many things are wrong inside failing members. -/
def memberLeafCount : List (Segment × TypeError) → Nat
  | [] => 0
  | (_, error) :: failures => error.leafCount + memberLeafCount failures

end

/-- Whether a predicate failed. -/
def isConstraint : TypeError → Bool
  | constraint .. => true
  | _ => false

/-- Whether a transform gave no value. -/
def isCoercion : TypeError → Bool
  | coercion .. | notApplicable _ => true
  | _ => false

/-- Whether members of a container failed. -/
def isAggregate : TypeError → Bool
  | aggregate _ => true
  | _ => false

/-- The failing members of a container. -/
def memberFailures : TypeError → List MemberFailure
  | aggregate failures => failures
  | _ => []

end TypeError

/-- An error with the input as far as it was converted. -/
structure Failure where
  /-- What the conversions before the error made of the input. -/
  partialValue : Value
  error : TypeError

/-- The wording of a failure. -/
def Failure.message (f : Failure) : String := f.error.message

/-- Why a type cannot be built. -/
inductive DefinitionError where
  /-- Two labels of an enum stand for one raw value. -/
  | sharedRawValue (value first second : Value)
  /-- An enum has a label twice. -/
  | duplicateLabel (label : Value)
  /-- A default is given to an enum. -/
  | defaultAfterEnum
  /-- A default does not belong to its own type. -/
  | invalidDefault (value : Value) (error : TypeError)
  /-- A pattern is malformed. -/
  | invalidPattern (source : String)

/-- The wording of a definition error. -/
def DefinitionError.message : DefinitionError → String
  | sharedRawValue value first second =>
    "enum mapping is not invertible: " ++ value.text ++ " is mapped by both " ++ first.text ++
      " and " ++ second.text
  | duplicateLabel label => "enum label " ++ label.text ++ " is defined more than once"
  | defaultAfterEnum =>
    ".enum(values).default(value) is not supported. Call .default(value).enum(values) instead"
  | invalidDefault value error =>
    "default value " ++ value.text ++ " violates constraints: " ++ error.message
  | invalidPattern source => "invalid pattern " ++ source

/-- The predicate that asks for a pattern, if the pattern is well formed. -/
def Predicate.ofPattern (source : String) : Except DefinitionError Predicate :=
  match Pattern.ofText? source with
  | some pattern => .ok (.format pattern)
  | none => .error (.invalidPattern source)

end JsonTyping
