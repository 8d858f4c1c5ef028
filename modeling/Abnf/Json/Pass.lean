import Abnf.Json.Container

/-!
# Values that are passed over

The value of an unknown member is not kept.  Its syntax is still checked, but less strictly: lists
and objects may stand inside each other to any depth, numbers may be of any size, and the escapes
of a string literal need not make up characters.
-/

namespace Abnf.Json.Reader

/-- Passes over a scalar. -/
def passScalar : Reader Unit := do
  match ← peek with
  | some '"' => passLiteral
  | some c =>
    if c == '-' || c.isDigit then
      let _ ← numeral .badNumber
      pure ()
    else
      let _ ← scalar
      pure ()
  | none => failAhead .endOfValue

/-- Whether another element of a list follows, when the elements are passed over. -/
def passNextElement (isFirst : Bool) : Reader (Option Unit) := do
  match ← peekToken with
  | none => failAhead .endOfList
  | some ']' => pure none
  | some c =>
    if isFirst then pure (some ())
    else if c = ',' then
      skip 1
      pure (some ())
    else failAhead .expectedCommaOrBracket

/-- Passes over the name of a member and the colon after it. -/
def passName : Reader (Option Unit) := do
  match ← peekToken with
  | some '"' =>
    passLiteral
    colon
    pure (some ())
  | some _ => failAhead .keyNotString
  | none => failAhead .endOfObject

/-- Passes over the name of the next member of an object, if another one follows. -/
def passNextMember (isFirst : Bool) : Reader (Option Unit) := do
  match ← peekToken with
  | none => failAhead .endOfObject
  | some '}' => pure none
  | some c =>
    if isFirst then passName
    else if c = ',' then
      skip 1
      passName
    else failAhead .expectedCommaOrBrace

/-- Passes over any value, with at most the given number of lists and objects inside each other. -/
def passWithin (rounds : Nat) (levels : Nat) : Reader Unit := do
  match ← peekToken with
  | some '[' =>
    match levels with
    | 0 => failHere .endOfValue
    | levels + 1 =>
      skip 1
      many passNextElement (fun _ _ => passWithin rounds levels) rounds true ()
      skip 1
  | some '{' =>
    match levels with
    | 0 => failHere .endOfValue
    | levels + 1 =>
      skip 1
      many passNextMember (fun _ _ => passWithin rounds levels) rounds true ()
      skip 1
  | _ => passScalar

/-- Passes over any value.  No text nests deeper than it is long, so that the depth is free. -/
def pass (limits : Limits) : Reader Unit := passWithin limits.rounds limits.rounds

end Abnf.Json.Reader
