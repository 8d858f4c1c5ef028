import Abnf.Base
import Abnf.Repeat

/-!
# Definition trees

A rule of an ABNF grammar is a tree.  Its leaves are literals, ranges of characters, prose and
references to other rules; inner nodes are concatenations, alternations, groups and repetitions.
At the top stands the rule itself, with its name.
-/

namespace Abnf

/-- Whether a literal distinguishes upper and lower case. -/
inductive Casing where
  /-- Upper and lower case differ. -/
  | sensitive
  /-- Upper and lower case are the same. -/
  | insensitive
deriving DecidableEq, Repr, Inhabited

/-- A node of a definition tree. -/
inductive Node where
  /-- A rule with its name and its definition. -/
  | rule (name : String) (definition : Node)
  /-- A literal text, given by the codes of its characters when it has a base. -/
  | literal (casing : Casing) (text : String) (base : Option Base)
  /-- The characters with codes between two bounds, inclusively. -/
  | range (first last : UInt32) (base : Base)
  /-- What is described in prose. -/
  | prose (text : String)
  /-- What another rule defines. -/
  | reference (name : String)
  /-- One node after the other. -/
  | concatenation (elements : List Node)
  /-- One of several nodes. -/
  | alternation (choices : List Node)
  /-- A node in parentheses. -/
  | group (inner : Node)
  /-- A node that occurs several times. -/
  | repetition (element : Node) (bounds : Repeat)
deriving Repr, Inhabited

/-- The kind of a node. -/
inductive Kind where
  /-- A rule. -/
  | rule
  /-- A literal of either casing. -/
  | literal (casing : Casing)
  /-- A range of characters. -/
  | range
  /-- Prose. -/
  | prose
  /-- A reference to a rule. -/
  | reference
  /-- A concatenation. -/
  | concatenation
  /-- An alternation. -/
  | alternation
  /-- A group. -/
  | group
  /-- A repetition. -/
  | repetition
deriving DecidableEq, Repr, Inhabited

namespace Kind

/-- All kinds, in the order in which they are numbered. -/
def all : List Kind :=
  [.rule, .literal .sensitive, .literal .insensitive, .range, .prose, .reference, .concatenation,
   .alternation, .group, .repetition]

/-- The name of a kind. -/
def tag : Kind → String
  | .rule => "rule"
  | .literal .sensitive => "caseSensitiveString"
  | .literal .insensitive => "caseInsensitiveString"
  | .range => "range"
  | .prose => "prose"
  | .reference => "ruleref"
  | .concatenation => "concatenation"
  | .alternation => "alternation"
  | .group => "group"
  | .repetition => "repetition"

end Kind

namespace Node

/-- The kind of a node. -/
def kind : Node → Kind
  | .rule _ _ => .rule
  | .literal casing _ _ => .literal casing
  | .range _ _ _ => .range
  | .prose _ => .prose
  | .reference _ => .reference
  | .concatenation _ => .concatenation
  | .alternation _ => .alternation
  | .group _ => .group
  | .repetition _ _ => .repetition

/-- The name that a rule declares. -/
def ruleName : Node → Option String
  | .rule name _ => some name
  | _ => none

/-- The nodes directly below a node, from left to right. -/
def children : Node → List Node
  | .rule _ definition => [definition]
  | .concatenation elements => elements
  | .alternation choices => choices
  | .group inner => [inner]
  | .repetition element _ => [element]
  | .literal _ _ _ | .range _ _ _ | .prose _ | .reference _ => []

mutual

/-- The number of nodes of a tree. -/
def count : Node → Nat
  | .rule _ definition => definition.count + 1
  | .concatenation elements => countAll elements + 1
  | .alternation choices => countAll choices + 1
  | .group inner => inner.count + 1
  | .repetition element _ => element.count + 1
  | .literal _ _ _ | .range _ _ _ | .prose _ | .reference _ => 1

/-- The number of nodes of several trees. -/
def countAll : List Node → Nat
  | [] => 0
  | node :: rest => node.count + countAll rest

end

@[simp] theorem countAll_append (as bs : List Node) :
    countAll (as ++ bs) = countAll as + countAll bs := by
  induction as with
  | nil => simp [countAll]
  | cons a rest ih => simp [countAll, ih, Nat.add_assoc]

theorem count_eq (node : Node) : node.count = countAll node.children + 1 := by
  cases node <;> simp [count, countAll, children]

end Node

end Abnf
