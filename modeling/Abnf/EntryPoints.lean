import Abnf.Grammar.Basic
import Abnf.Text.Uppercase

/-!
# Entry points

The rules of a grammar that no rule of it refers to.  They are known by the uppercase of their
names, in declared order.
-/

namespace Abnf

/-- A set of names, compared in uppercase and in the order in which they came. -/
structure EntryPoints where
  /-- The names in uppercase. -/
  names : List String
  /-- No name occurs twice. -/
  distinct : names.Nodup

namespace EntryPoints

/-- The set without names. -/
def empty : EntryPoints := ⟨[], List.nodup_nil⟩

instance : Inhabited EntryPoints := ⟨empty⟩

/-- Adds the uppercase of a name, unless it is there. -/
def add (points : EntryPoints) (name : String) : EntryPoints :=
  if h : Text.uppercase name ∈ points.names then points
  else ⟨points.names ++ [Text.uppercase name],
    List.nodup_append.2 ⟨points.distinct, by simp, by
      intro a ha b hb hab
      rw [List.mem_singleton] at hb
      exact h (hb ▸ hab ▸ ha)⟩⟩

/-- The set of the given names. -/
def ofNames (names : List String) : EntryPoints := names.foldl add empty

/-- Whether a name belongs to the set, in whatever case. -/
def contains (points : EntryPoints) (name : String) : Bool :=
  points.names.contains (Text.uppercase name)

/-- The number of names. -/
def size (points : EntryPoints) : Nat := points.names.length

/-- Whether there are no names. -/
def isEmpty (points : EntryPoints) : Bool := points.names.isEmpty

theorem contains_iff (points : EntryPoints) (name : String) :
    points.contains name = true ↔ Text.uppercase name ∈ points.names := by
  simp [contains]

theorem mem_names_add (points : EntryPoints) (name other : String) :
    other ∈ (points.add name).names ↔ other ∈ points.names ∨ other = Text.uppercase name := by
  unfold add
  split
  · next h =>
    constructor
    · exact Or.inl
    · rintro (h' | rfl)
      · exact h'
      · exact h
  · simp

theorem mem_names_foldl_add (names : List String) (points : EntryPoints) (other : String) :
    other ∈ (names.foldl add points).names ↔
      other ∈ points.names ∨ ∃ name ∈ names, other = Text.uppercase name := by
  induction names generalizing points with
  | nil => simp
  | cons name rest ih =>
    rw [List.foldl_cons, ih, mem_names_add]
    simp [or_assoc]

/-- The names of a set are the uppercase forms of those that it was made of. -/
theorem mem_names_ofNames (names : List String) (other : String) :
    other ∈ (ofNames names).names ↔ ∃ name ∈ names, other = Text.uppercase name := by
  simpa [ofNames, empty] using mem_names_foldl_add names empty other

end EntryPoints

/-- The declared rules that nothing refers to. -/
def Grammar.entryPoints (g : Grammar) : EntryPoints :=
  let referenced := g.referencedNames.map Text.uppercase
  EntryPoints.ofNames (g.definitions.keys.filter fun key =>
    !referenced.contains (Text.uppercase key))

end Abnf
