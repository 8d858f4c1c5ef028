import Mathlib.Data.Finset.Card
import Mathlib.Data.Finset.Dedup
import Abnf.Proofs.Keys

/-!
# The rules that nothing refers to

The entry points of a grammar are found by adding the uppercase of one key after the other to a set
that keeps first places (`FirstPlaces`): a step lemma for one name and a run lemma for all of them.
Which keys are added depends on the references only through their uppercase, so that it does not
matter in which order, how often and in which case they are listed, nor whether they are listed or
found in the definitions (`entryPoints_unreferenced`).
-/

namespace Abnf

namespace EntryPoints

/-- Some names are all those of a list, each once and in the order of their first places in it. -/
structure FirstPlaces (names all : List String) : Prop where
  /-- The names are those of the list. -/
  mem_iff : ∀ name, name ∈ names ↔ name ∈ all
  /-- The first place of a name lies before the first places of those that come after it. -/
  ordered : names.Pairwise fun a b => all.idxOf a < all.idxOf b

variable {points : EntryPoints} {all : List String}

/-- A name that is added takes its place after the others, unless it has one already. -/
lemma FirstPlaces.add (h : FirstPlaces points.names all) (name : String) :
    FirstPlaces (points.add name).names (all ++ [Text.uppercase name]) := by
  have hplace : ∀ a ∈ points.names, (all ++ [Text.uppercase name]).idxOf a = all.idxOf a :=
    fun a ha => List.idxOf_append_of_mem ((h.mem_iff a).1 ha)
  have hordered : points.names.Pairwise fun a b =>
      (all ++ [Text.uppercase name]).idxOf a < (all ++ [Text.uppercase name]).idxOf b := by
    refine h.ordered.imp_of_mem fun {a b} ha hb hab => ?_
    rwa [hplace a ha, hplace b hb]
  refine ⟨fun other => ?_, ?_⟩
  · rw [mem_names_add, h.mem_iff, List.mem_append, List.mem_singleton]
  · unfold EntryPoints.add
    split
    · exact hordered
    · next hnew =>
      refine List.pairwise_append.2 ⟨hordered, List.pairwise_singleton _ _, ?_⟩
      intro a ha b hb
      obtain rfl := List.mem_singleton.1 hb
      have hlast : Text.uppercase name ∉ all := fun hmem => hnew ((h.mem_iff _).2 hmem)
      rw [hplace a ha, List.idxOf_append_of_notMem hlast]
      exact Nat.lt_add_right _ (List.idxOf_lt_length_of_mem ((h.mem_iff a).1 ha))

lemma FirstPlaces.foldl_add (h : FirstPlaces points.names all) (names : List String) :
    FirstPlaces (names.foldl EntryPoints.add points).names (all ++ names.map Text.uppercase) := by
  induction names generalizing points all with
  | nil => simpa using h
  | cons name rest ih =>
    rw [List.foldl_cons, List.map_cons, ← List.singleton_append, ← List.append_assoc]
    exact ih (h.add name)

/-- A set of names keeps the first places of their uppercase. -/
theorem firstPlaces_ofNames (names : List String) :
    FirstPlaces (ofNames names).names (names.map Text.uppercase) := by
  have hempty : FirstPlaces empty.names [] := ⟨fun _ => Iff.rfl, .nil⟩
  exact hempty.foldl_add names

/-- As many names are kept as are different. -/
lemma FirstPlaces.size_eq (h : FirstPlaces points.names all) :
    points.size = all.toFinset.card := by
  rw [size, ← List.toFinset_card_of_nodup points.distinct]
  congr 1
  ext name
  simp only [List.mem_toFinset, h.mem_iff]

end EntryPoints

/-- Two lists have the same names, up to the case of ASCII letters: in whatever order, and however
often each of them. -/
def Text.SameNames (as bs : List String) : Prop :=
  (∀ a ∈ as, ∃ b ∈ bs, sameName a b = true) ∧ ∀ b ∈ bs, ∃ a ∈ as, sameName b a = true

lemma Text.SameNames.exists_uppercase {as bs : List String} (h : SameNames as bs) {name : String} :
    (∃ a ∈ as, uppercase a = name) ↔ ∃ b ∈ bs, uppercase b = name := by
  have hsame : ∀ {a b : String}, sameName a b = true → uppercase b = uppercase a := fun hab =>
    (sameName_iff_uppercase.1 hab).1.symm
  constructor
  · rintro ⟨a, ha, rfl⟩
    obtain ⟨b, hb, hab⟩ := h.1 a ha
    exact ⟨b, hb, hsame hab⟩
  · rintro ⟨b, hb, rfl⟩
    obtain ⟨a, ha, hba⟩ := h.2 b hb
    exact ⟨a, ha, hsame hba⟩

namespace Grammar

variable {g g' : Grammar}

/-- The uppercase of the keys that nothing refers to, in declared order. -/
def unreferenced (g : Grammar) : List String :=
  (g.definitions.keys.filter fun key =>
    ∀ n ∈ g.referencedNames, Text.uppercase n ≠ Text.uppercase key).map Text.uppercase

lemma firstPlaces_entryPoints (g : Grammar) :
    EntryPoints.FirstPlaces g.entryPoints.names g.unreferenced := by
  have hfilter : (g.definitions.keys.filter fun key =>
      !(g.referencedNames.map Text.uppercase).contains (Text.uppercase key)) =
      g.definitions.keys.filter fun key =>
        ∀ n ∈ g.referencedNames, Text.uppercase n ≠ Text.uppercase key := by
    refine List.filter_congr fun key _ => ?_
    rw [Bool.eq_iff_iff]
    simp
  rw [unreferenced, ← hfilter]
  exact EntryPoints.firstPlaces_ofNames _

/-- Entry points depend on the references through the uppercase of these only. -/
lemma entryPoints_congr (hkeys : g.definitions = g'.definitions)
    (hnames : ∀ name, (∃ n ∈ g.referencedNames, Text.uppercase n = name) ↔
      ∃ n ∈ g'.referencedNames, Text.uppercase n = name) :
    g.entryPoints = g'.entryPoints := by
  rw [entryPoints, entryPoints, hkeys]
  congr 1
  refine List.filter_congr fun key _ => ?_
  rw [Bool.eq_iff_iff]
  simpa using not_congr (hnames (Text.uppercase key))

/-- To list the references in the definitions changes nothing where none is listed. -/
lemma referencedNames_walked (hnone : g.listed = []) :
    ({ g with listed := g.nodes.flatMap Node.references } : Grammar).referencedNames =
      g.referencedNames := by
  have hwalk : g.nodes.flatMap Node.referencedNames = g.nodes.flatMap Node.references :=
    List.flatMap_congr fun node _ => Node.referencedNames_eq node
  have hfound : g.referencedNames = g.nodes.flatMap Node.references := by
    rw [referencedNames, hnone, List.isEmpty_nil, if_pos rfl, hwalk]
  rw [hfound, referencedNames]
  -- If there are no references, the list stays empty, and the definitions are walked once more.
  split
  · exact hwalk
  · rfl

/-- **Entry points are the keys that nothing refers to.**  A name is an entry point if some key is
the same in uppercase and no name that is referred to is.  The entry points are the uppercase of
these keys, each once and at its first place in declared order.  They stay the same if the names
that are listed as references are listed in another order, more or less often, or with ASCII letters
in another case, and if, where none is listed, the references in the definitions are listed. -/
theorem entryPoints_unreferenced (g : Grammar) :
    (∀ name, g.entryPoints.contains name = true ↔
      (∃ key ∈ g.definitions.keys, Text.uppercase key = Text.uppercase name) ∧
        ∀ n ∈ g.referencedNames, Text.uppercase n ≠ Text.uppercase name) ∧
    EntryPoints.FirstPlaces g.entryPoints.names g.unreferenced ∧
    g.entryPoints.size = g.unreferenced.toFinset.card ∧
    (∀ listed, Text.SameNames g.listed listed →
      ({ g with listed := listed } : Grammar).entryPoints = g.entryPoints) ∧
    (g.listed = [] →
      ({ g with listed := g.nodes.flatMap Node.references } : Grammar).entryPoints =
        g.entryPoints) := by
  have hplaces := firstPlaces_entryPoints g
  refine ⟨fun name => contains_entryPoints_iff_exists_key, hplaces, hplaces.size_eq, ?_, ?_⟩
  · intro listed hsame
    refine entryPoints_congr rfl fun name => ?_
    cases hlisted : g.listed with
    | nil =>
      -- No name can be listed, and the definitions are the same.
      have hnone : listed = [] := List.eq_nil_iff_forall_not_mem.2 fun b hb => by
        obtain ⟨a, ha, -⟩ := hsame.2 b hb
        rw [hlisted] at ha
        exact List.not_mem_nil ha
      rw [hnone, referencedNames, referencedNames, hlisted]
      rfl
    | cons first rest =>
      have hsome : listed ≠ [] := by
        rintro rfl
        obtain ⟨_, hb, -⟩ := hsame.1 first (by simp [hlisted])
        exact List.not_mem_nil hb
      rw [referencedNames, referencedNames, hlisted, if_neg (by simpa using hsome),
        if_neg (by simp), ← hlisted]
      exact hsame.exists_uppercase.symm
  · intro hnone
    refine entryPoints_congr rfl fun name => ?_
    rw [referencedNames_walked hnone]

/-- A grammar with keys that are the same in uppercase, some of them referred to. -/
def sharp : Grammar where
  definitions :=
    { entries :=
        [("ß", .prose ""), ("b", .reference "ß"), ("Ss", .prose ""), ("B", .prose ""),
          ("a", .prose ""), ("é", .reference "x"), ("sS", .prose ""), ("É", .prose "")]
      distinct := by decide }
  listed := ["A", "y"]

/-- The keys without references keep their first places, also when the reference to one of the other
keys is listed twice, behind the other reference and in lowercase. -/
theorem entryPoints_unreferenced_sharp :
    sharp.unreferenced = ["SS", "B", "SS", "B", "É", "SS", "É"] ∧ sharp.entryPoints.size = 3 ∧
    ({ sharp with listed := ["Y", "a", "a"] } : Grammar).entryPoints = sharp.entryPoints ∧
    clock.listed = [] ∧
    ({ clock with listed := ["DIGIT", "a<b"] } : Grammar).entryPoints = clock.entryPoints := by
  obtain ⟨-, -, hsize, hlisted, -⟩ := entryPoints_unreferenced sharp
  obtain ⟨-, -, -, -, hwalked⟩ := entryPoints_unreferenced clock
  refine ⟨by decide, ?_, hlisted _ ⟨by decide, by decide⟩, rfl, hwalked rfl⟩
  rw [hsize]
  decide

end Grammar

end Abnf
