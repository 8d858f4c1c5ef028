/-!
# Dictionaries in order of insertion

A dictionary from texts to values that remembers in which order its keys were first inserted.  The
keys are distinct by construction.  There are two ways to insert: `insert` lets the last value of a
key win and `insertNew` the first; either way a key keeps its place.
-/

namespace Abnf

/-- A dictionary whose keys are distinct and in order of insertion. -/
structure Dict (α : Type) where
  /-- The keys with their values. -/
  entries : List (String × α)
  /-- No key occurs twice. -/
  distinct : (entries.map Prod.fst).Nodup
deriving DecidableEq

namespace Dict

/-! ## Lists of entries -/

/-- Gives a key a value, in its place if it has one and at the end otherwise. -/
def put (key : String) (a : α) : List (String × α) → List (String × α)
  | [] => [(key, a)]
  | (k, b) :: rest => if k = key then (key, a) :: rest else (k, b) :: put key a rest

theorem map_fst_put (key : String) (a : α) (entries : List (String × α)) :
    (put key a entries).map Prod.fst =
      if key ∈ entries.map Prod.fst then entries.map Prod.fst
      else entries.map Prod.fst ++ [key] := by
  induction entries with
  | nil => simp [put]
  | cons e rest ih =>
    by_cases h : e.1 = key
    · simp [put, h]
    · have h' : ¬ key = e.1 := fun hk => h hk.symm
      simp only [put, h, if_false, List.map_cons, ih, List.mem_cons, h', false_or]
      split <;> simp

theorem nodup_put (key : String) (a : α) {entries : List (String × α)}
    (h : (entries.map Prod.fst).Nodup) : ((put key a entries).map Prod.fst).Nodup := by
  rw [map_fst_put]
  split
  · exact h
  · next hk => exact List.nodup_append.2 ⟨h, by simp, by simpa using fun b x hb => by grind⟩

/-! ## Operations -/

/-- The dictionary without entries. -/
def empty : Dict α := ⟨[], by simp⟩

instance : Inhabited (Dict α) := ⟨empty⟩

/-- The keys in order. -/
def keys (d : Dict α) : List String := d.entries.map Prod.fst

/-- The values in the order of their keys. -/
def values (d : Dict α) : List α := d.entries.map Prod.snd

/-- The number of keys. -/
def size (d : Dict α) : Nat := d.entries.length

/-- Whether there are no keys. -/
def isEmpty (d : Dict α) : Bool := d.entries.isEmpty

/-- The value of a key. -/
def get? (d : Dict α) (key : String) : Option α := d.entries.lookup key

/-- Gives a key a value.  A key that is there keeps its place and loses its value. -/
def insert (d : Dict α) (key : String) (a : α) : Dict α :=
  ⟨put key a d.entries, nodup_put key a d.distinct⟩

/-- Gives a key a value unless it has one. -/
def insertNew (d : Dict α) (key : String) (a : α) : Dict α :=
  if (d.get? key).isSome then d else d.insert key a

/-- Whether two dictionaries give every key the same value, in whatever order. -/
def sameValues [BEq α] (d e : Dict α) : Bool :=
  let includes (d e : Dict α) := d.entries.all fun (key, a) => e.get? key == some a
  includes d e && includes e d

/-! ## Keys and values after an operation -/

theorem keys_insert (d : Dict α) (key : String) (a : α) :
    (d.insert key a).keys = if key ∈ d.keys then d.keys else d.keys ++ [key] :=
  map_fst_put key a d.entries

@[simp] theorem get?_empty (key : String) : (empty : Dict α).get? key = none := rfl

theorem lookup_put (key other : String) (a : α) (entries : List (String × α)) :
    (put key a entries).lookup other = if other = key then some a else entries.lookup other := by
  induction entries with
  | nil => by_cases h : other = key <;> grind [put]
  | cons e rest ih =>
    by_cases h : e.1 = key <;> by_cases h' : other = key <;> by_cases h'' : other = e.1 <;>
      grind [put]

theorem get?_insert (d : Dict α) (key other : String) (a : α) :
    (d.insert key a).get? other = if other = key then some a else d.get? other :=
  lookup_put key other a d.entries

theorem get?_insertNew (d : Dict α) (key other : String) (a : α) :
    (d.insertNew key a).get? other =
      if other = key then some ((d.get? key).getD a) else d.get? other := by
  unfold insertNew
  cases h : d.get? key with
  | some b => by_cases h' : other = key <;> simp [h, h']
  | none => simp [get?_insert]

end Dict

end Abnf
