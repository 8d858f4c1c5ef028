import Abnf.Json.Record
import Abnf.Proofs.Json.Values

/-!
# What readers yield

A property of all values that a reader can give, whatever the text (`Yields`), follows the way in
which the reader is put together.  The property of interest is the depth: a value that has been read
does not nest deeper than the limits allow (`yields_valueWithin`).
-/

namespace Abnf.Json

/-- Whenever the reader gives a value, the value has the property. -/
def Yields {α : Type} (r : Reader α) (P : α → Prop) : Prop :=
  ∀ cursor a next, r cursor = .ok a next → P a

namespace Yields

variable {α β σ κ : Type} {r : Reader α} {P : α → Prop} {Q : β → Prop}

lemma pure {a : α} (h : P a) : Yields (Pure.pure a) P := by
  intro cursor b next hb
  cases hb
  exact h

lemma bind {f : α → Reader β} (hr : Yields r P) (hf : ∀ a, P a → Yields (f a) Q) :
    Yields (r >>= f) Q := by
  intro cursor b next hb
  rw [Reader.bind_apply] at hb
  split at hb
  · next a stop ha => exact hf a (hr cursor a stop ha) stop b next hb
  · cases hb
  · cases hb

/-- What comes first does not matter where everything that can come next has the property. -/
lemma after {f : α → Reader β} (hf : ∀ a, Yields (f a) Q) : Yields (r >>= f) Q :=
  bind (P := fun _ => True) (fun _ _ _ _ => trivial) fun a _ => hf a

lemma map {g : α → β} (hr : Yields r fun a => Q (g a)) : Yields (g <$> r) Q :=
  bind hr fun _ ha => pure ha

lemma mono {P' : α → Prop} (hr : Yields r P) (h : ∀ a, P a → P' a) : Yields r P' :=
  fun cursor a next ha => h a (hr cursor a next ha)

lemma failHere (cause : Cause) : Yields (Reader.failHere cause) P := by
  intro cursor a next ha
  cases ha

lemma failAhead (cause : Cause) : Yields (Reader.failAhead cause) P := by
  intro cursor a next ha
  cases ha

lemma refuse (cause : Cause) : Yields (Reader.refuse cause) P := by
  intro cursor a next ha
  cases ha

lemma ofExcept {x : Except Cause α} (h : ∀ a, x = .ok a → P a) : Yields (Reader.ofExcept x) P := by
  cases x with
  | error cause => exact refuse cause
  | ok a => exact pure (h a rfl)

lemma ofExceptHere {x : Except Cause α} (h : ∀ a, x = .ok a → P a) :
    Yields (Reader.ofExceptHere x) P := by
  cases x with
  | error cause => exact failHere cause
  | ok a => exact pure (h a rfl)

/-- A property that every part of a list or an object preserves holds in the end. -/
lemma many {next : Bool → Reader (Option κ)} {step : σ → κ → Reader σ} (Inv : σ → Prop)
    (hstep : ∀ state key, Inv state → Yields (step state key) Inv) (rounds : Nat) (isFirst : Bool)
    {state : σ} (h : Inv state) : Yields (Reader.many next step rounds isFirst state) Inv := by
  induction rounds generalizing isFirst state with
  | zero => exact failHere _
  | succ rounds ih =>
    refine after fun key => ?_
    cases key with
    | none => exact pure h
    | some key => exact bind (hstep state key h) fun state' h' => ih false h'

lemma within {leave : Cursor → Reader.Leaving} {contents : Reader α} (h : Yields contents P) :
    Yields (Reader.within leave contents) P := by
  intro cursor a next ha
  unfold Reader.within at ha
  split at ha
  · next b stop hb =>
    have hP := h _ b stop hb
    dsimp only at ha
    split at ha
    · cases ha
      exact hP
    · cases ha
  · cases ha
  · cases ha

/-- To enter a list or an object takes one level. -/
lemma deeper {limits : Limits} {r : Limits → Reader α}
    (h : ∀ inner, limits.levels = inner + 1 → Yields (r ⟨inner, limits.rounds⟩) P) :
    Yields (Reader.deeper limits r) P := by
  unfold Reader.deeper
  split
  · exact failAhead _
  · next inner hlevels => exact h inner hlevels

lemma list {limits : Limits} {contents : Limits → Reader α}
    (h : ∀ inner, limits.levels = inner + 1 → Yields (contents ⟨inner, limits.rounds⟩) P) :
    Yields (Reader.list limits contents) P :=
  deeper fun inner hinner => within (h inner hinner)

lemma object {limits : Limits} {contents : Limits → Reader α}
    (h : ∀ inner, limits.levels = inner + 1 → Yields (contents ⟨inner, limits.rounds⟩) P) :
    Yields (Reader.object limits contents) P :=
  deeper fun inner hinner => within (h inner hinner)

/-- A scalar is decoded, or an empty list or object in its place. -/
lemma scalarAs {decode : Value → Except Cause α} (h : ∀ v a, decode v = .ok a → P a) :
    Yields (Reader.scalarAs decode) P := by
  refine after fun c => ?_
  split
  · exact ofExceptHere (h _)
  · exact ofExceptHere (h _)
  · exact after fun v => ofExceptHere (h v)

lemma run {text : String} {a : α} (hr : Yields r P) (h : r.run text = .ok a) : P a := by
  unfold Reader.run at h
  split at h
  · next b next hb =>
    dsimp only at h
    split at h
    · exact Except.ok.inj h ▸ hr _ b next hb
    · cases h
  · cases h
  · cases h

end Yields

/-! ## Values -/

/-- To prove something of all values, assume it for the items of a list and for the values of the
members of an object. -/
theorem Value.induction {motive : Value → Prop}
    (arr : ∀ items, (∀ v ∈ items, motive v) → motive (.arr items))
    (obj : ∀ members : List (String × Value), (∀ m ∈ members, motive m.2) → motive (.obj members))
    (scalar : ∀ v, v.isScalar = true → motive v) (v : Value) : motive v := by
  -- The items of a list nest less deep than the list, and the members less deep than the object.
  induction hn : v.nesting using Nat.strongRecOn generalizing v with
  | ind n ih =>
    subst hn
    cases v with
    | arr items =>
      have hitems := Value.nestingItems_le.1 (Nat.le_refl (Value.nestingItems items))
      exact arr items fun v hv => ih v.nesting (Nat.lt_succ_of_le (hitems v hv)) v rfl
    | obj members =>
      have hmembers := Value.nestingMembers_le.1 (Nat.le_refl (Value.nestingMembers members))
      exact obj members fun m hm => ih m.2.nesting (Nat.lt_succ_of_le (hmembers m hm)) m.2 rfl
    | null => exact scalar _ rfl
    | bool b => exact scalar _ rfl
    | int n => exact scalar _ rfl
    | float text => exact scalar _ rfl
    | str s => exact scalar _ rfl

/-- The value of a number is no list and no object. -/
lemma Numeral.nesting_of_value {number : Numeral} {v : Value} (h : number.value = .ok v) :
    v.nesting = 0 := by
  have hfloat : ∀ {negative significand e w}, floatValue negative significand e = some w →
      w.nesting = 0 := by
    intro negative significand e w hw
    obtain ⟨f, -, rfl⟩ := Option.map_eq_some_iff.1 hw
    rfl
  unfold value at h
  dsimp only at h
  split at h
  · cases h; rfl
  · split at h
    · cases h; rfl
    · split at h
      · split at h
        · cases h; rfl
        · cases h
      · split at h
        · next w hw =>
          cases h
          exact hfloat hw
        · cases h

namespace Reader

lemma yields_scalar : Yields scalar fun v => v.nesting = 0 := by
  refine .after fun c => ?_
  split
  · exact .after fun _ => .pure rfl
  · exact .after fun _ => .pure rfl
  · exact .after fun _ => .pure rfl
  · exact .after fun _ => .pure rfl
  · split
    · refine .after fun number => ?_
      split
      · next v hv => exact .pure (Numeral.nesting_of_value hv)
      · intro cursor v next hv
        cases hv
    · exact .failAhead _
  · exact .failAhead _

lemma yields_elements {α : Type} {item : Reader α} {P : α → Prop} (h : Yields item P)
    (rounds : Nat) : Yields (elements rounds item) fun xs => ∀ x ∈ xs, P x := by
  refine .map ((Yields.many (fun read => ∀ x ∈ read, P x) ?_ rounds true (by simp)).mono ?_)
  · intro read _ hread
    exact .map (h.mono fun x hx => List.forall_mem_cons.2 ⟨hx, hread⟩)
  · intro read hread x hx
    exact hread x (List.mem_reverse.1 hx)

/-- A value that has been read does not nest deeper than it may. -/
theorem yields_valueWithin (rounds levels : Nat) :
    Yields (valueWithin rounds levels) fun v => v.nesting ≤ levels := by
  have hscalar : ∀ levels, Yields scalar fun v => v.nesting ≤ levels := fun levels =>
    yields_scalar.mono fun v hv => hv ▸ Nat.zero_le levels
  induction levels with
  | zero =>
    rw [valueWithin]
    refine .after fun c => ?_
    split
    · exact .failAhead _
    · exact .failAhead _
    · exact hscalar 0
  | succ levels ih =>
    rw [valueWithin]
    refine .after fun c => ?_
    split
    · refine .within (.map ((yields_elements ih rounds).mono fun items hitems => ?_))
      exact Nat.succ_le_succ (Value.nestingItems_le.2 hitems)
    · let Inv (read : List (String × Value)) : Prop := ∀ m ∈ read, m.2.nesting ≤ levels
      refine .within (.map ((Yields.many Inv ?_ rounds true (by simp [Inv])).mono ?_))
      · intro read name hread
        exact .after fun _ => .bind ih fun v hv => .pure (List.forall_mem_cons.2 ⟨hv, hread⟩)
      · intro read hread
        have hmembers : ∀ m ∈ read.reverse, m.2.nesting ≤ levels := fun m hm =>
          hread m (List.mem_reverse.1 hm)
        exact Nat.succ_le_succ (Value.nestingMembers_le.2 hmembers)
    · exact hscalar (levels + 1)

end Reader

/-! ## Records -/

namespace Yields

variable {σ α : Type}

lemma recordElements {Inv : σ → Prop} {title : String} {limits : Limits} {fields : List (Field σ)}
    (hfield : ∀ field ∈ fields, ∀ state, Inv state → Yields (field.read limits state) Inv)
    (done : Nat) {state : σ} (h : Inv state) :
    Yields (Reader.recordElements title limits done fields state) Inv := by
  induction fields generalizing done state with
  | nil => exact pure h
  | cons field fields ih =>
    have hrest := @ih fun other hother => hfield other (List.mem_cons_of_mem _ hother)
    refine after fun next => ?_
    cases next with
    | some _ => exact bind (hfield field List.mem_cons_self state h) fun state' h' => hrest _ h'
    | none =>
      show Yields (if field.optional = true then _ else _) Inv
      split
      · exact hrest _ h
      · exact refuse _

/-- What every field of a record preserves, one level deeper, holds when the record is finished. -/
lemma record (Inv : σ → Prop) {layout : Record σ α} {limits : Limits} {P : α → Prop}
    (hempty : Inv layout.empty)
    (hfield : ∀ inner, limits.levels = inner + 1 → ∀ field ∈ layout.fields, ∀ state, Inv state →
      Yields (field.read ⟨inner, limits.rounds⟩ state) Inv)
    (hfinish : ∀ state a, Inv state → layout.finish state = .ok a → P a) :
    Yields (Reader.record layout limits) P := by
  refine .after fun c => ?_
  split
  · refine .object fun inner hinner => .bind (Yields.many Inv ?_ limits.rounds true hempty)
      fun state hstate => .ofExcept fun a => hfinish state a hstate
    intro state name hstate
    unfold Reader.recordMember
    split
    · exact .after fun _ => .after fun _ => .pure hstate
    · next field hfind =>
      split
      · exact .refuse _
      · exact .after fun _ =>
          hfield inner hinner field (List.mem_of_find?_eq_some hfind) state hstate
  · refine .list fun inner hinner => .bind ?_ fun state hstate => .ofExcept fun a =>
      hfinish state a hstate
    exact recordElements (fun field => hfield inner hinner field) 0 hempty
  · exact .scalarAs fun v a ha => by cases ha

end Yields

end Abnf.Json
