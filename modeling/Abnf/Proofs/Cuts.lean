import Mathlib.Data.List.Basic
import Mathlib.Tactic.Lemma

/-!
# Cutting a text at tags

`cut` cuts a text wherever `<` is followed by one of some words, without any trust in how the text
was put together.  A part of a text can be without such places (`Passes`), or begin with the only
one (`Opens`), whatever follows it; a text that is put together from parts of the second kind is cut
into just these parts (`cut_flatten`).  Where only some of the pieces are wanted, `Selects` says
what a part of the text has to do with what is taken, and adds up over the parts.
-/

namespace Abnf

namespace Text

/-- Whether a text begins with one of some words. -/
def beginsWith (words : List String) (text : List Char) : Bool :=
  words.any fun word => word.toList.isPrefixOf text

/-- A text that is cut wherever `<` is followed by one of the words: what stands before the first of
these places, and what stands from each of them up to the next. -/
def cut (words : List String) : List Char → List Char × List (List Char)
  | [] => ([], [])
  | c :: rest =>
    let (before, pieces) := cut words rest
    if c = '<' ∧ beginsWith words rest then ([], (c :: before) :: pieces)
    else (c :: before, pieces)

/-- A text is not cut in front of the piece or inside it, whatever follows. -/
def Passes (words : List String) (piece : List Char) : Prop :=
  ∀ rest, cut words (piece ++ rest) = (piece ++ (cut words rest).1, (cut words rest).2)

/-- A text is cut in front of the piece and not inside it, whatever follows. -/
def Opens (words : List String) (piece : List Char) : Prop :=
  ∀ rest, cut words (piece ++ rest) = ([], (piece ++ (cut words rest).1) :: (cut words rest).2)

section Cut

variable {words : List String} {piece other : List Char}

lemma cut_cons (c : Char) (rest : List Char) :
    cut words (c :: rest) =
      if c = '<' ∧ beginsWith words rest then
        ([], (c :: (cut words rest).1) :: (cut words rest).2)
      else (c :: (cut words rest).1, (cut words rest).2) := rfl

lemma Passes.append (h : Passes words piece) (hother : Passes words other) :
    Passes words (piece ++ other) := by
  intro rest
  rw [List.append_assoc, h, hother, List.append_assoc]

lemma Passes.flatMap {α : Type} {write : α → List Char} {xs : List α}
    (h : ∀ x ∈ xs, Passes words (write x)) : Passes words (xs.flatMap write) := by
  induction xs with
  | nil => exact fun rest => rfl
  | cons x xs ih =>
    have hx := h x (by simp)
    have hrest := ih fun y hy => h y (by simp [hy])
    exact hx.append hrest

lemma Passes.of_notMem (h : '<' ∉ piece) : Passes words piece := by
  intro rest
  induction piece with
  | nil => rfl
  | cons c piece ih =>
    rw [List.mem_cons, not_or] at h
    have hc : ¬ (c = '<' ∧ beginsWith words (piece ++ rest)) := fun hcut => h.1 hcut.1.symm
    rw [List.cons_append, cut_cons, if_neg hc, ih h.2, List.cons_append]

/-- A tag that is none of the tags at which a text is cut. -/
lemma Passes.of_tag (h : '<' ∉ piece)
    (hwords : ∀ rest, beginsWith words (piece ++ rest) = false) : Passes words ('<' :: piece) := by
  intro rest
  have hpasses : Passes words piece := .of_notMem h
  rw [List.cons_append, cut_cons, hpasses rest]
  simp [hwords rest]

/-- A tag at which a text is cut. -/
lemma Opens.of_tag (h : '<' ∉ piece)
    (hwords : ∀ rest, beginsWith words (piece ++ rest) = true) : Opens words ('<' :: piece) := by
  intro rest
  have hpasses : Passes words piece := .of_notMem h
  rw [List.cons_append, cut_cons, hpasses rest]
  simp [hwords rest]

lemma Opens.append (h : Opens words piece) (hother : Passes words other) :
    Opens words (piece ++ other) := by
  intro rest
  rw [List.append_assoc, h, hother, List.append_assoc]

/-- Where each of some pieces opens, cutting their sequence gives the pieces. -/
lemma cut_flatten {pieces : List (List Char)} (h : ∀ piece ∈ pieces, Opens words piece) :
    cut words pieces.flatten = ([], pieces) := by
  induction pieces with
  | nil => rfl
  | cons piece rest ih =>
    have hpiece := h piece (by simp)
    have hrest := ih fun other ho => h other (by simp [ho])
    rw [List.flatten_cons, hpiece, hrest, List.append_nil]

/-! ### Taking some of the pieces -/

/-- When a text is cut and `select` takes some of the pieces, what it takes because of the given
part of the text, whatever follows. -/
def Selects {α : Type} (words : List String) (select : List Char → Option α) (piece : List Char)
    (found : List α) : Prop :=
  ∀ rest, (cut words (piece ++ rest)).2.filterMap select =
    found ++ (cut words rest).2.filterMap select

namespace Selects

variable {α β : Type} {select : List Char → Option α} {found more : List α}

lemma of_passes (h : Passes words piece) : Selects words select piece [] := by
  intro rest
  rw [h, List.nil_append]

/-- An element from its opening tag, which is taken with what it holds, to its closing tag. -/
lemma of_element {opening closing : List Char} {a : α} (hopening : Opens words opening)
    (hclosing : Opens words closing) (htaken : select opening = some a)
    (hleft : ∀ rest, select (closing ++ rest) = none) :
    Selects words select (opening ++ closing) [a] := by
  intro rest
  rw [List.append_assoc, hopening, hclosing, List.append_nil, List.filterMap_cons_some htaken,
    List.filterMap_cons_none (hleft _), List.singleton_append]

lemma append (h : Selects words select piece found) (hother : Selects words select other more) :
    Selects words select (piece ++ other) (found ++ more) := by
  intro rest
  rw [List.append_assoc, h, hother, List.append_assoc]

lemma flatMap {xs : List β} {write : β → List Char} {taken : β → List α}
    (h : ∀ x ∈ xs, Selects words select (write x) (taken x)) :
    Selects words select (xs.flatMap write) (xs.flatMap taken) := by
  induction xs with
  | nil => exact fun rest => rfl
  | cons x xs ih =>
    have hx := h x (by simp)
    have hrest := ih fun y hy => h y (by simp [hy])
    exact hx.append hrest

lemma filterMap_eq (h : Selects words select piece found) :
    (cut words piece).2.filterMap select = found := by
  have hend := h []
  rwa [List.append_nil, cut, List.filterMap_nil, List.append_nil] at hend

end Selects

end Cut

end Text

end Abnf
