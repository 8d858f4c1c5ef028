import Mathlib.Data.List.Basic
import Mathlib.Tactic.Lemma
import Mathlib.Tactic.SplitIfs
import Abnf.Text.Entity

/-!
# Entities and what they stand for

Escaping writes each character of a text on its own, either as itself or as an entity.  The entities
of text between tags, and those of text in an attribute, are given by a table of their names.  No
name begins with another one or has an ampersand inside, and the ampersand is not written as itself
(`Coherent`), so that what is written for one character is never mixed up with what follows, and
reading the entities from left to right gives the text back (`Coherent.decode_spelling_append`).
The marks that tags and quotes are made of are left in no escaped text.
-/

namespace Abnf.Text

/-- How a character is written in an attribute. -/
def attributeEntity (c : Char) : List Char :=
  if c = '"' then "&quot;".toList
  else if c = '\'' then "&#39;".toList
  else entity c

/-- The replacements that follow escaping for an attribute can be made along with it. -/
theorem escapeAttribute_eq_expand (text : String) :
    escapeAttribute text = expand attributeEntity text := by
  have hchar : ∀ c, (entity c).flatMap (fun c => (if c = '"' then "&quot;".toList else [c]).flatMap
      fun c => if c = '\'' then "&#39;".toList else [c]) = attributeEntity c := by
    intro c
    by_cases hquot : c = '"'
    · subst hquot
      decide
    · by_cases hapos : c = '\''
      · subst hapos
        decide
      · rw [attributeEntity, if_neg hquot, if_neg hapos]
        unfold entity
        split_ifs
        · decide
        · decide
        · decide
        · simp only [List.flatMap_cons, List.flatMap_nil, if_neg hquot, if_neg hapos,
            List.append_nil]
  rw [← String.toList_inj, escapeAttribute, replaceChar, replaceChar, escapeHtml, toList_expand,
    toList_expand, toList_expand, toList_expand, List.flatMap_assoc, List.flatMap_assoc]
  exact congrArg (fun f => text.toList.flatMap f) (funext hchar)

/-- Whether a text has nothing to escape, not even in an attribute. -/
def isVerbatim (text : String) : Bool := text.toList.all fun c => attributeEntity c == [c]

lemma entity_of_attributeEntity {c : Char} (h : attributeEntity c = [c]) : entity c = [c] := by
  unfold attributeEntity at h
  split_ifs at h with hquot hapos
  · subst hquot
    exact absurd h (by decide)
  · subst hapos
    exact absurd h (by decide)
  · exact h

lemma escapeAttribute_eq_self {text : String} (h : isVerbatim text = true) :
    escapeAttribute text = text := by
  have hflat : text.toList.flatMap attributeEntity = text.toList.flatMap fun c => [c] :=
    List.flatMap_congr fun c hc => by simpa using List.all_eq_true.1 h c hc
  rw [escapeAttribute_eq_expand, ← String.toList_inj, toList_expand, hflat, List.flatMap_singleton']

lemma escapeHtml_eq_self {text : String} (h : isVerbatim text = true) :
    escapeHtml text = text := by
  have hflat : text.toList.flatMap entity = text.toList.flatMap fun c => [c] :=
    List.flatMap_congr fun c hc =>
      entity_of_attributeEntity (by simpa using List.all_eq_true.1 h c hc)
  rw [← String.toList_inj, escapeHtml, toList_expand, hflat, List.flatMap_singleton']

/-- The marks that tags and quotes are made of. -/
def isMark (c : Char) : Bool := ['<', '>', '"', '\''].contains c

lemma ne_of_isMark {c : Char} (h : isMark c = false) :
    c ≠ '<' ∧ c ≠ '>' ∧ c ≠ '"' ∧ c ≠ '\'' := by
  simpa [isMark] using h

lemma isMark_of_mem {name : List Char} (h : (name.all fun c => !isMark c) = true) {c : Char}
    (hc : c ∈ name) : isMark c = false := by
  simpa using List.all_eq_true.1 h c hc

/-- What is written for a character holds no mark, but for quotes that stand for themselves. -/
lemma mem_entity {c d : Char} (h : c ∈ entity d) :
    isMark c = false ∨ c = d ∧ c ≠ '<' ∧ c ≠ '>' := by
  unfold entity at h
  split_ifs at h with hamp hlt hgt
  · exact .inl (isMark_of_mem (by decide) h)
  · exact .inl (isMark_of_mem (by decide) h)
  · exact .inl (isMark_of_mem (by decide) h)
  · rw [List.mem_singleton] at h
    subst h
    exact .inr ⟨rfl, hlt, hgt⟩

/-- No escaped text opens or closes a tag. -/
lemma mem_escapeHtml {text : String} {c : Char} (h : c ∈ (escapeHtml text).toList) :
    c ≠ '<' ∧ c ≠ '>' := by
  rw [escapeHtml, toList_expand, List.mem_flatMap] at h
  obtain ⟨d, -, hc⟩ := h
  rcases mem_entity hc with hmark | ⟨-, hne⟩
  · exact ⟨(ne_of_isMark hmark).1, (ne_of_isMark hmark).2.1⟩
  · exact hne

/-- No attribute value opens or closes a tag, or closes the quotes around it. -/
lemma mem_escapeAttribute {text : String} {c : Char} (h : c ∈ (escapeAttribute text).toList) :
    c ≠ '<' ∧ c ≠ '>' ∧ c ≠ '"' ∧ c ≠ '\'' := by
  rw [escapeAttribute_eq_expand, toList_expand, List.mem_flatMap] at h
  obtain ⟨d, -, hc⟩ := h
  unfold attributeEntity at hc
  split_ifs at hc with hquot hapos
  · exact ne_of_isMark (isMark_of_mem (by decide) hc)
  · exact ne_of_isMark (isMark_of_mem (by decide) hc)
  · rcases mem_entity hc with hmark | ⟨rfl, hlt, hgt⟩
    · exact ne_of_isMark hmark
    · exact ⟨hlt, hgt, hquot, hapos⟩

/-! ## Reading entities -/

/-- Reads a text from left to right and puts in place of each name of the table what it stands
for. -/
def decode (table : List (List Char × Char)) : List Char → List Char
  | [] => []
  | c :: rest =>
    match table.find? fun entry => entry.1.isPrefixOf (c :: rest) with
    | some (name, meant) => meant :: decode table (rest.drop (name.length - 1))
    | none => c :: decode table rest
termination_by text => text.length

/-- Where every character is read as what was written for it, whatever follows, so is a text. -/
lemma decode_flatMap {table : List (List Char × Char)} {write : Char → List Char}
    (h : ∀ c rest, decode table (write c ++ rest) = c :: decode table rest) (cs : List Char) :
    decode table (cs.flatMap write) = cs := by
  induction cs with
  | nil => rw [List.flatMap_nil, decode]
  | cons c rest ih => rw [List.flatMap_cons, h, ih]

/-- The entities of text between tags. -/
def entities : List (List Char × Char) :=
  [("&amp;".toList, '&'), ("&lt;".toList, '<'), ("&gt;".toList, '>')]

/-- The entities of text in an attribute. -/
def attributeEntities : List (List Char × Char) :=
  entities ++ [("&quot;".toList, '"'), ("&#39;".toList, '\'')]

/-- How a character is written with the names of a table: by its name or, without one, as it is. -/
def spelling (table : List (List Char × Char)) (c : Char) : List Char :=
  ((table.find? fun entry => entry.2 == c).map Prod.fst).getD [c]

/-- A table whose names can be told from all that may stand around them. -/
structure Coherent (table : List (List Char × Char)) : Prop where
  /-- A name begins with an ampersand and has no other one. -/
  ampersand : ∀ entry ∈ table, entry.1.head? = some '&' ∧ '&' ∉ entry.1.tail
  /-- No name begins with another one. -/
  apart : ∀ entry ∈ table, ∀ other ∈ table, entry.1 <+: other.1 → entry = other
  /-- The ampersand has a name, so that none is written as it is. -/
  self : '&' ∈ table.map Prod.snd

lemma coherent_entities : Coherent entities := ⟨by decide, by decide, by decide⟩

lemma coherent_attributeEntities : Coherent attributeEntities := ⟨by decide, by decide, by decide⟩

lemma entity_eq_spelling (c : Char) : entity c = spelling entities c := by
  unfold entity
  split_ifs with hamp hlt hgt
  · rw [hamp]
    rfl
  · rw [hlt]
    rfl
  · rw [hgt]
    rfl
  · simp [spelling, entities, Ne.symm hamp, Ne.symm hlt, Ne.symm hgt]

lemma attributeEntity_eq_spelling (c : Char) :
    attributeEntity c = spelling attributeEntities c := by
  unfold attributeEntity
  split_ifs with hquot hapos
  · rw [hquot]
    rfl
  · rw [hapos]
    rfl
  · simp [entity_eq_spelling, spelling, attributeEntities, Ne.symm hquot, Ne.symm hapos]

lemma escapeHtml_eq_spelling (text : String) :
    escapeHtml text = expand (spelling entities) text := by
  rw [escapeHtml, funext entity_eq_spelling]

lemma escapeAttribute_eq_spelling (text : String) :
    escapeAttribute text = expand (spelling attributeEntities) text := by
  rw [escapeAttribute_eq_expand, funext attributeEntity_eq_spelling]

lemma spelling_cases (table : List (List Char × Char)) (c : Char) :
    (∃ entry ∈ table, entry.2 = c ∧ spelling table c = entry.1) ∨
      c ∉ table.map Prod.snd ∧ spelling table c = [c] := by
  cases hfind : table.find? fun entry => entry.2 == c with
  | some entry =>
    refine .inl ⟨entry, List.mem_of_find?_eq_some hfind, by simpa using List.find?_some hfind, ?_⟩
    rw [spelling, hfind]
    rfl
  | none =>
    refine .inr ⟨?_, by rw [spelling, hfind]; rfl⟩
    rintro hmem
    obtain ⟨entry, hentry, rfl⟩ := List.mem_map.1 hmem
    exact absurd (beq_self_eq_true entry.2) (List.find?_eq_none.1 hfind entry hentry)

namespace Coherent

variable {table : List (List Char × Char)} {entry : List Char × Char}

lemma exists_cons (h : Coherent table) (hentry : entry ∈ table) :
    ∃ name, entry.1 = '&' :: name ∧ '&' ∉ name := by
  obtain ⟨hhead, htail⟩ := h.ampersand entry hentry
  exact ⟨entry.1.tail, List.eq_cons_of_mem_head? hhead, htail⟩

/-- The name that a text begins with is the only one. -/
lemma find?_eq_some (h : Coherent table) (hentry : entry ∈ table) {text : List Char}
    (hbegins : entry.1 <+: text) :
    table.find? (fun other => other.1.isPrefixOf text) = some entry := by
  cases hfind : table.find? fun other => other.1.isPrefixOf text with
  | none =>
    exact absurd (List.isPrefixOf_iff_prefix.2 hbegins) (List.find?_eq_none.1 hfind entry hentry)
  | some other =>
    have hmem : other ∈ table := List.mem_of_find?_eq_some hfind
    -- Of two names that the same text begins with, one begins with the other.
    have hother := List.find?_some hfind
    rcases List.prefix_or_prefix_of_prefix (List.isPrefixOf_iff_prefix.1 hother) hbegins with
      hshort | hlong
    · rw [h.apart other hmem entry hentry hshort]
    · rw [h.apart entry hentry other hmem hlong]

/-- A name is read as what it stands for, whatever follows. -/
lemma decode_name_append (h : Coherent table) (hentry : entry ∈ table) (rest : List Char) :
    decode table (entry.1 ++ rest) = entry.2 :: decode table rest := by
  obtain ⟨name, hname, -⟩ := h.exists_cons hentry
  have hfind := h.find?_eq_some hentry (List.prefix_append entry.1 rest)
  rw [hname, List.cons_append] at hfind ⊢
  rw [decode, hfind]
  simp [hname]

/-- What is no ampersand stands for itself. -/
lemma decode_cons (h : Coherent table) {c : Char} (hc : c ≠ '&') (rest : List Char) :
    decode table (c :: rest) = c :: decode table rest := by
  have hfind : (table.find? fun entry => entry.1.isPrefixOf (c :: rest)) = none := by
    rw [List.find?_eq_none]
    intro entry hentry
    obtain ⟨name, hname, -⟩ := h.exists_cons hentry
    simp [hname, Ne.symm hc]
  rw [decode, hfind]

/-- What is written for a character is read as that character, whatever follows. -/
lemma decode_spelling_append (h : Coherent table) (c : Char) (rest : List Char) :
    decode table (spelling table c ++ rest) = c :: decode table rest := by
  rcases spelling_cases table c with ⟨entry, hentry, rfl, hname⟩ | ⟨hnone, hself⟩
  · rw [hname]
    exact h.decode_name_append hentry rest
  · rw [hself]
    refine h.decode_cons ?_ rest
    rintro rfl
    exact hnone h.self

/-- An ampersand in what is written for a character begins a name. -/
lemma exists_name_of_spelling (h : Coherent table) {c : Char} {before after : List Char}
    (heq : spelling table c = before ++ '&' :: after) :
    ∃ entry ∈ table, entry.1 = '&' :: after := by
  rcases spelling_cases table c with ⟨entry, hentry, -, hname⟩ | ⟨hnone, hself⟩
  · obtain ⟨name, hcons, hnot⟩ := h.exists_cons hentry
    have hboth : before ++ '&' :: after = '&' :: name := by rw [← heq, hname, hcons]
    cases before with
    | nil => exact ⟨entry, hentry, hcons.trans hboth.symm⟩
    | cons _ before =>
      have hmem : '&' ∈ name := by simp [← (List.cons.inj hboth).2]
      exact absurd hmem hnot
  · have hmem : '&' ∈ [c] := by simp [← hself, heq]
    exact absurd h.self (List.mem_singleton.1 hmem ▸ hnone)

/-- Every ampersand in what is written for a text begins a name. -/
lemma exists_name (h : Coherent table) {cs before after : List Char}
    (heq : cs.flatMap (spelling table) = before ++ '&' :: after) :
    ∃ entry ∈ table, entry.1 <+: '&' :: after := by
  induction cs generalizing before with
  | nil => simp at heq
  | cons c cs ih =>
    rw [List.flatMap_cons, List.append_eq_append_iff] at heq
    rcases heq with ⟨middle, -, hrest⟩ | ⟨middle, hc, hafter⟩
    · exact ih hrest
    · -- The ampersand stands in what is written for `c`, or right behind it.
      cases middle with
      | nil =>
        have hrest : cs.flatMap (spelling table) = [] ++ '&' :: after := hafter.symm
        exact ih hrest
      | cons d middle =>
        obtain ⟨rfl, rfl⟩ := List.cons.inj hafter
        obtain ⟨entry, hentry, hname⟩ := h.exists_name_of_spelling hc
        exact ⟨entry, hentry, hname ▸ List.prefix_append ('&' :: middle) _⟩

end Coherent

/-! ## Escaping as an encoding -/

/-- A text is escaped by the names of a table, and can be read again. -/
structure Escapes (table : List (List Char × Char)) (escape : String → String) : Prop where
  /-- Each character is written on its own: by its name, or as it is. -/
  eq_expand (text : String) : escape text = expand (spelling table) text
  /-- Of the characters that have names only the ampersand is left. -/
  eq_ampersand {text : String} {c : Char} :
    c ∈ (escape text).toList → c ∈ table.map Prod.snd → c = '&'
  /-- Every ampersand begins one of the names. -/
  exists_name {text : String} {before after : List Char} :
    (escape text).toList = before ++ '&' :: after → ∃ entry ∈ table, entry.1 <+: '&' :: after
  /-- Reading the names from left to right gives the text back. -/
  decode_eq (text : String) : decode table (escape text).toList = text.toList

section

variable {table : List (List Char × Char)} {escape : String → String}

/-- Names that can be told apart are all that it takes, if they hold no other named character. -/
lemma Coherent.escapes (h : Coherent table)
    (hspell : ∀ text, escape text = expand (spelling table) text)
    (hclean : ∀ text, ∀ c ∈ (escape text).toList, c ∈ table.map Prod.snd → c = '&') :
    Escapes table escape where
  eq_expand := hspell
  eq_ampersand hc hname := hclean _ _ hc hname
  exists_name heq := by
    rw [hspell, toList_expand] at heq
    exact h.exists_name heq
  decode_eq text := by
    rw [hspell, toList_expand]
    exact decode_flatMap h.decode_spelling_append text.toList

/-- Different texts are escaped differently. -/
lemma Escapes.injective (h : Escapes table escape) : Function.Injective escape := by
  intro text other heq
  rw [← String.toList_inj, ← h.decode_eq text, heq, h.decode_eq]

end

lemma escapes_html : Escapes entities escapeHtml := by
  refine coherent_entities.escapes escapeHtml_eq_spelling fun text c hc hname => ?_
  obtain ⟨hlt, hgt⟩ := mem_escapeHtml hc
  simpa [entities, hlt, hgt] using hname

lemma escapes_attribute : Escapes attributeEntities escapeAttribute := by
  refine coherent_attributeEntities.escapes escapeAttribute_eq_spelling fun text c hc hname => ?_
  obtain ⟨hlt, hgt, hquot, hapos⟩ := mem_escapeAttribute hc
  simpa [attributeEntities, entities, hlt, hgt, hquot, hapos] using hname

/-- Reading the entities of an escaped text gives the text back. -/
theorem decode_escapeHtml (text : String) :
    decode entities (escapeHtml text).toList = text.toList :=
  escapes_html.decode_eq text

lemma escapeHtml_injective : Function.Injective escapeHtml := escapes_html.injective

lemma escapeAttribute_injective : Function.Injective escapeAttribute := escapes_attribute.injective

/-- **Escaping can be undone.**  Between tags and in attributes alike, a text is escaped character
by character, by the names of the entities there are; of the characters that have names only the
ampersands are left that begin these names, and reading the names in one pass gives the text back.
So different texts are escaped differently, and a text can be escaped piece by piece. -/
theorem escaping_reversible :
    Escapes entities escapeHtml ∧ Escapes attributeEntities escapeAttribute ∧
    Function.Injective escapeHtml ∧ Function.Injective escapeAttribute ∧
    (∀ a b, escapeHtml (a ++ b) = escapeHtml a ++ escapeHtml b) ∧
    ∀ a b, escapeAttribute (a ++ b) = escapeAttribute a ++ escapeAttribute b :=
  ⟨escapes_html, escapes_attribute, escapeHtml_injective, escapeAttribute_injective,
    escapeHtml_append, escapeAttribute_append⟩

/-- What looks like an entity is escaped like any other text. -/
example : escapeAttribute "&quot;\"" = "&amp;quot;&quot;" := by decide

end Abnf.Text
