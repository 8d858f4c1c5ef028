import Mathlib.Data.List.Induction
import Abnf.Load
import Abnf.Proofs.Json.Records
import Abnf.Proofs.Tree

/-!
# How dependencies come about

Dependencies are recorded call by call (`after`), and of several sources for a rule the first one
that is recorded stays.  What a history of calls amounts to is therefore a matter of its assignments
of rules to sources (`foldl_record`), imports and extensions on their own.  A text that describes
dependencies is a document, which lists imports and extensions under keys that may be repeated
(`Document.Of`).  It is read as what comes of recording the document (`ofText_eq_ok`), so that it
does not matter in which of its two shapes an import is written.
-/

namespace Abnf

open Json

/-! ## Dictionaries that are filled one entry after the other -/

namespace Dict

variable {α : Type}

/-- The first value that is inserted for a key stays. -/
lemma get?_foldl_insertNew (entries : List (String × α)) (d : Dict α) (key : String) :
    (entries.foldl (fun d e => d.insertNew e.1 e.2) d).get? key =
      (d.get? key).or (entries.lookup key) := by
  induction entries generalizing d with
  | nil => simp
  | cons e rest ih =>
    rw [List.foldl_cons, ih, get?_insertNew, List.lookup_cons]
    by_cases hkey : key = e.1
    · subst hkey
      cases d.get? e.1 <;> simp
    · rw [if_neg hkey, beq_false_of_ne hkey]

lemma get?_of_mem {d : Dict α} {e : String × α} (h : e ∈ d.entries) : d.get? e.1 = some e.2 := by
  rw [get?, List.lookup_eq_some_iff]
  obtain ⟨before, rest, hentries⟩ := List.append_of_mem h
  refine ⟨before, rest, hentries, fun other hother => ?_⟩
  have hdistinct := d.distinct
  rw [hentries, List.map_append] at hdistinct
  have hne := (List.nodup_append.1 hdistinct).2.2 other.1 (List.mem_map_of_mem hother) e.1 (by simp)
  exact bne_iff_ne.2 hne.symm

/-- Dictionaries with the same value for every key are the same, whatever their order. -/
lemma sameValues_of_get? [BEq α] [LawfulBEq α] {d e : Dict α} (h : ∀ key, d.get? key = e.get? key) :
    d.sameValues e = true := by
  have hincludes : ∀ {d e : Dict α}, (∀ key, d.get? key = e.get? key) →
      (d.entries.all fun entry => e.get? entry.1 == some entry.2) = true := by
    intro d e h
    refine List.all_eq_true.2 fun entry hentry => ?_
    rw [beq_iff_eq, ← h]
    exact get?_of_mem hentry
  rw [sameValues, Bool.and_eq_true]
  exact ⟨hincludes h, hincludes fun key => (h key).symm⟩

/-- A dictionary is made up of its keys and their values. -/
lemma entries_eq (d : Dict α) :
    d.entries = d.keys.filterMap fun key => (d.get? key).map fun a => (key, a) := by
  have hentry : ∀ e ∈ d.entries, ((d.get? e.1).map fun a => (e.1, a)) = some e := fun e he => by
    rw [get?_of_mem he]
    rfl
  rw [keys, List.filterMap_map]
  exact (List.filterMap_some.symm.trans (List.filterMap_congr fun e he => (hentry e he).symm))

end Dict

/-- The entries that stay when keys are repeated: a key keeps its first place and takes its last
value. -/
def settled {α : Type} (entries : List (String × α)) : List (String × α) :=
  (entries.map Prod.fst).eraseDups.filterMap fun key =>
    (entries.reverse.lookup key).map fun a => (key, a)

section Collect

variable {α : Type}

lemma collect_concat (entries : List (String × α)) (e : String × α) :
    collect (entries ++ [e]) = (collect entries).insert e.1 e.2 :=
  List.foldl_concat _ _ _ _

lemma keys_collect (entries : List (String × α)) :
    (collect entries).keys = (entries.map Prod.fst).eraseDups := by
  induction entries using List.reverseRecOn with
  | nil => rfl
  | append_singleton entries e ih =>
    rw [collect_concat, Dict.keys_insert, ih, List.map_append, List.eraseDups_append]
    by_cases hkey : e.1 ∈ entries.map Prod.fst
    · simp [List.removeAll, hkey]
    · simp [List.removeAll, hkey, List.eraseDups_cons]

lemma get?_collect (entries : List (String × α)) (key : String) :
    (collect entries).get? key = entries.reverse.lookup key := by
  induction entries using List.reverseRecOn with
  | nil => rfl
  | append_singleton entries e ih =>
    rw [collect_concat, Dict.get?_insert, ih, List.reverse_concat, List.lookup_cons]
    by_cases hkey : key = e.1
    · simp [hkey]
    · rw [if_neg hkey, beq_false_of_ne hkey]

/-- What stays in a dictionary are the settled entries. -/
lemma entries_collect (entries : List (String × α)) :
    (collect entries).entries = settled entries := by
  rw [Dict.entries_eq, keys_collect, settled]
  simp only [get?_collect]

end Collect

namespace Dependencies

/-! ## Histories of calls -/

/-- A call that records something. -/
inductive Call where
  /-- A rule is imported. -/
  | addImport (rule source : String)
  /-- Several rules are imported from one source. -/
  | addImports (source : String) (rules : List String)
  /-- A rule extends one of another grammar. -/
  | addExtension (rule source : String)

namespace Call

/-- What a call records. -/
def record (d : Dependencies) : Call → Dependencies
  | .addImport rule source => d.addImport rule source
  | .addImports source rules => d.addImports source rules
  | .addExtension rule source => d.addExtension rule source

/-- The imported rules with their sources. -/
def imports : Call → List (String × String)
  | .addImport rule source => [(rule, source)]
  | .addImports source rules => rules.map fun rule => (rule, source)
  | .addExtension _ _ => []

/-- The extended rules with their sources. -/
def extensions : Call → List (String × String)
  | .addExtension rule source => [(rule, source)]
  | .addImport _ _ | .addImports _ _ => []

end Call

/-- The dependencies after some calls. -/
def after (history : List Call) : Dependencies := history.foldl Call.record none

/-- The source in the first assignment to a rule that is the same in uppercase. -/
def firstSource? (assignments : List (String × String)) (rule : String) : Option String :=
  (assignments.find? fun a => Text.uppercase a.1 == Text.uppercase rule).map Prod.snd

/-- Assigns sources to the uppercase of rules, one after the other. -/
def assign (d : Dict String) (assignments : List (String × String)) : Dict String :=
  assignments.foldl (fun d a => d.insertNew (Text.uppercase a.1) a.2) d

lemma foldl_addImport (source : String) (rules : List String) (d : Dependencies) :
    d.addImports source rules =
      { d with imports := assign d.imports (rules.map fun rule => (rule, source)) } := by
  induction rules generalizing d with
  | nil => rfl
  | cons rule rest ih => exact ih (d.addImport rule source)

/-- A call adds its assignments of imports and of extensions, each on their own. -/
lemma record_eq (d : Dependencies) (call : Call) :
    call.record d = ⟨assign d.imports call.imports, assign d.extensions call.extensions⟩ := by
  cases call with
  | addImport rule source => rfl
  | addImports source rules => exact foldl_addImport source rules d
  | addExtension rule source => rfl

/-- A history comes to the same as its assignments of imports and of extensions, each on their
own. -/
theorem foldl_record (history : List Call) (d : Dependencies) :
    history.foldl Call.record d =
      ⟨assign d.imports (history.flatMap Call.imports),
        assign d.extensions (history.flatMap Call.extensions)⟩ := by
  induction history generalizing d with
  | nil => rfl
  | cons call rest ih =>
    rw [List.foldl_cons, ih, record_eq, List.flatMap_cons, List.flatMap_cons]
    simp only [assign, List.foldl_append]

/-- What is assigned to a key is the source in the first assignment to a rule of this uppercase. -/
lemma get?_assign (assignments : List (String × String)) (key : String) :
    (assign Dict.empty assignments).get? key =
      (assignments.find? fun a => Text.uppercase a.1 == key).map Prod.snd := by
  have hfold : assign Dict.empty assignments =
      (assignments.map fun a => (Text.uppercase a.1, a.2)).foldl
        (fun d e => d.insertNew e.1 e.2) Dict.empty := by
    rw [List.foldl_map]
    rfl
  rw [hfold, Dict.get?_foldl_insertNew, Dict.get?_empty, Option.none_or]
  clear hfold
  induction assignments with
  | nil => rfl
  | cons a rest ih =>
    rw [List.map_cons, List.lookup_cons, List.find?_cons, BEq.comm]
    cases Text.uppercase a.1 == key with
    | true => rfl
    | false => exact ih

/-- What is found after a history is what it has assigned first. -/
lemma sources_after (history : List Call) (rule : String) :
    (after history).importSource? rule = firstSource? (history.flatMap Call.imports) rule ∧
      (after history).extensionSource? rule =
        firstSource? (history.flatMap Call.extensions) rule := by
  rw [after, foldl_record]
  exact ⟨get?_assign _ _, get?_assign _ _⟩

lemma provenance_eq (d : Dependencies) (rule : String) :
    d.provenance rule = ((d.extensionSource? rule).map Provenance.extended).getD
      (((d.importSource? rule).map Provenance.imported).getD .native) := by
  rw [provenance]
  cases d.extensionSource? rule <;> cases d.importSource? rule <;> rfl

/-- Two lists have the same assignments, and these are of one source to every rule. -/
structure SameAssignments (as bs : List (String × String)) : Prop where
  /-- The assignments are the same. -/
  mem_iff : ∀ a, a ∈ as ↔ a ∈ bs
  /-- Rules that are the same in uppercase have the same source. -/
  source_eq : ∀ a ∈ as, ∀ b ∈ as, Text.uppercase a.1 = Text.uppercase b.1 → a.2 = b.2

/-- In what order assignments are made does not matter if they are of one source to every rule. -/
lemma SameAssignments.get? {as bs : List (String × String)} (h : SameAssignments as bs)
    (key : String) : (assign Dict.empty as).get? key = (assign Dict.empty bs).get? key := by
  rw [get?_assign, get?_assign]
  cases ha : as.find? fun a => Text.uppercase a.1 == key with
  | none =>
    have hb : bs.find? (fun a => Text.uppercase a.1 == key) = .none :=
      List.find?_eq_none.2 fun b hb => List.find?_eq_none.1 ha b ((h.mem_iff b).2 hb)
    rw [hb]
  | some a =>
    have hkey := List.find?_some ha
    have hmem := List.mem_of_find?_eq_some ha
    cases hb : bs.find? fun a => Text.uppercase a.1 == key with
    | none => exact absurd hkey (List.find?_eq_none.1 hb a ((h.mem_iff a).1 hmem))
    | some b =>
      have hkey' := List.find?_some hb
      have hmem' := (h.mem_iff b).2 (List.mem_of_find?_eq_some hb)
      have heq := (beq_iff_eq.1 hkey).trans (beq_iff_eq.1 hkey').symm
      exact congrArg some (h.source_eq a hmem b hmem' heq)

lemma agree_after {history other : List Call}
    (himports : SameAssignments (history.flatMap Call.imports) (other.flatMap Call.imports))
    (hextensions : SameAssignments (history.flatMap Call.extensions)
      (other.flatMap Call.extensions)) :
    (after history).agree (after other) = true := by
  rw [after, after, foldl_record, foldl_record, agree, Bool.and_eq_true]
  exact ⟨Dict.sameValues_of_get? himports.get?, Dict.sameValues_of_get? hextensions.get?⟩

/-! ## Documents -/

/-- What a text says of imports and extensions: what is written, under which keys and in which
order. -/
structure Document where
  /-- The imports by their keys. -/
  imports : List (String × Import)
  /-- The sources of extended rules. -/
  extensions : List (String × String)

/-- What stands under a name in a text of dependencies. -/
inductive Content where
  /-- Imports. -/
  | imports (entries : List (String × Import))
  /-- Extensions. -/
  | extensions (entries : List (String × String))
  /-- Something that means nothing. -/
  | other

/-- How an import is written: as a source, or as a list of rules. -/
def ImportAt : Spelling Import := fun c i n =>
  match i with
  | .source origin => TextAt c origin n
  | .rules names => ListOf TextAt c names n

/-- How the contents of a text are written, by their names. -/
def ContentAt (name : String) : Spelling Content := fun c x n =>
  match x with
  | .imports entries => name = "imports" ∧ ObjectOf (fun _ => ImportAt) c entries n
  | .extensions entries => name = "extends" ∧ ObjectOf (fun _ => TextAt) c entries n
  | .other => name ≠ "imports" ∧ name ≠ "extends" ∧ Passed c () n

namespace Content

/-- The imports, where there are any. -/
def imports? : Content → Option (List (String × Import))
  | .imports entries => some entries
  | .extensions _ | .other => Option.none

/-- The extensions, where there are any. -/
def extensions? : Content → Option (List (String × String))
  | .extensions entries => some entries
  | .imports _ | .other => Option.none

end Content

/-- The call that records an import under its key. -/
def Import.call : String × Import → Call
  | (rule, .source origin) => .addImport rule origin
  | (origin, .rules names) => .addImports origin names

lemma Import.record_eq (d : Dependencies) (entry : String × Import) :
    Import.record d entry = (Import.call entry).record d := by
  obtain ⟨key, _ | _⟩ := entry <;> rfl

namespace Document

/-- A text is a document: a record, whose parts are written as their names demand. -/
def Of (doc : Document) (text : String) : Prop :=
  ∃ parts, WholeText (RecordOf record.fields ContentAt) text parts ∧
    doc.imports = parts.flatMap (fun part => part.2.imports?.getD []) ∧
    doc.extensions = parts.flatMap (fun part => part.2.extensions?.getD [])

/-- The calls that record a document: its imports in their order, a source under the key of a rule
and rules under the key of a source, and then its extensions. -/
def history (doc : Document) : List Call :=
  (settled doc.imports).map Import.call ++
    (settled doc.extensions).map fun e => .addExtension e.1 e.2

end Document

/-! ## Reading a document -/

variable {rounds levels : Nat} {c n : Cursor}

lemma mapM_asText_eq_ok {items : List Value} {names : List String} :
    items.mapM Value.asText = .ok names ↔ items = names.map .str := by
  induction items generalizing names with
  | nil =>
    rw [List.mapM_nil, eq_comm (a := []), List.map_eq_nil_iff]
    exact ⟨fun h => (Except.ok.inj h).symm, fun h => h ▸ rfl⟩
  | cons v rest ih =>
    rw [List.mapM_cons]
    constructor
    · intro h
      obtain ⟨s, hs, h⟩ := Node.exists_of_bind_eq_ok h
      obtain ⟨others, hothers, h⟩ := Node.exists_of_bind_eq_ok h
      cases h
      rw [ih.1 hothers, Value.asText_eq_ok.1 hs]
      rfl
    · intro h
      cases names with
      | nil => cases h
      | cons name others =>
        obtain ⟨rfl, hrest⟩ := List.cons.inj h
        rw [ih.2 hrest]
        rfl

lemma spelled_rules_iff {names : List String} :
    Spelled (levels + 1) c (.arr (names.map .str)) n ↔ ListOf TextAt c names n := by
  rw [spelled_arr_iff]
  constructor
  · intro h
    refine ListOf.transfer h ?_
    rw [List.forall₂_map_left_iff]
    exact List.forall₂_same.2 fun s _ c n => spelled_str_iff.1
  · intro h
    refine ListOf.transfer h ?_
    rw [List.forall₂_map_right_iff]
    exact List.forall₂_same.2 fun s _ c n => spelled_str_iff.2

/-- An import is a text or a list of texts. -/
lemma exists_spelled_iff (levels : Nat) {i : Import} :
    (∃ v, Spelled (levels + 1) c v n ∧ Import.ofValue v = .ok i) ↔ ImportAt c i n := by
  constructor
  · rintro ⟨v, hv, hi⟩
    cases v with
    | str s =>
      cases hi
      exact spelled_str_iff.1 hv
    | arr items =>
      rw [Import.ofValue] at hi
      split at hi
      · next names hnames =>
        cases hi
        rw [mapM_asText_eq_ok.1 hnames] at hv
        exact spelled_rules_iff.1 hv
      · cases hi
    | _ => cases hi
  · intro h
    cases i with
    | source origin => exact ⟨.str origin, spelled_str_iff.2 h, rfl⟩
    | rules names =>
      refine ⟨.arr (names.map .str), spelled_rules_iff.2 h, ?_⟩
      rw [Import.ofValue, mapM_asText_eq_ok.2 rfl]

/-- An import is read as it is written. -/
lemma describedBy_import (levels rounds : Nat) :
    Reader.DescribedBy rounds (Import.read ⟨levels + 1, rounds⟩) ImportAt where
  iff hc := by
    rw [← exists_spelled_iff levels, Import.read, Reader.bind_eq_ok]
    simp only [Reader.ofExcept_eq_ok]
    have hvalue := Reader.describedBy_value rounds (levels + 1)
    constructor
    · rintro ⟨v, m, hv, hi, rfl⟩
      exact ⟨v, (hvalue.iff hc).1 hv, hi⟩
    · rintro ⟨v, hv, hi⟩
      exact ⟨v, _, (hvalue.iff hc).2 hv, hi, rfl⟩
  shortens {c i n} h := by
    cases i with
    | source origin => exact (describedBy_text rounds).shortens h
    | rules names =>
      exact Nat.le_of_lt (ListOf.length_lt h fun _ _ _ => (describedBy_text rounds).shortens)

/-- Puts what stands under a name with what has been read. -/
def put (w : Written) (_ : String) : Content → Written
  | .imports entries => { w with imports := some (collect entries) }
  | .extensions entries => { w with extensions := some (collect entries) }
  | .other => w

/-- The parts of a document are read as they are written. -/
lemma puts_content (levels rounds : Nat) :
    record.Puts ⟨levels + 2, rounds⟩ ContentAt put where
  field := by
    intro field hfield w c w' n hc
    simp only [record, List.mem_cons, List.not_mem_nil, or_false] at hfield
    have himports := describedBy_dict (describedBy_import levels rounds)
    have hextensions : Reader.DescribedBy rounds
        (Dict.read (fun _ => Reader.text) ⟨levels + 2, rounds⟩) _ :=
      describedBy_dict (describedBy_text rounds)
    rcases hfield with rfl | rfl
    · dsimp only
      rw [Reader.map_eq_ok]
      simp only [himports.iff hc]
      constructor
      · rintro ⟨_, ⟨entries, hentries, rfl⟩, rfl⟩
        exact ⟨.imports entries, ⟨rfl, hentries⟩, rfl⟩
      · rintro ⟨x, hx, rfl⟩
        cases x with
        | imports entries => exact ⟨_, ⟨entries, hx.2, rfl⟩, rfl⟩
        | extensions entries => exact absurd hx.1 (by decide)
        | other => exact absurd rfl hx.1
    · dsimp only
      rw [Reader.map_eq_ok]
      simp only [hextensions.iff hc]
      constructor
      · rintro ⟨_, ⟨entries, hentries, rfl⟩, rfl⟩
        exact ⟨.extensions entries, ⟨rfl, hentries⟩, rfl⟩
      · rintro ⟨x, hx, rfl⟩
        cases x with
        | extensions entries => exact ⟨_, ⟨entries, hx.2, rfl⟩, rfl⟩
        | imports entries => exact absurd hx.1 (by decide)
        | other => exact absurd rfl hx.2.1
  other := by
    intro name hname
    obtain ⟨himports, hextensions⟩ : name ≠ "imports" ∧ name ≠ "extends" := by
      simpa [record] using hname
    refine ⟨.other, fun c x n => ?_, fun _ => rfl⟩
    cases x <;> simp [ContentAt, himports, hextensions]
  shortens := by
    intro name c x n hx
    cases x with
    | imports entries =>
      exact Nat.le_of_lt (ObjectOf.length_lt hx.2 fun _ _ _ _ =>
        (describedBy_import levels rounds).shortens)
    | extensions entries =>
      exact Nat.le_of_lt (ObjectOf.length_lt hx.2 fun _ _ _ _ =>
        (describedBy_text rounds).shortens)
    | other => exact (describedBy_pass levels rounds).shortens hx.2.2
  isSet := by
    intro field hfield w name c x n hx
    simp only [record, List.mem_cons, List.not_mem_nil, or_false] at hfield
    rcases hfield with rfl | rfl
    · cases x with
      | imports entries => simp [put, hx.1]
      | extensions entries => simp [put, hx.1]
      | other => simp [put, Ne.symm hx.1]
    · cases x with
      | imports entries => simp [put, hx.1]
      | extensions entries => simp [put, hx.1]
      | other => simp [put, Ne.symm hx.2.1]
  unset := by
    intro field hfield
    simp only [record, List.mem_cons, List.not_mem_nil, or_false] at hfield
    rcases hfield with rfl | rfl <;> rfl
  distinct := by decide

section Fields

variable {α : Type} {field : Written → Option (Dict α)}
  {entries? : Content → Option (List (String × α))} {name : String}
  {parts : List (String × Content)}

/-- A field whose name does not occur stays as it is. -/
lemma foldl_put_of_not_mem
    (hput : ∀ w other x, field (put w other x) = ((entries? x).map collect).or (field w))
    (hname : ∀ part ∈ parts, (entries? part.2).isSome = true ↔ part.1 = name)
    (hmem : name ∉ parts.map Prod.fst) (w : Written) :
    field (parts.foldl (fun w part => put w part.1 part.2) w) = field w ∧
      parts.flatMap (fun part => (entries? part.2).getD []) = [] := by
  induction parts generalizing w with
  | nil => exact ⟨rfl, rfl⟩
  | cons part rest ih =>
    rw [List.map_cons, List.mem_cons, not_or] at hmem
    obtain ⟨hpart, hrest⟩ := List.forall_mem_cons.1 hname
    have hnone : entries? part.2 = Option.none := by
      rw [← Option.not_isSome_iff_eq_none, hpart]
      exact Ne.symm hmem.1
    obtain ⟨hfield, hflat⟩ := ih hrest hmem.2 (put w part.1 part.2)
    refine ⟨?_, ?_⟩
    · rw [List.foldl_cons, hfield, hput, hnone]
      rfl
    · rw [List.flatMap_cons, hflat, hnone]
      rfl

/-- A field whose name occurs at most once is the dictionary of what stands under the name. -/
lemma getD_foldl_put
    (hput : ∀ w other x, field (put w other x) = ((entries? x).map collect).or (field w))
    (hname : ∀ part ∈ parts, (entries? part.2).isSome = true ↔ part.1 = name)
    (hcount : (parts.map Prod.fst).count name ≤ 1) {w : Written} (hw : field w = Option.none) :
    (field (parts.foldl (fun w part => put w part.1 part.2) w)).getD Dict.empty =
      collect (parts.flatMap fun part => (entries? part.2).getD []) := by
  induction parts generalizing w with
  | nil => rw [List.foldl_nil, hw]; rfl
  | cons part rest ih =>
    obtain ⟨hpart, hrest⟩ := List.forall_mem_cons.1 hname
    rw [List.map_cons, List.count_cons] at hcount
    rw [List.foldl_cons, List.flatMap_cons]
    cases hentries : entries? part.2 with
    | none =>
      have hfield : field (put w part.1 part.2) = Option.none := by rw [hput, hentries, hw]; rfl
      exact ih hrest (Nat.le_of_add_right_le hcount) hfield
    | some entries =>
      have hmem : name ∉ rest.map Prod.fst := by
        rw [if_pos (beq_iff_eq.2 (hpart.1 (by rw [hentries]; rfl)))] at hcount
        exact List.count_eq_zero.1 (Nat.le_zero.1 (Nat.le_of_succ_le_succ hcount))
      obtain ⟨hfield, hflat⟩ := foldl_put_of_not_mem hput hrest hmem (put w part.1 part.2)
      rw [hfield, hflat, hput, hentries, List.append_nil]
      rfl

end Fields

/-- A document is recorded as its history. -/
lemma ofWritten_put {parts : List (String × Content)} {c n : Cursor}
    (hparts : RecordOf record.fields ContentAt c parts n) :
    ofWritten (parts.foldl (fun w part => put w part.1 part.2) {}) =
      after (Document.history
        ⟨parts.flatMap fun part => part.2.imports?.getD [],
          parts.flatMap fun part => part.2.extensions?.getD []⟩) := by
  have hnodup := hparts.nodup (by decide)
  have hcount : ∀ name ∈ record.fields.map Field.name, (parts.map Prod.fst).count name ≤ 1 := by
    intro name hname
    have hle := List.nodup_iff_count_le_one.1 hnodup name
    rwa [fieldNames, List.count_filter (by simpa using hname)] at hle
  have hspelled : ∀ part ∈ parts, ∃ c n, ContentAt part.1 c part.2 n := fun part hpart =>
    hparts.exists_of_mem hpart
  have himports : ∀ part ∈ parts, part.2.imports?.isSome = true ↔ part.1 = "imports" := by
    intro part hpart
    obtain ⟨_, _, hx⟩ := hspelled part hpart
    obtain ⟨name, x⟩ := part
    cases x with
    | imports entries => simpa [Content.imports?] using hx.1
    | extensions entries =>
      obtain rfl : name = "extends" := hx.1
      simp [Content.imports?]
    | other => simpa [Content.imports?] using hx.1
  have hextensions : ∀ part ∈ parts, part.2.extensions?.isSome = true ↔ part.1 = "extends" := by
    intro part hpart
    obtain ⟨_, _, hx⟩ := hspelled part hpart
    obtain ⟨name, x⟩ := part
    cases x with
    | imports entries =>
      obtain rfl : name = "imports" := hx.1
      simp [Content.extensions?]
    | extensions entries => simpa [Content.extensions?] using hx.1
    | other => simpa [Content.extensions?] using hx.2.1
  have hput : ∀ (w : Written) name x, (put w name x).imports =
      ((Content.imports? x).map collect).or w.imports := by
    rintro w name (_ | _ | _) <;> rfl
  have hput' : ∀ (w : Written) name x, (put w name x).extensions =
      ((Content.extensions? x).map collect).or w.extensions := by
    rintro w name (_ | _ | _) <;> rfl
  rw [ofWritten, getD_foldl_put hput himports (hcount _ (by decide)) rfl,
    getD_foldl_put hput' hextensions (hcount _ (by decide)) rfl, entries_collect, entries_collect,
    after, Document.history, List.foldl_append, List.foldl_map, List.foldl_map]
  simp only [← Import.record_eq]
  rfl

/-- A text is read as what comes of recording the document that it is. -/
theorem ofText_eq_ok {text : String} {d : Dependencies} :
    ofText text = .ok d ↔ ∃ doc : Document, doc.Of text ∧ after doc.history = d := by
  have hparse : ofText text = .ok d ↔ parse text = .ok d := by
    rw [ofText]
    cases parse text <;> simp [Except.mapError]
  have hread : parse text = .ok d ↔
      ∃ parts, WholeText (RecordOf record.fields ContentAt) text parts ∧
        ofWritten (parts.foldl (fun w part => put w part.1 part.2) {}) = d := by
    have hrecord := (puts_content 124 (text.length + 1)).describedBy_record
    refine (Reader.DescribedBy.readText_eq_ok (r := read) hrecord).trans ?_
    constructor
    · rintro ⟨n, ⟨parts, hparts, hfinish⟩, hn⟩
      exact ⟨parts, ⟨n, hparts, hn⟩, Except.ok.inj hfinish⟩
    · rintro ⟨parts, ⟨n, hparts, hn⟩, rfl⟩
      exact ⟨n, ⟨parts, hparts, rfl⟩, hn⟩
  rw [hparse, hread]
  constructor
  · rintro ⟨parts, ⟨n, hparts, hn⟩, rfl⟩
    exact ⟨_, ⟨parts, ⟨n, hparts, hn⟩, rfl, rfl⟩, (ofWritten_put hparts).symm⟩
  · rintro ⟨⟨imports, extensions⟩, ⟨parts, ⟨n, hparts, hn⟩, himports, hextensions⟩, rfl⟩
    refine ⟨parts, ⟨n, hparts, hn⟩, (ofWritten_put hparts).trans ?_⟩
    rw [← himports, ← hextensions]

/-- **The first source stays, and extensions come before imports.**  After any history of calls a
rule is imported from the first source that was recorded for a rule of the same uppercase, several
rules of one call in their order, and likewise it extends a rule of the first source recorded as an
extension; it counts as extended if there is such a source, else as imported, else as native.  What
a history amounts to depends on its imports and on its extensions only, however they are mixed.  A
text of dependencies is read as what comes of recording the document that it is: its imports in
their order, as rule and source or as source and rules, and then its extensions, a repeated key
keeping its first place with its last value.  So two documents with the same assignments, of one
source to every rule, give the same dependencies, in whatever shape and order they are written. -/
theorem first_recorded_stays :
    (∀ (history : List Call) (rule : String),
      (after history).importSource? rule = firstSource? (history.flatMap Call.imports) rule ∧
      (after history).extensionSource? rule =
        firstSource? (history.flatMap Call.extensions) rule ∧
      (after history).provenance rule =
        ((firstSource? (history.flatMap Call.extensions) rule).map Provenance.extended).getD
          (((firstSource? (history.flatMap Call.imports) rule).map Provenance.imported).getD
            .native)) ∧
    (∀ history other : List Call,
      history.flatMap Call.imports = other.flatMap Call.imports →
      history.flatMap Call.extensions = other.flatMap Call.extensions →
      after history = after other) ∧
    (∀ (text : String) (d : Dependencies),
      ofText text = .ok d ↔ ∃ doc : Document, doc.Of text ∧ after doc.history = d) ∧
    ∀ (text text' : String) (doc doc' : Document), doc.Of text → doc'.Of text' →
      SameAssignments (doc.history.flatMap Call.imports) (doc'.history.flatMap Call.imports) →
      SameAssignments (doc.history.flatMap Call.extensions)
        (doc'.history.flatMap Call.extensions) →
      ∃ d d', ofText text = .ok d ∧ ofText text' = .ok d' ∧ d.agree d' = true := by
  refine ⟨fun history rule => ?_, fun history other himports hextensions => ?_,
    fun text d => ofText_eq_ok, fun text text' doc doc' hdoc hdoc' himports hextensions => ?_⟩
  · obtain ⟨himport, hextension⟩ := sources_after history rule
    exact ⟨himport, hextension, by rw [provenance_eq, himport, hextension]⟩
  · rw [after, after, foldl_record, foldl_record, himports, hextensions]
  · exact ⟨_, _, ofText_eq_ok.2 ⟨doc, hdoc, rfl⟩, ofText_eq_ok.2 ⟨doc', hdoc', rfl⟩,
      agree_after himports hextensions⟩

/-- A text with a repeated key, in which a rule has a source. -/
def byRule : String := "\x7b\"imports\":\x7b\"a\":\"w\",\"a\":\"x\"\x7d\x7d"

/-- A text in which a source has rules, written as a list without extensions. -/
def bySource : String := "[\x7b\"x\":[\"a\"]\x7d]"

/-- A value holds imports. -/
lemma contentAt_of_spelled {values : List (String × Value)} {entries : List (String × Import)}
    (hentries : List.Forall₂ (fun m e => m.1 = e.1 ∧ Import.ofValue m.2 = .ok e.2) values entries)
    (h : Spelled (levels + 2) c (.obj values) n) :
    ContentAt "imports" c (.imports entries) n := by
  refine ⟨rfl, ObjectOf.transfer (spelled_obj_iff.1 h) (hentries.imp fun m e he => ⟨he.1, ?_⟩)⟩
  intro c n hvalue
  exact (exists_spelled_iff levels).1 ⟨_, hvalue, he.2⟩

/-- Imports are a document, as the member of an object or as the first item of a list. -/
lemma Document.of_value {text : String} {values : List (String × Value)}
    {entries : List (String × Import)}
    (h : readText Reader.value text = .ok (.obj [("imports", .obj values)]) ∨
      readText Reader.value text = .ok (.arr [.obj values]))
    (hentries : List.Forall₂ (fun m e => m.1 = e.1 ∧ Import.ofValue m.2 = .ok e.2) values
      entries) : Document.Of ⟨entries, []⟩ text := by
  rw [(Reader.describedBy_value _ 127).readText_eq_ok,
    (Reader.describedBy_value _ 127).readText_eq_ok] at h
  refine ⟨[("imports", .imports entries)], ?_, by simp [Content.imports?],
    by simp [Content.extensions?]⟩
  rcases h with ⟨n, h, hn⟩ | ⟨n, h, hn⟩
  · have hparts : ObjectOf ContentAt (.start text) [("imports", .imports entries)] n :=
      ObjectOf.transfer (spelled_obj_iff.1 h)
        (.cons ⟨rfl, fun c n => contentAt_of_spelled hentries⟩ .nil)
    exact ⟨n, .inl ⟨hparts, List.nodup_singleton "imports"⟩, hn⟩
  · refine ⟨n, .inr (Enclosed.imp (spelled_arr_iff.1 h) fun m m' hitems => ?_), hn⟩
    cases hitems with
    | cons hnext hitem hitems =>
      cases hitems with
      | nil hend =>
        exact .cons hnext (contentAt_of_spelled hentries hitem) (.absent hend (by decide))

lemma of_byRule : Document.Of ⟨[("a", .source "w"), ("a", .source "x")], []⟩ byRule := by
  have htext : byRule =
      (Value.obj [("imports", .obj [("a", .str "w"), ("a", .str "x")])]).compact := by
    decide +kernel
  have hread : readText Reader.value byRule = .ok _ := htext ▸ readText_compact
    (.obj (by simp [Value.Plain.obj, Value.Plain.str])) (by decide)
  exact Document.of_value (.inl hread) (.cons ⟨rfl, rfl⟩ (.cons ⟨rfl, rfl⟩ .nil))

lemma of_bySource : Document.Of ⟨[("x", .rules ["a"])], []⟩ bySource := by
  have htext : bySource = (Value.arr [.obj [("x", .arr [.str "a"])]]).compact := by
    decide +kernel
  have hread : readText Reader.value bySource = .ok _ := htext ▸ readText_compact
    (.arr (by simp [Value.Plain.obj, Value.Plain.arr, Value.Plain.str])) (by decide)
  exact Document.of_value (.inr hread) (.cons ⟨rfl, rfl⟩ .nil)

/-- Two histories that mix their calls differently, and two texts that say the same. -/
theorem first_recorded_stays_mixed :
    after [.addImports "x" ["B", "ß"], .addExtension "SS" "z", .addImport "b" "y"] =
      after [.addImport "B" "x", .addImports "x" ["ß"], .addImport "b" "y",
        .addExtension "SS" "z"] ∧
    (after [.addImports "x" ["B", "ß"], .addExtension "SS" "z", .addImport "b" "y"]).provenance
      "b" = .imported "x" ∧
    (after [.addImports "x" ["B", "ß"], .addExtension "SS" "z", .addImport "b" "y"]).provenance
      "ß" = .extended "z" ∧
    ∃ d d', ofText byRule = .ok d ∧ ofText bySource = .ok d' ∧ d.agree d' = true := by
  obtain ⟨hsources, hmixed, -, htexts⟩ := first_recorded_stays
  refine ⟨hmixed _ _ rfl rfl, ?_, ?_, htexts _ _ _ _ of_byRule of_bySource ?_ ?_⟩
  · obtain ⟨-, -, hprovenance⟩ := hsources
      [.addImports "x" ["B", "ß"], .addExtension "SS" "z", .addImport "b" "y"] "b"
    rw [hprovenance]
    decide
  · obtain ⟨-, -, hprovenance⟩ := hsources
      [.addImports "x" ["B", "ß"], .addExtension "SS" "z", .addImport "b" "y"] "ß"
    rw [hprovenance]
    decide
  · have hrule : (Document.history ⟨[("a", .source "w"), ("a", .source "x")], []⟩).flatMap
        Call.imports = [("a", "x")] := by decide
    have hsource : (Document.history ⟨[("x", .rules ["a"])], []⟩).flatMap Call.imports =
        [("a", "x")] := by decide
    rw [hrule, hsource]
    exact ⟨fun _ => Iff.rfl, by decide⟩
  · exact ⟨fun _ => Iff.rfl, by decide⟩

end Dependencies

end Abnf
