import Abnf.Load
import Abnf.Rendering.Diagnostic
import Abnf.Proofs.Json.Keeps
import Abnf.Proofs.Json.Depth

/-!
# How texts are rejected

A grammar and its dependencies are read by readers that keep to their text, part by part: what is
wrong with a base, a bound, a node or a field has a message that tells no place, and its place is
that of the object or list around it, if it has none of its own.  A text is therefore always rejected
at one of its places.  The error for it is made from the reader's message by cutting off the place at
its end, which is the last thing in the message that reads like a place, whatever the text holds; so
the error has the place and the message as the reader knows them (`rejection_reported`).
-/

namespace Abnf

open Json
open Json.Cause (placeless_of_isFixed placeless_wrongType placeless_wrongInteger
  placeless_wrongLength placeless_elementCount placeless_missingField placeless_duplicateField)

variable {cs : List Char} {refusable : Prop}

/-! ## Bases and bounds -/

lemma Base.placeless_ofRadix (n : UInt32) : Placeless (Base.ofRadix n) := by
  unfold ofRadix
  split
  · exact .ok _
  · exact .error (Cause.placeless_unsupportedBase _)

lemma Base.placeless_ofValue (v : Value) : Placeless (Base.ofValue v) :=
  .bind v.placeless_asWord placeless_ofRadix

namespace Repeat

lemma placeless_finish (p : Partial) : Placeless p.finish := by
  unfold Partial.finish
  split
  · exact .ok _
  · exact .error (placeless_missingField _)

lemma placeless_add (p : Partial) (m : String × Value) : Placeless (p.add m) := by
  unfold Partial.add
  split
  · split
    · exact .error (placeless_duplicateField _)
    · exact .bind (Value.placeless_asWord _) fun _ => .ok _
  · split
    · exact .error (placeless_duplicateField _)
    · exact .bind (Value.placeless_asOptional Value.placeless_asWord _) fun _ => .ok _
  · exact .ok _

lemma placeless_ofValue (v : Value) : Placeless (Repeat.ofValue v) := by
  have hadd : ∀ (members : List (String × Value)) (p : Partial),
      Placeless (members.foldlM Partial.add p) := by
    intro members
    induction members with
    | nil => exact fun p => .ok p
    | cons m rest ih =>
      intro p
      rw [List.foldlM_cons]
      exact .bind (placeless_add p m) ih
  unfold ofValue
  split
  · exact .bind (hadd _ _) placeless_finish
  · exact .error (placeless_elementCount _ _ _)
  · exact .bind (Value.placeless_asWord _) fun _ => .ok _
  · refine .bind (Value.placeless_asWord _) fun _ =>
      .bind (Value.placeless_asOptional Value.placeless_asWord _) fun _ => ?_
    split
    · exact .ok _
    · exact .error (placeless_wrongLength _ _ (by decide))
  · exact .error (placeless_wrongType _ (by decide))

end Repeat

/-! ## Nodes -/

lemma Kind.placeless_ofIdentifier (v : Value) : Placeless (Kind.named.ofIdentifier v) :=
  Choice.placeless_ofIdentifier (by decide +kernel) v

lemma Kind.placeless_ofValue (v : Value) : Placeless (Kind.ofValue v) := by
  unfold ofValue
  split
  · split
    · exact .ok _
    · exact .error (placeless_wrongInteger _ (by decide))
    · exact .error (placeless_wrongType _ (by decide))
  · exact placeless_ofIdentifier _

lemma Slot.placeless_require {α : Type} (name : String) (field : Option α) :
    Placeless (Slot.require name field) := by
  cases field with
  | none => exact .error (placeless_missingField name)
  | some a => exact .ok a

lemma Kind.placeless_assemble (kind : Kind) (parts : Parts) :
    Placeless (kind.assemble parts) := by
  cases kind with
  | rule =>
    exact .bind (Slot.placeless_require _ _) fun _ => .bind (Slot.placeless_require _ _) fun _ =>
      .ok _
  | literal casing => exact .bind (Slot.placeless_require _ _) fun _ => .ok _
  | range =>
    exact .bind (Slot.placeless_require _ _) fun _ => .bind (Slot.placeless_require _ _) fun _ =>
      .bind (Slot.placeless_require _ _) fun _ => .ok _
  | prose | reference | concatenation | alternation | group =>
    exact .map _ (Slot.placeless_require _ _)
  | repetition =>
    exact .bind (Slot.placeless_require _ _) fun _ => .bind (Slot.placeless_require _ _) fun _ =>
      .ok _

/-- What is wrong with a field is what is wrong with its value. -/
lemma Slot.placeless_fill (slot : Slot) (v : Value) {node : Unit → Except Cause Node}
    {nodes : Unit → Except Cause (List Node)} (hnode : Placeless (node ()))
    (hnodes : Placeless (nodes ())) (parts : Parts) :
    Placeless (slot.fill v node nodes parts) := by
  cases slot with
  | name | text => exact .map _ v.placeless_asText
  | baseOrNull => exact .map _ (v.placeless_asOptional Base.placeless_ofValue)
  | base => exact .map _ (Base.placeless_ofValue v)
  | first | last => exact .map _ v.placeless_asWord
  | child => exact .map _ hnode
  | children => exact .map _ hnodes
  | bounds => exact .map _ (Repeat.placeless_ofValue v)

namespace Node

lemma placeless_kindOfMembers (found : Option Kind) (members : List (String × Value)) :
    Placeless (kindOfMembers found members) := by
  induction members generalizing found with
  | nil =>
    cases found with
    | none => exact .error (placeless_missingField _)
    | some kind => exact .ok kind
  | cons m rest ih =>
    rw [kindOfMembers]
    split
    · split
      · exact .error (placeless_duplicateField _)
      · exact .bind (Kind.placeless_ofValue _) fun kind => ih (some kind)
    · exact ih found

lemma placeless_checkAbsent (kind : Kind) (done : Nat) (fields : List (String × Slot)) :
    Placeless (checkAbsent kind done fields) := by
  induction fields generalizing done with
  | nil => exact .ok ()
  | cons field fields ih =>
    rw [checkAbsent]
    split
    · exact ih _
    · exact .error (placeless_elementCount _ _ _)

/-- What is wrong with a value, as a node or as a list of nodes, is told without a place. -/
structure Told (v : Value) : Prop where
  /-- As a node. -/
  node : Placeless (ofValue v)
  /-- As a list of nodes. -/
  nodes : Placeless (listOfValue v)

lemma placeless_partsOfMembers (kind : Kind) {members : List (String × Value)}
    (h : ∀ m ∈ members, Told m.2) (parts : Parts) :
    Placeless (partsOfMembers kind members parts) := by
  induction members generalizing parts with
  | nil =>
    rw [partsOfMembers]
    exact .ok parts
  | cons m rest ih =>
    obtain ⟨hm, hrest⟩ := List.forall_mem_cons.1 h
    rw [partsOfMembers]
    split
    · exact ih hrest parts
    · split
      · exact .error (placeless_duplicateField _)
      · exact .bind (Slot.placeless_fill _ _ hm.node hm.nodes parts) fun parts => ih hrest parts

lemma placeless_partsOfItems (kind : Kind) {items : List Value} (h : ∀ v ∈ items, Told v)
    (done : Nat) (fields : List (String × Slot)) (parts : Parts) :
    Placeless (partsOfItems kind done fields items parts) := by
  induction items generalizing done fields parts with
  | nil =>
    rw [partsOfItems]
    exact .map _ (placeless_checkAbsent kind done fields)
  | cons v rest ih =>
    obtain ⟨hv, hrest⟩ := List.forall_mem_cons.1 h
    cases fields with
    | nil =>
      rw [partsOfItems]
      exact .error (placeless_wrongLength _ _ (by decide))
    | cons field fields =>
      rw [partsOfItems]
      exact .bind (Slot.placeless_fill _ _ hv.node hv.nodes parts) fun parts =>
        ih hrest _ fields parts

lemma placeless_ofValues {items : List Value} (h : ∀ v ∈ items, Told v) :
    Placeless (ofValues items) := by
  induction items with
  | nil =>
    rw [ofValues]
    exact .ok []
  | cons v rest ih =>
    obtain ⟨hv, hrest⟩ := List.forall_mem_cons.1 h
    rw [ofValues]
    exact .bind hv.node fun _ => .bind (ih hrest) fun _ => .ok _

/-- The fields of a node are values below it, so that what is wrong with them is known before the
node is put together. -/
theorem told (v : Value) : Told v := by
  induction v using Value.induction with
  | arr items ih =>
    constructor
    · cases items with
      | nil =>
        rw [ofValue]
        exact .error (placeless_missingField _)
      | cons tag items =>
        rw [ofValue]
        exact .bind (Kind.placeless_ofValue tag) fun kind =>
          .bind (placeless_partsOfItems kind (fun v hv => ih v (List.mem_cons_of_mem _ hv)) _ _ _)
            kind.placeless_assemble
    · rw [listOfValue]
      exact placeless_ofValues ih
  | obj members ih =>
    constructor
    · rw [ofValue]
      exact .bind (placeless_kindOfMembers none members) fun kind =>
        .bind (placeless_partsOfMembers kind ih _) kind.placeless_assemble
    · exact .error (placeless_wrongType _ (by decide))
  | scalar v hv =>
    cases v with
    | arr items => cases hv
    | obj members => cases hv
    | _ =>
      constructor
      · exact .error (placeless_wrongType _ (by decide))
      · exact .error (placeless_wrongType _ (by decide))

lemma keeps_readMember (limits : Limits) (state : Option Kind × List (String × Value))
    (name : String) : Keeps cs True (readMember limits state name) := by
  unfold readMember
  split
  · split
    · exact .refuse (placeless_duplicateField _)
    · exact .bind Reader.keeps_colon fun _ =>
        .bind (Reader.keeps_scalarAs Kind.placeless_ofIdentifier) fun _ => .pure _
  · exact .bind Reader.keeps_colon fun _ => .bind (Reader.keeps_value limits) fun _ => .pure _

lemma keeps_readMembers (limits : Limits) : Keeps cs True (readMembers limits) := by
  refine .bind (Reader.keeps_members (keeps_readMember limits) _ _) fun state => ?_
  split
  · exact .pure _
  · exact .refuse (placeless_missingField _)

lemma keeps_readItems (limits : Limits) : Keeps cs True (readItems limits) := by
  refine .bind (Reader.keeps_nextElement true) fun first => ?_
  cases first with
  | none => exact .refuse (placeless_missingField _)
  | some _ =>
    exact .bind (Reader.keeps_scalarAs Kind.placeless_ofIdentifier) fun kind =>
      .bind (.many Reader.keeps_nextElement (fun _ _ => .map _ (Reader.keeps_value limits)) _ _ _)
        fun _ => .pure _

/-- What is wrong with the fields of a node has no place of its own. -/
lemma keeps_read (limits : Limits) : Keeps cs True (Node.read limits) := by
  refine .bind .peekToken fun c => ?_
  split
  · exact .bind (Reader.keeps_object keeps_readMembers) fun (kind, members) =>
      .ofExcept (.bind (placeless_partsOfMembers kind (fun m _ => told m.2) _)
        kind.placeless_assemble)
  · exact .bind (Reader.keeps_list keeps_readItems) fun (kind, items) =>
      .ofExcept (.bind (placeless_partsOfItems kind (fun v _ => told v) _ _ _)
        kind.placeless_assemble)
  · exact Reader.keeps_scalarAs fun v => .error (placeless_wrongType _ (by decide))

end Node

/-! ## Grammars and dependencies -/

lemma Dict.keeps_read {α : Type} {item : Limits → Reader α}
    (h : ∀ limits, Keeps cs True (item limits)) (limits : Limits) :
    Keeps cs refusable (Dict.read item limits) := by
  refine .bind .peekToken fun c => ?_
  split
  · exact Reader.keeps_object fun inner => Reader.keeps_members
      (fun _ _ => .bind Reader.keeps_colon fun _ => .bind (h inner) fun _ => .pure _) _ _
  · exact Reader.keeps_scalarAs fun v => .error (placeless_wrongType _ (by decide))

lemma Grammar.keeps_read (limits : Limits) : Keeps cs refusable (Grammar.read limits) := by
  have hreference : ∀ limits, Keeps cs True (Reader.record referenceRecord limits) := by
    refine Reader.keeps_record (by decide) ?_ ?_
    · intro field hfield limits state
      obtain rfl := List.mem_singleton.1 hfield
      exact .map _ Reader.keeps_text
    · intro state
      cases state with
      | none => exact .error (placeless_missingField _)
      | some name => exact .ok name
  refine Reader.keeps_record (by decide) ?_ ?_ limits
  · intro field hfield limits state
    simp only [record, List.mem_cons, List.not_mem_nil, or_false] at hfield
    rcases hfield with rfl | rfl
    · exact .map _ (Dict.keeps_read Node.keeps_read limits)
    · exact .map _ (Reader.keeps_listOf hreference limits)
  · rintro ⟨definitions, listed⟩
    cases definitions with
    | none => exact .error (placeless_missingField _)
    | some definitions => exact .ok _

namespace Dependencies

lemma Import.placeless_ofValue (v : Value) : Placeless (Import.ofValue v) := by
  unfold ofValue
  split
  · exact .ok _
  · split
    · exact .ok _
    · exact .error (placeless_of_isFixed rfl)
  · exact .error (placeless_of_isFixed rfl)

lemma keeps_read (limits : Limits) : Keeps cs refusable (Dependencies.read limits) := by
  have himport : ∀ limits, Keeps cs True (Import.read limits) := fun limits =>
    .bind (Reader.keeps_value limits) fun v => .ofExcept (Import.placeless_ofValue v)
  refine Reader.keeps_record (by decide) ?_ (fun state => .ok _) limits
  intro field hfield limits state
  simp only [record, List.mem_cons, List.not_mem_nil, or_false] at hfield
  rcases hfield with rfl | rfl
  · exact .map _ (Dict.keeps_read himport limits)
  · exact .map _ (Dict.keeps_read (fun _ => Reader.keeps_text) limits)

end Dependencies

/-! ## What is told of a rejected text -/

namespace Text

variable {mark kept : List Char}

lemma beforeLast_eq_none {c : Char} (hmark : c ∈ mark) (h : c ∉ cs) : beforeLast mark cs = none := by
  induction cs with
  | nil => rfl
  | cons d rest ih =>
    rw [List.mem_cons, not_or] at h
    rw [beforeLast, ih h.2]
    refine if_neg fun hprefix => ?_
    rcases List.mem_cons.1 ((List.isPrefixOf_iff_prefix.1 hprefix).subset hmark) with heq | hmem
    · exact h.1 heq
    · exact h.2 hmem

lemma beforeLast_append (h : beforeLast mark cs = some kept) (front : List Char) :
    beforeLast mark (front ++ cs) = some (front ++ kept) := by
  induction front with
  | nil => exact h
  | cons c front ih => rw [List.cons_append, beforeLast, ih, List.cons_append]

/-- A place begins with the last mark of a place in it. -/
lemma beforeLast_place (place : Position) :
    beforeLast Position.mark.toList place.text.toList = some [] := by
  -- No letter of a place but the second one is an `a`, which is the second letter of the mark.
  have hmark : Position.mark.toList = ' ' :: 'a' :: "t line ".toList := by decide
  have hword : 'a' ∉ " column ".toList := by decide
  have hline : 'a' ∉ "t line ".toList := by decide
  have hdigits : ∀ n : Nat, 'a' ∉ (toString n).toList := fun n hmem => by
    have hdigit : 'a'.isDigit = true := Reader.isDigit_of_mem_toDigits (n := n) (by simpa using hmem)
    simp at hdigit
  simp only [Position.text, String.toList_append, hmark, List.cons_append, List.append_assoc]
  rw [beforeLast, beforeLast, beforeLast_eq_none (c := 'a') (by simp)]
  · simp [List.isPrefixOf]
  · simp only [List.mem_append, hline, hword, hdigits, or_self, not_false_eq_true]

/-- The place behind a message is cut off, whatever the message says. -/
lemma cutAtLast_place (message : String) (place : Position) :
    cutAtLast Position.mark (message ++ place.text) = message := by
  rw [cutAtLast, String.toList_append, beforeLast_append (beforeLast_place place), List.append_nil,
    Option.map_some, Option.getD_some, String.ofList_toList]

end Text

namespace LoadError

/-- An error tells all that a reader has found out about a text that it rejects. -/
structure Reports (error : LoadError) (text : String) (fault : Fault) (place : Position) : Prop where
  /-- The error tells the place and the whole message for the cause. -/
  eq : error = .malformed place.line place.column fault.cause.message
  /-- The reader's own message is that message with the place behind it. -/
  text_eq : fault.text =
    fault.cause.message ++ " at line " ++ toString place.line ++ " column " ++ toString place.column
  /-- The message itself does not end as a place does. -/
  placeless : ∀ front column : String, column.toList.all Char.isDigit = true →
    fault.cause.message ≠ front ++ " column " ++ column
  /-- Lines are counted from one. -/
  one_le_line : 1 ≤ place.line
  /-- The text has the line. -/
  line_le : place.line ≤ 1 + text.toList.count '\n'
  /-- The line is long enough. -/
  column_le : ∃ line, (text.toList.splitOn '\n')[place.line - 1]? = some line ∧
    place.column ≤ Diagnostic.bytes line

variable {text : String} {cause : Cause} {place : Position}

/-- The message of a fault at a place is told in full. -/
lemma ofFault_eq :
    ofFault ⟨cause, some place⟩ = .malformed place.line place.column cause.message := by
  have hcut : Text.cutAtLast Position.mark (Fault.text ⟨cause, some place⟩) = cause.message :=
    Text.cutAtLast_place cause.message place
  rw [ofFault, hcut]
  rfl

lemma reports (hcause : cause.Placeless) (hplace : place.In text.toList) :
    (malformed place.line place.column cause.message).Reports text ⟨cause, some place⟩ place := by
  obtain ⟨hone, hline, hcolumn⟩ := hplace.splitOn
  refine ⟨rfl, ?_, hcause, hone, hline, hcolumn⟩
  show cause.message ++ place.text = _
  simp only [Position.text, Position.mark, String.append_assoc]

/-- A text that a reader rejects is reported with the place that the reader gives. -/
lemma exists_of_readText {α : Type} {r : Limits → Reader α} {error : LoadError}
    (hr : ∀ limits, Keeps text.toList False (r limits))
    (h : (readText r text).mapError ofFault = .error error) :
    ∃ cause place, readText r text = .error ⟨cause, some place⟩ ∧ cause.Placeless ∧
      place.In text.toList ∧ error = .malformed place.line place.column cause.message := by
  cases hread : readText r text with
  | ok a =>
    rw [hread] at h
    cases h
  | error fault =>
    obtain ⟨hcause, place, hplace, hin⟩ := Reader.place_of_readText hr hread
    obtain ⟨cause, position⟩ := fault
    obtain rfl : position = some place := hplace
    rw [hread] at h
    exact ⟨cause, place, rfl, hcause, hin, (Except.error.inj h).symm.trans ofFault_eq⟩

end LoadError

/-- **Rejected texts.**  When the text of a grammar or of its dependencies is rejected, the error
tells the whole message for the cause, which with the place behind it is the reader's own message;
whatever names and values of the text are quoted in it, nothing that looks like a place at its end
is part of the message.  The place lies in the text: its line is one of the text's lines, which are
counted from one, and its column does not exceed the bytes of that line. -/
theorem rejection_reported (text : String) :
    (∀ error, Grammar.ofText text = .error error →
      ∃ fault place, Grammar.parse text = .error fault ∧ error.Reports text fault place) ∧
    ∀ error, Dependencies.ofText text = .error error →
      ∃ fault place, Dependencies.parse text = .error fault ∧ error.Reports text fault place := by
  constructor
  · intro error h
    obtain ⟨cause, place, hread, hcause, hplace, rfl⟩ :=
      LoadError.exists_of_readText Grammar.keeps_read h
    exact ⟨_, place, hread, LoadError.reports hcause hplace⟩
  · intro error h
    obtain ⟨cause, place, hread, hcause, hplace, rfl⟩ :=
      LoadError.exists_of_readText Dependencies.keeps_read h
    exact ⟨_, place, hread, LoadError.reports hcause hplace⟩

/-- The fault of a text that is rejected. -/
def Json.fault? {α : Type} : Except Json.Fault α → Option Json.Fault
  | .error fault => some fault
  | .ok _ => none

lemma Json.eq_error_of_fault? {α : Type} {x : Except Json.Fault α} {fault : Json.Fault}
    (h : Json.fault? x = some fault) : x = .error fault := by
  cases x with
  | error other => exact congrArg _ (Option.some.inj h)
  | ok a => cases h

/-- A text in which the kind of a node reads like a place. -/
def misleadingText : String :=
  "\x7b\n\"defs\":\x7b\"a\":\x7b\"type\":\"x at line 9 column 9\"\x7d\x7d\x7d"

lemma parse_misleadingText : Grammar.parse misleadingText =
    .error ⟨.unknownVariant "x at line 9 column 9" (Kind.named.named.map Prod.fst),
      some ⟨2, 42⟩⟩ :=
  Json.eq_error_of_fault? (by decide +kernel)

lemma parse_dependencies_unclosed : Dependencies.parse "\n[1 at line 9" =
    .error ⟨.wrongType (.int 1) "a map", some ⟨2, 2⟩⟩ :=
  Json.eq_error_of_fault? (by decide +kernel)

/-- What reads like a place is kept in the message, and the place is the one at which the text is
wrong. -/
theorem rejection_reported_misleading :
    (∃ fault place, Grammar.parse misleadingText = .error fault ∧
      (LoadError.malformed 2 42 ("unknown variant `x at line 9 column 9`, expected one of " ++
        "`rule`, `caseSensitiveString`, `caseSensitveString`, `caseInsensitiveString`, " ++
        "`caseInsensitveString`, `range`, `prose`, `ruleref`, `concatenation`, `alternation`, " ++
        "`group`, `repetition`")).Reports misleadingText fault place) ∧
    ∃ fault place, Dependencies.parse "\n[1 at line 9" = .error fault ∧
      (LoadError.malformed 2 2 "invalid type: integer `1`, expected a map").Reports
        "\n[1 at line 9" fault place := by
  have hgrammar : Grammar.ofText misleadingText = .error (.malformed 2 42
      (Cause.unknownVariant "x at line 9 column 9" (Kind.named.named.map Prod.fst)).message) := by
    rw [Grammar.ofText, parse_misleadingText]
    exact congrArg _ LoadError.ofFault_eq
  have hdependencies : Dependencies.ofText "\n[1 at line 9" = .error (.malformed 2 2
      (Cause.wrongType (.int 1) "a map").message) := by
    rw [Dependencies.ofText, parse_dependencies_unclosed]
    exact congrArg _ LoadError.ofFault_eq
  have hvariant :
      (Cause.unknownVariant "x at line 9 column 9" (Kind.named.named.map Prod.fst)).message =
        "unknown variant `x at line 9 column 9`, expected one of " ++
          "`rule`, `caseSensitiveString`, `caseSensitveString`, `caseInsensitiveString`, " ++
          "`caseInsensitveString`, `range`, `prose`, `ruleref`, `concatenation`, `alternation`, " ++
          "`group`, `repetition`" := by
    decide +kernel
  have htype : (Cause.wrongType (.int 1) "a map").message =
      "invalid type: integer `1`, expected a map" := by
    decide +kernel
  exact ⟨hvariant ▸ (rejection_reported misleadingText).1 _ hgrammar,
    htype ▸ (rejection_reported "\n[1 at line 9").2 _ hdependencies⟩

end Abnf
