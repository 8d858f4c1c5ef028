import Abnf.Proofs.Json.Places

/-!
# Readers keep to their text

Wherever in a text a reader begins, it stays in the text.  If it goes on, the cursor stands in the
text.  If it rejects the text, it does so at a place of the text, for a reason whose message tells
no place.  This holds of a reader as soon as it holds of its parts (`Keeps`).  What a reader refuses
without a place gets one from the list or object around it (`keeps_within`), so that a whole text
that consists of a list or an object is always rejected at one of its places
(`place_of_readText`).
-/

namespace Abnf.Json

/-! ## Readers that stay in a text -/

/-- What comes of reading keeps to a text: reading goes on in it, or it is rejected at a place in
it, or it is refused there, if it may be. -/
def Outcome.Keeps {α : Type} (cs : List Char) (refusable : Prop) : Outcome α → Prop
  | .ok _ next => next.In cs
  | .failed cause place => cause.Placeless ∧ place.In cs
  | .refused cause stop => refusable ∧ cause.Placeless ∧ stop.In cs

/-- Wherever in a text the reader begins, it keeps to the text. -/
def Keeps {α : Type} (cs : List Char) (refusable : Prop) (r : Reader α) : Prop :=
  ∀ cursor, cursor.In cs → (r cursor).Keeps cs refusable

variable {cs : List Char} {refusable : Prop}

namespace Keeps

variable {α β σ κ : Type} {r : Reader α}

lemma pure (a : α) : Keeps cs refusable (Pure.pure a) :=
  fun _ h => h

lemma bind {f : α → Reader β} (hr : Keeps cs refusable r) (hf : ∀ a, Keeps cs refusable (f a)) :
    Keeps cs refusable (r >>= f) := by
  intro cursor h
  have hfirst := hr cursor h
  rw [Reader.bind_apply]
  split
  · next a next heq =>
    rw [heq] at hfirst
    exact hf a next hfirst
  · next cause place heq =>
    rw [heq] at hfirst
    exact hfirst
  · next cause stop heq =>
    rw [heq] at hfirst
    exact hfirst

lemma map (g : α → β) (hr : Keeps cs refusable r) : Keeps cs refusable (g <$> r) :=
  bind hr fun a => pure (g a)

lemma failHere {cause : Cause} (h : cause.Placeless) :
    Keeps cs refusable (Reader.failHere cause : Reader α) :=
  fun _ hcursor => ⟨h, hcursor.position⟩

lemma failAhead {cause : Cause} (h : cause.Placeless) :
    Keeps cs refusable (Reader.failAhead cause : Reader α) :=
  fun _ hcursor => ⟨h, hcursor.peekPosition⟩

lemma refuse {cause : Cause} (h : cause.Placeless) :
    Keeps cs True (Reader.refuse cause : Reader α) :=
  fun _ hcursor => ⟨trivial, h, hcursor⟩

lemma peek : Keeps cs refusable Reader.peek :=
  fun _ h => h

lemma skip (n : Nat) : Keeps cs refusable (Reader.skip n) :=
  fun _ h => h.drop n

lemma peekToken : Keeps cs refusable Reader.peekToken :=
  bind (fun _ h => h.skipBlanks) fun _ => peek

lemma ofExcept {x : Except Cause α} (h : Placeless x) : Keeps cs True (Reader.ofExcept x) := by
  cases x with
  | error cause => exact refuse (h cause rfl)
  | ok a => exact pure a

lemma ofExceptHere {x : Except Cause α} (h : Placeless x) :
    Keeps cs refusable (Reader.ofExceptHere x) := by
  cases x with
  | error cause => exact failHere (h cause rfl)
  | ok a => exact pure a

/-- One part after another. -/
lemma many {next : Bool → Reader (Option κ)} {step : σ → κ → Reader σ}
    (hnext : ∀ isFirst, Keeps cs refusable (next isFirst))
    (hstep : ∀ state key, Keeps cs refusable (step state key)) (rounds : Nat) (isFirst : Bool)
    (state : σ) : Keeps cs refusable (Reader.many next step rounds isFirst state) := by
  induction rounds generalizing isFirst state with
  | zero => exact failHere (Cause.placeless_of_isFixed rfl)
  | succ rounds ih =>
    refine bind (hnext isFirst) fun key => ?_
    cases key with
    | none => exact pure state
    | some key => exact bind (hstep state key) fun state => ih false state

end Keeps

open Cause (placeless_of_isFixed)

/-! ### String literals -/

namespace Escape

lemma placeless_hexCode (text : List Char) : Placeless (hexCode text) := by
  unfold hexCode
  split
  · exact .ok _
  · split
    · exact .error (placeless_of_isFixed rfl)
    · exact .error (placeless_of_isFixed rfl)

/-- An escape that is not finished, or not as it should be, is a fault of the syntax. -/
lemma placeless_of_pairTail {high : Nat} {text : List Char} {cause : Cause} {n : Nat}
    (h : pairTail high text = .error (cause, n)) : cause.Placeless := by
  unfold pairTail at h
  split at h
  · cases h
    exact placeless_of_isFixed rfl
  · cases h
    exact placeless_of_isFixed rfl
  · split at h
    · next heq =>
      cases h
      exact placeless_hexCode _ _ heq
    · split at h
      · cases h
      · cases h
        exact placeless_of_isFixed rfl
  · cases h
    exact placeless_of_isFixed rfl
  · cases h
    exact placeless_of_isFixed rfl

lemma placeless_of_decode {text : List Char} {cause : Cause} {n : Nat}
    (h : decode text = .error (cause, n)) : cause.Placeless := by
  unfold decode at h
  split at h
  case h_10 =>
    split at h
    · next heq =>
      cases h
      exact placeless_hexCode _ _ heq
    · split at h
      · cases h
        exact placeless_of_isFixed rfl
      · split at h
        · split at h
          · next heq =>
            cases h
            exact placeless_of_pairTail heq
          · cases h
        · cases h
  case h_1 | h_11 =>
    cases h
    exact placeless_of_isFixed rfl
  all_goals cases h

lemma placeless_of_width {text : List Char} {cause : Cause} {n : Nat}
    (h : width text = .error (cause, n)) : cause.Placeless := by
  unfold width at h
  split at h
  · cases h
    exact placeless_of_isFixed rfl
  · split at h
    · split at h
      · next heq =>
        cases h
        exact placeless_hexCode _ _ heq
      · cases h
    · split at h
      · cases h
      · cases h
        exact placeless_of_isFixed rfl

end Escape

namespace Reader

lemma keeps_literalTail {read : List Char} {place : Position} {decoded : Nat} {rest : List Char}
    (h : Cursor.In cs ⟨place, rest⟩) : (literalTail read place decoded rest).Keeps cs refusable := by
  induction rest generalizing read place decoded with
  | nil => exact ⟨placeless_of_isFixed rfl, h.position⟩
  | cons c rest ih =>
    cases decoded with
    | succ decoded => exact ih h.after
    | zero =>
      rw [literalTail]
      split
      · exact h.after
      · split
        · split
          · next heq => exact ⟨Escape.placeless_of_decode heq, h.after.ahead _⟩
          · exact ih h.after
        · split
          · exact ⟨placeless_of_isFixed rfl, h.after.position⟩
          · exact ih h.after

lemma keeps_literal : Keeps cs refusable literal :=
  .bind (.skip 1) fun _ => .map _ fun _ h => keeps_literalTail h

lemma keeps_passTail {place : Position} {seen : Nat} {rest : List Char}
    (h : Cursor.In cs ⟨place, rest⟩) : (passTail place seen rest).Keeps cs refusable := by
  induction rest generalizing place seen with
  | nil => exact ⟨placeless_of_isFixed rfl, h.position⟩
  | cons c rest ih =>
    cases seen with
    | succ seen => exact ih h.after
    | zero =>
      rw [passTail]
      split
      · exact h.after
      · split
        · split
          · next heq => exact ⟨Escape.placeless_of_width heq, h.after.ahead _⟩
          · exact ih h.after
        · split
          · exact ⟨placeless_of_isFixed rfl, h.position⟩
          · exact ih h.after

lemma keeps_passLiteral : Keeps cs refusable passLiteral :=
  .bind (.skip 1) fun _ _ h => keeps_passTail h

/-! ### Numbers and other scalars -/

lemma keeps_digits : Keeps cs refusable digits :=
  fun _ h => h.dropWhile _

lemma keeps_someDigits {ended : Cause} (hended : ended.Placeless) :
    Keeps cs refusable (someDigits ended) := by
  refine .bind .peek fun c => ?_
  split
  · exact .failAhead hended
  · split
    · exact keeps_digits
    · exact .failAhead (placeless_of_isFixed rfl)

lemma keeps_wholeDigits {ended : Cause} (hended : ended.Placeless) :
    Keeps cs refusable (wholeDigits ended) := by
  refine .bind .peek fun c => ?_
  split
  · refine .bind (.skip 1) fun _ => .bind .peek fun c => ?_
    split
    · split
      · exact .failAhead (placeless_of_isFixed rfl)
      · exact .pure _
    · exact .pure _
  · exact keeps_someDigits hended

lemma keeps_fractionDigits {ended : Cause} (hended : ended.Placeless) :
    Keeps cs refusable (fractionDigits ended) := by
  refine .bind .peek fun c => ?_
  split
  · exact .bind (.skip 1) fun _ => keeps_someDigits hended
  · exact .pure _

lemma keeps_exponentSign : Keeps cs refusable exponentSign := by
  refine .bind .peek fun c => ?_
  split
  · exact .bind (.skip 1) fun _ => .pure _
  · exact .bind (.skip 1) fun _ => .pure _
  · exact .pure _

lemma keeps_exponentPart {ended : Cause} (hended : ended.Placeless) :
    Keeps cs refusable (exponentPart ended) := by
  have hsigned : Keeps cs refusable (do
      skip 1
      let downward ← exponentSign
      let ds ← someDigits ended
      pure (some (downward, ds))) :=
    .bind (.skip 1) fun _ => .bind keeps_exponentSign fun _ =>
      .bind (keeps_someDigits hended) fun _ => .pure _
  refine .bind .peek fun c => ?_
  split
  · exact hsigned
  · exact hsigned
  · exact .pure _

lemma keeps_numeral {ended : Cause} (hended : ended.Placeless) :
    Keeps cs refusable (numeral ended) := by
  refine .bind .peek fun c => ?_
  have hparts : Keeps cs refusable (do
      let whole ← wholeDigits ended
      let fraction ← fractionDigits ended
      let exponent ← exponentPart ended
      pure (Numeral.mk (c == some '-') whole fraction exponent)) :=
    .bind (keeps_wholeDigits hended) fun _ => .bind (keeps_fractionDigits hended) fun _ =>
      .bind (keeps_exponentPart hended) fun _ => .pure _
  dsimp only
  split
  · exact .bind (.skip 1) fun _ => hparts
  · exact hparts

lemma keeps_number : Keeps cs refusable number := by
  refine .bind (keeps_numeral (placeless_of_isFixed rfl)) fun n => ?_
  split
  · exact .pure _
  · exact fun _ h => ⟨placeless_of_isFixed rfl, h.position.back _⟩

lemma keeps_word (expected : List Char) : Keeps cs refusable (word expected) := by
  induction expected with
  | nil => exact .pure ()
  | cons c rest ih =>
    refine .bind .peek fun found => ?_
    split
    · exact .failHere (placeless_of_isFixed rfl)
    · split
      · exact .bind (.skip 1) fun _ => ih
      · exact .failAhead (placeless_of_isFixed rfl)

lemma keeps_scalar : Keeps cs refusable scalar := by
  refine .bind .peek fun c => ?_
  split
  · exact .bind (keeps_word _) fun _ => .pure _
  · exact .bind (keeps_word _) fun _ => .pure _
  · exact .bind (keeps_word _) fun _ => .pure _
  · exact .bind keeps_literal fun _ => .pure _
  · split
    · exact keeps_number
    · exact .failAhead (placeless_of_isFixed rfl)
  · exact .failAhead (placeless_of_isFixed rfl)

/-- A value that does not make sense is reported where it ends, and never refused. -/
lemma keeps_scalarAs {α : Type} {decode : Value → Except Cause α}
    (h : ∀ v, Placeless (decode v)) : Keeps cs refusable (scalarAs decode) := by
  refine .bind .peekToken fun c => ?_
  split
  · exact .ofExceptHere (h _)
  · exact .ofExceptHere (h _)
  · exact .bind keeps_scalar fun v => .ofExceptHere (h v)

/-! ### Lists and objects -/

lemma keeps_nextElement (isFirst : Bool) : Keeps cs refusable (nextElement isFirst) := by
  refine .bind .peekToken fun c => ?_
  split
  · exact .failAhead (placeless_of_isFixed rfl)
  · exact .pure _
  · split
    · exact .pure _
    · split
      · refine .bind (.skip 1) fun _ => .bind .peekToken fun c => ?_
        split
        · exact .failAhead (placeless_of_isFixed rfl)
        · exact .failAhead (placeless_of_isFixed rfl)
        · exact .pure _
      · exact .failAhead (placeless_of_isFixed rfl)

lemma keeps_nextMember (isFirst : Bool) : Keeps cs refusable (nextMember isFirst) := by
  refine .bind .peekToken fun c => ?_
  split
  · exact .failAhead (placeless_of_isFixed rfl)
  · exact .pure _
  · split
    · split
      · exact .map _ keeps_literal
      · exact .failAhead (placeless_of_isFixed rfl)
    · split
      · refine .bind (.skip 1) fun _ => .bind .peekToken fun c => ?_
        split
        · exact .failAhead (placeless_of_isFixed rfl)
        · exact .map _ keeps_literal
        · exact .failAhead (placeless_of_isFixed rfl)
        · exact .failAhead (placeless_of_isFixed rfl)
      · exact .failAhead (placeless_of_isFixed rfl)

lemma keeps_colon : Keeps cs refusable colon := by
  refine .bind .peekToken fun c => ?_
  split
  · exact .skip 1
  · exact .failAhead (placeless_of_isFixed rfl)
  · exact .failAhead (placeless_of_isFixed rfl)

lemma keeps_elements {α : Type} {item : Reader α} (h : Keeps cs refusable item) (rounds : Nat) :
    Keeps cs refusable (elements rounds item) :=
  .map _ (.many keeps_nextElement (fun _ _ => .map _ h) rounds true [])

lemma keeps_members {σ : Type} {step : σ → String → Reader σ}
    (h : ∀ state name, Keeps cs refusable (step state name)) (rounds : Nat) (state : σ) :
    Keeps cs refusable (members rounds step state) :=
  .many keeps_nextMember h rounds true state

/-- What comes of leaving a list or an object keeps to a text. -/
structure Leaving.Keeps (cs : List Char) (leaving : Leaving) : Prop where
  /-- The cursor stands in the text. -/
  stop : leaving.stop.In cs
  /-- What is wrong is wrong at a place of the text. -/
  trouble : ∀ trouble ∈ leaving.trouble, trouble.1.Placeless ∧ trouble.2.In cs

lemma Leaving.Keeps.left {stop : Cursor} (h : stop.In cs) : Leaving.Keeps cs ⟨stop, none⟩ :=
  ⟨h, by simp⟩

lemma Leaving.Keeps.halted {stop : Cursor} {cause : Cause} (h : stop.In cs)
    (hcause : cause.Placeless) : Leaving.Keeps cs ⟨stop, some (cause, stop.peekPosition)⟩ := by
  refine ⟨h, ?_⟩
  rintro _ ⟨⟩
  exact ⟨hcause, h.peekPosition⟩

lemma keeps_leaveList {cursor : Cursor} (h : cursor.In cs) : (leaveList cursor).Keeps cs := by
  unfold leaveList
  dsimp only
  split
  · exact .left (h.skipBlanks.drop 1)
  · refine .halted (h.skipBlanks.drop 1).skipBlanks ?_
    split
    · exact placeless_of_isFixed rfl
    · exact placeless_of_isFixed rfl
  · exact .halted h.skipBlanks (placeless_of_isFixed rfl)
  · exact .halted h.skipBlanks (placeless_of_isFixed rfl)

lemma keeps_leaveObject {cursor : Cursor} (h : cursor.In cs) : (leaveObject cursor).Keeps cs := by
  unfold leaveObject
  dsimp only
  split
  · exact .left (h.skipBlanks.drop 1)
  · exact .halted h.skipBlanks (placeless_of_isFixed rfl)
  · exact .halted h.skipBlanks (placeless_of_isFixed rfl)
  · exact .halted h.skipBlanks (placeless_of_isFixed rfl)

/-- A list or an object gives a place to what its contents refuse. -/
lemma keeps_within {α : Type} {leave : Cursor → Leaving} {contents : Reader α}
    (hleave : ∀ cursor, cursor.In cs → (leave cursor).Keeps cs) (h : Keeps cs True contents) :
    Keeps cs refusable (within leave contents) := by
  intro cursor hcursor
  have hcontents := h _ (hcursor.drop 1)
  unfold within
  split
  · next a next heq =>
    rw [heq] at hcontents
    have hleaving := hleave next hcontents
    dsimp only
    split
    · exact hleaving.stop
    · next trouble => exact hleaving.trouble _ trouble
  · next heq =>
    rw [heq] at hcontents
    exact hcontents
  · next heq =>
    rw [heq] at hcontents
    exact ⟨hcontents.2.1, (hleave _ hcontents.2.2).stop.position⟩

lemma keeps_deeper {α : Type} {limits : Limits} {r : Limits → Reader α}
    (h : ∀ inner, Keeps cs refusable (r inner)) : Keeps cs refusable (deeper limits r) := by
  unfold deeper
  split
  · exact .failAhead (placeless_of_isFixed rfl)
  · exact h _

lemma keeps_list {α : Type} {limits : Limits} {contents : Limits → Reader α}
    (h : ∀ inner, Keeps cs True (contents inner)) : Keeps cs refusable (list limits contents) :=
  keeps_deeper fun inner => keeps_within (fun _ => keeps_leaveList) (h inner)

lemma keeps_object {α : Type} {limits : Limits} {contents : Limits → Reader α}
    (h : ∀ inner, Keeps cs True (contents inner)) : Keeps cs refusable (object limits contents) :=
  keeps_deeper fun inner => keeps_within (fun _ => keeps_leaveObject) (h inner)

/-! ### Any value -/

lemma keeps_valueWithin (rounds levels : Nat) :
    Keeps cs refusable (valueWithin rounds levels) := by
  induction levels generalizing refusable with
  | zero =>
    rw [valueWithin]
    refine .bind .peekToken fun c => ?_
    split
    · exact .failAhead (placeless_of_isFixed rfl)
    · exact .failAhead (placeless_of_isFixed rfl)
    · exact keeps_scalar
  | succ levels ih =>
    rw [valueWithin]
    refine .bind .peekToken fun c => ?_
    split
    · exact keeps_within (fun _ => keeps_leaveList) (.map _ (keeps_elements ih rounds))
    · refine keeps_within (fun _ => keeps_leaveObject) (.map _ (keeps_members ?_ rounds []))
      exact fun _ _ => .bind keeps_colon fun _ => .bind ih fun _ => .pure _
    · exact keeps_scalar

lemma keeps_value (limits : Limits) : Keeps cs refusable (value limits) :=
  keeps_valueWithin _ _

lemma keeps_passScalar : Keeps cs refusable passScalar := by
  refine .bind .peek fun c => ?_
  split
  · exact keeps_passLiteral
  · split
    · exact .bind (keeps_numeral (placeless_of_isFixed rfl)) fun _ => .pure _
    · exact .bind keeps_scalar fun _ => .pure _
  · exact .failAhead (placeless_of_isFixed rfl)

lemma keeps_passNextElement (isFirst : Bool) : Keeps cs refusable (passNextElement isFirst) := by
  refine .bind .peekToken fun c => ?_
  split
  · exact .failAhead (placeless_of_isFixed rfl)
  · exact .pure _
  · split
    · exact .pure _
    · split
      · exact .bind (.skip 1) fun _ => .pure _
      · exact .failAhead (placeless_of_isFixed rfl)

lemma keeps_passName : Keeps cs refusable passName := by
  refine .bind .peekToken fun c => ?_
  split
  · exact .bind keeps_passLiteral fun _ => .bind keeps_colon fun _ => .pure _
  · exact .failAhead (placeless_of_isFixed rfl)
  · exact .failAhead (placeless_of_isFixed rfl)

lemma keeps_passNextMember (isFirst : Bool) : Keeps cs refusable (passNextMember isFirst) := by
  refine .bind .peekToken fun c => ?_
  split
  · exact .failAhead (placeless_of_isFixed rfl)
  · exact .pure _
  · split
    · exact keeps_passName
    · split
      · exact .bind (.skip 1) fun _ => keeps_passName
      · exact .failAhead (placeless_of_isFixed rfl)

lemma keeps_passWithin (rounds levels : Nat) : Keeps cs refusable (passWithin rounds levels) := by
  induction levels with
  | zero =>
    rw [passWithin]
    refine .bind .peekToken fun c => ?_
    split
    · exact .failHere (placeless_of_isFixed rfl)
    · exact .failHere (placeless_of_isFixed rfl)
    · exact keeps_passScalar
  | succ levels ih =>
    rw [passWithin]
    refine .bind .peekToken fun c => ?_
    split
    · exact .bind (.skip 1) fun _ =>
        .bind (.many keeps_passNextElement (fun _ _ => ih) rounds true ()) fun _ => .skip 1
    · exact .bind (.skip 1) fun _ =>
        .bind (.many keeps_passNextMember (fun _ _ => ih) rounds true ()) fun _ => .skip 1
    · exact keeps_passScalar

lemma keeps_pass (limits : Limits) : Keeps cs refusable (pass limits) :=
  keeps_passWithin _ _

end Reader

/-! ### Values of simple types -/

namespace Value

lemma placeless_asText (v : Value) : Placeless v.asText := by
  cases v with
  | str s => exact .ok s
  | _ => exact .error (Cause.placeless_wrongType _ (by decide))

lemma placeless_asWord (v : Value) : Placeless v.asWord := by
  cases v with
  | int n =>
    rw [asWord]
    split
    · exact .ok _
    · exact .error (Cause.placeless_wrongInteger n (by decide))
  | _ => exact .error (Cause.placeless_wrongType _ (by decide))

lemma placeless_asOptional {α : Type} {decode : Value → Except Cause α}
    (h : ∀ v, Placeless (decode v)) (v : Value) : Placeless (v.asOptional decode) := by
  cases v with
  | null => exact .ok none
  | _ => exact .map _ (h _)

end Value

lemma Choice.placeless_ofIdentifier {α : Type} {choice : Choice α}
    (h : endsPlainly (Cause.choices (choice.named.map Prod.fst)) = true) (v : Value) :
    Placeless (choice.ofIdentifier v) := by
  cases v with
  | str name =>
    show Placeless (choice.ofName name)
    unfold ofName
    split
    · exact .ok _
    · exact .error (Cause.placeless_unknownVariant name h)
  | _ => exact .error (Cause.placeless_wrongType _ (by decide))

namespace Reader

lemma keeps_text : Keeps cs refusable text :=
  keeps_scalarAs Value.placeless_asText

/-! ### Records -/

section Records

variable {σ α : Type}

lemma keeps_recordElements (title : String) {limits : Limits} {fields : List (Field σ)}
    (hfield : ∀ field ∈ fields, ∀ state, Keeps cs True (field.read limits state)) (done : Nat)
    (state : σ) : Keeps cs True (recordElements title limits done fields state) := by
  induction fields generalizing done state with
  | nil => exact .pure state
  | cons field fields ih =>
    have hrest := ih fun other hother => hfield other (List.mem_cons_of_mem _ hother)
    refine .bind (keeps_nextElement _) fun next => ?_
    cases next with
    | some _ => exact .bind (hfield field List.mem_cons_self state) fun state => hrest _ state
    | none =>
      show Keeps cs True (if field.optional = true then _ else _)
      split
      · exact hrest _ state
      · exact .refuse (Cause.placeless_elementCount done _ _)

lemma keeps_recordMember {limits : Limits} {fields : List (Field σ)}
    (hfield : ∀ field ∈ fields, ∀ state, Keeps cs True (field.read limits state)) (state : σ)
    (name : String) : Keeps cs True (recordMember fields limits state name) := by
  unfold recordMember
  split
  · exact .bind keeps_colon fun _ => .bind (keeps_pass limits) fun _ => .pure state
  · next field hfind =>
    split
    · exact .refuse (Cause.placeless_duplicateField name)
    · exact .bind keeps_colon fun _ => hfield field (List.mem_of_find?_eq_some hfind) state

/-- A record keeps to a text if its fields do. -/
lemma keeps_record {layout : Record σ α} (htitle : endsPlainly layout.title = true)
    (hfield : ∀ field ∈ layout.fields, ∀ limits state, Keeps cs True (field.read limits state))
    (hfinish : ∀ state, Placeless (layout.finish state)) (limits : Limits) :
    Keeps cs refusable (record layout limits) := by
  refine .bind .peekToken fun c => ?_
  split
  · exact keeps_object fun inner =>
      .bind (keeps_members (keeps_recordMember fun field hmem => hfield field hmem inner) _ _)
        fun state => .ofExcept (hfinish state)
  · exact keeps_list fun inner =>
      .bind (keeps_recordElements _ (fun field hmem => hfield field hmem inner) _ _)
        fun state => .ofExcept (hfinish state)
  · exact keeps_scalarAs fun v => .error (Cause.placeless_wrongType _ htitle)

lemma keeps_listOf {item : Limits → Reader α} (h : ∀ limits, Keeps cs True (item limits))
    (limits : Limits) : Keeps cs refusable (listOf item limits) := by
  refine .bind .peekToken fun c => ?_
  split
  · exact keeps_list fun inner => keeps_elements (h inner) _
  · exact keeps_scalarAs fun v => .error (Cause.placeless_wrongType _ (by decide))

end Records

/-- A text that a reader rejects without refusing it is rejected at one of its places. -/
theorem place_of_readText {α : Type} {r : Limits → Reader α} {text : String} {fault : Fault}
    (hr : ∀ limits, Keeps text.toList False (r limits)) (h : readText r text = .error fault) :
    fault.cause.Placeless ∧ ∃ place, fault.position = some place ∧ place.In text.toList := by
  have hkeeps := hr (Limits.of text) _ (Cursor.in_start text)
  unfold readText run at h
  split at h
  · next a next heq =>
    rw [heq] at hkeeps
    dsimp only at h
    split at h
    · cases h
    · cases h
      exact ⟨placeless_of_isFixed rfl, _, rfl, (Cursor.In.skipBlanks hkeeps).peekPosition⟩
  · next heq =>
    rw [heq] at hkeeps
    cases h
    exact ⟨hkeeps.1, _, rfl, hkeeps.2⟩
  · next heq =>
    rw [heq] at hkeeps
    exact hkeeps.1.elim

end Reader

end Abnf.Json
