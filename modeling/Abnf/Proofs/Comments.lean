import Abnf.Listing.Write
import Abnf.Load
import Abnf.Proofs.Delimited

/-!
# Comments on where a rule comes from

A plain listing of a rule of another grammar is a comment on its source, a line feed, and what is
listed for a native rule.  Only the comment depends on the dependencies, and the rest can be had
back by leaving out the first line, unless the source itself has a line feed (`plain_commented`): a
source is written as it is, and so its own lines stand in the listing like rules
(`not_native_injected`).
-/

namespace Abnf

namespace Text

/-- What follows the first line feed of a text. -/
def afterLine (text : String) : String :=
  String.ofList ((text.toList.dropWhile (· != '\n')).drop 1)

variable {line text : String}

lemma afterLine_ofList {cs : List Char} (h : '\n' ∉ cs) (rest : List Char) :
    afterLine (String.ofList (cs ++ '\n' :: rest)) = String.ofList rest := by
  have hrun : ∀ c ∈ cs, (c != '\n') = true := by
    intro c hc
    rw [bne_iff_ne]
    rintro rfl
    exact h hc
  have hstop : Stops (· != '\n') ('\n' :: rest) := stops_cons.2 (by decide)
  rw [afterLine, String.toList_ofList, dropWhile_run hrun hstop, List.drop_one, List.tail_cons]

/-- Of a line and a text below it, the text is what follows the first line feed if and only if the
line is a single one. -/
lemma afterLine_eq_iff : afterLine (line ++ "\n" ++ text) = text ↔ '\n' ∉ line.toList := by
  have hchars : line ++ "\n" ++ text = String.ofList (line.toList ++ '\n' :: text.toList) := by
    rw [← String.toList_inj]
    simp
  rw [hchars]
  constructor
  · intro h hmem
    -- The rest of the line after its first line feed comes before the text and makes it longer.
    obtain ⟨front, back, hline, hfront⟩ := List.eq_append_cons_of_mem hmem
    rw [hline, List.append_assoc, List.cons_append, afterLine_ofList hfront] at h
    have hlength := congrArg (fun s : String => s.toList.length) h
    simp only [String.toList_ofList, List.length_append, List.length_cons] at hlength
    omega
  · intro h
    rw [afterLine_ofList h, String.ofList_toList]

end Text

namespace Listing

variable {d : Dependencies} {grammar : Option Grammar} {limit : Nat} {name : String}
  {definition : Node}

/-- The comment in front of a rule that comes from a certain source. -/
def comment (provenance : Provenance) (source : String) : String :=
  "; " ++ provenance.verb ++ " " ++ source

lemma notMem_comment_iff {provenance : Provenance} {source : String} :
    '\n' ∉ (comment provenance source).toList ↔ '\n' ∉ source.toList := by
  cases provenance <;> simp [comment, Provenance.verb]

/-- What a rule is preceded by in a plain listing. -/
def preamble (provenance : Provenance) : String :=
  match provenance.source? with
  | none => ""
  | some source => comment provenance source ++ "\n"

/-- A plain listing is that of a native rule, after what precedes it. -/
lemma rule_plain (d : Dependencies) (grammar : Option Grammar) (limit : Nat) (name : String)
    (definition : Node) :
    (Listing.mk d .plain grammar limit).rule (.rule name definition) =
      (preamble (d.provenance name) ++ ·) <$>
        (Listing.mk .none .plain grammar limit).rule (.rule name definition) := by
  have hnative : Dependencies.none.provenance name = .native := rfl
  have hdeclare : Markup.plain.declare name (d.provenance name) =
      preamble (d.provenance name) ++ name := by
    unfold preamble
    cases hsource : (d.provenance name).source? with
    | none => simp [Markup.plain, hsource]
    | some source => simp [Markup.plain, hsource, comment, String.append_assoc]
  rw [rule_eq, rule_eq, hdeclare, hnative]
  cases definition.list Markup.plain (anchorIn grammar) { rule := name, limit := limit } with
  | error e => rfl
  | ok body =>
    simp only [String.append_assoc]
    rfl

/-- **A comment is all that dependencies add to a plain listing.**  Whatever the dependencies, a
rule is listed if and only if it is listed as a native rule, and then in the same way if it is
native.  The listing of any other rule begins with a comment that names its source; a line feed
follows, and then what is listed for a native rule.  This is what follows the first line feed of the
listing if and only if the source has no line feed; the comment is then a single line. -/
theorem plain_commented (d : Dependencies) (grammar : Option Grammar) (limit : Nat) (name : String)
    (definition : Node) :
    (∀ e, (Listing.mk .none .plain grammar limit).rule (.rule name definition) = .error e →
      (Listing.mk d .plain grammar limit).rule (.rule name definition) = .error e) ∧
    ∀ text, (Listing.mk .none .plain grammar limit).rule (.rule name definition) = .ok text →
      (d.provenance name = .native →
        (Listing.mk d .plain grammar limit).rule (.rule name definition) = .ok text) ∧
      ∀ source, (d.provenance name).source? = some source →
        (Listing.mk d .plain grammar limit).rule (.rule name definition) =
          .ok (comment (d.provenance name) source ++ "\n" ++ text) ∧
        (Text.afterLine (comment (d.provenance name) source ++ "\n" ++ text) = text ↔
          '\n' ∉ source.toList) ∧
        ('\n' ∉ (comment (d.provenance name) source).toList ↔ '\n' ∉ source.toList) := by
  rw [rule_plain d]
  refine ⟨fun e he => by rw [he]; rfl, fun text htext => ⟨fun hnative => ?_, ?_⟩⟩
  · rw [htext, hnative]
    exact congrArg Except.ok (String.empty_append)
  · intro source hsource
    refine ⟨?_, Text.afterLine_eq_iff.trans notMem_comment_iff, notMem_comment_iff⟩
    rw [htext, preamble, hsource]
    rfl

/-- The dependencies of a grammar that imports one rule and extends another one. -/
def borrowed : Dependencies :=
  (Dependencies.none.addImport "A" "RFC 1").addExtension "b" "RFC 2"

/-- Rules that are imported, extended and native, and one that cannot be listed. -/
theorem plain_commented_borrowed :
    (Listing.mk borrowed .plain none 1).rule (.rule "a" (.reference "b")) =
      .ok "; Imported from RFC 1\na = b" ∧
    Text.afterLine "; Imported from RFC 1\na = b" = "a = b" ∧
    (Listing.mk borrowed .plain none 1).rule (.rule "B" (.reference "a")) =
      .ok "; Extends RFC 2\nB = a" ∧
    (Listing.mk borrowed .plain none 1).rule (.rule "c" (.reference "a")) = .ok "c = a" ∧
    (Listing.mk borrowed .plain none 0).rule (.rule "a" (.reference "b")) =
      .error (.tooDeep "a" 0) := by
  have himported := (plain_commented borrowed none 1 "a" (.reference "b")).2 "a = b" rfl
  have hextended := (plain_commented borrowed none 1 "B" (.reference "a")).2 "B = a" rfl
  have hnative := (plain_commented borrowed none 1 "c" (.reference "a")).2 "c = a" rfl
  have hdeep := (plain_commented borrowed none 0 "a" (.reference "b")).1 _ rfl
  obtain ⟨hlisted, hcut, -⟩ := himported.2 "RFC 1" (by decide)
  exact ⟨hlisted, hcut.2 (by decide), (hextended.2 "RFC 2" (by decide)).1,
    hnative.1 (by decide), hdeep⟩

/-- Dependencies with a line feed in the name of a source. -/
def injectedText : String :=
  "\x7b\"imports\":\x7b\"a\":\"x\\nb = <y>\"\x7d\x7d"

/-- The dependencies that this text describes. -/
def injected : Dependencies := Dependencies.none.addImport "a" "x\nb = <y>"

lemma ofText_injected : Dependencies.ofText injectedText = .ok injected := by
  decide +kernel

/-- The second line of the source is listed like a rule, and so more than the rule itself is left
when the first line is left out. -/
theorem not_native_injected :
    Dependencies.ofText injectedText = .ok injected ∧
    (Listing.mk .none .plain none 256).rule (.rule "a" (.prose "z")) = .ok "a = <z>" ∧
    (Listing.mk injected .plain none 256).rule (.rule "a" (.prose "z")) =
      .ok "; Imported from x\nb = <y>\na = <z>" ∧
    Text.afterLine "; Imported from x\nb = <y>\na = <z>" = "b = <y>\na = <z>" ∧
    Text.afterLine "; Imported from x\nb = <y>\na = <z>" ≠ "a = <z>" := by
  refine ⟨ofText_injected, rfl, rfl, by decide, by decide⟩

end Listing

end Abnf
