import Abnf.Cli.Run
import Abnf.Proofs.Outcome
import Abnf.Proofs.RoundTrip
import Abnf.Text.Table

/-!
# What the exit code and the output of a run depend on

A run of the program that renders a grammar ends with an exit code that the file of the grammar, the
rule that is asked for and the greatest depth decide between them; the rest of the command line, the
environment and the file of the dependencies have no say in it.  A run that fails writes nothing to
the standard output.  What a successful run writes there is a function of the grammar, of the
dependencies, which are none when their file does not give any, and of the arguments, and plain text
is not even touched by the options for diagrams, links and layout (`run_render`).
-/

namespace Abnf

/-- The grammar that a file holds, if it holds one. -/
def Reading.grammar? : Reading → Option Grammar
  | .text content => (Grammar.ofText content).toOption
  | .missing | .unreadable _ => none

/-- A file gives dependencies if it has a text that describes some. -/
def Reading.GivesDependencies (reading : Reading) : Prop :=
  ∃ content d, reading = .text content ∧ Dependencies.ofText content = .ok d

/-- A file that gives no dependencies counts as one without any. -/
lemma Dependencies.load_eq_none {reading : Reading} (h : ¬ reading.GivesDependencies) :
    Dependencies.load reading = Dependencies.none := by
  cases reading with
  | text content =>
    rw [load]
    cases hparse : Dependencies.ofText content with
    | error e => rfl
    | ok d => exact absurd ⟨content, d, rfl, hparse⟩ h
  | missing => rfl
  | unreadable reason => rfl

/-! ## Plain text -/

namespace Renderer

/-- The plain listings of two renderers that differ in their options are the same, if these agree
on the greatest depth. -/
lemma node_text {g : Grammar} {d : Dependencies} {o o' : Options} (h : o'.maxDepth = o.maxDepth)
    (node : Node) :
    RenderedRule.text <$> (Renderer.mk g d o').node .plain node =
      RenderedRule.text <$> (Renderer.mk g d o).node .plain node := by
  cases node with
  | rule name definition =>
    have hlisting : (Renderer.mk g d o').listing .plain = (Renderer.mk g d o).listing .plain := by
      simp only [listing, h]
    rcases node_cases (Renderer.mk g d o) .plain name definition with
      ⟨e, htext, hnode⟩ | ⟨text, body, htext, hbody, hnode⟩
    · rw [← hlisting] at htext
      rw [hnode, node_of_listing_error htext]
    · rw [← hlisting] at htext
      have hbody' : definition.draw (anchorIn (some g))
          { rule := name, limit := o'.maxDepth } = .ok body := h ▸ hbody
      rw [hnode, node_of_listing (r := Renderer.mk g d o') htext hbody']
      rfl
  | _ => simp only [Renderer.node, nodeWith, Descent.expectedRule, h]

/-- Of the options, only the greatest depth is seen in plain text. -/
lemma selected_text {g : Grammar} {d : Dependencies} {o o' : Options}
    (h : o'.maxDepth = o.maxDepth) (name : Option String) :
    Rendering.text <$> (Renderer.mk g d o').selected name .plain =
      Rendering.text <$> (Renderer.mk g d o).selected name .plain := by
  have htexts := congrArg
    (Functor.map (f := Except RenderError) fun texts => String.join (texts.map (· ++ "\n\n")))
    (selected_congr (node_text (g := g) (d := d) h) rfl name)
  have htext : ∀ R : Rendering,
      String.join ((R.rules.map RenderedRule.text).map (· ++ "\n\n")) = R.text := fun R => by
    rw [List.map_map]
    rfl
  simpa only [Functor.map_map, htext] using htexts

end Renderer

namespace Cli

/-! ## The exit code -/

namespace ExitCode

/-- The exit code that the grammar deserves: 66 if there is no file, 65 if the file holds no grammar
or a rule that is asked for cannot be rendered, and else 0. -/
def ofRendering (file : Reading) (rule : Option String) (limit : Nat) : Nat :=
  match file with
  | .missing => 66
  | .unreadable _ => 65
  | .text content =>
    match Grammar.ofText content with
    | .error _ => 65
    | .ok g =>
      match (Renderer.mk g .none { maxDepth := limit }).selected rule .plain with
      | .error _ => 65
      | .ok _ => 0

lemma noInput_ne_zero : noInput ≠ 0 := by decide

lemma dataError_ne_zero : dataError ≠ 0 := by decide

end ExitCode

namespace Session

variable (session : Session) (a : RenderArguments)

/-- What comes of rendering, if the grammar can be opened and rendered. -/
def rendering? : Option Rendering := do
  let g ← (session.read a.grammar).grammar?
  let r : Renderer := ⟨g, session.openDependencies a.dependencies, a.options⟩
  (r.selected a.rule (markupFor a.format a.options.links)).toOption

/-- Without a grammar there is nothing to render, and the exit code says which kind of nothing. -/
lemma openGrammar_cases (path : String) :
    (∃ result, session.openGrammar path = .error result ∧ result.stdout = "" ∧
      result.code ≠ 0 ∧ (session.read path).grammar? = none ∧
      ∀ rule limit, ExitCode.ofRendering (session.read path) rule limit = result.code) ∨
    ∃ g, session.openGrammar path = .ok g ∧ (session.read path).grammar? = some g ∧
      ∀ rule limit, ExitCode.ofRendering (session.read path) rule limit =
        match (Renderer.mk g .none { maxDepth := limit }).selected rule .plain with
        | .error _ => 65
        | .ok _ => 0 := by
  rw [openGrammar]
  cases session.read path with
  | missing => exact Or.inl ⟨_, rfl, rfl, ExitCode.noInput_ne_zero, rfl, fun _ _ => rfl⟩
  | unreadable reason =>
    exact Or.inl ⟨_, rfl, rfl, ExitCode.dataError_ne_zero, rfl, fun _ _ => rfl⟩
  | text content =>
    simp only [Reading.grammar?, ExitCode.ofRendering]
    cases Grammar.ofText content with
    | error e => exact Or.inl ⟨_, rfl, rfl, ExitCode.dataError_ne_zero, rfl, fun _ _ => rfl⟩
    | ok g => exact Or.inr ⟨g, rfl, rfl, fun _ _ => rfl⟩

/-- A run that renders ends with the exit code that the grammar deserves.  It writes the rendering,
if there is one, and then all is well, and nothing else. -/
lemma render_cases :
    (session.render a).code =
        ExitCode.ofRendering (session.read a.grammar) a.rule a.options.maxDepth ∧
      ((session.rendering? a = none ∧ (session.render a).code ≠ 0 ∧
          (session.render a).stdout = "") ∨
        ∃ R, session.rendering? a = some R ∧ (session.render a).code = 0 ∧
          (session.render a).stdout = output a.format R) := by
  rw [render, rendering?]
  rcases session.openGrammar_cases a.grammar with
    ⟨result, hopen, hstdout, hne, hnone, hcode⟩ | ⟨g, hopen, hsome, hcode⟩
  · rw [hopen, hcode, hnone]
    exact ⟨rfl, Or.inl ⟨rfl, hne, hstdout⟩⟩
  · rw [hopen, hcode, hsome]
    dsimp only [Option.bind_eq_bind, Option.bind_some]
    -- The plain rendering without dependencies fails when this one does.
    have hfail : Abnf.failure ((Renderer.mk g (session.openDependencies a.dependencies)
          a.options).selected a.rule (markupFor a.format a.options.links)) =
        Abnf.failure ((Renderer.mk g .none { maxDepth := a.options.maxDepth }).selected a.rule
          .plain) := by
      rw [Renderer.selected_failure, Renderer.selected_failure]
    cases hrun : (Renderer.mk g (session.openDependencies a.dependencies)
        a.options).selected a.rule (markupFor a.format a.options.links) with
    | error e =>
      rw [hrun] at hfail
      rw [failure_eq_some_iff.1 hfail.symm]
      exact ⟨rfl, Or.inl ⟨rfl, ExitCode.dataError_ne_zero, rfl⟩⟩
    | ok R =>
      rw [hrun] at hfail
      obtain ⟨plain, hplain⟩ := failure_eq_none_iff.1 hfail.symm
      rw [hplain]
      exact ⟨rfl, Or.inr ⟨R, rfl, rfl, rfl⟩⟩

/-- What is written is decided by what is rendered and by the form of the output. -/
lemma stdout_render : (session.render a).stdout =
    ((session.rendering? a).map (output a.format)).getD "" := by
  rcases (session.render_cases a).2 with ⟨hnone, -, hstdout⟩ | ⟨R, hsome, -, hstdout⟩
  · rw [hstdout, hnone]
    rfl
  · rw [hstdout, hsome]
    rfl

/-- A file that gives no dependencies is as good as none. -/
lemma stdout_without_dependencies {session' : Session} (hread : session'.read = session.read)
    (h : ∀ path ∈ a.dependencies, ¬ (session.read path).GivesDependencies) :
    (session'.render { a with dependencies := none }).stdout = (session.render a).stdout := by
  have hnone : session.openDependencies a.dependencies = Dependencies.none := by
    rw [openDependencies]
    cases hpath : a.dependencies with
    | none => rfl
    | some path => exact Dependencies.load_eq_none (h path hpath)
  have hrendering :
      session'.rendering? { a with dependencies := none } = session.rendering? a := by
    rw [rendering?, rendering?, hread, hnone]
    rfl
  rw [stdout_render, stdout_render, hrendering]

/-- Plain text shows nothing of the options but the greatest depth. -/
lemma stdout_text {session' : Session} {options : Options} (hread : session'.read = session.read)
    (hformat : a.format = .text) (hdepth : options.maxDepth = a.options.maxDepth) :
    (session'.render { a with options := options }).stdout = (session.render a).stdout := by
  have hmap : ∀ e : Except RenderError Rendering,
      e.toOption.map (output .text) = (Rendering.text <$> e).toOption := fun e => by
    cases e <;> rfl
  rw [stdout_render, stdout_render, rendering?, rendering?, hread, hformat, openDependencies,
    openDependencies, hread]
  cases (session.read a.grammar).grammar? with
  | none => rfl
  | some g =>
    dsimp only [Option.bind_eq_bind, Option.bind_some, markupFor]
    rw [hmap, hmap, Renderer.selected_text hdepth]

end Session

/-- A run that is asked to render. -/
lemma run_of_parse {presentation : Presentation} {read : String → Reading} {env : Environment}
    {args : List String} {common : Common} {a : RenderArguments}
    (h : Invocation.parse env args = .ok ⟨common, .render a⟩) :
    run presentation read env args = (Session.of presentation read env common).render a := by
  rw [run, h]
  rfl

/-- **What a run that renders depends on.**  The exit code is decided by the file of the grammar,
the rule that is asked for and the greatest depth: it says that there is no such file, that it
cannot be read or holds no grammar, that a rule that is asked for cannot be rendered, or that all is
well, and it is the same for any other run with these three.  A run that fails writes nothing to the
standard output.  A file of dependencies that is missing, unreadable or rejected leaves the output
as it is without it, and the output as plain text is the same for all options with one greatest
depth. -/
theorem run_render {presentation : Presentation} {read : String → Reading} {env : Environment}
    {args : List String} {common : Common} {a : RenderArguments}
    (h : Invocation.parse env args = .ok ⟨common, .render a⟩) :
    (run presentation read env args).code =
        ExitCode.ofRendering (read a.grammar) a.rule a.options.maxDepth ∧
    (∀ (read' : String → Reading) (env' : Environment) (args' : List String) (common' : Common)
        (a' : RenderArguments),
      Invocation.parse env' args' = .ok ⟨common', .render a'⟩ →
        read' a'.grammar = read a.grammar → a'.rule = a.rule →
        a'.options.maxDepth = a.options.maxDepth →
          (run presentation read' env' args').code = (run presentation read env args).code) ∧
    ((run presentation read env args).code ≠ 0 → (run presentation read env args).stdout = "") ∧
    (∀ (env' : Environment) (args' : List String) (common' : Common),
      Invocation.parse env' args' = .ok ⟨common', .render { a with dependencies := none }⟩ →
        (∀ path ∈ a.dependencies, ¬ (read path).GivesDependencies) →
          (run presentation read env' args').stdout = (run presentation read env args).stdout) ∧
    (∀ (env' : Environment) (args' : List String) (common' : Common) (options : Options),
      Invocation.parse env' args' = .ok ⟨common', .render { a with options := options }⟩ →
        a.format = .text → options.maxDepth = a.options.maxDepth →
          (run presentation read env' args').stdout =
            (run presentation read env args).stdout) := by
  obtain ⟨hcode, hcases⟩ := (Session.of presentation read env common).render_cases a
  rw [run_of_parse h]
  refine ⟨hcode, ?_, ?_, ?_, ?_⟩
  · intro read' env' args' common' a' h' hread hrule hdepth
    rw [run_of_parse h', ((Session.of presentation read' env' common').render_cases a').1, hcode,
      hrule, hdepth]
    exact congrArg (ExitCode.ofRendering · a.rule a.options.maxDepth) hread
  · intro hne
    rcases hcases with ⟨-, -, hstdout⟩ | ⟨R, -, hok, -⟩
    · exact hstdout
    · exact absurd hok hne
  · intro env' args' common' h' hnone
    rw [run_of_parse h']
    exact (Session.of presentation read env common).stdout_without_dependencies a rfl hnone
  · intro env' args' common' options h' hformat hdepth
    rw [run_of_parse h']
    exact (Session.of presentation read env common).stdout_text a rfl hformat hdepth

/-- The files of a directory in which there is nothing but the pairs of digits. -/
def pairsAlone (path : String) : Reading :=
  if path = "pairs.json" then .text Renderer.pairs.toValue.compact else .missing

/-- How the pairs are asked for as text. -/
def pairsAsText (options : List String) : List String :=
  ["render", "pairs.json", "--format", "text"] ++ options

/-- Tables, and no texts about the arguments. -/
def tablesAlone : Presentation where
  table := Text.table
  complaint _ := ""
  help _ := ""

/-- A run that is asked for the pairs as text. -/
def runPairs (options : List String) : Result :=
  run tablesAlone pairsAlone [] (pairsAsText options)

/-- The pairs are written as text whether or not their dependencies are there, with the same text
for all options that a text does not show; at a smaller depth there is no text at all. -/
theorem run_render_pairs :
    (runPairs ["--deps", "gone.json"]).code = 0 ∧
    (runPairs ["--deps", "gone.json", "--diagrams=always", "--layout=grouped", "--no-labels",
        "--link-style=verbatim"]).stdout = (runPairs ["--deps", "gone.json"]).stdout ∧
    (runPairs []).stdout = (runPairs ["--deps", "gone.json"]).stdout ∧
    (runPairs ["--max-depth", "1"]).code = 65 ∧
    (runPairs ["--max-depth", "1"]).stdout = "" := by
  have hparse : Invocation.parse [] (pairsAsText ["--deps", "gone.json"]) = .ok ⟨{}, .render
      { grammar := "pairs.json", dependencies := "gone.json", format := .text }⟩ := rfl
  have hshallow : Invocation.parse [] (pairsAsText ["--max-depth", "1"]) = .ok ⟨{}, .render
      { grammar := "pairs.json", format := .text, options := { maxDepth := 1 } }⟩ := rfl
  have hread : pairsAlone "pairs.json" = .text Renderer.pairs.toValue.compact := if_pos rfl
  have htext : Grammar.ofText Renderer.pairs.toValue.compact = .ok Renderer.pairs :=
    Grammar.ofText_compact (by decide)
  obtain ⟨R, hR⟩ := failure_eq_none_iff.1
    (((Renderer.mk Renderer.pairs .none {}).selected_failure none .plain).trans (by decide))
  have herror := failure_eq_some_iff.1 (((Renderer.mk Renderer.pairs .none
    { maxDepth := 1 }).selected_failure none .plain).trans
      (show _ = some (.tooDeep "pair" 1) by decide))
  obtain ⟨hcode, -, -, hnone, hoptions⟩ := @run_render tablesAlone pairsAlone _ _ _ _ hparse
  obtain ⟨hfailure, -, hsilent, -, -⟩ := @run_render tablesAlone pairsAlone _ _ _ _ hshallow
  have hcode' : (runPairs ["--max-depth", "1"]).code = 65 := by
    rw [runPairs, hfailure, hread, ExitCode.ofRendering, htext]
    dsimp only
    rw [herror]
  refine ⟨?_, ?_, ?_, hcode', ?_⟩
  · rw [runPairs, hcode, hread, ExitCode.ofRendering, htext]
    dsimp only
    rw [hR]
  · exact hoptions [] _ {} ⟨.always, false, Descent.defaultLimit, .verbatim, .grouped⟩
      rfl rfl rfl
  · refine hnone [] (pairsAsText []) {} rfl ?_
    rintro path hpath ⟨content, d, hgone, -⟩
    obtain rfl := Option.mem_some_iff.1 hpath
    have hmissing : pairsAlone "gone.json" = .missing := if_neg (by decide)
    rw [hmissing] at hgone
    exact Reading.noConfusion hgone
  · exact hsilent (hcode' ▸ by decide)

end Cli

end Abnf
