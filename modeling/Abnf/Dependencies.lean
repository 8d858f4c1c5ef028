import Abnf.Grammar.Decode
import Abnf.Provenance
import Abnf.Text.Uppercase

/-!
# Dependencies on other grammars

Which rules of a grammar are imported from another grammar and which extend a rule of another
grammar.  The rules are known by the uppercase of their names, and the first source that is recorded
for a rule stays.  A rule that is both extended and imported counts as extended.

On disk, imports are written as rule and source or as source and list of rules.
-/

namespace Abnf

open Json (Value Cause Reader Limits Field Record)

/-- The dependencies of a grammar. -/
structure Dependencies where
  /-- The sources of imported rules, by the uppercase of the rules' names. -/
  imports : Dict String
  /-- The sources of extended rules, by the uppercase of the rules' names. -/
  extensions : Dict String
deriving DecidableEq, Inhabited

namespace Dependencies

/-- No dependencies: every rule is native. -/
def none : Dependencies := ⟨Dict.empty, Dict.empty⟩

/-- Records that a rule is imported. -/
def addImport (d : Dependencies) (rule source : String) : Dependencies :=
  { d with imports := d.imports.insertNew (Text.uppercase rule) source }

/-- Records that several rules are imported from one source. -/
def addImports (d : Dependencies) (source : String) (rules : List String) : Dependencies :=
  rules.foldl (fun d rule => d.addImport rule source) d

/-- Records that a rule extends one of another grammar. -/
def addExtension (d : Dependencies) (rule source : String) : Dependencies :=
  { d with extensions := d.extensions.insertNew (Text.uppercase rule) source }

/-- The grammar that a rule is imported from. -/
def importSource? (d : Dependencies) (rule : String) : Option String :=
  d.imports.get? (Text.uppercase rule)

/-- The grammar whose rule a rule extends. -/
def extensionSource? (d : Dependencies) (rule : String) : Option String :=
  d.extensions.get? (Text.uppercase rule)

/-- Whether nothing is recorded. -/
def isEmpty (d : Dependencies) : Bool := d.imports.isEmpty && d.extensions.isEmpty

/-- Whether two records say the same about every rule. -/
def agree (d e : Dependencies) : Bool :=
  d.imports.sameValues e.imports && d.extensions.sameValues e.extensions

/-- Where the definition of a rule comes from. -/
def provenance (d : Dependencies) (rule : String) : Provenance :=
  match d.extensionSource? rule, d.importSource? rule with
  | some source, _ => .extended source
  | _, some source => .imported source
  | _, _ => .native

/-! ## Reading -/

/-- An import as it is written. -/
inductive Import where
  /-- The rule of the key, from a source. -/
  | source (origin : String)
  /-- Rules from the source of the key. -/
  | rules (names : List String)

namespace Import

/-- The import that a value is. -/
def ofValue : Value → Except Cause Import
  | .str origin => .ok (.source origin)
  | .arr items =>
    match items.mapM Value.asText with
    | .ok names => .ok (.rules names)
    | .error _ => .error .badImport
  | _ => .error .badImport

/-- Reads an import. -/
def read (limits : Limits) : Reader Import := do
  let v ← Reader.value limits
  Reader.ofExcept (ofValue v)

/-- Records an import under its key. -/
def record (d : Dependencies) : String × Import → Dependencies
  | (rule, .source origin) => d.addImport rule origin
  | (origin, .rules names) => d.addImports origin names

end Import

/-- The dependencies as they are written. -/
structure Written where
  /-- The imports. -/
  imports : Option (Dict Import) := Option.none
  /-- The extended rules with their sources. -/
  extensions : Option (Dict String) := Option.none

/-- Records what is written: the imports in their order, then the extensions in theirs. -/
def ofWritten (w : Written) : Dependencies :=
  let imported := (w.imports.getD Dict.empty).entries.foldl Import.record none
  (w.extensions.getD Dict.empty).entries.foldl (fun d e => d.addExtension e.1 e.2) imported

/-- How dependencies are written. -/
def record : Record Written Dependencies where
  title := "struct RawMetadata"
  fields :=
    [{ name := "imports"
       optional := true
       isSet := fun w => w.imports.isSome
       read := fun limits w =>
         (fun d => { w with imports := some d }) <$> Dict.read Import.read limits },
     { name := "extends"
       optional := true
       isSet := fun w => w.extensions.isSome
       read := fun limits w =>
         (fun d => { w with extensions := some d }) <$>
           Dict.read (fun _ => Reader.text) limits }]
  empty := {}
  finish := fun w => .ok (ofWritten w)

/-- Reads dependencies. -/
def read : Limits → Reader Dependencies := Reader.record record

/-- The dependencies that a text describes. -/
def parse (text : String) : Except Json.Fault Dependencies := Json.readText read text

end Dependencies

end Abnf
