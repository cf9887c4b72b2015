import MessageExpansion.Expansion.Error
import MessageExpansion.Expansion.Matching
import MessageExpansion.Renderer.CompiledPattern
import MessageExpansion.Script.Parser
import MessageExpansion.Session

/-!
# Extraction

Collecting the patterns of the eligible calls of a script in a catalog.  Empty patterns have nothing
to localize and are left out.
-/

namespace MessageExpansion

open Script (Call)

/-- A script that patterns are extracted from. -/
structure Extraction where
  /-- The settings of the run. -/
  session : Session
  /-- The path of the script. -/
  file : String
  /-- The text of the script. -/
  script : List Char

/-- How far the extraction has come. -/
structure ExtractionState where
  /-- The patterns so far. -/
  catalog : Catalog
  /-- The calls that are constant. -/
  folded : FoldedConstants

namespace Extraction

/-- The location of a call. -/
def locate (extraction : Extraction) (call : Call) : Location :=
  (Excerpt.ofOffset extraction.file extraction.script call.span.start).location

/-- Take up the pattern of an eligible call, which may be a constant. -/
def collect (extraction : Extraction) (state : ExtractionState) (call : Call) (text : String)
    (pattern : Pattern) : Except ExpansionError ExtractionState :=
  let folded := match pattern.constant? with
    | some value => (call.span, value) :: state.folded
    | none => state.folded
  if pattern.isEmpty then .ok { state with folded }
  else
    match extraction.session.keys.key? text with
    | none => .error (.catalog (extraction.locate call) (.keyless text))
    | some key =>
        .ok ⟨state.catalog.insertPattern extraction.session.locale key text, folded⟩

/-- Visit a call: take up its pattern if it is eligible. -/
def visit (extraction : Extraction) (state : ExtractionState) (call : Call) :
    Except ExpansionError ExtractionState :=
  match call.match? extraction.session.function state.folded with
  | none => .ok state
  | some eligible =>
      match Pattern.parse eligible.pattern with
      | .error error =>
          .error (.patternSyntax (extraction.locate call) eligible.pattern error)
      | .ok pattern => extraction.collect state call eligible.pattern pattern

/-- The catalog of a script's patterns, all under the locale of the session. -/
def run (extraction : Extraction) : Except ExpansionError Catalog :=
  match Script.parse (.ofPath extraction.file) extraction.script with
  | none => .error (.unparsed extraction.file)
  | some trees =>
      match (Script.CallTree.visitsAll trees).foldlM extraction.visit
          (⟨Catalog.empty, []⟩ : ExtractionState) with
      | .ok state => .ok state.catalog
      | .error error => .error error

end Extraction
end MessageExpansion
