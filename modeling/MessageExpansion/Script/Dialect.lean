import MessageExpansion.Path

/-!
# Dialects

Which language a script is written in.  The file name decides: TypeScript for its own endings, with
markup only for the ending made for it, and JavaScript with markup for everything else.
-/

namespace MessageExpansion
namespace Script

/-- A language that scripts are written in. -/
structure Dialect where
  /-- Types may be annotated. -/
  typed : Bool
  /-- Expressions may be markup elements. -/
  markup : Bool
deriving DecidableEq, Repr

/-- The dialect of the script in a file. -/
def Dialect.ofPath (path : String) : Dialect :=
  match (Path.extension? path).getD "" with
  | "ts" | "mts" | "cts" => ⟨true, false⟩
  | "tsx" => ⟨true, true⟩
  | _ => ⟨false, true⟩

end Script
end MessageExpansion
