import QueryMan.SourceCatalog.Manifests

/-!
# Repeated keys in configuration files

`_parse_model` validates the dictionaries that are left of a document, so a repeated key is not an
error of its own: the file is read as if only the last value were there.
-/

namespace QueryMan

open Python Python.Pydantic
open Python.Yaml (Data Document Node Scalar ScalarConstructors)

/-- The models that `_parse_model` is called with. -/
inductive Manifest where
  | sourceFile
  | databaseFile
  | budgetFile
  deriving DecidableEq, Repr

namespace Manifest

/-- The model as a type. -/
def Model : Manifest → Type
  | .sourceFile => SourceFile
  | .databaseFile => DatabaseFile
  | .budgetFile => BudgetFile

/-- `model.model_validate`. -/
def modelValidate (lax : Lax) : (m : Manifest) → Data → Checked m.Model
  | .sourceFile => SourceFile.modelValidate lax
  | .databaseFile => DatabaseFile.modelValidate lax
  | .budgetFile => BudgetFile.modelValidate lax

variable (m : Manifest) (loader : ScalarConstructors) (lax : Lax) (path : String) {size : Nat}
  (doc : Document size)

/-- `_parse_model` of a file with the document. -/
def parse : Except ParseFailure m.Model :=
  parseModel loader path (.ok (some ⟨size, doc⟩)) (m.modelValidate lax)

variable {m loader lax path doc}

end Manifest

end QueryMan
