import MoveBindings.Identifier

/-!
# Settings

Settings name the libraries and containers that generated code refers to, bound
the traversal of linked tables, and hold the naming rules. A set of overrides
replaces some of them and leaves the others as they are.
-/

namespace MoveBindings

/-- What generated code looks like, apart from the project it is for. -/
structure Settings where
  naming : NamingRules := {}
  runtimeModule : String := "@manahippo/move-to-ts"
  clientModule : String := "aptos"
  stdPackage : String := "Std"
  tableName : String := "0x1::Table::Table"
  iterableTableName : String := "0x1::IterableTable::IterableTable"
  maxIterableEntries : Option Int := none
deriving DecidableEq, Repr

/-- The settings that a configuration replaces. -/
structure Overrides where
  naming : Option NamingRules := none
  runtimeModule : Option String := none
  clientModule : Option String := none
  stdPackage : Option String := none
  tableName : Option String := none
  iterableTableName : Option String := none
  maxIterableEntries : Option Int := none
deriving DecidableEq, Repr

namespace Overrides

/-- Settings with some of them replaced. -/
def apply (o : Overrides) (s : Settings) : Settings where
  naming := o.naming.getD s.naming
  runtimeModule := o.runtimeModule.getD s.runtimeModule
  clientModule := o.clientModule.getD s.clientModule
  stdPackage := o.stdPackage.getD s.stdPackage
  tableName := o.tableName.getD s.tableName
  iterableTableName := o.iterableTableName.getD s.iterableTableName
  maxIterableEntries := o.maxIterableEntries <|> s.maxIterableEntries

/-- Without overrides all settings stay as they are. -/
@[simp] theorem apply_empty (s : Settings) : ({} : Overrides).apply s = s := rfl

end Overrides

end MoveBindings
