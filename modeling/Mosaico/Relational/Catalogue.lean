import Mathlib.Logic.Function.Basic

/-!
# The catalogue of a database

`PRAGMA table_info` lists the columns of a table, and a table that is not there has none.
The statements that change a schema fail when a table or a column is missing or in the way.
Indexes hold no rows and are left out.
-/

namespace Relational

/-- The columns of every table. -/
abbrev Catalogue := String → List String

/-- Why a statement does not fit the schema. -/
inductive CatalogueError where
  | tableExists (table : String)
  | noSuchTable (table : String)
  | noSuchColumn (table column : String)
  | duplicateColumn (table column : String)
  deriving DecidableEq, Repr

namespace Catalogue

/-- `CREATE TABLE`. -/
def createTable (catalogue : Catalogue) (table : String) (columns : List String) :
    Except CatalogueError Catalogue :=
  if catalogue table = [] then .ok (Function.update catalogue table columns)
  else .error (.tableExists table)

/-- `CREATE TABLE IF NOT EXISTS`. -/
def createTableIfNotExists (catalogue : Catalogue) (table : String) (columns : List String) :
    Catalogue :=
  if catalogue table = [] then Function.update catalogue table columns else catalogue

/-- `DROP TABLE`. -/
def dropTable (catalogue : Catalogue) (table : String) : Except CatalogueError Catalogue :=
  if catalogue table = [] then .error (.noSuchTable table)
  else .ok (Function.update catalogue table [])

/-- `DROP TABLE IF EXISTS`. -/
def dropTableIfExists (catalogue : Catalogue) (table : String) : Catalogue :=
  Function.update catalogue table []

/-- `ALTER TABLE … RENAME TO …`. -/
def renameTable (catalogue : Catalogue) (table renamed : String) :
    Except CatalogueError Catalogue :=
  if catalogue table = [] then .error (.noSuchTable table)
  else if catalogue renamed = [] then
    .ok (Function.update (Function.update catalogue renamed (catalogue table)) table [])
  else .error (.tableExists renamed)

/-- `ALTER TABLE … ADD COLUMN …`. -/
def addColumn (catalogue : Catalogue) (table column : String) :
    Except CatalogueError Catalogue :=
  if catalogue table = [] then .error (.noSuchTable table)
  else if column ∈ catalogue table then .error (.duplicateColumn table column)
  else .ok (Function.update catalogue table (catalogue table ++ [column]))

/-- `ALTER TABLE … DROP COLUMN …`. -/
def dropColumn (catalogue : Catalogue) (table column : String) :
    Except CatalogueError Catalogue :=
  if catalogue table = [] then .error (.noSuchTable table)
  else if column ∈ catalogue table then
    .ok (Function.update catalogue table ((catalogue table).filter (fun held => held ≠ column)))
  else .error (.noSuchColumn table column)

/-- The columns that a statement names. -/
def readColumns (catalogue : Catalogue) (table : String) :
    List String → Except CatalogueError Unit
  | [] => .ok ()
  | column :: rest =>
      if column ∈ catalogue table then catalogue.readColumns table rest
      else .error (.noSuchColumn table column)

end Catalogue

end Relational
