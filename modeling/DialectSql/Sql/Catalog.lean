import DialectSql.Sql.Dialect
import DialectSql.Text.Blank
import DialectSql.Text.Lowercase

/-!
# The Dialect Catalog

The dialects that are known, each under one or more names.  Names are looked up in lower case.
Registering gives a dialect an identity of its own, so that two names can be told to mean the same
dialect; a name that is registered again moves to the new one.
-/

namespace DialectSql.Sql

/-- A dialect with its identity. -/
structure Registration where
  serial : Nat
  dialect : Dialect
  deriving DecidableEq, Repr, Inhabited

/-- The known dialects by their names. -/
structure Catalog where
  registrations : OrderedMap Registration
  nextSerial : Nat

namespace Catalog

/-- The catalog without dialects. -/
def empty : Catalog :=
  ⟨.empty, 0⟩

/-- Registers a dialect under the given names. -/
def register (catalog : Catalog) (names : List Text) (dialect : Dialect) : Catalog :=
  ⟨names.foldl (fun map name ↦ map.insert (Text.lower name) ⟨catalog.nextSerial, dialect⟩)
    catalog.registrations, catalog.nextSerial + 1⟩

/-- The registered names in order. -/
def names (catalog : Catalog) : List Text :=
  catalog.registrations.sortedNames

/-- The registration of a name; a missing or empty name has none. -/
def find? (catalog : Catalog) (name : Option Text) : Option Registration :=
  match name with
  | none => none
  | some name => if name.isEmpty then none else catalog.registrations.get? (Text.lower name)

/-- The registration of a name that has to be known.  The alias that leads to the name is only
reported. -/
def locate (catalog : Catalog) (name aliasName : Option Text) : Except Error Registration :=
  match catalog.find? name with
  | some registration => .ok registration
  | none => .error (.dialectUnknown name catalog.names aliasName)

/-- The dialect of a name. -/
def create (catalog : Catalog) (name aliasName : Option Text) : Except Error Dialect := do
  let registration ← catalog.locate name aliasName
  return registration.dialect

/-- Whether two names mean the same dialect. -/
def same (catalog : Catalog) (left right : Text) : Except Error Bool := do
  let left ← catalog.locate (some left) none
  let right ← catalog.locate (some right) none
  return left.serial == right.serial

end Catalog

/-- The dialects that are always known, with their names. -/
def builtIn : List (List Text × Dialect) :=
  [(["standard", "hsqldb", "h2"], ⟨"standard", .limitOffset, .none⟩),
    (["postgresql", "postgres"], ⟨"postgresql", .limitOffset, .none⟩),
    (["mysql"], ⟨"mysql", .limitOffset, .none⟩),
    (["sqlite"], ⟨"sqlite", .limitOffset, .none⟩),
    (["derby"], ⟨"derby", .offsetFetch, .none⟩),
    (["oracle"], ⟨"oracle", .rowNumber, .none⟩),
    (["mssql", "sqlserver"], ⟨"mssql", .rowNumber, .none⟩),
    (["db2"], ⟨"db2", .rowNumber, .none⟩)]

/-- The catalog of the dialects that are always known. -/
def Catalog.standard : Catalog :=
  builtIn.foldl (fun catalog entry ↦ catalog.register entry.1 entry.2) .empty

/-- The dialect that counts rows for everyone. -/
def standardDialect : Dialect :=
  ⟨"standard", .limitOffset, .none⟩

/-- The dialects that new ones can be derived from, by the names of their families. -/
def base? : String → Option Dialect
  | "standard" => some standardDialect
  | "derby" => some ⟨"derby", .offsetFetch, .none⟩
  | "windowed" => some ⟨"windowed", .rowNumber, .none⟩
  | _ => none

/-! ## Aliases -/

/-- Which dialect each database alias uses. -/
structure Aliases where
  dialects : OrderedMap Text

namespace Aliases

/-- Aliases without blanks around them, dialect names without blanks and in lower case.  Of
several aliases that become equal the last one decides. -/
def normalise (entries : List (Text × Text)) : OrderedMap Text :=
  .ofList (entries.map fun entry ↦ (Text.strip entry.1, Text.lower (Text.strip entry.2)))

/-- The aliases of a configuration. -/
def ofEntries (entries : List (Text × Text)) : Aliases :=
  ⟨normalise entries⟩

/-- The aliases in order. -/
def names (aliases : Aliases) : List Text :=
  aliases.dialects.sortedNames

/-- The dialect name of an alias. -/
def find? (aliases : Aliases) (aliasName : Option Text) : Option Text :=
  aliasName.bind aliases.dialects.get?

/-- The dialect name of an alias that has to be configured; the log tells which it is. -/
def resolve (aliases : Aliases) (catalog : Catalog) (aliasName : Option Text) :
    Traced Error Text :=
  match aliases.find? aliasName with
  | none => .ofExcept (.error (.dialectUnknown (some "<unconfigured>") catalog.names aliasName))
  | some name => do
    Traced.tell .debug ("Alias " ++ aliasName.getD "" ++ " uses dialect " ++ name)
    return name

/-- The dialect of an alias. -/
def dialectFor (aliases : Aliases) (catalog : Catalog) (aliasName : Option Text) :
    Traced Error Dialect := do
  let name ← aliases.resolve catalog aliasName
  Traced.ofExcept (catalog.create (some name) aliasName)

end Aliases

end DialectSql.Sql
