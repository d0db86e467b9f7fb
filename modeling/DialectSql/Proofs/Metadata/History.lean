import DialectSql.Metadata.Provider
import DialectSql.Proofs.Trace

/-!
# Histories of the Metadata Provider

What a provider answers after any history of lookups and evictions, while the databases stay as
they are.  The main statement is that it answers like a fresh provider that is given the hint of
the first lookup of the resource since its last eviction.  So the table that is kept is transparent
where the hint does not matter, as for a table that declares its primary key, and nowhere else.

It holds for every inspector, whatever a database tells or fails with.  Everything that is declared
about a table, and every failure, is found without the hint; the hint only names the primary key of
a table that declares none.
-/

namespace DialectSql

theorem lookup_filter {α β : Type} [BEq α] [LawfulBEq α] (p : α → Bool) (key : α)
    (entries : List (α × β)) :
    (entries.filter fun entry ↦ p entry.1).lookup key =
      if p key then entries.lookup key else none := by
  induction entries with
  | nil => simp
  | cons entry entries ih =>
    obtain ⟨name, value⟩ := entry
    by_cases here : key = name
    · subst here
      by_cases kept : p key = true
      · simp [kept]
      · simpa [kept] using ih
    · have elsewhere : (key == name) = false := beq_eq_false_iff_ne.mpr here
      by_cases kept : p name = true
      · simpa [kept, List.lookup_cons, elsewhere] using ih
      · simpa [kept, List.lookup_cons, elsewhere] using ih

/-- The primary key does not matter to the check of names. -/
theorem Table.checkNames_withKey (table : Table) (key : Text) :
    { table with primaryKey := key }.checkNames =
      (fun _ ↦ { table with primaryKey := key }) <$> table.checkNames := by
  unfold checkNames
  by_cases noSchema : Text.isBlankText table.schemaName = true
  · rw [if_pos noSchema, if_pos noSchema]
    rfl
  · rw [if_neg noSchema, if_neg noSchema]
    by_cases noName : Text.isBlankText table.name = true
    · rw [if_pos noName, if_pos noName]
      rfl
    · rw [if_neg noName, if_neg noName]
      rfl

namespace Metadata

variable {Catalog : Type}

/-! ## Lookups without a hint -/

namespace ReflectedTable

/-- The primary key of a table where a hint is given: the first column of the declared key, else the
hint, else the usual one. -/
def keyFor (reflected : ReflectedTable) (hint : Option Text) : Text :=
  match reflected.primaryKey with
  | key :: _ => if key.isEmpty then defaultPrimaryKey else key
  | [] => (present? hint).getD defaultPrimaryKey

/-- No hint matters to a table that declares its primary key. -/
theorem keyFor_of_declared {reflected : ReflectedTable} (declared : reflected.primaryKey ≠ [])
    (hint other : Option Text) : reflected.keyFor hint = reflected.keyFor other := by
  obtain ⟨key, others, isKey⟩ := List.exists_cons_of_ne_nil declared
  rw [keyFor, keyFor, isKey]

/-- The table with the label of its schema, where a hint is given. -/
def table (reflected : ReflectedTable) (label : Text) (hint : Option Text) : Table :=
  ⟨label, reflected.name, reflected.keyFor hint, reflected.columns.map ReflectedColumn.column⟩

theorem outcome_chooseKey {ε : Type} (reflected : ReflectedTable) (label : Text)
    (hint : Option Text) :
    (reflected.chooseKey label hint : Traced ε Text).outcome = .ok (reflected.keyFor hint) := by
  unfold chooseKey keyFor
  cases reflected.primaryKey with
  | cons key others => rfl
  | nil => cases present? hint <;> rfl

theorem outcome_toTable (reflected : ReflectedTable) (label : Text) (hint : Option Text) :
    (reflected.toTable label hint).outcome =
      (reflected.table label hint).checkNames.mapError .refused := by
  rw [toTable, Traced.outcome_bind, outcome_chooseKey]
  rfl

/-- The hint does not matter to the check of names. -/
theorem checkNames_table (reflected : ReflectedTable) (label : Text) (hint : Option Text) :
    (reflected.table label hint).checkNames =
      (fun _ ↦ reflected.table label hint) <$> (reflected.table label none).checkNames :=
  Table.checkNames_withKey (reflected.table label none) (reflected.keyFor hint)

end ReflectedTable

namespace Inspector

/-- What is found of a table, with the label of its schema, if the two names are in order. -/
def declared (inspector : Inspector Catalog) (catalog : Catalog) (name : Text)
    (schema : Option Text) : Except Failure (Text × ReflectedTable) := do
  let found ← inspector.find catalog name schema
  (fun _ ↦ found) <$> (found.2.table found.1 none).checkNames.mapError .refused

/-- A lookup finds what is declared and then applies the hint. -/
theorem outcome_tableOf (inspector : Inspector Catalog) (catalog : Catalog) (name : Text)
    (schema hint : Option Text) :
    (inspector.tableOf catalog name schema hint).outcome =
      (fun found ↦ found.2.table found.1 hint) <$> inspector.declared catalog name schema := by
  rw [tableOf, declared, Traced.outcome_bind, Traced.outcome_ofExcept]
  cases inspector.find catalog name schema with
  | error failure => rfl
  | ok found =>
    obtain ⟨label, reflected⟩ := found
    calc (reflected.toTable label hint).outcome
        = (reflected.table label hint).checkNames.mapError .refused :=
          reflected.outcome_toTable label hint
      _ = ((fun _ ↦ reflected.table label hint) <$>
            (reflected.table label none).checkNames).mapError .refused := by
          rw [reflected.checkNames_table label hint]
      _ = (fun _ ↦ reflected.table label hint) <$>
            (reflected.table label none).checkNames.mapError .refused := Outcome.mapError_map ..
      _ = (fun found ↦ found.2.table found.1 hint) <$> (fun _ ↦ (label, reflected)) <$>
            (reflected.table label none).checkNames.mapError .refused := by rw [Functor.map_map]

end Inspector

namespace Provider

variable (inspector : Inspector Catalog)

/-- What the database of an alias declares about a resource, with the label of its schema. -/
def find (provider : Provider Catalog) (aliasName resource : Text) :
    Except Failure (Text × ReflectedTable) :=
  match provider.engines.get? aliasName with
  | none => .error (.refused (.aliasUnknown aliasName provider.engines.sortedNames))
  | some catalog =>
    (inspector.declared catalog resource (provider.schemas.get? aliasName)).mapError
      (ofEngineFailure aliasName resource)

/-- The table of a resource where a hint is given. -/
def tableFor (provider : Provider Catalog) (aliasName resource : Text) (hint : Option Text) :
    Except Failure Table :=
  (fun found ↦ found.2.table found.1 hint) <$> provider.find inspector aliasName resource

theorem outcome_reflect (provider : Provider Catalog) (aliasName resource : Text)
    (hint : Option Text) :
    (provider.reflect inspector aliasName resource hint).outcome =
      provider.tableFor inspector aliasName resource hint := by
  unfold reflect tableFor find
  cases provider.engines.get? aliasName with
  | none => rfl
  | some catalog =>
    generalize provider.schemas.get? aliasName = schema
    calc ((inspector.tableOf catalog resource schema hint).outcome.mapError
          (ofEngineFailure aliasName resource))
        = ((fun found ↦ found.2.table found.1 hint) <$>
            inspector.declared catalog resource schema).mapError
              (ofEngineFailure aliasName resource) := by rw [inspector.outcome_tableOf]
      _ = (fun found ↦ found.2.table found.1 hint) <$>
            (inspector.declared catalog resource schema).mapError
              (ofEngineFailure aliasName resource) := Outcome.mapError_map ..

end Provider

/-! ## Histories -/

/-- What can be asked of a provider. -/
inductive Call where
  | resolve (aliasName resource : Text) (hint : Option Text)
  | evict (aliasName : Text) (resource : Option Text)
  deriving DecidableEq, Repr

/-- How a call changes the hint that is kept for a resource.  The first lookup sets it, and it stays
until it is evicted. -/
def keepHint (aliasName resource : Text) (kept : Option (Option Text)) :
    Call → Option (Option Text)
  | .resolve other name hint =>
    if (aliasName, resource) = (other, name) then kept <|> some hint else kept
  | .evict other name =>
    if other = aliasName ∧ (name = none ∨ name = some resource) then none else kept

/-- The hint that is kept for a resource after a history: that of the first lookup since the last
eviction. -/
def keptHint (aliasName resource : Text) (calls : List Call) : Option (Option Text) :=
  calls.foldl (keepHint aliasName resource) none

namespace Provider

variable (inspector : Inspector Catalog)

/-- The provider after a call. -/
def after (provider : Provider Catalog) : Call → Provider Catalog
  | .resolve aliasName resource hint => (provider.resolve inspector aliasName resource hint).2
  | .evict aliasName resource => provider.evict aliasName resource

/-- The provider after a history. -/
def afterAll (provider : Provider Catalog) (calls : List Call) : Provider Catalog :=
  calls.foldl (after inspector) provider

variable {inspector} {provider : Provider Catalog} {aliasName resource : Text}
  {kept : Option (Option Text)}

/-- A lookup answers with the table that is kept, else with the one that is declared. -/
theorem outcome_resolve (provider : Provider Catalog) (aliasName resource : Text)
    (hint : Option Text) :
    (provider.resolve inspector aliasName resource hint).1.outcome =
      match provider.cached? aliasName resource with
      | some table => .ok table
      | none => provider.tableFor inspector aliasName resource hint := by
  rw [← outcome_reflect]
  unfold resolve
  cases provider.cached? aliasName resource with
  | some table => rfl
  | none =>
    dsimp only
    split <;> rfl

/-- A lookup leaves a provider that keeps the table it answers with, and is unchanged otherwise. -/
theorem resolve_snd (provider : Provider Catalog) (aliasName resource : Text)
    (hint : Option Text) :
    (provider.resolve inspector aliasName resource hint).2 =
      match provider.cached? aliasName resource,
        provider.tableFor inspector aliasName resource hint with
      | none, .ok table =>
        { provider with cache := ((aliasName, resource), table) :: provider.cache }
      | _, _ => provider := by
  rw [← outcome_reflect]
  unfold resolve
  cases provider.cached? aliasName resource with
  | some table => rfl
  | none =>
    dsimp only
    cases (provider.reflect inspector aliasName resource hint).outcome <;> rfl

/-- A call changes neither the databases nor the schemas. -/
theorem tableFor_after (provider : Provider Catalog) (call : Call) (aliasName resource : Text) :
    (provider.after inspector call).tableFor inspector aliasName resource =
      provider.tableFor inspector aliasName resource := by
  have found : (provider.after inspector call).find inspector aliasName resource =
      provider.find inspector aliasName resource := by
    cases call with
    | resolve other name hint =>
      rw [after, resolve_snd]
      split <;> rfl
    | evict other name => rfl
  funext hint
  rw [tableFor, tableFor, found]

theorem tableFor_afterAll (provider : Provider Catalog) (calls : List Call)
    (aliasName resource : Text) :
    (provider.afterAll inspector calls).tableFor inspector aliasName resource =
      provider.tableFor inspector aliasName resource := by
  induction calls generalizing provider with
  | nil => rfl
  | cons call calls ih =>
    exact (ih (provider.after inspector call)).trans
      (tableFor_after provider call aliasName resource)

theorem cached?_evict (provider : Provider Catalog) (other : Text) (name : Option Text)
    (aliasName resource : Text) :
    (provider.evict other name).cached? aliasName resource =
      if other = aliasName ∧ (name = none ∨ name = some resource) then none
      else provider.cached? aliasName resource := by
  have filtered := lookup_filter
    (fun key : Text × Text ↦ !(key.1 == other && (name.isNone || name == some key.2)))
    (aliasName, resource) provider.cache
  have selected : (!(aliasName == other && (name.isNone || name == some resource))) = true ↔
      ¬ (other = aliasName ∧ (name = none ∨ name = some resource)) := by
    rw [Bool.not_eq_true', ← Bool.not_eq_true]
    apply not_congr
    rw [Bool.and_eq_true, Bool.or_eq_true, beq_iff_eq, beq_iff_eq, Option.isNone_iff_eq_none,
      eq_comm]
  refine filtered.trans ?_
  by_cases evicted : other = aliasName ∧ (name = none ∨ name = some resource)
  · rw [if_pos evicted, if_neg fun stays ↦ selected.mp stays evicted]
  · rw [if_neg evicted, if_pos (selected.mpr evicted)]
    rfl

/-- The table that is kept for a resource is the one that goes with the given hint; nothing is kept
without a hint or where no table is found. -/
def Keeps (inspector : Inspector Catalog) (provider : Provider Catalog) (aliasName resource : Text)
    (kept : Option (Option Text)) : Prop :=
  provider.cached? aliasName resource =
    kept.bind fun hint ↦ (provider.tableFor inspector aliasName resource hint).toOption

/-- A call keeps the table that goes with the hint that it keeps. -/
theorem Keeps.after (call : Call) (keeps : provider.Keeps inspector aliasName resource kept) :
    (provider.after inspector call).Keeps inspector aliasName resource
      (keepHint aliasName resource kept call) := by
  unfold Keeps at keeps ⊢
  rw [tableFor_after]
  cases call with
  | resolve other name hint =>
    rw [Provider.after, resolve_snd, keepHint]
    by_cases same : (aliasName, resource) = (other, name)
    · obtain ⟨rfl, rfl⟩ := Prod.mk.inj same
      rw [if_pos rfl, keeps]
      unfold tableFor at keeps ⊢
      -- Whether there is a table does not depend on the hint, so a lookup that finds nothing kept
      -- behind an earlier one fails like that one.
      cases found : provider.find inspector aliasName resource with
      | error failure =>
        rw [found] at keeps
        cases kept <;> exact keeps
      | ok declared =>
        rw [found] at keeps
        cases kept with
        | none => simp [cached?, Except.toOption]
        | some first => exact keeps
    · rw [if_neg same, ← keeps]
      have elsewhere : ((aliasName, resource) == (other, name)) = false :=
        beq_eq_false_iff_ne.mpr same
      split
      · simp [cached?, List.lookup_cons, elsewhere]
      · rfl
  | evict other name =>
    rw [Provider.after, cached?_evict, keepHint]
    split
    · rfl
    · exact keeps

/-- After every history the table is kept that goes with the hint that is kept. -/
theorem Keeps.afterAll (calls : List Call)
    (keeps : provider.Keeps inspector aliasName resource kept) :
    (provider.afterAll inspector calls).Keeps inspector aliasName resource
      (calls.foldl (keepHint aliasName resource) kept) := by
  induction calls generalizing provider kept with
  | nil => exact keeps
  | cons call calls ih => exact ih (keeps.after call)

/-- A lookup takes the hint that is kept, else its own. -/
theorem Keeps.outcome_resolve (keeps : provider.Keeps inspector aliasName resource kept)
    (hint : Option Text) :
    (provider.resolve inspector aliasName resource hint).1.outcome =
      provider.tableFor inspector aliasName resource (kept.getD hint) := by
  unfold Keeps at keeps
  rw [Provider.outcome_resolve, keeps]
  unfold tableFor
  cases kept with
  | none => rfl
  | some first => cases provider.find inspector aliasName resource <;> rfl

section
variable (inspector : Inspector Catalog) (engines : OrderedMap Catalog) (schemas : OrderedMap Text)

/-- A fresh provider keeps nothing. -/
theorem keeps_ofEngines (aliasName resource : Text) :
    (ofEngines engines schemas).Keeps inspector aliasName resource none := rfl

/-- A fresh provider answers with what the database declares and the hint that it is given, for the
declared key first.  After every history a provider answers like a fresh one that is given the hint
that is kept.  So it answers like a fresh one that is given the same hint exactly where both hints
lead to the same primary key, and always for a table that declares its key. -/
theorem outcome_resolve_afterAll (calls : List Call) (aliasName resource : Text)
    (hint : Option Text) :
    let fresh := ofEngines engines schemas
    let provider := fresh.afterAll inspector calls
    let kept := (keptHint aliasName resource calls).getD hint
    ((fresh.resolve inspector aliasName resource hint).1.outcome =
        (fun found ↦ found.2.table found.1 hint) <$> fresh.find inspector aliasName resource) ∧
      ((provider.resolve inspector aliasName resource hint).1.outcome =
        (fresh.resolve inspector aliasName resource kept).1.outcome) ∧
      ((provider.resolve inspector aliasName resource hint).1.outcome =
          (fresh.resolve inspector aliasName resource hint).1.outcome ↔
        ∀ label reflected, fresh.find inspector aliasName resource = .ok (label, reflected) →
          reflected.keyFor kept = reflected.keyFor hint) ∧
      ∀ label reflected, fresh.find inspector aliasName resource = .ok (label, reflected) →
        reflected.primaryKey ≠ [] →
          (provider.resolve inspector aliasName resource hint).1.outcome =
            (fresh.resolve inspector aliasName resource hint).1.outcome := by
  intro fresh provider kept
  have keeps : fresh.Keeps inspector aliasName resource none :=
    keeps_ofEngines inspector engines schemas aliasName resource
  have later : provider.Keeps inspector aliasName resource (keptHint aliasName resource calls) :=
    keeps.afterAll calls
  rw [later.outcome_resolve, keeps.outcome_resolve, keeps.outcome_resolve, tableFor_afterAll]
  have agrees : fresh.tableFor inspector aliasName resource kept =
      fresh.tableFor inspector aliasName resource hint ↔
        ∀ label reflected, fresh.find inspector aliasName resource = .ok (label, reflected) →
          reflected.keyFor kept = reflected.keyFor hint := by
    rw [tableFor, tableFor]
    cases fresh.find inspector aliasName resource with
    | error failure => simp [Functor.map, Except.map]
    | ok found =>
      obtain ⟨label, reflected⟩ := found
      simp [Functor.map, Except.map, ReflectedTable.table]
  refine ⟨rfl, rfl, agrees, fun label reflected found declares ↦ agrees.mpr ?_⟩
  intro otherLabel other same
  obtain ⟨rfl, rfl⟩ := Prod.mk.inj (Except.ok.inj (found.symm.trans same))
  exact reflected.keyFor_of_declared declares kept hint

end

/-! ## An inspector for trials -/

/-- Databases that tell the tables they hold, by their keys, or fail. -/
abbrev TrialCatalog := Except ForeignError (List (Text × ReflectedTable))

/-- An inspector for databases in memory, whose default schema is the main one. -/
def trialInspector : Inspector TrialCatalog where
  defaultSchema _ := .ok (some "main")
  database _ := none
  url _ := "sqlite://"
  reflect catalog name schema :=
    match catalog with
    | .error error => .error (.foreign error)
    | .ok tables =>
      let key := ReflectedTable.keyOf name schema
      match tables.lookup key with
      | none => .error .missing
      | some table => .ok [(key, table)]

/-- A text column that takes nulls. -/
def trialColumn (name : Text) : ReflectedColumn :=
  ⟨name, "TEXT", none, none, none, some true⟩

/-- A database with a table that declares no primary key. -/
def keyless : OrderedMap TrialCatalog :=
  .ofList [("app", .ok
    [("main.audit_log", ⟨"audit_log", [], [trialColumn "entry", trialColumn "created"]⟩)])]

/-- The hint of one caller is the primary key for the next one, whatever hint that one gives. -/
theorem resolve_keeps_firstHint :
    (((ofEngines keyless .empty).afterAll trialInspector
        [.resolve "app" "audit_log" (some "entry")]).resolve trialInspector
          "app" "audit_log" (some "created")).1.outcome.map Table.primaryKey = .ok "entry" ∧
      ((ofEngines keyless .empty).resolve trialInspector
        "app" "audit_log" (some "created")).1.outcome.map Table.primaryKey = .ok "created" ∧
      ¬ ∀ (engines : OrderedMap TrialCatalog) (schemas : OrderedMap Text) (calls : List Call)
        (aliasName resource : Text) (hint : Option Text),
        (((ofEngines engines schemas).afterAll trialInspector calls).resolve trialInspector
            aliasName resource hint).1.outcome =
          ((ofEngines engines schemas).resolve trialInspector
            aliasName resource hint).1.outcome := by
  refine ⟨rfl, rfl, ?_⟩
  intro transparent
  have same := congrArg (Except.map Table.primaryKey) <| transparent keyless .empty
    [.resolve "app" "audit_log" (some "entry")] "app" "audit_log" (some "created")
  have sameKey : ("entry" : Text) = "created" := Except.ok.inj same
  exact absurd sameKey (by decide)

end Provider

end Metadata

end DialectSql
