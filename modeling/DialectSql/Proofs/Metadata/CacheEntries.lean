import DialectSql.Proofs.Metadata.History

/-!
# The Entries of the Metadata Cache

What a provider keeps after any history of lookups, evictions and changes of its databases.  The
main statement tells the cache by the history: a table is kept for a resource exactly if a lookup
reflected the resource into that table and no eviction has matched it since.  A resource that is
kept is not reflected again, a lookup that fails leaves everything as it was, and what happens to
one resource leaves the others as they were.

It holds for every inspector.  A missing table and a wrong configuration are told with the name of
the alias; what a database fails with in a way of its own goes on to the caller as it is.
-/

namespace DialectSql

/-! ## Errors that name an alias -/

/-- The class of an error that a lookup gives: a wrong configuration or a missing resource. -/
def ErrorClass.IsOfLookup (errorClass : ErrorClass) : Prop :=
  errorClass = .configuration ∨ errorClass = .resourceNotFound

/-- An error of a lookup names an alias: in its details, and between quotes in its wording. -/
structure Error.NamesAlias (aliasName : Text) (error : Error) : Prop where
  isOfLookup : error.errorClass.IsOfLookup
  details : error.details.lookup ("alias" : Text) = some (.str aliasName)
  message : ("'" ++ aliasName ++ "'" : Text) <:+: error.message

/-- A name stands between quotes where one quote ends the text before it and another one begins
the text behind it. -/
theorem quoted_isInfix {opening closing : Text} (before name behind : Text)
    (opens : opening = before ++ "'") (closes : closing = "'" ++ behind) :
    ("'" ++ name ++ "'" : Text) <:+: opening ++ name ++ closing := by
  refine ⟨before, behind, ?_⟩
  rw [opens, closes]
  simp only [List.append_assoc]

namespace Error

theorem namesAlias_aliasUnknown (aliasName : Text) (aliases : List Text) :
    (aliasUnknown aliasName aliases).NamesAlias aliasName where
  isOfLookup := .inl rfl
  details := rfl
  message := quoted_isInfix "Database alias " aliasName " is not configured." rfl rfl

theorem namesAlias_resourceMissing (aliasName resource : Text) :
    (resourceMissing aliasName resource).NamesAlias aliasName where
  isOfLookup := .inr rfl
  details := rfl
  message := by
    have opens : ("' does not exist for alias '" : Text) =
        "' does not exist for alias " ++ "'" := rfl
    refine quoted_isInfix ("Resource '" ++ resource ++ "' does not exist for alias ") aliasName "."
      ?_ rfl
    rw [opens, List.append_assoc, List.append_assoc, List.append_assoc]

/-- Whatever the cause reports as alias is replaced. -/
theorem namesAlias_aliasSchemaNeeded (aliasName : Text) (cause : Error) :
    (aliasSchemaNeeded aliasName cause).NamesAlias aliasName where
  isOfLookup := .inl rfl
  details := lookup_setEntry ..
  message := (quoted_isInfix "Alias " aliasName " needs a configured schema: " rfl rfl).trans
    (List.prefix_append _ _).isInfix

end Error

/-- A table is refused as a wrong configuration. -/
theorem Table.errorClass_of_checkNames {table : Table} {error : Error}
    (refused : table.checkNames = .error error) : error.errorClass = .configuration := by
  unfold checkNames at refused
  split at refused
  · cases refused
    rfl
  · split at refused
    · cases refused
      rfl
    · cases refused

namespace Metadata

variable {Catalog : Type}

/-! ## Failures of databases -/

/-- What asking a database may fail with: an error of a lookup, or one that is none of the
library. -/
inductive IsOfDatabase : Failure → Prop
  | refused {error : Error} (isOfLookup : error.errorClass.IsOfLookup) :
    IsOfDatabase (.refused error)
  | foreign (error : ForeignError) : IsOfDatabase (.foreign error)

theorem Inspector.isOfDatabase_of_find {inspector : Inspector Catalog} {catalog : Catalog}
    {name : Text} {schema : Option Text} {failure : Failure}
    (failed : inspector.find catalog name schema = .error failure) : IsOfDatabase failure := by
  obtain undetermined | ⟨read, -, failed⟩ := Outcome.error_of_bind failed
  · cases schema with
    | some schema => cases undetermined
    | none =>
      obtain ⟨error, -, rfl⟩ := Outcome.error_of_mapError undetermined
      exact .foreign error
  · split at failed
    · cases failed
      exact .refused (.inl rfl)
    · obtain unread | ⟨tables, -, failed⟩ := Outcome.error_of_bind failed
      · obtain ⟨fault, -, rfl⟩ := Outcome.error_of_mapError unread
        cases fault with
        | missing => exact .refused (.inr rfl)
        | foreign error => exact .foreign error
      · dsimp only at failed
        split at failed
        · cases failed
          exact .foreign _
        · cases failed

/-- A database fails with an error of a lookup or with one that is none of the library. -/
theorem Inspector.isOfDatabase_of_tableOf {inspector : Inspector Catalog} {catalog : Catalog}
    {name : Text} {schema hint : Option Text} {failure : Failure}
    (failed : (inspector.tableOf catalog name schema hint).outcome = .error failure) :
    IsOfDatabase failure := by
  rw [outcome_tableOf] at failed
  obtain unfound | ⟨found, -, failed⟩ := Outcome.error_of_bind (Outcome.error_of_map failed)
  · exact isOfDatabase_of_find unfound
  · obtain ⟨error, misnamed, rfl⟩ := Outcome.error_of_mapError (Outcome.error_of_map failed)
    exact .refused (.inl (Table.errorClass_of_checkNames misnamed))

namespace Provider

/-- How a failure of a database is told to whoever looks a resource up. -/
inductive Tells (aliasName resource : Text) : Failure → Failure → Prop
  | missing {error : Error} (isMissing : error.errorClass = .resourceNotFound) :
    Tells aliasName resource (.refused error) (.refused (.resourceMissing aliasName resource))
  | misconfigured {error : Error} (isWrong : error.errorClass = .configuration) :
    Tells aliasName resource (.refused error) (.refused (.aliasSchemaNeeded aliasName error))
  | foreign (error : ForeignError) : Tells aliasName resource (.foreign error) (.foreign error)

theorem tells_ofEngineFailure (aliasName resource : Text) {failure : Failure}
    (isOfDatabase : IsOfDatabase failure) :
    Tells aliasName resource failure (ofEngineFailure aliasName resource failure) := by
  cases isOfDatabase with
  | foreign error => exact .foreign error
  | refused isOfLookup =>
    unfold ofEngineFailure
    dsimp only
    obtain wrong | missing := isOfLookup
    · rw [wrong]
      exact .misconfigured wrong
    · rw [missing]
      exact .missing missing

/-- What the library tells names the alias. -/
theorem Tells.namesAlias {aliasName resource : Text} {failure : Failure} {told : Error}
    (tells : Tells aliasName resource failure (.refused told)) : told.NamesAlias aliasName := by
  cases tells with
  | missing => exact Error.namesAlias_resourceMissing aliasName resource
  | misconfigured => exact Error.namesAlias_aliasSchemaNeeded aliasName _

end Provider

/-! ## Events -/

/-- What happens around a provider: it is called, or the database of an alias changes. -/
inductive Event (Catalog : Type) where
  | call (call : Call)
  | alter (aliasName : Text) (change : Catalog → Catalog)

namespace Event

/-- An event evicts a resource, alone or with its alias. -/
def Evicts (aliasName resource : Text) : Event Catalog → Prop
  | .call (.evict other name) => other = aliasName ∧ (name = none ∨ name = some resource)
  | _ => False

/-- An event concerns the entry of a resource. -/
def Matches (aliasName resource : Text) : Event Catalog → Prop
  | .call (.resolve other name _) => other = aliasName ∧ name = resource
  | event => event.Evicts aliasName resource

theorem Evicts.matches {event : Event Catalog} {aliasName resource : Text}
    (evicts : event.Evicts aliasName resource) : event.Matches aliasName resource := by
  cases event with
  | alter other change => exact evicts
  | call call =>
    cases call with
    | evict other name => exact evicts
    | resolve other name hint => exact evicts.elim

end Event

namespace Provider

section
variable (inspector : Inspector Catalog)

/-- The provider after an event. -/
def afterEvent (provider : Provider Catalog) : Event Catalog → Provider Catalog
  | .call call => provider.after inspector call
  | .alter aliasName change => provider.alter aliasName change

/-- The provider after a history of events. -/
def afterEvents (provider : Provider Catalog) (events : List (Event Catalog)) :
    Provider Catalog :=
  events.foldl (afterEvent inspector) provider

/-- A lookup of a resource reflects it into a table: nothing is kept for the resource, and the
database of its alias tells the table. -/
structure Reflects (provider : Provider Catalog) (aliasName resource : Text) (hint : Option Text)
    (table : Table) : Prop where
  absent : provider.cached? aliasName resource = none
  told : ∃ catalog, provider.engines.get? aliasName = some catalog ∧
    (inspector.tableOf catalog resource (provider.schemas.get? aliasName) hint).outcome = .ok table

end

variable {inspector : Inspector Catalog} {provider : Provider Catalog} {aliasName resource : Text}
  {hint : Option Text} {table : Table}

/-! ## One lookup -/

/-- A resource that is kept is not reflected, and nothing is changed. -/
theorem resolve_of_cached (kept : provider.cached? aliasName resource = some table)
    (inspector : Inspector Catalog) (hint : Option Text) :
    provider.resolve inspector aliasName resource hint = (pure table, provider) := by
  unfold resolve
  rw [kept]

/-- Where nothing is kept, the database is asked. -/
theorem resolve_of_not_cached (absent : provider.cached? aliasName resource = none)
    (inspector : Inspector Catalog) (hint : Option Text) :
    (provider.resolve inspector aliasName resource hint).1 =
      provider.reflect inspector aliasName resource hint := by
  unfold resolve
  rw [absent]
  dsimp only
  split <;> rfl

/-- The database of a known alias is asked, and its failures are told in terms of the alias. -/
theorem outcome_reflect_of_known {catalog : Catalog}
    (known : provider.engines.get? aliasName = some catalog) (hint : Option Text) :
    (provider.reflect inspector aliasName resource hint).outcome =
      (inspector.tableOf catalog resource (provider.schemas.get? aliasName) hint).outcome.mapError
        (ofEngineFailure aliasName resource) := by
  unfold reflect
  rw [known]
  dsimp only
  rw [Traced.outcome_bind, Traced.outcome_tell]
  rfl

/-- A lookup that fails changes nothing. -/
theorem resolve_snd_of_error {failure : Failure}
    (failed : (provider.resolve inspector aliasName resource hint).1.outcome = .error failure) :
    (provider.resolve inspector aliasName resource hint).2 = provider := by
  rw [outcome_resolve] at failed
  rw [resolve_snd]
  cases kept : provider.cached? aliasName resource with
  | some table => rfl
  | none =>
    rw [kept] at failed
    dsimp only at failed ⊢
    rw [failed]

/-- A lookup for an unknown alias is refused with the names of the known ones. -/
theorem resolve_of_unknown (absent : provider.cached? aliasName resource = none)
    (unknown : provider.engines.get? aliasName = none) :
    (provider.resolve inspector aliasName resource hint).1.outcome =
      .error (.refused (.aliasUnknown aliasName provider.engines.sortedNames)) := by
  rw [resolve_of_not_cached absent, reflect, unknown]
  rfl

/-- A lookup that asks in vain tells the failure of the database. -/
theorem resolve_of_failing {catalog : Catalog} {failure : Failure}
    (absent : provider.cached? aliasName resource = none)
    (known : provider.engines.get? aliasName = some catalog)
    (failed : (inspector.tableOf catalog resource (provider.schemas.get? aliasName) hint).outcome =
      .error failure) :
    ∃ told, (provider.resolve inspector aliasName resource hint).1.outcome = .error told ∧
      Tells aliasName resource failure told := by
  refine ⟨_, ?_, tells_ofEngineFailure aliasName resource
    (Inspector.isOfDatabase_of_tableOf failed)⟩
  rw [resolve_of_not_cached absent, outcome_reflect_of_known known, failed]
  rfl

/-- A lookup reflects exactly if nothing is kept and asking the database gives the table. -/
theorem reflects_iff :
    provider.Reflects inspector aliasName resource hint table ↔
      provider.cached? aliasName resource = none ∧
        (provider.reflect inspector aliasName resource hint).outcome = .ok table := by
  constructor
  · rintro ⟨absent, catalog, known, told⟩
    rw [outcome_reflect_of_known known]
    exact ⟨absent, Outcome.mapError_eq_ok.mpr told⟩
  · rintro ⟨absent, reflected⟩
    refine ⟨absent, ?_⟩
    cases known : provider.engines.get? aliasName with
    | none =>
      rw [reflect, known] at reflected
      cases reflected
    | some catalog =>
      rw [outcome_reflect_of_known known] at reflected
      exact ⟨catalog, rfl, Outcome.mapError_eq_ok.mp reflected⟩

/-- A lookup answers with a table that it reflects or that is kept. -/
theorem toOption_resolve_eq_some_iff :
    (provider.resolve inspector aliasName resource hint).1.outcome.toOption = some table ↔
      provider.Reflects inspector aliasName resource hint table ∨
        provider.cached? aliasName resource = some table := by
  rw [reflects_iff]
  cases kept : provider.cached? aliasName resource with
  | some other => simp [resolve_of_cached kept, Except.toOption]
  | none =>
    rw [resolve_of_not_cached kept]
    cases (provider.reflect inspector aliasName resource hint).outcome <;> simp [Except.toOption]

/-- Behind a lookup the table that it answers with is kept, and nothing if it fails; what is kept
for other resources stays. -/
theorem cached?_resolve (provider : Provider Catalog) (other name : Text) (hint : Option Text)
    (aliasName resource : Text) :
    (provider.resolve inspector other name hint).2.cached? aliasName resource =
      if other = aliasName ∧ name = resource then
        (provider.resolve inspector aliasName resource hint).1.outcome.toOption
      else provider.cached? aliasName resource := by
  rw [resolve_snd]
  by_cases same : other = aliasName ∧ name = resource
  · obtain ⟨rfl, rfl⟩ := same
    rw [if_pos ⟨rfl, rfl⟩, outcome_resolve]
    cases kept : provider.cached? other name with
    | some table => exact kept
    | none =>
      cases declared : provider.tableFor inspector other name hint with
      | error failure => exact kept
      | ok table => simp [cached?, Except.toOption]
  · rw [if_neg same]
    have elsewhere : ((aliasName, resource) == (other, name)) = false := by
      rw [beq_eq_false_iff_ne]
      rintro ⟨⟩
      exact same ⟨rfl, rfl⟩
    split
    · simp [cached?, List.lookup_cons, elsewhere]
    · rfl

/-- A lookup that reflects answers with the table and keeps it. -/
theorem Reflects.resolve (reflects : provider.Reflects inspector aliasName resource hint table) :
    (provider.resolve inspector aliasName resource hint).1.outcome = .ok table ∧
      (provider.resolve inspector aliasName resource hint).2.cached? aliasName resource =
        some table := by
  obtain ⟨absent, reflected⟩ := reflects_iff.mp reflects
  constructor
  · rw [resolve_of_not_cached absent, reflected]
  · rw [cached?_resolve, if_pos ⟨rfl, rfl⟩]
    exact toOption_resolve_eq_some_iff.mpr (.inl reflects)

/-! ## One event -/

/-- A table is kept behind an event exactly if the event reflects the resource into it, or it was
kept before and is not evicted. -/
theorem cached?_afterEvent (provider : Provider Catalog) (event : Event Catalog) :
    (provider.afterEvent inspector event).cached? aliasName resource = some table ↔
      (∃ hint, event = .call (.resolve aliasName resource hint) ∧
          provider.Reflects inspector aliasName resource hint table) ∨
        provider.cached? aliasName resource = some table ∧ ¬event.Evicts aliasName resource := by
  cases event with
  | alter other change => simp [afterEvent, alter, cached?, Event.Evicts]
  | call call =>
    cases call with
    | evict other name =>
      rw [afterEvent, after, cached?_evict]
      by_cases evicted : other = aliasName ∧ (name = none ∨ name = some resource)
      · simp [evicted, Event.Evicts]
      · simp [evicted, Event.Evicts]
    | resolve other name hint =>
      rw [afterEvent, after, cached?_resolve]
      by_cases same : other = aliasName ∧ name = resource
      · obtain ⟨rfl, rfl⟩ := same
        rw [if_pos ⟨rfl, rfl⟩, toOption_resolve_eq_some_iff]
        simp [Event.Evicts]
      · have notThis (given : Option Text) : (Event.call (.resolve other name hint) :
            Event Catalog) ≠ .call (.resolve aliasName resource given) := by
          rintro ⟨⟩
          exact same ⟨rfl, rfl⟩
        simp [same, notThis, Event.Evicts]

/-- An event that does not concern a resource leaves its entry as it was. -/
theorem cached?_of_not_matches {event : Event Catalog}
    (other : ¬event.Matches aliasName resource) :
    (provider.afterEvent inspector event).cached? aliasName resource =
      provider.cached? aliasName resource := by
  apply Option.ext
  intro table
  rw [cached?_afterEvent]
  have notEvicted : ¬event.Evicts aliasName resource :=
    fun evicted ↦ other evicted.matches
  have noLookup (hint : Option Text) : event ≠ .call (.resolve aliasName resource hint) := by
    rintro rfl
    exact other ⟨rfl, rfl⟩
  simp [notEvicted, noLookup]

/-! ## Histories of events -/

/-- What is kept stays as long as it is not evicted. -/
theorem cached?_afterEvents_of_kept {events : List (Event Catalog)}
    (kept : provider.cached? aliasName resource = some table)
    (stays : ∀ event ∈ events, ¬event.Evicts aliasName resource) :
    (provider.afterEvents inspector events).cached? aliasName resource = some table := by
  induction events generalizing provider with
  | nil => exact kept
  | cons event events ih =>
    rw [List.forall_mem_cons] at stays
    exact ih (cached?_afterEvent provider event |>.mpr (.inr ⟨kept, stays.1⟩)) stays.2

theorem afterEvents_cons (provider : Provider Catalog) (event : Event Catalog)
    (later : List (Event Catalog)) :
    provider.afterEvents inspector (event :: later) =
      (provider.afterEvent inspector event).afterEvents inspector later := rfl

theorem afterEvents_append (provider : Provider Catalog) (earlier later : List (Event Catalog)) :
    provider.afterEvents inspector (earlier ++ later) =
      (provider.afterEvents inspector earlier).afterEvents inspector later :=
  List.foldl_append

/-- What is kept was kept from the start, or a lookup reflected it, and it was not evicted since. -/
theorem exists_reflects_of_cached {events : List (Event Catalog)}
    (kept : (provider.afterEvents inspector events).cached? aliasName resource = some table)
    (fresh : provider.cached? aliasName resource = none) :
    ∃ earlier hint later, events = earlier ++ .call (.resolve aliasName resource hint) :: later ∧
      (provider.afterEvents inspector earlier).Reflects inspector aliasName resource hint table ∧
        ∀ event ∈ later, ¬event.Evicts aliasName resource := by
  induction events using List.reverseRecOn with
  | nil => exact absurd (fresh.symm.trans kept) (by simp)
  | append_singleton events event ih =>
    rw [afterEvents_append] at kept
    obtain ⟨hint, rfl, reflects⟩ | ⟨before, stays⟩ :=
      (cached?_afterEvent (provider.afterEvents inspector events) event).mp kept
    · exact ⟨events, hint, [], rfl, reflects, by simp⟩
    · obtain ⟨earlier, hint, later, rfl, reflects, notEvicted⟩ := ih before
      refine ⟨earlier, hint, later ++ [event], by simp, reflects, ?_⟩
      rw [List.forall_mem_append]
      exact ⟨notEvicted, by simpa using stays⟩

section
variable (inspector : Inspector Catalog) (engines : OrderedMap Catalog) (schemas : OrderedMap Text)

/-- After a history a table is kept for a resource exactly if a lookup reflected the resource into
it and it was not evicted since. -/
theorem cached?_afterEvents_iff (events : List (Event Catalog)) :
    ((ofEngines engines schemas).afterEvents inspector events).cached? aliasName resource =
        some table ↔
      ∃ earlier hint later, events = earlier ++ .call (.resolve aliasName resource hint) :: later ∧
        ((ofEngines engines schemas).afterEvents inspector earlier).Reflects inspector
          aliasName resource hint table ∧
        ∀ event ∈ later, ¬event.Evicts aliasName resource := by
  constructor
  · intro kept
    exact exists_reflects_of_cached kept rfl
  · rintro ⟨earlier, hint, later, rfl, reflects, notEvicted⟩
    rw [afterEvents_append, afterEvents_cons]
    refine cached?_afterEvents_of_kept ?_ notEvicted
    exact (cached?_afterEvent _ _).mpr (.inl ⟨hint, rfl, reflects⟩)

/-- The metadata cache is its history.  After any history of lookups, evictions and changes of the
databases,

* a table is kept for a resource exactly if a lookup reflected the resource into that table and it
  was not evicted since;
* a lookup of a resource that is kept answers with what is kept, whatever the databases would tell
  and whatever the hint, makes no record and changes nothing;
* a lookup that reflects a resource into a table answers with the table and keeps it;
* a lookup of a resource that is not kept changes nothing if the alias is unknown, and its error
  names the alias;
* nor if the database fails: a missing table and a wrong configuration are told by errors that name
  the alias, and what is none of the library goes on as it is;
* an event changes nothing for the resources that it does not concern. -/
theorem cache_told_by_history (events : List (Event Catalog)) (aliasName resource : Text) :
    let provider := (ofEngines engines schemas).afterEvents inspector events
    (∀ table, provider.cached? aliasName resource = some table ↔
      ∃ earlier hint later, events = earlier ++ .call (.resolve aliasName resource hint) :: later ∧
        ((ofEngines engines schemas).afterEvents inspector earlier).Reflects inspector
          aliasName resource hint table ∧
        ∀ event ∈ later, ¬event.Evicts aliasName resource) ∧
      (∀ (other : Inspector Catalog) table hint,
        provider.cached? aliasName resource = some table →
          provider.resolve other aliasName resource hint = (pure table, provider)) ∧
      (∀ table hint, provider.Reflects inspector aliasName resource hint table →
        (provider.resolve inspector aliasName resource hint).1.outcome = .ok table ∧
          (provider.resolve inspector aliasName resource hint).2.cached? aliasName resource =
            some table) ∧
      (∀ hint, provider.cached? aliasName resource = none →
        provider.engines.get? aliasName = none →
          ∃ error, (provider.resolve inspector aliasName resource hint).1.outcome =
              .error (.refused error) ∧ error.NamesAlias aliasName ∧
            (provider.resolve inspector aliasName resource hint).2 = provider) ∧
      (∀ hint catalog failure, provider.cached? aliasName resource = none →
        provider.engines.get? aliasName = some catalog →
        (inspector.tableOf catalog resource (provider.schemas.get? aliasName) hint).outcome =
            .error failure →
          ∃ told, (provider.resolve inspector aliasName resource hint).1.outcome = .error told ∧
            Tells aliasName resource failure told ∧
            (∀ error, told = .refused error → error.NamesAlias aliasName) ∧
            (provider.resolve inspector aliasName resource hint).2 = provider) ∧
      ∀ event : Event Catalog, ¬event.Matches aliasName resource →
        (provider.afterEvent inspector event).cached? aliasName resource =
          provider.cached? aliasName resource := by
  intro provider
  refine ⟨?reflected, ?present, ?reflecting, ?unknown, ?failing, ?other⟩
  case reflected => exact fun table ↦ cached?_afterEvents_iff inspector engines schemas events
  case present => exact fun other table hint kept ↦ resolve_of_cached kept other hint
  case reflecting => exact fun table hint reflects ↦ reflects.resolve
  case unknown =>
    intro hint absent unknown
    have refused : (provider.resolve inspector aliasName resource hint).1.outcome = .error _ :=
      resolve_of_unknown absent unknown
    exact ⟨_, refused, Error.namesAlias_aliasUnknown aliasName _, resolve_snd_of_error refused⟩
  case failing =>
    intro hint catalog failure absent known failed
    obtain ⟨told, answered, tells⟩ := resolve_of_failing absent known failed
    refine ⟨told, answered, tells, ?_, resolve_snd_of_error answered⟩
    rintro error rfl
    exact tells.namesAlias
  case other => exact fun event other ↦ cached?_of_not_matches other

end

/-- A database that fails in a way of its own. -/
def unreadable : OrderedMap TrialCatalog :=
  .ofList [("app", .error ⟨"OperationalError", "unknown database nope"⟩)]

/-- A lookup whose reflection fails need not be told with an error of the library that names the
alias. -/
theorem resolve_tells_foreign :
    let run := ((ofEngines unreadable .empty).resolve trialInspector "app" "users" none).1
    run.outcome = .error (.foreign ⟨"OperationalError", "unknown database nope"⟩) ∧
      ¬∃ error : Error, run.outcome = .error (.refused error) ∧ error.NamesAlias "app" := by
  intro run
  have failed : run.outcome = .error (.foreign ⟨"OperationalError", "unknown database nope"⟩) := rfl
  refine ⟨failed, ?_⟩
  rintro ⟨error, refused, -⟩
  rw [failed] at refused
  cases refused

/-- A table that is dropped stays known until it is evicted, also with its whole alias. -/
example :
    let provider := (ofEngines keyless .empty).afterEvents trialInspector
      [.call (.resolve "app" "audit_log" (some "entry")), .alter "app" fun _ ↦ .ok []]
    (provider.resolve trialInspector "app" "audit_log" none).1.outcome.toOption.map
        Table.primaryKey = some "entry" ∧
      ((provider.evict "app" none).resolve trialInspector
        "app" "audit_log" none).1.outcome.toOption = none :=
  ⟨rfl, rfl⟩

end Provider

end Metadata

end DialectSql
