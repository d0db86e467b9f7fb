import DialectSql.Proofs.Compiler.Runs
import DialectSql.Proofs.Intake.ReadBack
import DialectSql.Proofs.Text.LowerCase
import DialectSql.Settings

/-!
# Aliases in a Configuration

The dialects of aliases are brought into normal form when a configuration is read and again when
its aliases are used.  Normal forms are not changed by that, neither name by name nor where aliases
become equal, so the aliases of a configuration are those that come of the entries it was given.
In both, an alias uses the dialect of the last entry whose alias is the same without blanks.
-/

namespace DialectSql

/-! ## Maps out of entries -/

namespace OrderedMap

variable {α : Type}

theorem ofList_concat (entries : List (Text × α)) (entry : Text × α) :
    ofList (entries ++ [entry]) = (ofList entries).insert entry.1 entry.2 := by
  rw [ofList, List.foldl_append]
  rfl

/-- A map has no other entries than those it is made of. -/
theorem mem_of_mem_ofList {entries : List (Text × α)} {entry : Text × α}
    (mem : entry ∈ (ofList entries).entries) : entry ∈ entries := by
  induction entries using List.reverseRecOn with
  | nil => exact mem
  | append_singleton entries last ih =>
    rw [ofList_concat] at mem
    rcases mem_setEntry mem with isLast | former
    · simp [isLast]
    · exact List.mem_append_left _ (ih former)

/-- Of several entries of one name the last one gives the value. -/
theorem get?_ofList (entries : List (Text × α)) (name : Text) :
    (ofList entries).get? name = entries.reverse.lookup name := by
  induction entries using List.reverseRecOn with
  | nil => rfl
  | append_singleton entries last ih =>
    rw [ofList_concat, get?_insert, ih, List.reverse_append, List.reverse_singleton,
      List.singleton_append, List.lookup_cons]
    by_cases here : name = last.1
    · rw [if_pos here, here, beq_self_eq_true]
    · rw [if_neg here, beq_eq_false_iff_ne.mpr here]

end OrderedMap

/-! ## Normal forms -/

namespace Sql.Aliases

/-- An alias without blanks around it and a dialect name without blanks and in lower case. -/
def normalEntry (entry : Text × Text) : Text × Text :=
  (Text.strip entry.1, Text.lower (Text.strip entry.2))

theorem normalEntry_normalEntry (entry : Text × Text) :
    normalEntry (normalEntry entry) = normalEntry entry :=
  Prod.ext (Text.trim_trim Text.isBlank entry.1) (Text.lower_strip_lower_strip entry.2)

/-- Entries in normal form stay as they are and where they are. -/
theorem normalise_normalise (entries : List (Text × Text)) :
    normalise (normalise entries).entries = normalise entries := by
  have fixed : (normalise entries).entries.map normalEntry = (normalise entries).entries := by
    refine (List.map_congr_left fun entry mem ↦ ?_).trans (List.map_id _)
    obtain ⟨given, -, rfl⟩ := List.mem_map.mp (OrderedMap.mem_of_mem_ofList mem)
    exact normalEntry_normalEntry given
  calc normalise (normalise entries).entries
      = .ofList ((normalise entries).entries.map normalEntry) := rfl
    _ = .ofList (normalise entries).entries := congrArg OrderedMap.ofList fixed
    _ = normalise entries := OrderedMap.ofList_entries _

/-- The last entry of its alias, blanks around aliases apart. -/
def IsLastNamed (entries : List (Text × Text)) (entry : Text × Text) : Prop :=
  ∃ front rest, entries = front ++ entry :: rest ∧
    ∀ later ∈ rest, Text.strip later.1 ≠ Text.strip entry.1

theorem find?_ofEntries (entries : List (Text × Text)) (wanted : Text) :
    (ofEntries entries).find? (some wanted) = entries.reverse.findSome? fun entry ↦
      if wanted == Text.strip entry.1 then some (Text.lower (Text.strip entry.2)) else none := by
  calc (ofEntries entries).find? (some wanted)
      = (OrderedMap.ofList (entries.map normalEntry)).get? wanted := rfl
    _ = (entries.reverse.map normalEntry).lookup wanted := by
      rw [OrderedMap.get?_ofList, List.map_reverse]
    _ = _ := by
      rw [List.lookup_eq_findSome?, List.findSome?_map]
      rfl

/-- An alias uses the dialect that its last entry names. -/
theorem find?_eq_some {entries : List (Text × Text)} {aliasName : Option Text} {name : Text} :
    (ofEntries entries).find? aliasName = some name ↔
      ∃ entry, IsLastNamed entries entry ∧ aliasName = some (Text.strip entry.1) ∧
        name = Text.lower (Text.strip entry.2) := by
  cases aliasName with
  | none => simp [find?]
  | some wanted =>
    rw [find?_ofEntries, List.findSome?_eq_some_iff]
    constructor
    · rintro ⟨later, entry, former, shape, found, passed⟩
      obtain ⟨same, isName⟩ := Option.ite_none_right_eq_some.mp found
      obtain rfl := beq_iff_eq.mp same
      obtain rfl := Option.some.inj isName
      refine ⟨entry, ⟨former.reverse, later.reverse, ?_, fun other mem sameAlias ↦ ?_⟩, rfl, rfl⟩
      · simpa using congrArg List.reverse shape
      · have skipped := passed other (List.mem_reverse.mp mem)
        simp [sameAlias] at skipped
    · rintro ⟨entry, ⟨front, rest, rfl, apart⟩, same, rfl⟩
      obtain rfl := Option.some.inj same
      refine ⟨rest.reverse, entry, front.reverse, by simp, by simp, fun later mem ↦ ?_⟩
      exact if_neg (by simpa using Ne.symm (apart later (List.mem_reverse.mp mem)))

theorem find?_eq_none {entries : List (Text × Text)} {aliasName : Option Text} :
    (ofEntries entries).find? aliasName = none ↔
      ∀ entry ∈ entries, aliasName ≠ some (Text.strip entry.1) := by
  cases aliasName with
  | none => simp [find?]
  | some wanted => simp [find?_ofEntries, List.findSome?_eq_none_iff]

theorem outcome_resolve (aliases : Aliases) (catalog : Catalog) (aliasName : Option Text) :
    (aliases.resolve catalog aliasName).outcome =
      match aliases.find? aliasName with
      | some name => .ok name
      | none => .error (.dialectUnknown (some "<unconfigured>") catalog.names aliasName) := by
  unfold resolve
  cases aliases.find? aliasName <;> rfl

end Sql.Aliases

/-! ## Reading a configuration -/

namespace Settings

open Sql

/-- No variable of an environment gives a setting. -/
def Unset (stem : Text) (environment : OrderedMap Text) : Prop :=
  ∀ entry ∈ environment.entries, ¬stem <+: entry.1

theorem nestedEntries_eq_nil {environment : OrderedMap Text} {stem : Text}
    (unset : Unset stem environment) (depth : Nat) (setting : Text) :
    nestedEntries environment depth (stem ++ setting) = [] := by
  have passed (entries : List (Text × Text)) (unset : ∀ entry ∈ entries, ¬stem <+: entry.1) :
      entries.foldl (fun members entry ↦
        if (stem ++ setting ++ ("__" : Text)).isPrefixOf entry.1 then
          let path := Text.splitDoubleUnderscores
            (entry.1.drop (stem ++ setting ++ ("__" : Text)).length)
          setPath members path (entryValue depth path entry.2)
        else members) [] = [] := by
    induction entries with
    | nil => rfl
    | cons entry entries ih =>
      -- A nested variable of the setting would start with the stem.
      have here : ¬(stem ++ setting ++ ("__" : Text)).isPrefixOf entry.1 = true := by
        intro opened
        have whole := List.isPrefixOf_iff_prefix.mp opened
        rw [List.append_assoc] at whole
        exact unset entry (by simp) ((List.prefix_append _ _).trans whole)
      rw [List.foldl_cons, if_neg here]
      exact ih fun other mem ↦ unset other (by simp [mem])
  exact passed environment.entries unset

theorem get?_eq_none {environment : OrderedMap Text} {stem : Text}
    (unset : Unset stem environment) (setting : Text) :
    environment.get? (stem ++ setting) = none := by
  rw [OrderedMap.get?, List.lookup_eq_none_iff]
  intro entry mem
  rw [bne_iff_ne]
  intro same
  exact unset entry mem (same ▸ List.prefix_append stem setting)

/-- Without a variable for it a setting has no value. -/
theorem settingValue_eq_none {environment : OrderedMap Text} {stem : Text}
    (unset : Unset stem environment) (setting : Text) (form : VariableForm) :
    settingValue environment stem setting form = .ok none := by
  cases form with
  | plain => rw [settingValue, get?_eq_none unset, Option.map_none]
  | map depth =>
    rw [settingValue, mapVariable]
    simp only [get?_eq_none unset, nestedEntries_eq_nil unset]
    rfl

theorem ofVariables_eq_nil {environment : OrderedMap Text} {stem : Text}
    (unset : Unset stem environment) : ofVariables environment stem = .ok [] := by
  unfold ofVariables
  simp only [settingValue_eq_none unset]
  rfl

theorem dialectsOfJson_rowToJson (dialects : OrderedMap Text) :
    dialectsOfJson (rowToJson dialects) = .valid (Aliases.normalise dialects.entries) := by
  rw [dialectsOfJson, map_rowToJson]
  rfl

theorem ofMembers_dialects (dialects : OrderedMap Text) :
    ofMembers [("dialects", rowToJson dialects)] =
      .valid { unconfigured with dialects := Aliases.normalise dialects.entries } := by
  have given : Intake.fieldOr [("dialects", rowToJson dialects)] "dialects" .empty dialectsOfJson =
      .valid (Aliases.normalise dialects.entries) := by
    rw [Intake.fieldOr, List.lookup_cons_self]
    exact congrArg (Intake.Checked.under _) (dialectsOfJson_rowToJson dialects)
  have absent {α : Type} (name : Text) (value : α) (read : Json → Intake.Checked α)
      (other : name ≠ "dialects") :
      Intake.fieldOr [("dialects", rowToJson dialects)] name value read = .valid value := by
    rw [Intake.fieldOr, List.lookup_cons, beq_eq_false_iff_ne.mpr other]
    rfl
  rw [ofMembers, given, absent "page_size" _ _ (by decide), absent "page_size_max" _ _ (by decide),
    absent "acl" _ _ (by decide), absent "acl_rules" _ _ (by decide),
    absent "strict_finder_arguments" _ _ (by decide)]
  rfl

theorem overlay_object (name : Text) (members : Intake.Members) :
    overlay [] [(name, .obj members)] = [(name, .obj members)] := by
  simp [overlay, overlayValue, setEntry]

/-- A configuration that is given nothing but the dialects of aliases has them in normal form. -/
theorem read_dialects {stem : Text} {environment : List (Text × Text)}
    (unset : ∀ entry ∈ environment, ¬Text.lower stem <+: Text.lower entry.1)
    (dialects : OrderedMap Text) :
    read stem environment [("dialects", rowToJson dialects)] =
      .ok { unconfigured with dialects := Aliases.normalise dialects.entries } := by
  have clear : Unset (Text.lower stem)
      (.ofList (environment.map fun entry ↦ (Text.lower entry.1, entry.2))) := by
    intro entry mem
    obtain ⟨given, isGiven, rfl⟩ := List.mem_map.mp (OrderedMap.mem_of_mem_ofList mem)
    exact unset given isGiven
  have keywords (data : Json) :
      ofKeywords [("dialects", data)] = [(("dialects" : Text), data)] := by
    have lower : Text.lower ("dialects" : Text) = "dialects" := by decide
    simp only [ofKeywords, List.foldl_cons, List.foldl_nil, lower]
    rfl
  rw [read]
  simp only [ofVariables_eq_nil clear]
  change (ofMembers (overlay [] _)).result = _
  rw [keywords, rowToJson, overlay_object]
  exact congrArg Intake.Checked.result (ofMembers_dialects dialects)

/-- A configuration is given the dialects of aliases, and no variable of the environment is meant
for it.  Then its aliases resolve as they do from the entries themselves, log included, whatever the
entries and the alias are: to the dialect that the last entry of the alias names, without blanks and
in lower case, or to one and the same error where no entry is of the alias.  An alias that resolves
has no blanks around it. -/
theorem resolve_configured (stem : Text) {environment : List (Text × Text)}
    (unset : ∀ entry ∈ environment, ¬Text.lower stem <+: Text.lower entry.1)
    (dialects : OrderedMap Text) :
    ∃ settings, read stem environment [("dialects", rowToJson dialects)] = .ok settings ∧
      ∀ catalog aliasName,
        settings.aliases.resolve catalog aliasName =
          (Aliases.ofEntries dialects.entries).resolve catalog aliasName ∧
        (∀ name, (settings.aliases.resolve catalog aliasName).outcome = .ok name ↔
          ∃ entry, Aliases.IsLastNamed dialects.entries entry ∧
            aliasName = some (Text.strip entry.1) ∧ name = Text.lower (Text.strip entry.2)) ∧
        (∀ error, (settings.aliases.resolve catalog aliasName).outcome = .error error ↔
          (∀ entry ∈ dialects.entries, aliasName ≠ some (Text.strip entry.1)) ∧
            error = .dialectUnknown (some "<unconfigured>") catalog.names aliasName) ∧
        ∀ name, (settings.aliases.resolve catalog aliasName).outcome = .ok name →
          aliasName.map Text.strip = aliasName := by
  refine ⟨_, read_dialects unset dialects, fun catalog aliasName ↦ ?_⟩
  have same : aliases { unconfigured with dialects := Aliases.normalise dialects.entries } =
      Aliases.ofEntries dialects.entries :=
    congrArg Aliases.mk (Aliases.normalise_normalise dialects.entries)
  rw [same]
  have resolved (name : Text) :
      ((Aliases.ofEntries dialects.entries).resolve catalog aliasName).outcome = .ok name ↔
        ∃ entry, Aliases.IsLastNamed dialects.entries entry ∧
          aliasName = some (Text.strip entry.1) ∧ name = Text.lower (Text.strip entry.2) := by
    rw [Aliases.outcome_resolve, ← Aliases.find?_eq_some]
    cases (Aliases.ofEntries dialects.entries).find? aliasName <;> simp
  refine ⟨rfl, resolved, fun error ↦ ?_, fun name found ↦ ?_⟩
  · rw [Aliases.outcome_resolve, ← Aliases.find?_eq_none]
    cases (Aliases.ofEntries dialects.entries).find? aliasName <;> simp [eq_comm]
  · obtain ⟨entry, -, rfl, -⟩ := (resolved name).mp found
    exact congrArg some (Text.trim_trim Text.isBlank entry.1)

/-- Two entries of one alias, and a dialect name whose last letter depends on its place. -/
def crowdedAliases : OrderedMap Text :=
  .ofList [(" demo", "DERBY"), ("demo\t", " ΛΟΓΟΣ ")]

/-- The entry behind decides, and its sigma becomes a final one. -/
theorem resolve_configured_crowded :
    (∀ entry ∈ ([("PATH", "/bin")] : List (Text × Text)),
        ¬Text.lower "app_" <+: Text.lower entry.1) ∧
      ∃ settings, read "app_" [("PATH", "/bin")] [("dialects", rowToJson crowdedAliases)] =
          .ok settings ∧
        (settings.aliases.resolve .standard (some "demo")).outcome = .ok "λογος" := by
  have unset : ∀ entry ∈ ([("PATH", "/bin")] : List (Text × Text)),
      ¬Text.lower "app_" <+: Text.lower entry.1 := by
    decide
  obtain ⟨settings, given, resolves⟩ := resolve_configured "app_" unset crowdedAliases
  refine ⟨unset, settings, given, ((resolves _ _).2.1 _).mpr ⟨("demo\t", " ΛΟΓΟΣ "), ?_, ?_, ?_⟩⟩
  · exact ⟨[(" demo", "DERBY")], [], by decide, by simp⟩
  · decide
  · decide +kernel

end Settings

end DialectSql
