import DialectSql.Policy.Access
import DialectSql.Proofs.Trace

/-!
# Decisions About Access

What a rule allows, said without collecting: the first of its words that decides for all operations
at once settles it, and without such a word the operations that are named are allowed.  The rule
that governs a resource is its own one, else the one of its alias.

The main statement is that an operation is allowed exactly if the governing rule allows it.  So the
parts of a rule that names operations only may be listed in any order and more than once, a word
that no rule knows changes nothing, and neither does a rule for another alias or resource.
-/

namespace DialectSql

namespace Text

/-- Cutting a text at a separator is the cut of lists. -/
theorem splitAt_eq_splitOn (separator : CodePoint) (text : Text) :
    splitAt separator text = text.splitOn separator := by
  induction text with
  | nil => rfl
  | cons point rest ih =>
    rw [List.splitOn] at ih ⊢
    rw [splitAt, List.splitOnP_cons_eq_if_modifyHead, ih]
    by_cases cut : point = separator
    · rw [if_pos cut, if_pos (beq_iff_eq.mpr cut)]
    · rw [if_neg cut, if_neg (by simpa using cut)]
      cases parts : rest.splitOnP (· == separator) with
      | nil => exact absurd parts (List.splitOnP_ne_nil _ rest)
      | cons part parts => rfl

/-- A blank text is not cut at a separator that is no blank. -/
theorem splitOn_blank {separator : CodePoint} {text : Text} (visible : isBlank separator = false)
    (blank : isBlankText text = true) : text.splitOn separator = [text] := by
  apply List.splitOn_eq_singleton
  intro mem
  rw [List.all_eq_true.mp blank separator mem] at visible
  cases visible

end Text

namespace Operation

theorem mem_all (operation : Operation) : operation ∈ all := by
  cases operation <;> decide

theorem name_injective {operation other : Operation}
    (same : (operation.name : Text) = other.name) : operation = other := by
  have apart : ∀ operation ∈ all, ∀ other ∈ all,
      (operation.name : Text) = other.name → operation = other := by decide
  exact apart operation operation.mem_all other other.mem_all same

theorem ofName?_name (operation : Operation) : ofName? operation.name = some operation := by
  cases operation <;> decide

/-- A text that names no operation is told by its letters. -/
theorem ofName?_eq_none {text : Text} :
    ofName? text = none ↔ ∀ operation : Operation, (operation.name : Text) ≠ text := by
  rw [ofName?, List.find?_eq_none]
  exact ⟨fun absent operation ↦ by simpa using absent operation operation.mem_all,
    fun apart operation _ ↦ by simpa using apart operation⟩

/-- A text names at most one operation. -/
theorem ofName?_cases (text : Text) :
    (∃ operation : Operation, text = operation.name ∧ ofName? text = some operation) ∨
      ofName? text = none ∧ ∀ operation : Operation, (operation.name : Text) ≠ text := by
  by_cases absent : ofName? text = none
  · exact .inr ⟨absent, ofName?_eq_none.mp absent⟩
  · obtain ⟨operation, rfl⟩ := not_forall_not.mp (mt ofName?_eq_none.mpr absent)
    exact .inl ⟨operation, rfl, operation.ofName?_name⟩

end Operation

/-! ## Words of a rule -/

/-- The word that a part of a rule stands for. -/
def ruleWord (part : Text) : Text :=
  Text.lower (Text.strip part)

/-- The first word that decides for all operations at once. -/
def decisive? (words : List Text) : Option Text :=
  words.find? fun word ↦ word = "all" ∨ word = "none"

/-- What words allow: everything or nothing if the first decisive one says so, else what they
name. -/
def WordsAllow (words : List Text) (operation : Operation) : Prop :=
  decisive? words = some "all" ∨ decisive? words = none ∧ (operation.name : Text) ∈ words

/-- What a rule allows; a missing or a blank one allows everything. -/
def RuleAllows (rule : Option Text) (operation : Operation) : Prop :=
  ∀ text ∈ rule, Text.isBlankText text = false →
    WordsAllow ((text.splitOn (.char ',')).map ruleWord) operation

theorem decisive?_cons {word : Text} {words : List Text} (notAll : word ≠ "all")
    (notNone : word ≠ "none") : decisive? (word :: words) = decisive? words := by
  rw [decisive?, List.find?_cons_of_neg (by simp [notAll, notNone]), decisive?]

/-- Collecting finds what the words allow, and keeps what was found before unless a word decides. -/
theorem outcome_collect {ε : Type} (rule : Text) (found : List Operation) (words : List Text) :
    ∃ collected, (collect rule found words : Traced ε (List Operation)).outcome = .ok collected ∧
      ∀ operation, operation ∈ collected ↔
        WordsAllow words operation ∨ decisive? words = none ∧ operation ∈ found := by
  induction words generalizing found with
  | nil => exact ⟨found, rfl, by simp [WordsAllow, decisive?]⟩
  | cons word words ih =>
    rw [collect]
    by_cases isAll : word = "all"
    · refine ⟨Operation.all, by rw [if_pos isAll]; rfl, fun operation ↦ ?_⟩
      simp [operation.mem_all, WordsAllow, decisive?, isAll]
    by_cases isNone : word = "none"
    · refine ⟨[], by rw [if_neg isAll, if_pos isNone]; rfl, fun operation ↦ ?_⟩
      have apart : ("none" : Text) ≠ "all" := by decide
      simp [WordsAllow, decisive?, isNone, apart]
    rw [if_neg isAll, if_neg isNone]
    rcases Operation.ofName?_cases word with ⟨named, rfl, isNamed⟩ | ⟨unknown, apart⟩
    · obtain ⟨collected, outcome, mem⟩ := ih (named :: found)
      refine ⟨collected, by rw [isNamed]; exact outcome, fun operation ↦ ?_⟩
      have name : (operation.name : Text) = named.name ↔ operation = named :=
        ⟨Operation.name_injective, fun same ↦ same ▸ rfl⟩
      rw [mem operation, WordsAllow, WordsAllow, decisive?_cons isAll isNone, List.mem_cons,
        List.mem_cons, name]
      grind
    · obtain ⟨collected, outcome, mem⟩ := ih found
      refine ⟨collected, by rw [unknown, Traced.outcome_bind]; exact outcome, fun operation ↦ ?_⟩
      rw [mem operation, WordsAllow, WordsAllow, decisive?_cons isAll isNone, List.mem_cons,
        or_iff_right (apart operation)]

/-- A rule that is not blank allows what its words allow. -/
theorem ruleAllows_visible {rule : Text} (visible : Text.isBlankText rule = false)
    (operation : Operation) :
    RuleAllows (some rule) operation ↔
      WordsAllow ((rule.splitOn (.char ',')).map ruleWord) operation := by
  simp [RuleAllows, visible]

/-- The operations that a rule allows. -/
theorem outcome_allowedBy {ε : Type} (rule : Option Text) :
    ∃ operations, (allowedBy rule : Traced ε (List Operation)).outcome = .ok operations ∧
      ∀ operation, operation ∈ operations ↔ RuleAllows rule operation := by
  unfold allowedBy
  cases rule with
  | none => exact ⟨Operation.all, rfl, fun operation ↦ by simp [operation.mem_all, RuleAllows]⟩
  | some text =>
    by_cases blank : Text.isBlankText text = true
    · refine ⟨Operation.all, by simp only [if_pos blank]; rfl, fun operation ↦ ?_⟩
      simp [operation.mem_all, RuleAllows, blank]
    · obtain ⟨collected, outcome, mem⟩ := outcome_collect (ε := ε) text [] (ruleWords text)
      refine ⟨Operation.all.filter collected.contains, ?_, fun operation ↦ ?_⟩
      · simp only [if_neg blank, Traced.outcome_bind, outcome]
        rfl
      · have words : (text.splitOn (.char ',')).map ruleWord = ruleWords text := by
          rw [ruleWords, Text.splitAt_eq_splitOn]
          rfl
        simp [operation.mem_all, RuleAllows, mem, blank, words]

/-! ## Changes that no decision depends on -/

/-- A rule whose parts are those of another one in any order, each at least as often. -/
def Rearranges (rule changed : Text) : Prop :=
  (rule.splitOn (.char ',')).Subperm (changed.splitOn (.char ',')) ∧
    changed.splitOn (.char ',') ⊆ rule.splitOn (.char ',')

/-- A word that no rule knows. -/
def IsUnknownWord (word : Text) : Prop :=
  word ≠ "all" ∧ word ≠ "none" ∧ ∀ operation : Operation, (operation.name : Text) ≠ word

/-- A rule with one more part than another one, which stands for no known word. -/
def AddsUnknown (rule changed : Text) : Prop :=
  ∃ front part rest, rule.splitOn (.char ',') = front ++ rest ∧
    changed.splitOn (.char ',') = front ++ part :: rest ∧ IsUnknownWord (ruleWord part)

/-- A rule with a single part only where another one has that part too is as visible as that one. -/
theorem visible_of_parts {rule changed : Text} (visible : Text.isBlankText rule = false)
    (single : ∀ part, changed.splitOn (.char ',') = [part] → rule.splitOn (.char ',') = [part]) :
    Text.isBlankText changed = false := by
  rw [← Bool.not_eq_true]
  intro blank
  have parts := single changed (Text.splitOn_blank (by decide) blank)
  have same : rule = changed := by
    have whole := @List.intercalate_splitOn _ rule _ _ (.char ',')
    rw [← whole, parts]
    simp
  rw [same, blank] at visible
  cases visible

theorem Rearranges.visible {rule changed : Text} (rearranges : Rearranges rule changed)
    (visible : Text.isBlankText rule = false) : Text.isBlankText changed = false := by
  obtain ⟨atLeast, -⟩ := rearranges
  apply visible_of_parts visible
  intro part single
  rw [single] at atLeast
  cases parts : rule.splitOn (.char ',') with
  | nil => exact absurd parts (List.splitOn_ne_nil _ rule)
  | cons first others =>
    rw [parts] at atLeast
    obtain rfl : others = [] := List.eq_nil_of_length_eq_zero (by simpa using atLeast.length_le)
    rw [List.mem_singleton.mp (atLeast.subset List.mem_cons_self)]

theorem AddsUnknown.visible {rule changed : Text} (adds : AddsUnknown rule changed)
    (visible : Text.isBlankText rule = false) : Text.isBlankText changed = false := by
  obtain ⟨front, added, rest, parts, changedParts, -⟩ := adds
  apply visible_of_parts visible
  intro part single
  -- The part that was added would be the only one.
  rw [changedParts] at single
  have alone := congrArg List.length single
  simp only [List.length_append, List.length_cons, List.length_nil] at alone
  have noFront : front = [] := List.eq_nil_of_length_eq_zero (by omega)
  have noRest : rest = [] := List.eq_nil_of_length_eq_zero (by omega)
  rw [noFront, noRest] at parts
  exact absurd parts (List.splitOn_ne_nil _ rule)

theorem decisive?_eq_none {words : List Text} :
    decisive? words = none ↔ ∀ word ∈ words, word ≠ "all" ∧ word ≠ "none" := by
  simp [decisive?]

/-- Where no word decides, it only matters which words there are. -/
theorem wordsAllow_congr {words others : List Text} (undecided : decisive? words = none)
    (same : ∀ word, word ∈ words ↔ word ∈ others) (operation : Operation) :
    WordsAllow words operation ↔ WordsAllow others operation := by
  have alsoUndecided : decisive? others = none := by
    rw [decisive?_eq_none] at undecided ⊢
    exact fun word mem ↦ undecided word ((same word).mpr mem)
  rw [WordsAllow, WordsAllow, undecided, alsoUndecided, same]

/-- A word that no rule knows changes nothing. -/
theorem wordsAllow_insert {word : Text} (unknown : IsUnknownWord word) (front rest : List Text)
    (operation : Operation) :
    WordsAllow (front ++ word :: rest) operation ↔ WordsAllow (front ++ rest) operation := by
  obtain ⟨notAll, notNone, unnamed⟩ := unknown
  have decides : decisive? (front ++ word :: rest) = decisive? (front ++ rest) := by
    simp [decisive?, List.find?_append, notAll, notNone]
  rw [WordsAllow, WordsAllow, decides, List.mem_append, List.mem_append, List.mem_cons,
    or_iff_right (unnamed operation)]

theorem Rearranges.ruleAllows {rule changed : Text} (rearranges : Rearranges rule changed)
    (visible : Text.isBlankText rule = false)
    (undecided : decisive? ((rule.splitOn (.char ',')).map ruleWord) = none)
    (operation : Operation) :
    RuleAllows (some changed) operation ↔ RuleAllows (some rule) operation := by
  rw [ruleAllows_visible visible, ruleAllows_visible (rearranges.visible visible)]
  refine (wordsAllow_congr undecided (fun word ↦ ⟨fun mem ↦ ?_, fun mem ↦ ?_⟩) operation).symm
  · exact List.map_subset _ rearranges.1.subset mem
  · exact List.map_subset _ rearranges.2 mem

theorem AddsUnknown.ruleAllows {rule changed : Text} (adds : AddsUnknown rule changed)
    (visible : Text.isBlankText rule = false) (operation : Operation) :
    RuleAllows (some changed) operation ↔ RuleAllows (some rule) operation := by
  rw [ruleAllows_visible visible, ruleAllows_visible (adds.visible visible)]
  obtain ⟨front, part, rest, parts, changedParts, unknown⟩ := adds
  rw [parts, changedParts, List.map_append, List.map_append, List.map_cons]
  exact wordsAllow_insert unknown _ _ operation

/-! ## Policies -/

namespace AccessPolicy

/-- The rule that governs a resource of an alias, or the alias as a whole: the entry for the
resource if there is one, whatever it says, and else the entry for the alias.  A null entry is
none. -/
inductive Governs (policy : AccessPolicy) (aliasName : Text) : Option Text → Option Text → Prop
  | own {resource rule : Text} {rules : OrderedMap (Option Text)}
      (ofAlias : policy.resources.get? aliasName = some rules)
      (entry : rules.get? resource = some (some rule)) :
    Governs policy aliasName (some resource) (some rule)
  | shared {resource : Option Text}
      (noEntry : ∀ name ∈ resource, ∀ rules, policy.resources.get? aliasName = some rules →
        ∀ rule, rules.get? name ≠ some (some rule)) :
    Governs policy aliasName resource (policy.aliases.get? aliasName).join

theorem resourceRule_eq_join (policy : AccessPolicy) (aliasName name : Text) :
    policy.resourceRule aliasName (some name) =
      ((policy.resources.get? aliasName).bind (·.get? name)).join := by
  cases ofAlias : policy.resources.get? aliasName <;> simp [resourceRule, ofAlias, Option.join]

theorem resourceRule_eq_some {policy : AccessPolicy} {aliasName rule : Text}
    {resource : Option Text} :
    policy.resourceRule aliasName resource = some rule ↔
      ∃ name ∈ resource, ∃ rules, policy.resources.get? aliasName = some rules ∧
        rules.get? name = some (some rule) := by
  cases resource with
  | none => simp [resourceRule]
  | some name => simp [resourceRule_eq_join, Option.join_eq_some_iff, Option.bind_eq_some_iff]

theorem governs_iff {policy : AccessPolicy} {aliasName : Text} {resource rule : Option Text} :
    policy.Governs aliasName resource rule ↔ policy.ruleFor aliasName resource = rule := by
  constructor
  · rintro (⟨ofAlias, entry⟩ | noEntry)
    · rw [ruleFor, resourceRule_eq_some.mpr ⟨_, rfl, _, ofAlias, entry⟩]
    · have noOwn : policy.resourceRule aliasName resource = none := by
        rw [Option.eq_none_iff_forall_ne_some]
        intro rule own
        obtain ⟨name, isName, rules, ofAlias, entry⟩ := resourceRule_eq_some.mp own
        exact noEntry name isName rules ofAlias rule entry
      rw [ruleFor, noOwn]
  · rintro rfl
    cases own : policy.resourceRule aliasName resource with
    | some rule =>
      obtain ⟨name, rfl, rules, ofAlias, entry⟩ := resourceRule_eq_some.mp own
      rw [ruleFor, own]
      exact .own ofAlias entry
    | none =>
      rw [ruleFor, own]
      refine .shared fun name isName rules ofAlias rule entry ↦ ?_
      rw [resourceRule_eq_some.mpr ⟨name, isName, rules, ofAlias, entry⟩] at own
      cases own

/-- Whether an operation is allowed. -/
theorem outcome_isAllowed (policy : AccessPolicy) (aliasName : Text) (resource : Option Text)
    (operation : Operation) {name : Text} (named : Text.lower name = operation.name) :
    ∃ decision, (policy.isAllowed aliasName resource name).outcome = .ok decision ∧
      (decision = true ↔ RuleAllows (policy.ruleFor aliasName resource) operation) := by
  obtain ⟨operations, outcome, mem⟩ :=
    outcome_allowedBy (ε := Failure) (policy.ruleFor aliasName resource)
  refine ⟨operations.contains operation, ?_, ?_⟩
  · rw [isAllowed, named, operation.ofName?_name]
    simp only [allowed, Traced.outcome_bind, outcome]
    rfl
  · rw [List.contains_iff_mem, mem operation]

/-- Two policies have the same entries for an alias and one of its resources. -/
def AgreeAt (left right : AccessPolicy) (aliasName : Text) (resource : Option Text) : Prop :=
  left.aliases.get? aliasName = right.aliases.get? aliasName ∧
    ∀ name ∈ resource, (left.resources.get? aliasName).bind (·.get? name) =
      (right.resources.get? aliasName).bind (·.get? name)

theorem AgreeAt.ruleFor {left right : AccessPolicy} {aliasName : Text} {resource : Option Text}
    (agree : left.AgreeAt right aliasName resource) :
    left.ruleFor aliasName resource = right.ruleFor aliasName resource := by
  obtain ⟨shared, own⟩ := agree
  have sameOwn : left.resourceRule aliasName resource = right.resourceRule aliasName resource := by
    cases resource with
    | none => rfl
    | some name =>
      rw [resourceRule_eq_join, resourceRule_eq_join, own name rfl]
  rw [AccessPolicy.ruleFor, AccessPolicy.ruleFor, sameOwn, shared]

/-- An operation is refused as unknown exactly if its name, in lower case, is that of no operation.
Else it is allowed exactly if the rule that governs the resource allows it.  Rearranging a rule
whose words decide nothing for all operations, adding a word that no rule knows, and entries for
another alias or resource change no decision. -/
theorem isAllowed_iff_ruleAllows (policy other : AccessPolicy) (aliasName : Text)
    (resource : Option Text) (name : Text) :
    (∀ failure, (policy.isAllowed aliasName resource name).outcome = .error failure ↔
        failure = .unknownOperation (Text.lower name) ∧
          ∀ operation : Operation, Text.lower name ≠ operation.name) ∧
      (∀ operation : Operation, Text.lower name = operation.name →
        ∃ rule decision, policy.Governs aliasName resource rule ∧
          (policy.isAllowed aliasName resource name).outcome = .ok decision ∧
          (decision = true ↔ RuleAllows rule operation)) ∧
      (∀ rule changed, policy.Governs aliasName resource (some rule) →
        other.Governs aliasName resource (some changed) → Text.isBlankText rule = false →
        (Rearranges rule changed ∧ decisive? ((rule.splitOn (.char ',')).map ruleWord) = none) ∨
          AddsUnknown rule changed →
        (other.isAllowed aliasName resource name).outcome =
          (policy.isAllowed aliasName resource name).outcome) ∧
      (policy.AgreeAt other aliasName resource →
        other.isAllowed aliasName resource name = policy.isAllowed aliasName resource name) := by
  have told := Operation.ofName?_cases (Text.lower name)
  refine ⟨fun failure ↦ ?_, fun operation named ↦ ?_, ?_, fun agree ↦ ?_⟩
  · rcases told with ⟨operation, named, -⟩ | ⟨unknown, apart⟩
    · obtain ⟨decision, outcome, -⟩ := outcome_isAllowed policy aliasName resource operation named
      rw [outcome]
      exact iff_of_false (by simp) fun refused ↦ refused.2 operation named
    · rw [isAllowed, unknown, Traced.outcome_ofExcept, Except.error.injEq]
      exact ⟨fun same ↦ ⟨same.symm, fun operation ↦ (apart operation).symm⟩, fun told ↦ told.1.symm⟩
  · obtain ⟨decision, outcome, decides⟩ :=
      outcome_isAllowed policy aliasName resource operation named
    exact ⟨_, decision, governs_iff.mpr rfl, outcome, decides⟩
  · intro rule changed governs otherGoverns visible change
    have ruleFor := governs_iff.mp governs
    have otherRuleFor := governs_iff.mp otherGoverns
    rcases told with ⟨operation, named, -⟩ | ⟨unknown, -⟩
    · obtain ⟨decision, outcome, decides⟩ :=
        outcome_isAllowed policy aliasName resource operation named
      obtain ⟨otherDecision, otherOutcome, otherDecides⟩ :=
        outcome_isAllowed other aliasName resource operation named
      have same : RuleAllows (some changed) operation ↔ RuleAllows (some rule) operation := by
        rcases change with ⟨rearranges, undecided⟩ | adds
        · exact rearranges.ruleAllows visible undecided operation
        · exact adds.ruleAllows visible operation
      rw [ruleFor, ← same, ← otherRuleFor, ← otherDecides] at decides
      rw [outcome, otherOutcome, Bool.eq_iff_iff.mpr decides]
    · rw [isAllowed, isAllowed, unknown]
  · rw [isAllowed, isAllowed, allowed, allowed, agree.ruleFor]

/-- The policy whose only rule is that of one resource. -/
def single (aliasName resource rule : Text) : AccessPolicy :=
  ⟨.empty, .ofList [(aliasName, .ofList [(resource, some rule)])]⟩

theorem governs_single (aliasName resource rule : Text) :
    (single aliasName resource rule).Governs aliasName (some resource) (some rule) := by
  have entry {α : Type} (name : Text) (value : α) :
      (OrderedMap.ofList [(name, value)]).get? name = some value :=
    (OrderedMap.get?_insert _ _ _ _).trans (if_pos rfl)
  exact .own (entry aliasName _) (entry resource _)

/-- An update is allowed by name, wherever the name stands in the rule and however often. -/
theorem isAllowed_rearranged_update :
    ((single "demo1" "users" "read, Update").isAllowed "demo1" (some "users") "UPDATE").outcome =
        .ok true ∧
      ((single "demo1" "users" " Update,read, Update").isAllowed "demo1" (some "users")
        "UPDATE").outcome = .ok true := by
  obtain ⟨-, decides, unchanged, -⟩ := isAllowed_iff_ruleAllows
    (single "demo1" "users" "read, Update") (single "demo1" "users" " Update,read, Update")
    "demo1" (some "users") "UPDATE"
  obtain ⟨rule, decision, governs, outcome, allows⟩ := decides .update (by decide)
  obtain rfl : some ("read, Update" : Text) = rule :=
    (governs_iff.mp (governs_single ..)).symm.trans (governs_iff.mp governs)
  have named : RuleAllows (some ("read, Update" : Text)) .update :=
    (ruleAllows_visible (by decide) _).mpr (.inr ⟨by decide, by decide⟩)
  rw [allows.mpr named] at outcome
  have same := unchanged "read, Update" " Update,read, Update" (governs_single ..)
    (governs_single ..) (by decide) (.inl ⟨⟨by decide, by decide⟩, by decide⟩)
  exact ⟨outcome, same.trans outcome⟩

end AccessPolicy

end DialectSql
