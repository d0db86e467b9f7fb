import DialectSql.Proofs.Compiler.Runs
import DialectSql.Session

/-!
# The Accounts of a Session

What the counters tell of a compiler at work.  Every piece of work ends in a success or in a failure
and gives one notice, of the one or of the other, under the one kind that it has; a success is
credited to the alias that it was for.  What else is asked for leaves the counters alone, and a
reset starts them anew.

The main statement is that at every moment of a session the counters are the numbers of the
successes and the failures since the last reset, so that none is lost and none is counted twice.
-/

namespace DialectSql

/-! ## Sums over ordered maps -/

/-- Setting a name replaces its share of the sum. -/
theorem sum_setEntry {entries : List (Text × Nat)} (nodup : (entries.map Prod.fst).Nodup)
    (name : Text) (value : Nat) :
    ((setEntry entries name value).map Prod.snd).sum + (entries.lookup name).getD 0 =
      (entries.map Prod.snd).sum + value := by
  induction entries with
  | nil => simp [setEntry]
  | cons entry entries ih =>
    obtain ⟨first, share⟩ := entry
    rw [List.map_cons, List.nodup_cons] at nodup
    obtain ⟨absent, nodup⟩ := nodup
    by_cases here : first = name
    · subst here
      rw [setEntry_cons_self absent, List.lookup_cons, beq_self_eq_true]
      simp only [List.map_cons, List.sum_cons, Option.getD_some]
      omega
    · have share := ih nodup
      rw [setEntry_cons_of_ne here, List.lookup_cons, beq_eq_false_iff_ne.mpr (Ne.symm here)]
      simp only [List.map_cons, List.sum_cons]
      omega

/-! ## Kinds of work -/

/-- What kind of work counts as what: a statement counts by its type, and a finder counts as
dynamic.  What is no statement counts as reading. -/
inductive Work.CountsAs : Work → StatementKind → Prop
  | select {aliasName : Text} {request : Select} {limit : Option Limit} {order : Option Order} :
    CountsAs (.statement aliasName (.statement (.select request)) limit order) .read
  | insert {aliasName : Text} {request : Insert} {limit : Option Limit} {order : Option Order} :
    CountsAs (.statement aliasName (.statement (.insert request)) limit order) .create
  | update {aliasName : Text} {request : Update} {limit : Option Limit} {order : Option Order} :
    CountsAs (.statement aliasName (.statement (.update request)) limit order) .update
  | delete {aliasName : Text} {request : Delete} {limit : Option Limit} {order : Option Order} :
    CountsAs (.statement aliasName (.statement (.delete request)) limit order) .delete
  | call {aliasName : Text} {request : Call} {limit : Option Limit} {order : Option Order} :
    CountsAs (.statement aliasName (.statement (.call request)) limit order) .procedure
  | other {aliasName : Text} {model : Model} {limit : Option Limit} {order : Option Order}
    (noStatement : ∀ statement, model ≠ .statement statement) :
    CountsAs (.statement aliasName model limit order) .read
  | finder {aliasName : Text} {table : Table} {descriptor : Text} {arguments : List Json}
    {limit : Option Limit} {order : Option Order} :
    CountsAs (.finder aliasName table descriptor arguments limit order) .dynamic

namespace Work

variable {work : Work} {kind : StatementKind}

theorem countsAs_kind (work : Work) : work.CountsAs work.kind := by
  cases work with
  | finder => exact .finder
  | statement aliasName model limit order =>
    cases model with
    | statement statement =>
      cases statement with
      | select => exact .select
      | insert => exact .insert
      | update => exact .update
      | delete => exact .delete
      | call => exact .call
    | _ => exact .other (by simp)

/-- Work counts as one kind only. -/
theorem countsAs_iff : work.CountsAs kind ↔ work.kind = kind := by
  constructor
  · intro counts
    cases counts with
    | other noStatement =>
      rename_i model _ _
      cases model with
      | statement statement => exact absurd rfl (noStatement statement)
      | _ => rfl
    | _ => rfl
  · rintro rfl
    exact work.countsAs_kind

/-- Whether work ends with a statement in SQL. -/
def succeeds (compiler : Compiler) (work : Work) : Bool :=
  (work.run compiler).outcome.isOk

/-- Work of either sort is an attempt for its alias, under its kind. -/
theorem exists_run_eq_attempt (compiler : Compiler) (work : Work) :
    ∃ attempted, work.run compiler =
      Compiler.attempt work.aliasName work.kind attempted := by
  cases work with
  | finder => exact ⟨_, rfl⟩
  | statement aliasName model limit order => cases model <;> exact ⟨_, rfl⟩

/-- Work that ends with a statement gives one notice, and it tells of the success. -/
theorem notices_of_ok {compiler : Compiler} {compiled : Sql.Compiled}
    (done : (work.run compiler).outcome = .ok compiled) :
    (work.run compiler).notices = [.compiled work.aliasName work.kind] := by
  obtain ⟨attempted, run_eq⟩ := work.exists_run_eq_attempt compiler
  rw [run_eq, Compiler.outcome_attempt] at done
  rw [run_eq, Compiler.attempt_of_ok _ _ done]

/-- Work that fails gives one notice, and it tells of the failure with the code of its error. -/
theorem notices_of_error {compiler : Compiler} {error : Error}
    (failed : (work.run compiler).outcome = .error error) :
    (work.run compiler).notices = [.failed work.aliasName work.kind error.code] := by
  obtain ⟨attempted, run_eq⟩ := work.exists_run_eq_attempt compiler
  rw [run_eq, Compiler.outcome_attempt] at failed
  rw [run_eq, Compiler.attempt_of_error _ _ failed]

end Work

/-! ## Requests -/

namespace Request

/-- The work that is asked for. -/
def work? : Request → Option Work
  | .work asked => some asked
  | _ => none

/-- Whether the counters are to start anew. -/
def isReset : Request → Bool
  | .reset => true
  | _ => false

end Request

/-- The work that was asked for since the last reset. -/
def worksSinceReset (requests : List Request) : List Work :=
  (requests.rtakeWhile fun request ↦ !request.isReset).filterMap Request.work?

theorem worksSinceReset_reset (requests : List Request) :
    worksSinceReset (requests ++ [.reset]) = [] := by
  rw [worksSinceReset, List.rtakeWhile_concat_neg _ _ _ (by simp [Request.isReset]),
    List.filterMap_nil]

theorem worksSinceReset_append {request : Request} (keeps : request.isReset = false)
    (requests : List Request) :
    worksSinceReset (requests ++ [request]) =
      worksSinceReset requests ++ request.work?.toList := by
  rw [worksSinceReset, List.rtakeWhile_concat_pos _ _ _ (by simp [keeps]), List.filterMap_append]
  cases request <;> rfl

/-! ## Counters -/

namespace Usage

variable {compiler : Compiler} {usage : Usage} {works : List Work}

/-- How much was compiled for an alias. -/
def aliasCount (usage : Usage) (aliasName : Text) : Nat :=
  (usage.aliases.get? aliasName).getD 0

/-- One counter more, and nothing else is changed. -/
def Counts (compiler : Compiler) (work : Work) (before after : Usage) : Prop :=
  if work.succeeds compiler then
    after.compiled = Function.update before.compiled work.kind (before.compiled work.kind + 1) ∧
      after.aliasCount = Function.update before.aliasCount work.aliasName
        (before.aliasCount work.aliasName + 1) ∧
      after.failed = before.failed
  else
    after.failed = Function.update before.failed work.kind (before.failed work.kind + 1) ∧
      after.compiled = before.compiled ∧ after.aliases = before.aliases

theorem bump_eq_update (counts : StatementKind → Nat) (kind : StatementKind) :
    bump counts kind = Function.update counts kind (counts kind + 1) := by
  funext other
  rw [bump, Function.update_apply]
  by_cases same : other = kind
  · rw [if_pos same, if_pos same, same]
  · rw [if_neg same, if_neg same]

/-- The counters behind the one notice of a piece of work. -/
theorem after_work (compiler : Compiler) (usage : Usage) (work : Work) :
    usage.after compiler (.work work) =
      if work.succeeds compiler then
        { usage with
          compiled := bump usage.compiled work.kind
          aliases := usage.aliases.insert work.aliasName (usage.aliasCount work.aliasName + 1) }
      else { usage with failed := bump usage.failed work.kind } := by
  cases ended : (work.run compiler).outcome with
  | ok compiled =>
    have success : work.succeeds compiler = true := by rw [Work.succeeds, ended]; rfl
    rw [after, Work.notices_of_ok ended, if_pos success]
    rfl
  | error error =>
    have failure : ¬work.succeeds compiler = true := by
      rw [Work.succeeds, ended]
      exact Bool.false_ne_true
    rw [after, Work.notices_of_error ended, if_neg failure]
    rfl

theorem counts_after (compiler : Compiler) (usage : Usage) (work : Work) :
    Counts compiler work usage (usage.after compiler (.work work)) := by
  rw [Counts, after_work]
  by_cases success : work.succeeds compiler
  · rw [if_pos success, if_pos success]
    refine ⟨bump_eq_update _ _, ?_, rfl⟩
    funext other
    rw [aliasCount, OrderedMap.get?_insert, Function.update_apply]
    split <;> rfl
  · rw [if_neg success, if_neg success]
    exact ⟨bump_eq_update _ _, rfl, rfl⟩

theorem total_eq_sum (usage : Usage) :
    usage.total = (StatementKind.all.map usage.compiled).sum := by
  rw [total, ← List.foldl_map, List.sum_eq_foldl]

/-! ## The account of a run -/

/-- The counters tell what became of the given work. -/
structure Accounts (compiler : Compiler) (works : List Work) (usage : Usage) : Prop where
  compiled : ∀ kind, usage.compiled kind =
    works.countP fun work ↦ work.succeeds compiler ∧ work.kind = kind
  failed : ∀ kind, usage.failed kind =
    works.countP fun work ↦ ¬work.succeeds compiler ∧ work.kind = kind
  aliasCount : ∀ aliasName, usage.aliasCount aliasName =
    works.countP fun work ↦ work.succeeds compiler ∧ work.aliasName = aliasName
  aliases : usage.aliases.values.sum = works.countP (Work.succeeds compiler)

theorem accounts_zero (compiler : Compiler) : Accounts compiler [] zero :=
  ⟨fun _ ↦ rfl, fun _ ↦ rfl, fun _ ↦ rfl, rfl⟩

theorem update_succ_apply {α : Type} [DecidableEq α] (counts : α → Nat) (key other : α) :
    Function.update counts key (counts key + 1) other =
      counts other + if key = other then 1 else 0 := by
  rw [Function.update_apply]
  by_cases same : other = key
  · rw [if_pos same, if_pos same.symm, same]
  · rw [if_neg same, if_neg (Ne.symm same), Nat.add_zero]

/-- One more piece of work is one more in the account. -/
theorem Accounts.after_work (accounts : Accounts compiler works usage) (work : Work) :
    Accounts compiler (works ++ [work]) (usage.after compiler (.work work)) := by
  have counts := counts_after compiler usage work
  have counted (inClass : Work → Bool) : (works ++ [work]).countP inClass =
      works.countP inClass + if inClass work then 1 else 0 := by
    rw [List.countP_append, List.countP_singleton]
  by_cases success : work.succeeds compiler
  · rw [Counts, if_pos success] at counts
    obtain ⟨compiled, aliasCount, failed⟩ := counts
    refine ⟨fun kind ↦ ?_, fun kind ↦ ?_, fun aliasName ↦ ?_, ?_⟩
    · rw [compiled, update_succ_apply, accounts.compiled, counted]
      simp [success]
    · rw [failed, accounts.failed, counted]
      simp [success]
    · rw [aliasCount, update_succ_apply, accounts.aliasCount, counted]
      simp [success]
    · have replaced := sum_setEntry usage.aliases.nodup work.aliasName
        (usage.aliasCount work.aliasName + 1)
      rw [counted, if_pos success, ← accounts.aliases, Usage.after_work, if_pos success]
      unfold Usage.aliasCount OrderedMap.get? at replaced
      simp only [OrderedMap.values, OrderedMap.insert, Usage.aliasCount, OrderedMap.get?]
      omega
  · rw [Counts, if_neg success] at counts
    obtain ⟨failed, compiled, aliases⟩ := counts
    refine ⟨fun kind ↦ ?_, fun kind ↦ ?_, fun aliasName ↦ ?_, ?_⟩
    · rw [compiled, accounts.compiled, counted]
      simp [success]
    · rw [failed, update_succ_apply, accounts.failed, counted]
      simp [success]
    · rw [Usage.aliasCount, aliases, ← Usage.aliasCount, accounts.aliasCount, counted]
      simp [success]
    · rw [aliases, accounts.aliases, counted, if_neg success, Nat.add_zero]

/-- At every moment the counters account for the work since the last reset. -/
theorem accounts_afterAll (compiler : Compiler) (requests : List Request) :
    Accounts compiler (worksSinceReset requests) (zero.afterAll compiler requests) := by
  induction requests using List.reverseRecOn with
  | nil => exact accounts_zero compiler
  | append_singleton requests request ih =>
    have last : zero.afterAll compiler (requests ++ [request]) =
        (zero.afterAll compiler requests).after compiler request := by
      rw [afterAll, List.foldl_append]
      rfl
    rw [last]
    cases request with
    | work work =>
      rw [worksSinceReset_append rfl]
      exact ih.after_work work
    | rowCount table =>
      rw [worksSinceReset_append rfl]
      exact (List.append_nil (worksSinceReset requests)).symm ▸ ih
    | snapshot =>
      rw [worksSinceReset_append rfl]
      exact (List.append_nil (worksSinceReset requests)).symm ▸ ih
    | reset =>
      rw [worksSinceReset_reset]
      exact accounts_zero compiler

/-- Work of a class is the work of each kind in the class. -/
theorem sum_countP_kind (works : List Work) (inClass : Work → Bool) :
    (StatementKind.all.map fun kind ↦
      works.countP fun work ↦ inClass work ∧ work.kind = kind).sum = works.countP inClass := by
  induction works with
  | nil => rfl
  | cons work works ih =>
    have own : (StatementKind.all.map fun kind ↦
        if inClass work ∧ work.kind = kind then 1 else 0).sum = if inClass work then 1 else 0 := by
      cases inClass work <;> cases work.kind <;> rfl
    simp only [List.countP_cons, decide_eq_true_eq]
    rw [List.sum_map_add, ih, own]

end Usage

/-- At every moment of a session the counters tell what became of the work since the last reset:
the successes and the failures of each kind, and the successes for each alias.  The total is the sum
over the kinds and the sum over the aliases, and together with the failures it is the number of all
that work.  A piece of work gives one notice, of its success or of its failure, and so it is counted
once, under its kind, as a success for its alias or as a failure; the other requests leave the
counters alone. -/
theorem counters_account_for_work (compiler : Compiler) (requests : List Request) :
    let usage := Usage.zero.afterAll compiler requests
    let works := worksSinceReset requests
    (∀ (work : Work) kind, work.CountsAs kind ↔ work.kind = kind) ∧
      (∀ (work : Work) compiled, (work.run compiler).outcome = .ok compiled →
        (work.run compiler).notices = [.compiled work.aliasName work.kind]) ∧
      (∀ (work : Work) error, (work.run compiler).outcome = .error error →
        (work.run compiler).notices = [.failed work.aliasName work.kind error.code]) ∧
      (∀ work, Usage.Counts compiler work usage (usage.after compiler (.work work))) ∧
      (∀ table, usage.after compiler (.rowCount table) = usage) ∧
      usage.after compiler .snapshot = usage ∧
      (∀ kind, usage.compiled kind =
        works.countP fun work ↦ work.succeeds compiler ∧ work.kind = kind) ∧
      (∀ kind, usage.failed kind =
        works.countP fun work ↦ ¬work.succeeds compiler ∧ work.kind = kind) ∧
      (∀ aliasName, usage.aliasCount aliasName =
        works.countP fun work ↦ work.succeeds compiler ∧ work.aliasName = aliasName) ∧
      usage.total = (StatementKind.all.map usage.compiled).sum ∧
      usage.total = usage.aliases.values.sum ∧
      usage.total + (StatementKind.all.map usage.failed).sum = works.length := by
  intro usage works
  have accounts : Usage.Accounts compiler works usage := Usage.accounts_afterAll compiler requests
  have successes : usage.total = works.countP (Work.succeeds compiler) := by
    calc
      usage.total = (StatementKind.all.map usage.compiled).sum := usage.total_eq_sum
      _ = (StatementKind.all.map fun kind ↦
          works.countP fun work ↦ work.succeeds compiler ∧ work.kind = kind).sum := by
        rw [List.map_congr_left fun kind _ ↦ accounts.compiled kind]
      _ = works.countP (Work.succeeds compiler) := Usage.sum_countP_kind works _
  have failures : (StatementKind.all.map usage.failed).sum =
      works.countP fun work ↦ !work.succeeds compiler := by
    calc
      (StatementKind.all.map usage.failed).sum = (StatementKind.all.map fun kind ↦
          works.countP fun work ↦ !work.succeeds compiler ∧ work.kind = kind).sum := by
        rw [List.map_congr_left fun kind _ ↦ accounts.failed kind]
        simp
      _ = works.countP fun work ↦ !work.succeeds compiler := Usage.sum_countP_kind works _
  refine ⟨fun _ _ ↦ Work.countsAs_iff, fun _ _ ↦ Work.notices_of_ok,
    fun _ _ ↦ Work.notices_of_error, Usage.counts_after compiler usage, fun _ ↦ rfl, rfl,
    accounts.compiled, accounts.failed, accounts.aliasCount, usage.total_eq_sum, ?_, ?_⟩
  · rw [successes, accounts.aliases]
  · rw [successes, failures, List.length_eq_countP_add_countP (Work.succeeds compiler)]
    simp

end DialectSql
