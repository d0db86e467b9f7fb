import DialectSql.Intake.Procedure
import DialectSql.Proofs.Intake.Outcomes
import DialectSql.Proofs.Sql.NormalForm

/-!
# The Order of Procedure Arguments

The arguments of a call are those that its payload lists.  If every one has an index they stand in
the order of their indices, and arguments of one index as they are listed; else all of them stand as
they are listed.

The main statement is that a call is rendered with one placeholder for each argument in this order,
that the placeholder binds the value of the argument unless it comes out of the procedure, and that
the places of those that come out are reported in ascending order.
-/

namespace DialectSql

open Intake

/-! ## The arguments of a payload -/

theorem Argument.listOfJson_eq_valid {items : List Json} {listed : List Argument} :
    Argument.listOfJson items = .valid listed ↔
      List.Forall₂ (fun item argument ↦ Argument.ofJson item = .valid argument) items listed := by
  induction items generalizing listed with
  | nil => simp [Argument.listOfJson, eq_comm]
  | cons item items ih =>
    rw [Argument.listOfJson, Checked.andThen_eq_valid, List.forall₂_cons_left_iff]
    constructor
    · rintro ⟨argument, read, behind⟩
      obtain ⟨others, readOthers, same⟩ := Checked.andThen_eq_valid.mp behind
      cases same
      exact ⟨argument, others, read, ih.mp readOthers, rfl⟩
    · rintro ⟨argument, others, read, readOthers, rfl⟩
      exact ⟨argument, read, Checked.andThen_eq_valid.mpr ⟨others, ih.mpr readOthers, rfl⟩⟩

namespace Call

/-- A payload lists arguments: it is blank and lists none, or it is an array with one item for each
of them. -/
def Lists (payload : Text) (listed : List Argument) : Prop :=
  if Text.isBlankText payload then listed = []
  else ∃ items, Json.parse payload = .ok (.arr items) ∧
    List.Forall₂ (fun item argument ↦ Argument.ofJson item = .valid argument) items listed

theorem listedArguments_eq_valid {name payload : Text} {listed : List Argument} :
    listedArguments name payload = .valid listed ↔ Lists payload listed := by
  rw [listedArguments, Checked.andThen_eq_valid, payloadValue, Lists]
  by_cases blank : Text.isBlankText payload = true
  · rw [if_pos blank, if_pos blank]
    constructor
    · rintro ⟨_, ⟨⟩, read⟩
      simpa using Argument.listOfJson_eq_valid.mp read
    · rintro rfl
      exact ⟨_, rfl, rfl⟩
  · rw [if_neg blank, if_neg blank]
    cases read : Json.parse payload with
    | error fault => cases fault <;> simp [payloadFault, Checked.issue]
    | ok value =>
      cases value with
      | arr items => simp [Argument.listOfJson_eq_valid]
      | _ => simp

/-- A payload lists its arguments in one way only. -/
theorem Lists.unique {payload : Text} {listed others : List Argument} (lists : Lists payload listed)
    (alsoLists : Lists payload others) : listed = others := by
  have read := (@listedArguments_eq_valid [] payload listed).mpr lists
  rw [listedArguments_eq_valid.mpr alsoLists] at read
  exact (Checked.valid.inj read).symm

/-- A call is made of a name that is not blank and the arguments that its payload lists. -/
theorem make_eq_valid {name payload : Text} {call : Call} :
    make name payload = .valid call ↔
      Text.isBlankText name = false ∧
        ∃ listed, Lists payload listed ∧ call = ⟨name, payload, Argument.callOrder listed⟩ := by
  unfold make
  by_cases blank : Text.isBlankText name = true
  · simp [blank]
  · rw [if_neg blank, Checked.andThen_eq_valid]
    simp [blank, listedArguments_eq_valid, eq_comm]

/-- A call can be read from its name and its payload. -/
theorem ofJson_fields (name payload : Text) :
    ofJson (.obj [("name", .str name), ("payload", .str payload)]) = make name payload := by
  rfl

theorem make_of_ofJson {data : Json} {call : Call} (read : ofJson data = .valid call) :
    make call.name call.payload = .valid call := by
  obtain ⟨⟨name, payload⟩, -, made⟩ := Checked.andThen_eq_valid.mp read
  obtain ⟨-, listed, -, rfl⟩ := make_eq_valid.mp made
  exact made

end Call

/-! ## Call order -/

namespace Argument

/-- The order of indices, in which an argument without one counts as zero. -/
def atMost (left right : Argument) : Bool :=
  left.index.getD 0 ≤ right.index.getD 0

theorem atMost_trans (first second third : Argument) (left : first.atMost second = true)
    (right : second.atMost third = true) : first.atMost third = true := by
  simp only [atMost, decide_eq_true_eq] at left right ⊢
  exact left.trans right

theorem atMost_total (first second : Argument) :
    (first.atMost second || second.atMost first) = true := by
  simp only [atMost, Bool.or_eq_true, decide_eq_true_eq]
  exact le_total _ _

/-- Arguments stand in the order of their indices if every one has an index. -/
def InIndexOrder (arguments : List Argument) : Prop :=
  arguments.Pairwise fun left right ↦
    ∀ first ∈ left.index, ∀ second ∈ right.index, first ≤ second

theorem callOrder_of_indexed {listed : List Argument}
    (indexed : ∀ argument ∈ listed, argument.index.isSome = true) :
    callOrder listed = listed.mergeSort atMost :=
  if_pos (List.all_eq_true.mpr indexed)

theorem callOrder_of_unindexed {listed : List Argument}
    (unindexed : ∃ argument ∈ listed, argument.index = none) : callOrder listed = listed := by
  obtain ⟨argument, mem, none⟩ := unindexed
  rw [callOrder, if_neg]
  intro all
  have indexed := List.all_eq_true.mp all argument mem
  rw [none] at indexed
  cases indexed

theorem callOrder_perm (listed : List Argument) : (callOrder listed).Perm listed := by
  unfold callOrder
  split
  · exact List.mergeSort_perm listed _
  · exact .refl listed

theorem inIndexOrder_callOrder {listed : List Argument}
    (indexed : ∀ argument ∈ listed, argument.index.isSome = true) :
    InIndexOrder (callOrder listed) := by
  rw [callOrder_of_indexed indexed]
  apply (List.pairwise_mergeSort atMost_trans atMost_total listed).imp
  intro left right ordered first leftIndex second rightIndex
  rw [atMost, Option.mem_def.mp leftIndex, Option.mem_def.mp rightIndex] at ordered
  simpa using ordered

/-- Arguments of one index stand as they are listed. -/
theorem filter_callOrder (listed : List Argument) (index : Int) :
    (callOrder listed).filter (·.index = some index) = listed.filter (·.index = some index) := by
  by_cases indexed : ∀ argument ∈ listed, argument.index.isSome = true
  · -- What is listed with the index is in order, so sorting keeps it as a sublist.
    have inOrder : (listed.filter (·.index = some index)).Pairwise
        fun left right ↦ left.atMost right = true := by
      apply List.pairwise_of_forall_mem_list
      intro left leftMem right rightMem
      have leftIndex := List.of_mem_filter leftMem
      have rightIndex := List.of_mem_filter rightMem
      simp only [decide_eq_true_eq] at leftIndex rightIndex
      simp [atMost, leftIndex, rightIndex]
    have kept := List.sublist_mergeSort atMost_trans atMost_total inOrder List.filter_sublist
    have found := kept.filter (·.index = some index)
    rw [List.filter_filter, ← callOrder_of_indexed indexed] at found
    simp only [Bool.and_self] at found
    exact (found.eq_of_length ((callOrder_perm listed).filter _).length_eq.symm).symm
  · have unindexed : ∃ argument ∈ listed, argument.index = none := by simpa using indexed
    rw [callOrder_of_unindexed unindexed]

/-- The indices from one on, each once. -/
def Numbered (listed : List Argument) : Prop :=
  (listed.map Argument.index).Perm
    ((List.range' 1 listed.length).map fun (index : Nat) ↦ some (index : Int))

/-- Arguments with the indices from one on stand at the places that their indices name. -/
theorem map_index_callOrder {listed : List Argument} (numbered : Numbered listed) :
    (callOrder listed).map Argument.index =
      (List.range' 1 listed.length).map fun (index : Nat) ↦ some (index : Int) := by
  have isNumber {index : Option Int} (mem : index ∈ listed.map Argument.index) :
      ∃ number : Nat, index = some (number : Int) := by
    obtain ⟨number, -, same⟩ := List.mem_map.mp (numbered.mem_iff.mp mem)
    exact ⟨number, same.symm⟩
  have indexed : ∀ argument ∈ listed, argument.index.isSome = true := by
    intro argument mem
    obtain ⟨number, same⟩ := isNumber (List.mem_map_of_mem mem)
    rw [same]
    rfl
  have reordered := ((callOrder_perm listed).map Argument.index).trans numbered
  refine @List.Perm.eq_of_pairwise _ (fun left right ↦
    ∀ first ∈ left, ∀ second ∈ right, first ≤ second) _ _ ?_ ?_ ?_ reordered
  · intro left right leftMem rightMem le ge
    obtain ⟨first, rfl⟩ := isNumber (numbered.mem_iff.mpr (reordered.mem_iff.mp leftMem))
    obtain ⟨second, rfl⟩ := isNumber (numbered.mem_iff.mpr rightMem)
    exact congrArg some (le_antisymm (le _ rfl _ rfl) (ge _ rfl _ rfl))
  · rw [List.pairwise_map]
    exact inIndexOrder_callOrder indexed
  · rw [List.pairwise_map]
    apply (List.pairwise_lt_range' 1).imp
    intro first second less _ leftIndex _ rightIndex
    cases leftIndex
    cases rightIndex
    exact Int.ofNat_le.mpr less.le

theorem getElem?_callOrder {listed : List Argument} (numbered : Numbered listed)
    {argument : Argument} (mem : argument ∈ listed) :
    ∃ place : Nat, argument.index = some ((place : Int) + 1) ∧
      (callOrder listed)[place]? = some argument := by
  obtain ⟨place, found⟩ := List.mem_iff_getElem?.mp ((callOrder_perm listed).mem_iff.mpr mem)
  refine ⟨place, ?_, found⟩
  have inside : place < listed.length := by
    rw [← (callOrder_perm listed).length_eq]
    exact (List.getElem?_eq_some_iff.mp found).1
  have index := congrArg (·[place]?) (map_index_callOrder numbered)
  simp only [List.getElem?_map, found, List.getElem?_range' inside, Option.map_some,
    Option.some.injEq] at index
  rw [index]
  congr 1
  push_cast
  ring

end Argument

/-! ## Rendered calls -/

namespace Sql

open Fragment

/-- The places that are reported are in ascending order. -/
theorem pairwise_outPositions (first : Nat) (arguments : List Argument) :
    (outPositions first arguments).Pairwise (· < ·) := by
  induction arguments generalizing first with
  | nil => exact .nil
  | cons argument arguments ih =>
    rw [outPositions]
    split
    · exact List.pairwise_cons.mpr ⟨fun _ mem ↦ le_of_mem_outPositions mem, ih _⟩
    · exact ih _

/-- The places that are reported are those of the arguments that come out of the procedure. -/
theorem mem_outPositions {first position : Nat} {arguments : List Argument} :
    position ∈ outPositions first arguments ↔
      ∃ place argument, position = first + place ∧ arguments[place]? = some argument ∧
        argument.out = true := by
  induction arguments generalizing first with
  | nil => simp [outPositions]
  | cons head arguments ih =>
    have placed : (∃ place argument, position = first + place ∧
        (head :: arguments)[place]? = some argument ∧ argument.out = true) ↔
        (position = first ∧ head.out = true) ∨ position ∈ outPositions (first + 1) arguments := by
      rw [ih]
      constructor
      · rintro ⟨place, argument, rfl, found, out⟩
        cases place with
        | zero =>
          cases found
          exact .inl ⟨rfl, out⟩
        | succ place => exact .inr ⟨place, argument, by omega, found, out⟩
      · rintro (⟨rfl, out⟩ | ⟨place, argument, rfl, found, out⟩)
        · exact ⟨0, head, rfl, rfl, out⟩
        · exact ⟨place + 1, argument, by omega, found, out⟩
    rw [placed, outPositions]
    split <;> simp [*]

/-- A call shows one placeholder for each argument. -/
theorem sql_callFragment (quotes : Quotes) (call : Call) :
    (callFragment call).sql quotes = "\x7bcall " ++ call.name ++ "(" ++
      Text.joined "," (List.replicate call.arguments.length ("?" : Text)) ++ ")\x7d" := by
  have marks : (call.arguments.map fun argument ↦
      ([.bind (Bind.ofText? argument.bound)] : Fragment)).map (Fragment.sql quotes) =
        List.replicate call.arguments.length ("?" : Text) := by
    rw [List.map_map, ← List.map_const']
    apply List.map_congr_left
    intro argument _
    simp [Text.ofString]
  simp [callFragment, sql_join, marks]

end Sql

/-! ## Calls that are made -/

/-- A call that is made has the arguments that its payload lists, in the order of their indices if
every one has an index and else as they are listed; arguments with the indices from one on are bound
at the placeholders of these numbers.  It is rendered with one placeholder for each argument, which
binds its value unless it comes out of the procedure, and the places of those that do are reported
in ascending order. -/
theorem call_binds_in_order {data : Json} {call : Call} (read : Call.ofJson data = .valid call)
    (dialect : Sql.Dialect) :
    ∃ listed compiled, Call.Lists call.payload listed ∧
      dialect.render (.call call) = .ok compiled ∧
      call.arguments.Perm listed ∧
      ((∀ argument ∈ listed, argument.index.isSome = true) →
        Argument.InIndexOrder call.arguments ∧
          ∀ index, call.arguments.filter (·.index = some index) =
            listed.filter (·.index = some index)) ∧
      ((∃ argument ∈ listed, argument.index = none) → call.arguments = listed) ∧
      (Argument.Numbered listed → ∀ argument ∈ listed, ∃ place : Nat,
        argument.index = some ((place : Int) + 1) ∧ call.arguments[place]? = some argument) ∧
      compiled.sql = "\x7bcall " ++ call.name ++ "(" ++
        Text.joined "," (List.replicate call.arguments.length ("?" : Text)) ++ ")\x7d" ∧
      compiled.params = call.arguments.map (fun argument ↦
        if argument.out then .null else Sql.Bind.ofText? argument.value) ∧
      compiled.outPositions.Pairwise (· < ·) ∧
      ∀ position, position ∈ compiled.outPositions ↔ ∃ place argument,
        position = place + 1 ∧ call.arguments[place]? = some argument ∧ argument.out = true := by
  obtain ⟨-, listed, lists, same⟩ := Call.make_eq_valid.mp (Call.make_of_ofJson read)
  have ordered : call.arguments = Argument.callOrder listed := congrArg Call.arguments same
  refine ⟨listed, _, lists, rfl, ?_, fun indexed ↦ ?_, fun unindexed ↦ ?_, fun numbered ↦ ?_,
    Sql.sql_callFragment dialect.quotes call, ?_, Sql.pairwise_outPositions 1 _, fun position ↦ ?_⟩
  · rw [ordered]
    exact Argument.callOrder_perm listed
  · rw [ordered]
    exact ⟨Argument.inIndexOrder_callOrder indexed, Argument.filter_callOrder listed⟩
  · rw [ordered]
    exact Argument.callOrder_of_unindexed unindexed
  · rw [ordered]
    exact fun argument ↦ Argument.getElem?_callOrder numbered
  · refine (Sql.binds_callFragment call).trans (List.map_congr_left fun argument _ ↦ ?_)
    cases out : argument.out <;> simp [Argument.bound, out, Sql.Bind.ofText?]
  · simp only [Sql.Dialect.finish, Sql.mem_outPositions, Nat.add_comm 1]

/-- A transfer with a value for its second argument, listed in front of what comes out first. -/
def transferPayload : Text :=
  "[\x7b\"value\": \"b\", \"index\": 2\x7d, \x7b\"index\": 1, \"out\": true\x7d]"

theorem transfer_binds_in_order :
    ∃ call compiled,
      Call.ofJson (.obj [("name", .str "transfer"), ("payload", .str transferPayload)]) =
        .valid call ∧
      (⟨"derby", .offsetFetch, .none⟩ : Sql.Dialect).render (.call call) = .ok compiled ∧
      call.arguments[1]? = some ⟨some "b", none, none, some 2, false⟩ := by
  let listed : List Argument :=
    [⟨some "b", none, none, some 2, false⟩, ⟨none, none, none, some 1, true⟩]
  have parsed : Json.parse transferPayload = .ok (.arr [
      .obj [("value", .str "b"), ("index", .int 2)],
      .obj [("index", .int 1), ("out", .bool true)]]) := by
    cbv
  have lists : Call.Lists transferPayload listed := by
    rw [Call.Lists, if_neg (by decide)]
    exact ⟨_, parsed, .cons rfl (.cons rfl .nil)⟩
  have read : Call.ofJson (.obj [("name", .str "transfer"), ("payload", .str transferPayload)]) =
      .valid ⟨"transfer", transferPayload, Argument.callOrder listed⟩ :=
    (Call.ofJson_fields ..).trans (Call.make_eq_valid.mpr ⟨by decide, listed, lists, rfl⟩)
  obtain ⟨_, compiled, others, rendered, -, -, -, placed, -⟩ :=
    call_binds_in_order read ⟨"derby", .offsetFetch, .none⟩
  obtain rfl := lists.unique others
  have numbered : Argument.Numbered listed := by
    unfold Argument.Numbered
    decide
  obtain ⟨place, index, found⟩ := placed numbered _ List.mem_cons_self
  obtain rfl : place = 1 := by
    have same := Option.some.inj index
    omega
  exact ⟨_, compiled, read, rendered, found⟩

end DialectSql
