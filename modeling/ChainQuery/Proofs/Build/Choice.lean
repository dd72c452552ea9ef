import ChainQuery.Proofs.Build.Answers
import ChainQuery.Proofs.Build.Requests

/-! # The contract that stands for a file

Of the contracts in a file the one with the least name is chosen (`Build.exists_chooseContract`), so
the order in which the compiler lists them decides nothing (`Build.chooseContract_eq_of_perm`):
neither how a build ends nor what it records on the way (`Build.fromSolidity_reordered`).
-/

namespace ChainQuery

namespace Artifact

/-- Sorted texts stand in order, the least one first. -/
theorem pairwise_sorted (texts : List String) : (sorted texts).Pairwise (· ≤ ·) := by
  have transitive : ∀ a b c : String, decide (a ≤ b) = true → decide (b ≤ c) = true →
      decide (a ≤ c) = true := by
    intro a b c first second
    exact decide_eq_true (String.le_trans (of_decide_eq_true first) (of_decide_eq_true second))
  have total : ∀ a b : String, (decide (a ≤ b) || decide (b ≤ a)) = true := by
    intro a b
    rw [Bool.or_eq_true, decide_eq_true_eq, decide_eq_true_eq]
    exact String.le_total a b
  exact (List.pairwise_mergeSort transitive total texts).imp of_decide_eq_true

theorem sorted_perm (texts : List String) : (sorted texts).Perm texts :=
  List.mergeSort_perm texts _

/-- The order in which texts come does not show once they are sorted. -/
theorem sorted_eq_of_perm {texts reordered : List String} (perm : texts.Perm reordered) :
    sorted texts = sorted reordered := by
  have same : (sorted texts).Perm (sorted reordered) :=
    (sorted_perm texts).trans (perm.trans (sorted_perm reordered).symm)
  exact same.eq_of_pairwise (fun _ _ _ _ => String.le_antisymm) (pairwise_sorted texts)
    (pairwise_sorted reordered)

/-- The first of some texts in order is the least of them. This says which contract is chosen
without reference to sorting. -/
theorem exists_head?_sorted {texts : List String} (filled : texts ≠ []) :
    ∃ least ∈ texts, (sorted texts).head? = some least ∧ ∀ text ∈ texts, least ≤ text := by
  have ordered := pairwise_sorted texts
  have perm := sorted_perm texts
  cases front : sorted texts with
  | nil =>
      rw [front] at perm
      exact absurd perm.nil_eq.symm filled
  | cons least rest =>
      rw [front] at ordered perm
      refine ⟨least, perm.subset List.mem_cons_self, rfl, ?_⟩
      intro text among
      rcases List.mem_cons.mp (perm.symm.subset among) with rfl | behind
      · exact String.le_refl text
      · exact (List.pairwise_cons.mp ordered).1 text behind

end Artifact

namespace Build

/-- The path to the contracts of a file of source in the compiler's answer. -/
def contractsPath : List String :=
  ["contracts", "query.sol"]

variable {contracts reordered : Json.Members}

/-- The contract with the least name is chosen, wherever it stands among the others and whatever it
is. -/
theorem exists_chooseContract (distinct : (Json.Members.keys contracts).Nodup)
    (filled : contracts ≠ []) :
    ∃ name definition, (name, definition) ∈ contracts ∧ (∀ entry ∈ contracts, name ≤ entry.1) ∧
      (chooseContract (.obj contracts)).outcome = .ok definition := by
  obtain ⟨name, among, first, least⟩ :=
    Artifact.exists_head?_sorted (mt List.map_eq_nil_iff.mp filled)
  obtain ⟨⟨_, definition⟩, inside, rfl⟩ := List.mem_map.mp among
  refine ⟨_, definition, inside, fun entry listed => least _ (List.mem_map_of_mem listed), ?_⟩
  have present : (Json.obj contracts).isTruthy = true := by
    simpa only [Json.isTruthy, Bool.not_eq_true', List.isEmpty_eq_false_iff] using filled
  have stands := (Json.Members.get?_eq_some_iff distinct).mpr inside
  unfold chooseContract
  dsimp only [Json.Members.keys]
  rw [present, if_neg nofun, first, Option.getD_some, stands, Option.getD_some]
  split
  · rfl
  · rfl

/-- The order of contracts in an answer makes no difference to which of them is chosen, nor to how a
choice fails. -/
theorem chooseContract_eq_of_perm (distinct : (Json.Members.keys contracts).Nodup)
    (perm : contracts.Perm reordered) :
    chooseContract (.obj reordered) = chooseContract (.obj contracts) := by
  have names : Artifact.sorted (Json.Members.keys reordered) =
      Artifact.sorted (Json.Members.keys contracts) :=
    Artifact.sorted_eq_of_perm (perm.map Prod.fst).symm
  have present : (Json.obj reordered).isTruthy = (Json.obj contracts).isTruthy :=
    congrArg (!·) perm.isEmpty_eq.symm
  unfold chooseContract
  dsimp only
  rw [present, names]
  simp only [Json.Members.get?_eq_of_perm distinct perm]

/-- The contract that an answer is read for. -/
def contractIn (answer : Json) : Run Json := do
  checkDiagnostics answer
  let contracts ← answer.memberOrEmpty "contracts"
  chooseContract (← definitionsIn contracts)

/-- A source is compiled by one request, and the rest depends on its answer alone. -/
theorem compileSource_eq (services : Collaborators) (text : String) :
    compileSource services text = compile services .solidity solidityFile text >>= contractIn := rfl

variable {answer : Json}

/-- In an answer with contracts in their place, the diagnostics are checked first and one of these
contracts is chosen next. -/
theorem contractIn_eq (stands : answer.at? contractsPath = some (.obj contracts)) :
    contractIn answer = (do
      checkDiagnostics answer
      chooseContract (.obj contracts)) := by
  obtain ⟨files, hasContracts, leads⟩ := Json.at?_cons_eq_some.mp stands
  have present := Json.isTruthy_of_at? leads
  obtain ⟨_, hasFile, ⟨⟩⟩ := Json.at?_cons_eq_some.mp leads
  obtain ⟨members, rfl, found⟩ := Json.exists_members_of_get? hasFile
  have definitions : definitionsIn (.obj members) = .ok (.obj contracts) := by
    rw [definitionsIn, solidityFile, found]
  unfold contractIn
  rw [Json.memberOrEmpty_eq hasContracts present, Run.liftM_ok_bind, definitions,
    Run.liftM_ok_bind]

/-- With its contracts in another order, an answer is taken as before: what stands elsewhere in it
is the same. -/
theorem contractIn_setAt (stands : answer.at? contractsPath = some (.obj contracts))
    (distinct : (Json.Members.keys contracts).Nodup) (perm : contracts.Perm reordered) :
    contractIn (answer.setAt contractsPath (.obj reordered)) = contractIn answer := by
  have diagnostics : checkDiagnostics (answer.setAt contractsPath (.obj reordered)) =
      checkDiagnostics answer := by
    unfold checkDiagnostics
    rw [contractsPath, Json.member_setAt stands (by decide)]
  rw [contractIn_eq (Json.at?_setAt stands _), contractIn_eq stands, diagnostics,
    chooseContract_eq_of_perm distinct perm]

/-- On a clean answer, compiling a source ends with the choice of a contract, and fails only as this
choice does. -/
theorem outcome_compileSource_of_clean (services : Collaborators) {text : String}
    (compiles : services.compile (standardRequest "Solidity" "query.sol" text) = .ok answer)
    (clean : Clean answer) (stands : answer.at? contractsPath = some (.obj contracts)) :
    (compileSource services text).outcome = (chooseContract (.obj contracts)).outcome := by
  obtain ⟨_, hasContracts, _⟩ := Json.at?_cons_eq_some.mp stands
  have answered : (compile services .solidity solidityFile text).outcome = .ok answer :=
    (frames_compile services .solidity solidityFile text).outcome.trans compiles
  rw [compileSource_eq, Run.outcome_bind_ok answered, contractIn_eq stands,
    checkDiagnostics_of_clean clean hasContracts]
  exact Run.outcome_bind_ok rfl

/-- Services that answer with the contracts in another order make no difference to compiling a
source, to its events as little as to its outcome. -/
theorem compileSource_setAt (services others : Collaborators) {text : String}
    (compiles : services.compile (standardRequest "Solidity" "query.sol" text) = .ok answer)
    (stands : answer.at? contractsPath = some (.obj contracts))
    (distinct : (Json.Members.keys contracts).Nodup) (perm : contracts.Perm reordered)
    (otherwise : others.compile (standardRequest "Solidity" "query.sol" text) =
      .ok (answer.setAt contractsPath (.obj reordered))) :
    compileSource others text = compileSource services text := by
  obtain ⟨events, same⟩ := exists_compile_eq .solidity solidityFile text
  rw [compileSource_eq, compileSource_eq, same services _ compiles, same others _ otherwise]
  change (⟨events ++ (contractIn _).events, (contractIn _).outcome⟩ : Run Json) =
    ⟨events ++ (contractIn answer).events, (contractIn answer).outcome⟩
  rw [contractIn_setAt stands distinct perm]

/-- **The order of the contracts decides nothing.** If the compiler lists the contracts of a file in
another order, and answers the same otherwise, the build does, records and ends the same. Where the
answer reports nothing and lists any contract, it ends as the artifact of the least name does,
whatever that artifact lacks. -/
theorem fromSolidity_reordered (services : Collaborators) {text : String}
    (compiles : services.compile (standardRequest "Solidity" "query.sol" text) = .ok answer)
    (stands : answer.at? contractsPath = some (.obj contracts))
    (distinct : (Json.Members.keys contracts).Nodup) (kind : Option Artifact.Kind)
    (function : String) :
    (∀ (others : Collaborators) (reordered : Json.Members), contracts.Perm reordered →
      others.compile (standardRequest "Solidity" "query.sol" text) =
        .ok (answer.setAt contractsPath (.obj reordered)) →
      fromSolidity others text kind function = fromSolidity services text kind function) ∧
    (kind.getD (Artifact.detectKind text.toList) = .rawSource → Clean answer → contracts ≠ [] →
      ∃ name definition, (name, definition) ∈ contracts ∧ (∀ entry ∈ contracts, name ≤ entry.1) ∧
        (fromSolidity services text kind function).outcome =
          (Artifact.normalize definition function).outcome) := by
  constructor
  · intro others reordered perm otherwise
    unfold fromSolidity
    rw [compileSource_setAt services others compiles stands distinct perm otherwise]
  · intro source clean filled
    obtain ⟨name, definition, inside, least, chosen⟩ := exists_chooseContract distinct filled
    refine ⟨name, definition, inside, least, ?_⟩
    unfold fromSolidity
    rw [Run.outcome_bind_ok (outcome_kindOf text kind), source]
    exact Run.outcome_bind_ok
      ((outcome_compileSource_of_clean services compiles clean stands).trans chosen)

/-- Two contracts listed either way: the one of the lesser name is chosen, although only the other
has a program. -/
theorem fromSolidity_reordered_two :
    let source := "contract Query \x7b\x7d"
    let whole : Json := .obj [
      ("abi", .arr [.obj [("type", .str "function"), ("name", .str "query")]]),
      ("evm", .obj [("bytecode", .obj [("object", .str "60ff")])])]
    let bare : Json := .obj [("abi", .arr [])]
    let answering (contracts : Json.Members) : Collaborators :=
      ⟨fun _ => .error .noMembers, fun _ => .ok (.obj [("errors", .arr []),
        ("contracts", .obj [("query.sol", .obj contracts)])]), fun _ _ => .ok []⟩
    fromSolidity (answering [("Base", bare), ("Query", whole)]) source none "query" =
        fromSolidity (answering [("Query", whole), ("Base", bare)]) source none "query" ∧
      (fromSolidity (answering [("Query", whole), ("Base", bare)]) source none "query").outcome =
        .error (.pipeline (.missingBytecode bare)) := by
  intro source whole bare answering
  let contracts : Json.Members := [("Query", whole), ("Base", bare)]
  have distinct : (Json.Members.keys contracts).Nodup := by decide
  obtain ⟨reordered, chosen⟩ := fromSolidity_reordered (answering contracts) rfl rfl distinct none
    "query"
  have raw : (none : Option Artifact.Kind).getD (Artifact.detectKind source.toList) =
      .rawSource := by decide +kernel
  have clean : Clean (.obj [("errors", .arr []),
      ("contracts", .obj [("query.sol", .obj contracts)])]) := by
    rintro reported ⟨⟩
    rfl
  refine ⟨reordered _ _ (List.Perm.swap _ _ _) rfl, ?_⟩
  obtain ⟨name, definition, inside, least, same⟩ := chosen raw clean (List.cons_ne_nil _ _)
  have first : definition = bare := by
    rcases List.mem_cons.mp inside with front | behind
    · obtain ⟨rfl, _⟩ := Prod.mk.inj front
      have lesser := least ("Base", bare) (List.mem_cons_of_mem _ List.mem_cons_self)
      exact absurd lesser (by decide)
    · exact (Prod.mk.inj (List.mem_singleton.mp behind)).2
  rw [same, first]
  rfl

end Build

end ChainQuery
