import ChainQuery.Proofs.CommandLine.Printing
import ChainQuery.Proofs.CommandLine.Sources
import ChainQuery.Proofs.Engine.Fetching

/-! # Results that cannot be printed

Types of numbers with decimal places are decoded to decimal numbers, and these have no JSON form. A
result is printed unless a decimal number is in it, and fails to be if one is
(`CommandLine.printed_iff_whole`).
-/

namespace ChainQuery

open CoreArithmetic

namespace Abi

/-- The types that texts name; no number has more bits than a word. -/
inductive Ty.Fitting : Ty → Prop
  | uint {bits : Nat} : isBitSize bits = true → Fitting (.uint bits)
  | int {bits : Nat} : isBitSize bits = true → Fitting (.int bits)
  | ufixed (bits places : Nat) : Fitting (.ufixed bits places)
  | fixed (bits places : Nat) : Fitting (.fixed bits places)
  | bool : Fitting .bool
  | address : Fitting .address
  | fixedBytes (size : Nat) : Fitting (.fixedBytes size)
  | bytes : Fitting .bytes
  | string : Fitting .string
  | array {item : Ty} {size : Option Nat} : Fitting item → Fitting (.array item size)
  | tuple {components : List Ty} : (∀ ty ∈ components, Fitting ty) → Fitting (.tuple components)

/-- The types without decimal places. -/
inductive Ty.Whole : Ty → Prop
  | uint (bits : Nat) : Whole (.uint bits)
  | int (bits : Nat) : Whole (.int bits)
  | bool : Whole .bool
  | address : Whole .address
  | fixedBytes (size : Nat) : Whole (.fixedBytes size)
  | bytes : Whole .bytes
  | string : Whole .string
  | array {item : Ty} {size : Option Nat} : Whole item → Whole (.array item size)
  | tuple {components : List Ty} : (∀ ty ∈ components, Whole ty) → Whole (.tuple components)

theorem fitting_arraysOf {ty : Ty} {dims : List (Option Nat)} (fitting : ty.Fitting) :
    (arraysOf ty dims).Fitting := by
  induction dims generalizing ty with
  | nil => exact fitting
  | cons dim rest ih => exact ih (.array fitting)

/-- A word with a size that is allowed for it names a type that fits. The sizes without a type of
their own are those that are not allowed. -/
theorem fitting_of_typeOfWord {base : String} {size : Size} {ty : Ty}
    (allowed : sizeAllowed base size = true) (typed : typeOfWord base size = .ok ty) :
    ty.Fitting := by
  unfold typeOfWord at typed
  split at typed
  · cases typed
    exact .uint allowed
  · cases typed
    exact .int allowed
  · cases typed
    exact .ufixed _ _
  · cases typed
    exact .fixed _ _
  · cases typed
    exact .bool
  · cases typed
    exact .address
  · cases typed
    exact .string
  · cases typed
    exact .bytes
  · cases typed
    exact .fixedBytes _
  · exact nomatch typed
  · exact nomatch typed

mutual

theorem fitting_of_innerType : (name : TypeName) → {ty : Ty} → name.innerType = .ok ty → ty.Fitting
  | .word base size dims, ty, typed => by
      rw [TypeName.innerType] at typed
      generalize completed base size = whole at typed
      obtain ⟨word, own⟩ := whole
      dsimp only at typed
      split at typed
      · exact nomatch typed
      · split at typed
        · exact nomatch typed
        · next allowed =>
            obtain ⟨item, named, rfl⟩ := map_eq_ok.mp typed
            rw [Bool.not_eq_true, Bool.not_eq_false'] at allowed
            exact fitting_arraysOf (fitting_of_typeOfWord allowed named)
  | .tuple names dims, ty, typed => by
      rw [TypeName.innerType] at typed
      split at typed
      · exact nomatch typed
      · obtain ⟨types, named, rfl⟩ := map_eq_ok.mp typed
        exact fitting_arraysOf (.tuple (fitting_of_innerTypes names named))

theorem fitting_of_innerTypes : (names : List TypeName) → {types : List Ty} →
    TypeName.innerTypes names = .ok types → ∀ ty ∈ types, ty.Fitting
  | [], types, typed => by
      cases typed
      exact nofun
  | name :: rest, types, typed => by
      rw [TypeName.innerTypes] at typed
      obtain ⟨first, own, typed⟩ := bind_eq_ok.mp typed
      obtain ⟨others, behind, same⟩ := bind_eq_ok.mp typed
      cases same
      exact List.forall_mem_cons.mpr
        ⟨fitting_of_innerType name own, fitting_of_innerTypes rest behind⟩

end

/-- Every type that is read from a text fits: sizes that it may not have are refused before there is
a type. -/
theorem fitting_of_ofText {text : List Char} {ty : Ty} (named : Ty.ofText text = .ok ty) :
    ty.Fitting := by
  unfold Ty.ofText at named
  split at named
  · next name _ =>
      unfold TypeName.toType at named
      split at named
      · exact nomatch named
      · exact fitting_of_innerType name named
  · exact nomatch named

/-- What results hold for a type: values of which no part is a decimal number, unless the type has
decimal places. -/
structure Held (ty : Ty) (value : Value) : Prop where
  result : value.IsResult
  whole : ty.Whole → value.holdsDecimal = false

variable {ty : Ty} {value : Value} {data : Bytes}

/-- A value that is read from a word is one that results hold, and it is no number with decimal
places unless its type is one of these. -/
theorem decodeScalar_held (fitting : ty.Fitting) {place : Nat}
    (read : decodeScalar data place ty = .ok value) : Held ty value := by
  cases fitting with
  | uint size =>
      obtain ⟨word, found, rest⟩ := bind_eq_ok.mp read
      obtain ⟨n, number, same⟩ := bind_eq_ok.mp rest
      obtain rfl := Except.ok.inj same
      obtain ⟨low, high⟩ := unsignedOf_range size (length_of_wordAt found) number
      have small : n.natAbs ≤ 2 ^ 256 := natAbs_le_of_lt size (by omega) high
      exact ⟨.int small, fun _ => rfl⟩
  | @int bits size =>
      obtain ⟨word, found, rest⟩ := bind_eq_ok.mp read
      obtain ⟨n, number, same⟩ := bind_eq_ok.mp rest
      obtain rfl := Except.ok.inj same
      obtain ⟨low, high⟩ := signedOf_range size (length_of_wordAt found) number
      have half : (2 : Int) ^ (bits - 1) ≤ 2 ^ bits :=
        pow_le_pow_right₀ (by norm_num) (Nat.sub_le bits 1)
      have small : n.natAbs ≤ 2 ^ 256 := natAbs_le_of_lt size (by omega) (by omega)
      exact ⟨.int small, fun _ => rfl⟩
  | ufixed | fixed =>
      obtain ⟨word, _, rest⟩ := bind_eq_ok.mp read
      obtain ⟨n, _, same⟩ := bind_eq_ok.mp rest
      obtain rfl := Except.ok.inj same
      exact ⟨.decimal _, nofun⟩
  | bool =>
      obtain ⟨word, _, rest⟩ := bind_eq_ok.mp read
      obtain ⟨truth, _, same⟩ := bind_eq_ok.mp rest
      obtain rfl := Except.ok.inj same
      exact ⟨.bool truth, fun _ => rfl⟩
  | address =>
      obtain ⟨word, _, checked⟩ := bind_eq_ok.mp read
      obtain rfl := eq_of_checkPadding checked
      exact ⟨.text _, fun _ => rfl⟩
  | fixedBytes =>
      obtain ⟨word, _, checked⟩ := bind_eq_ok.mp read
      obtain rfl := eq_of_checkPadding checked
      exact ⟨.bytes _, fun _ => rfl⟩
  | bytes =>
      obtain ⟨content, _, same⟩ := bind_eq_ok.mp read
      obtain rfl := Except.ok.inj same
      exact ⟨.bytes content, fun _ => rfl⟩
  | string =>
      obtain ⟨content, _, rest⟩ := bind_eq_ok.mp read
      obtain ⟨text, _, same⟩ := bind_eq_ok.mp rest
      obtain rfl := Except.ok.inj same
      exact ⟨.text text, fun _ => rfl⟩
  | array => exact nomatch read
  | tuple => exact nomatch read

/-- Items that are held make an array that is held. -/
theorem held_array {item : Ty} {size : Option Nat} {items : List Value}
    (each : ∀ value ∈ items, Held item value) : Held (.array item size) (.tuple items) where
  result := .items rfl fun value among => (each value among).result
  whole := by
    rintro (_ | _ | _ | _ | _ | _ | _ | @⟨_, _, whole⟩)
    rw [Value.holdsDecimal_of_items rfl, Value.anyHoldsDecimal_eq_false]
    exact fun value among => (each value among).whole whole

/-- A list or a tuple of values that are held for several types is a result, and it is whole where
the types are. -/
theorem held_items {types : List Ty} {items : List Value} (found : value.items? = some items)
    (each : List.Forall₂ Held types items) :
    value.IsResult ∧ ((∀ ty ∈ types, ty.Whole) → value.holdsDecimal = false) := by
  have all : (∀ item ∈ items, item.IsResult) ∧
      ((∀ ty ∈ types, ty.Whole) → ∀ item ∈ items, item.holdsDecimal = false) := by
    clear found
    induction each with
    | nil => exact ⟨nofun, fun _ => nofun⟩
    | cons first _ ih =>
        refine ⟨List.forall_mem_cons.mpr ⟨first.result, ih.1⟩, fun whole => ?_⟩
        obtain ⟨own, others⟩ := List.forall_mem_cons.mp whole
        exact List.forall_mem_cons.mpr ⟨first.whole own, ih.2 others⟩
  refine ⟨.items found all.1, fun whole => ?_⟩
  rw [Value.holdsDecimal_of_items found, Value.anyHoldsDecimal_eq_false]
  exact all.2 whole

/-- Members that are held for their types make a tuple that is held. -/
theorem held_tuple {types : List Ty} {values : List Value}
    (each : List.Forall₂ Held types values) : Held (.tuple types) (.tuple values) where
  result := (held_items rfl each).1
  whole := by
    rintro (_ | _ | _ | _ | _ | _ | _ | _ | ⟨whole⟩)
    exact (held_items rfl each).2 whole

/-- A word leads to a value that is held, and to the place behind it. -/
theorem held_of_scalar (fitting : ty.Fitting) {place next : Nat}
    (read : (do return (← decodeScalar data place ty, place + wordSize)) = .ok (value, next)) :
    Held ty value := by
  obtain ⟨result, found, same⟩ := bind_eq_ok.mp read
  obtain ⟨rfl, _⟩ := Prod.mk.inj (Except.ok.inj same)
  exact decodeScalar_held fitting found

/-- What is decoded for a type that a text names is what results hold for it. No part of it is a
number with decimal places unless the type has some. -/
theorem decode_held (fitting : ty.Fitting) : Yields (Held ty) (decode data ty) := by
  intro place value next read
  induction fitting generalizing place value next with
  | uint size => exact held_of_scalar (.uint size) read
  | int size => exact held_of_scalar (.int size) read
  | ufixed bits places => exact held_of_scalar (.ufixed bits places) read
  | fixed bits places => exact held_of_scalar (.fixed bits places) read
  | bool => exact held_of_scalar .bool read
  | address => exact held_of_scalar .address read
  | fixedBytes size => exact held_of_scalar (.fixedBytes size) read
  | bytes => exact held_of_scalar .bytes read
  | string => exact held_of_scalar .string read
  | array _ ih =>
      obtain ⟨items, rfl, _, each⟩ := exists_items_of_decode ih read
      exact held_array each
  | tuple _ ih =>
      obtain ⟨values, rfl, each⟩ := exists_members_of_decode ih read
      exact held_tuple each

/-- One item without a JSON form leaves all items without one. -/
theorem Value.toJsons?_eq_none {items : List Value} {item : Value} (among : item ∈ items)
    (formless : item.toJson? = none) : toJsons? items = none := by
  induction items with
  | nil => exact absurd among List.not_mem_nil
  | cons first rest ih =>
      rw [toJsons?]
      rcases List.mem_cons.mp among with rfl | behind
      · rw [formless]
      · rw [ih behind]
        cases first.toJson? with
        | none => rfl
        | some json => rfl

/-- A result in which a decimal number is has no JSON form, at whatever depth the number stands. -/
theorem Value.IsResult.toJson?_eq_none (result : value.IsResult)
    (holds : value.holdsDecimal = true) : value.toJson? = none := by
  induction result with
  | bool | int | text | bytes => exact nomatch holds
  | decimal => rfl
  | @items value items found _ ih =>
      rw [toJson?_of_items found, Option.map_eq_none_iff]
      rw [holdsDecimal_of_items found, ← Bool.not_eq_false, anyHoldsDecimal_eq_false] at holds
      push Not at holds
      obtain ⟨item, among, inside⟩ := holds
      exact toJsons?_eq_none among (ih item among (Bool.eq_true_of_not_eq_false inside))

end Abi

namespace Engine

open Abi

variable {params : List Param} {data : Bytes} {value : Value}

/-- What is decoded for a shape is a result, and no part of it is a decimal number unless a type of
the shape has decimal places. -/
theorem held_of_decodeResult (decoded : decodeResult params data = .ok value) :
    value.IsResult ∧ ∀ types, Ty.ofParams params = .ok types → (∀ ty ∈ types, ty.Whole) →
      value.holdsDecimal = false := by
  unfold decodeResult at decoded
  obtain ⟨_, _, decoded⟩ := bind_eq_ok.mp decoded
  obtain ⟨types, typed, decoded⟩ := bind_eq_ok.mp decoded
  obtain ⟨values, read, decoded⟩ := bind_eq_ok.mp decoded
  have named := mapError_eq_ok.mp typed
  have yields : AllYield Held data types := by
    intro ty among
    obtain ⟨param, _, found⟩ := exists_of_mem_mapM named ty among
    exact decode_held (fitting_of_ofText found)
  have each := decodeResults_allowed yields (mapError_eq_ok.mp read)
  have same (others : List Ty) (found : Ty.ofParams params = .ok others) : others = types :=
    Except.ok.inj (found.symm.trans named)
  match values, decoded, each with
  | [own], decoded, .cons held .nil =>
      cases decoded
      refine ⟨held.result, fun others found whole => held.whole ?_⟩
      rw [same others found] at whole
      exact whole _ List.mem_cons_self
  | [], decoded, each | _ :: _ :: _, decoded, each =>
      cases decoded
      obtain ⟨result, whole⟩ := @held_items (.list _) _ _ rfl each
      exact ⟨result, fun others found => same others found ▸ whole⟩

end Engine

namespace CommandLine

open Abi

/-- A result with a number with decimal places anywhere in it cannot be printed. -/
theorem printed_of_holdsDecimal {value : Value} (result : value.IsResult)
    (holds : value.holdsDecimal = true) : printed value = .error .wrongKind := by
  rw [printed, jsonOf, result.toJson?_eq_none holds]
  rfl

section

variable [Address.CaseRule] (services : Collaborators) (surroundings : Surroundings)

/-- Run a contract with arguments that are given as texts, up to its result. -/
def fetchGiven (path : String) (arguments : List String) (function : String)
    (kind : Option Artifact.Kind) (connection : Connection) : Run Value := do
  let session ← openSession surroundings connection
  let query ← Build.fromSolidity services ((surroundings.text? path).getD "") kind function
  if arguments.length ≠ query.inputs.length then
    Run.fail (.badArgument (function ++ "() takes " ++ toString query.inputs.length ++
      " argument(s), got " ++ toString arguments.length))
  else
    let values ← coerceAll query.inputs arguments
    Engine.fetch services session.engine query values

/-- The commands that print a result, with what they do before they print it. -/
inductive Fetches : Invocation → Run Value → Prop
  | query (text : String) (sources : List SourceOption) (connection : Connection) :
      Fetches (.query text sources connection) (do
        let session ← prepare surroundings sources connection
        session.fetchText services text)
  | solidity (path : String) (arguments : List String) (function : String)
      (kind : Option Artifact.Kind) (connection : Connection) :
      Fetches (.solidity path arguments function kind connection)
        (fetchGiven services surroundings path arguments function kind connection)

variable {services surroundings} {invocation : Invocation} {fetched : Run Value} {value : Value}

/-- A command prints what it fetched, and does nothing else behind it. So how it ends is known from
what was fetched. -/
theorem Fetches.run_eq (fetches : Fetches services surroundings invocation fetched) :
    invocation.run services surroundings = ⟨fetched.events, fetched.outcome >>= printed⟩ := by
  rw [← Run.bind_liftM_eq]
  cases fetches with
  | query text sources connection =>
      rw [Run.bind_assoc]
      exact runQuery_eq surroundings services text sources connection
  | solidity path arguments function kind connection =>
      simp only [fetchGiven, Run.bind_assoc, Invocation.run]
      unfold runSolidity
      refine congrArg (openSession surroundings connection >>= ·) (funext fun session => ?_)
      refine congrArg (Build.fromSolidity services _ kind function >>= ·) (funext fun query => ?_)
      split
      · rfl
      · rw [Run.bind_assoc]

/-- A result was decoded from some data for the outputs of its query: nothing else can make a fetch
succeed. -/
theorem exists_of_fetch {engine : String} {query : Query} {arguments : List Value}
    (ended : (Engine.fetch services engine query arguments).outcome = .ok value) :
    ∃ data, Engine.decodeResult query.outputs data = .ok value := by
  unfold Engine.fetch at ended
  obtain ⟨_, _, ended⟩ := Run.outcome_bind_eq_ok.mp ended
  obtain ⟨_, _, ended⟩ := Run.outcome_bind_eq_ok.mp ended
  obtain ⟨data, _, ended⟩ := Run.outcome_bind_eq_ok.mp ended
  obtain ⟨_, _, ended⟩ := Run.outcome_bind_eq_ok.mp ended
  exact ⟨data, ended⟩

/-- What a command fetched has been decoded for the outputs of some query, whichever command it was.
-/
theorem Fetches.exists_decoded (fetches : Fetches services surroundings invocation fetched)
    (ended : fetched.outcome = .ok value) :
    ∃ params data, Engine.decodeResult params data = .ok value := by
  cases fetches with
  | query text sources connection =>
      obtain ⟨_, _, ended⟩ := Run.outcome_bind_eq_ok.mp ended
      obtain ⟨_, _, ended⟩ := Run.outcome_bind_eq_ok.mp ended
      exact ⟨_, exists_of_fetch ended⟩
  | solidity path arguments function kind connection =>
      unfold fetchGiven at ended
      obtain ⟨_, _, ended⟩ := Run.outcome_bind_eq_ok.mp ended
      obtain ⟨query, _, ended⟩ := Run.outcome_bind_eq_ok.mp ended
      split at ended
      · exact nomatch ended
      · obtain ⟨_, _, ended⟩ := Run.outcome_bind_eq_ok.mp ended
        exact ⟨_, exists_of_fetch ended⟩

/-- **A result is printed unless a decimal number is in it.** A result of any shape that holds no
decimal number is printed as a document of its JSON form, and one that holds one is not; only types
with decimal places have such results. A command that fetched its result ends in the same way: it
shows the document, or fails without a report. -/
theorem printed_unless_decimal (services : Collaborators) (surroundings : Surroundings) :
    (∀ params data value, Engine.decodeResult params data = .ok value →
      (value.holdsDecimal = false → ∃ json, PrintsAs value json) ∧
      (value.holdsDecimal = true → printed value = .error .wrongKind) ∧
      ∀ types, Ty.ofParams params = .ok types → (∀ ty ∈ types, ty.Whole) →
        value.holdsDecimal = false) ∧
    ∀ words invocation fetched value,
      Invocation.ofWords surroundings words = .ok invocation →
      Fetches services surroundings invocation fetched → fetched.outcome = .ok value →
      (value.holdsDecimal = false → ∃ text json,
        (execute services surroundings words).outcome = .ok text ∧ Json.ofText text = .ok json ∧
          value.toJson? = some json) ∧
      (value.holdsDecimal = true →
        (execute services surroundings words).outcome = .error (.failed .wrongKind)) := by
  constructor
  · intro params data value decoded
    obtain ⟨result, whole⟩ := Engine.held_of_decodeResult decoded
    exact ⟨exists_printsAs result, printed_of_holdsDecimal result, whole⟩
  · intro words invocation fetched value read fetches ended
    obtain ⟨params, data, decoded⟩ := fetches.exists_decoded ended
    obtain ⟨result, _⟩ := Engine.held_of_decodeResult decoded
    have shown : (execute services surroundings words).outcome =
        (printed value).mapError Refusal.ofFailure := by
      simp only [execute, read, fetches.run_eq, ended]
      rfl
    rw [shown]
    constructor
    · intro whole
      obtain ⟨json, prints⟩ := exists_printsAs result whole
      obtain ⟨text, written, document⟩ := prints.document
      exact ⟨text, json, by rw [written]; rfl, document, prints.form⟩
    · intro holds
      rw [printed_of_holdsDecimal result holds]
      rfl

end

/-- An array of numbers with decimal places is printed as long as it is empty; a single number is
fetched and not printed. -/
theorem printed_unless_decimal_tenths :
    let _ : Address.CaseRule := ⟨false⟩
    let outputs := "\"outputs\":[\x7b\"name\":\"\",\"type\":\"fixed8x1\"\x7d]"
    let artifact := "\x7b\"abi\":[\x7b\"type\":\"function\",\"name\":\"query\"," ++ outputs ++
      "\x7d],\"bytecode\":\x7b\"object\":\"0x00\"\x7d\x7d"
    let services : Collaborators := ⟨fun _ => .ok "", fun _ => .ok (.obj []),
      fun _ _ => .ok (Engine.answerOf (lengthWord 15))⟩
    let surroundings : Surroundings := ⟨[], [("q.json", artifact)]⟩
    let words := ["sol", "q.json"]
    let tenths : Value := .decimal (.ofScaled 15 1)
    (∃ json, PrintsAs (.tuple []) json) ∧ printed (.tuple [tenths]) = .error .wrongKind ∧
      (execute services surroundings words).outcome = .error (.failed .wrongKind) := by
  intro _ outputs artifact services surroundings words tenths
  let params : List Param := [⟨none, "fixed8x1[]", none⟩]
  let connection : Connection := ⟨defaultUrl, "mainnet", 1, none⟩
  let query : Query := ⟨"0x00", [⟨none, "fixed8x1", none⟩], []⟩
  have empty : Engine.decodeResult params (lengthWord 32 ++ lengthWord 0) = .ok (.tuple []) :=
    eq_ok_of_toOption (by decide +kernel)
  have single : Engine.decodeResult params (lengthWord 32 ++ (lengthWord 1 ++ lengthWord 15)) =
      .ok (.tuple [tenths]) :=
    eq_ok_of_toOption (by decide +kernel)
  have read : Invocation.ofWords surroundings words =
      .ok (.solidity "q.json" [] "query" none connection) :=
    eq_ok_of_toOption (by decide +kernel)
  have fetched : (fetchGiven services surroundings "q.json" [] "query" none connection).outcome =
      .ok tenths := by
    obtain ⟨session, opens⟩ := Option.isSome_iff_exists.mp (show
      (openSession surroundings connection).outcome.toOption.isSome = true by decide +kernel)
    have built : (Build.fromSolidity services ((surroundings.text? "q.json").getD "") none
        "query").outcome = .ok query :=
      eq_ok_of_toOption (by decide +kernel)
    have answered : (Engine.fetch services session.engine query []).outcome = .ok tenths := by
      obtain ⟨data, made, _⟩ := Engine.exists_callData [0] []
      have sendable : Engine.programBytes query.bytecode = .ok [0] :=
        eq_ok_of_toOption (by decide +kernel)
      have frames := Engine.frames_call sendable made services session.engine
      have returned : Engine.readAnswer (Engine.answerOf (lengthWord 15)) >>=
          Engine.decodeResult query.outputs = .ok tenths :=
        eq_ok_of_toOption (by decide +kernel)
      exact (Engine.outcome_fetch (List.cons_ne_nil _ _) rfl frames rfl).trans returned
    exact Run.outcome_bind_eq_ok.mpr ⟨session, eq_ok_of_toOption opens,
      Run.outcome_bind_eq_ok.mpr ⟨query, built, answered⟩⟩
  obtain ⟨results, commands⟩ := printed_unless_decimal services surroundings
  exact ⟨(results _ _ _ empty).1 (by decide), (results _ _ _ single).2.1 (by decide),
    (commands _ _ _ _ read (.solidity _ _ _ _ _) fetched).2 (by decide)⟩

/-- Not every decoded result can be printed: a word that stands for a number with decimal places. -/
theorem decoded_not_printed : ¬ ∀ params data value,
    Engine.decodeResult params data = .ok value → ∃ text, printed value = .ok text := by
  intro printable
  have decoded : Engine.decodeResult [⟨none, "ufixed128x18", none⟩]
      (lengthWord 1500000000000000000) = .ok (.decimal (.ofScaled 1500000000000000000 18)) :=
    eq_ok_of_toOption (by decide +kernel)
  obtain ⟨text, written⟩ := printable _ _ _ decoded
  exact nomatch written

end CommandLine

end ChainQuery
