import ChainQuery.Abi.Interface
import ChainQuery.Proofs.Abi.Validation
import ChainQuery.Proofs.Abi.Writing

/-! # Interfaces in any form

A function can be supplied to an interface as it is, in its JSON form or written out
(`Abi.Supplies`), and entries that say they are something else may stand between functions
(`Abi.Lists`). Whatever the mixture, reading the entries gives the functions in their order
(`Abi.normalize_of_lists`).
-/

namespace ChainQuery.Abi

/-- The forms in which a function can be supplied: as it is, in its JSON form if it can be read from
JSON at all, and written out if the notation can write it. -/
inductive Supplies : Function → Entry → Prop
  | known (function : Function) : Supplies function (.function function)
  | json {function : Function} : function.Valid → Supplies function (.json function.toAbi)
  | written {function : Function} : function.Readable →
      Supplies function (.signature function.formatted)

/-- An object that says that it is something else than a function. -/
def IsOther (members : Json.Members) : Prop :=
  ∃ kind, Json.Members.get? members "type" = some kind ∧ kind ≠ .str "function"

/-- Entries that list functions in order, each in one of its forms, with any number of objects
between them that are no functions. -/
inductive Lists : List Function → List Entry → Prop
  | nil : Lists [] []
  | function {function : Function} {functions : List Function} {entry : Entry}
      {entries : List Entry} : Supplies function entry → Lists functions entries →
      Lists (function :: functions) (entry :: entries)
  | other {functions : List Function} {members : Json.Members} {entries : List Entry} :
      IsOther members → Lists functions entries →
      Lists functions (.json (.obj members) :: entries)

namespace Entry

/-- An object without a type, or with that of a function, is read as a function. -/
theorem read_obj_of_function {members : Json.Members}
    (isFunction : (Json.Members.get? members "type").getD (.str "function") = .str "function") :
    (Entry.json (.obj members)).read = (Function.ofJson (.obj members)).orInvalid.map some :=
  if_pos isFunction

/-- An object of another type than a function is passed over, whatever else it has. -/
theorem read_obj_of_other {members : Json.Members} (other : IsOther members) :
    (Entry.json (.obj members)).read = .ok none := by
  obtain ⟨kind, has, different⟩ := other
  apply if_neg
  rw [has]
  exact different

end Entry

/-- A function is read from each of its forms: as it is, from its JSON form, or from a text that
spells it. -/
theorem Supplies.read_eq {function : Function} {entry : Entry}
    (supplies : Supplies function entry) : entry.read = .ok (some function) := by
  cases supplies with
  | known => rfl
  | json valid =>
      have read : (Entry.json function.toAbi).read =
          (Function.ofJson function.toAbi).orInvalid.map some := Entry.read_obj_of_function rfl
      rw [read, Function.ofJson_toAbi valid]
      rfl
  | written readable =>
      have read := parseSignature_written readable
      unfold Entry.read Function.formatted
      simp only [String.toList_ofList, read]

/-- An interface is read entry by entry, in order, and an entry that is passed over adds nothing. -/
theorem normalize_cons (entry : Entry) (rest : List Entry) :
    normalize (entry :: rest) = (do
      let function? ← entry.read
      let functions ← normalize rest
      return function?.toList ++ functions) := rfl

/-- A text among the entries is read as one signature, and every signature gives a function. Unlike
an object, a text is never passed over. -/
theorem Entry.read_signature {text : String} {function? : Option Function} :
    (Entry.signature text).read = .ok function? ↔
      ∃ function, parseSignature text.toList = .ok function ∧ function? = some function := by
  cases parsed : parseSignature text.toList with
  | error fault =>
      have refused : (Entry.signature text).read = .error (.pipeline fault.toError) := by
        simp only [Entry.read, parsed]
        rfl
      rw [refused]
      exact ⟨nofun, fun ⟨_, same, _⟩ => nomatch same⟩
  | ok function =>
      have accepted : (Entry.signature text).read = .ok (some function) := by
        simp only [Entry.read, parsed]
      rw [accepted]
      constructor
      · exact fun same => ⟨function, rfl, (Except.ok.inj same).symm⟩
      · rintro ⟨_, ⟨⟩, rfl⟩
        rfl

/-- Signatures describe one function each, and an interface of signatures is the list of these
functions in their order. -/
theorem normalize_signatures {signatures : List String} {functions : List Function} :
    normalize (signatures.map .signature) = .ok functions ↔
      List.Forall₂ (fun signature function => parseSignature signature.toList = .ok function)
        signatures functions := by
  induction signatures generalizing functions with
  | nil =>
      constructor
      · rintro ⟨⟩
        exact .nil
      · rintro ⟨⟩
        rfl
  | cons signature rest ih =>
      rw [List.map_cons, normalize_cons, bind_eq_ok]
      constructor
      · rintro ⟨_, read, behind⟩
        obtain ⟨first, parsed, rfl⟩ := Entry.read_signature.mp read
        obtain ⟨others, described, same⟩ := bind_eq_ok.mp behind
        obtain rfl := Except.ok.inj same
        exact .cons parsed (ih.mp described)
      · intro all
        cases all with
        | cons parsed others =>
            exact ⟨_, Entry.read_signature.mpr ⟨_, parsed, rfl⟩,
              bind_eq_ok.mpr ⟨_, ih.mpr others, rfl⟩⟩

/-- **The form of a function makes no difference.** Functions that are listed one by one, each as it
is, in its JSON form or written out, with other entries anywhere between them, are read as exactly
these functions in their order. -/
theorem normalize_of_lists {functions : List Function} {entries : List Entry}
    (lists : Lists functions entries) : normalize entries = .ok functions := by
  induction lists with
  | nil => rfl
  | function supplies _ ih =>
      rw [normalize_cons, supplies.read_eq, ih]
      rfl
  | other other _ ih =>
      rw [normalize_cons, Entry.read_obj_of_other other, ih]
      rfl

/-- A function that the notation cannot write, as it is and in its JSON form, one that is written
out, an event and an object without a proper type. -/
theorem normalize_of_lists_mixed :
    let odd : Function := ⟨"two words", [⟨none, "tuple[]", some []⟩], [], "free"⟩
    let plain : Function := ⟨"f", [⟨some "x", "uint256", none⟩], [], "view"⟩
    let event : Json := .obj [("type", .str "event"), ("name", .str "f")]
    let entries : List Entry := [.json event, .function odd, .signature "function f(uint256 x) view",
      .json (.obj [("type", .null)]), .json odd.toAbi]
    Lists [odd, plain, odd] entries ∧ normalize entries = .ok [odd, plain, odd] := by
  intro odd plain event entries
  have valid : odd.Valid := by
    refine ⟨by decide, List.forall_mem_singleton.mpr ?_, fun _ among => absurd among List.not_mem_nil⟩
    refine .mk nofun (by decide) ?_
    rintro members ⟨⟩ member among
    exact absurd among List.not_mem_nil
  have named : NameReadable (some "x") := by
    rintro word ⟨rfl⟩
    decide
  have number : IsElementary "uint256".toList "uint".toList "256".toList [] :=
    ⟨rfl, by decide, by decide, by decide, .nil, by decide, by decide⟩
  have readable : plain.Readable :=
    ⟨by decide, List.forall_mem_singleton.mpr (.elementary named number),
      fun _ among => absurd among List.not_mem_nil, by decide⟩
  have written : plain.formatted = "function f(uint256 x) view" := by decide
  have lists : Lists [odd, plain, odd] entries := by
    refine .other ⟨_, rfl, by decide⟩ (.function (.known odd) (.function ?_ ?_))
    · exact written ▸ .written readable
    · exact .other ⟨_, rfl, nofun⟩ (.function (.json valid) .nil)
  exact ⟨lists, normalize_of_lists lists⟩

end ChainQuery.Abi
