import ChainQuery.Proofs.Build.Requests
import ChainQuery.Proofs.Json.Documents

/-! # Serialized artifacts

An artifact that is written as text is taken for an artifact and read back as it was, so building a
query from the text ends as building it from the artifact does: with the same query, or with the
same failure, which may show the artifact (`Build.fromSolidity_serialized`).
-/

namespace ChainQuery

open CoreArithmetic

namespace Artifact

variable {members : Json.Members} {text : String}

theorem parse_serialized (exact : Json.Exact (.obj members))
    (written : (Json.obj members).serialized? = some text) :
    Json.parse text.toList = .ok (.obj members) := by
  obtain ⟨writable, rfl⟩ := Json.serialized?_eq_some.mp written
  rw [Json.compactText, String.toList_ofList]
  exact Json.parse_compact exact writable

/-- The serialized text of an object is taken for an artifact and not for a source. -/
theorem detectKind_serialized (exact : Json.Exact (.obj members))
    (written : (Json.obj members).serialized? = some text) :
    detectKind text.toList = .serialized := by
  rw [detectKind, parse_serialized exact written]

theorem load_serialized (exact : Json.Exact (.obj members))
    (written : (Json.obj members).serialized? = some text) : load text = .ok (.obj members) := by
  rw [load, Json.ofText, parse_serialized exact written]

end Artifact

namespace Build

/-- A text that is taken for an artifact makes no requests. -/
theorem SourceRequests.eq_nil {text : String} {kind : Option Artifact.Kind} {events : List Event}
    (requests : SourceRequests text kind events)
    (notSource : kind.getD (Artifact.detectKind text.toList) ≠ .rawSource) : events = [] := by
  cases requests with
  | source isSource => exact absurd isSource notSource
  | other _ => rfl

/-- **Serializing an artifact changes nothing.** Whatever object is written as text, the text is
taken for an artifact, and a query is built from it as from the object itself: it ends alike, and
nobody is asked for anything. -/
theorem fromSolidity_serialized (services : Collaborators) {members : Json.Members} {text : String}
    (exact : Json.Exact (.obj members)) (written : (Json.obj members).serialized? = some text)
    (function : String) :
    Artifact.detectKind text.toList = .serialized ∧
      ∀ kind ∈ [none, some Artifact.Kind.serialized],
        (fromSolidity services text kind function).outcome =
            (Artifact.normalize (.obj members) function).outcome ∧
          Event.requests (fromSolidity services text kind function).events = [] := by
  have detected := Artifact.detectKind_serialized exact written
  refine ⟨detected, ?_⟩
  intro kind among
  have known : kind.getD (Artifact.detectKind text.toList) = .serialized := by
    rw [detected]
    rcases List.mem_cons.mp among with rfl | among
    · rfl
    · rw [List.mem_singleton.mp among]
      rfl
  constructor
  · unfold fromSolidity
    rw [Run.outcome_bind_ok (outcome_kindOf text kind), known]
    dsimp only
    rw [Artifact.load_serialized exact written, Run.liftM_ok_bind]
  · apply (requests_fromSolidity services text kind function).eq_nil
    rw [known]
    decide

/-- An object without a program, with a name outside of ASCII and a number beyond 64 bits, is shown
as it is. -/
theorem fromSolidity_serialized_unicode :
    let members : Json.Members := [("имя \"😀\"\n", .arr [.int (-2 ^ 70), .null, .obj []]),
      ("evm", .bool true)]
    let services : Collaborators :=
      ⟨fun _ => .error .noMembers, fun _ => .error .noMembers, fun _ _ => .ok []⟩
    (fromSolidity services (Json.obj members).compactText none "query").outcome =
      .error (.pipeline (.missingBytecode (.obj members))) := by
  intro members services
  have exact : Json.Exact (.obj members) := by
    refine .obj (by decide) (List.forall_mem_cons.mpr ⟨.arr ?_, ?_⟩)
    · refine List.forall_mem_cons.mpr ⟨.int _, List.forall_mem_cons.mpr ⟨.null, ?_⟩⟩
      exact List.forall_mem_singleton.mpr (.obj List.nodup_nil nofun)
    · exact List.forall_mem_singleton.mpr (.bool true)
  have written : (Json.obj members).serialized? = some (Json.obj members).compactText :=
    Json.serialized?_eq_some.mpr ⟨by decide +kernel, rfl⟩
  obtain ⟨_, alike⟩ := fromSolidity_serialized services exact written "query"
  exact (alike none List.mem_cons_self).1

end Build

end ChainQuery
