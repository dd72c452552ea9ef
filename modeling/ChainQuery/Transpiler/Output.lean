import ChainQuery.Abi.Signature

/-!
# The output of the transpiler

The transpiler answers with one text: the descriptor of the result, a semicolon and the program.
-/

namespace ChainQuery

/-- Cut the transpiler's output at its first semicolon into descriptor and program. -/
def splitTranspiled (output : List Char) : Except PipelineError (List Char × List Char) :=
  match Text.cutAt ';' output with
  | some (descriptor, program) => .ok (Text.trim descriptor, program)
  | none =>
    .error (.queryRefused (String.ofList output)
      "Transpiler output is missing the ';' separator")

end ChainQuery
