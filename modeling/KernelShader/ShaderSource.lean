/-
`ShaderSource.lean` -- the text of a whole shader: `binding_declaration` and `ShaderSource.text`.

The bindings of the buffers come first, then the helper functions, then the entry point, each on lines of
its own, and a newline at the end even of an empty shader.
-/
import KernelShader.ShaderType.Writer

set_option autoImplicit false

namespace KernelShader

/-- The declaration of a storage buffer, if its numbers can be written. -/
def bindingDeclaration (group binding : Int) (name element : String) : Except Fault String := do
  let group ← Numeral.write group
  let binding ← Numeral.write binding
  return s!"@group({group}) @binding({binding}) var<storage, read_write> {name} : array<{element}>;"

/-- The parts of a shader. -/
structure ShaderSource where
  header : List String := []
  functions : List String := []
  entryPoint : Option String := none
  deriving DecidableEq, Repr

/-- The text of a shader. -/
def ShaderSource.text (s : ShaderSource) : String :=
  "\n".intercalate (s.header ++ s.functions ++ s.entryPoint.toList) ++ "\n"

end KernelShader
