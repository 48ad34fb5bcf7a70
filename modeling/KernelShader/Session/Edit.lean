/-
`Edit.lean` -- correcting types and writing the functions again: `submit_edit`, `confirm` and
`regenerate`.

An edit changes a type table and nothing else. Confirming writes all functions again if a type has
changed since the last time, and otherwise leaves everything as it is, compiled artifact included.
-/
import KernelShader.Session.Basic

set_option autoImplicit false

namespace KernelShader.Session

/-- Gives a variable of a function the type that a value names; tells whether that changed it. -/
def submitEdit (function variableName : String) (type : Value) : SessionM Bool := do
  let s ← get
  let (changed, store) ← liftExcept (s.store.edit function variableName type)
  set { s with store, edited := s.edited || changed }
  return changed

/-- Writes one function again from its table and reports it. -/
def replayOne (dialect : Dialect) (t : Transcript) : SessionM (String × String) := do
  let body ← liftExcept (t.replay dialect)
  report (.regenerated t.name body)
  return (t.name, body)

/-- Writes every function again from its table. The texts are replaced only once all of them are
written. -/
def replayAll : SessionM Unit := do
  let s ← get
  let bodies ← s.store.values.mapM (replayOne s.config.dialect)
  modify fun s => { s with bodies := .ofEntries bodies }
  invalidate

/-- The shader as it stands. -/
def currentSource : SessionM ShaderSource := do
  liftExcept (← get).source

/-- Writes every function again and shows the shader. -/
def regenerate : SessionM ShaderSource := do
  replayAll
  currentSource

/-- Writes every function again if a type has changed since the last time, and shows the shader. -/
def confirm : SessionM ShaderSource := do
  if (← get).edited then
    let _ ← regenerate
    modify fun s => { s with edited := false }
  else report .unchanged
  currentSource

end KernelShader.Session
