/-
`Pipeline.lean` -- bind group layouts, bind groups and the compute pipeline:
`build_bind_group_layout`, `build_bind_group` and `PipelineBuilder.compile`.

A layout is built for the inputs registered at that moment and remembers their places. It may be used as
long as these are the places of the inputs, and is refused before any call to the device afterwards.
Every group from zero to the greatest in use has a layout and a bind group, those without inputs empty
ones.
-/
import KernelShader.Rig.Basic

set_option autoImplicit false

namespace KernelShader

/-- The layouts of all groups in order, and the inputs they were built for. -/
structure Layout where
  handles : List (Ref .layout)
  signature : Signature
  deriving DecidableEq, Repr

/-- A compiled shader with all that it was built from. -/
structure Artifact where
  shader : Ref .shader
  layout : Layout
  pipelineLayout : Ref .pipelineLayout
  pipeline : Ref .pipeline
  entryPoint : String
  sourceText : String
  deriving DecidableEq, Repr

/-- The inputs an artifact was built for. -/
def Artifact.signature (a : Artifact) : Signature := a.layout.signature

/-- The artifact is what building the given shader for the given inputs would give. -/
def Artifact.matches (a : Artifact) (sourceText entryPoint : String) (signature : Signature) : Bool :=
  a.sourceText == sourceText && a.entryPoint == entryPoint && a.signature == signature

namespace Rig

/-! ## Layouts and bind groups -/

/-- The layout of one group. -/
def createLayout (group : Nat) : RigM (Ref .layout) := do
  let r ← get
  onDevice (Device.createLayout s!"{r.label} bind group layout {group}"
    ((r.groupInputs group).map (·.binding)))

/-- The layout for the inputs registered now (`build_bind_group_layout`). -/
def buildLayout : RigM Layout := do
  let r ← get
  let handles ← r.groups.mapM createLayout
  return ⟨handles, r.signature⟩

/-- The bind group of one group under its layout. -/
def createGroup (group : Nat) (handle : Ref .layout) : RigM (Ref .group) := do
  let r ← get
  onDevice (Device.createGroup s!"{r.label} bind group {group}" handle
    ((r.groupInputs group).map fun i => ⟨i.binding, i.buffer, i.size⟩))

/-- The bind groups under a layout, which has to be one for the inputs registered now
(`build_bind_group`). -/
def buildGroups (layout : Layout) : RigM (List (Ref .group)) := do
  let r ← get
  if layout.signature ≠ r.signature then throw .staleLayout
  (r.groups.zip layout.handles).mapM fun (group, handle) => createGroup group handle

/-! ## Compiling -/

/-- What a fault of the device means while a pipeline is built: what the device rejects is an error in
the shader, anything else stays what it is. -/
def rejection (label : String) : Fault → Fault
  | .device .runtime message => .device .runtime message
  | .device _ message => .pipelineFailed label message
  | fault => fault

/-- Has the device build module, pipeline layout and pipeline. -/
def buildPipeline (label sourceText entryPoint : String) (layouts : List (Ref .layout)) :
    DeviceM (Ref .shader × Ref .pipelineLayout × Ref .pipeline) := do
  let shader ← Device.createShader s!"{label} module" sourceText
  let layout ← Device.createPipelineLayout s!"{label} layout" layouts
  let pipeline ← Device.createPipeline label layout shader entryPoint
  return (shader, layout, pipeline)

/-- Compiles a shader for the inputs in `signature`, under a layout that has to be one for them. -/
def compile (sourceText entryPoint : String) (layout : Layout) (signature : Signature) :
    RigM Artifact := do
  if layout.signature ≠ signature then
    throw (.layoutCovers (layout.signature.map (·.name)) (signature.map (·.name)))
  let label := (← get).label
  let (shader, pipelineLayout, pipeline) ←
    (onDevice (buildPipeline label sourceText entryPoint layout.handles)).adapt (rejection label)
  report (.pipelineBuilt label entryPoint)
  return { shader, layout, pipelineLayout, pipeline, entryPoint, sourceText }

end Rig

end KernelShader
