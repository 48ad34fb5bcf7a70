/-
`Call.lean` -- the calls a program makes to a graphics device, from `create_buffer` to `destroy`.

A device hands out objects of nine kinds and numbers each kind from zero. What the host does to it is a
list of calls naming such objects, and that list is all that the rest of the world sees of the
conversation; properties of what is done to the device are properties of this list.
-/
import KernelShader.Bytes

set_option autoImplicit false

namespace KernelShader

/-- The kinds of object a device hands out. -/
inductive ObjectKind where
  | buffer
  | layout
  | group
  | shader
  | pipelineLayout
  | pipeline
  | encoder
  | pass
  | commands
  deriving DecidableEq, Repr

/-- The word in the names of objects of a kind. -/
def ObjectKind.word : ObjectKind → String
  | .buffer => "buffer"
  | .layout => "bgl"
  | .group => "group"
  | .shader => "module"
  | .pipelineLayout => "playout"
  | .pipeline => "pipeline"
  | .encoder => "encoder"
  | .pass => "pass"
  | .commands => "commands"

/-- An object of a device, by its number among those of its kind. -/
structure Ref (kind : ObjectKind) where
  index : Nat
  deriving DecidableEq, Repr

/-- The name of an object. -/
def Ref.name {kind : ObjectKind} (r : Ref kind) : String := kind.word ++ toString r.index

/-- One slot of a bind group: the binding number, the buffer bound there, if it still exists, and how
many of its bytes. -/
structure GroupEntry where
  binding : Nat
  buffer : Option (Ref .buffer)
  size : Nat
  deriving DecidableEq, Repr

/-- Whether the host waits for an answer or is called back. -/
inductive Waiting where
  | sync
  | async
  deriving DecidableEq, Repr

/-- The ending of a call's name that tells how the host waits. -/
def Waiting.ending : Waiting → String
  | .sync => "_sync"
  | .async => "_async"

/-- A call to an adapter or a device. -/
inductive Call where
  | requestAdapter (waiting : Waiting) (preference : String)
  | requestDevice (waiting : Waiting)
  | createBuffer (label : String) (size usage : Nat)
  | writeBuffer (buffer : Ref .buffer) (offset : Nat) (data : Bytes)
  | createLayout (label : String) (bindings : List Nat)
  | createGroup (label : String) (layout : Ref .layout) (entries : List GroupEntry)
  | createShader (label code : String)
  | createPipelineLayout (label : String) (layouts : List (Ref .layout))
  | createPipeline (label : String) (layout : Ref .pipelineLayout) (shader : Ref .shader)
      (entryPoint : String)
  | createEncoder (label : String)
  | beginPass (encoder : Ref .encoder) (label : String)
  | setPipeline (pass : Ref .pass) (pipeline : Ref .pipeline)
  | setGroup (pass : Ref .pass) (index : Nat) (group : Ref .group)
  | dispatch (pass : Ref .pass) (counts : List Nat)
  | endPass (pass : Ref .pass)
  | copy (encoder : Ref .encoder) (source target : Option (Ref .buffer)) (size : Nat)
  | finish (encoder : Ref .encoder)
  | submit (commands : List (Ref .commands))
  | map (waiting : Waiting) (buffer : Ref .buffer)
  | readMapped (buffer : Ref .buffer)
  | unmap (buffer : Ref .buffer)
  | destroy (buffer : Ref .buffer)
  deriving DecidableEq, Repr

/-! ## Records

A call is put on record as its name and its arguments in order. -/

/-- An argument on record. -/
inductive Field where
  | absent
  | number (n : Nat)
  | text (s : String)
  | list (items : List Field)

/-- An object on record, by its name. -/
def Field.ref {kind : ObjectKind} (r : Ref kind) : Field := .text r.name

/-- An object that may be gone. -/
def Field.ref? {kind : ObjectKind} : Option (Ref kind) → Field
  | some r => .ref r
  | none => .absent

namespace Call

/-- The name of a call. -/
def method : Call → String
  | .requestAdapter waiting _ => "request_adapter" ++ waiting.ending
  | .requestDevice waiting => "request_device" ++ waiting.ending
  | .createBuffer .. => "create_buffer"
  | .writeBuffer .. => "write_buffer"
  | .createLayout .. => "create_bind_group_layout"
  | .createGroup .. => "create_bind_group"
  | .createShader .. => "create_shader_module"
  | .createPipelineLayout .. => "create_pipeline_layout"
  | .createPipeline .. => "create_compute_pipeline"
  | .createEncoder _ => "create_command_encoder"
  | .beginPass .. => "begin_compute_pass"
  | .setPipeline .. => "set_pipeline"
  | .setGroup .. => "set_bind_group"
  | .dispatch .. => "dispatch_workgroups"
  | .endPass _ => "end"
  | .copy .. => "copy_buffer_to_buffer"
  | .finish _ => "finish"
  | .submit _ => "submit"
  | .map waiting _ => "map" ++ waiting.ending
  | .readMapped _ => "read_mapped"
  | .unmap _ => "unmap"
  | .destroy _ => "destroy"

/-- The visibility of a binding: the compute stage. -/
def computeStage : Nat := 4

/-- Mapping for reading. -/
def readMode : Nat := 1

/-- The arguments of a call on record. -/
def fields : Call → List Field
  | .requestAdapter _ preference => [.text preference]
  | .requestDevice _ => []
  | .createBuffer label size usage => [.text label, .number size, .number usage]
  | .writeBuffer buffer offset data => [.ref buffer, .number offset, .text data.hex]
  | .createLayout label bindings =>
    [.text label, .list (bindings.map fun binding =>
      .list [.number binding, .number computeStage, .text "storage"])]
  | .createGroup label layout entries =>
    [.text label, .ref layout, .list (entries.map fun e =>
      .list [.number e.binding, .ref? e.buffer, .number 0, .number e.size])]
  | .createShader label code => [.text label, .text code]
  | .createPipelineLayout label layouts => [.text label, .list (layouts.map .ref)]
  | .createPipeline label layout shader entryPoint =>
    [.text label, .ref layout, .ref shader, .text entryPoint]
  | .createEncoder label => [.text label]
  | .beginPass encoder label => [.ref encoder, .text label]
  | .setPipeline pass pipeline => [.ref pass, .ref pipeline]
  | .setGroup pass index group => [.ref pass, .number index, .ref group]
  | .dispatch pass counts => .ref pass :: counts.map .number
  | .endPass pass => [.ref pass]
  | .copy encoder source target size =>
    [.ref encoder, .ref? source, .number 0, .ref? target, .number 0, .number size]
  | .finish encoder => [.ref encoder]
  | .submit commands => [.list (commands.map .ref)]
  | .map _ buffer => [.ref buffer, .number readMode]
  | .readMapped buffer => [.ref buffer]
  | .unmap buffer => [.ref buffer]
  | .destroy buffer => [.ref buffer]

end Call

end KernelShader
