/-
`Memory.lean` -- what commands do to memory.

A compute pass changes what buffers hold but not how long they are, and a kernel that is confined to its
bind groups leaves all other buffers alone. A copy changes one buffer; if that has room for what is copied,
no length changes either. In a list of copies into distinct buffers that are none of the sources, every
copy takes what its source held in the beginning.
-/
import Mathlib.Data.List.GetD
import KernelShader.Proofs.Device.Conversation

set_option autoImplicit false

namespace KernelShader

/-! ## Bytes -/

namespace Bytes

theorem length_overwrite (source target : Bytes) :
    (overwrite source target).length = max source.length target.length := by
  unfold overwrite
  rw [List.length_append, List.length_drop]
  omega

/-- What is written over itself stays. -/
theorem overwrite_self (bytes : Bytes) : overwrite bytes bytes = bytes := by
  simp [overwrite]

theorem take_overwrite {source target : Bytes} {n : Nat} (h : source.length = n) :
    (overwrite source target).take n = source := by
  simp [overwrite, ← h]

theorem drop_overwrite {source target : Bytes} {n : Nat} (h : source.length = n) :
    (overwrite source target).drop n = target.drop n := by
  simp [overwrite, ← h]

theorem length_zeros (size : Nat) : (zeros size).length = size := List.length_replicate

theorem length_ofWords (words : List UInt32) : (ofWords words).length = 4 * words.length := by
  induction words with
  | nil => rfl
  | cons word rest ih =>
    have hword : (ofWord word).length = 4 := rfl
    rw [ofWords, List.flatMap_cons, List.length_append, hword, List.length_cons]
    rw [ofWords] at ih
    omega

end Bytes

/-- How long the buffers are. -/
def Memory.lengths (memory : Memory) : List Nat := memory.map List.length

theorem Memory.getElem?_lengths (memory : Memory) (k : Nat) :
    memory.lengths[k]? = memory[k]?.map List.length := List.getElem?_map ..

/-- Where the lengths are the same, a buffer of the one memory has one of its length in the other. -/
theorem Memory.exists_of_lengths_eq {memory memory' : Memory} (h : memory'.lengths = memory.lengths)
    {k : Nat} {bytes : Bytes} (hbytes : memory[k]? = some bytes) :
    ∃ bytes', memory'[k]? = some bytes' ∧ bytes'.length = bytes.length := by
  have hlength : memory'.lengths[k]? = some bytes.length := by
    rw [h, getElem?_lengths, hbytes, Option.map_some]
  rwa [getElem?_lengths, Option.map_eq_some_iff] at hlength

/-! ## Kernels -/

namespace Kernel

/-- The kernel changes only buffers that are in its bind groups. -/
def Confined (kernel : Kernel) : Prop :=
  ∀ groups counts memory k, (∀ group ∈ groups, ∀ buffer, some buffer ∈ group → buffer.index ≠ k) →
    (kernel groups counts memory)[k]? = memory[k]?

theorem getElem?_onBuffer_of_ne (f : Bytes → Bytes) {buffer : Ref .buffer} {k : Nat}
    (h : buffer.index ≠ k) (memory : Memory) : (onBuffer f buffer memory)[k]? = memory[k]? := by
  rw [onBuffer, List.getElem?_modify]
  simp [h]

/-- Changing one buffer after the other leaves all those alone that are not among them. -/
theorem getElem?_foldl_onBuffer (f : Bytes → Bytes) {k : Nat} (buffers : List (Ref .buffer))
    (h : ∀ buffer ∈ buffers, buffer.index ≠ k) (memory : Memory) :
    (buffers.foldl (fun memory buffer => onBuffer f buffer memory) memory)[k]? = memory[k]? := by
  induction buffers generalizing memory with
  | nil => rfl
  | cons buffer rest ih =>
    rw [List.foldl_cons, ih fun other hother => h other (List.mem_cons_of_mem _ hother)]
    exact getElem?_onBuffer_of_ne f (h buffer List.mem_cons_self) memory

theorem confined_idle : Confined idle := fun _ _ _ _ _ => rfl

theorem confined_incrementWords : Confined incrementWords := by
  intro groups counts memory k h
  refine getElem?_foldl_onBuffer _ _ (fun buffer hbuffer => ?_) memory
  obtain ⟨bound, hbound, hsome⟩ := List.mem_filterMap.mp hbuffer
  obtain ⟨group, hgroup, hmem⟩ := List.mem_flatten.mp hbound
  rw [id] at hsome
  exact h group hgroup buffer (hsome ▸ hmem)

theorem getElem?_run (kernel : Kernel) (groups : List (List (Option (Ref .buffer))))
    (counts : List Nat) (memory : Memory) (k : Nat) :
    (kernel.run groups counts memory)[k]? = memory[k]?.map fun bytes =>
      Bytes.overwrite (((kernel groups counts memory).getD k []).take bytes.length) bytes :=
  List.getElem?_mapIdx

/-- The kernel that does nothing leaves memory as it is. -/
theorem run_idle (groups : List (List (Option (Ref .buffer)))) (counts : List Nat) (memory : Memory) :
    run idle groups counts memory = memory := by
  refine List.ext_getElem? fun k => ?_
  rw [getElem?_run, idle]
  cases hbytes : memory[k]? with
  | none => rfl
  | some bytes =>
    rw [Option.map_some, List.getD_eq_getElem?_getD, hbytes, Option.getD_some, List.take_length,
      Bytes.overwrite_self]

theorem lengths_run (kernel : Kernel) (groups : List (List (Option (Ref .buffer))))
    (counts : List Nat) (memory : Memory) :
    Memory.lengths (kernel.run groups counts memory) = memory.lengths := by
  refine List.ext_getElem? fun k => ?_
  rw [Memory.getElem?_lengths, Memory.getElem?_lengths, getElem?_run, Option.map_map]
  refine congrArg (Option.map · _) (funext fun bytes => ?_)
  rw [Function.comp, Bytes.length_overwrite, List.length_take]
  omega

theorem Confined.getElem?_run {kernel : Kernel} (h : kernel.Confined)
    {groups : List (List (Option (Ref .buffer)))} (counts : List Nat) (memory : Memory) {k : Nat}
    (hk : ∀ group ∈ groups, ∀ buffer, some buffer ∈ group → buffer.index ≠ k) :
    (kernel.run groups counts memory)[k]? = memory[k]? := by
  rw [Kernel.getElem?_run]
  cases hbytes : memory[k]? with
  | none => rfl
  | some bytes =>
    have hkept : (kernel groups counts memory).getD k [] = bytes := by
      rw [List.getD_eq_getElem?_getD, h groups counts memory k hk, hbytes]
      rfl
    rw [Option.map_some, hkept, List.take_length, Bytes.overwrite_self]

end Kernel

/-! ## Copies -/

/-- A copy whose target has room for it, as far as it goes by the lengths of the buffers. -/
def Command.Fits (lengths : List Nat) : Command → Prop
  | .copy _ target size => ∀ buffer n, target = some buffer → lengths[buffer.index]? = some n → size ≤ n
  | .compute .. => True

/-- A copy, and not into the buffer of this number. -/
def Command.Spares (k : Nat) : Command → Prop
  | .copy _ target _ => ∀ buffer, target = some buffer → buffer.index ≠ k
  | .compute .. => False

namespace Device

theorem getElem?_runCopy (d : Device) (memory : Memory) (source target : Ref .buffer) (size k : Nat) :
    (d.runCommand memory (.copy (some source) (some target) size))[k]?
      = if target.index = k then
          memory[k]?.map (Bytes.overwrite ((memory.getD source.index []).take size))
        else memory[k]? := by
  rw [runCommand, List.getElem?_modify]
  by_cases hk : target.index = k
  · simp [hk]
  · simp [hk]

/-- Commands that fit leave the lengths as they are. -/
theorem lengths_runCommand (d : Device) {memory : Memory} {command : Command}
    (h : command.Fits memory.lengths) :
    Memory.lengths (d.runCommand memory command) = memory.lengths := by
  match command with
  | .compute groups counts => exact Kernel.lengths_run _ _ _ _
  | .copy none _ _ => rfl
  | .copy (some _) none _ => rfl
  | .copy (some source) (some target) size =>
    refine List.ext_getElem? fun k => ?_
    rw [Memory.getElem?_lengths, Memory.getElem?_lengths, getElem?_runCopy]
    by_cases hk : target.index = k
    · rw [if_pos hk, Option.map_map]
      cases hbytes : memory[k]? with
      | none => rfl
      | some bytes =>
        have hroom : size ≤ bytes.length := by
          refine h target bytes.length rfl ?_
          rw [Memory.getElem?_lengths, hk, hbytes]
          rfl
        have htaken := List.length_take_le size (memory.getD source.index [])
        simp only [Option.map_some, Function.comp, Bytes.length_overwrite, Option.some.injEq]
        omega
    · rw [if_neg hk]

theorem lengths_foldl_runCommand (d : Device) (commands : List Command) {memory : Memory}
    (h : ∀ command ∈ commands, command.Fits memory.lengths) :
    Memory.lengths (commands.foldl d.runCommand memory) = memory.lengths := by
  induction commands generalizing memory with
  | nil => rfl
  | cons command rest ih =>
    have hfirst := d.lengths_runCommand (h command List.mem_cons_self)
    rw [List.foldl_cons, ih, hfirst]
    intro other hother
    rw [hfirst]
    exact h other (List.mem_cons_of_mem _ hother)

/-- A buffer that no copy goes to holds what it held. -/
theorem getElem?_foldl_of_spares (d : Device) {k : Nat} (commands : List Command) (memory : Memory)
    (h : ∀ command ∈ commands, command.Spares k) :
    (commands.foldl d.runCommand memory)[k]? = memory[k]? := by
  induction commands generalizing memory with
  | nil => rfl
  | cons command rest ih =>
    rw [List.foldl_cons, ih _ fun other hother => h other (List.mem_cons_of_mem _ hother)]
    have hspares := h command List.mem_cons_self
    match command with
    | .compute _ _ => exact absurd hspares id
    | .copy none _ _ => rfl
    | .copy (some _) none _ => rfl
    | .copy (some source) (some target) size =>
      rw [getElem?_runCopy, if_neg (hspares target rfl)]

/-- **A copy among others.** If no other copy goes to its target, and none before it to its source, it
takes what the source held in the beginning and puts it over the front of what the target held. -/
theorem getElem?_foldl_of_copy (d : Device) {before later : List Command} {source target : Ref .buffer}
    {size : Nat} (memory : Memory) (hsource : ∀ command ∈ before, command.Spares source.index)
    (htarget : ∀ command ∈ before, command.Spares target.index)
    (hlater : ∀ command ∈ later, command.Spares target.index) :
    ((before ++ .copy (some source) (some target) size :: later).foldl d.runCommand
        memory)[target.index]?
      = memory[target.index]?.map
          (Bytes.overwrite ((memory.getD source.index []).take size)) := by
  have hread : (before.foldl d.runCommand memory).getD source.index [] = memory.getD source.index [] := by
    rw [List.getD_eq_getElem?_getD, getElem?_foldl_of_spares d before memory hsource,
      List.getD_eq_getElem?_getD]
  rw [List.foldl_append, List.foldl_cons, getElem?_foldl_of_spares d later _ hlater,
    getElem?_runCopy, if_pos rfl, hread, getElem?_foldl_of_spares d before memory htarget]

end Device

end KernelShader
