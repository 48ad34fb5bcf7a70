/-
`Record.lean` -- what the record of a device tells about its objects.

A device hands out numbers, and its trace lists calls. To say that a pipeline was made from a certain
text, the two have to be brought together: the objects of a kind are numbered in the order of the calls
that made them, leaving out the calls that failed. Counting is done from the end of the record, the
latest object belonging to the latest such call, because a device may have been in use before, with a
record that began later than its numbering (`Device.maker`).

A record only grows, and while it does, an object keeps its maker (`Device.Extends`).
-/
import KernelShader.Device.Basic
import KernelShader.Proofs.Outcome

set_option autoImplicit false

namespace KernelShader

/-- The kind of object that a call hands out. -/
def Call.makes : Call → Option ObjectKind
  | .createBuffer .. => some .buffer
  | .createLayout .. => some .layout
  | .createGroup .. => some .group
  | .createShader .. => some .shader
  | .createPipelineLayout .. => some .pipelineLayout
  | .createPipeline .. => some .pipeline
  | .createEncoder _ => some .encoder
  | .beginPass .. => some .pass
  | .finish _ => some .commands
  | _ => none

namespace Device

/-! ## Objects and the calls that made them -/

/-- How many objects of a kind the device has handed out. -/
def tally (d : Device) : ObjectKind → Nat
  | .buffer => d.memory.length
  | .layout => d.layouts
  | .group => d.groups.length
  | .shader => d.shaders
  | .pipelineLayout => d.pipelineLayouts
  | .pipeline => d.pipelines
  | .encoder => d.encoders.length
  | .pass => d.passes.length
  | .commands => d.commands.length

/-- Those of the calls that went through, after the calls made before them. -/
def passed (failures : Failures) : (before calls : List Call) → List Call
  | _, [] => []
  | before, call :: calls =>
    if (failures before call).isNone then call :: passed failures (before ++ [call]) calls
    else passed failures (before ++ [call]) calls

theorem passed_append (failures : Failures) (before calls more : List Call) :
    passed failures before (calls ++ more)
      = passed failures before calls ++ passed failures (before ++ calls) more := by
  induction calls generalizing before with
  | nil => rw [List.append_nil, List.nil_append, passed, List.nil_append]
  | cons call rest ih =>
    simp only [List.cons_append, passed]
    by_cases h : (failures before call).isNone = true
    · rw [if_pos h, if_pos h, ih, List.cons_append, List.append_assoc, List.singleton_append]
    · rw [if_neg h, if_neg h, ih, List.append_assoc, List.singleton_append]

/-- Those of the calls that made an object of the kind. -/
def making (failures : Failures) (kind : ObjectKind) (before calls : List Call) : List Call :=
  (passed failures before calls).filter (·.makes == some kind)

theorem making_append (failures : Failures) (kind : ObjectKind) (before calls more : List Call) :
    making failures kind before (calls ++ more)
      = making failures kind before calls ++ making failures kind (before ++ calls) more := by
  rw [making, passed_append, List.filter_append]
  rfl

/-- The call that made an object: the latest object of a kind was made by the latest call that made
one. -/
def maker (d : Device) {kind : ObjectKind} (r : Ref kind) : Option Call :=
  if r.index < d.tally kind then
    (making d.failures kind [] d.trace).reverse[d.tally kind - 1 - r.index]?
  else none

/-- A device has the objects whose maker it knows. -/
theorem lt_of_maker {d : Device} {kind : ObjectKind} {r : Ref kind} {call : Call}
    (h : d.maker r = some call) : r.index < d.tally kind := by
  unfold maker at h
  by_cases hlt : r.index < d.tally kind
  · exact hlt
  · simp [hlt] at h

/-! ## Growing records -/

/-- The device goes on from where it was: more calls, and one more object for each that made one. -/
structure Extends (d d' : Device) : Prop where
  failures : d'.failures = d.failures
  calls : ∃ calls, d'.trace = d.trace ++ calls ∧
    ∀ kind, d'.tally kind = d.tally kind + (making d.failures kind d.trace calls).length

instance : IsPreorder Device Extends where
  refl d := ⟨rfl, [], (List.append_nil _).symm, fun _ => rfl⟩
  trans d d₁ d₂ h h' := by
    obtain ⟨calls, htrace, htally⟩ := h.calls
    obtain ⟨more, htrace', htally'⟩ := h'.calls
    refine ⟨h'.failures.trans h.failures, calls ++ more, ?_, ?_⟩
    · rw [htrace', htrace, List.append_assoc]
    · intro kind
      rw [htally', htally, making_append, List.length_append, htrace, h.failures, Nat.add_assoc]

theorem Extends.tally_le {d d' : Device} (h : Extends d d') (kind : ObjectKind) :
    d.tally kind ≤ d'.tally kind := by
  obtain ⟨calls, -, htally⟩ := h.calls
  rw [htally]
  exact Nat.le_add_right _ _

/-- Who made an object does not change afterwards. -/
theorem Extends.maker_eq {d d' : Device} (h : Extends d d') {kind : ObjectKind} {r : Ref kind}
    {call : Call} (hmaker : d.maker r = some call) : d'.maker r = some call := by
  obtain ⟨calls, htrace, htally⟩ := h.calls
  unfold maker at hmaker ⊢
  by_cases hlt : r.index < d.tally kind
  · rw [if_pos hlt] at hmaker
    have hlt' : r.index < d'.tally kind := by rw [htally]; omega
    -- counted from the end, the old object has moved by as many places as objects have been added
    rw [if_pos hlt', h.failures, htrace, making_append, List.nil_append, List.reverse_append,
      List.getElem?_append_right (by rw [List.length_reverse, htally]; omega), ← hmaker]
    congr 1
    rw [List.length_reverse, htally]
    omega
  · rw [if_neg hlt] at hmaker
    exact nomatch hmaker

/-! ## Single calls -/

/-- The device with one more call on its record. -/
def called (d : Device) (call : Call) : Device := { d with trace := d.trace ++ [call] }

theorem tally_called (d : Device) (call : Call) (kind : ObjectKind) :
    (d.called call).tally kind = d.tally kind := by
  cases kind <;> rfl

theorem making_singleton (failures : Failures) (kind : ObjectKind) (before : List Call)
    (call : Call) :
    making failures kind before [call]
      = if (failures before call).isNone ∧ call.makes = some kind then [call] else [] := by
  unfold making
  simp only [passed]
  by_cases hpass : (failures before call).isNone = true
  · rw [if_pos hpass]
    by_cases hmakes : call.makes = some kind
    · rw [if_pos ⟨hpass, hmakes⟩, List.filter_cons, hmakes, beq_self_eq_true, if_pos rfl,
        List.filter_nil]
    · have hne : (call.makes == some kind) = false := beq_false_of_ne hmakes
      rw [if_neg (fun h => hmakes h.2), List.filter_cons, hne]
      rfl
  · rw [if_neg hpass, if_neg (fun h => hpass h.1), List.filter_nil]

/-- What a call does once it has gone through: it counts the object it makes, and leaves the record and
the failures alone. -/
structure Follows (call : Call) (d d' : Device) : Prop where
  failures : d'.failures = d.failures
  trace : d'.trace = d.trace
  tally : ∀ kind, d'.tally kind = d.tally kind + if call.makes = some kind then 1 else 0

theorem Follows.silent {call : Call} {d d' : Device} (hmakes : call.makes = none)
    (hfailures : d'.failures = d.failures) (htrace : d'.trace = d.trace)
    (htally : ∀ kind, d'.tally kind = d.tally kind) : Follows call d d' := by
  refine ⟨hfailures, htrace, fun kind => ?_⟩
  rw [htally, hmakes, if_neg (Option.some_ne_none kind).symm, Nat.add_zero]

theorem Follows.making {call : Call} {d d' : Device} {made : ObjectKind}
    (hmakes : call.makes = some made) (hfailures : d'.failures = d.failures)
    (htrace : d'.trace = d.trace)
    (htally : ∀ kind, d'.tally kind = d.tally kind + if made = kind then 1 else 0) :
    Follows call d d' := by
  refine ⟨hfailures, htrace, fun kind => ?_⟩
  rw [htally, hmakes]
  simp only [Option.some.injEq]

theorem extends_of_failed {d : Device} {call : Call} (h : d.failures d.trace call ≠ none) :
    Extends d (d.called call) := by
  refine ⟨rfl, [call], rfl, ?_⟩
  intro kind
  have hnot : ¬ (d.failures d.trace call).isNone = true :=
    fun hnone => h (Option.isNone_iff_eq_none.mp hnone)
  rw [tally_called, making_singleton, if_neg (fun hand => hnot hand.1), List.length_nil, Nat.add_zero]

theorem extends_of_follows {d d' : Device} {call : Call} (h : d.failures d.trace call = none)
    (hfollows : Follows call (d.called call) d') : Extends d d' := by
  refine ⟨hfollows.failures, [call], hfollows.trace, ?_⟩
  intro kind
  rw [hfollows.tally, tally_called, making_singleton, h]
  by_cases hmakes : call.makes = some kind
  · rw [if_pos hmakes, if_pos ⟨rfl, hmakes⟩, List.length_singleton]
  · rw [if_neg hmakes, if_neg (fun hand => hmakes hand.2), List.length_nil]

/-- The object that a call makes is the next of its kind, and the call is its maker. -/
theorem maker_of_follows {d d' : Device} {call : Call} {kind : ObjectKind}
    (h : d.failures d.trace call = none) (hfollows : Follows call (d.called call) d')
    (hmakes : call.makes = some kind) : d'.maker (⟨d.tally kind⟩ : Ref kind) = some call := by
  have htally : d'.tally kind = d.tally kind + 1 := by
    rw [hfollows.tally, tally_called, if_pos hmakes]
  have hmaking : making d'.failures kind [] d'.trace
      = making d.failures kind [] d.trace ++ [call] := by
    rw [hfollows.failures, hfollows.trace]
    change making d.failures kind [] (d.trace ++ [call]) = _
    rw [making_append, List.nil_append, making_singleton, h, if_pos ⟨rfl, hmakes⟩]
  unfold maker
  rw [htally, if_pos (Nat.lt_succ_self _), hmaking, List.reverse_append,
    show d.tally kind + 1 - 1 - d.tally kind = 0 by omega]
  rfl

/-- None of the calls that may come is going to fail. -/
def Willing (d : Device) : Prop := ∀ later call, d.failures (d.trace ++ later) call = none

theorem Willing.failures_eq_none {d : Device} (h : d.Willing) (call : Call) :
    d.failures d.trace call = none := by
  have hnow := h [] call
  rwa [List.append_nil] at hnow

theorem Extends.willing {d d' : Device} (h : Extends d d') (hwilling : d.Willing) : d'.Willing := by
  obtain ⟨calls, htrace, -⟩ := h.calls
  intro later call
  rw [h.failures, htrace, List.append_assoc]
  exact hwilling (calls ++ later) call

end Device

end KernelShader
