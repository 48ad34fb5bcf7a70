/-
`Mapping.lean` -- reading back leaves no buffer mapped, and waiting makes no difference to it.

To read an output its buffer is mapped, read and unmapped. Mapping may fail, and then there is nothing to undo;
behind a mapping that went through the other two calls are made whatever comes of them
(`readOutput_cases`). So however a reading back ends, every mapping on record has been undone once before the
next one (`Paired`).

The two ways of waiting differ in the name of one call. From devices that fail at the same calls up to that
name the two readings go side by side, call by call, and end with the same values or the same fault
(`Matches`).
-/
import KernelShader.Proofs.Rig.Calls

set_option autoImplicit false

namespace KernelShader

/-! ## Mappings on record -/

/-- The call maps a buffer. -/
def Call.maps : Call → Bool
  | .map .. => true
  | _ => false

/-- The call with the given way of waiting, if it maps a buffer. -/
def Call.waitingBy (waiting : Waiting) : Call → Call
  | .map _ buffer => .map waiting buffer
  | call => call

theorem Call.maps_waitingBy (waiting : Waiting) (call : Call) : (call.waitingBy waiting).maps = call.maps := by
  cases call <;> rfl

theorem Call.waitingBy_waitingBy (waiting waiting' : Waiting) (call : Call) :
    (call.waitingBy waiting).waitingBy waiting' = call.waitingBy waiting' := by
  cases call <;> rfl

/-- Every mapping that goes through is undone: its buffer is unmapped exactly once before the next mapping and
before the calls end. -/
def Paired (failures : Failures) (before calls : List Call) : Prop :=
  ∀ front waiting buffer rest, calls = front ++ .map waiting buffer :: rest →
    failures (before ++ front) (.map waiting buffer) = none →
    (rest.takeWhile (!·.maps)).count (.unmap buffer) = 1

namespace Paired

variable {failures : Failures} {before : List Call}

theorem nil : Paired failures before [] := by
  intro front waiting buffer rest hcalls
  simp at hcalls

/-- A mapping that fails. -/
theorem of_failed {waiting : Waiting} {buffer : Ref .buffer}
    (h : failures before (.map waiting buffer) ≠ none) : Paired failures before [.map waiting buffer] := by
  intro front waiting' buffer' rest hcalls hpassed
  cases front with
  | nil =>
    obtain ⟨hcall, -⟩ := List.cons.inj hcalls
    rw [List.append_nil, ← hcall] at hpassed
    exact absurd hpassed h
  | cons _ front => simp at hcalls

/-- Nothing may stand in front of the first mapping of what follows. -/
theorem append {calls more : List Call} (h : Paired failures before calls)
    (hmore : Paired failures (before ++ calls) more) (hfront : more.takeWhile (!·.maps) = []) :
    Paired failures before (calls ++ more) := by
  intro front waiting buffer rest hcalls hpassed
  rcases List.append_eq_append_iff.mp hcalls with ⟨middle, rfl, hrest⟩ | ⟨middle, rfl, hrest⟩
  · rw [← List.append_assoc] at hpassed
    exact hmore middle waiting buffer rest hrest hpassed
  · cases middle with
    | nil => exact hmore [] waiting buffer rest hrest.symm (by simpa using hpassed)
    | cons call middle =>
      rw [List.cons_append] at hrest
      obtain ⟨rfl, rfl⟩ := List.cons.inj hrest
      have hcount := h front waiting buffer middle rfl hpassed
      rw [List.takeWhile_append, hfront, List.append_nil]
      split_ifs with hlength
      · rwa [(List.takeWhile_prefix _).eq_of_length hlength] at hcount
      · exact hcount

end Paired

/-! ## Reading an output -/

namespace Device

theorem state_perform (call : Call) (d : Device) : (outcome (perform call) d).2 = d.called call := by
  rw [outcome_perform]
  cases d.failures d.trace call with
  | none => rfl
  | some failure => rfl

theorem state_readMapped (buffer : Ref .buffer) (d : Device) :
    (outcome (readMapped buffer) d).2 = d.called (.readMapped buffer) := by
  unfold readMapped
  cases h : d.failures d.trace (.readMapped buffer) with
  | none =>
    rw [outcome_call_of_none h]
    rfl
  | some failure => rw [outcome_call_of_some h]

end Device

namespace Rig

/-- The calls by which a buffer is read. -/
def readCalls (waiting : Waiting) (buffer : Ref .buffer) : List Call :=
  [.map waiting buffer, .readMapped buffer, .unmap buffer]

theorem paired_readCalls (failures : Failures) (before : List Call) (waiting : Waiting) (buffer : Ref .buffer) :
    Paired failures before (readCalls waiting buffer) := by
  intro front waiting' buffer' rest hcalls _
  cases front with
  | nil =>
    obtain ⟨hcall, rfl⟩ := List.cons.inj hcalls
    obtain ⟨-, rfl⟩ := Call.map.inj hcall
    simp [Call.maps]
  | cons _ front =>
    -- the other two calls map nothing
    have hmem : Call.map waiting' buffer' ∈ [.readMapped buffer, .unmap buffer] := by
      rw [(List.cons.inj hcalls).2]
      exact List.mem_append_right front List.mem_cons_self
    simp at hmem

/-- The rig after a call that had no effect of its own. -/
def called (r : Rig) (call : Call) : Rig := { r with device := r.device.map (·.called call) }

theorem called_of_none {r : Rig} (h : r.device = none) (call : Call) : r.called call = r := by
  rw [called, h, Option.map_none, ← h]

theorem trace_called {r : Rig} {d : Device} (h : r.device = some d) (call : Call) :
    (r.called call).trace = r.trace ++ [call] := by
  simp only [called, trace, h, Option.map_some]
  rfl

theorem trace_called_readCalls {r : Rig} {d : Device} (h : r.device = some d) (waiting : Waiting)
    (buffer : Ref .buffer) :
    (((r.called (.map waiting buffer)).called (.readMapped buffer)).called (.unmap buffer)).trace
      = r.trace ++ readCalls waiting buffer := by
  simp only [called, trace, h, Option.map_some, Device.called, readCalls, List.append_assoc, List.cons_append,
    List.nil_append]

theorem state_onDevice {α : Type} {m : DeviceM α} {call : Call} (hm : ∀ d, (outcome m d).2 = d.called call)
    (r : Rig) : (outcome (onDevice m) r).2 = r.called call := by
  cases hdevice : r.device with
  | none => rw [outcome_onDevice_of_none hdevice, called_of_none hdevice]
  | some d => rw [outcome_onDevice_of_some hdevice, hm, called, hdevice, Option.map_some]

theorem state_readMapped (buffer : Ref .buffer) (r : Rig) :
    (outcome (readMapped buffer) r).2 = r.called (.readMapped buffer) := by
  have hstate := state_onDevice (Device.state_readMapped buffer) r
  unfold readMapped
  rcases hread : outcome (onDevice (Device.readMapped buffer)) r with ⟨x, r₁⟩
  rw [hread] at hstate
  cases x with
  | error fault => rw [Outcome.bind_of_error hread, hstate]
  | ok bytes =>
    rw [Outcome.bind_of_ok hread, ← hstate]
    by_cases hwhole : bytes.length % 4 ≠ 0
    · rw [if_pos hwhole]
      rfl
    · rw [if_neg hwhole]
      rfl

/-- **The calls for one output.** Without a buffer there are none. If the mapping fails, it is the only call. If
it goes through, the buffer is read and unmapped, whatever comes of these two. -/
theorem readOutput_cases (waiting : Waiting) (o : Output) (r : Rig) :
    (o.buffer = none ∧ outcome (readOutput waiting o) r = (.error .bufferReleased, r)) ∨
    ∃ buffer, o.buffer = some buffer ∧
      ((∃ fault, (outcome (onDevice (Device.map waiting buffer)) r).1 = .error fault ∧
          outcome (readOutput waiting o) r = (.error fault, r.called (.map waiting buffer))) ∨
        ((outcome (onDevice (Device.map waiting buffer)) r).1 = .ok () ∧
          (outcome (readOutput waiting o) r).2
            = ((r.called (.map waiting buffer)).called (.readMapped buffer)).called (.unmap buffer))) := by
  unfold readOutput
  cases hbuffer : o.buffer with
  | none => exact .inl ⟨rfl, rfl⟩
  | some buffer =>
    refine .inr ⟨buffer, rfl, ?_⟩
    have hmapped := state_onDevice (Device.state_perform (.map waiting buffer)) r
    rcases hmap : outcome (onDevice (Device.map waiting buffer)) r with ⟨x, r₁⟩
    have hr₁ : r₁ = r.called (.map waiting buffer) := by
      rw [← hmapped]
      exact (congrArg Prod.snd hmap).symm
    cases x with
    | error fault => exact .inl ⟨fault, rfl, by rw [← hr₁]; exact Outcome.bind_of_error hmap _⟩
    | ok u =>
      refine .inr ⟨rfl, ?_⟩
      have hobserved : outcome (observing (readMapped buffer)) r₁
          = (.ok (outcome (readMapped buffer) r₁).1, r₁.called (.readMapped buffer)) := by
        rw [Outcome.observing_eq, state_readMapped]
      have hunmapped := state_onDevice (Device.state_perform (.unmap buffer)) (r₁.called (.readMapped buffer))
      rw [Outcome.bind_of_ok hmap, Outcome.bind_of_ok hobserved, ← hr₁, ← hunmapped]
      unfold Device.unmap
      rcases hunmap : outcome (onDevice (Device.perform (.unmap buffer))) (r₁.called (.readMapped buffer))
        with ⟨y, r₂⟩
      cases y with
      | error fault => rw [Outcome.bind_of_error hunmap]
      | ok u =>
        -- passing on what was read, or the fault that was kept back, makes no call
        rw [Outcome.bind_of_ok hunmap, Outcome.liftExcept_bind]
        cases (outcome (readMapped buffer) r₁).1 with
        | error fault => rfl
        | ok bytes => rfl

/-! ## No buffer stays mapped -/

/-- What the device fails at; without a device nothing is called. -/
def deviceFailures (r : Rig) : Failures :=
  match r.device with
  | some d => d.failures
  | none => Failures.none

theorem deviceFailures_called (r : Rig) (call : Call) : (r.called call).deviceFailures = r.deviceFailures := by
  unfold deviceFailures called
  cases r.device with
  | none => rfl
  | some d => rfl

/-- More calls are on record, none of them in front of the first mapping, and every mapping among them that went
through is undone. -/
structure Tidy (r r' : Rig) : Prop where
  failures : r'.deviceFailures = r.deviceFailures
  calls : ∃ calls, r'.trace = r.trace ++ calls ∧ calls.takeWhile (!·.maps) = [] ∧
    Paired r.deviceFailures r.trace calls

instance : IsPreorder Rig Tidy where
  refl r := ⟨rfl, [], (List.append_nil _).symm, rfl, .nil⟩
  trans r r₁ r₂ h h' := by
    obtain ⟨calls, htrace, hfront, hpaired⟩ := h.calls
    obtain ⟨more, htrace', hfront', hpaired'⟩ := h'.calls
    rw [htrace, h.failures] at hpaired'
    refine ⟨h'.failures.trans h.failures, calls ++ more, ?_, ?_, hpaired.append hpaired' hfront'⟩
    · rw [htrace', htrace, List.append_assoc]
    · rw [List.takeWhile_append, hfront, hfront', List.append_nil]
      split_ifs with hlength
      · exact List.eq_nil_of_length_eq_zero hlength.symm
      · rfl

/-- Whatever fails, reading an output leaves its buffer unmapped. -/
theorem tidy_readOutput (waiting : Waiting) (o : Output) : Keeps Tidy (readOutput waiting o) := by
  intro r
  rcases readOutput_cases waiting o r with ⟨-, hout⟩ | ⟨buffer, -, ⟨fault, hfailed, hout⟩ | ⟨-, hstate⟩⟩
  · rw [hout]
    exact refl_of Tidy r
  · rw [hout]
    cases hdevice : r.device with
    | none =>
      rw [called_of_none hdevice]
      exact refl_of Tidy r
    | some d =>
      refine ⟨deviceFailures_called r _, _, trace_called hdevice _, rfl, .of_failed fun hpassed => ?_⟩
      simp only [deviceFailures, trace, hdevice] at hpassed
      rw [outcome_onDevice_of_some hdevice, Device.map, Device.outcome_perform, hpassed] at hfailed
      simp at hfailed
  · rw [hstate]
    cases hdevice : r.device with
    | none =>
      rw [called_of_none hdevice, called_of_none hdevice, called_of_none hdevice]
      exact refl_of Tidy r
    | some d =>
      refine ⟨?_, _, trace_called_readCalls hdevice waiting buffer, rfl, paired_readCalls _ _ _ _⟩
      rw [deviceFailures_called, deviceFailures_called, deviceFailures_called]

theorem tidy_readBack (waiting : Waiting) : Keeps Tidy (readBack waiting) := by
  refine Keeps.get.bind fun r => ?_
  by_cases h : (!r.submitted) = true
  · rw [if_pos h]
    exact fun r => refl_of Tidy r
  · rw [if_neg h]
    exact (Keeps.mapM (tidy_readOutput waiting) _).bind fun _ => Keeps.pure _

/-- An output that has been read was mapped, read and unmapped. -/
theorem adds_readOutput (waiting : Waiting) (o : Output) :
    Adds trace some (readOutput waiting o) (o.buffer.toList.flatMap (readCalls waiting)) := by
  intro r entry r' hread
  rcases readOutput_cases waiting o r with ⟨-, hout⟩ | ⟨buffer, hbuffer, ⟨fault, -, hout⟩ | ⟨hmapped, hstate⟩⟩
  · simp [hout] at hread
  · simp [hout] at hread
  · obtain ⟨d, hdevice⟩ : ∃ d, r.device = some d := by
      cases hdevice : r.device with
      | none =>
        rw [outcome_onDevice_of_none hdevice] at hmapped
        simp at hmapped
      | some d => exact ⟨d, rfl⟩
    have hr' : r' = ((r.called (.map waiting buffer)).called (.readMapped buffer)).called (.unmap buffer) := by
      rwa [hread] at hstate
    refine ⟨readCalls waiting buffer, ?_, ?_⟩
    · rw [hr', trace_called_readCalls hdevice]
    · rw [hbuffer, List.filterMap_some, Option.toList_some, List.flatMap_singleton]

theorem adds_readBack {waiting : Waiting} {r r' : Rig} {readings : NameTable Reading}
    (h : outcome (readBack waiting) r = (.ok readings, r')) :
    r'.trace = r.trace ++ r.outputs.values.flatMap fun o => o.buffer.toList.flatMap (readCalls waiting) := by
  unfold readBack at h
  rw [Outcome.get_bind] at h
  by_cases hsubmitted : (!r.submitted) = true
  · rw [if_pos hsubmitted] at h
    simp at h
  · rw [if_neg hsubmitted] at h
    have hadds : Adds trace some (r.outputs.values.mapM (readOutput waiting) >>= fun readings =>
        (pure (.ofEntries readings) : RigM (NameTable Reading))) _ :=
      (Adds.mapM (adds_readOutput waiting) r.outputs.values).bind_silent fun _ => Adds.pure _
    obtain ⟨calls, htrace, hcalls⟩ := hadds r readings r' h
    rw [htrace, ← hcalls, List.filterMap_some]

end Rig

/-! ## The two ways of waiting -/

/-- After the calls made before, the two fail at the same calls in the same ways, up to the way of waiting. -/
def Failures.Agree (before : List Call) (f g : Failures) : Prop :=
  ∀ (since : List Call) (call : Call), f (before ++ since.map (Call.waitingBy .sync)) (call.waitingBy .sync)
    = g (before ++ since.map (Call.waitingBy .async)) (call.waitingBy .async)

/-- The devices have made the same calls since, up to the way of waiting, and will fail at the same ones. -/
structure Device.Alike (before : List Call) (d e : Device) : Prop where
  memory : d.memory = e.memory
  failures : Failures.Agree before d.failures e.failures
  calls : ∃ since : List Call, d.trace = before ++ since.map (Call.waitingBy .sync) ∧
    e.trace = before ++ since.map (Call.waitingBy .async)

namespace Device

variable {before : List Call}

theorem matches_perform (call : Call) :
    Matches (Alike before) (perform (call.waitingBy .sync)) (perform (call.waitingBy .async)) := by
  intro d e h
  obtain ⟨since, hd, he⟩ := h.calls
  have hsame : d.failures d.trace (call.waitingBy .sync) = e.failures e.trace (call.waitingBy .async) := by
    rw [hd, he]
    exact h.failures since call
  have halike : Alike before (d.called (call.waitingBy .sync)) (e.called (call.waitingBy .async)) := by
    refine ⟨h.memory, h.failures, since ++ [call], ?_, ?_⟩
    · rw [called, hd, List.map_append, List.append_assoc, List.map_singleton]
    · rw [called, he, List.map_append, List.append_assoc, List.map_singleton]
  rw [outcome_perform, outcome_perform, hsame]
  cases e.failures e.trace (call.waitingBy .async) with
  | none => exact ⟨rfl, halike⟩
  | some failure => exact ⟨rfl, halike⟩

theorem matches_readMapped (buffer : Ref .buffer) :
    Matches (Alike before) (readMapped buffer) (readMapped buffer) := by
  refine (matches_perform (.readMapped buffer)).bind fun _ d e h => ?_
  rw [Outcome.get_bind, Outcome.get_bind, h.memory]
  exact ⟨rfl, h⟩

end Device

namespace Rig

/-- The rigs have the same outputs, and devices that are alike, or both none. -/
structure Alike (before : List Call) (r s : Rig) : Prop where
  device : (r.device = none ∧ s.device = none ∧ before = []) ∨
    ∃ d e, r.device = some d ∧ s.device = some e ∧ d.Alike before e
  outputs : r.outputs = s.outputs
  submitted : r.submitted = s.submitted

variable {before : List Call}

theorem Alike.calls {r s : Rig} (h : Alike before r s) : ∃ since : List Call,
    r.trace = before ++ since.map (Call.waitingBy .sync) ∧
      s.trace = before ++ since.map (Call.waitingBy .async) := by
  unfold trace
  rcases h.device with ⟨hr, hs, rfl⟩ | ⟨d, e, hr, hs, halike⟩
  · rw [hr, hs]
    exact ⟨[], rfl, rfl⟩
  · rw [hr, hs]
    exact halike.calls

theorem matches_onDevice {α : Type} {m m' : DeviceM α} (h : Matches (Device.Alike before) m m') :
    Matches (Alike before) (onDevice m) (onDevice m') := by
  intro r s hrs
  rcases hrs.device with ⟨hr, hs, -⟩ | ⟨d, e, hr, hs, halike⟩
  · rw [outcome_onDevice_of_none hr, outcome_onDevice_of_none hs]
    exact ⟨rfl, hrs⟩
  · obtain ⟨hvalue, hafter⟩ := h d e halike
    rw [outcome_onDevice_of_some hr, outcome_onDevice_of_some hs]
    exact ⟨hvalue, .inr ⟨_, _, rfl, rfl, hafter⟩, hrs.outputs, hrs.submitted⟩

theorem matches_readMapped (buffer : Ref .buffer) :
    Matches (Alike before) (readMapped buffer) (readMapped buffer) := by
  refine (matches_onDevice (Device.matches_readMapped buffer)).bind fun bytes => ?_
  by_cases h : bytes.length % 4 ≠ 0
  · rw [if_pos h]
    exact Matches.throw _
  · rw [if_neg h]
    exact Matches.pure _

theorem matches_readOutput (o : Output) : Matches (Alike before) (readOutput .sync o) (readOutput .async o) := by
  unfold readOutput
  cases o.buffer with
  | none => exact Matches.throw _
  | some buffer =>
    refine (matches_onDevice (Device.matches_perform (.map .sync buffer))).bind fun _ => ?_
    refine (matches_readMapped buffer).observing.bind fun outcome => ?_
    refine (matches_onDevice (Device.matches_perform (.unmap buffer))).bind fun _ => ?_
    exact Matches.liftExcept_bind fun _ => Matches.pure _

theorem matches_readBack : Matches (Alike before) (readBack .sync) (readBack .async) := by
  intro r s h
  unfold readBack
  rw [Outcome.get_bind, Outcome.get_bind, h.submitted, h.outputs]
  by_cases hsubmitted : (!s.submitted) = true
  · rw [if_pos hsubmitted, if_pos hsubmitted]
    exact ⟨rfl, h⟩
  · rw [if_neg hsubmitted, if_neg hsubmitted]
    have hall : Matches (Alike before)
        (s.outputs.values.mapM (readOutput .sync) >>= fun readings => pure (NameTable.ofEntries readings))
        (s.outputs.values.mapM (readOutput .async) >>= fun readings => pure (NameTable.ofEntries readings)) :=
      (Matches.mapM matches_readOutput _).bind fun _ => Matches.pure _
    exact hall r s h

/-- The rig on a device that fails at other calls. -/
def failing (r : Rig) (f : Failures) : Rig :=
  { r with device := r.device.map fun d => { d with failures := f } }

theorem alike_failing {r : Rig} {f g : Failures} (h : Failures.Agree r.trace f g) :
    Alike r.trace (r.failing f) (r.failing g) := by
  unfold trace failing at *
  cases hdevice : r.device with
  | none => exact ⟨.inl ⟨rfl, rfl, rfl⟩, rfl, rfl⟩
  | some d =>
    rw [hdevice] at h
    have halike : Device.Alike d.trace { d with failures := f } { d with failures := g } :=
      ⟨rfl, h, [], (List.append_nil _).symm, (List.append_nil _).symm⟩
    exact ⟨.inr ⟨_, _, rfl, rfl, halike⟩, rfl, rfl⟩

/-- **Reading back leaves no buffer mapped, and waiting makes no difference to it.** Whatever the device fails
at, and however the reading ends, every mapping that went through is undone exactly once, before the next one and
before the end; and if it comes through, every output has been mapped, read and unmapped in its turn. The reading
that waits and the one that is called back, on devices that fail at the same calls, give the same values in the
same order or fail with the same fault, after the same calls. -/
theorem readBack_unmaps_either_way (r : Rig) :
    (∀ waiting, ∃ calls, (outcome (readBack waiting) r).2.trace = r.trace ++ calls ∧
      Paired r.deviceFailures r.trace calls ∧
      ∀ readings, (outcome (readBack waiting) r).1 = .ok readings →
        calls = r.outputs.values.flatMap fun o => o.buffer.toList.flatMap (readCalls waiting)) ∧
    ∀ f g, Failures.Agree r.trace f g →
      (outcome (readBack .sync) (r.failing f)).1 = (outcome (readBack .async) (r.failing g)).1 ∧
      ∃ calls : List Call,
        (outcome (readBack .sync) (r.failing f)).2.trace = r.trace ++ calls.map (Call.waitingBy .sync) ∧
        (outcome (readBack .async) (r.failing g)).2.trace = r.trace ++ calls.map (Call.waitingBy .async) := by
  refine ⟨fun waiting => ?_, fun f g hagree => ?_⟩
  · obtain ⟨calls, htrace, -, hpaired⟩ := (tidy_readBack waiting r).calls
    refine ⟨calls, htrace, hpaired, fun readings hreadings => ?_⟩
    have hadds := adds_readBack (Prod.ext hreadings rfl : outcome (readBack waiting) r = (.ok readings, _))
    exact List.append_cancel_left (htrace.symm.trans hadds)
  · obtain ⟨hvalue, hstates⟩ := matches_readBack (r.failing f) (r.failing g) (alike_failing hagree)
    exact ⟨hvalue, hstates.calls⟩

/-- Two outputs of one word each, ready to be read. -/
def twoOutputs : Rig where
  device := some { memory := [[1, 2, 3, 4], [5, 6, 7, 8]] }
  outputs := .ofEntries [("a", ⟨"a", .u32, 4, "a", some ⟨0⟩⟩), ("b", ⟨"b", .u32, 4, "b", some ⟨1⟩⟩)]
  submitted := true

/-- The second mapping fails, if three calls were made for the first. -/
def secondMappingLost : Failures := fun before call =>
  if call.maps ∧ before.length = 3 then some (.runtime, "lost") else none

theorem twoOutputs_unmapped :
    (outcome (readBack .async) twoOutputs).2.trace = readCalls .async ⟨0⟩ ++ readCalls .async ⟨1⟩ ∧
    Failures.Agree twoOutputs.trace secondMappingLost secondMappingLost ∧
    (outcome (readBack .async) (twoOutputs.failing secondMappingLost)).1 = .error (.device .runtime "lost") ∧
    (outcome (readBack .async) (twoOutputs.failing secondMappingLost)).2.trace
      = readCalls .async ⟨0⟩ ++ [.map .async ⟨1⟩] := by
  obtain ⟨hread, hsame⟩ := readBack_unmaps_either_way twoOutputs
  have hagree : Failures.Agree twoOutputs.trace secondMappingLost secondMappingLost := by
    intro since call
    simp only [secondMappingLost, Call.maps_waitingBy, List.length_append, List.length_map]
  obtain ⟨hfault, calls, hsync, hasync⟩ := hsame secondMappingLost secondMappingLost hagree
  refine ⟨?_, hagree, hfault.symm.trans rfl, ?_⟩
  · obtain ⟨calls, htrace, -, hcalls⟩ := hread .async
    have hok : (outcome (readBack .async) twoOutputs).1.toOption.isSome = true := by decide +kernel
    cases hreadings : (outcome (readBack .async) twoOutputs).1 with
    | ok readings =>
      rw [htrace, hcalls readings hreadings]
      rfl
    | error fault =>
      rw [hreadings] at hok
      exact absurd hok Bool.false_ne_true
  · have hmapped : (outcome (readBack .sync) (twoOutputs.failing secondMappingLost)).2.trace
        = readCalls .sync ⟨0⟩ ++ [.map .sync ⟨1⟩] := by decide +kernel
    have hwaited := congrArg (List.map (Call.waitingBy .async)) (hsync.symm.trans hmapped)
    rw [List.map_append, List.map_map, Function.comp_def] at hwaited
    simp only [Call.waitingBy_waitingBy] at hwaited
    rw [hasync]
    exact hwaited

end Rig

end KernelShader
