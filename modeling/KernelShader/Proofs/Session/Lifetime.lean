/-
`Lifetime.lean` -- the buffers of a session, from registration to closing.

The ledger of the device is kept by every operation, failed ones included. Registering and closing move its
entries, and operations on functions and types do not touch the device. The case that needs an argument is
a dispatch: it sets bind groups that were made by an earlier build, and these are bind groups of the inputs
as they are because what is at hand in a session is always current.

From the ledger the two results are read off. No call reaches a buffer that has been given back. And a
session that has been closed holds nothing, so all that was made has been given back, with one exception:
an input whose data is refused is not registered, but its buffer was made, and nobody gives it back.
-/
import KernelShader.Proofs.Rig.Ledger
import KernelShader.Proofs.Session.ReadBack

set_option autoImplicit false

namespace KernelShader

namespace Session

/-! ## Work with the buffers as they are -/

/-- A session that is in step and current stays so, and only buffers of its rig are reached. -/
def Careful (s s' : Session) : Prop :=
  s.InStep ∧ s.Current → (s'.InStep ∧ s'.Current) ∧ Rig.Handles s.rig s'.rig

instance : IsPreorder Session Careful where
  refl s := fun hs => ⟨hs, refl_of Rig.Handles s.rig⟩
  trans _ _ _ h h' := fun hs =>
    ⟨(h' (h hs).1).1, trans_of Rig.Handles (h hs).2 (h' (h hs).1).2⟩

theorem careful_build : Keeps Careful build := fun s hs =>
  ⟨staysCurrent_build s hs, (along_build Rig.handles_building s).rig⟩

/-- The bind groups at hand were made of the inputs as they are, so what they bind is registered. -/
theorem careful_dispatchBuilt (counts : Value) : Keeps Careful (dispatchBuilt counts) := by
  intro s hs
  refine ⟨staysCurrent_dispatchBuilt counts s hs, ?_⟩
  cases hg : s.bindGroups with
  | none =>
    have hnothing : outcome (dispatchBuilt counts) s = (.ok (), s) := by
      unfold dispatchBuilt
      rw [Outcome.get_bind, hg]
      cases s.artifact with
      | none => rfl
      | some a => rfl
    rw [hnothing]
    exact refl_of Rig.Handles s.rig
  | some groups =>
    obtain ⟨a, ha, hbound⟩ := hs.2.bound hg
    rw [outcome_dispatchBuilt ha hg, outcome_onRig]
    exact Rig.handles_execute a counts hbound.madeOfInputs

theorem careful_execute (counts : Value) : Keeps Careful (execute counts) :=
  keeps_execute careful_build (careful_dispatchBuilt counts)

theorem careful_readBack (waiting : Waiting) : Keeps Careful (readBack waiting) := fun s hs =>
  ⟨staysCurrent_readBack waiting s hs, (along_onRig (Rig.handles_readBack waiting) s).rig⟩

theorem careful_run (counts : Value) : Keeps Careful (run counts) :=
  keeps_run careful_build (careful_dispatchBuilt counts) (careful_readBack .sync)

/-! ## The ledger along a run -/

/-- Forgetting what was compiled does not touch the rig. -/
theorem rig_forgetting {α : Type} (work : RigM α) (s : Session) :
    (outcome (onRig work >>= fun a => invalidate >>= fun _ => pure a) s).2.rig
      = (outcome work s.rig).2 := by
  rcases h : outcome work s.rig with ⟨x, r⟩
  cases x with
  | error fault => rw [outcome_forgetting_of_error h]
  | ok a => rw [outcome_forgetting_of_ok h]

theorem rig_registerInput (name : String) (data group : Value) (s : Session) :
    (s.answer (.registerInput name data group)).2.rig
      = (outcome (Rig.registerInput name data group) s.rig).2 := by
  rw [answer_eq, perform, Outcome.map_eq]
  exact rig_forgetting (Rig.registerInput name data group) s

theorem rig_registerOutput (name link : String) (data : Value) (s : Session) :
    (s.answer (.registerOutput name link data)).2.rig
      = (outcome (Rig.registerOutput name link data) s.rig).2 := by
  rw [answer_eq, perform, Outcome.map_eq]
  exact rig_forgetting (Rig.registerOutput name link data) s

/-- **One operation.** -/
theorem Reachable.ledger_answer {s : Session} (hs : Reachable s) {start : Device}
    (h : s.rig.Ledger start) (operation : Operation) :
    (s.answer operation).2.rig.Ledger start := by
  have htext : operation.isTextual = true → (s.answer operation).2.rig.Ledger start := by
    intro htextual
    obtain ⟨events, hrig⟩ := rig_of_textual htextual
    rw [hrig]
    exact h
  have hwork : ∀ m : SessionM Answer, Keeps Careful m → (outcome m s).2.rig.Ledger start :=
    fun m hm => h.handles (hm s ⟨hs.inStep, hs.current⟩).2
  cases operation with
  | registerInput name data group =>
    rw [rig_registerInput]
    exact h.registerInput name data group
  | registerOutput name link data =>
    rw [rig_registerOutput]
    exact h.registerOutput name link data
  | addFunction source returns declared arguments => exact htext rfl
  | addEntryPoint source size declared => exact htext rfl
  | listVariables function => exact htext rfl
  | submitEdit function variableName type => exact htext rfl
  | confirm => exact htext rfl
  | regenerate => exact htext rfl
  | build => exact hwork _ (careful_build.map _)
  | execute counts => exact hwork _ ((careful_execute counts).bind fun _ => Keeps.pure Answer.done)
  | run counts => exact hwork _ ((careful_run counts).map _)
  | readBack waiting => exact hwork _ ((careful_readBack waiting).map _)
  | close =>
    rw [answer_eq, perform_close, Outcome.map_eq, outcome_close]
    exact (h.release hs.rig.registered).1

/-- **A run of operations.** -/
theorem ledger_after (config : Config) (device : Device) (operations : List Operation) :
    ((fresh config (some device)).after operations).rig.Ledger device := by
  induction operations using List.reverseRecOn with
  | nil => exact ⟨device, rfl, Device.ledger_self device⟩
  | append_singleton operations operation ih =>
    have hreachable : Reachable ((fresh config (some device)).after operations) :=
      ⟨config, some device, operations, rfl⟩
    rw [after_concat]
    exact hreachable.ledger_answer ih operation

/-- A session that has been closed holds no buffers. -/
theorem Reachable.buffers_of_close {s s' : Session} (hs : Reachable s) {start : Device}
    (h : s.rig.Ledger start) {answer : Answer} (hclose : s.answer .close = (.ok answer, s')) :
    s'.rig.buffers = [] := by
  rw [answer_eq, perform_close] at hclose
  obtain ⟨u, hreleased, -⟩ := Outcome.map_eq_ok_iff.mp hclose
  rw [outcome_close, Prod.mk.injEq] at hreleased
  rw [← hreleased.2]
  exact (h.release hs.rig.registered).2 u _ (Prod.ext hreleased.1 rfl)

/-! ## Use after destruction -/

/-- **No use after destruction.** Whatever is asked of a session, in whatever order, and whichever calls
its device fails at: once a buffer has been destroyed, no later call reaches it. The calls are all that
the device has been asked since the start, those before and after a close alike. -/
theorem no_use_after_destroy (config : Config) (device : Device) (operations : List Operation) :
    ∃ d, ((fresh config (some device)).after operations).rig.device = some d ∧
      d.trace = device.trace ++ (device.callsSince d).map Prod.fst ∧
      (device.callsSince d).Pairwise fun earlier later =>
        ∀ buffer, Call.gone? earlier = some buffer → buffer ∉ d.reached later.1 := by
  obtain ⟨d, hd, hledger⟩ := ledger_after config device operations
  refine ⟨d, hd, ?_, ?_⟩
  · obtain ⟨calls, htrace, -⟩ := hledger.progress.toExtends.calls
    rw [Device.callsSince_of_trace htrace, Device.map_fst_answered, htrace]
  · exact hledger.apart.imp fun hapart buffer hgone hreached =>
      hapart buffer hgone (Device.Reaches.of_mem hreached)

/-- A session that is closed and then used again. -/
def reopenedRun : List Operation :=
  let data := Value.words [7]
  [.registerInput "a" data (.int 0), .addEntryPoint "function main() \x7b\n\x7d" (.int 1) .none,
    .execute (.int 1), .close, .registerInput "b" data (.int 0), .execute (.int 1), .close, .close]

/-- Both inputs have been given back, the first of them before the second was made. -/
example : ((fresh {} (some {})).after reopenedRun).rig.device.map (fun d =>
      (Device.destroyedSince {} d, Device.madeSince {} d)) = some ([⟨0⟩, ⟨1⟩], [⟨0⟩, ⟨1⟩]) := by
  decide +kernel

/-! ## Leaks -/

/-- **What closing gives back.** After a close that goes through, the buffers made in the whole run are
those that have been destroyed together with those whose data was refused, each of them once. So nothing
is left behind exactly if no data was refused. -/
theorem destroyed_of_close (config : Config) (device : Device) (operations : List Operation)
    {answer : Answer} {s : Session}
    (hclose : ((fresh config (some device)).after operations).answer .close = (.ok answer, s)) :
    ∃ d, s.rig.device = some d ∧
      (device.madeSince d).length = (device.callsSince d).countP Call.makesBuffer ∧
      (device.destroyedSince d ++ device.unfilledSince d).Perm (device.madeSince d) ∧
      ((∀ buffer ∈ device.madeSince d, buffer ∈ device.destroyedSince d) ↔
        device.unfilledSince d = []) := by
  have hreachable : Reachable ((fresh config (some device)).after operations) :=
    ⟨config, some device, operations, rfl⟩
  have hbefore := ledger_after config device operations
  obtain ⟨d, hd, hledger⟩ := hreachable.ledger_answer hbefore .close
  have hempty := hreachable.buffers_of_close hbefore hclose
  rw [hclose] at hd hledger
  have hsettled := hledger.settled
  rw [hempty, List.nil_append] at hsettled
  refine ⟨d, hd, hledger.progress.toExtends.length_madeSince, hsettled, ?_⟩
  constructor
  · intro hall
    -- a buffer that is at one place only cannot be at the other
    have hnodup := hsettled.nodup_iff.mpr (Device.nodup_madeSince device d)
    refine List.eq_nil_iff_forall_not_mem.mpr fun buffer hunfilled => ?_
    have hmade := hsettled.mem_iff.mp (List.mem_append_right _ hunfilled)
    exact (List.nodup_append.mp hnodup).2.2 buffer (hall buffer hmade) buffer hunfilled rfl
  · intro hnone buffer hmade
    rw [hnone, List.append_nil] at hsettled
    exact hsettled.mem_iff.mpr hmade

/-- The data of an input is refused at first. The input is then registered after all, with an output. -/
def refusedDataRun : List Operation :=
  let data := Value.words [7]
  [.registerInput "a" data (.int 0), .registerInput "a" data (.int 0), .registerOutput "b" "a" data]

theorem refusedDataRun_closes :
    ∃ answer, ((fresh {} (some Rig.losingOnce)).after refusedDataRun).answer .close
      = (.ok answer, ((fresh {} (some Rig.losingOnce)).after (refusedDataRun ++ [.close]))) := by
  rw [after_concat]
  exact ⟨.done, Outcome.eq_ok_of_toOption (by decide +kernel)⟩

/-- Three buffers were made, two of them are destroyed, and the third is the one without data. -/
theorem refusedDataRun_settled :
    ∃ d, ((fresh {} (some Rig.losingOnce)).after (refusedDataRun ++ [.close])).rig.device = some d ∧
      (Rig.losingOnce.destroyedSince d ++ Rig.losingOnce.unfilledSince d).Perm
        (Rig.losingOnce.madeSince d) ∧
      (Rig.losingOnce.destroyedSince d, Rig.losingOnce.unfilledSince d)
        = ([⟨1⟩, ⟨2⟩], [⟨0⟩]) := by
  obtain ⟨answer, hclose⟩ := refusedDataRun_closes
  obtain ⟨d, hd, -, hsettled, -⟩ := destroyed_of_close {} Rig.losingOnce refusedDataRun hclose
  refine ⟨d, hd, hsettled, ?_⟩
  have hseen : ((fresh {} (some Rig.losingOnce)).after (refusedDataRun ++ [.close])).rig.device.map
      (fun d => (Rig.losingOnce.destroyedSince d, Rig.losingOnce.unfilledSince d))
        = some ([⟨1⟩, ⟨2⟩], [⟨0⟩]) := by
    decide +kernel
  rw [hd, Option.map_some, Option.some.injEq] at hseen
  exact hseen

/-- **A buffer is left behind.** The close goes through, and a buffer made in the run is not destroyed. -/
theorem refusedDataRun_leaks :
    (∃ answer, ((fresh {} (some Rig.losingOnce)).after refusedDataRun).answer .close
      = (.ok answer, ((fresh {} (some Rig.losingOnce)).after (refusedDataRun ++ [.close])))) ∧
    ((fresh {} (some Rig.losingOnce)).after (refusedDataRun ++ [.close])).rig.device.map (fun d =>
      (Rig.losingOnce.madeSince d).filter fun buffer =>
        !(Rig.losingOnce.destroyedSince d).contains buffer) = some [⟨0⟩] :=
  ⟨refusedDataRun_closes, by decide +kernel⟩

end Session

end KernelShader
