/-
`Submission.lean` -- a dispatch is all or nothing.

A dispatch makes a dozen kinds of calls, two of them in loops, and any of them may fail. What it does is put
off until the last: the calls before the submission only collect commands, so wherever it breaks off, nothing
has been run. If it comes through, its calls can be listed one by one, and what it has submitted is a single
list of commands, the compute pass and a copy for every output (`dispatch_all_or_nothing`).

What is collected is known already (`draft_eq_ok`). Here the same steps are followed once more on the record,
where the pipeline and the places of the bind groups can be seen, which a collected pass no longer shows.
-/
import KernelShader.Proofs.Arguments
import KernelShader.Proofs.Rig.Dispatch

set_option autoImplicit false

namespace KernelShader

/-! ## Counts -/

namespace Workgroup

/-- The value gives these numbers: one to three positive integers, alone or in a row. -/
structure Gives (v : Value) (dims : List Nat) : Prop where
  components : Workgroup.components v = .ok (dims.map fun (n : Nat) => .int n)
  nonempty : 1 ≤ dims.length
  few : dims.length ≤ 3
  positive : ∀ n ∈ dims, 1 ≤ n

theorem positive_eq_ok_iff {refuse : Value → Fault} {v : Value} {n : Nat} :
    positive refuse v = .ok n ↔ v = .int n ∧ 1 ≤ n := by
  constructor
  · intro h
    refine ⟨?_, positive_eq_ok h⟩
    unfold positive at h
    split at h
    · rename_i k
      by_cases hk : 1 ≤ k
      · rw [if_pos hk] at h
        have hn := Except.ok.inj h
        rw [← hn, Int.toNat_of_nonneg (by omega)]
      · rw [if_neg hk] at h
        exact nomatch h
    · exact nomatch h
  · rintro ⟨rfl, hn⟩
    have hint : (1 : Int) ≤ n := Int.ofNat_le.mpr hn
    rw [positive, if_pos hint, Int.toNat_natCast]

theorem dimensions_eq_ok_iff {arity : Nat → Fault} {refuse : Value → Fault} {v : Value} {dims : List Nat} :
    dimensions arity refuse v = .ok dims ↔ Gives v dims := by
  have hitems : ∀ items, items.mapM (positive refuse) = .ok dims ↔
      items = dims.map (fun (n : Nat) => .int n) ∧ ∀ n ∈ dims, 1 ≤ n := by
    intro items
    rw [Check.mapM_eq_ok_iff]
    simp only [positive_eq_ok_iff]
    constructor
    · intro h
      induction h with
      | nil => exact ⟨rfl, by simp⟩
      | cons hfirst hrest ih =>
        rw [List.map_cons, ← ih.1, hfirst.1]
        exact ⟨rfl, List.forall_mem_cons.mpr ⟨hfirst.2, ih.2⟩⟩
    · rintro ⟨rfl, hpos⟩
      rw [List.forall₂_map_left_iff, List.forall₂_same]
      exact fun n hn => ⟨rfl, hpos n hn⟩
  unfold dimensions
  rw [Check.bind_eq_ok_iff]
  constructor
  · rintro ⟨items, hcomponents, h⟩
    by_cases hcount : (items.isEmpty || decide (3 < items.length)) = true
    · rw [if_pos hcount] at h
      exact nomatch h
    · rw [if_neg hcount] at h
      obtain ⟨rfl, hpos⟩ := (hitems items).mp h
      simp only [Bool.or_eq_true, List.isEmpty_iff, decide_eq_true_eq, not_or, List.length_map,
        List.map_eq_nil_iff] at hcount
      exact ⟨hcomponents, List.length_pos_of_ne_nil hcount.1, by omega, hpos⟩
  · rintro ⟨hcomponents, hnonempty, hfew, hpos⟩
    refine ⟨_, hcomponents, ?_⟩
    have hcount : ¬ ((dims.map fun (n : Nat) => Value.int n).isEmpty
        || decide (3 < (dims.map fun (n : Nat) => Value.int n).length)) = true := by
      simp only [Bool.or_eq_true, List.isEmpty_iff, decide_eq_true_eq, not_or, List.length_map,
        List.map_eq_nil_iff]
      exact ⟨List.ne_nil_of_length_pos hnonempty, by omega⟩
    rw [if_neg hcount]
    exact (hitems _).mpr ⟨rfl, hpos⟩

theorem counts_eq_ok_iff {v : Value} {dims : List Nat} : counts v = .ok dims ↔ Gives v dims :=
  dimensions_eq_ok_iff

end Workgroup

namespace Rig

/-! ## The calls of a dispatch -/

/-- The calls of a compute pass. -/
def passCalls (label : String) (encoder : Ref .encoder) (pass : Ref .pass) (pipeline : Ref .pipeline)
    (groups : List (Ref .group)) (counts : List Nat) : List Call :=
  [.beginPass encoder s!"{label} pass", .setPipeline pass pipeline]
    ++ groups.zipIdx.map (fun place => .setGroup pass place.2 place.1)
    ++ [.dispatch pass counts, .endPass pass]

/-- The calls of a dispatch that comes through, with the inputs that the outputs are linked to. -/
def dispatchCalls (r : Rig) (encoder : Ref .encoder) (pass : Ref .pass) (list : Ref .commands)
    (pipeline : Ref .pipeline) (groups : List (Ref .group)) (counts : List Nat) (sources : List Input) :
    List Call :=
  [.createEncoder s!"{r.label} encoder"]
    ++ passCalls r.label encoder pass pipeline groups counts
    ++ List.zipWith (fun o i => .copy encoder i.buffer o.buffer i.size) r.outputs.values sources
    ++ [.finish encoder, .submit [list]]

/-- The commands of a dispatch. -/
def dispatchCommands (r : Rig) (groups : List (Ref .group)) (counts : List Nat) (sources : List Input) :
    List Command :=
  .compute groups counts
    :: List.zipWith (fun o i => .copy i.buffer o.buffer i.size) r.outputs.values sources

/-- The inputs that outputs are linked to, one for each and in order. -/
def Linked (r : Rig) (outputs : List Output) (sources : List Input) : Prop :=
  List.Forall₂ (fun o i => r.inputs.get? o.link = some i) outputs sources

theorem Linked.map_copyOf {r : Rig} {outputs : List Output} {sources : List Input}
    (h : r.Linked outputs sources) :
    outputs.map r.copyOf = List.zipWith (fun o i => .copy i.buffer o.buffer i.size) outputs sources := by
  induction h with
  | nil => rfl
  | cons hfirst hrest ih => rw [List.map_cons, List.zipWith_cons_cons, ih, copyOf, hfirst]

theorem trace_setGroups {pass : Ref .pass} (places : List (Ref .group × Nat)) {d d' : Device} {u : Unit}
    (h : outcome (places.forM fun place => Device.setGroup pass place.2 place.1) d = (.ok u, d')) :
    d'.trace = d.trace ++ places.map fun place => .setGroup pass place.2 place.1 := by
  induction places generalizing d with
  | nil =>
    rw [Outcome.forM_nil, Prod.mk.injEq] at h
    rw [← h.2, List.map_nil, List.append_nil]
  | cons place rest ih =>
    rw [Outcome.forM_cons] at h
    obtain ⟨_, d₁, hfirst, hmore⟩ := Outcome.bind_eq_ok_iff.mp h
    rw [ih hmore, (Device.speaks_setGroup pass place.2 place.1).trace hfirst, List.map_cons,
      List.append_assoc, List.singleton_append]

theorem trace_encodePass {label : String} {encoder : Ref .encoder} {pipeline : Ref .pipeline}
    {groups : List (Ref .group)} {counts : List Nat} {d d' : Device} {u : Unit}
    (h : outcome (encodePass label encoder pipeline groups counts) d = (.ok u, d')) :
    ∃ pass, d'.trace = d.trace ++ passCalls label encoder pass pipeline groups counts := by
  unfold encodePass at h
  obtain ⟨pass, d₁, hbegin, h⟩ := Outcome.bind_eq_ok_iff.mp h
  obtain ⟨_, d₂, hpipeline, h⟩ := Outcome.bind_eq_ok_iff.mp h
  obtain ⟨_, d₃, hgroups, h⟩ := Outcome.bind_eq_ok_iff.mp h
  obtain ⟨_, d₄, hdispatch, hend⟩ := Outcome.bind_eq_ok_iff.mp h
  refine ⟨pass, ?_⟩
  rw [(Device.speaks_endPass pass).trace hend, (Device.speaks_dispatch pass counts).trace hdispatch,
    trace_setGroups _ hgroups, (Device.speaks_setPipeline pass pipeline).trace hpipeline,
    (Device.makes_beginPass _ _).trace hbegin]
  simp [passCalls]

theorem trace_encodeCopy {encoder : Ref .encoder} {o : Output} {r r' : Rig} {u : Unit}
    (h : outcome (encodeCopy encoder o) r = (.ok u, r')) :
    ∃ i, r.inputs.get? o.link = some i ∧ r'.trace = r.trace ++ [.copy encoder i.buffer o.buffer i.size] := by
  unfold encodeCopy at h
  rw [Outcome.get_bind, Outcome.liftExcept_bind] at h
  unfold input at h
  cases hlink : r.inputs.get? o.link with
  | none =>
    rw [hlink] at h
    simp at h
  | some i =>
    rw [hlink] at h
    exact ⟨i, rfl, trace_of_speaks (Device.speaks_copy _ _ _ _) h⟩

/-- Every output has an input to copy from, and the copies are made in the order of the outputs. -/
theorem trace_encodeCopies {encoder : Ref .encoder} (outputs : List Output) {r r₁ r' : Rig} {u : Unit}
    (h : outcome (outputs.forM (encodeCopy encoder)) r₁ = (.ok u, r')) (hinputs : r₁.inputs = r.inputs) :
    ∃ sources, r.Linked outputs sources ∧ r'.trace = r₁.trace
      ++ List.zipWith (fun o i => .copy encoder i.buffer o.buffer i.size) outputs sources := by
  induction outputs generalizing r₁ with
  | nil =>
    rw [Outcome.forM_nil, Prod.mk.injEq] at h
    exact ⟨[], .nil, by rw [← h.2, List.zipWith_nil_left, List.append_nil]⟩
  | cons o rest ih =>
    rw [Outcome.forM_cons] at h
    obtain ⟨_, r₂, hfirst, hmore⟩ := Outcome.bind_eq_ok_iff.mp h
    obtain ⟨i, hlink, htrace⟩ := trace_encodeCopy hfirst
    have hstep : Continues r₁ r₂ := (continues_encodeCopy encoder o).of_outcome_eq hfirst
    obtain ⟨sources, hlinked, hrest⟩ := ih hmore (hstep.inputs.trans hinputs)
    refine ⟨i :: sources, .cons (hinputs ▸ hlink) hlinked, ?_⟩
    rw [hrest, htrace, List.append_assoc, List.singleton_append, List.zipWith_cons_cons]

/-- **The calls that collect.** -/
theorem trace_draft {artifact : Artifact} {groups : List (Ref .group)} {counts : List Nat} {r r' : Rig}
    {list : Ref .commands} (h : outcome (draft r artifact groups counts) r = (.ok list, r')) :
    ∃ encoder pass sources, r.Linked r.outputs.values sources ∧
      r'.trace ++ [.submit [list]]
        = r.trace ++ dispatchCalls r encoder pass list artifact.pipeline groups counts sources := by
  unfold draft at h
  obtain ⟨encoder, r₁, hencoder, h⟩ := Outcome.bind_eq_ok_iff.mp h
  obtain ⟨_, r₂, hpass, h⟩ := Outcome.bind_eq_ok_iff.mp h
  obtain ⟨_, r₃, hcopies, hfinish⟩ := Outcome.bind_eq_ok_iff.mp h
  have hcontinues : Continues r r₂ := trans_of Continues
    ((continues_onDevice (Device.makes_createEncoder _).grows).of_outcome_eq hencoder)
    ((continues_onDevice (conversation_encodePass _ _ _ _ _).grows).of_outcome_eq hpass)
  obtain ⟨sources, hlinked, htrace₃⟩ := trace_encodeCopies _ hcopies hcontinues.inputs
  obtain ⟨d₁, d₂, hd₁, hcall, rfl⟩ := onDevice_eq_ok hpass
  obtain ⟨pass, htrace₂⟩ := trace_encodePass hcall
  have htrace₁ : d₁.trace = r.trace ++ [.createEncoder s!"{r.label} encoder"] := by
    rw [← trace_of_speaks (Device.makes_createEncoder _).toSpeaks hencoder, trace, hd₁]
  rw [htrace₁] at htrace₂
  refine ⟨encoder, pass, sources, hlinked, ?_⟩
  rw [trace_of_speaks (Device.makes_finish _).toSpeaks hfinish, htrace₃.trans (congrArg (· ++ _) htrace₂)]
  simp [dispatchCalls]

/-! ## All or nothing -/

/-- The contents of all buffers, if there is a device. -/
def contents (r : Rig) : Option Memory := r.device.map Device.memory

/-- Nothing has been submitted, and nothing can be told from the buffers or from the flag. -/
structure Unsent (r r' : Rig) : Prop where
  unsubmitted : r.submittedSince r' = []
  flag : r'.submitted = r.submitted
  contents : r'.contents = r.contents

theorem Still.unsent {r r' : Rig} (h : Still r r') : Unsent r r' := by
  refine ⟨h.idle.submittedSince_eq, h.submitted, ?_⟩
  unfold Rig.contents
  cases hd : r.device with
  | none => rw [h.gone hd]
  | some d =>
    obtain ⟨d', hd', -⟩ := h.device hd
    rw [hd', Option.map_some, Option.map_some, (h.still hd hd').unchanged]

/-- One list of commands has been submitted. It was collected by the calls of one compute pass, with the
pipeline, every bind group at its place and the counts, and of one copy for every output, from the buffer of
the input that it is linked to; these calls and the submission are all there were, and the list holds the pass
and the copies. -/
structure Sent (pipeline : Ref .pipeline) (groups : List (Ref .group)) (counts : List Nat)
    (sources : List Input) (r r' : Rig) : Prop where
  linked : r.Linked r.outputs.values sources
  flag : r'.submitted = true
  calls : ∃ encoder pass list,
    r'.trace = r.trace ++ dispatchCalls r encoder pass list pipeline groups counts sources ∧
    r.submittedSince r' = [list] ∧
    ∃ d d', r.device = some d ∧ r'.device = some d' ∧
      d'.commands[list.index]? = some (r.dispatchCommands groups counts sources) ∧
      d'.memory = (r.dispatchCommands groups counts sources).foldl d'.runCommand d.memory

/-- What has been submitted when a dispatch comes through. -/
theorem sent_of_execute {artifact : Artifact} {groups : List (Ref .group)} {counts : Value} {r r' : Rig}
    {u : Unit} (h : outcome (execute artifact groups counts) r = (.ok u, r')) :
    ∃ ns sources, Workgroup.Gives counts ns ∧ Sent artifact.pipeline groups ns sources r r' := by
  rw [execute_eq, Outcome.liftExcept_bind] at h
  cases hcounts : Workgroup.counts counts with
  | error fault => simp [hcounts] at h
  | ok ns =>
    simp only [hcounts, Outcome.get_bind] at h
    obtain ⟨list, r₁, hdraft, hlaunch⟩ := Outcome.bind_eq_ok_iff.mp h
    unfold launch at hlaunch
    obtain ⟨_, r₂, hsubmit, hdone⟩ := Outcome.bind_eq_ok_iff.mp hlaunch
    obtain ⟨d₁, d₂, hd₁, hcall, rfl⟩ := onDevice_eq_ok hsubmit
    -- behind the submission only the flag and the log change
    obtain ⟨log, rfl⟩ : ∃ log, r' = { r₁ with device := some d₂, submitted := true, log } :=
      ⟨_, (Prod.mk.inj hdone).2.symm⟩
    obtain ⟨encoder, pass, sources, hlinked, htrace⟩ := trace_draft hdraft
    have hstill : Still r r₁ := (still_draft r artifact groups ns).of_outcome_eq hdraft
    obtain ⟨_, hd₁', hlist⟩ := draft_eq_ok hdraft
    obtain rfl := Option.some.inj (hd₁.symm.trans hd₁')
    obtain ⟨d, hd⟩ : ∃ d, r.device = some d := by
      cases hdevice : r.device with
      | some d => exact ⟨d, rfl⟩
      | none => simp [hstill.gone hdevice] at hd₁
    rw [hlinked.map_copyOf] at hlist
    rcases Device.submit_cases list d₁ with ⟨fault, _, hfail, -⟩ | ⟨hok, hextends, hsince⟩
    · simp [hfail] at hcall
    · obtain rfl : d₁.ran list = d₂ := (Prod.mk.inj (hok.symm.trans hcall)).2
      refine ⟨ns, sources, Workgroup.counts_eq_ok_iff.mp hcounts, hlinked, rfl, encoder, pass, list, ?_, ?_,
        d, _, hd, rfl, hlist, ?_⟩
      · rw [← htrace, trace, trace, hd₁]
        rfl
      · have hstep := hstill.still hd hd₁
        rw [submittedSince_of_some hd rfl, Device.submittedSince_trans hstep.toExtends hextends,
          hstep.unsubmitted, hsince, List.nil_append]
      · rw [Device.ran, List.getD_eq_getElem?_getD, hlist, ← (hstill.still hd hd₁).unchanged]
        rfl

/-- **A dispatch is all or nothing.** Whatever calls the device fails at, a dispatch fails and has submitted
nothing, with every buffer and the flag as they were, and with nothing done at all if the counts are not in
order; or it comes through, and has submitted one list of commands with the compute pass that was asked for and
a copy for every output. -/
theorem dispatch_all_or_nothing (artifact : Artifact) (groups : List (Ref .group)) (counts : Value) (r : Rig) :
    (∃ fault r', outcome (execute artifact groups counts) r = (.error fault, r') ∧ Unsent r r' ∧
      ((¬ ∃ ns, Workgroup.Gives counts ns) → r' = r)) ∨
    ∃ ns sources r', outcome (execute artifact groups counts) r = (.ok (), r') ∧
      Workgroup.Gives counts ns ∧ Sent artifact.pipeline groups ns sources r r' := by
  rcases execute_cases artifact groups counts r with ⟨fault, r', hout, hstill⟩ | ⟨_, r', hout, -⟩
  · refine .inl ⟨fault, r', hout, hstill.unsent, fun hnone => ?_⟩
    rw [execute_eq, Outcome.liftExcept_bind] at hout
    cases hcounts : Workgroup.counts counts with
    | ok ns => exact absurd ⟨ns, Workgroup.counts_eq_ok_iff.mp hcounts⟩ hnone
    | error fault =>
      rw [hcounts] at hout
      exact (Prod.mk.inj hout).2.symm
  · obtain ⟨ns, sources, hgives, hsent⟩ := sent_of_execute hout
    exact .inr ⟨ns, sources, r', hout, hgives, hsent⟩

end Rig

end KernelShader
