/-
`Transfer.lean` -- what a dispatch leaves in the buffers of the outputs.

The bind groups made for a rig hold the buffers of its inputs, group by group, and no others. No two
entries of a rig share a buffer. So the kernel changes inputs only, the copies that follow read what it
left, and each goes to a buffer of its own: the front of an output becomes what its input holds after the
pass, and the rest of it stays.

With a device that answers, compiling and reading back go through, the latter if the outputs are made of
whole words.
-/
import KernelShader.Proofs.Rig.Agreement
import KernelShader.Proofs.Rig.Storage

set_option autoImplicit false

namespace KernelShader.Rig

/-! ## The buffers of the bind groups -/

/-- The buffers that the shader can reach, group by group. -/
def bound (r : Rig) : List (List (Option (Ref .buffer))) :=
  r.groups.map fun group => (r.groupInputs group).map Input.buffer

theorem Continues.bound_eq {r r' : Rig} (h : Continues r r') : r'.bound = r.bound := by
  simp only [bound, h.groups_eq, h.groupInputs_eq]

/-- Only inputs are bound. -/
theorem exists_input_of_mem_bound {r : Rig} {group : List (Option (Ref .buffer))}
    (hgroup : group ∈ r.bound) {buffer : Ref .buffer} (hbuffer : some buffer ∈ group) :
    ∃ i ∈ r.inputs.values, i.buffer = some buffer := by
  obtain ⟨index, -, rfl⟩ := List.mem_map.mp hgroup
  obtain ⟨i, hi, hsame⟩ := List.mem_map.mp hbuffer
  exact ⟨i, (List.mem_filter.mp hi).1, hsame⟩

/-- The bind groups of the device hold these buffers. -/
def Wired (r : Rig) (groups : List (Ref .group)) (buffers : List (List (Option (Ref .buffer)))) : Prop :=
  ∃ d, r.device = some d ∧
    List.Forall₂ (fun group held => d.groups[group.index]? = some held) groups buffers

theorem createGroup_wires {group : Nat} {handle : Ref .layout} {r r' : Rig} {object : Ref .group}
    (h : outcome (createGroup group handle) r = (.ok object, r')) :
    ∃ d', r'.device = some d' ∧
      d'.groups[object.index]? = some ((r.groupInputs group).map Input.buffer) := by
  unfold createGroup at h
  rw [Outcome.get_bind] at h
  obtain ⟨d, d', -, hcall, rfl⟩ := onDevice_eq_ok h
  obtain ⟨rfl, rfl⟩ := Device.modifyGet_call_eq_ok hcall
  refine ⟨_, rfl, ?_⟩
  rw [List.getElem?_concat_length, List.map_map]
  rfl

/-- **Bind groups hold the inputs.** -/
theorem buildGroups_wires {layout : Layout} {r r' : Rig} {groups : List (Ref .group)}
    (h : outcome (buildGroups layout) r = (.ok groups, r')) (hwilling : r.Willing)
    (hhandles : layout.handles.length = r.groups.length) : r'.Wired groups r.bound := by
  have hsignature := (buildGroups_eq_ok h).1
  have hcontinues : Continues r r' := (continues_buildGroups layout).of_outcome_eq h
  rw [outcome_buildGroups, if_pos hsignature] at h
  have hloop : List.Forall₂ (fun place object => ∃ d', r'.device = some d' ∧
      d'.groups[object.index]? = some ((r.groupInputs place.1).map Input.buffer))
      (r.groups.zip layout.handles) groups := by
    refine Keeps.forall₂_of_mapM_eq_ok (R := Still)
      (P := fun place object r₂ => ∃ d', r₂.device = some d' ∧
        d'.groups[object.index]? = some ((r.groupInputs place.1).map Input.buffer))
      (fun place => Keeps.get.bind fun _ => still_onDevice (Device.still_createGroup _ _ _))
      ?_ ?_ _ (refl_of Still r) h
    · intro place r₁ object r₂ hstill hcreate
      rw [← hstill.groupInputs_eq]
      exact createGroup_wires hcreate
    · rintro place object r₁ r₂ hstill ⟨d₁, hd₁, hheld⟩
      obtain ⟨d₂, hd₂, -⟩ := hstill.device hd₁
      exact ⟨d₂, hd₂, getElem?_of_prefix (hstill.still hd₁ hd₂).groups hheld⟩
  obtain ⟨d, hd, -⟩ := hwilling
  obtain ⟨d', hd', -⟩ := hcontinues.device hd
  refine ⟨d', hd', ?_⟩
  -- there is a handle for every group, so that pairing them drops none
  have hplaces : (r.groups.zip layout.handles).map Prod.fst = r.groups :=
    List.map_fst_zip (by omega)
  rw [bound, List.forall₂_map_right_iff, ← hplaces, List.forall₂_map_right_iff]
  refine hloop.flip.imp ?_
  rintro object place ⟨d₁, hd₁, hheld⟩
  rw [hd', Option.some.injEq] at hd₁
  rw [hd₁]
  exact hheld

/-- What the pass of a dispatch finds in its bind groups. -/
theorem Wired.map_getD {r : Rig} {groups : List (Ref .group)}
    {buffers : List (List (Option (Ref .buffer)))} (h : r.Wired groups buffers) {d d₁ : Device}
    (hd : r.device = some d) (hidle : Device.Idle d d₁) :
    groups.map (fun group => d₁.groups.getD group.index []) = buffers := by
  obtain ⟨d₀, hd₀, hheld⟩ := h
  rw [hd, Option.some.injEq] at hd₀
  rw [← List.forall₂_eq_eq_eq, List.forall₂_map_left_iff]
  refine hheld.imp ?_
  intro group held hgroup
  rw [← hd₀] at hgroup
  rw [List.getD_eq_getElem?_getD, getElem?_of_prefix hidle.groups hgroup]
  rfl

/-! ## Buffers of their own -/

theorem ref_eq_of_index {kind : ObjectKind} {a b : Ref kind} (h : a.index = b.index) : a = b := by
  cases a
  cases b
  simpa using h

/-- An object has one maker. -/
theorem Made.unique {r : Rig} {kind : ObjectKind} {object : Ref kind} {call call' : Call}
    (h : r.Made object call) (h' : r.Made object call') : call = call' := by
  obtain ⟨d, hd, hmaker⟩ := h
  obtain ⟨d', hd', hmaker'⟩ := h'
  rw [hd, Option.some.injEq] at hd'
  rw [← hd', hmaker, Option.some.injEq] at hmaker'
  exact hmaker'

/-- No input has the buffer of an output. -/
theorem Registered.index_ne_of_input {r : Rig} (h : Registered r) {i : Input} {o : Output}
    (hi : i ∈ r.inputs.values) (ho : o ∈ r.outputs.values) {source target : Ref .buffer}
    (hsource : i.buffer = some source) (htarget : o.buffer = some target) :
    source.index ≠ target.index := by
  intro hindex
  have howned := h.owned i hi source hsource
  rw [ref_eq_of_index hindex] at howned
  have hcall := howned.unique (h.staged o ho target htarget)
  simp [inputUsage, outputUsage] at hcall

/-- Different outputs have different buffers. -/
theorem Registered.index_ne_of_output {r : Rig} (h : Registered r) {o other : Output}
    (ho : o ∈ r.outputs.values) (hother : other ∈ r.outputs.values) (hne : other ≠ o)
    {target target' : Ref .buffer} (htarget : o.buffer = some target)
    (htarget' : other.buffer = some target') : target'.index ≠ target.index := by
  intro hindex
  have hstaged := h.staged other hother target' htarget'
  rw [ref_eq_of_index hindex] at hstaged
  have hcall := hstaged.unique (h.staged o ho target htarget)
  have hname : other.name = o.name := (Call.createBuffer.inj hcall).1
  have hget := h.outputs.get?_of_mem hother
  rw [hname, h.outputs.get?_of_mem ho, Option.some.injEq] at hget
  exact hne hget.symm

/-! ## A dispatch -/

theorem spares_copyOf {r : Rig} {o : Output} {k : Nat}
    (h : ∀ buffer, o.buffer = some buffer → buffer.index ≠ k) : (r.copyOf o).Spares k := by
  unfold copyOf
  cases r.inputs.get? o.link with
  | none => exact h
  | some i => exact h

/-- The copies of the other outputs leave a buffer alone if none of these has it. -/
theorem Registered.spares_others {r : Rig} (h : Registered r) {o : Output} {before later : List Output}
    (hsplit : r.outputs.values = before ++ o :: later) {k : Nat}
    (hk : ∀ other ∈ r.outputs.values, other ≠ o → ∀ buffer, other.buffer = some buffer →
      buffer.index ≠ k) :
    ∀ command ∈ (before ++ later).map r.copyOf, command.Spares k := by
  have hnodup : (before ++ o :: later).Nodup := by
    rw [← hsplit]
    exact List.Nodup.of_map Output.name (h.outputs.keys ▸ h.outputs.nodup)
  rw [List.nodup_middle, List.nodup_cons] at hnodup
  intro command hcommand
  obtain ⟨other, hother, rfl⟩ := List.mem_map.mp hcommand
  have hmem : other ∈ r.outputs.values := by
    rw [hsplit, List.mem_append, List.mem_cons]
    rw [List.mem_append] at hother
    exact hother.imp_right Or.inr
  have hne : other ≠ o := by
    intro hsame
    exact hnodup.1 (hsame ▸ hother)
  exact spares_copyOf (hk other hmem hne)

/-- **What the buffer of an output holds after a dispatch.** In front what its input holds after the pass,
behind that what it held before. -/
theorem Dispatched.fills {groups : List (Ref .group)} {counts : List Nat} {r r' : Rig}
    (h : Dispatched groups counts r r') (hregistered : Registered r)
    (hwired : r.Wired groups r.bound) {d d' : Device} (hd : r.device = some d)
    (hd' : r'.device = some d') (hconfined : d.kernel.Confined) {o : Output}
    (ho : o ∈ r.outputs.values) {i : Input} (hlink : r.inputs.get? o.link = some i)
    {source target : Ref .buffer} (hsource : i.buffer = some source)
    (htarget : o.buffer = some target) :
    d'.memory[target.index]? = d.memory[target.index]?.map (Bytes.overwrite
      (((d.kernel.run r.bound counts d.memory).getD source.index []).take i.size)) := by
  obtain ⟨d₁, hstill, hmemory⟩ := h.memory_eq hd hd'
  have hi : i ∈ r.inputs.values := NameTable.mem_values_of_get? hlink
  have hpass : d₁.runCommand d.memory (.compute groups counts)
      = d.kernel.run r.bound counts d.memory := by
    rw [Device.runCommand, hwired.map_getD hd hstill.toIdle, hstill.kernel]
  have hkept : (d.kernel.run r.bound counts d.memory)[target.index]? = d.memory[target.index]? := by
    refine hconfined.getElem?_run counts d.memory ?_
    intro group hgroup buffer hbuffer
    obtain ⟨j, hj, hbuffer⟩ := exists_input_of_mem_bound hgroup hbuffer
    exact hregistered.index_ne_of_input hj ho hbuffer htarget
  obtain ⟨before, later, hsplit⟩ := List.append_of_mem ho
  -- the other copies go neither to this target nor to this source
  have htargets := hregistered.spares_others hsplit (k := target.index) fun other hother hne buffer =>
    hregistered.index_ne_of_output ho hother hne htarget
  have hsources := hregistered.spares_others hsplit (k := source.index) fun other hother _ buffer hbuffer =>
    (hregistered.index_ne_of_input hi hother hsource hbuffer).symm
  rw [List.map_append, List.forall_mem_append] at htargets hsources
  have hcopy : r.copyOf o = .copy (some source) (some target) i.size := by
    rw [copyOf, hlink, ← hsource, ← htarget]
  rw [hmemory, List.foldl_cons, hpass, hsplit, List.map_append, List.map_cons, hcopy,
    d₁.getElem?_foldl_of_copy _ hsources.1 htargets.1 htargets.2, hkept]

/-- The entry is one for the output: it has the kind of elements of the input, in front what the input holds
in the memory `after`, and behind that what the output held in the memory `before`. -/
structure Delivered (i : Input) (o : Output) (before after : Memory) (entry : String × Reading) : Prop where
  name : entry.1 = o.name
  element : entry.2.element = i.element
  length : entry.2.bytes.length = o.size
  room : i.size ≤ o.size
  front : ∃ source, i.buffer = some source ∧
    entry.2.bytes.take i.size = (after.getD source.index []).take i.size
  rest : ∃ target, o.buffer = some target ∧
    entry.2.bytes.drop i.size = (before.getD target.index []).drop i.size

/-- **What is read after a dispatch.** -/
theorem Dispatched.delivered {groups : List (Ref .group)} {counts : List Nat} {r r' : Rig}
    (h : Dispatched groups counts r r') (hregistered : Registered r)
    (hwired : r.Wired groups r.bound) {d : Device} (hd : r.device = some d)
    (hconfined : d.kernel.Confined) {o : Output} (ho : o ∈ r.outputs.values) {i : Input}
    (hlink : r.inputs.get? o.link = some i) {bytes old : Bytes} (hsource : r.Held i.buffer bytes)
    (hroom : i.size ≤ bytes.length) (htarget : r.Held o.buffer old) (hlength : old.length = o.size)
    {entry : String × Reading} (hreports : r'.Reports o entry) :
    Delivered i o d.memory (d.kernel.run r.bound counts d.memory) entry := by
  obtain ⟨source, d₁, hsource, hd₁, hbytes⟩ := hsource
  obtain ⟨target, d₂, htarget, hd₂, hold⟩ := htarget
  obtain ⟨buffer, d', hbuffer, hd', hentry⟩ := hreports
  obtain ⟨j, hj, helement, hsize⟩ := hregistered.fed o ho
  rw [hd, Option.some.injEq] at hd₁ hd₂
  rw [← hd₁] at hbytes
  rw [← hd₂] at hold
  rw [htarget, Option.some.injEq] at hbuffer
  rw [hlink, Option.some.injEq] at hj
  rw [← hj] at helement hsize
  -- the pass leaves the input as long as it was, so there is enough to copy
  have hfront : (((d.kernel.run r.bound counts d.memory).getD source.index []).take i.size).length
      = i.size := by
    obtain ⟨left, hleft, hsame⟩ :=
      Memory.exists_of_lengths_eq (d.kernel.lengths_run r.bound counts d.memory) hbytes
    rw [List.getD_eq_getElem?_getD, hleft, Option.getD_some, List.length_take]
    omega
  have hread : entry.2.bytes = Bytes.overwrite
      (((d.kernel.run r.bound counts d.memory).getD source.index []).take i.size) old := by
    have hfills := h.fills hregistered hwired hd hd' hconfined ho hlink hsource htarget
    rw [hold, Option.map_some] at hfills
    rw [hentry, ← hbuffer, List.getD_eq_getElem?_getD, hfills]
    rfl
  refine ⟨?_, ?_, ?_, hsize, ⟨source, hsource, ?_⟩, target, htarget, ?_⟩
  · rw [hentry]
  · rw [hentry, helement]
  · rw [hread, Bytes.length_overwrite, hfront]
    omega
  · rw [hread, Bytes.take_overwrite hfront]
  · rw [hread, Bytes.drop_overwrite hfront, List.getD_eq_getElem?_getD, hold]
    rfl

/-! ## A device that answers -/

theorem Willing.compile {r : Rig} (h : r.Willing) {layout : Layout} {signature : Signature}
    (hfits : layout.signature = signature) (sourceText entryPoint : String) :
    SucceedsFrom Continues r (compile sourceText entryPoint layout signature) := by
  intro r₁ hcontinues
  rw [outcome_compile_of_eq hfits]
  obtain ⟨⟨shader, pipelineLayout, pipeline⟩, r₂, hbuild⟩ :=
    h.onDevice (conversation_buildPipeline r₁.label sourceText entryPoint layout.handles) r₁ hcontinues
  rw [Outcome.bind_of_ok (Outcome.adapt_eq_ok_iff.mpr hbuild)]
  exact ⟨_, _, rfl⟩

theorem Willing.readOutput {r : Rig} (h : r.Willing) (waiting : Waiting) {o : Output} {bytes : Bytes}
    (hheld : r.Held o.buffer bytes) (hwhole : 4 ∣ bytes.length) :
    SucceedsFrom Still r (readOutput waiting o) := by
  intro r₁ hstill
  obtain ⟨buffer, d₁, hbuffer, hd₁, hbytes⟩ := hheld.idle hstill.idle
  have hcall : ∀ {α : Type} {m : DeviceM α} {r₂ : Rig}, Device.Conversation m → Still r₁ r₂ →
      ∃ a r₃, outcome (Rig.onDevice m) r₂ = (.ok a, r₃) := by
    intro α m r₂ hm hstill₂
    exact h.onDevice hm r₂ (trans_of Still hstill hstill₂).toContinues
  unfold Rig.readOutput
  rw [hbuffer]
  obtain ⟨_, r₂, hmap⟩ := hcall (Device.speaks_map waiting buffer).toConversation (refl_of Still r₁)
  have hstill₂ : Still r₁ r₂ := (still_onDevice (Device.still_map waiting buffer)).of_outcome_eq hmap
  obtain ⟨read, r₃, hread⟩ := hcall (Device.speaks_readMapped buffer).toConversation hstill₂
  have hstill₃ : Still r₂ r₃ := (still_onDevice (Device.still_readMapped buffer)).of_outcome_eq hread
  have hlength : read.length % 4 = 0 := by
    obtain ⟨d₂, _, hd₂, hreadMapped, -⟩ := onDevice_eq_ok hread
    rw [Device.readMapped_eq_ok hreadMapped, (hstill₂.still hd₁ hd₂).unchanged,
      List.getD_eq_getElem?_getD, hbytes]
    exact Nat.mod_eq_zero_of_dvd hwhole
  have hmapped : outcome (readMapped buffer) r₂ = (.ok read, r₃) := by
    rw [readMapped, Outcome.bind_of_ok hread, if_neg (by simp [hlength])]
    rfl
  obtain ⟨_, r₄, hunmap⟩ := hcall (Device.speaks_unmap buffer).toConversation
    (trans_of Still hstill₂ hstill₃)
  have hobserved : outcome (observing (readMapped buffer)) r₂ = (.ok (.ok read), r₃) := by
    rw [Outcome.observing_eq, hmapped]
  simp only
  rw [Outcome.bind_of_ok hmap, Outcome.bind_of_ok hobserved, Outcome.bind_of_ok hunmap]
  exact ⟨_, _, rfl⟩

/-- Outputs made of whole words can be read once something has been dispatched. -/
theorem Willing.readBack {r : Rig} (h : r.Willing) (waiting : Waiting) (hsubmitted : r.submitted = true)
    (hheld : ∀ o ∈ r.outputs.values, ∃ bytes, r.Held o.buffer bytes ∧ 4 ∣ bytes.length) :
    ∃ readings r', outcome (readBack waiting) r = (.ok readings, r') := by
  have hloop : SucceedsFrom Still r (r.outputs.values.mapM (Rig.readOutput waiting)) := by
    refine SucceedsFrom.mapM (still_readOutput waiting) fun o ho => ?_
    obtain ⟨bytes, hbytes, hwhole⟩ := hheld o ho
    exact h.readOutput waiting hbytes hwhole
  obtain ⟨entries, r', hentries⟩ := hloop r (refl_of Still r)
  unfold Rig.readBack
  rw [Outcome.get_bind, if_neg (by simp [hsubmitted]), Outcome.bind_of_ok hentries]
  exact ⟨_, _, rfl⟩

end KernelShader.Rig
