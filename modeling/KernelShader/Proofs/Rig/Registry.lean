/-
`Registry.lean` -- the tables of a rig that has come about by its own operations.

Every operation either leaves the tables alone, or adds one entry at the end of one of them, or takes the
buffers out of entries that stay where they are (`Persists`). From that follow, for every rig that can be
reached: each entry stands under its own name and no name is in both tables, the inputs are numbered from
zero in the order of their registration, every output has room for the input it is linked to, and the
buffer of an entry is one that was made for it.
-/
import KernelShader.Proofs.NameTable
import KernelShader.Proofs.Rig.Register

set_option autoImplicit false

namespace KernelShader

/-- The input after its buffer has been given back. -/
def Input.released (i : Input) : Input := { i with buffer := none }

/-- The output after its buffer has been given back. -/
def Output.released (o : Output) : Output := { o with buffer := none }

/-- Giving back the buffer changes nothing else. -/
theorem Input.released_inj {i j : Input} : i.released = j.released ↔
    i.name = j.name ∧ i.element = j.element ∧ i.size = j.size ∧ i.group = j.group ∧
      i.binding = j.binding := by
  simp [Input.released]

theorem Output.released_inj {o p : Output} : o.released = p.released ↔
    o.name = p.name ∧ o.element = p.element ∧ o.size = p.size ∧ o.link = p.link := by
  simp [Output.released]

/-- The output is linked to an input of its own element type that it has room for. -/
def Output.Fed (inputs : NameTable Input) (o : Output) : Prop :=
  ∃ i, inputs.get? o.link = some i ∧ o.element = i.element ∧ i.size ≤ o.size

/-- Buffers do not matter. -/
theorem Output.Fed.of_released {inputs inputs' : NameTable Input} {o o' : Output} (h : o.Fed inputs)
    (ho : o.released = o'.released)
    (hinputs : inputs'.mapValues Input.released = inputs.mapValues Input.released) :
    o'.Fed inputs' := by
  obtain ⟨i, hget, helement, hsize⟩ := h
  obtain ⟨i', hget', hi⟩ := NameTable.exists_get?_of_mapValues_eq hinputs hget
  obtain ⟨-, hkind, hroom, hlink⟩ := Output.released_inj.mp ho
  obtain ⟨-, hkind', hsize', -⟩ := Input.released_inj.mp hi
  refine ⟨i', ?_, ?_, ?_⟩
  · rw [← hlink, hget']
  · rw [← hkind, helement, hkind']
  · omega

theorem Output.Fed.insert {inputs : NameTable Input} {o : Output} (h : o.Fed inputs) {name : String}
    (hnew : name ∉ inputs.names) (i : Input) : o.Fed (inputs.insert name i) := by
  obtain ⟨source, hget, hfits⟩ := h
  refine ⟨source, NameTable.get?_mono ?_ hget, hfits⟩
  rw [NameTable.entries_insert_of_not_mem i hnew]
  exact List.prefix_append _ _

namespace Rig

/-! ## Entries that stay -/

/-- The tables have the same entries, apart from buffers that are gone, and the device has gone on from
where it was. -/
structure Persists (r r' : Rig) : Prop where
  nextBinding : r'.nextBinding = r.nextBinding
  inputs : r'.inputs.mapValues Input.released = r.inputs.mapValues Input.released
  outputs : r'.outputs.mapValues Output.released = r.outputs.mapValues Output.released
  buffers : ∀ {name i}, r'.inputs.get? name = some i → i.buffer = none ∨ r.inputs.get? name = some i
  staging : ∀ {name o}, r'.outputs.get? name = some o →
    o.buffer = none ∨ r.outputs.get? name = some o
  device : ∀ {d}, r.device = some d → ∃ d', r'.device = some d' ∧ Device.Extends d d'

theorem Continues.persists {r r' : Rig} (h : Continues r r') : Persists r r' := by
  refine ⟨h.nextBinding, ?_, ?_, ?_, ?_, h.device⟩
  · rw [h.inputs]
  · rw [h.outputs]
  · intro name i hi
    rw [h.inputs] at hi
    exact Or.inr hi
  · intro name o ho
    rw [h.outputs] at ho
    exact Or.inr ho

instance : IsPreorder Rig Persists where
  refl r := (refl_of Continues r).persists
  trans r r₁ r₂ h h' := by
    refine ⟨h'.nextBinding.trans h.nextBinding, h'.inputs.trans h.inputs,
      h'.outputs.trans h.outputs, ?_, ?_, ?_⟩
    · intro name i hi
      rcases h'.buffers hi with hnone | hi'
      · exact Or.inl hnone
      · exact h.buffers hi'
    · intro name o ho
      rcases h'.staging ho with hnone | ho'
      · exact Or.inl hnone
      · exact h.staging ho'
    · intro d hd
      obtain ⟨d₁, hd₁, hextends⟩ := h.device hd
      obtain ⟨d₂, hd₂, hextends'⟩ := h'.device hd₁
      exact ⟨d₂, hd₂, trans_of Device.Extends hextends hextends'⟩

theorem Made.persists {r r' : Rig} {kind : ObjectKind} {object : Ref kind} {call : Call}
    (h : r.Made object call) (hpersists : Persists r r') : r'.Made object call := by
  obtain ⟨d, hd, hmaker⟩ := h
  obtain ⟨d', hd', hextends⟩ := hpersists.device hd
  exact ⟨d', hd', hextends.maker_eq hmaker⟩

/-! ## Giving back buffers -/

theorem persists_insertInput {i : Input} {r : Rig}
    (h : (r.inputs.mapValues Input.released).get? i.name = some i.released) :
    Persists r { r with inputs := r.inputs.insert i.name i.released } := by
  refine ⟨rfl, ?_, rfl, ?_, fun ho => Or.inr ho, fun {d} hd => ⟨d, hd, refl_of Device.Extends d⟩⟩
  · rw [NameTable.mapValues_insert]
    exact NameTable.insert_eq_self h
  · intro name j hj
    rcases NameTable.get?_insert_or hj with rfl | hold
    · exact Or.inl rfl
    · exact Or.inr hold

theorem persists_insertOutput {o : Output} {r : Rig}
    (h : (r.outputs.mapValues Output.released).get? o.name = some o.released) :
    Persists r { r with outputs := r.outputs.insert o.name o.released } := by
  refine ⟨rfl, rfl, ?_, fun hi => Or.inr hi, ?_, fun {d} hd => ⟨d, hd, refl_of Device.Extends d⟩⟩
  · rw [NameTable.mapValues_insert]
    exact NameTable.insert_eq_self h
  · intro name p hp
    rcases NameTable.get?_insert_or hp with rfl | hold
    · exact Or.inl rfl
    · exact Or.inr hold

/-- The buffer is destroyed first; where that fails, the tables are not touched. -/
theorem persists_giveBack (buffer : Ref .buffer) {f : Rig → Rig} {r : Rig}
    (hf : ∀ r₁, Persists r r₁ → Persists r₁ (f r₁)) :
    Persists r (outcome (onDevice (Device.destroy buffer) >>= fun _ => modify f) r).2 := by
  have hdestroy : Continues r (outcome (onDevice (Device.destroy buffer)) r).2 :=
    continues_onDevice (Device.speaks_destroy buffer).grows r
  exact Keeps.bind_at hdestroy.persists fun _ r₁ hpersists => hf r₁ hpersists

theorem persists_releaseInput (i : Input) (r : Rig)
    (h : (r.inputs.mapValues Input.released).get? i.name = some i.released) :
    Persists r (outcome (releaseInput i) r).2 := by
  unfold releaseInput
  cases i.buffer with
  | none => exact refl_of Persists r
  | some buffer =>
    refine persists_giveBack buffer fun r₁ hpersists => persists_insertInput ?_
    rw [hpersists.inputs]
    exact h

theorem persists_releaseOutput (o : Output) (r : Rig)
    (h : (r.outputs.mapValues Output.released).get? o.name = some o.released) :
    Persists r (outcome (releaseOutput o) r).2 := by
  unfold releaseOutput
  cases o.buffer with
  | none => exact refl_of Persists r
  | some buffer =>
    refine persists_giveBack buffer fun r₁ hpersists => persists_insertOutput ?_
    rw [hpersists.outputs]
    exact h

/-! ## The registry -/

/-- The tables are in order. -/
structure Registered (r : Rig) : Prop where
  inputs : r.inputs.Keyed Input.name
  outputs : r.outputs.Keyed Output.name
  apart : r.inputs.names.Disjoint r.outputs.names
  bindings : r.inputs.values.map Input.binding = List.range r.nextBinding
  sizes : ∀ i ∈ r.inputs.values, 0 < i.size ∧ 4 ∣ i.size
  fed : ∀ o ∈ r.outputs.values, o.Fed r.inputs
  owned : ∀ i ∈ r.inputs.values, ∀ buffer, i.buffer = some buffer →
    r.Made buffer (.createBuffer i.name i.size inputUsage)
  staged : ∀ o ∈ r.outputs.values, ∀ buffer, o.buffer = some buffer →
    r.Made buffer (.createBuffer o.name o.size outputUsage)

theorem registered_fresh (device : Option Device) (label : String) (log : List Event) :
    Registered { device, label, log } := by
  refine ⟨.empty, .empty, List.disjoint_nil_left _, rfl, ?_, ?_, ?_, ?_⟩ <;>
    exact fun _ h => absurd h List.not_mem_nil

theorem Registered.linked {r : Rig} (h : Registered r) :
    ∀ o ∈ r.outputs.values, r.inputs.contains o.link = true := by
  intro o ho
  obtain ⟨i, hget, -⟩ := h.fed o ho
  exact Option.isSome_iff_exists.mpr ⟨i, hget⟩

/-- Giving back the buffers leaves every entry in its place, wherever it stops. -/
theorem Registered.persists_release {r : Rig} (h : Registered r) :
    Persists r (outcome release r).2 := by
  have hinputs : ∀ i ∈ r.inputs.values,
      (r.inputs.mapValues Input.released).get? i.name = some i.released := by
    intro i hi
    rw [NameTable.get?_mapValues, h.inputs.get?_of_mem hi, Option.map_some]
  have houtputs : ∀ o ∈ r.outputs.values,
      (r.outputs.mapValues Output.released).get? o.name = some o.released := by
    intro o ho
    rw [NameTable.get?_mapValues, h.outputs.get?_of_mem ho, Option.map_some]
  have hfirst : Persists r (outcome (r.inputs.values.forM releaseInput) r).2 := by
    refine Keeps.forM_of_condition persists_releaseInput ?_ _ r hinputs
    intro i r₁ r₂ hpersists hi
    rw [hpersists.inputs]
    exact hi
  -- the outputs are those from before the inputs were released, and still in the table then
  unfold release
  rw [Outcome.get_bind]
  refine Keeps.bind_at hfirst fun _ r₁ hgone => ?_
  refine Keeps.forM_of_condition persists_releaseOutput ?_ _ r₁ ?_
  · intro o r₂ r₃ hpersists ho
    rw [hpersists.outputs]
    exact ho
  · intro o ho
    rw [hgone.outputs]
    exact houtputs o ho

theorem Registered.persists {r r' : Rig} (h : Registered r) (hpersists : Persists r r') :
    Registered r' := by
  have hinputs : r'.inputs.Keyed Input.name :=
    h.inputs.of_mapValues_eq (f := Input.released) (fun _ => rfl) hpersists.inputs
  have houtputs : r'.outputs.Keyed Output.name :=
    h.outputs.of_mapValues_eq (f := Output.released) (fun _ => rfl) hpersists.outputs
  refine ⟨hinputs, houtputs, ?_, ?_, ?_, ?_, ?_, ?_⟩
  · rw [← NameTable.names_mapValues Input.released, ← NameTable.names_mapValues Output.released,
      hpersists.inputs, hpersists.outputs, NameTable.names_mapValues, NameTable.names_mapValues]
    exact h.apart
  · have hbinding : ∀ t : NameTable Input,
        t.values.map Input.binding = (t.mapValues Input.released).values.map Input.binding := by
      intro t
      rw [NameTable.values_mapValues, List.map_map]
      rfl
    rw [hbinding, hpersists.inputs, ← hbinding, h.bindings, hpersists.nextBinding]
  · intro i hi
    obtain ⟨old, hold, heq⟩ := NameTable.exists_mem_of_mapValues_eq hpersists.inputs hi
    obtain ⟨-, -, hsize, -⟩ := Input.released_inj.mp heq
    rw [← hsize]
    exact h.sizes old hold
  · intro o ho
    obtain ⟨old, hold, heq⟩ := NameTable.exists_mem_of_mapValues_eq hpersists.outputs ho
    exact (h.fed old hold).of_released heq hpersists.inputs
  · intro i hi buffer hbuffer
    rcases hpersists.buffers (hinputs.get?_of_mem hi) with hnone | hget
    · rw [hnone] at hbuffer
      exact nomatch hbuffer
    · exact (h.owned i (NameTable.mem_values_of_get? hget) buffer hbuffer).persists hpersists
  · intro o ho buffer hbuffer
    rcases hpersists.staging (houtputs.get?_of_mem ho) with hnone | hget
    · rw [hnone] at hbuffer
      exact nomatch hbuffer
    · exact (h.staged o (NameTable.mem_values_of_get? hget) buffer hbuffer).persists hpersists

/-! ## Registration -/

/-- A name passes the check if it is in neither table. -/
theorem checkName_eq_ok_iff {r : Rig} {name : String} :
    r.checkName name = .ok () ↔ name ∉ r.inputs.names ∧ name ∉ r.outputs.names := by
  rw [← NameTable.contains_iff_mem_names, ← NameTable.contains_iff_mem_names, checkName]
  cases r.inputs.contains name <;> cases r.outputs.contains name <;> simp

/-- The elements of an array that a buffer can be made of have four bytes each. -/
theorem bytes_of_ofHostData {data : Value} {element : ScalarKind} {array : HostArray}
    (h : ShaderType.ofHostData data = .ok (element, array)) : array.element.bytes = 4 := by
  obtain ⟨a, rfl⟩ : ∃ a, data = .array a := by
    cases data with
    | array a => exact ⟨a, rfl⟩
    | _ => exact nomatch h
  simp only [ShaderType.ofHostData] at h
  cases hkind : a.element.scalarKind? with
  | none =>
    rw [hkind] at h
    exact nomatch h
  | some kind =>
    rw [hkind] at h
    injection h with h
    obtain ⟨-, rfl⟩ := Prod.mk.inj h
    by_contra hne
    simp [HostElement.scalarKind?, hne] at hkind

theorem four_dvd_of_ofHostData {data : Value} {element : ScalarKind} {array : HostArray}
    (h : ShaderType.ofHostData data = .ok (element, array)) : 4 ∣ array.byteCount := by
  rw [HostArray.byteCount, bytes_of_ofHostData h]
  exact Nat.dvd_mul_left 4 _

/-- The group of an input is the integer that was given for it. -/
theorem checkGroup_eq_ok {name : String} {group : Value} {place : Nat}
    (h : checkGroup name group = .ok place) : group = .int place := by
  unfold checkGroup at h
  split at h
  · rename_i n
    by_cases hn : 0 ≤ n
    · rw [if_pos hn, Except.ok.injEq] at h
      rw [← h, Int.toNat_of_nonneg hn]
    · rw [if_neg hn] at h
      exact nomatch h
  · exact nomatch h

/-- **When an input passes its checks.** -/
theorem checkInput_eq_ok_iff {r : Rig} {name : String} {data group : Value} {element : ScalarKind}
    {array : HostArray} {place : Nat} :
    r.checkInput name data group = .ok (element, array, place) ↔
      ShaderType.ofHostData data = .ok (element, array) ∧ r.checkName name = .ok () ∧
      array.byteCount ≠ 0 ∧ checkGroup name group = .ok place := by
  unfold checkInput
  constructor
  · intro h
    obtain ⟨⟨element', array'⟩, hdata, h⟩ := Check.bind_eq_ok_iff.mp h
    obtain ⟨_, hname, h⟩ := Check.bind_eq_ok_iff.mp h
    by_cases hempty : array'.byteCount = 0
    · simp [hempty, throw, throwThe, MonadExceptOf.throw, bind, Except.bind] at h
    · rw [if_neg hempty] at h
      obtain ⟨place', hgroup, h⟩ := Check.bind_eq_ok_iff.mp h
      simp only [pure, Except.pure, Except.ok.injEq, Prod.mk.injEq] at h
      obtain ⟨rfl, rfl, rfl⟩ := h
      exact ⟨hdata, hname, hempty, hgroup⟩
  · rintro ⟨hdata, hname, hempty, hgroup⟩
    refine Check.bind_eq_ok_iff.mpr ⟨(element, array), hdata, ?_⟩
    refine Check.bind_eq_ok_iff.mpr ⟨(), hname, ?_⟩
    rw [if_neg hempty]
    exact Check.bind_eq_ok_iff.mpr ⟨place, hgroup, rfl⟩

/-- **What the check of an input lets through.** -/
theorem checkInput_eq_ok {r : Rig} {name : String} {data group : Value} {element : ScalarKind}
    {array : HostArray} {place : Nat} (h : r.checkInput name data group = .ok (element, array, place)) :
    r.checkName name = .ok () ∧ 0 < array.byteCount ∧ 4 ∣ array.byteCount ∧ group = .int place := by
  obtain ⟨hdata, hname, hempty, hgroup⟩ := checkInput_eq_ok_iff.mp h
  exact ⟨hname, Nat.pos_of_ne_zero hempty, four_dvd_of_ofHostData hdata, checkGroup_eq_ok hgroup⟩

/-- **What the check of an output lets through.** -/
theorem checkOutput_eq_ok {r : Rig} {name link : String} {data : Value} {source : Input} {size : Nat}
    (h : r.checkOutput name link data = .ok (source, size)) :
    r.inputs.get? link = some source ∧ r.checkName name = .ok () ∧ source.size ≤ size := by
  unfold checkOutput at h
  cases hlink : r.inputs.get? link with
  | none =>
    rw [hlink] at h
    exact nomatch h
  | some found =>
    rw [hlink] at h
    obtain ⟨_, hname, h⟩ := Check.bind_eq_ok_iff.mp h
    obtain ⟨size', -, h⟩ := Check.bind_eq_ok_iff.mp h
    by_cases hsmall : size' < found.size
    · rw [if_pos hsmall] at h
      exact nomatch h
    · rw [if_neg hsmall] at h
      injection h with h
      obtain ⟨rfl, rfl⟩ := Prod.mk.inj h
      exact ⟨rfl, hname, Nat.le_of_not_lt hsmall⟩

/-- A registered input comes last, in the group that was given for it. -/
theorem registerInput_appends (name : String) (data group : Value) (r : Rig) :
    (∃ fault r', outcome (registerInput name data group) r = (.error fault, r') ∧ Consults r r') ∨
    (∃ i r', outcome (registerInput name data group) r = (.ok i, r') ∧
      r'.inputs.values = r.inputs.values ++ [i] ∧ r'.outputs = r.outputs ∧
      i.name = name ∧ group = .int i.group) := by
  rcases registerInput_cases name data group r with
    hfails | ⟨element, array, place, buffer, r', hcheck, hgone, -, hout⟩
  · exact Or.inl hfails
  · obtain ⟨hname, -, -, hgroup⟩ := checkInput_eq_ok hcheck
    have hvalues := fun i => NameTable.values_insert_of_not_mem i (checkName_eq_ok_iff.mp hname).1
    exact Or.inr ⟨_, _, hout, hvalues _, hgone.outputs, rfl, hgroup⟩

theorem registerOutput_appends (name link : String) (data : Value) (r : Rig) :
    (∃ fault r', outcome (registerOutput name link data) r = (.error fault, r') ∧ Consults r r') ∨
    (∃ o r', outcome (registerOutput name link data) r = (.ok o, r') ∧
      r'.inputs = r.inputs ∧ r'.outputs.values = r.outputs.values ++ [o]) := by
  rcases registerOutput_cases name link data r with
    hfails | ⟨source, size, buffer, r', hcheck, hgone, -, hout⟩
  · exact Or.inl hfails
  · have hname := (checkOutput_eq_ok hcheck).2.1
    have hvalues := fun o => NameTable.values_insert_of_not_mem o (checkName_eq_ok_iff.mp hname).2
    exact Or.inr ⟨_, _, hout, hgone.inputs, hvalues _⟩

theorem Registered.registerInput {r : Rig} (h : Registered r) (name : String) (data group : Value) :
    Registered (outcome (registerInput name data group) r).2 := by
  rcases registerInput_cases name data group r with
    ⟨fault, r', hout, hgone⟩ | ⟨element, array, place, buffer, r', hcheck, hgone, hmade, hout⟩
  · rw [hout]
    exact h.persists hgone.persists
  · obtain ⟨hname, hpos, hfour, -⟩ := checkInput_eq_ok hcheck
    obtain ⟨hnew, hfree⟩ := checkName_eq_ok_iff.mp hname
    have hold := h.persists hgone.persists
    have hvalues := fun i => NameTable.values_insert_of_not_mem (t := r.inputs) i hnew
    rw [hout]
    refine ⟨h.inputs.insert hnew rfl, hold.outputs, ?_, ?_, ?_, ?_, ?_, hold.staged⟩
    · simp only
      rw [NameTable.names_insert, if_neg hnew, hgone.outputs, List.disjoint_append_left]
      exact ⟨h.apart, List.singleton_disjoint.mpr hfree⟩
    · simp only
      rw [hvalues, List.map_append, h.bindings, List.range_succ]
      rfl
    · intro i hi
      rw [hvalues, List.mem_append, List.mem_singleton] at hi
      rcases hi with hi | rfl
      · exact h.sizes i hi
      · exact ⟨hpos, hfour⟩
    · -- links are to earlier inputs, which the new one does not displace
      intro o ho
      have hfed := hold.fed o ho
      rw [hgone.inputs] at hfed
      exact hfed.insert hnew _
    · -- the new input has the buffer that was made just now, the others have theirs from before
      intro i hi buffer' hbuffer
      rw [hvalues, List.mem_append, List.mem_singleton] at hi
      rcases hi with hi | rfl
      · rw [← hgone.inputs] at hi
        exact hold.owned i hi buffer' hbuffer
      · rw [Option.some.injEq] at hbuffer
        rw [← hbuffer]
        exact hmade

theorem Registered.registerOutput {r : Rig} (h : Registered r) (name link : String) (data : Value) :
    Registered (outcome (registerOutput name link data) r).2 := by
  rcases registerOutput_cases name link data r with
    ⟨fault, r', hout, hgone⟩ | ⟨source, size, buffer, r', hcheck, hgone, hmade, hout⟩
  · rw [hout]
    exact h.persists hgone.persists
  · obtain ⟨hget, hname, hroom⟩ := checkOutput_eq_ok hcheck
    obtain ⟨hfree, hnew⟩ := checkName_eq_ok_iff.mp hname
    have hold := h.persists hgone.persists
    have hvalues := fun o => NameTable.values_insert_of_not_mem (t := r.outputs) o hnew
    rw [hout]
    refine ⟨hold.inputs, h.outputs.insert hnew rfl, ?_, hold.bindings, hold.sizes, ?_, hold.owned, ?_⟩
    · simp only
      rw [NameTable.names_insert, if_neg hnew, hgone.inputs, List.disjoint_append_right]
      exact ⟨h.apart, List.disjoint_singleton.mpr hfree⟩
    · intro o ho
      rw [hvalues, List.mem_append, List.mem_singleton] at ho
      rcases ho with ho | rfl
      · rw [← hgone.outputs] at ho
        exact hold.fed o ho
      · rw [← hgone.inputs] at hget
        exact ⟨source, hget, rfl, hroom⟩
    · intro o ho buffer' hbuffer
      rw [hvalues, List.mem_append, List.mem_singleton] at ho
      rcases ho with ho | rfl
      · rw [← hgone.outputs] at ho
        exact hold.staged o ho buffer' hbuffer
      · rw [Option.some.injEq] at hbuffer
        rw [← hbuffer]
        exact hmade

/-! ## Rigs that can be reached -/

/-- A rig as it can come about: without buffers at first, then by registrations and releases, and by
whatever else is done with the device, whether any of it fails or not. -/
inductive Reachable : Rig → Prop
  | fresh (device : Option Device) (label : String) (log : List Event) :
    Reachable { device, label, log }
  | registerInput {r : Rig} (name : String) (data group : Value) :
    Reachable r → Reachable (outcome (Rig.registerInput name data group) r).2
  | registerOutput {r : Rig} (name link : String) (data : Value) :
    Reachable r → Reachable (outcome (Rig.registerOutput name link data) r).2
  | release {r : Rig} : Reachable r → Reachable (outcome Rig.release r).2
  | continues {r r' : Rig} : Reachable r → Continues r r' → Reachable r'

/-- **The registry.** The tables of every rig that can be reached are in order. -/
theorem Reachable.registered {r : Rig} (h : Reachable r) : Registered r := by
  induction h with
  | fresh device label log => exact registered_fresh device label log
  | registerInput name data group _ ih => exact ih.registerInput name data group
  | registerOutput name link data _ ih => exact ih.registerOutput name link data
  | release _ ih => exact ih.persists ih.persists_release
  | continues _ hcontinues ih => exact ih.persists hcontinues.persists

end Rig

end KernelShader
