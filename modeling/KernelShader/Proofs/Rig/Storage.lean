/-
`Storage.lean` -- what the buffers of a rig hold.

Registering an input puts its data into a buffer that comes after all others, and registering an output
puts a buffer of zeros there; nothing is run by either, nor by giving buffers back.
-/
import KernelShader.Proofs.Rig.Dispatch
import KernelShader.Proofs.Rig.Registry

set_option autoImplicit false

namespace KernelShader.Rig

variable {α : Type}

/-! ## Registering and giving back -/

theorem idle_onDevice {m : DeviceM α} (hextends : Keeps Device.Extends m) {r : Rig}
    (h : ∀ {d}, r.device = some d → Device.Idle d (outcome m d).2) :
    Idle r (outcome (onDevice m) r).2 := by
  have hconsults := consults_onDevice hextends r
  refine ⟨?_, hconsults.gone, ?_⟩
  · rw [hconsults.rest]
  · intro d hd
    refine ⟨(outcome m d).2, ?_, h hd⟩
    rw [outcome_onDevice_of_some hd]

theorem idle_modify {f : Rig → Rig} (hdevice : ∀ r, (f r).device = r.device)
    (hsubmitted : ∀ r, (f r).submitted = r.submitted) : Keeps Idle (modify f : RigM PUnit) := by
  intro r
  refine ⟨hsubmitted r, fun hnone => (hdevice r).trans hnone, ?_⟩
  intro d hd
  exact ⟨d, (hdevice r).trans hd, refl_of Device.Idle d⟩

theorem idle_createBuffer (label : String) (size usage : Nat) :
    Keeps Idle (onDevice (Device.createBuffer label size usage)) := fun _ =>
  idle_onDevice (Device.makes_createBuffer label size usage).grows fun {d} _ =>
    Device.idle_createBuffer label size usage d

theorem idle_registerInput (name : String) (data group : Value) :
    Keeps Idle (registerInput name data group) := by
  intro r
  unfold registerInput
  rw [Outcome.get_bind, Outcome.liftExcept_bind]
  cases r.checkInput name data group with
  | error fault => exact refl_of Idle r
  | ok checked =>
    obtain ⟨element, array, place⟩ := checked
    simp only
    rcases hx : outcome (onDevice (Device.createBuffer name array.byteCount inputUsage)) r
      with ⟨x, r₁⟩
    have hidle₁ : Idle r r₁ := (idle_createBuffer _ _ _).of_outcome_eq hx
    cases x with
    | error fault =>
      rw [Outcome.bind_of_error hx]
      exact hidle₁
    | ok buffer =>
      rw [Outcome.bind_of_ok hx]
      obtain ⟨d, d₁, hd, hcreate, rfl⟩ := onDevice_eq_ok hx
      obtain ⟨hbuffer, -⟩ := Device.createBuffer_eq_ok hcreate
      rcases hy : outcome (onDevice (Device.writeBuffer buffer (Bytes.ofWords array.words)))
        { r with device := some d₁ } with ⟨y, r₂⟩
      -- the data goes to the new buffer, so the others hold what they held before it was made
      have hidle₂ : Idle r r₂ := by
        have hnew : d.memory.length ≤ buffer.index := by simp [hbuffer]
        have hd₁ : Device.Idle d d₁ := (Device.idle_createBuffer _ _ _).of_outcome_eq hcreate
        rw [outcome_onDevice_of_some rfl, Prod.mk.injEq] at hy
        rw [← hy.2]
        refine ⟨rfl, fun hnone => ?_, ?_⟩
        · simp [hd] at hnone
        · intro d₀ hd₀
          rw [hd, Option.some.injEq] at hd₀
          exact ⟨_, rfl, hd₀ ▸ hd₁.writeBuffer hnew _⟩
      cases y with
      | error fault =>
        rw [Outcome.bind_of_error hy]
        exact hidle₂
      | ok _ =>
        rw [Outcome.bind_of_ok hy]
        exact ⟨hidle₂.submitted, hidle₂.gone, hidle₂.device⟩

theorem idle_registerOutput (name link : String) (data : Value) :
    Keeps Idle (registerOutput name link data) := by
  refine Keeps.get.bind fun r => (Keeps.liftExcept _).bind fun checked => ?_
  refine (idle_createBuffer _ _ _).bind fun buffer => ?_
  exact fun r => ⟨rfl, id, fun {d} hd => ⟨d, hd, refl_of Device.Idle d⟩⟩

theorem idle_release : Keeps Idle release :=
  keeps_release (fun buffer r => (still_onDevice (Device.still_destroy buffer) r).idle)
    fun _ => idle_modify

/-- **Where the data of an input is.** In a buffer after all others, which it fills from the front. -/
theorem registerInput_stores {name : String} {data group : Value} {r r' : Rig} {i : Input}
    (h : outcome (registerInput name data group) r = (.ok i, r')) :
    ∃ element array place d d', r.checkInput name data group = .ok (element, array, place) ∧
      r.device = some d ∧ r'.device = some d' ∧
      i = ⟨name, element, array.byteCount, place, r.nextBinding, some ⟨d.memory.length⟩⟩ ∧
      r'.inputs = r.inputs.insert name i ∧ r'.outputs = r.outputs ∧
      d'.memory = d.memory ++
        [Bytes.overwrite (Bytes.ofWords array.words) (Bytes.zeros array.byteCount)] := by
  unfold registerInput at h
  rw [Outcome.get_bind, Outcome.liftExcept_bind] at h
  cases hcheck : r.checkInput name data group with
  | error fault =>
    rw [hcheck] at h
    simp at h
  | ok checked =>
    obtain ⟨element, array, place⟩ := checked
    rw [hcheck] at h
    obtain ⟨buffer, r₁, hcreate, h⟩ := Outcome.bind_eq_ok_iff.mp h
    obtain ⟨_, r₂, hwrite, h⟩ := Outcome.bind_eq_ok_iff.mp h
    obtain ⟨d, d₁, hd, hmade, rfl⟩ := onDevice_eq_ok hcreate
    obtain ⟨_, d₂, hd₁, hwritten, rfl⟩ := onDevice_eq_ok hwrite
    obtain rfl : d₁ = _ := Option.some.inj hd₁
    obtain ⟨hbuffer, hmemory₁⟩ := Device.createBuffer_eq_ok hmade
    have hmemory₂ := Device.writeBuffer_eq_ok hwritten
    obtain ⟨hinput, hr'⟩ := Prod.mk.inj h
    have hi := Except.ok.inj hinput
    refine ⟨element, array, place, d, d₂, rfl, hd, ?_, ?_, ?_, ?_, ?_⟩
    · rw [← hr']
    · rw [← hbuffer]
      exact hi.symm
    · rw [← hr', ← hi]
    · rw [← hr']
    · rw [hmemory₂, hmemory₁, hbuffer]
      simp [List.modify_eq_take_drop]

theorem registerOutput_stores {name link : String} {data : Value} {r r' : Rig} {o : Output}
    (h : outcome (registerOutput name link data) r = (.ok o, r')) :
    ∃ source size d d', r.checkOutput name link data = .ok (source, size) ∧
      r.device = some d ∧ r'.device = some d' ∧
      o = ⟨name, source.element, size, link, some ⟨d.memory.length⟩⟩ ∧
      r'.inputs = r.inputs ∧ r'.outputs = r.outputs.insert name o ∧
      d'.memory = d.memory ++ [Bytes.zeros size] := by
  unfold registerOutput at h
  rw [Outcome.get_bind, Outcome.liftExcept_bind] at h
  cases hcheck : r.checkOutput name link data with
  | error fault =>
    rw [hcheck] at h
    simp at h
  | ok checked =>
    obtain ⟨source, size⟩ := checked
    rw [hcheck] at h
    obtain ⟨buffer, r₁, hcreate, h⟩ := Outcome.bind_eq_ok_iff.mp h
    obtain ⟨d, d₁, hd, hmade, rfl⟩ := onDevice_eq_ok hcreate
    obtain ⟨hbuffer, hmemory⟩ := Device.createBuffer_eq_ok hmade
    obtain ⟨houtput, hr'⟩ := Prod.mk.inj h
    have ho := Except.ok.inj houtput
    refine ⟨source, size, d, d₁, rfl, hd, ?_, ?_, ?_, ?_, hmemory⟩
    · rw [← hr']
    · rw [← hbuffer]
      exact ho.symm
    · rw [← hr']
    · rw [← hr', ← ho]

/-! ## What a buffer holds -/

/-- There is a buffer, and these bytes are in it. -/
def Held (r : Rig) (buffer : Option (Ref .buffer)) (bytes : Bytes) : Prop :=
  ∃ place d, buffer = some place ∧ r.device = some d ∧ d.memory[place.index]? = some bytes

theorem Held.idle {r r' : Rig} {buffer : Option (Ref .buffer)} {bytes : Bytes}
    (h : r.Held buffer bytes) (hidle : Idle r r') : r'.Held buffer bytes := by
  obtain ⟨place, d, hbuffer, hd, hbytes⟩ := h
  obtain ⟨d', hd', hgrown⟩ := hidle.device hd
  exact ⟨place, d', hbuffer, hd', getElem?_of_prefix hgrown.memory hbytes⟩

/-- Work with the buffers as they are leaves each as long as it was. Only what is run can change it. -/
theorem Held.serves {r r' : Rig} {buffer : Option (Ref .buffer)} {bytes : Bytes}
    (h : r.Held buffer bytes) (hserves : Serves r r') (hroomy : r.Roomy) :
    ∃ bytes', r'.Held buffer bytes' ∧ bytes'.length = bytes.length ∧
      (r.submittedSince r' = [] → bytes' = bytes) := by
  obtain ⟨place, d, hbuffer, hd, hbytes⟩ := h
  obtain ⟨d', hd', -⟩ := hserves.device hd
  obtain ⟨bytes', hbytes', hlength⟩ :=
    Memory.exists_of_lengths_eq (hserves.lengths hroomy hd hd') hbytes
  refine ⟨bytes', ⟨place, d', hbuffer, hd', hbytes'⟩, hlength, fun hnone => ?_⟩
  rw [hserves.unchanged hnone hd hd', hbytes, Option.some.injEq] at hbytes'
  exact hbytes'.symm

/-! ## Reading back -/

/-- There is one entry for every output, under its name and in order. -/
theorem Registered.readBack_eq_ok {r r' : Rig} (h : Registered r) {waiting : Waiting}
    {readings : NameTable Reading} (hout : outcome (readBack waiting) r = (.ok readings, r')) :
    r.submitted = true ∧ readings.names = r.outputs.names ∧
      List.Forall₂ r'.Reports r.outputs.values readings.entries := by
  obtain ⟨hsubmitted, entries, hreadings, hreports⟩ := Rig.readBack_eq_ok hout
  have hkeys : entries.map Prod.fst = r.outputs.names := by
    have hsame : List.Forall₂ Eq (r.outputs.values.map Output.name) (entries.map Prod.fst) := by
      rw [List.forall₂_map_left_iff, List.forall₂_map_right_iff]
      refine hreports.imp ?_
      rintro o entry ⟨buffer, d, -, -, hentry⟩
      rw [hentry]
    rw [List.forall₂_eq_eq_eq, h.outputs.keys] at hsame
    exact hsame.symm
  have hentries : readings = ⟨entries⟩ := by
    rw [hreadings]
    exact NameTable.ofEntries_of_nodup (hkeys ▸ h.outputs.nodup)
  rw [hentries]
  exact ⟨hsubmitted, hkeys, hreports⟩

end KernelShader.Rig
