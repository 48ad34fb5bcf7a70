/-
`SetUp.lean` -- a session is set up in any order.

Registering inputs, adding helpers and adding the entry point each work on a part of the session of their
own, and this module is about making that precise. `SetUp` is what the three parts hold, without buffers,
logs and cached texts, and `SetUp.Step` says what an operation does to it. A session whose device answers
follows these steps exactly (`SettingUp.follows`): an operation is answered if there is a step, and then leads
to where the step leads.

Between the steps the argument is plain. Steps on different parts may be exchanged, the names of functions
being the only thing that two of them share, and so every interleaving comes down to the one in which all
inputs come first, then the helpers, then the entry point. All that is shown of a session in the end can be
read off its set-up: the entry point is shown last wherever it came.
-/
import KernelShader.Proofs.Rig.Agreement
import KernelShader.Proofs.Session.Assembly

set_option autoImplicit false

namespace KernelShader

open NameTable

/-! ## Registering on a device that answers -/

namespace Rig

theorem Willing.registerInput {r : Rig} (h : r.Willing) {name : String} {data group : Value}
    {checked : ScalarKind × HostArray × Nat} (hcheck : r.checkInput name data group = .ok checked) :
    ∃ i r', outcome (registerInput name data group) r = (.ok i, r') := by
  have hsucceeds : SucceedsFrom Continues r (Rig.registerInput name data group) := by
    refine .get_bind fun r₁ hcontinues => ?_
    have hcheck₁ : r₁.checkInput name data group = .ok checked := by
      rw [checkInput, checkName, hcontinues.inputs, hcontinues.outputs, ← hcheck, checkInput, checkName]
    refine .liftExcept_bind hcheck₁ ?_
    refine (h.onDevice (Device.makes_createBuffer _ _ _).toConversation).bind
      (continues_onDevice (Device.makes_createBuffer _ _ _).grows) fun buffer => ?_
    refine (h.onDevice (Device.speaks_writeBuffer _ _).toConversation).bind
      (continues_onDevice (Device.speaks_writeBuffer _ _).grows) fun _ => ?_
    exact .of_ok (f := fun r => (_, _)) fun _ => rfl
  exact hsucceeds r (refl_of Continues r)

/-- On a device that answers, just the inputs that pass their checks are registered. -/
theorem Willing.registerInput_cases {r : Rig} (h : r.Willing) (name : String) (data group : Value) :
    (∃ fault r', outcome (Rig.registerInput name data group) r = (.error fault, r') ∧
      ∀ checked, r.checkInput name data group ≠ .ok checked) ∨
    (∃ element array place i r', r.checkInput name data group = .ok (element, array, place) ∧
      outcome (Rig.registerInput name data group) r = (.ok i, r') ∧
      r'.inputs.values = r.inputs.values ++ [i] ∧
      i.released = ⟨name, element, array.byteCount, place, r.nextBinding, none⟩ ∧
      r'.outputs = r.outputs ∧ r'.Willing) := by
  rcases Rig.registerInput_cases name data group r with
    ⟨fault, r', hout, -⟩ | ⟨element, array, place, buffer, r', hcheck, hgone, -, hout⟩
  · refine Or.inl ⟨fault, r', hout, fun checked hcheck => ?_⟩
    obtain ⟨i, r'', hok⟩ := h.registerInput hcheck
    simp [hout] at hok
  · have hnew := (checkName_eq_ok_iff.mp (checkInput_eq_ok hcheck).1).1
    obtain ⟨d, hd, hwilling⟩ := h.continues hgone.toContinues
    exact Or.inr ⟨element, array, place, _, _, hcheck, hout,
      values_insert_of_not_mem _ hnew, rfl, hgone.outputs, d, hd, hwilling⟩

end Rig

namespace Session

/-! ## Steps of a set-up -/

/-- What is set up in a session: the inputs without their buffers, the helpers, the entry point. -/
structure SetUp where
  inputs : List Input
  helpers : List Transcript
  entry : Option Transcript

/-- All functions of a set-up. -/
def SetUp.functions (v : SetUp) : List Transcript := v.helpers ++ v.entry.toList

/-- What an operation does to a set-up, if it can be done. -/
inductive SetUp.Step (dialect : Dialect) : Operation → SetUp → SetUp → Prop
  | registerInput {v : SetUp} {name : String} {data group : Value} {element : ScalarKind}
      {array : HostArray} {place : Nat} (hdata : ShaderType.ofHostData data = .ok (element, array))
      (hempty : array.byteCount ≠ 0) (hgroup : Rig.checkGroup name group = .ok place)
      (hnew : name ∉ v.inputs.map Input.name) :
    Step dialect (.registerInput name data group) v
      { v with inputs := v.inputs ++ [⟨name, element, array.byteCount, place, v.inputs.length, none⟩] }
  | addFunction {v : SetUp} {source : String} {returns declared arguments : Value} {type : ShaderType}
      {t : Transcript} {body : String} (hreturns : ShaderType.ofValue returns = .ok type)
      (hread : read dialect source declared arguments (.helper (some type)) [1, 1, 1] = .ok (t, body))
      (hnew : t.name ∉ v.functions.map Transcript.name) :
    Step dialect (.addFunction source returns declared arguments) v
      { v with helpers := v.helpers ++ [t] }
  | addEntryPoint {v : SetUp} {source : String} {size declared : Value} {w : Workgroup.Size}
      {t : Transcript} {body : String} (hsize : Workgroup.size size = .ok w)
      (hread : read dialect source declared .none .entry (w.toList.map Int.ofNat) = .ok (t, body))
      (hfirst : v.entry = none) (hnew : t.name ∉ v.functions.map Transcript.name) :
    Step dialect (.addEntryPoint source size declared) v { v with entry := some t }

namespace Operation

def isRegisterInput : Operation → Bool
  | .registerInput .. => true
  | _ => false

def isAddFunction : Operation → Bool
  | .addFunction .. => true
  | _ => false

def isAddEntryPoint : Operation → Bool
  | .addEntryPoint .. => true
  | _ => false

end Operation

namespace SetUp

variable {dialect : Dialect}

/-- Registering an input neither looks at the functions nor touches them. -/
theorem Step.frame_functions {operation : Operation} {v v' : SetUp} (h : Step dialect operation v v')
    (hoperation : operation.isRegisterInput = true) :
    v'.helpers = v.helpers ∧ v'.entry = v.entry ∧
      ∀ helpers entry, Step dialect operation ⟨v.inputs, helpers, entry⟩ ⟨v'.inputs, helpers, entry⟩ := by
  cases h with
  | registerInput hdata hempty hgroup hnew =>
    exact ⟨rfl, rfl, fun helpers entry => .registerInput hdata hempty hgroup hnew⟩
  | addFunction | addEntryPoint => simp [Operation.isRegisterInput] at hoperation

/-- Adding a function neither looks at the inputs nor touches them. -/
theorem Step.frame_inputs {operation : Operation} {v v' : SetUp} (h : Step dialect operation v v')
    (hoperation : operation.isRegisterInput = false) :
    v'.inputs = v.inputs ∧
      ∀ inputs, Step dialect operation ⟨inputs, v.helpers, v.entry⟩ ⟨inputs, v'.helpers, v'.entry⟩ := by
  cases h with
  | registerInput => simp [Operation.isRegisterInput] at hoperation
  | addFunction hreturns hread hnew => exact ⟨rfl, fun inputs => .addFunction hreturns hread hnew⟩
  | addEntryPoint hsize hread hfirst hnew =>
    exact ⟨rfl, fun inputs => .addEntryPoint hsize hread hfirst hnew⟩

/-- The second operation may be done first instead. -/
def Exchanges (dialect : Dialect) (first second : Operation) : Prop :=
  ∀ v v₁ v', Step dialect first v v₁ → Step dialect second v₁ v' →
    ∃ v₂, Step dialect second v v₂ ∧ Step dialect first v₂ v'

theorem exchanges_registerInput {first second : Operation} (hfirst : first.isRegisterInput = true)
    (hsecond : second.isRegisterInput = false) : Exchanges dialect first second := by
  intro v v₁ v' h h'
  obtain ⟨hhelpers, hentry, hframe⟩ := h.frame_functions hfirst
  obtain ⟨hinputs, hframe'⟩ := h'.frame_inputs hsecond
  refine ⟨⟨v.inputs, v'.helpers, v'.entry⟩, ?_, ?_⟩
  · have hstep := hframe' v.inputs
    rwa [hhelpers, hentry] at hstep
  · have hstep := hframe v'.helpers v'.entry
    rwa [← hinputs] at hstep

theorem exchanges_function_registerInput {first second : Operation}
    (hfirst : first.isRegisterInput = false) (hsecond : second.isRegisterInput = true) :
    Exchanges dialect first second := by
  intro v v₁ v' h h'
  obtain ⟨hhelpers, hentry, hframe⟩ := h'.frame_functions hsecond
  obtain ⟨hinputs, hframe'⟩ := h.frame_inputs hfirst
  refine ⟨⟨v'.inputs, v.helpers, v.entry⟩, ?_, ?_⟩
  · have hstep := hframe v.helpers v.entry
    rwa [hinputs] at hstep
  · have hstep := hframe' v'.inputs
    rwa [← hhelpers, ← hentry] at hstep

/-- A helper and the entry point may change places: neither has the name of the other. -/
theorem exchanges_addFunction {first second : Operation} (hfirst : first.isAddFunction = true)
    (hsecond : second.isAddEntryPoint = true) : Exchanges dialect first second := by
  intro v v₁ v' h h'
  cases h with
  | addFunction hreturns hread hnew =>
    cases h' with
    | addEntryPoint hsize hread' hentry hnew' =>
      simp only [functions, List.map_append, List.mem_append, not_or] at hnew hnew'
      refine ⟨_, .addEntryPoint hsize hread' hentry ?_, .addFunction hreturns hread ?_⟩
      · simp only [functions, List.map_append, List.mem_append, not_or]
        exact ⟨hnew'.1.1, hnew'.2⟩
      · have hne := hnew'.1.2
        simp only [List.map_cons, List.map_nil, List.mem_singleton] at hne
        simp only [functions, List.map_append, List.mem_append, not_or, Option.toList_some,
          List.map_cons, List.map_nil, List.mem_singleton]
        exact ⟨hnew.1, Ne.symm hne⟩
    | registerInput | addFunction => simp [Operation.isAddEntryPoint] at hsecond
  | registerInput | addEntryPoint => simp [Operation.isAddFunction] at hfirst

theorem exchanges_addEntryPoint {first second : Operation} (hfirst : first.isAddEntryPoint = true)
    (hsecond : second.isAddFunction = true) : Exchanges dialect first second := by
  intro v v₁ v' h h'
  cases h with
  | addEntryPoint hsize hread hentry hnew =>
    cases h' with
    | addFunction hreturns hread' hnew' =>
      simp only [functions, List.map_append, List.mem_append, not_or, Option.toList_some,
        List.map_cons, List.map_nil, List.mem_singleton] at hnew hnew'
      have hnone : v.entry.toList.map Transcript.name = [] := by rw [hentry]; rfl
      refine ⟨_, .addFunction hreturns hread' ?_, .addEntryPoint hsize hread hentry ?_⟩
      · simp only [functions, List.map_append, List.mem_append, not_or, hnone]
        exact ⟨hnew'.1, List.not_mem_nil⟩
      · simp only [functions, List.map_append, List.mem_append, not_or, hnone,
          List.map_cons, List.map_nil, List.mem_singleton]
        exact ⟨⟨hnew.1, Ne.symm hnew'.2⟩, List.not_mem_nil⟩
    | registerInput | addEntryPoint => simp [Operation.isAddFunction] at hsecond
  | registerInput | addFunction => simp [Operation.isAddEntryPoint] at hfirst

/-! ## Interleavings -/

/-- Steps one after the other. -/
def Steps (dialect : Dialect) : List Operation → SetUp → SetUp → Prop
  | [], v, v' => v = v'
  | operation :: rest, v, v' => ∃ v₁, Step dialect operation v v₁ ∧ Steps dialect rest v₁ v'

theorem steps_cons_congr {l l' : List Operation} {v' : SetUp}
    (h : ∀ v, Steps dialect l v v' ↔ Steps dialect l' v v') (operation : Operation) (v : SetUp) :
    Steps dialect (operation :: l) v v' ↔ Steps dialect (operation :: l') v v' :=
  exists_congr fun v₁ => and_congr_right fun _ => h v₁

/-- The operations may be done in either order. -/
def Commutes (dialect : Dialect) (a b : Operation) : Prop :=
  Exchanges dialect a b ∧ Exchanges dialect b a

/-- An operation that commutes with others may as well be done after them. -/
theorem steps_move {a : Operation} {bs : List Operation} (h : ∀ b ∈ bs, Commutes dialect a b)
    (rest : List Operation) (v v' : SetUp) :
    Steps dialect (a :: bs ++ rest) v v' ↔ Steps dialect (bs ++ a :: rest) v v' := by
  induction bs generalizing v with
  | nil => exact Iff.rfl
  | cons b bs ih =>
    have hrest := ih fun b' hb' => h b' (List.mem_cons_of_mem b hb')
    obtain ⟨hab, hba⟩ := h b List.mem_cons_self
    constructor
    · rintro ⟨v₁, ha, v₂, hb, hmore⟩
      obtain ⟨u, hb', ha'⟩ := hab v v₁ v₂ ha hb
      exact ⟨u, hb', (hrest u).mp ⟨v₂, ha', hmore⟩⟩
    · rintro ⟨v₁, hb, hmore⟩
      obtain ⟨v₂, ha, hmore'⟩ := (hrest v₁).mpr hmore
      obtain ⟨u, ha', hb'⟩ := hba v v₁ v₂ hb ha
      exact ⟨u, ha', v₂, hb', hmore'⟩

end SetUp

/-- The last list has the elements of the other three, those of each in their order. -/
inductive Interleaves {α : Type} : List α → List α → List α → List α → Prop
  | nil : Interleaves [] [] [] []
  | first {a : α} {as bs cs l : List α} :
    Interleaves as bs cs l → Interleaves (a :: as) bs cs (a :: l)
  | second {b : α} {as bs cs l : List α} :
    Interleaves as bs cs l → Interleaves as (b :: bs) cs (b :: l)
  | third {c : α} {as bs cs l : List α} :
    Interleaves as bs cs l → Interleaves as bs (c :: cs) (c :: l)

theorem Interleaves.mem {α : Type} {as bs cs l : List α} (h : Interleaves as bs cs l) {x : α}
    (hx : x ∈ l) : x ∈ as ∨ x ∈ bs ∨ x ∈ cs := by
  induction h with
  | nil => exact Or.inl hx
  | first _ ih | second _ ih | third _ ih =>
    rcases List.mem_cons.mp hx with rfl | hmem
    · simp
    · have hrest := ih hmem
      simp only [List.mem_cons]
      tauto

/-- **All interleavings lead to the same.** -/
theorem Interleaves.steps_iff {dialect : Dialect} {as bs cs l : List Operation}
    (h : Interleaves as bs cs l)
    (hba : ∀ b ∈ bs, ∀ a ∈ as, SetUp.Commutes dialect b a)
    (hca : ∀ c ∈ cs, ∀ a ∈ as, SetUp.Commutes dialect c a)
    (hcb : ∀ c ∈ cs, ∀ b ∈ bs, SetUp.Commutes dialect c b) (v v' : SetUp) :
    SetUp.Steps dialect l v v' ↔ SetUp.Steps dialect (as ++ bs ++ cs) v v' := by
  induction h generalizing v with
  | nil => exact Iff.rfl
  | @first a as bs cs l _ ih =>
    have hrest := ih (fun b hb a' ha' => hba b hb a' (List.mem_cons_of_mem a ha'))
      (fun c hc a' ha' => hca c hc a' (List.mem_cons_of_mem a ha')) hcb
    exact SetUp.steps_cons_congr hrest a v
  | @second b as bs cs l _ ih =>
    have hrest := ih (fun b' hb' => hba b' (List.mem_cons_of_mem b hb')) hca
      fun c hc b' hb' => hcb c hc b' (List.mem_cons_of_mem b hb')
    have hmove := SetUp.steps_move (hba b List.mem_cons_self) (bs ++ cs) v v'
    rw [← List.append_assoc, List.cons_append, List.cons_append] at hmove
    rw [SetUp.steps_cons_congr hrest b v, hmove, List.append_assoc, List.cons_append]
  | @third c as bs cs l _ ih =>
    have hrest := ih hba (fun c' hc' => hca c' (List.mem_cons_of_mem c hc'))
      fun c' hc' => hcb c' (List.mem_cons_of_mem c hc')
    have hcommutes : ∀ o ∈ as ++ bs, SetUp.Commutes dialect c o := by
      intro o ho
      rcases List.mem_append.mp ho with ha | hb
      · exact hca c List.mem_cons_self o ha
      · exact hcb c List.mem_cons_self o hb
    have hmove := SetUp.steps_move hcommutes cs v v'
    rw [SetUp.steps_cons_congr hrest c v, ← hmove, List.cons_append]

/-! ## Sessions follow the steps -/

/-- What is set up in the session. -/
def setUp (s : Session) : SetUp :=
  ⟨s.rig.inputs.values.map Input.released, s.store.helpers, s.store.entry?⟩

/-- A session that is being set up, on a device that answers. -/
structure SettingUp (s : Session) : Prop where
  inStep : s.InStep
  edited : s.edited = false
  registered : s.rig.Registered
  outputs : s.rig.outputs = .empty
  willing : s.rig.Willing
  parts : s.store.values.Perm s.setUp.functions

theorem settingUp_fresh (config : Config) {device : Device} (h : device.Willing) :
    (fresh config (some device)).SettingUp where
  inStep := inStep_fresh config (some device)
  edited := rfl
  registered := Rig.registered_fresh _ _ _
  outputs := rfl
  willing := ⟨device, rfl, h⟩
  parts := .nil

variable {s : Session}

/-- The names of the set-up are those of the store. -/
theorem SettingUp.mem_names (h : s.SettingUp) (name : String) :
    name ∈ s.store.names ↔ name ∈ s.setUp.functions.map Transcript.name := by
  rw [h.inStep.indexed.names_eq]
  exact (h.parts.map Transcript.name).mem_iff

/-- A recorded function is one more part of the set-up. -/
theorem setUp_recorded {t : Transcript} {store : Store} (body : String)
    (hrecord : s.store.record t = .ok store) :
    (s.recorded store t.name body).setUp = if t.isEntry = true
      then { s.setUp with entry := some t } else { s.setUp with helpers := s.setUp.helpers ++ [t] } := by
  obtain ⟨-, hfirst, hentries⟩ := Store.record_eq_ok hrecord
  have hvalues : store.values = s.store.values ++ [t] := by
    rw [values, hentries, List.map_append]
    rfl
  have hhelpers : store.helpers = s.store.helpers ++ [t].filter (!·.isEntry) := by
    rw [Store.helpers, hvalues, List.filter_append, Store.helpers]
  have hentry : store.entry? = s.store.entry?.or ([t].find? (·.isEntry)) := by
    rw [Store.entry?, hvalues, List.find?_append, Store.entry?]
  simp only [setUp, recorded, logging, hhelpers, hentry]
  by_cases hkind : t.isEntry = true
  · simp [hkind, hfirst hkind]
  · simp [hkind]

theorem SettingUp.recorded (h : s.SettingUp) {source : String} {declared arguments : Value}
    {kind : FunctionKind} {workgroup : List Int} {t : Transcript} {body : String} {store : Store}
    (hread : read s.config.dialect source declared arguments kind workgroup = .ok (t, body))
    (hrecord : s.store.record t = .ok store) : (s.recorded store t.name body).SettingUp where
  inStep := h.inStep.reads ⟨source, declared, arguments, kind, workgroup, t, store, hread, hrecord, rfl⟩
  edited := h.edited
  registered := h.registered.persists (continues_log s.rig _).persists
  outputs := h.outputs
  willing := h.willing.continues (continues_log s.rig _)
  parts := by
    obtain ⟨-, hfirst, hentries⟩ := Store.record_eq_ok hrecord
    have hvalues : store.values = s.store.values ++ [t] := by
      rw [values, hentries, List.map_append]
      rfl
    rw [setUp_recorded body hrecord]
    change store.values.Perm _
    rw [hvalues]
    refine (h.parts.append_right [t]).trans ?_
    by_cases hkind : t.isEntry = true
    · have hnone : s.setUp.entry = none := hfirst hkind
      simp [SetUp.functions, hkind, hnone]
    · simp only [if_neg hkind, SetUp.functions, List.append_assoc]
      exact (List.perm_append_comm).append_left _

/-- What adding a function comes down to while a session is set up. -/
theorem SettingUp.add_cases (h : s.SettingUp) (source : String) (declared arguments : Value)
    (kind : FunctionKind) (workgroup : List Int) :
    (∃ t body store, read s.config.dialect source declared arguments kind workgroup = .ok (t, body) ∧
      t.name ∉ s.setUp.functions.map Transcript.name ∧ s.store.record t = .ok store ∧
      outcome (add source declared arguments kind workgroup) s
        = (.ok body, s.recorded store t.name body)) ∨
    ((∀ t body, read s.config.dialect source declared arguments kind workgroup = .ok (t, body) →
        (t.isEntry = true → s.setUp.entry = none) → t.name ∈ s.setUp.functions.map Transcript.name) ∧
      ∃ fault, outcome (add source declared arguments kind workgroup) s = (.error fault, s)) := by
  rcases Session.add_cases source declared arguments kind workgroup s with
    ⟨fault, hreason, hout⟩ | ⟨t, body, store, hread, hrecord, hout⟩
  · refine Or.inr ⟨fun t body hread hentry => ?_, fault, hout⟩
    rcases hreason with hfails | ⟨t', body', hread', hfails⟩
    · rw [hfails] at hread
      simp at hread
    · obtain ⟨rfl, rfl⟩ := Prod.mk.inj (Except.ok.inj (hread.symm.trans hread'))
      by_contra hnew
      obtain ⟨after, hrecord⟩ := Store.exists_record (fun hmem => hnew ((h.mem_names _).mp hmem)) hentry
      rw [hrecord] at hfails
      simp at hfails
  · have hnew := (Store.record_eq_ok hrecord).1
    exact Or.inl ⟨t, body, store, hread, fun hmem => hnew ((h.mem_names _).mpr hmem), hrecord, hout⟩

/-- The session goes along with the steps at an operation: it is answered and a step leads to where it
leads, or it is refused and there is no step. -/
def Follows (s : Session) (operation : Operation) : Prop :=
  ((s.answer operation).1.isOk = true ∧
    SetUp.Step s.config.dialect operation s.setUp (s.answer operation).2.setUp ∧
    (s.answer operation).2.SettingUp ∧ (s.answer operation).2.config = s.config) ∨
  ((s.answer operation).1.isOk = false ∧ ∀ v', ¬ SetUp.Step s.config.dialect operation s.setUp v')

theorem SettingUp.follows_addFunction (h : s.SettingUp) (source : String)
    (returns declared arguments : Value) : s.Follows (.addFunction source returns declared arguments) := by
  rw [Follows, answer_eq, perform, Outcome.map_eq, addFunction, Outcome.liftExcept_bind]
  cases hreturns : ShaderType.ofValue returns with
  | error fault =>
    refine Or.inr ⟨rfl, fun v' hstep => ?_⟩
    cases hstep with
    | addFunction hreturns' => simp [hreturns] at hreturns'
  | ok type =>
    simp only
    rcases h.add_cases source declared arguments (.helper (some type)) [1, 1, 1] with
      ⟨t, body, store, hread, hnew, hrecord, hout⟩ | ⟨hrefused, fault, hout⟩
    · rw [hout]
      refine Or.inl ⟨rfl, ?_, h.recorded hread hrecord, rfl⟩
      have hkind := Transcript.isEntry_helper (acceptable_of_read hread).2
      simp only [setUp_recorded body hrecord, hkind, Bool.false_eq_true, if_false]
      exact .addFunction hreturns hread hnew
    · rw [hout]
      refine Or.inr ⟨rfl, fun v' hstep => ?_⟩
      cases hstep with
      | addFunction hreturns' hread hnew =>
        obtain rfl := Except.ok.inj (hreturns.symm.trans hreturns')
        have hkind := Transcript.isEntry_helper (acceptable_of_read hread).2
        exact hnew (hrefused _ _ hread (by simp [hkind]))

theorem SettingUp.follows_addEntryPoint (h : s.SettingUp) (source : String) (size declared : Value) :
    s.Follows (.addEntryPoint source size declared) := by
  rw [Follows, answer_eq, perform, Outcome.map_eq, addEntryPoint, Outcome.get_bind]
  cases hentry : s.store.entry? with
  | some entry =>
    refine Or.inr ⟨rfl, fun v' hstep => ?_⟩
    cases hstep with
    | addEntryPoint hsize hread hfirst => simp [setUp, hentry] at hfirst
  | none =>
    simp only [Outcome.liftExcept_bind]
    cases hsize : Workgroup.size size with
    | error fault =>
      refine Or.inr ⟨rfl, fun v' hstep => ?_⟩
      cases hstep with
      | addEntryPoint hsize' => simp [hsize] at hsize'
    | ok w =>
      simp only
      rcases h.add_cases source declared .none .entry (w.toList.map Int.ofNat) with
        ⟨t, body, store, hread, hnew, hrecord, hout⟩ | ⟨hrefused, fault, hout⟩
      · rw [hout]
        refine Or.inl ⟨rfl, ?_, h.recorded hread hrecord, rfl⟩
        have hkind : t.isEntry = true := by simp [Transcript.isEntry, (acceptable_of_read hread).2]
        simp only [setUp_recorded body hrecord, if_pos hkind]
        exact .addEntryPoint hsize hread hentry hnew
      · rw [hout]
        refine Or.inr ⟨rfl, fun v' hstep => ?_⟩
        cases hstep with
        | addEntryPoint hsize' hread hfirst hnew =>
          obtain rfl := Except.ok.inj (hsize.symm.trans hsize')
          exact hnew (hrefused _ _ hread fun _ => hentry)

/-- The inputs of the set-up are numbered and named as those of the rig. -/
theorem SettingUp.length_inputs (h : s.SettingUp) : s.setUp.inputs.length = s.rig.nextBinding := by
  have hbindings := congrArg List.length h.registered.bindings
  simpa [setUp] using hbindings

theorem SettingUp.map_name_inputs (h : s.SettingUp) :
    s.setUp.inputs.map Input.name = s.rig.inputs.names := by
  rw [← h.registered.inputs.keys, setUp, List.map_map]
  rfl

theorem SettingUp.follows_registerInput (h : s.SettingUp) (name : String) (data group : Value) :
    s.Follows (.registerInput name data group) := by
  have hkept := h.inStep.answer (.registerInput name data group)
  rcases h.willing.registerInput_cases name data group with
    ⟨fault, r', hout, hrefused⟩ | ⟨element, array, place, i, r', hcheck, hout, hvalues, hi, houtputs, hwilling⟩
  · have hanswer : s.answer (.registerInput name data group) = (.error fault, { s with rig := r' }) := by
      rw [answer_eq, perform, Outcome.map_eq, registerInput, outcome_forgetting_of_error hout]
      rfl
    refine Or.inr ⟨by rw [hanswer]; rfl, fun v' hstep => ?_⟩
    cases hstep with
    | registerInput hdata hempty hgroup hnew =>
      have hname : s.rig.checkName name = .ok () := by
        refine Rig.checkName_eq_ok_iff.mpr ⟨h.map_name_inputs ▸ hnew, ?_⟩
        rw [h.outputs]
        exact List.not_mem_nil
      exact hrefused _ (Rig.checkInput_eq_ok_iff.mpr ⟨hdata, hname, hempty, hgroup⟩)
  · obtain ⟨hdata, hname, hempty, hgroup⟩ := Rig.checkInput_eq_ok_iff.mp hcheck
    have hnew := (Rig.checkName_eq_ok_iff.mp hname).1
    have hregistered := h.registered.registerInput name data group
    have hanswer : s.answer (.registerInput name data group)
        = (.ok (.input i), { s with rig := r', artifact := none, bindGroups := none }) := by
      rw [answer_eq, perform, Outcome.map_eq, registerInput, outcome_forgetting_of_ok hout]
      rfl
    rw [hout] at hregistered
    rw [hanswer] at hkept
    rw [Follows, hanswer]
    refine Or.inl ⟨rfl, ?_, ⟨hkept, h.edited, hregistered, houtputs.trans h.outputs, hwilling, h.parts⟩,
      rfl⟩
    rw [← h.map_name_inputs] at hnew
    have hstep : SetUp.Step s.config.dialect (.registerInput name data group) s.setUp _ :=
      .registerInput hdata hempty hgroup hnew
    rw [h.length_inputs, ← hi] at hstep
    simp only [setUp, hvalues, List.map_append, List.map_cons, List.map_nil]
    exact hstep

namespace Operation

/-- The operation is one of those that set up a session. -/
def isSetUp (operation : Operation) : Bool :=
  operation.isRegisterInput || operation.isAddFunction || operation.isAddEntryPoint

end Operation

/-- **One operation.** -/
theorem SettingUp.follows (h : s.SettingUp) {operation : Operation}
    (hoperation : operation.isSetUp = true) : s.Follows operation := by
  cases operation with
  | registerInput name data group => exact h.follows_registerInput name data group
  | addFunction source returns declared arguments =>
    exact h.follows_addFunction source returns declared arguments
  | addEntryPoint source size declared => exact h.follows_addEntryPoint source size declared
  | _ =>
    simp [Operation.isSetUp, Operation.isRegisterInput, Operation.isAddFunction,
      Operation.isAddEntryPoint] at hoperation

/-- An operation leads to one set-up only. -/
theorem SetUp.Step.unique {dialect : Dialect} {operation : Operation} {v v₁ v₂ : SetUp}
    (h₁ : SetUp.Step dialect operation v v₁) (h₂ : SetUp.Step dialect operation v v₂) : v₁ = v₂ := by
  cases h₁ with
  | registerInput hdata _ hgroup _ =>
    cases h₂ with
    | registerInput hdata' _ hgroup' _ =>
      obtain ⟨rfl, rfl⟩ := Prod.mk.inj (Except.ok.inj (hdata.symm.trans hdata'))
      obtain rfl := Except.ok.inj (hgroup.symm.trans hgroup')
      rfl
  | addFunction hreturns hread _ =>
    cases h₂ with
    | addFunction hreturns' hread' _ =>
      obtain rfl := Except.ok.inj (hreturns.symm.trans hreturns')
      obtain ⟨rfl, -⟩ := Prod.mk.inj (Except.ok.inj (hread.symm.trans hread'))
      rfl
  | addEntryPoint hsize hread _ _ =>
    cases h₂ with
    | addEntryPoint hsize' hread' _ _ =>
      obtain rfl := Except.ok.inj (hsize.symm.trans hsize')
      obtain ⟨rfl, -⟩ := Prod.mk.inj (Except.ok.inj (hread.symm.trans hread'))
      rfl

/-- All operations of the run are answered. -/
def succeeds : Session → List Operation → Bool
  | _, [] => true
  | s, operation :: rest => (s.answer operation).1.isOk && succeeds (s.answer operation).2 rest

/-- **A run that succeeds** is a run of steps. -/
theorem SettingUp.steps_of_succeeds (h : s.SettingUp) {operations : List Operation}
    (hoperations : ∀ operation ∈ operations, operation.isSetUp = true)
    (hsucceeds : s.succeeds operations = true) :
    SetUp.Steps s.config.dialect operations s.setUp (s.after operations).setUp ∧
      (s.after operations).SettingUp ∧ (s.after operations).config = s.config := by
  induction operations generalizing s with
  | nil => exact ⟨rfl, h, rfl⟩
  | cons operation rest ih =>
    rw [succeeds, Bool.and_eq_true] at hsucceeds
    rcases h.follows (hoperations operation List.mem_cons_self) with
      ⟨-, hstep, hafter, hconfig⟩ | ⟨hfails, -⟩
    · obtain ⟨hsteps, hend, hconfig'⟩ :=
        ih hafter (fun o ho => hoperations o (List.mem_cons_of_mem _ ho)) hsucceeds.2
      rw [hconfig] at hsteps
      exact ⟨⟨_, hstep, hsteps⟩, hend, hconfig'.trans hconfig⟩
    · rw [hfails] at hsucceeds
      exact absurd hsucceeds.1 Bool.false_ne_true

/-- **A run of steps** is a run that succeeds, and ends where the steps end. -/
theorem SettingUp.succeeds_of_steps (h : s.SettingUp) {operations : List Operation} {v : SetUp}
    (hoperations : ∀ operation ∈ operations, operation.isSetUp = true)
    (hsteps : SetUp.Steps s.config.dialect operations s.setUp v) :
    s.succeeds operations = true ∧ (s.after operations).setUp = v := by
  induction operations generalizing s with
  | nil => exact ⟨rfl, hsteps⟩
  | cons operation rest ih =>
    obtain ⟨v₁, hstep, hmore⟩ := hsteps
    rcases h.follows (hoperations operation List.mem_cons_self) with
      ⟨hok, hstep', hafter, hconfig⟩ | ⟨-, hnone⟩
    · obtain rfl := hstep.unique hstep'
      rw [← hconfig] at hmore
      obtain ⟨hrest, hend⟩ := ih hafter (fun o ho => hoperations o (List.mem_cons_of_mem _ ho)) hmore
      exact ⟨by rw [succeeds, hok, hrest, Bool.and_self], hend⟩
    · exact absurd hstep (hnone v₁)

/-! ## What is shown of a set-up -/

/-- The shader of a set-up: declarations, helpers in order, the entry point last. -/
def SetUp.source (dialect : Dialect) (v : SetUp) : Except Fault ShaderSource := do
  let header ← v.inputs.mapM fun i => bindingDeclaration i.group i.binding i.name i.element.word
  let functions ← v.helpers.mapM (·.replay dialect)
  let entryPoint ← v.entry.mapM (·.replay dialect)
  return { header, functions, entryPoint }

/-- The text that is kept for a function is a replay of it. -/
theorem SettingUp.bodyOf_eq (h : s.SettingUp) {t : Transcript} (ht : t ∈ s.store.values) :
    Store.bodyOf s.bodies t.name = t.replay s.config.dialect := by
  obtain ⟨text, hget, htext⟩ :=
    Store.get?_of_replay h.inStep.indexed (h.inStep.current h.edited) ht
  rw [Store.bodyOf, hget, htext]

/-- **The shader is that of the set-up.** -/
theorem SettingUp.source_eq (h : s.SettingUp) : s.source = s.setUp.source s.config.dialect := by
  have hheader : s.rig.header = s.setUp.inputs.mapM fun i =>
      bindingDeclaration i.group i.binding i.name i.element.word := by
    rw [Rig.header, setUp, List.mapM_map]
    rfl
  have hhelpers : s.store.helpers.mapM (fun t => Store.bodyOf s.bodies t.name)
      = s.store.helpers.mapM (·.replay s.config.dialect) :=
    Check.mapM_congr fun t ht => h.bodyOf_eq (List.mem_of_mem_filter ht)
  have hentry : s.store.entry?.mapM (fun t => Store.bodyOf s.bodies t.name)
      = s.store.entry?.mapM (·.replay s.config.dialect) := by
    cases hfind : s.store.entry? with
    | none => rfl
    | some t =>
      have hbody := h.bodyOf_eq (List.mem_of_find?_eq_some hfind)
      simp only [Option.mapM_some, hbody]
  have hsource : s.source = (do
      let header ← s.rig.header
      let functions ← s.store.helpers.mapM fun t => Store.bodyOf s.bodies t.name
      let entryPoint ← s.store.entry?.mapM fun t => Store.bodyOf s.bodies t.name
      return { header, functions, entryPoint }) := rfl
  rw [hsource, hhelpers, hentry, hheader]
  rfl

/-- A function is found in the set-up under its name. -/
theorem SettingUp.get?_eq (h : s.SettingUp) (name : String) :
    s.store.get? name = s.setUp.functions.find? (·.name == name) := by
  have hindexed := h.inStep.indexed
  have hkeyed : s.store.Keyed Transcript.name := ⟨hindexed.nodup, hindexed.names_eq.symm⟩
  cases hfind : s.setUp.functions.find? (·.name == name) with
  | some t =>
    have hmem : t ∈ s.store.values := h.parts.mem_iff.mpr (List.mem_of_find?_eq_some hfind)
    have hname : t.name = name := by simpa using List.find?_some hfind
    rw [← hname]
    exact hkeyed.get?_of_mem hmem
  | none =>
    by_contra hsome
    obtain ⟨t, ht⟩ := Option.ne_none_iff_exists'.mp hsome
    have hmem : t ∈ s.setUp.functions := h.parts.mem_iff.mp (mem_values_of_get? ht)
    have hname : name = t.name := hindexed.named name t (mem_entries_of_get? ht)
    have hother := List.find?_eq_none.mp hfind t hmem
    simp [hname] at hother

/-- Sessions of the same settings with the same set-up show the same shader, the same places and the
same types. -/
theorem SettingUp.shown_eq {s s' : Session} (h : s.SettingUp) (h' : s'.SettingUp)
    (hconfig : s'.config = s.config) (hsame : s'.setUp = s.setUp) :
    s'.shaderText = s.shaderText ∧ s'.rig.signature = s.rig.signature ∧
      ∀ function, s'.variableTypes function = s.variableTypes function := by
  refine ⟨?_, ?_, fun function => ?_⟩
  · rw [shaderText, h'.source_eq, hconfig, hsame, ← h.source_eq, shaderText]
  · have hsignature : ∀ u : Session, u.rig.signature
        = u.setUp.inputs.map fun i => ⟨i.name, i.group, i.binding⟩ := by
      intro u
      rw [Rig.signature, setUp, List.map_map]
      rfl
    rw [hsignature, hsame, ← hsignature]
  · simp only [variableTypes, Store.get, h'.get?_eq, h.get?_eq, hsame]

theorem answer_listVariables (s : Session) (function : String) :
    (s.answer (.listVariables function)).1 = (s.variableTypes function).map Answer.types := by
  rw [answer_eq, perform, Outcome.get_bind, Outcome.liftExcept_bind]
  cases s.variableTypes function with
  | error fault => rfl
  | ok table => rfl

/-- **A session is set up in any order.** If registrations of inputs, additions of helpers and at most one
addition of an entry point all succeed on a fresh session in one order, then they all succeed on every
other fresh session of the same settings in every order that keeps the inputs among themselves and the
helpers among themselves as they were, and what comes of it is the same: the shader, which is there as long
as the places of the inputs can be written, these places, and the types of every function. -/
theorem setUp_independent_of_interleaving (config : Config) {device device' : Device}
    (hdevice : device.Willing) (hdevice' : device'.Willing)
    {inputs functions : List Operation} {entry : Option Operation}
    (hinputs : ∀ operation ∈ inputs, operation.isRegisterInput = true)
    (hfunctions : ∀ operation ∈ functions, operation.isAddFunction = true)
    (hentry : ∀ operation ∈ entry, operation.isAddEntryPoint = true)
    {operations operations' : List Operation}
    (h : Interleaves inputs functions entry.toList operations)
    (h' : Interleaves inputs functions entry.toList operations')
    (hsucceeds : (fresh config (some device)).succeeds operations = true) :
    (fresh config (some device')).succeeds operations' = true ∧
    let s := (fresh config (some device)).after operations
    let s' := (fresh config (some device')).after operations'
    s'.shaderText = s.shaderText ∧ (s.rig.Declarable → ∃ text, s.shaderText = .ok text) ∧
    s'.rig.signature = s.rig.signature ∧
    ∀ function, (s'.answer (.listVariables function)).1 = (s.answer (.listVariables function)).1 := by
  have hordinary : ∀ {operation : Operation}, operation.isAddFunction = true ∨
      operation.isAddEntryPoint = true → operation.isRegisterInput = false := by
    intro operation hkind
    cases operation <;> simp_all [Operation.isAddFunction, Operation.isAddEntryPoint,
      Operation.isRegisterInput]
  have hmember : ∀ {l : List Operation}, Interleaves inputs functions entry.toList l →
      ∀ operation ∈ l, operation.isSetUp = true := by
    intro l hl operation hmem
    rcases hl.mem hmem with ha | hb | hc
    · simp [Operation.isSetUp, hinputs operation ha]
    · simp [Operation.isSetUp, hfunctions operation hb]
    · simp [Operation.isSetUp, hentry operation (Option.mem_toList.mp hc)]
  -- both orders come down to the one in which inputs, helpers and entry point follow each other
  have hsteps : ∀ {l : List Operation}, Interleaves inputs functions entry.toList l → ∀ v v',
      SetUp.Steps config.dialect l v v' ↔
        SetUp.Steps config.dialect (inputs ++ functions ++ entry.toList) v v' := by
    intro l hl
    refine hl.steps_iff ?_ ?_ ?_
    · intro b hb a ha
      have hb' := hordinary (Or.inl (hfunctions b hb))
      exact ⟨SetUp.exchanges_function_registerInput hb' (hinputs a ha),
        SetUp.exchanges_registerInput (hinputs a ha) hb'⟩
    · intro c hc a ha
      have hc' := hordinary (Or.inr (hentry c (Option.mem_toList.mp hc)))
      exact ⟨SetUp.exchanges_function_registerInput hc' (hinputs a ha),
        SetUp.exchanges_registerInput (hinputs a ha) hc'⟩
    · intro c hc b hb
      have hc' := hentry c (Option.mem_toList.mp hc)
      exact ⟨SetUp.exchanges_addEntryPoint hc' (hfunctions b hb),
        SetUp.exchanges_addFunction (hfunctions b hb) hc'⟩
  have hstart := settingUp_fresh config hdevice
  have hstart' := settingUp_fresh config hdevice'
  obtain ⟨hrun, hend, hconfig⟩ := hstart.steps_of_succeeds (hmember h) hsucceeds
  have hrun' := (hsteps h' _ _).mpr ((hsteps h _ _).mp hrun)
  obtain ⟨hsucceeds', hsame⟩ := hstart'.succeeds_of_steps (hmember h') hrun'
  obtain ⟨-, hend', hconfig'⟩ := hstart'.steps_of_succeeds (hmember h') hsucceeds'
  obtain ⟨htext, hsignature, htypes⟩ := hend.shown_eq hend' (hconfig'.trans hconfig.symm) hsame
  refine ⟨hsucceeds', htext, hend.inStep.exists_shaderText, hsignature, fun function => ?_⟩
  rw [answer_listVariables, answer_listVariables, htypes]

/-- An input in group one, and another in group zero. -/
def twoInputs : List Operation :=
  [.registerInput "x" (.words [7]) (.int 1), .registerInput "y" (.words [7]) (.int 0)]

def twoHelpers : List Operation :=
  [.addFunction "function f(a) \x7b\n  let b = a;\n\x7d" (.text "f32") .none .none,
    .addFunction "function g(a) \x7b\n  return a;\n\x7d" (.text "f32") .none .none]

def plainEntry : Operation := .addEntryPoint "function main() \x7b\n  let c = 1;\n\x7d" (.int 1) .none

/-- A helper first, the entry point in the middle and the other helper at the end. -/
def scatteredRun : List Operation :=
  [twoHelpers[0], twoInputs[0], plainEntry, twoInputs[1], twoHelpers[1]]

/-- The functions are recorded in different orders here, and yet shown in one. -/
theorem scatteredRun_setsUp :
    let orderlyRun := twoInputs ++ twoHelpers ++ [plainEntry]
    let s := (fresh {} (some {})).after scatteredRun
    let s' := (fresh {} (some {})).after orderlyRun
    (fresh {} (some {})).succeeds orderlyRun = true ∧
    (∃ text, s.shaderText = .ok text ∧ s'.shaderText = .ok text) ∧
    s.store.names = ["f", "main", "g"] ∧ s'.store.names = ["f", "g", "main"] := by
  intro orderlyRun s s'
  have hwilling : ({} : Device).Willing := fun _ _ => rfl
  have hscattered : Interleaves twoInputs twoHelpers (some plainEntry).toList scatteredRun :=
    .second (.first (.third (.first (.second .nil))))
  have horderly : Interleaves twoInputs twoHelpers (some plainEntry).toList orderlyRun :=
    .first (.first (.second (.second (.third .nil))))
  have hsucceeds : (fresh {} (some {})).succeeds scatteredRun = true := by decide +kernel
  obtain ⟨hsucceeds', htext, hexists, -, -⟩ := setUp_independent_of_interleaving {} hwilling hwilling
    (by simp [twoInputs, Operation.isRegisterInput]) (by simp [twoHelpers, Operation.isAddFunction])
    (by simp [plainEntry, Operation.isAddEntryPoint]) hscattered horderly hsucceeds
  obtain ⟨text, hshown⟩ := hexists (by decide +kernel)
  exact ⟨hsucceeds', ⟨text, hshown, htext.trans hshown⟩, by decide +kernel, by decide +kernel⟩

end Session

end KernelShader
