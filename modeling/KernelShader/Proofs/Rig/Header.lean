/-
`Header.lean` -- the declarations of the inputs in the shader: `binding_declaration` and `header_lines`.

A declaration holds two numbers. The binding is counted, but the group is whatever number was given for it
at registration, and a number that is too long has no text; so the header can be written exactly if the
places of all inputs can (`Declarable`), and then it has one line for each of them in order. The line says
where the buffer is: the two numbers can be read off it again.
-/
import KernelShader.Proofs.Rig.Registry
import KernelShader.Proofs.ShaderType.Writer

set_option autoImplicit false

namespace KernelShader

/-! ## One declaration -/

/-- The line that declares a buffer. -/
def declarationText (group binding : Nat) (name element : String) : String :=
  s!"@group({group}) @binding({binding}) var<storage, read_write> {name} : array<{element}>;"

theorem bindingDeclaration_eq_ok_iff {group binding : Nat} {name element line : String} :
    bindingDeclaration group binding name element = .ok line ↔
      Numeral.Writable group ∧ Numeral.Writable binding ∧
        line = declarationText group binding name element := by
  unfold bindingDeclaration
  constructor
  · intro h
    obtain ⟨first, hfirst, h⟩ := Check.bind_eq_ok_iff.mp h
    obtain ⟨second, hsecond, h⟩ := Check.bind_eq_ok_iff.mp h
    obtain ⟨hgroup, rfl⟩ := Numeral.write_eq_ok_iff.mp hfirst
    obtain ⟨hbinding, rfl⟩ := Numeral.write_eq_ok_iff.mp hsecond
    exact ⟨hgroup, hbinding, (Except.ok.inj h).symm⟩
  · rintro ⟨hgroup, hbinding, rfl⟩
    refine Check.bind_eq_ok_iff.mpr ⟨_, Numeral.write_eq_ok_iff.mpr ⟨hgroup, rfl⟩, ?_⟩
    exact Check.bind_eq_ok_iff.mpr ⟨_, Numeral.write_eq_ok_iff.mpr ⟨hbinding, rfl⟩, rfl⟩

theorem failsWith_bindingDeclaration (group binding : Int) (name element : String) :
    Check.FailsWith Fault.IsUnprintable (bindingDeclaration group binding name element) :=
  (Numeral.failsWith_write group).bind fun _ _ =>
    (Numeral.failsWith_write binding).bind fun _ _ => .ok _

/-- The line declares a buffer at the place. -/
def Declares (line : String) (group binding : Nat) : Prop :=
  ∃ name element, line = declarationText group binding name element

/-- A number is read off a text up to the first character that is no digit. -/
theorem toString_append_inj {m n : Nat} {mark rest rest' : String} {c : Char} {tail : List Char}
    (hmark : mark.toList = c :: tail) (hc : c.isDigit = false)
    (h : toString m ++ (mark ++ rest) = toString n ++ (mark ++ rest')) : m = n ∧ rest = rest' := by
  have hdigits : ∀ (k : Nat) (text : String),
      (toString k ++ (mark ++ text)).toList.takeWhile Char.isDigit = Nat.toDigits 10 k := by
    intro k text
    have hall : ∀ a ∈ Nat.toDigits 10 k, a.isDigit = true :=
      fun a ha => Nat.isDigit_of_mem_toDigits (by decide) (by decide) ha
    have hrepr : (toString k).toList = Nat.toDigits 10 k := Nat.toList_repr
    rw [String.toList_append, String.toList_append, hmark, hrepr,
      List.takeWhile_append_of_pos hall, List.cons_append, List.takeWhile_cons, hc]
    exact List.append_nil _
  -- the digits in front are the same, and a number can be read back from its digits
  have hsame : Nat.toDigits 10 m = Nat.toDigits 10 n := by rw [← hdigits m rest, h, hdigits]
  have hmn : m = n := by
    rw [← Nat.ofDigitChars_ten_toDigits (n := m), hsame, Nat.ofDigitChars_ten_toDigits]
  rw [hmn, String.append_right_inj, String.append_right_inj] at h
  exact ⟨hmn, h⟩

/-- A declaration up to the second number, with what follows left open. -/
theorem exists_declarationText_eq (group binding : Nat) (name element : String) :
    ∃ rest, declarationText group binding name element
      = "@group(" ++ (toString group ++ (") @binding(" ++ (toString binding ++
          (") var<storage, read_write> " ++ rest)))) := by
  refine ⟨name ++ (" : array<" ++ (element ++ ">;")), ?_⟩
  unfold declarationText
  simp only [String.append_assoc]
  rfl

/-- A line declares a buffer at one place only. -/
theorem Declares.unique {line : String} {group binding group' binding' : Nat}
    (h : Declares line group binding) (h' : Declares line group' binding') :
    group = group' ∧ binding = binding' := by
  obtain ⟨name, element, hline⟩ := h
  obtain ⟨name', element', hline'⟩ := h'
  obtain ⟨rest, hrest⟩ := exists_declarationText_eq group binding name element
  obtain ⟨rest', hrest'⟩ := exists_declarationText_eq group' binding' name' element'
  rw [hline, hrest, hrest', String.append_right_inj] at hline'
  obtain ⟨hgroup, hmore⟩ := toString_append_inj rfl rfl hline'
  obtain ⟨hbinding, -⟩ := toString_append_inj rfl rfl hmore
  exact ⟨hgroup, hbinding⟩

/-- The line that declares an input. -/
def Input.declaration (i : Input) : String :=
  declarationText i.group i.binding i.name i.element.word

/-- The numbers of the place can be written. -/
def Input.Declarable (i : Input) : Prop := Numeral.Writable i.group ∧ Numeral.Writable i.binding

instance (i : Input) : Decidable i.Declarable := inferInstanceAs (Decidable (_ ∧ _))

namespace Rig

/-! ## The header -/

/-- The places of all inputs can be written. -/
def Declarable (r : Rig) : Prop := ∀ i ∈ r.inputs.values, i.Declarable

instance (r : Rig) : Decidable r.Declarable :=
  inferInstanceAs (Decidable (∀ i ∈ r.inputs.values, i.Declarable))

/-- **When there is a header, and which.** -/
theorem header_eq_ok_iff {r : Rig} {lines : List String} :
    r.header = .ok lines ↔ r.Declarable ∧ lines = r.inputs.values.map Input.declaration := by
  unfold header Declarable
  rw [Check.mapM_eq_ok_iff]
  generalize r.inputs.values = inputs
  induction inputs generalizing lines with
  | nil =>
    rw [List.forall₂_nil_left_iff, List.map_nil]
    exact ⟨fun h => ⟨fun _ hi => absurd hi List.not_mem_nil, h⟩, fun h => h.2⟩
  | cons i rest ih =>
    rw [List.forall₂_cons_left_iff, List.forall_mem_cons, List.map_cons]
    constructor
    · rintro ⟨line, more, hline, hmore, rfl⟩
      obtain ⟨hgroup, hbinding, rfl⟩ := bindingDeclaration_eq_ok_iff.mp hline
      obtain ⟨hrest, rfl⟩ := ih.mp hmore
      exact ⟨⟨⟨hgroup, hbinding⟩, hrest⟩, rfl⟩
    · rintro ⟨⟨hplace, hrest⟩, rfl⟩
      exact ⟨_, _, bindingDeclaration_eq_ok_iff.mpr ⟨hplace.1, hplace.2, rfl⟩, ih.mpr ⟨hrest, rfl⟩, rfl⟩

theorem Declarable.header {r : Rig} (h : r.Declarable) :
    r.header = .ok (r.inputs.values.map Input.declaration) := header_eq_ok_iff.mpr ⟨h, rfl⟩

theorem failsWith_header (r : Rig) : Check.FailsWith Fault.IsUnprintable r.header :=
  .mapM fun _ _ => failsWith_bindingDeclaration _ _ _ _

theorem header_of_not_declarable {r : Rig} (h : ¬ r.Declarable) :
    r.header = .error .numeralUnprintable := by
  cases hheader : r.header with
  | ok lines => exact absurd (header_eq_ok_iff.mp hheader).1 h
  | error fault => rw [failsWith_header r fault hheader]

/-- A declaration does not mention the buffer, so it does not matter what has been released. -/
theorem header_congr {r r' : Rig}
    (h : r'.inputs.values.map Input.released = r.inputs.values.map Input.released) :
    r'.header = r.header := by
  have hreleased : ∀ r : Rig, r.header = (r.inputs.values.map Input.released).mapM fun i =>
      bindingDeclaration i.group i.binding i.name i.element.word := by
    intro r
    rw [header, List.mapM_map]
    rfl
  rw [hreleased, h, ← hreleased]

theorem Continues.header_eq {r r' : Rig} (h : Continues r r') : r'.header = r.header :=
  header_congr (by rw [h.inputs])

/-- Where an input has been added, the places of those before it can be written if all can. -/
theorem Declarable.of_append {r r' : Rig} {more : List Input} (h : r'.Declarable)
    (hinputs : r'.inputs.values.map Input.released
      = r.inputs.values.map Input.released ++ more.map Input.released) : r.Declarable := by
  intro i hi
  have hmem : i.released ∈ r'.inputs.values.map Input.released := by
    rw [hinputs]
    exact List.mem_append_left _ (List.mem_map_of_mem hi)
  obtain ⟨j, hj, hsame⟩ := List.mem_map.mp hmem
  obtain ⟨-, -, -, hgroup, hbinding⟩ := Input.released_inj.mp hsame
  have hplace := h j hj
  unfold Input.Declarable at hplace ⊢
  rw [← hgroup, ← hbinding]
  exact hplace

/-- The declaration of a registered input comes last, with the next binding number. -/
theorem registerInput_declares {name : String} {data group : Value} {r r' : Rig} {i : Input}
    (h : outcome (registerInput name data group) r = (.ok i, r')) :
    r'.header = (do
        let lines ← r.header
        let line ← bindingDeclaration i.group r.nextBinding name i.element.word
        return lines ++ [line]) ∧
      r'.nextBinding = r.nextBinding + 1 ∧ group = .int i.group ∧
      ∃ array, ShaderType.ofHostData data = .ok (i.element, array) := by
  rcases registerInput_cases name data group r with
    ⟨fault, r₁, hout, -⟩ | ⟨element, array, place, buffer, r₁, hcheck, -, -, hout⟩
  · rw [hout] at h
    exact nomatch h
  · rw [hout, Prod.mk.injEq, Except.ok.injEq] at h
    obtain ⟨rfl, rfl⟩ := h
    obtain ⟨hdata, hname, -, -⟩ := checkInput_eq_ok_iff.mp hcheck
    refine ⟨?_, rfl, (checkInput_eq_ok hcheck).2.2.2, array, hdata⟩
    simp only [header]
    rw [NameTable.values_insert_of_not_mem _ (checkName_eq_ok_iff.mp hname).1, List.mapM_append]
    simp only [List.mapM_cons, List.mapM_nil, bind_assoc, pure_bind]

/-- An output is not declared in the shader, and takes no binding number. -/
theorem header_of_registerOutput {name link : String} {data : Value} {r r' : Rig} {o : Output}
    (h : outcome (registerOutput name link data) r = (.ok o, r')) :
    r'.header = r.header ∧ r'.nextBinding = r.nextBinding := by
  rcases registerOutput_cases name link data r with
    ⟨fault, r₁, hout, -⟩ | ⟨source, size, buffer, r₁, -, hgone, -, hout⟩
  · rw [hout] at h
    exact nomatch h
  · rw [hout, Prod.mk.injEq] at h
    rw [← h.2]
    refine ⟨?_, hgone.nextBinding⟩
    simp only [header, hgone.inputs]

end Rig

end KernelShader
