/-
`Arguments.lean` -- what can be wrong with the arguments of a function, and what is right about them once
they have been checked.

The checks of a source, of types for its parameters and of a workgroup size fail for reasons that lie in
what they were given (`Fault.AboutArguments`), and for no others; where every value that has to be walked
through can be, none of them is about a shape (`Fault.About`). When they pass, every parameter that the
source declares has a type (`Parameter.contains_of_resolve`), and the size is one that passes again when
it is read back from a record (`Workgroup.size_toList`).
-/
import KernelShader.Declaration
import KernelShader.Parameter
import KernelShader.Workgroup
import KernelShader.Proofs.NameTable
import KernelShader.Proofs.Outcome

set_option autoImplicit false

namespace KernelShader

open NameTable

/-! ## Faults about the arguments -/

/-- The fault is about what was given: a source, a type, a value, or the shape of a value. -/
def Fault.AboutArguments (fault : Fault) : Prop :=
  fault.kind ∈ [FaultKind.malformedSource, .unsupportedType, .badValue, .badShape]

/-- The fault is about a source, a type or a value; if a value is misshapen, it may be about its shape. -/
def Fault.About (misshapen : Prop) (fault : Fault) : Prop :=
  fault.kind ∈ [FaultKind.malformedSource, .unsupportedType, .badValue] ∨
    misshapen ∧ fault.kind = .badShape

namespace Fault.About

variable {misshapen : Prop} {fault : Fault}

theorem source (h : fault.kind = .malformedSource) : fault.About misshapen := by
  simp [Fault.About, h]

theorem type (h : fault.kind = .unsupportedType) : fault.About misshapen := by
  simp [Fault.About, h]

theorem value (h : fault.kind = .badValue) : fault.About misshapen := by
  simp [Fault.About, h]

theorem shape (hshape : misshapen) (h : fault.kind = .badShape) : fault.About misshapen :=
  Or.inr ⟨hshape, h⟩

theorem aboutArguments (h : fault.About misshapen) : fault.AboutArguments := by
  rcases h with hkind | ⟨-, hkind⟩
  · exact List.mem_append_left [.badShape] hkind
  · simp [Fault.AboutArguments, hkind]

end Fault.About

variable {misshapen : Prop}

/-- The fault is about the text of a type: it names none, or its length has too many digits. -/
def Fault.AboutType (fault : Fault) : Prop :=
  fault.kind = .unsupportedType ∨ fault.kind = .badValue

theorem Fault.AboutType.about {fault : Fault} (h : fault.AboutType) : fault.About misshapen := by
  rcases h with hkind | hkind
  · exact .type hkind
  · exact .value hkind

namespace ShaderType

theorem typeFaults_ofLength (element : ScalarKind) (length : Int) :
    Check.FailsWith Fault.AboutType (ofLength element length) := by
  unfold ofLength
  by_cases h : 0 < length.toNat
  · rw [dif_pos h]
    exact .ok _
  · rw [dif_neg h]
    exact .error (.inl rfl)

theorem typeFaults_read (text : String) : Check.FailsWith Fault.AboutType (read text) := by
  unfold read
  simp only
  split
  · exact .ok _
  · split
    · split
      · exact .error (.inr rfl)
      · exact typeFaults_ofLength _ _
    · exact .error (.inl rfl)

theorem typeFaults_ofValue (v : Value) : Check.FailsWith Fault.AboutType (ofValue v) := by
  unfold ofValue
  split
  · exact .ok _
  · exact typeFaults_read _
  · exact .error (.inl rfl)

theorem faults_ofValue (v : Value) : Check.FailsWith (Fault.About misshapen) (ofValue v) :=
  fun fault h => (typeFaults_ofValue v fault h).about

end ShaderType

namespace Declaration

theorem faults_parse (line : Line) : Check.FailsWith (Fault.About misshapen) (parse line) := by
  unfold parse
  split
  · split_ifs
    · exact .error (.source rfl)
    · exact .error (.source rfl)
    · exact .ok _
    · exact .error (.source rfl)
  · exact .error (.source rfl)

theorem faults_checkBalance (number : Nat) (lines : List Line) :
    Check.FailsWith (Fault.About misshapen) (checkBalance number lines) := by
  induction lines generalizing number with
  | nil => exact .ok ()
  | cons line rest ih =>
    unfold checkBalance
    split
    · exact .error (.source rfl)
    · exact ih (number + 1)

theorem faults_check (lines : List Line) :
    Check.FailsWith (Fault.About misshapen) (check lines) := by
  cases lines with
  | nil => exact .error (.source rfl)
  | cons first rest =>
    refine (faults_parse first).bind fun declaration _ => ?_
    split
    · split_ifs
      · exact .error (.source rfl)
      · exact faults_checkBalance 1 rest
    · exact faults_checkBalance 1 rest

/-- A source that passes the check has a declaration line. -/
theorem exists_cons_of_check {lines : List Line} {u : Unit} (h : check lines = .ok u) :
    ∃ first rest, lines = first :: rest := by
  cases lines with
  | nil => exact nomatch h
  | cons first rest => exact ⟨first, rest, rfl⟩

end Declaration

/-! ## Types for the parameters -/

namespace Parameter

theorem faults_types (params : List String) {declared arguments : Value}
    (hdeclared : declared ≠ .none → declared.items? = none → misshapen)
    (harguments : arguments ≠ .none → arguments.items? = none → misshapen) :
    Check.FailsWith (Fault.About misshapen) (types params declared arguments) := by
  have hitems : declared ≠ .none → Check.FailsWith (Fault.About misshapen) (fromSequence declared) := by
    intro hsome
    unfold fromSequence
    split
    · exact .mapM fun item _ => ShaderType.faults_ofValue item
    · rename_i hnone
      exact .error (.shape (hdeclared hsome hnone) rfl)
  have hnames : ∀ entries, Check.FailsWith (Fault.About misshapen) (fromNames params entries) := by
    intro entries
    unfold fromNames
    simp only
    split_ifs
    · exact .error (.source rfl)
    · exact .error (.source rfl)
    · exact .error (.source rfl)
    · exact .mapM fun p _ => ShaderType.faults_ofValue _
  have hguess : arguments ≠ .none → Check.FailsWith (Fault.About misshapen) (guessAll arguments) := by
    intro hsome
    unfold guessAll
    split
    · exact .ok _
    · rename_i hnone
      exact .error (.shape (harguments hsome hnone) rfl)
  unfold types
  split
  · exact .ok _
  · exact .error (.type rfl)
  · exact hnames _
  · rename_i hsome _ _
    exact hitems fun h => hsome h
  · rename_i hsome
    exact hguess fun h => hsome h
  · exact .error (.value rfl)

theorem faults_resolve (params : List String) {declared arguments : Value}
    (hdeclared : declared ≠ .none → declared.items? = none → misshapen)
    (harguments : arguments ≠ .none → arguments.items? = none → misshapen) :
    Check.FailsWith (Fault.About misshapen) (resolve params declared arguments) := by
  refine (faults_types params hdeclared harguments).bind fun found _ => ?_
  split_ifs
  · exact .error (.source rfl)
  · exact .ok _

/-- **The parameters get types, and nothing else does.** -/
theorem names_of_resolve {params : List String} {declared arguments : Value} {table : TypeTable}
    (h : resolve params declared arguments = .ok table) : table.names = params.eraseDups := by
  obtain ⟨found, -, h⟩ := Check.bind_eq_ok_iff.mp h
  by_cases hlength : found.length ≠ params.length
  · rw [if_pos hlength] at h
    exact nomatch h
  · rw [if_neg hlength] at h
    obtain rfl := Except.ok.inj h
    rw [names_ofEntries, List.map_fst_zip (by omega)]

theorem contains_of_resolve {params : List String} {declared arguments : Value} {table : TypeTable}
    (h : resolve params declared arguments = .ok table) :
    ∀ p ∈ params, table.contains p = true := by
  intro p hp
  rw [contains_iff_mem_names, names_of_resolve h]
  exact List.mem_eraseDups.mpr hp

end Parameter

/-! ## Workgroup sizes -/

namespace Workgroup

theorem positive_eq_ok {refuse : Value → Fault} {v : Value} {n : Nat}
    (h : positive refuse v = .ok n) : 1 ≤ n := by
  unfold positive at h
  split at h
  · rename_i k
    by_cases hk : 1 ≤ k
    · rw [if_pos hk] at h
      have hn := Except.ok.inj h
      omega
    · rw [if_neg hk] at h
      exact nomatch h
  · exact nomatch h

theorem dimensions_pos {arity : Nat → Fault} {refuse : Value → Fault} {v : Value} {dims : List Nat}
    (h : dimensions arity refuse v = .ok dims) : ∀ n ∈ dims, 1 ≤ n := by
  obtain ⟨items, -, h⟩ := Check.bind_eq_ok_iff.mp h
  by_cases hcount : (items.isEmpty || decide (3 < items.length)) = true
  · rw [if_pos hcount] at h
    exact nomatch h
  · rw [if_neg hcount] at h
    intro n hn
    obtain ⟨item, -, hitem⟩ := Check.exists_of_mem_mapM h hn
    exact positive_eq_ok hitem

theorem faults_size {v : Value} (hshape : v.items? = none → misshapen) :
    Check.FailsWith (Fault.About misshapen) (size v) := by
  refine Check.FailsWith.map _ (Check.FailsWith.bind ?_ fun items _ => ?_)
  · unfold components
    split
    · exact .ok _
    · split
      · exact .ok _
      · rename_i hnone
        exact .error (.shape (hshape hnone) rfl)
  · split_ifs
    · exact .error (.value rfl)
    · refine .mapM fun item _ => ?_
      unfold positive
      split
      · split_ifs
        · exact .ok _
        · exact .error (.value rfl)
      · exact .error (.value rfl)

/-- The components of a size are positive, those that were filled up included. -/
theorem size_pos {v : Value} {w : Size} (h : size v = .ok w) : ∀ n ∈ w.toList, 1 ≤ n := by
  obtain ⟨dims, hdims, rfl⟩ := Check.map_eq_ok_iff.mp h
  have hpos : ∀ k, 1 ≤ dims.getD k 1 := by
    intro k
    rw [List.getD_eq_getElem?_getD]
    cases hk : dims[k]? with
    | none => exact Nat.le_refl 1
    | some n => exact dimensions_pos hdims n (List.mem_of_getElem? hk)
  intro n hn
  simp only [Size.toList, Size.ofDimensions, List.mem_cons, List.not_mem_nil, or_false] at hn
  rcases hn with rfl | rfl | rfl
  · exact hpos 0
  · exact hpos 1
  · exact hpos 2

/-- A size that is given again by its components is the same size. -/
theorem size_toList {w : Size} (h : ∀ n ∈ w.toList, 1 ≤ n) :
    size (.list ((w.toList.map Int.ofNat).map .int)) = .ok w := by
  obtain ⟨x, y, z⟩ := w
  have hpositive : ∀ n : Nat, 1 ≤ n → positive .sizeComponent (.int (Int.ofNat n)) = .ok n := by
    intro n hn
    have hint : (1 : Int) ≤ Int.ofNat n := Int.ofNat_le.mpr hn
    rw [positive, if_pos hint]
    rfl
  have hdims : dimensions .sizeArity .sizeComponent
      (.list [.int (Int.ofNat x), .int (Int.ofNat y), .int (Int.ofNat z)]) = .ok [x, y, z] := by
    refine Check.bind_eq_ok_iff.mpr ⟨_, rfl, Check.mapM_eq_ok_iff.mpr ?_⟩
    have hx := hpositive x (h x (by simp [Size.toList]))
    have hy := hpositive y (h y (by simp [Size.toList]))
    have hz := hpositive z (h z (by simp [Size.toList]))
    exact .cons hx (.cons hy (.cons hz .nil))
  exact Check.map_eq_ok_iff.mpr ⟨_, hdims, rfl⟩

end Workgroup

end KernelShader
