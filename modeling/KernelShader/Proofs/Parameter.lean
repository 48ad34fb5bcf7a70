/-
`Parameter.lean` -- types for parameters, by name and by position.

A table that names the types and a list that has them in order are checked by different code: the table
has to name each parameter and no other, the list has to have the right length. Once a table has passed
that, each of its types is looked up in the order of the parameters, so it goes on exactly as the list of
what is looked up would (`resolve_table_eq`). The order of the table plays no part in a look-up, since its
names are distinct.

Either way the parameters are zipped with types. A parameter that is named twice keeps the place where it
came first and the type with which it came last (`Lists`).
-/
import KernelShader.Proofs.Arguments

set_option autoImplicit false

namespace KernelShader.Parameter

/-- The table names each of the parameters and nothing else. -/
def Names (entries : List (String × Value)) (params : List String) : Prop :=
  ∀ name, name ∈ entries.map Prod.fst ↔ name ∈ params

/-- The table has the parameters in the order in which each came first, with the types that stand where
each came last. -/
structure Lists (table : TypeTable) (params : List String) (types : List ShaderType) : Prop where
  names_eq : table.names = params.eraseDups
  get?_last : ∀ (before after : List String) (name : String), params = before ++ name :: after →
    name ∉ after → table.get? name = types[before.length]?

/-! ## Types by name -/

theorem isNone_lookup_iff {entries : List (String × Value)} {name : String} :
    (entries.lookup name).isNone = true ↔ name ∉ entries.map Prod.fst := by
  have hcontains : (entries.lookup name).isSome = true ↔ name ∈ entries.map Prod.fst :=
    NameTable.contains_iff_mem_names (t := ⟨entries⟩)
  rw [← hcontains, Option.isNone_iff_eq_none, Option.not_isSome_iff_eq_none]

/-- A table that names the parameters is gone through in their order. -/
theorem fromNames_of_names {params : List String} {entries : List (String × Value)}
    (h : Names entries params) :
    fromNames params entries
      = params.mapM fun p => ShaderType.ofValue ((entries.lookup p).getD .none) := by
  have hmissing : params.filter (fun p => (entries.lookup p).isNone) = [] := by
    refine List.filter_eq_nil_iff.mpr fun p hp => ?_
    rw [isNone_lookup_iff]
    exact not_not.mpr ((h p).mpr hp)
  have hextra : (entries.map Prod.fst).filter (!params.contains ·) = [] := by
    refine List.filter_eq_nil_iff.mpr fun name hname => ?_
    simpa using (h name).mp hname
  simp only [fromNames, hmissing, hextra]
  rfl

/-- A table that does not is refused, whichever of the two lists of names is to blame. -/
theorem fromNames_of_not_names {params : List String} {entries : List (String × Value)}
    (h : ¬ Names entries params) :
    ∃ fault : Fault, fromNames params entries = .error fault ∧ fault.kind = .malformedSource := by
  by_cases hmissing : params.filter (fun p => (entries.lookup p).isNone) = []
  · have hextra : (entries.map Prod.fst).filter (!params.contains ·) ≠ [] := by
      intro hextra
      refine h fun name => ⟨fun hname => ?_, fun hname => ?_⟩
      · simpa using List.filter_eq_nil_iff.mp hextra name hname
      · simpa [isNone_lookup_iff] using List.filter_eq_nil_iff.mp hmissing name hname
    obtain ⟨name, more, hnames⟩ := List.exists_cons_of_ne_nil hextra
    refine ⟨.unknownParameters (name :: more), ?_, rfl⟩
    simp only [fromNames, hmissing, hnames]
    rfl
  · obtain ⟨name, more, hnames⟩ := List.exists_cons_of_ne_nil hmissing
    refine ⟨.missingTypes (name :: more), ?_, rfl⟩
    simp only [fromNames, hnames]
    rfl

/-- The values under the parameters, in their order. -/
def Selects (entries : List (String × Value)) (params : List String) (items : List Value) : Prop :=
  List.Forall₂ (fun name item => (name, item) ∈ entries) params items

theorem exists_selects {params : List String} {entries : List (String × Value)}
    (h : Names entries params) : ∃ items, Selects entries params items := by
  refine ⟨params.map fun p => (entries.lookup p).getD .none, ?_⟩
  rw [Selects, List.forall₂_map_right_iff, List.forall₂_same]
  intro p hp
  obtain ⟨item, hitem⟩ := NameTable.exists_get?_of_mem_names (t := ⟨entries⟩) ((h p).mpr hp)
  have hlookup : entries.lookup p = some item := hitem
  rw [hlookup]
  exact NameTable.mem_entries_of_get? hitem

/-- Where names are distinct, the values under the parameters are what is looked up. -/
theorem Selects.eq_map {params : List String} {entries : List (String × Value)} {items : List Value}
    (h : Selects entries params items) (hnodup : (entries.map Prod.fst).Nodup) :
    items = params.map fun p => (entries.lookup p).getD .none := by
  induction h with
  | nil => rfl
  | @cons name item _ _ hentry _ ih =>
    have hlookup : entries.lookup name = some item :=
      NameTable.get?_of_mem_entries (t := ⟨entries⟩) hnodup hentry
    rw [List.map_cons, ← ih, hlookup]
    rfl

/-- **By name as by position.** -/
theorem resolve_table_eq {params : List String} {entries : List (String × Value)} {items : List Value}
    (hnames : Names entries params) (hnodup : (entries.map Prod.fst).Nodup)
    (hitems : Selects entries params items) :
    resolve params (.table entries) .none = resolve params (.list items) .none := by
  have htypes : types params (.table entries) .none = types params (.list items) .none := by
    have hlist : types params (.list items) .none = items.mapM ShaderType.ofValue := rfl
    have htable : types params (.table entries) .none = fromNames params entries := rfl
    rw [hlist, htable, fromNames_of_names hnames, hitems.eq_map hnodup, List.mapM_map]
    rfl
  rw [resolve, resolve, htypes]

/-- **What is refused about the names.** No other fault of a table is about the source: a type that cannot
be read is about types or values, and the number of types is that of the parameters. -/
theorem malformed_iff_not_names {params : List String} {entries : List (String × Value)} :
    (∃ fault, resolve params (.table entries) .none = .error fault ∧ fault.kind = .malformedSource) ↔
      ¬ Names entries params := by
  have htypes : types params (.table entries) .none = fromNames params entries := rfl
  constructor
  · rintro ⟨fault, hfault, hkind⟩ hnames
    rcases Check.bind_eq_error_iff.mp hfault with hread | ⟨found, hfound, hcount⟩
    · rw [htypes, fromNames_of_names hnames] at hread
      have habout : fault.AboutType :=
        Check.FailsWith.mapM (fun p _ => ShaderType.typeFaults_ofValue _) fault hread
      rcases habout with hother | hother <;> simp [hkind] at hother
    · rw [htypes, fromNames_of_names hnames] at hfound
      have hlength : found.length = params.length := (Check.mapM_eq_ok_iff.mp hfound).length_eq.symm
      rw [if_neg (not_not.mpr hlength)] at hcount
      exact nomatch hcount
  · intro hnames
    obtain ⟨fault, hfault, hkind⟩ := fromNames_of_not_names hnames
    exact ⟨fault, Check.bind_eq_error_iff.mpr (.inl (htypes.trans hfault)), hkind⟩

/-! ## Types by position -/

theorem lists_ofEntries {params : List String} {types : List ShaderType}
    (h : types.length = params.length) : Lists (.ofEntries (params.zip types)) params types := by
  have hfst : (params.zip types).map Prod.fst = params := List.map_fst_zip (by omega)
  refine ⟨by rw [NameTable.names_ofEntries, hfst], ?_⟩
  rintro before after name rfl hlast
  -- the types are cut where the parameters are
  obtain ⟨front, type, back, rfl, hfront⟩ : ∃ front type back,
      types = front ++ type :: back ∧ front.length = before.length := by
    have hbound : before.length < types.length := by
      rw [h, List.length_append, List.length_cons]
      omega
    refine ⟨types.take before.length, types[before.length], types.drop (before.length + 1), ?_, ?_⟩
    · rw [← List.drop_eq_getElem_cons hbound, List.take_append_drop]
    · rw [List.length_take]
      omega
  have hzip : (before ++ name :: after).zip (front ++ type :: back)
      = before.zip front ++ (name, type) :: after.zip back := by
    rw [List.zip_append hfront.symm]
    rfl
  have hafter : name ∉ (after.zip back).map Prod.fst := by
    intro hmem
    obtain ⟨entry, hentry, rfl⟩ := List.mem_map.mp hmem
    exact hlast (List.of_mem_zip hentry).1
  rw [hzip, NameTable.get?_ofEntries_last _ _ _ hafter, ← hfront]
  simp

/-- Types in the right number make a table. -/
theorem exists_resolve {params : List String} {declared arguments : Value} {found : List ShaderType}
    (h : types params declared arguments = .ok found) (hlength : found.length = params.length) :
    ∃ table, resolve params declared arguments = .ok table ∧ Lists table params found := by
  refine ⟨_, Check.bind_eq_ok_iff.mpr ⟨found, h, ?_⟩, lists_ofEntries hlength⟩
  rw [if_neg (not_not.mpr hlength)]
  rfl

theorem types_of_sequence {params : List String} {declared : Value} {items : List Value}
    (htext : ∀ s, declared ≠ .text s) (htable : ∀ entries, declared ≠ .table entries)
    (hitems : declared.items? = some items) :
    types params declared .none = items.mapM ShaderType.ofValue := by
  have hsequence : types params declared .none = fromSequence declared := by
    cases declared with
    | none => exact nomatch hitems
    | text s => exact absurd rfl (htext s)
    | table entries => exact absurd rfl (htable entries)
    | _ => rfl
  rw [hsequence, fromSequence, hitems]

theorem types_of_arguments {params : List String} {arguments : Value} {items : List Value}
    (hitems : arguments.items? = some items) :
    types params .none arguments = .ok (items.map guess) := by
  have hguess : types params .none arguments = guessAll arguments := by
    cases arguments with
    | none => exact nomatch hitems
    | _ => rfl
  rw [hguess, guessAll, hitems]

/-- **Types by name and by position.** A table is refused as part of a malformed source exactly if it does
not name the parameters; otherwise it does, in whatever order it has its entries, what the list of its
types in the order of the parameters does. Of a sequence of types, and of the arguments of a call, in the
right number the table comes out that lists the parameters in the order in which each came first, with the
type where each came last. -/
theorem types_by_name_and_position :
    (∀ (params : List String) (entries : List (String × Value)),
      ((∃ fault, resolve params (.table entries) .none = .error fault ∧ fault.kind = .malformedSource) ↔
        ¬ Names entries params) ∧
      ((entries.map Prod.fst).Nodup → Names entries params →
        (∃ items, Selects entries params items) ∧
        ∀ items others, Selects entries params items → others.Perm entries →
          resolve params (.table others) .none = resolve params (.list items) .none)) ∧
    (∀ (params : List String) (declared : Value) (items : List Value) (found : List ShaderType),
      (∀ s, declared ≠ .text s) → (∀ entries, declared ≠ .table entries) →
      declared.items? = some items → items.length = params.length →
      List.Forall₂ (fun item type => ShaderType.ofValue item = .ok type) items found →
      ∃ table, resolve params declared .none = .ok table ∧ Lists table params found) ∧
    ∀ (params : List String) (arguments : Value) (items : List Value),
      arguments.items? = some items → items.length = params.length →
      ∃ table, resolve params .none arguments = .ok table ∧ Lists table params (items.map guess) := by
  refine ⟨fun params entries => ⟨malformed_iff_not_names, fun hnodup hnames => ⟨exists_selects hnames, ?_⟩⟩,
    ?_, ?_⟩
  · intro items others hitems hperm
    -- the values that are selected, the names and their being distinct do not depend on the order
    have hkeys : (others.map Prod.fst).Perm (entries.map Prod.fst) := hperm.map Prod.fst
    refine resolve_table_eq (fun name => ?_) (hkeys.nodup_iff.mpr hnodup) ?_
    · rw [hkeys.mem_iff]
      exact hnames name
    · exact hitems.imp fun name item hentry => hperm.mem_iff.mpr hentry
  · intro params declared items found htext htable hitems hlength hfound
    have htypes : types params declared .none = items.mapM ShaderType.ofValue :=
      types_of_sequence htext htable hitems
    refine exists_resolve (htypes.trans (Check.mapM_eq_ok_iff.mpr hfound)) ?_
    rw [← hfound.length_eq, hlength]
  · intro params arguments items hitems hlength
    refine exists_resolve (types_of_arguments hitems) ?_
    rw [List.length_map, hlength]

/-- At a parameter that comes twice, by name in another order, by position and by the arguments of a
call. -/
theorem repeatedParameter_typed :
    resolve ["a", "b", "a"] (.table [("b", .text "i32"), ("a", .text " u32 ")]) .none
        = resolve ["a", "b", "a"] (.list [.text " u32 ", .text "i32", .text " u32 "]) .none ∧
      (∃ table, resolve ["a", "b", "a"] (.list [.text "f32", .text "i32", .text " u32 "]) .none = .ok table ∧
        table.names = ["a", "b"] ∧ table.get? "a" = some .u32) ∧
      ∃ table, resolve ["a", "b", "a"] .none (.list [.int 7, .none, .text "1,2"]) = .ok table ∧
        table.names = ["a", "b"] ∧ table.get? "a" = some (.ofCommas 1) := by
  have hnames : Names [("a", .text " u32 "), ("b", .text "i32")] ["a", "b", "a"] := by
    intro name
    simp only [List.map_cons, List.map_nil, List.mem_cons, List.not_mem_nil, or_false]
    tauto
  have hselects : Selects [("a", .text " u32 "), ("b", .text "i32")] ["a", "b", "a"]
      [.text " u32 ", .text "i32", .text " u32 "] :=
    .cons (.head _) (.cons (.tail _ (.head _)) (.cons (.head _) .nil))
  refine ⟨((types_by_name_and_position.1 _ _).2 (by decide) hnames).2 _ _ hselects (.swap _ _ _), ?_, ?_⟩
  · obtain ⟨table, htable, hlists⟩ := types_by_name_and_position.2.1 ["a", "b", "a"]
      (.list [.text "f32", .text "i32", .text " u32 "]) _ [.f32, .scalar .i32, .u32] (by simp) (by simp) rfl
      rfl (.cons rfl (.cons rfl (.cons rfl .nil)))
    exact ⟨table, htable, hlists.names_eq, hlists.get?_last ["a", "b"] [] "a" rfl List.not_mem_nil⟩
  · obtain ⟨table, htable, hlists⟩ := types_by_name_and_position.2.2 ["a", "b", "a"]
      (.list [.int 7, .none, .text "1,2"]) _ rfl rfl
    exact ⟨table, htable, hlists.names_eq, hlists.get?_last ["a", "b"] [] "a" rfl List.not_mem_nil⟩

end KernelShader.Parameter
