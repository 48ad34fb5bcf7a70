/-
`Growth.lean` -- a first reading only adds to the type table.

A line gives types to names in two ways that do not agree: among the array literals of a line the last one
decides, among its declarations the first. All this happens in a table of the line's own, and what goes from
there into the table of the function is new names only. So a reading can be stopped behind any line and taken
up again (`generate_append`), with a table that begins the later ones, and a name keeps what the first line
that sights it has given it (`table_only_appends`).
-/
import KernelShader.Proofs.Generator.Invocation
import KernelShader.Proofs.Generator.Sightings

set_option autoImplicit false

namespace KernelShader

/-- A table of entries answers with the last entry under a name. -/
theorem NameTable.get?_ofEntries {α : Type} (es : List (String × α)) (name : String) :
    (ofEntries es).get? name = es.reverse.lookup name := by
  induction es using List.reverseRecOn with
  | nil => rfl
  | append_singleton es entry ih =>
    obtain ⟨key, value⟩ := entry
    rw [ofEntries_concat, get?_insert, ih, List.reverse_append, List.reverse_singleton,
      List.singleton_append]
    exact (get?_mk_cons key name value es.reverse).symm

namespace Generator

open NameTable

/-! ## The type that a line gives -/

/-- The type that a line gives to a name which it sights: that of the last array literal assigned to the name,
and without one that of its first declaration. -/
def sightedType (tokens : List Token) (name : String) : Option ShaderType :=
  ((literalTargets tokens).reverse.lookup name).or ((declaredNames tokens).lookup name)

theorem get?_register_eq (types : TypeTable) (tokens : List Token) (name : String) :
    (register types tokens).get? name = (types.get? name).or (sightedType tokens name) := by
  rw [get?_register, get?_ofEntries]
  rfl

theorem isSome_lookup_iff {es : List (String × ShaderType)} {name : String} :
    (es.lookup name).isSome = true ↔ name ∈ es.map Prod.fst :=
  contains_iff_mem_names (t := ⟨es⟩)

/-- A line gives types to the names that it sights and to no others. -/
theorem exists_sightedType_iff {tokens : List Token} {name : String} :
    (∃ type, sightedType tokens name = some type) ↔ name ∈ sightings tokens := by
  rw [← Option.isSome_iff_exists, sightedType, Option.isSome_or, Bool.or_eq_true, isSome_lookup_iff,
    isSome_lookup_iff, List.map_reverse, List.mem_reverse, mem_sightings, registeredNames, List.mem_append]
  rfl

/-- After all lines a name has the type that it had before them, or the one that the first line to sight it
gives. -/
theorem get?_foldl_register (types : TypeTable) (lines : List (List Token)) (name : String) :
    (lines.foldl register types).get? name
      = (types.get? name).or (lines.findSome? fun tokens => sightedType tokens name) := by
  induction lines generalizing types with
  | nil => exact Option.or_none.symm
  | cons tokens rest ih =>
    rw [List.foldl_cons, ih, get?_register_eq, Option.or_assoc, List.findSome?_cons]
    cases sightedType tokens name with
    | none => rfl
    | some type => rfl

/-! ## Stopping a reading -/

theorem bodyLines_append (dialect : Dialect) (phase : Phase) (types : TypeTable) (lines more : List Line) :
    bodyLines dialect phase types (lines ++ more)
      = ((bodyLines dialect phase types lines).1
            ++ (bodyLines dialect phase (bodyLines dialect phase types lines).2 more).1,
          (bodyLines dialect phase (bodyLines dialect phase types lines).2 more).2) := by
  induction lines generalizing types with
  | nil => rfl
  | cons line rest ih =>
    rw [List.cons_append]
    simp only [bodyLines, ih, List.cons_append]

theorem LinesFit.of_append {dialect : Dialect} {phase : Phase} {types : TypeTable}
    {lines more : List Line} (h : LinesFit dialect phase types (lines ++ more)) :
    LinesFit dialect phase types lines := by
  induction lines generalizing types with
  | nil => exact trivial
  | cons line rest ih => exact ⟨h.1, ih h.2⟩

theorem length_bodyLines (dialect : Dialect) (phase : Phase) (types : TypeTable) (lines : List Line) :
    (bodyLines dialect phase types lines).1.length = lines.length := by
  induction lines generalizing types with
  | nil => rfl
  | cons line rest ih => exact congrArg (· + 1) (ih _)

theorem length_of_generate {dialect : Dialect} {phase : Phase} {role : Role} {types after : TypeTable}
    {lines : List Line} {texts : List String}
    (h : generate dialect phase role types lines = .ok (texts, after)) : texts.length = lines.length := by
  cases lines with
  | nil =>
    have htexts : [] = texts := (Prod.mk.inj (Except.ok.inj h)).1
    exact congrArg List.length htexts.symm
  | cons first rest =>
    obtain ⟨declaration, head, -, -, -, rfl, -⟩ := generate_cons_eq_ok_iff.mp h
    rw [List.length_cons, List.length_cons, length_bodyLines]

/-- A reading that comes through can be stopped behind any of its lines. What it has written by then stands
in front of the rest, and its table begins the last one. -/
theorem generate_append {dialect : Dialect} {phase : Phase} {role : Role} {types after : TypeTable}
    {lines more : List Line} {texts : List String}
    (h : generate dialect phase role types (lines ++ more) = .ok (texts, after)) :
    ∃ front table, generate dialect phase role types lines = .ok (front, table) ∧
      front <+: texts ∧ table.entries <+: after.entries := by
  cases lines with
  | nil => exact ⟨[], types, rfl, List.nil_prefix, prefix_generate h⟩
  | cons first rest =>
    rw [List.cons_append] at h
    obtain ⟨declaration, head, hparse, hhead, ⟨htail, hlines⟩, rfl, rfl⟩ :=
      generate_cons_eq_ok_iff.mp h
    refine ⟨_, _, generate_cons_eq_ok_iff.mpr
      ⟨declaration, head, hparse, hhead, ⟨htail, hlines.of_append⟩, rfl, rfl⟩, ?_, ?_⟩
    · rw [bodyLines_append, ← List.cons_append]
      exact List.prefix_append _ _
    · rw [bodyLines_append]
      exact prefix_bodyLines _ _ _ _

/-! ## Whole functions -/

/-- **A first reading only adds to the table.** Stop it behind line `k`, or go on to line `n`: the table that
it has at `k` begins the one that it has at `n`, so every name keeps its place and its type. A name that is new
to the function has at `n` the type that the first line to sight it has given it. -/
theorem table_only_appends {dialect : Dialect} {role : Role} {types after : TypeTable} {lines : List Line}
    {n : Nat} {texts : List String}
    (h : generate dialect .infer role types (lines.take n) = .ok (texts, after)) :
    (∀ k ≤ n, ∃ table, generate dialect .infer role types (lines.take k) = .ok (texts.take k, table) ∧
      table.entries <+: after.entries ∧ ∀ name ∈ table.names, after.get? name = table.get? name) ∧
    ∀ before tokens behind name, bodyTokens dialect (lines.take n) = before ++ tokens :: behind →
      name ∉ types.names → (∀ earlier ∈ before, name ∉ sightings earlier) → name ∈ sightings tokens →
      ∃ type, sightedType tokens name = some type ∧ after.get? name = some type := by
  refine ⟨fun k hk => ?_, fun before tokens behind name hlines hnew hfirst hsighted => ?_⟩
  · have hsplit : lines.take k ++ (lines.take n).drop k = lines.take n := by
      have hwhole := List.take_append_drop k (lines.take n)
      rwa [List.take_take, Nat.min_eq_left hk] at hwhole
    rw [← hsplit] at h
    obtain ⟨front, table, hfront, htexts, hbegins⟩ := generate_append h
    have hwritten : texts.take k = front := by
      have hlength : texts.length = _ := length_of_generate h
      rw [hsplit, List.length_take] at hlength
      have hlength' : front.length = _ := length_of_generate hfront
      rw [List.length_take] at hlength'
      rw [List.prefix_iff_eq_take.mp htexts, List.take_eq_take_iff]
      omega
    refine ⟨table, hwritten ▸ hfront, hbegins, fun name hname => ?_⟩
    obtain ⟨type, htype⟩ := exists_get?_of_mem_names hname
    rw [htype, get?_mono hbegins htype]
  · obtain ⟨type, htype⟩ := exists_sightedType_iff.mpr hsighted
    have hnone : before.findSome? (fun earlier => sightedType earlier name) = none := by
      refine List.findSome?_eq_none_iff.mpr fun earlier hearlier => ?_
      refine Option.eq_none_iff_forall_ne_some.mpr fun type' htype' => ?_
      exact hfirst earlier hearlier (exists_sightedType_iff.mp ⟨type', htype'⟩)
    refine ⟨type, htype, ?_⟩
    rw [table_of_generate h, get?_foldl_register, get?_eq_none hnew, hlines, List.findSome?_append, hnone,
      List.findSome?_cons, htype]
    rfl

/-- Every line gives a type once more to a name from a line before it, or to the parameter. -/
def redeclaringLines : List Line :=
  ["function f(a) \x7b let v = [1, 2];", "let v = a; let a = [3]; let w = v;", "w = [4];"].map Line.split

theorem redeclaringLines_append :
    ∃ texts after,
      generate .current .infer (.helper none) ⟨[("a", .scalar .i32)]⟩ (redeclaringLines.take 3)
        = .ok (texts, after) ∧
      after.entries = [("a", .scalar .i32), ("v", .ofCommas 1), ("w", .f32)] ∧
      (∃ table, generate .current .infer (.helper none) ⟨[("a", .scalar .i32)]⟩ (redeclaringLines.take 1)
          = .ok (texts.take 1, table) ∧
        table.names = ["a", "v"] ∧ table.entries <+: after.entries) ∧
      after.get? "w" = some .f32 := by
  obtain ⟨texts, after, hread, hentries⟩ : ∃ texts after,
      generate .current .infer (.helper none) ⟨[("a", .scalar .i32)]⟩ (redeclaringLines.take 3)
        = .ok (texts, after) ∧
      after.entries = [("a", .scalar .i32), ("v", .ofCommas 1), ("w", .f32)] := by
    have hread : (generate .current .infer (.helper none) ⟨[("a", .scalar .i32)]⟩
        (redeclaringLines.take 3)).toOption.bind (fun written => some written.2.entries)
          = some [("a", .scalar .i32), ("v", .ofCommas 1), ("w", .f32)] := by decide +kernel
    obtain ⟨⟨texts, after⟩, hwritten, hentries⟩ := Check.exists_of_toOption hread
    exact ⟨texts, after, hwritten, Option.some.inj hentries⟩
  obtain ⟨hstops, hsighted⟩ := table_only_appends hread
  obtain ⟨table, htable, hbegins, -⟩ := hstops 1 (by decide)
  have hnames : table.names = ["a", "v"] := by
    rw [table_of_generate htable]
    decide +kernel
  -- the second line is the first to sight `w`
  obtain ⟨type, htype, hget⟩ := hsighted (bodyTokens .current (redeclaringLines.take 1))
    ((bodyTokens .current (redeclaringLines.take 2)).getLastD [])
    ((bodyTokens .current (redeclaringLines.take 3)).drop 2) "w" (by decide +kernel) (by decide)
    (by decide +kernel) (by decide +kernel)
  have hnumber : some type = some .f32 := by
    rw [← htype]
    decide +kernel
  exact ⟨texts, after, hread, hentries, ⟨table, htable, hnames, hbegins⟩, hget.trans hnumber⟩

end Generator

end KernelShader
