/-
`Sightings.lean` -- in which order a function's table lists its names.

A line is registered in two sweeps: one for the names that are assigned an array literal, and one for the
names that are declared. Someone who reads the line sights both kinds in one sweep from left to right
(`sightings`). The two agree on which names there are and, away from the names with literals, on their order
(`mem_sightings`, `filter_sightings`), so that they can part ways in one point only: a name with a literal
overtakes what is declared in front of it. `locals_listed_literals_first` gives the order of a whole table, and
says for which functions it is the order of sighting.
-/
import KernelShader.Proofs.Generator.Replay

set_option autoImplicit false

namespace KernelShader

/-! ## New names, in order -/

namespace NameTable

variable {α : Type}

/-- The names that are not known yet, each where it comes first. -/
def newNames (known seen : List String) : List String :=
  (seen.filter (· ∉ known)).eraseDups

variable {known known' seen more : List String} {name : String}

theorem newNames_nil (known : List String) : newNames known [] = [] := rfl

theorem newNames_cons (known : List String) (name : String) (seen : List String) :
    newNames known (name :: seen)
      = if name ∈ known then newNames known seen else name :: newNames (name :: known) seen := by
  unfold newNames
  by_cases h : name ∈ known
  · rw [if_pos h, List.filter_cons_of_neg (by simpa using h)]
  · rw [if_neg h, List.filter_cons_of_pos (by simpa using h), List.eraseDups_cons, List.filter_filter]
    refine congrArg (name :: List.eraseDups ·) (List.filter_congr fun other _ => ?_)
    simp [beq_eq_decide]

theorem mem_newNames : name ∈ newNames known seen ↔ name ∈ seen ∧ name ∉ known := by
  simp [newNames]

/-- Of what is known, only which names they are matters. -/
theorem newNames_congr (h : ∀ name, name ∈ known ↔ name ∈ known') (seen : List String) :
    newNames known seen = newNames known' seen := by
  unfold newNames
  simp only [h]

theorem newNames_append (known seen more : List String) :
    newNames known (seen ++ more) = newNames known seen ++ newNames (known ++ seen) more := by
  induction seen generalizing known with
  | nil => rw [List.nil_append, newNames_nil, List.nil_append, List.append_nil]
  | cons name seen ih =>
    rw [List.cons_append, newNames_cons, newNames_cons]
    by_cases h : name ∈ known
    · rw [if_pos h, if_pos h, ih]
      refine congrArg (newNames known seen ++ ·) (newNames_congr (fun other => ?_) more)
      simp only [List.mem_append, List.mem_cons]
      grind
    · rw [if_neg h, if_neg h, ih, List.cons_append]
      refine congrArg (name :: newNames (name :: known) seen ++ ·) (newNames_congr (fun other => ?_) more)
      simp only [List.mem_append, List.mem_cons]
      grind

theorem nodup_newNames (known seen : List String) : (newNames known seen).Nodup := by
  induction seen generalizing known with
  | nil => exact List.nodup_nil
  | cons name seen ih =>
    rw [newNames_cons]
    by_cases h : name ∈ known
    · rw [if_pos h]
      exact ih known
    · rw [if_neg h, List.nodup_cons]
      exact ⟨fun hmem => (mem_newNames.mp hmem).2 List.mem_cons_self, ih _⟩

/-- To look for new names twice, with less known the first time, is to look for them once. -/
theorem newNames_newNames (h : ∀ name ∈ known', name ∈ known) (seen : List String) :
    newNames known (newNames known' seen) = newNames known seen := by
  induction seen generalizing known known' with
  | nil => rfl
  | cons name seen ih =>
    rw [newNames_cons, newNames_cons]
    by_cases h' : name ∈ known'
    · rw [if_pos h', if_pos (h name h'), ih h]
    · rw [if_neg h', newNames_cons]
      by_cases hknown : name ∈ known
      · rw [if_pos hknown, if_pos hknown, ih (List.forall_mem_cons.mpr ⟨hknown, h⟩)]
      · rw [if_neg hknown, if_neg hknown, ih]
        exact List.forall_mem_cons.mpr
          ⟨List.mem_cons_self, fun other hother => List.mem_cons_of_mem name (h other hother)⟩

/-- What is left of the new names when others become known. -/
theorem filter_newNames (known others seen : List String) :
    (newNames known seen).filter (· ∉ others) = newNames (known ++ others) seen := by
  induction seen generalizing known with
  | nil => rfl
  | cons name seen ih =>
    rw [newNames_cons, newNames_cons]
    by_cases h : name ∈ known
    · rw [if_pos h, if_pos (List.mem_append_left others h), ih]
    · rw [if_neg h]
      by_cases hothers : name ∈ others
      · rw [if_pos (List.mem_append_right known hothers), List.filter_cons_of_neg (by simpa using hothers), ih]
        refine newNames_congr (fun other => ?_) seen
        simp only [List.mem_append, List.mem_cons]
        grind
      · rw [if_neg (by simp [h, hothers]), List.filter_cons_of_pos (by simpa using hothers), ih,
          List.cons_append]

theorem names_insertNew (t : NameTable α) (name : String) (value : α) :
    (t.insertNew name value).names = if name ∈ t.names then t.names else t.names ++ [name] := by
  unfold insertNew
  by_cases h : name ∈ t.names
  · rw [if_pos (contains_iff_mem_names.mpr h), if_pos h]
  · rw [if_neg (mt contains_iff_mem_names.mp h), if_neg h, names, List.map_append]
    rfl

/-- Entries with new names are added in the order in which the names come first. -/
theorem names_insertAllNew (t : NameTable α) (es : List (String × α)) :
    (t.insertAllNew es).names = t.names ++ newNames t.names (es.map Prod.fst) := by
  induction es generalizing t with
  | nil => exact (List.append_nil t.names).symm
  | cons entry rest ih =>
    obtain ⟨name, value⟩ := entry
    rw [insertAllNew_cons, ih, names_insertNew, List.map_cons, newNames_cons]
    by_cases h : name ∈ t.names
    · rw [if_pos h, if_pos h]
    · rw [if_neg h, if_neg h, List.append_assoc, List.singleton_append]
      refine congrArg (t.names ++ name :: ·) (newNames_congr (fun other => ?_) _)
      simp only [List.mem_append, List.mem_cons, List.not_mem_nil, or_false]
      exact or_comm

/-! ## One order against another -/

/-- Two readings, one with `firsts` in front of `lasts`, the other in one sweep, and alike away from `firsts`.
They give the new names in the same order if those among `firsts` are the first in both. -/
theorem newNames_append_eq_iff {known firsts lasts swept : List String}
    (h : swept.filter (· ∉ firsts) = lasts.filter (· ∉ firsts)) :
    newNames known (firsts ++ lasts) = newNames known swept ↔ newNames known firsts <+: newNames known swept := by
  have hlasts : newNames (known ++ firsts) lasts = newNames (known ++ firsts) swept := by
    have hsplit : ∀ seen : List String,
        seen.filter (· ∉ known ++ firsts) = (seen.filter (· ∉ firsts)).filter (· ∉ known) := by
      intro seen
      rw [List.filter_filter]
      refine List.filter_congr fun name _ => ?_
      simp [not_or]
    unfold newNames
    rw [hsplit, hsplit, h]
  rw [newNames_append, hlasts]
  constructor
  · intro heq
    rw [← heq]
    exact List.prefix_append _ _
  · rintro ⟨rest, hrest⟩
    -- `rest` has none of `firsts`, since they have all come before
    have hnodup : (newNames known firsts ++ rest).Nodup := hrest ▸ nodup_newNames known swept
    have hout : ∀ name ∈ rest, name ∉ firsts := by
      intro name hname hfirst
      have hnew : name ∈ newNames known swept := hrest ▸ List.mem_append_right _ hname
      exact (List.nodup_append.mp hnodup).2.2 name (mem_newNames.mpr ⟨hfirst, (mem_newNames.mp hnew).2⟩) name
        hname rfl
    have hfilter := congrArg (List.filter (· ∉ firsts)) hrest
    rw [filter_newNames, List.filter_append, List.filter_eq_nil_iff.mpr
        (fun name hname => by simpa using (mem_newNames.mp hname).1),
      List.nil_append, List.filter_eq_self.mpr (fun name hname => by simpa using hout name hname)] at hfilter
    rw [← hfilter, hrest]

/-- Two readings that give the same names in every line have the same order in all lines if they have it in
each, taken with what the lines before it have given. -/
theorem newNames_flatMap_eq_iff {β : Type} {f g : β → List String} (h : ∀ b name, name ∈ f b ↔ name ∈ g b)
    (known : List String) (lines : List β) :
    newNames known (lines.flatMap f) = newNames known (lines.flatMap g) ↔
      ∀ before line behind, lines = before ++ line :: behind →
        newNames (known ++ before.flatMap g) (f line) = newNames (known ++ before.flatMap g) (g line) := by
  induction lines generalizing known with
  | nil => exact iff_of_true rfl fun before line behind hnil => by simp at hnil
  | cons first rest ih =>
    have hknown : newNames (known ++ f first) (rest.flatMap f) = newNames (known ++ g first) (rest.flatMap f) :=
      newNames_congr (fun name => by simp only [List.mem_append, h]) _
    -- both give as many new names for the first line, so what they give for the others begins at one place
    have hlength : (newNames known (f first)).length = (newNames known (g first)).length := by
      have hperm := List.perm_ext_iff_of_nodup (nodup_newNames known (f first)) (nodup_newNames known (g first))
      refine (hperm.mpr fun name => ?_).length_eq
      rw [mem_newNames, mem_newNames, h]
    rw [List.flatMap_cons, List.flatMap_cons, newNames_append, newNames_append, hknown]
    constructor
    · intro heq before line behind hlines
      obtain ⟨hfirst, hrest⟩ := List.append_inj heq hlength
      cases before with
      | nil =>
        obtain ⟨rfl, rfl⟩ := List.cons.inj hlines
        rw [List.flatMap_nil, List.append_nil]
        exact hfirst
      | cons _ before =>
        obtain ⟨rfl, rfl⟩ := List.cons.inj hlines
        rw [List.flatMap_cons, ← List.append_assoc]
        exact (ih _).mp hrest before line behind rfl
    · intro hall
      have hfirst := hall [] first rest rfl
      rw [List.flatMap_nil, List.append_nil] at hfirst
      rw [hfirst, (ih _).mpr fun before line behind hlines => ?_]
      have hline := hall (first :: before) line behind (congrArg (first :: ·) hlines)
      rw [List.flatMap_cons, ← List.append_assoc] at hline
      exact hline

end NameTable

/-! ## Sightings in a line -/

namespace Generator

open NameTable

/-- What stands behind a token assigns an array literal to it. -/
def assigns : List Token → Bool
  | equals :: .literal _ _ :: _ => equals.reads "="
  | _ => false

/-- The names of a line in the order in which they are sighted: behind a keyword, or in front of `=` and an
array literal. The flag tells whether a keyword stands in front of the tokens. -/
def sightingsFrom (declared : Bool) : List Token → List String
  | [] => []
  | t :: rest =>
    (if declared || assigns rest then [t.text] else []) ++ sightingsFrom (keyword? t).isSome rest

/-- The names of a line, from left to right. -/
def sightings (tokens : List Token) : List String := sightingsFrom false tokens

/-- The names that are assigned an array literal, from left to right. -/
def assignedNames (tokens : List Token) : List String := (literalTargets tokens).map Prod.fst

/-- The names of a line in the order in which it is registered. -/
def registeredNames (tokens : List Token) : List String :=
  assignedNames tokens ++ (declaredNames tokens).map Prod.fst

theorem assignedNames_cons (t : Token) (rest : List Token) :
    assignedNames (t :: rest) = (if assigns rest then [t.text] else []) ++ assignedNames rest := by
  unfold assignedNames
  cases rest with
  | nil => rfl
  | cons equals rest =>
    cases rest with
    | nil => rfl
    | cons value rest =>
      cases value with
      | word text => rfl
      | literal text commas =>
        have hassigns : assigns (equals :: .literal text commas :: rest) = equals.reads "=" := rfl
        rw [hassigns]
        by_cases hequals : equals.reads "=" = true
        · simp only [literalTargets, if_pos hequals, List.map_append, List.map_cons, List.map_nil]
        · simp only [literalTargets, if_neg hequals, List.nil_append]

/-- The token that a keyword in front of the tokens would declare. -/
def declaredFirst (declared : Bool) (tokens : List Token) : List String :=
  if declared then (tokens.head?.map Token.text).toList else []

theorem declaredNames_cons (t : Token) (rest : List Token) :
    (declaredNames (t :: rest)).map Prod.fst
      = declaredFirst (keyword? t).isSome rest ++ (declaredNames rest).map Prod.fst := by
  cases rest with
  | nil =>
    unfold declaredFirst
    cases (keyword? t).isSome <;> rfl
  | cons name rest =>
    cases hkey : keyword? t with
    | some word =>
      rw [declaredNames_cons_of_keyword rest hkey]
      rfl
    | none =>
      rw [declaredNames_cons_of_none rest hkey]
      rfl

theorem mem_sightingsFrom {declared : Bool} {tokens : List Token} {name : String} :
    name ∈ sightingsFrom declared tokens ↔
      name ∈ declaredFirst declared tokens ∨ name ∈ registeredNames tokens := by
  unfold registeredNames
  induction tokens generalizing declared with
  | nil => cases declared <;> simp [sightingsFrom, declaredFirst, assignedNames, literalTargets, declaredNames]
  | cons t rest ih =>
    rw [sightingsFrom, List.mem_append, ih, assignedNames_cons, declaredNames_cons]
    simp only [declaredFirst, List.head?_cons, Option.map_some, Option.toList_some, List.mem_append]
    cases declared <;> cases assigns rest <;> simp <;> grind

theorem mem_sightings {tokens : List Token} {name : String} :
    name ∈ sightings tokens ↔ name ∈ registeredNames tokens := by
  simp [sightings, mem_sightingsFrom, declaredFirst]

theorem filter_sightingsFrom {declared : Bool} {tokens : List Token} {names : List String}
    (h : ∀ name ∈ assignedNames tokens, name ∈ names) :
    (sightingsFrom declared tokens).filter (· ∉ names)
      = (declaredFirst declared tokens ++ (declaredNames tokens).map Prod.fst).filter (· ∉ names) := by
  induction tokens generalizing declared with
  | nil => cases declared <;> rfl
  | cons t rest ih =>
    rw [assignedNames_cons, List.forall_mem_append] at h
    rw [sightingsFrom, declaredNames_cons, List.filter_append, List.filter_append, ih h.2]
    refine congrArg (· ++ _) ?_
    -- a token that is assigned a literal is left out on both sides
    cases hassigns : assigns rest with
    | false => cases declared <;> rfl
    | true =>
      have hmem : t.text ∈ names := h.1 t.text (by simp [hassigns])
      cases declared <;> simp [declaredFirst, hmem]

/-- Away from the names with literals, a line is sighted in the order of its declarations. -/
theorem filter_sightings (tokens : List Token) :
    (sightings tokens).filter (· ∉ assignedNames tokens)
      = ((declaredNames tokens).map Prod.fst).filter (· ∉ assignedNames tokens) :=
  filter_sightingsFrom fun _ h => h

/-! ## Registering -/

theorem names_lineTypes (tokens : List Token) :
    (lineTypes tokens).names = newNames [] (registeredNames tokens) := by
  have hassigned : (ofEntries (literalTargets tokens)).names = newNames [] (assignedNames tokens) := by
    rw [names_ofEntries, newNames, List.filter_eq_self.mpr (fun name _ => by simp)]
    rfl
  rw [lineTypes, names_insertAllNew, hassigned, registeredNames, newNames_append]
  refine congrArg (newNames [] (assignedNames tokens) ++ ·) (newNames_congr (fun name => ?_) _)
  simp [mem_newNames]

theorem names_register (types : TypeTable) (tokens : List Token) :
    (register types tokens).names = types.names ++ newNames types.names (registeredNames tokens) := by
  have hline : (lineTypes tokens).entries.map Prod.fst = newNames [] (registeredNames tokens) :=
    names_lineTypes tokens
  rw [register, names_insertAllNew, hline, newNames_newNames (fun _ h => absurd h List.not_mem_nil)]

theorem names_foldl_register (types : TypeTable) (lines : List (List Token)) :
    (lines.foldl register types).names = types.names ++ newNames types.names (lines.flatMap registeredNames) := by
  induction lines generalizing types with
  | nil => exact (List.append_nil types.names).symm
  | cons tokens rest ih =>
    rw [List.foldl_cons, ih, names_register, List.flatMap_cons, newNames_append, List.append_assoc]
    refine congrArg (fun more => types.names ++ (newNames types.names (registeredNames tokens) ++ more))
      (newNames_congr (fun name => ?_) _)
    simp only [List.mem_append, mem_newNames]
    grind

/-- The body of a function: what stands behind the brace of its declaration, be it nothing, and the lines
below. -/
def functionBody : List Line → List Line
  | [] => []
  | first :: rest =>
    match Declaration.parse first with
    | .error _ => []
    | .ok declaration => declaration.tail.drop 1 :: rest

/-- The tokens, after the passes, of those lines of the body that are looked at. -/
def bodyTokens (dialect : Dialect) (lines : List Line) : List (List Token) :=
  (functionBody lines).filterMap (prepared? dialect)

theorem bodyTypes_infer (dialect : Dialect) (types : TypeTable) (line : Line) :
    bodyTypes dialect .infer types line = ([line].filterMap (prepared? dialect)).foldl register types := by
  cases hline : prepared? dialect line with
  | none => simp [bodyTypes, hline]
  | some tokens => simp [bodyTypes, hline]

theorem tailLine_table (dialect : Dialect) (types : TypeTable) (tail : Line) :
    (tailLine dialect .infer types tail).2
      = ([tail.drop 1].filterMap (prepared? dialect)).foldl register types := by
  match tail with
  -- an empty line goes through the passes and has no names
  | [] => cases dialect <;> rfl
  | [_] => cases dialect <;> rfl
  | _ :: second :: rest => exact bodyTypes_infer dialect types (second :: rest)

theorem bodyLines_table (dialect : Dialect) (types : TypeTable) (lines : List Line) :
    (bodyLines dialect .infer types lines).2
      = (lines.filterMap (prepared? dialect)).foldl register types := by
  induction lines generalizing types with
  | nil => rfl
  | cons line rest ih =>
    rw [← List.singleton_append, List.filterMap_append, List.foldl_append, ← bodyTypes_infer, ← ih]
    rfl

/-- A first reading registers the lines of the body one after the other, and does nothing else to the
table. -/
theorem table_of_generate {dialect : Dialect} {role : Role} {types after : TypeTable} {lines : List Line}
    {texts : List String} (h : generate dialect .infer role types lines = .ok (texts, after)) :
    after = (bodyTokens dialect lines).foldl register types := by
  cases lines with
  | nil => exact (Prod.mk.inj (Except.ok.inj h)).2.symm
  | cons first rest =>
    obtain ⟨declaration, head, hparse, -, -, -, rfl⟩ := generate_cons_eq_ok_iff.mp h
    rw [bodyLines_table, tailLine_table, ← List.foldl_append, ← List.filterMap_append]
    simp only [bodyTokens, functionBody, hparse, List.singleton_append]

/-- The names of a table after a first reading. -/
theorem mem_names_of_generate {dialect : Dialect} {role : Role} {types after : TypeTable} {lines : List Line}
    {texts : List String} (h : generate dialect .infer role types lines = .ok (texts, after)) {name : String} :
    name ∈ after.names ↔
      name ∈ types.names ∨ ∃ tokens ∈ bodyTokens dialect lines, name ∈ registeredNames tokens := by
  rw [table_of_generate h, names_foldl_register, List.mem_append, mem_newNames, List.mem_flatMap]
  by_cases hold : name ∈ types.names
  · simp [hold]
  · simp [hold]

/-! ## The order of a table -/

/-- Of the names that the line adds to those known, the ones with literals are sighted first. -/
def LiteralsFirst (known : List String) (tokens : List Token) : Prop :=
  newNames known (assignedNames tokens) <+: newNames known (sightings tokens)

theorem newNames_registeredNames_eq_iff {known : List String} {tokens : List Token} :
    newNames known (registeredNames tokens) = newNames known (sightings tokens) ↔ LiteralsFirst known tokens :=
  newNames_append_eq_iff (filter_sightings tokens)

/-- **In which order a table lists its names.** A first reading leaves the names that were in the table in
front, and puts behind them the new names of one line after the other: of each line first those that are
assigned an array literal, then those that are declared. This is the order in which someone who reads the
lines sights the names if and only if in every line, of the names that are new there, those with literals are
sighted first. -/
theorem locals_listed_literals_first {dialect : Dialect} {role : Role} {types after : TypeTable}
    {lines : List Line} {texts : List String}
    (h : generate dialect .infer role types lines = .ok (texts, after)) :
    after.names = types.names ++ newNames types.names ((bodyTokens dialect lines).flatMap registeredNames) ∧
      (after.names = types.names ++ newNames types.names ((bodyTokens dialect lines).flatMap sightings) ↔
        ∀ before tokens behind, bodyTokens dialect lines = before ++ tokens :: behind →
          LiteralsFirst (types.names ++ before.flatMap sightings) tokens) := by
  have hnames := names_foldl_register types (bodyTokens dialect lines)
  rw [← table_of_generate h] at hnames
  refine ⟨hnames, ?_⟩
  rw [hnames, List.append_right_inj, newNames_flatMap_eq_iff (fun _ _ => mem_sightings.symm)]
  simp only [newNames_registeredNames_eq_iff]

/-- On every line the literals come before what else is declared there. -/
def orderlyLines : List Line :=
  ["function f(a) \x7b let u = [a]; let i = id.x;", "let v = [1, 2]; w = [v]; let x = 1; const a = [x];",
    "let y = x; x = [3];", "\x7d"].map Line.split

theorem orderlyLines_listed :
    ∃ texts after,
      generate .current .infer (.helper none) ⟨[("a", .f32)]⟩ orderlyLines = .ok (texts, after) ∧
      after.names = ["a", "u", "i", "v", "w", "x", "y"] ∧
      after.names = ["a"] ++ newNames ["a"] ((bodyTokens .current orderlyLines).flatMap sightings) ∧
      ∀ before tokens behind, bodyTokens .current orderlyLines = before ++ tokens :: behind →
        LiteralsFirst (["a"] ++ before.flatMap sightings) tokens := by
  have hlisted : newNames ["a"] ((bodyTokens .current orderlyLines).flatMap registeredNames)
      = ["u", "i", "v", "w", "x", "y"] := by
    decide +kernel
  have hsighted : newNames ["a"] ((bodyTokens .current orderlyLines).flatMap sightings)
      = ["u", "i", "v", "w", "x", "y"] := by
    decide +kernel
  have hread : (generate .current .infer (.helper none) ⟨[("a", .f32)]⟩ orderlyLines).toOption.bind
      (fun _ => some ()) = some () := by decide +kernel
  obtain ⟨⟨texts, after⟩, hwritten, -⟩ := Check.exists_of_toOption hread
  obtain ⟨hnames, hiff⟩ := locals_listed_literals_first hwritten
  have hsame := hnames.trans (congrArg (["a"] ++ ·) (hlisted.trans hsighted.symm))
  exact ⟨texts, after, hwritten, hnames.trans (congrArg (["a"] ++ ·) hlisted), hsame, hiff.mp hsame⟩

/-- A literal overtakes what is declared in front of it on its line. -/
theorem literal_overtakes_declaration :
    ∃ texts after,
      generate .current .infer (.helper (some .f32)) ⟨[("a", .f32)]⟩
          (["function f(a) \x7b", "let x = 1; let v = [1, 2];", "\x7d"].map Line.split) = .ok (texts, after) ∧
      after.names = ["a", "v", "x"] ∧
      (bodyTokens .current
          (["function f(a) \x7b", "let x = 1; let v = [1, 2];", "\x7d"].map Line.split)).flatMap sightings
        = ["x", "v"] := by
  have hread : (generate .current .infer (.helper (some .f32)) ⟨[("a", .f32)]⟩
      (["function f(a) \x7b", "let x = 1; let v = [1, 2];", "\x7d"].map Line.split)).toOption.bind
        (fun written => some written.2.names) = some ["a", "v", "x"] := by decide +kernel
  obtain ⟨⟨texts, after⟩, hwritten, hnames⟩ := Check.exists_of_toOption hread
  refine ⟨texts, after, hwritten, Option.some.inj hnames, ?_⟩
  decide +kernel

end Generator

end KernelShader
