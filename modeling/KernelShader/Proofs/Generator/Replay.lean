/-
`Replay.lean` -- a replay with the table a first reading left behind writes the same lines.

A first reading writes line `k` under the table as it stands after line `k`, a replay writes every line
under the last table of all. That the two texts agree has two reasons, and both are about the table only
ever growing at its end. A name that has a type keeps it, so what the early table answers the late one
answers too (`NameTable.get?_mono`). And a line never asks for a name that the early table does not
have: whatever stands behind a keyword, at any position of the line, has been registered before the line
is written (`contains_register`), although writing goes through the line in other steps than registering
does.

A line can be written only if the types in it can. Which types these are follows from the table as the
text does, so a first reading that went through has shown of every line that a replay can write it
(`LineFits.mono`). Otherwise the texts are those of the plain passes `bodyLines` and `tailLine`, which
never fail, and what follows about the generator is about these.
-/
import KernelShader.Generator
import KernelShader.Proofs.NameTable
import KernelShader.Proofs.Outcome

set_option autoImplicit false

namespace KernelShader.Generator

open NameTable

/-! ## Registering a line -/

theorem prefix_register (types : TypeTable) (tokens : List Token) :
    types.entries <+: (register types tokens).entries :=
  prefix_insertAllNew types (lineTypes tokens).entries

/-- Every name that a keyword declares has a type once its line is registered. -/
theorem contains_register (types : TypeTable) {tokens : List Token} {name : String}
    (h : name ∈ (declaredNames tokens).map Prod.fst) :
    (register types tokens).contains name = true := by
  have hline : (lineTypes tokens).contains name = true := contains_insertAllNew h
  exact contains_insertAllNew (contains_iff_mem_names.mp hline)

/-! ## Writing a line -/

theorem declaredNames_cons_of_keyword {key name : Token} {word : String} (rest : List Token)
    (h : keyword? key = some word) :
    (declaredNames (key :: name :: rest)).map Prod.fst
      = name.text :: (declaredNames (name :: rest)).map Prod.fst := by
  simp only [declaredNames, h, List.map_cons, List.cons_append, List.nil_append]

theorem declaredNames_cons_of_none {key name : Token} (rest : List Token)
    (h : keyword? key = none) :
    declaredNames (key :: name :: rest) = declaredNames (name :: rest) := by
  simp only [declaredNames, h, List.nil_append]

/-- The names declared further on in a line are among those declared in it. -/
theorem mem_declaredNames_cons (key : Token) {tokens : List Token} {name : String}
    (h : name ∈ (declaredNames tokens).map Prod.fst) :
    name ∈ (declaredNames (key :: tokens)).map Prod.fst := by
  cases tokens with
  | nil => exact absurd h List.not_mem_nil
  | cons second rest =>
    cases hkey : keyword? key with
    | some word =>
      rw [declaredNames_cons_of_keyword rest hkey]
      exact List.mem_cons_of_mem _ h
    | none =>
      rw [declaredNames_cons_of_none rest hkey]
      exact h

/-- A line is written the same under two tables that agree on the names it declares. -/
theorem withTypes_congr {t u : TypeTable} (tokens : List Token)
    (h : ∀ name ∈ (declaredNames tokens).map Prod.fst, t.get? name = u.get? name) :
    withTypes t tokens = withTypes u tokens := by
  fun_induction withTypes t tokens with
  | case1 key name rest word hkey type htype ih =>
    have hname : t.get? name.text = u.get? name.text :=
      h _ (by rw [declaredNames_cons_of_keyword rest hkey]; exact List.mem_cons_self)
    have hrest : withTypes t rest = withTypes u rest :=
      ih fun n hn => h n (mem_declaredNames_cons key (mem_declaredNames_cons name hn))
    rw [hrest, withTypes, hkey]
    simp only [← hname, htype]
  | case2 key name rest word hkey hnone ih =>
    have hname : t.get? name.text = u.get? name.text :=
      h _ (by rw [declaredNames_cons_of_keyword rest hkey]; exact List.mem_cons_self)
    have hrest : withTypes t (name :: rest) = withTypes u (name :: rest) :=
      ih fun n hn => h n (mem_declaredNames_cons key hn)
    rw [hrest, withTypes, hkey]
    simp only [← hname, hnone]
  | case3 key name rest hkey ih =>
    have hrest : withTypes t (name :: rest) = withTypes u (name :: rest) :=
      ih fun n hn => h n (mem_declaredNames_cons key hn)
    rw [hrest, withTypes, hkey]
  | case4 t => rfl
  | case5 => rfl

/-- Once a line is registered, no later growth of the table changes how it is written. -/
theorem withTypes_mono {types u : TypeTable} {tokens : List Token}
    (h : (register types tokens).entries <+: u.entries) :
    withTypes u tokens = withTypes (register types tokens) tokens := by
  refine withTypes_congr tokens fun name hname => ?_
  obtain ⟨type, htype⟩ := Option.isSome_iff_exists.mp (contains_register types hname)
  rw [htype, get?_mono h htype]

/-- The names that a line is written with depend only on which of the names it declares have a type. -/
theorem typedNames_congr {t u : TypeTable} (tokens : List Token)
    (h : ∀ name ∈ (declaredNames tokens).map Prod.fst, t.contains name = u.contains name) :
    typedNames t tokens = typedNames u tokens := by
  fun_induction typedNames t tokens with
  | case1 key name rest htyped ih =>
    obtain ⟨word, hword⟩ := Option.isSome_iff_exists.mp (Bool.and_eq_true_iff.mp htyped).1
    have hname : t.contains name.text = u.contains name.text :=
      h _ (by rw [declaredNames_cons_of_keyword rest hword]; exact List.mem_cons_self)
    have hrest : typedNames t rest = typedNames u rest :=
      ih fun n hn => h n (mem_declaredNames_cons key (mem_declaredNames_cons name hn))
    rw [hrest, typedNames, ← hname, if_pos htyped]
  | case2 key name rest htyped ih =>
    have hrest : typedNames t (name :: rest) = typedNames u (name :: rest) :=
      ih fun n hn => h n (mem_declaredNames_cons key hn)
    rw [hrest]
    cases hkey : keyword? key with
    | none => rw [typedNames, hkey, Option.isSome_none, Bool.false_and, if_neg Bool.false_ne_true]
    | some word =>
      have hname : t.contains name.text = u.contains name.text :=
        h _ (by rw [declaredNames_cons_of_keyword rest hkey]; exact List.mem_cons_self)
      rw [typedNames, ← hname, if_neg htyped]
  | case3 tokens hshort =>
    cases tokens with
    | nil => rfl
    | cons key rest =>
      cases rest with
      | nil => rfl
      | cons name rest => exact absurd rfl (hshort key name rest)

/-- A name is written with a type only if it has one. -/
theorem contains_of_mem_typedNames {types : TypeTable} {tokens : List Token} {name : String}
    (h : name ∈ typedNames types tokens) : types.contains name = true := by
  fun_induction typedNames types tokens with
  | case1 key second rest htyped ih =>
    rcases List.mem_cons.mp h with rfl | hrest
    · exact (Bool.and_eq_true_iff.mp htyped).2
    · exact ih hrest
  | case2 key second rest htyped ih => exact ih h
  | case3 tokens hshort => exact absurd h List.not_mem_nil

theorem typedNames_mono {types u : TypeTable} {tokens : List Token}
    (h : (register types tokens).entries <+: u.entries) :
    typedNames u tokens = typedNames (register types tokens) tokens := by
  refine typedNames_congr tokens fun name hname => ?_
  have hcontains := contains_register types hname
  rw [hcontains, contains_mono h hcontains]

/-! ## Body lines -/

theorem bodyTypes_replay (dialect : Dialect) (types : TypeTable) (line : Line) :
    bodyTypes dialect .replay types line = types := rfl

theorem prefix_bodyTypes (dialect : Dialect) (phase : Phase) (types : TypeTable) (line : Line) :
    types.entries <+: (bodyTypes dialect phase types line).entries := by
  cases phase with
  | replay => exact List.prefix_rfl
  | infer =>
    cases hline : prepared? dialect line with
    | none =>
      simp only [bodyTypes, hline]
      exact List.prefix_rfl
    | some tokens =>
      simp only [bodyTypes, hline]
      exact prefix_register types tokens

/-- The text of a line is the same under every table that continues the one it was first written
under. -/
theorem bodyText_mono {dialect : Dialect} {types u : TypeTable} {line : Line}
    (h : (bodyTypes dialect .infer types line).entries <+: u.entries) :
    bodyText dialect u line = bodyText dialect (bodyTypes dialect .infer types line) line := by
  unfold bodyText
  split
  · rfl
  · cases hline : prepared? dialect line with
    | none => rfl
    | some tokens =>
      simp only [bodyTypes, hline] at h ⊢
      rw [withTypes_mono h]

theorem contains_of_mem_lineNames {dialect : Dialect} {types : TypeTable} {line : Line}
    {name : String} (h : name ∈ lineNames dialect types line) : types.contains name = true := by
  unfold lineNames at h
  cases hline : prepared? dialect line with
  | none =>
    rw [hline] at h
    exact absurd h List.not_mem_nil
  | some tokens =>
    rw [hline] at h
    exact contains_of_mem_typedNames h

/-- Every type in a body line can be written. -/
def LineFits (dialect : Dialect) (types : TypeTable) (line : Line) : Prop :=
  ∀ name ∈ lineNames dialect types line, ∃ text, parameterText types name = .ok text

/-- A body line that can be written is the plain one. -/
theorem writeLine_eq_ok_iff {dialect : Dialect} {phase : Phase} {types : TypeTable} {line : Line}
    {result : String × TypeTable} :
    writeLine dialect phase types line = .ok result ↔
      LineFits dialect (bodyTypes dialect phase types line) line ∧
        result = bodyLine dialect phase types line := by
  unfold writeLine
  constructor
  · intro h
    obtain ⟨texts, htexts, hpair⟩ := Check.bind_eq_ok_iff.mp h
    refine ⟨fun name hname => ?_, (Except.ok.inj hpair).symm⟩
    obtain ⟨text, -, htext⟩ := Check.exists_of_mapM_eq_ok htexts hname
    exact ⟨text, htext⟩
  · rintro ⟨hfits, rfl⟩
    obtain ⟨texts, htexts⟩ := Check.exists_mapM_eq_ok hfits
    exact Check.bind_eq_ok_iff.mpr ⟨texts, htexts, rfl⟩

theorem parameterText_mono {types u : TypeTable} (h : types.entries <+: u.entries)
    {name text : String} (htext : parameterText types name = .ok text) :
    parameterText u name = .ok text := by
  unfold parameterText at htext ⊢
  cases htype : types.get? name with
  | none =>
    rw [htype] at htext
    exact nomatch htext
  | some type =>
    rw [htype] at htext
    rw [get?_mono h htype]
    exact htext

/-- A line whose types could be written once they were registered can be written ever after. -/
theorem LineFits.mono {dialect : Dialect} {types u : TypeTable} {line : Line}
    (hfits : LineFits dialect (bodyTypes dialect .infer types line) line)
    (h : (bodyTypes dialect .infer types line).entries <+: u.entries) :
    LineFits dialect u line := by
  intro name hname
  simp only [LineFits, lineNames, bodyTypes] at hfits h hname
  cases hline : prepared? dialect line with
  | none =>
    rw [hline] at hname
    exact absurd hname List.not_mem_nil
  | some tokens =>
    simp only [hline, Option.elim_some] at hfits h hname
    rw [typedNames_mono h] at hname
    obtain ⟨text, htext⟩ := hfits name hname
    exact ⟨text, parameterText_mono h htext⟩

/-- The body lines of a function without asking whether their types can be written, the table going from
each to the next. -/
def bodyLines (dialect : Dialect) (phase : Phase) : TypeTable → List Line → List String × TypeTable
  | types, [] => ([], types)
  | types, line :: rest =>
    let (text, types) := bodyLine dialect phase types line
    let (texts, types) := bodyLines dialect phase types rest
    (text :: texts, types)

/-- Every type in the body lines can be written. -/
def LinesFit (dialect : Dialect) (phase : Phase) : TypeTable → List Line → Prop
  | _, [] => True
  | types, line :: rest =>
    LineFits dialect (bodyTypes dialect phase types line) line ∧
      LinesFit dialect phase (bodyTypes dialect phase types line) rest

/-- Body lines that can be written are the plain ones. -/
theorem writeLines_eq_ok_iff {dialect : Dialect} {phase : Phase} {types : TypeTable}
    {lines : List Line} {result : List String × TypeTable} :
    writeLines dialect phase types lines = .ok result ↔
      LinesFit dialect phase types lines ∧ result = bodyLines dialect phase types lines := by
  induction lines generalizing types result with
  | nil =>
    rw [writeLines, Except.ok.injEq, bodyLines, LinesFit, true_and, eq_comm]
  | cons line rest ih =>
    rw [writeLines, LinesFit]
    constructor
    · intro h
      obtain ⟨first, hfirst, hmore⟩ := Check.bind_eq_ok_iff.mp h
      obtain ⟨others, hothers, hpair⟩ := Check.bind_eq_ok_iff.mp hmore
      obtain ⟨hline, rfl⟩ := writeLine_eq_ok_iff.mp hfirst
      obtain ⟨hrest, rfl⟩ := ih.mp hothers
      exact ⟨⟨hline, hrest⟩, (Except.ok.inj hpair).symm⟩
    · rintro ⟨⟨hline, hrest⟩, rfl⟩
      refine Check.bind_eq_ok_iff.mpr ⟨_, writeLine_eq_ok_iff.mpr ⟨hline, rfl⟩, ?_⟩
      exact Check.bind_eq_ok_iff.mpr ⟨_, ih.mpr ⟨hrest, rfl⟩, rfl⟩

theorem prefix_bodyLines (dialect : Dialect) (phase : Phase) (types : TypeTable)
    (lines : List Line) : types.entries <+: (bodyLines dialect phase types lines).2.entries := by
  induction lines generalizing types with
  | nil => exact List.prefix_rfl
  | cons line rest ih => exact (prefix_bodyTypes dialect phase types line).trans (ih _)

theorem bodyLines_replay_table (dialect : Dialect) (types : TypeTable) (lines : List Line) :
    (bodyLines dialect .replay types lines).2 = types := by
  induction lines with
  | nil => rfl
  | cons line rest ih => exact ih

/-- The body of a function, written again under a table that continues the one left behind. -/
theorem bodyLines_replay {dialect : Dialect} {types u : TypeTable} {lines : List Line}
    (h : (bodyLines dialect .infer types lines).2.entries <+: u.entries) :
    bodyLines dialect .replay u lines = ((bodyLines dialect .infer types lines).1, u) := by
  induction lines generalizing types with
  | nil => rfl
  | cons line rest ih =>
    -- the table after this line is between `types` and the last one, so `u` continues it as well
    have hline : (bodyTypes dialect .infer types line).entries <+: u.entries :=
      (prefix_bodyLines dialect .infer _ rest).trans h
    have hrest : bodyLines dialect .replay u rest
        = ((bodyLines dialect .infer (bodyTypes dialect .infer types line) rest).1, u) := ih h
    simp only [bodyLines, bodyLine, bodyTypes_replay, hrest, bodyText_mono hline]

theorem LinesFit.mono {dialect : Dialect} {types u : TypeTable} {lines : List Line}
    (hfit : LinesFit dialect .infer types lines)
    (h : (bodyLines dialect .infer types lines).2.entries <+: u.entries) :
    LinesFit dialect .replay u lines := by
  induction lines generalizing types with
  | nil => exact trivial
  | cons line rest ih =>
    have hline : (bodyTypes dialect .infer types line).entries <+: u.entries :=
      (prefix_bodyLines dialect .infer _ rest).trans h
    exact ⟨hfit.1.mono hline, ih hfit.2 h⟩

/-! ## The declaration line -/

theorem mapM_parameterText_mono {types u : TypeTable} (h : types.entries <+: u.entries)
    {params texts : List String} (htexts : params.mapM (parameterText types) = .ok texts) :
    params.mapM (parameterText u) = .ok texts := by
  rw [Check.mapM_eq_ok_iff] at htexts ⊢
  exact htexts.imp fun _ _ hparam => parameterText_mono h hparam

theorem headText_mono {types u : TypeTable} (h : types.entries <+: u.entries) {role : Role}
    {declaration : Declaration} {head : String}
    (hhead : headText role types declaration = .ok head) :
    headText role u declaration = .ok head := by
  cases role with
  | helper returns =>
    obtain ⟨params, hparams, hrest⟩ := Check.bind_eq_ok_iff.mp hhead
    exact Check.bind_eq_ok_iff.mpr ⟨params, mapM_parameterText_mono h hparams, hrest⟩
  | entry invocations =>
    obtain ⟨size, hsize, hmore⟩ := Check.bind_eq_ok_iff.mp hhead
    obtain ⟨params, hparams, hrest⟩ := Check.bind_eq_ok_iff.mp hmore
    exact Check.bind_eq_ok_iff.mpr ⟨size, hsize,
      Check.bind_eq_ok_iff.mpr ⟨params, mapM_parameterText_mono h hparams, hrest⟩⟩

/-- What follows the head on the declaration line without asking whether its types can be written, and
the table it leaves. -/
def tailLine (dialect : Dialect) (phase : Phase) (types : TypeTable) : Line → String × TypeTable
  | [] => ("", types)
  | [_] => (" \x7b", types)
  | _ :: rest =>
    (braced (bodyLine dialect phase types rest).1, (bodyLine dialect phase types rest).2)

/-- The tail can be written: what stands behind the token after the parameters is a body line. -/
def TailFits (dialect : Dialect) (phase : Phase) (types : TypeTable) (tail : Line) : Prop :=
  LineFits dialect (tailLine dialect phase types tail).2 (tail.drop 1)

theorem lineNames_nil (dialect : Dialect) (types : TypeTable) : lineNames dialect types [] = [] := by
  cases dialect with
  | current => rfl
  | legacy => rfl

theorem lineFits_nil (dialect : Dialect) (types : TypeTable) : LineFits dialect types [] := by
  intro name hname
  rw [lineNames_nil] at hname
  exact absurd hname List.not_mem_nil

theorem writeTail_eq_ok_iff {dialect : Dialect} {phase : Phase} {types : TypeTable} {tail : Line}
    {result : String × TypeTable} :
    writeTail dialect phase types tail = .ok result ↔
      TailFits dialect phase types tail ∧ result = tailLine dialect phase types tail := by
  rcases tail with _ | ⟨token, _ | ⟨second, rest⟩⟩
  · have hfits : TailFits dialect phase types [] := lineFits_nil dialect types
    rw [writeTail, Except.ok.injEq, and_iff_right hfits, eq_comm, tailLine]
  · have hfits : TailFits dialect phase types [token] := lineFits_nil dialect types
    rw [writeTail, Except.ok.injEq, and_iff_right hfits, eq_comm, tailLine]
  · constructor
    · intro h
      obtain ⟨written, hwritten, hpair⟩ := Check.bind_eq_ok_iff.mp h
      obtain ⟨hfits, rfl⟩ := writeLine_eq_ok_iff.mp hwritten
      exact ⟨hfits, (Except.ok.inj hpair).symm⟩
    · rintro ⟨hfits, rfl⟩
      exact Check.bind_eq_ok_iff.mpr ⟨_, writeLine_eq_ok_iff.mpr ⟨hfits, rfl⟩, rfl⟩

/-- The declaration line is its head with the tail behind it. -/
theorem declarationLine_eq_ok_iff {dialect : Dialect} {phase : Phase} {role : Role}
    {types : TypeTable} {line : Line} {result : String × TypeTable} :
    declarationLine dialect phase role types line = .ok result ↔
      ∃ declaration head, Declaration.parse line = .ok declaration ∧
        headText role types declaration = .ok head ∧
        TailFits dialect phase types declaration.tail ∧
        result = (head ++ (tailLine dialect phase types declaration.tail).1,
          (tailLine dialect phase types declaration.tail).2) := by
  rw [declarationLine, Check.bind_eq_ok_iff]
  constructor
  · rintro ⟨declaration, hparse, hmore⟩
    obtain ⟨head, hhead, hrest⟩ := Check.bind_eq_ok_iff.mp hmore
    obtain ⟨tail, htail, hpair⟩ := Check.bind_eq_ok_iff.mp hrest
    obtain ⟨hfits, rfl⟩ := writeTail_eq_ok_iff.mp htail
    exact ⟨declaration, head, hparse, hhead, hfits, (Except.ok.inj hpair).symm⟩
  · rintro ⟨declaration, head, hparse, hhead, hfits, rfl⟩
    refine ⟨declaration, hparse, Check.bind_eq_ok_iff.mpr ⟨head, hhead, ?_⟩⟩
    exact Check.bind_eq_ok_iff.mpr ⟨_, writeTail_eq_ok_iff.mpr ⟨hfits, rfl⟩, rfl⟩

theorem prefix_tailLine (dialect : Dialect) (phase : Phase) (types : TypeTable) (tail : Line) :
    types.entries <+: (tailLine dialect phase types tail).2.entries := by
  match tail with
  | [] => exact List.prefix_rfl
  | [_] => exact List.prefix_rfl
  | _ :: second :: rest => exact prefix_bodyTypes dialect phase types (second :: rest)

theorem tailLine_replay {dialect : Dialect} {types u : TypeTable} {tail : Line}
    (h : (tailLine dialect .infer types tail).2.entries <+: u.entries) :
    tailLine dialect .replay u tail = ((tailLine dialect .infer types tail).1, u) := by
  match tail with
  | [] => rfl
  | [_] => rfl
  | _ :: second :: rest =>
    have hline : (bodyTypes dialect .infer types (second :: rest)).entries <+: u.entries := h
    simp only [tailLine, bodyLine, bodyTypes_replay, bodyText_mono hline]

theorem tailLine_replay_table (dialect : Dialect) (types : TypeTable) (tail : Line) :
    (tailLine dialect .replay types tail).2 = types := by
  match tail with
  | [] => rfl
  | [_] => rfl
  | _ :: _ :: _ => rfl

theorem TailFits.mono {dialect : Dialect} {types u : TypeTable} {tail : Line}
    (hfits : TailFits dialect .infer types tail)
    (h : (tailLine dialect .infer types tail).2.entries <+: u.entries) :
    TailFits dialect .replay u tail := by
  rcases tail with _ | ⟨token, _ | ⟨second, rest⟩⟩
  · exact lineFits_nil dialect u
  · exact lineFits_nil dialect u
  · exact LineFits.mono hfits h

/-! ## Whole functions -/

/-- How writing succeeds: declaration, head, tail and body, the table going through, and every type on
the way can be written. -/
theorem generate_cons_eq_ok_iff {dialect : Dialect} {phase : Phase} {role : Role}
    {types after : TypeTable} {first : Line} {rest : List Line} {texts : List String} :
    generate dialect phase role types (first :: rest) = .ok (texts, after) ↔
      ∃ declaration head, Declaration.parse first = .ok declaration ∧
        headText role types declaration = .ok head ∧
        (TailFits dialect phase types declaration.tail ∧
          LinesFit dialect phase (tailLine dialect phase types declaration.tail).2 rest) ∧
        texts = (head ++ (tailLine dialect phase types declaration.tail).1)
          :: (bodyLines dialect phase (tailLine dialect phase types declaration.tail).2 rest).1 ∧
        after = (bodyLines dialect phase (tailLine dialect phase types declaration.tail).2 rest).2 := by
  rw [generate, Check.bind_eq_ok_iff]
  constructor
  · rintro ⟨line, hline, hmore⟩
    obtain ⟨declaration, head, hparse, hhead, htail, rfl⟩ := declarationLine_eq_ok_iff.mp hline
    obtain ⟨body, hbody, hpair⟩ := Check.bind_eq_ok_iff.mp hmore
    obtain ⟨hlines, rfl⟩ := writeLines_eq_ok_iff.mp hbody
    have hparts := Prod.mk.inj (Except.ok.inj hpair)
    exact ⟨declaration, head, hparse, hhead, ⟨htail, hlines⟩, hparts.1.symm, hparts.2.symm⟩
  · rintro ⟨declaration, head, hparse, hhead, ⟨htail, hlines⟩, rfl, rfl⟩
    refine ⟨_, declarationLine_eq_ok_iff.mpr ⟨declaration, head, hparse, hhead, htail, rfl⟩, ?_⟩
    exact Check.bind_eq_ok_iff.mpr ⟨_, writeLines_eq_ok_iff.mpr ⟨hlines, rfl⟩, rfl⟩

theorem prefix_generate {dialect : Dialect} {phase : Phase} {role : Role}
    {types after : TypeTable} {lines : List Line} {texts : List String}
    (h : generate dialect phase role types lines = .ok (texts, after)) :
    types.entries <+: after.entries := by
  cases lines with
  | nil =>
    have hafter : types = after := (Prod.mk.inj (Except.ok.inj h)).2
    exact hafter ▸ List.prefix_rfl
  | cons first rest =>
    obtain ⟨declaration, head, -, -, -, -, rfl⟩ := generate_cons_eq_ok_iff.mp h
    exact (prefix_tailLine dialect phase types declaration.tail).trans
      (prefix_bodyLines dialect phase _ rest)

/-- **A replay repeats the first reading.** Under the table that a first reading leaves, or any that
continues it, a replay succeeds with the same lines and leaves the table alone. -/
theorem generate_replay {dialect : Dialect} {role : Role} {types after u : TypeTable}
    {lines : List Line} {texts : List String}
    (h : generate dialect .infer role types lines = .ok (texts, after))
    (hu : after.entries <+: u.entries) :
    generate dialect .replay role u lines = .ok (texts, u) := by
  cases lines with
  | nil =>
    have htexts : [] = texts := (Prod.mk.inj (Except.ok.inj h)).1
    rw [← htexts]
    rfl
  | cons first rest =>
    obtain ⟨declaration, head, hparse, hhead, ⟨htailFits, hlinesFit⟩, rfl, rfl⟩ :=
      generate_cons_eq_ok_iff.mp h
    have htail := (prefix_bodyLines dialect .infer _ rest).trans hu
    have htypes := (prefix_tailLine dialect .infer types declaration.tail).trans htail
    refine generate_cons_eq_ok_iff.mpr ⟨declaration, head, hparse, headText_mono htypes hhead,
      ⟨htailFits.mono htail, ?_⟩, ?_, ?_⟩
    · rw [tailLine_replay htail]
      exact hlinesFit.mono hu
    · rw [tailLine_replay htail, bodyLines_replay hu]
    · rw [tailLine_replay htail, bodyLines_replay_table]

end KernelShader.Generator
