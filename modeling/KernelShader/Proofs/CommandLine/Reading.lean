/-
`Reading.lean` -- what becomes of the functions of a source.

The functions of a source go into a session one after the other. What one of them becomes there does not
depend on those before it: it can be read by itself (`readFunction`), and all that the session adds is that
no name comes twice. So they all go in exactly if each of them can be read and their names are distinct
(`addAll_succeeds_iff`), and then the session shows their texts, the helpers in order and the entry point
last.
-/
import KernelShader.Proofs.CommandLine.Emission
import KernelShader.Proofs.Session.Acceptance

set_option autoImplicit false

namespace KernelShader

/-! ## Sessions by their functions -/

/-- The shader of functions that have been read: helpers in order, the entry point last. -/
def ShaderSource.ofParts (header : List String) (parts : List (Transcript × String)) : ShaderSource where
  header := header
  functions := (parts.filter (!·.1.isEntry)).map Prod.snd
  entryPoint := (parts.find? (·.1.isEntry)).map Prod.snd

theorem ShaderSource.ofParts_ne_nil (header : List String) {parts : List (Transcript × String)}
    (h : parts ≠ []) :
    (ofParts header parts).functions ++ (ofParts header parts).entryPoint.toList ≠ [] := by
  obtain ⟨p, rest, rfl⟩ := List.exists_cons_of_ne_nil h
  unfold ofParts
  cases hentry : p.1.isEntry with
  | false => simp [hentry]
  | true => simp [hentry]

namespace Session

/-- The functions of the session, in order, each with its text. -/
structure Holds (t : Session) (parts : List (Transcript × String)) : Prop where
  store : t.store.entries = parts.map fun p => (p.1.name, p.1)
  bodies : t.bodies.entries = parts.map fun p => (p.1.name, p.2)
  nodup : (parts.map (·.1.name)).Nodup

theorem holds_fresh (config : Config) (device : Option Device) : (fresh config device).Holds [] where
  store := rfl
  bodies := rfl
  nodup := List.nodup_nil

variable {t : Session} {parts : List (Transcript × String)}

theorem Holds.names_store (h : t.Holds parts) : t.store.names = parts.map (·.1.name) := by
  rw [NameTable.names, h.store, List.map_map]
  rfl

theorem Holds.names_bodies (h : t.Holds parts) : t.bodies.names = parts.map (·.1.name) := by
  rw [NameTable.names, h.bodies, List.map_map]
  rfl

theorem Holds.values (h : t.Holds parts) : t.store.values = parts.map Prod.fst := by
  rw [NameTable.values, h.store, List.map_map]
  rfl

/-- A function that is recorded comes last. -/
theorem Holds.recorded (h : t.Holds parts) {p : Transcript × String} {store : Store}
    (hrecord : t.store.record p.1 = .ok store) :
    (t.recorded store p.1.name p.2).Holds (parts ++ [p]) := by
  obtain ⟨hnew, -, hentries⟩ := Store.record_eq_ok hrecord
  have hnewBody : p.1.name ∉ t.bodies.names := by
    rw [h.names_bodies, ← h.names_store]
    exact hnew
  refine ⟨?_, ?_, ?_⟩
  · change store.entries = _
    rw [hentries, h.store, List.map_append]
    rfl
  · change (t.bodies.insert p.1.name p.2).entries = _
    rw [NameTable.entries_insert_of_not_mem p.2 hnewBody, h.bodies, List.map_append]
    rfl
  · rw [h.names_store] at hnew
    rw [List.map_append]
    refine List.Nodup.append h.nodup (List.nodup_singleton _) ?_
    intro name hname hlast
    rw [List.map_singleton, List.mem_singleton] at hlast
    exact hnew (hlast ▸ hname)

/-- **The shader of a session by its functions.** -/
theorem Holds.shaderText (h : t.Holds parts) {header : List String} (hheader : t.rig.header = .ok header) :
    t.shaderText = .ok (ShaderSource.ofParts header parts).text := by
  -- no name comes twice, so the text under the name of a function is its own
  have hbody : ∀ p ∈ parts, Store.bodyOf t.bodies p.1.name = .ok p.2 := by
    intro p hp
    have hentry : (p.1.name, p.2) ∈ t.bodies.entries := by
      rw [h.bodies]
      exact List.mem_map.mpr ⟨p, hp, rfl⟩
    rw [Store.bodyOf, NameTable.get?_of_mem_entries (h.names_bodies ▸ h.nodup) hentry]
  have houtline : t.store.outline = parts.map fun p => (p.1.name, p.1.isEntry) := by
    rw [Store.outline, h.values, List.map_map]
    rfl
  have hfunctions : ((t.store.outline.filter (!·.2)).map Prod.fst).mapM (Store.bodyOf t.bodies)
      = .ok ((parts.filter (!·.1.isEntry)).map Prod.snd) := by
    rw [houtline, List.filter_map, List.map_map, Check.mapM_eq_ok_iff, List.forall₂_map_left_iff,
      List.forall₂_map_right_iff]
    exact List.forall₂_same.mpr fun p hp => hbody p (List.mem_of_mem_filter hp)
  have hentry : ((t.store.outline.find? (·.2)).map Prod.fst).mapM (Store.bodyOf t.bodies)
      = .ok ((parts.find? (·.1.isEntry)).map Prod.snd) := by
    rw [houtline, List.find?_map, Option.map_map]
    change ((parts.find? (·.1.isEntry)).map _).mapM _ = _
    cases hfind : parts.find? (·.1.isEntry) with
    | none => rfl
    | some p =>
      have hp := hbody p (List.mem_of_find?_eq_some hfind)
      simp only [Option.map_some, Option.mapM_some, Function.comp_apply, hp]
      rfl
  have hsource : t.source = .ok (.ofParts header parts) := by
    rw [Session.source, hheader]
    change t.store.assemble header t.bodies = _
    rw [Store.assemble_eq, hfunctions, hentry]
    rfl
  rw [Session.shaderText, hsource]
  rfl

theorem add_eq_ok_iff {source : String} {declared arguments : Value} {kind : FunctionKind}
    {workgroup : List Int} {t' : Session} {body : String} :
    outcome (add source declared arguments kind workgroup) t = (.ok body, t') ↔
      ∃ f store, read t.config.dialect source declared arguments kind workgroup = .ok (f, body) ∧
        t.store.record f = .ok store ∧ t' = t.recorded store f.name body := by
  constructor
  · intro h
    rcases add_cases source declared arguments kind workgroup t with
      ⟨fault, -, hout⟩ | ⟨f, body', store, hread, hrecord, hout⟩
    · rw [hout] at h
      exact nomatch h
    · rw [hout, Prod.mk.injEq, Except.ok.injEq] at h
      obtain ⟨rfl, rfl⟩ := h
      exact ⟨f, store, hread, hrecord, rfl⟩
  · rintro ⟨f, store, hread, hrecord, rfl⟩
    rw [outcome_add, hread]
    simp only [hrecord]

theorem addFunction_eq_ok_iff {source : String} {returns declared arguments : Value} {t' : Session}
    {body : String} :
    outcome (addFunction source returns declared arguments) t = (.ok body, t') ↔
      ∃ type f store, ShaderType.ofValue returns = .ok type ∧
        read t.config.dialect source declared arguments (.helper (some type)) [1, 1, 1]
          = .ok (f, body) ∧
        t.store.record f = .ok store ∧ t' = t.recorded store f.name body := by
  unfold addFunction
  rw [Outcome.liftExcept_bind]
  cases ShaderType.ofValue returns with
  | error fault => simp
  | ok type => simp [add_eq_ok_iff]

/-- That there is no entry point yet is asked for twice, before the function is read and when it is
recorded. -/
theorem addEntryPoint_eq_ok_iff {source : String} {size declared : Value} {t' : Session}
    {body : String} :
    outcome (addEntryPoint source size declared) t = (.ok body, t') ↔
      ∃ w f store, Workgroup.size size = .ok w ∧
        read t.config.dialect source declared .none .entry (w.toList.map Int.ofNat) = .ok (f, body) ∧
        t.store.record f = .ok store ∧ t' = t.recorded store f.name body := by
  unfold addEntryPoint
  rw [Outcome.get_bind]
  cases hentry : t.store.entry? with
  | some entry =>
    simp only [Outcome.throw_eq, Prod.mk.injEq, reduceCtorEq, false_and, false_iff]
    rintro ⟨w, f, store, -, hread, hrecord, -⟩
    have hfirst : f.isEntry = true := by
      rw [Transcript.isEntry, (acceptable_of_read hread).2]
      rfl
    have hnone := (Store.record_eq_ok hrecord).2.1 hfirst
    exact absurd (hentry.symm.trans hnone) (Option.some_ne_none entry)
  | none =>
    simp only [Outcome.liftExcept_bind]
    cases Workgroup.size size with
    | error fault => simp
    | ok w => simp [add_eq_ok_iff]

end Session

namespace CommandLine

variable {s : Settings} {main : String}

/-! ## One function -/

/-- Reads one function by itself: as the entry point if it has its name, else as a helper with the types
that are set. -/
def readFunction (s : Settings) (main text : String) : Except Fault (Transcript × String) := do
  let declaration ← declarationOf text
  if declaration.name = main then
    let size ← Workgroup.size (.tuple (s.workgroup.map .int))
    Session.read (sessionConfig s).dialect text .none .none .entry (size.toList.map Int.ofNat)
  else
    let returns ← ShaderType.ofValue (typeValue s.returnType)
    let types := declaration.params.map fun _ => typeValue s.paramType
    Session.read (sessionConfig s).dialect text (.list types) .none (.helper (some returns)) [1, 1, 1]

theorem readFunction_eq_ok_iff {text : String} {p : Transcript × String} :
    readFunction s main text = .ok p ↔
      ∃ declaration, declarationOf text = .ok declaration ∧
        ((declaration.name = main ∧
          ∃ size, Workgroup.size (.tuple (s.workgroup.map .int)) = .ok size ∧
            Session.read (sessionConfig s).dialect text .none .none .entry
              (size.toList.map Int.ofNat) = .ok p) ∨
        (declaration.name ≠ main ∧
          ∃ returns, ShaderType.ofValue (typeValue s.returnType) = .ok returns ∧
            Session.read (sessionConfig s).dialect text
              (.list (declaration.params.map fun _ => typeValue s.paramType)) .none
              (.helper (some returns)) [1, 1, 1] = .ok p)) := by
  unfold readFunction
  rw [Check.bind_eq_ok_iff]
  refine exists_congr fun declaration => and_congr_right fun _ => ?_
  by_cases hmain : declaration.name = main
  · rw [if_pos hmain, Check.bind_eq_ok_iff]
    simp [hmain]
  · rw [if_neg hmain, Check.bind_eq_ok_iff]
    simp [hmain]

/-- A function with lines has its declaration on the first of them. -/
theorem declarationOf_eq {text : String} (h : Source.tokenLines text ≠ []) :
    declarationOf text = Declaration.parse ((Source.tokenLines text).headD []) := by
  obtain ⟨first, rest, hlines⟩ := List.exists_cons_of_ne_nil h
  rw [declarationOf, hlines, List.headD_cons]

/-- The entry point is known by its name. -/
theorem isEntry_iff_of_readFunction {text : String} {p : Transcript × String}
    (h : readFunction s main text = .ok p) : p.1.isEntry = true ↔ p.1.name = main := by
  obtain ⟨declaration, hdeclaration, hcases⟩ := readFunction_eq_ok_iff.mp h
  have hlines : Source.tokenLines text ≠ [] := by
    intro hnil
    rw [declarationOf, hnil] at hdeclaration
    exact nomatch hdeclaration
  -- reading looks at the same line of the text
  have hname : ∀ {declared : Value} {kind : FunctionKind} {workgroup : List Int},
      Session.read (sessionConfig s).dialect text declared .none kind workgroup = .ok p →
      p.1.name = declaration.name ∧ p.1.kind = kind := by
    intro declared kind workgroup hread
    obtain ⟨⟨-, declaration', -, hparse, hname, -⟩, hkind⟩ := Session.acceptable_of_read hread
    rw [← declarationOf_eq hlines] at hparse
    rw [Except.ok.inj (hdeclaration.symm.trans hparse)]
    exact ⟨hname.symm, hkind⟩
  rcases hcases with ⟨hmain, size, -, hread⟩ | ⟨hmain, returns, -, hread⟩
  · obtain ⟨hp, hkind⟩ := hname hread
    rw [Transcript.isEntry, hkind, hp]
    exact iff_of_true rfl hmain
  · obtain ⟨hp, hkind⟩ := hname hread
    rw [Transcript.isEntry, hkind, hp]
    exact iff_of_false Bool.false_ne_true hmain

/-- **One function.** It goes into a session exactly if it can be read and recorded there. -/
theorem addOne_eq_ok_iff {text : String} {t t' : Session} {u : Unit}
    (hconfig : t.config = sessionConfig s) :
    outcome (addOne s main text) t = (.ok u, t') ↔
      ∃ p store, readFunction s main text = .ok p ∧ t.store.record p.1 = .ok store ∧
        t' = t.recorded store p.1.name p.2 := by
  -- the text that a function gives is dropped here; it stays in the session
  have hbody : ∀ m : SessionM String, outcome (m >>= fun _ => pure ()) t = (.ok u, t') ↔
      ∃ body, outcome m t = (.ok body, t') := by
    intro m
    rw [Outcome.bind_eq_ok_iff]
    simp
  simp only [readFunction_eq_ok_iff]
  unfold addOne
  rw [Outcome.liftExcept_bind]
  cases declarationOf text with
  | error fault => simp
  | ok declaration =>
    by_cases hmain : declaration.name = main
    · simp only [if_pos hmain]
      rw [hbody]
      simp only [Session.addEntryPoint_eq_ok_iff, hconfig]
      constructor
      · rintro ⟨body, w, f, store, hsize, hread, hrecord, ht'⟩
        exact ⟨(f, body), store, ⟨declaration, rfl, .inl ⟨hmain, w, hsize, hread⟩⟩, hrecord, ht'⟩
      · rintro ⟨⟨f, body⟩, store, ⟨_, ⟨⟩, ⟨-, w, hsize, hread⟩ | ⟨hnot, -⟩⟩, hrecord, ht'⟩
        · exact ⟨body, w, f, store, hsize, hread, hrecord, ht'⟩
        · exact absurd hmain hnot
    · simp only [if_neg hmain]
      rw [hbody]
      simp only [Session.addFunction_eq_ok_iff, hconfig]
      constructor
      · rintro ⟨body, type, f, store, htype, hread, hrecord, ht'⟩
        exact ⟨(f, body), store, ⟨declaration, rfl, .inr ⟨hmain, type, htype, hread⟩⟩, hrecord, ht'⟩
      · rintro ⟨⟨f, body⟩, store, ⟨_, ⟨⟩, ⟨hyes, -⟩ | ⟨-, type, htype, hread⟩⟩, hrecord, ht'⟩
        · exact absurd hyes hmain
        · exact ⟨body, type, f, store, htype, hread, hrecord, ht'⟩

/-! ## All functions -/

/-- What has gone into a session has been read, and comes after what it held. -/
theorem exists_of_addAll {functions : List String} {t t' : Session} {u : PUnit}
    {before : List (Transcript × String)} (hconfig : t.config = sessionConfig s)
    (hholds : t.Holds before) (h : outcome (addAll s main functions) t = (.ok u, t')) :
    ∃ parts, functions.mapM (readFunction s main) = .ok parts ∧ t'.Holds (before ++ parts) := by
  induction functions generalizing t before with
  | nil =>
    rw [addAll, Outcome.forM_nil, Prod.mk.injEq] at h
    refine ⟨[], rfl, ?_⟩
    rw [← h.2, List.append_nil]
    exact hholds
  | cons text rest ih =>
    rw [addAll, Outcome.forM_cons] at h
    obtain ⟨_, t₁, hfirst, hrest⟩ := Outcome.bind_eq_ok_iff.mp h
    obtain ⟨p, store, hp, hrecord, rfl⟩ := (addOne_eq_ok_iff hconfig).mp hfirst
    obtain ⟨parts, hparts, ht'⟩ :=
      ih (t := t.recorded store p.1.name p.2) hconfig (hholds.recorded hrecord) hrest
    rw [Check.mapM_eq_ok_iff] at hparts
    refine ⟨p :: parts, Check.mapM_eq_ok_iff.mpr (.cons hp hparts), ?_⟩
    rw [List.append_cons]
    exact ht'

/-- What can be read goes into a session unless a name comes twice. The entry points in the session are
known by their name too, so a second one would come twice. -/
theorem exists_addAll {functions : List String} {t : Session}
    {before parts : List (Transcript × String)} (hconfig : t.config = sessionConfig s)
    (hholds : t.Holds before) (hentry : ∀ p ∈ before, p.1.isEntry = true → p.1.name = main)
    (hparts : functions.mapM (readFunction s main) = .ok parts)
    (hnodup : ((before ++ parts).map (·.1.name)).Nodup) :
    ∃ t', outcome (addAll s main functions) t = (.ok ⟨⟩, t') := by
  induction functions generalizing t before parts with
  | nil => exact ⟨t, Outcome.forM_nil _ _⟩
  | cons text rest ih =>
    obtain ⟨p, ps, hp, hps, rfl⟩ := List.forall₂_cons_left_iff.mp (Check.mapM_eq_ok_iff.mp hparts)
    have hnew : p.1.name ∉ before.map (·.1.name) := by
      intro hmem
      rw [List.map_append, List.map_cons] at hnodup
      exact List.disjoint_of_nodup_append hnodup hmem List.mem_cons_self
    -- an entry point that is there already would have the same name
    have hfirst : p.1.isEntry = true → t.store.entry? = none := by
      intro hisEntry
      by_contra hsome
      obtain ⟨e, he⟩ := Option.ne_none_iff_exists'.mp hsome
      have hmem := List.mem_of_find?_eq_some he
      rw [hholds.values] at hmem
      obtain ⟨q, hq, rfl⟩ := List.mem_map.mp hmem
      have hname : q.1.name = p.1.name := by
        rw [hentry q hq (List.find?_some he), (isEntry_iff_of_readFunction hp).mp hisEntry]
      exact hnew (List.mem_map.mpr ⟨q, hq, hname⟩)
    obtain ⟨store, hrecord⟩ := Store.exists_record (hholds.names_store ▸ hnew) hfirst
    have hone := (addOne_eq_ok_iff (u := ()) hconfig).mpr ⟨p, store, hp, hrecord, rfl⟩
    rw [List.append_cons] at hnodup
    have hentry' : ∀ q ∈ before ++ [p], q.1.isEntry = true → q.1.name = main := by
      intro q hq
      rcases List.mem_append.mp hq with hq | hq
      · exact hentry q hq
      · rw [List.mem_singleton.mp hq]
        exact (isEntry_iff_of_readFunction hp).mp
    obtain ⟨t', ht'⟩ := ih (t := t.recorded store p.1.name p.2) hconfig (hholds.recorded hrecord) hentry'
      (Check.mapM_eq_ok_iff.mpr hps) hnodup
    refine ⟨t', ?_⟩
    rw [addAll, Outcome.forM_cons, Outcome.bind_of_ok hone]
    exact ht'

/-- **All functions.** They go into a new session exactly if each of them can be read and no name comes
twice. -/
theorem addAll_succeeds_iff (s : Settings) (main : String) (functions : List String) :
    (∃ t, outcome (addAll s main functions) (Session.fresh (sessionConfig s) none) = (.ok ⟨⟩, t)) ↔
      ∃ parts, functions.mapM (readFunction s main) = .ok parts ∧ (parts.map (·.1.name)).Nodup := by
  have hfresh := Session.holds_fresh (sessionConfig s) none
  constructor
  · rintro ⟨t, hadd⟩
    obtain ⟨parts, hparts, ht⟩ := exists_of_addAll rfl hfresh hadd
    exact ⟨parts, hparts, ht.nodup⟩
  · rintro ⟨parts, hparts, hnodup⟩
    exact exists_addAll rfl hfresh (fun p hp => absurd hp List.not_mem_nil) hparts hnodup

/-- **The shader that is printed.** With at least one function it has the declarations of the inputs, if
they can be written, the helpers in order and the entry point last. -/
theorem emitShader_of_parts {functions : List String} {parts : List (Transcript × String)}
    (hsome : functions ≠ []) (hparts : functions.mapM (readFunction s main) = .ok parts)
    (hnodup : (parts.map (·.1.name)).Nodup) {inputs : List NamedArray} {header : List String}
    (hheader : inputHeader inputs = .ok header) :
    (emitShader s main functions inputs).fault = none ∧
      (emitShader s main functions inputs).out = (ShaderSource.ofParts header parts).text := by
  obtain ⟨t, hadd⟩ := (addAll_succeeds_iff s main functions).mpr ⟨parts, hparts, hnodup⟩
  obtain ⟨parts', hparts', hholds⟩ :=
    exists_of_addAll rfl (Session.holds_fresh (sessionConfig s) none) hadd
  obtain rfl : parts' = parts := Except.ok.inj (hparts'.symm.trans hparts)
  have hbare : t.rig.header = .ok [] :=
    ((onlyLogs_addAll s main functions).of_outcome_eq hadd).header.trans rfl
  have htext := hholds.shaderText hbare
  rw [List.nil_append] at htext
  have hne : parts' ≠ [] := by
    rintro rfl
    have hlength := (Check.mapM_eq_ok_iff.mp hparts).length_eq
    exact hsome (List.eq_nil_of_length_eq_zero hlength)
  have hjoined : (ShaderSource.ofParts header parts').text
      = "\n".intercalate (header ++ [(ShaderSource.ofParts [] parts').text]) :=
    ShaderSource.text_eq_of_ne_nil (ShaderSource.ofParts_ne_nil _ hne)
  rw [emitShader_eq hadd hheader htext, hjoined]
  exact ⟨rfl, rfl⟩

/-- A shader that is not printed is one with a fault: the first one of the functions, or else one of the
declarations. -/
theorem emitShader_of_error {functions : List String} (inputs : List NamedArray) {fault : Fault}
    (h : (outcome (addAll s main functions) (Session.fresh (sessionConfig s) none)).1 = .error fault ∨
      (outcome (addAll s main functions) (Session.fresh (sessionConfig s) none)).1.isOk = true ∧
        inputHeader inputs = .error fault) :
    (emitShader s main functions inputs).fault = some fault ∧
      (emitShader s main functions inputs).out = "" := by
  rcases hadd : outcome (addAll s main functions) (Session.fresh (sessionConfig s) none) with ⟨x, t⟩
  rw [hadd] at h
  have hshow : outcome (showShader s main functions inputs) (Session.fresh (sessionConfig s) none)
      = (.error fault, t) := by
    rcases h with rfl | ⟨hok, hheader⟩
    · exact Outcome.bind_of_error hadd _
    · cases x with
      | error _ => exact absurd hok Bool.false_ne_true
      | ok _ => rw [showShader, Outcome.bind_of_ok hadd, Outcome.liftExcept_bind, hheader]
  rw [emitShader_of_showShader hshow]
  exact ⟨rfl, rfl⟩

end CommandLine

end KernelShader
