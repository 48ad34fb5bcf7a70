/-
`Agreement.lean` -- everything that places the inputs places them alike.

The inputs are gone through four times: for the declarations in the shader, for the layouts, for the bind
groups, and once more when a dispatch sets these. Each of them is written on its own, and only if all four
come to the same division of the inputs does the shader find under a declaration the buffer that belongs
there. Groups may be given in any order and with gaps, so a place in a list of layouts is not a place in
the order of registration.

What holds the four together is that binding numbers are never used twice (`Registered`), so that a number
belongs to one input and to one group. On a device that answers every call, all steps go through.
-/
import Mathlib.Data.List.Nodup
import Mathlib.Data.List.Zip
import KernelShader.Proofs.Rig.Header

set_option autoImplicit false

namespace KernelShader

namespace Rig

/-! ## How the inputs are divided -/

/-- The binding numbers of the inputs of a group. -/
def bindingsIn (r : Rig) (group : Nat) : List Nat := (r.groupInputs group).map Input.binding

theorem mem_bindingsIn {r : Rig} {group binding : Nat} :
    binding ∈ r.bindingsIn group ↔
      ∃ i ∈ r.inputs.values, i.group = group ∧ i.binding = binding := by
  unfold bindingsIn groupInputs
  rw [List.mem_map]
  constructor
  · rintro ⟨i, hi, hbinding⟩
    obtain ⟨hmem, hgroup⟩ := List.mem_filter.mp hi
    exact ⟨i, hmem, eq_of_beq hgroup, hbinding⟩
  · rintro ⟨i, hmem, hgroup, hbinding⟩
    exact ⟨i, List.mem_filter.mpr ⟨hmem, beq_iff_eq.mpr hgroup⟩, hbinding⟩

theorem topGroup_eq_max? (r : Rig) : r.topGroup = (r.inputs.values.map Input.group).max?.getD 0 := by
  unfold topGroup
  rw [← List.foldl_map (f := Input.group) (g := max), List.foldl_max, Nat.zero_max]

theorem group_le_topGroup {r : Rig} {i : Input} (h : i ∈ r.inputs.values) : i.group ≤ r.topGroup := by
  rw [topGroup_eq_max?]
  exact List.le_max?_getD_of_mem (List.mem_map_of_mem h)

/-- An input is in its own group once and in no other. -/
theorem Registered.count_bindingsIn {r : Rig} (h : Registered r) {i : Input}
    (hi : i ∈ r.inputs.values) (group : Nat) :
    (r.bindingsIn group).count i.binding = if i.group = group then 1 else 0 := by
  have hall : (r.inputs.values.map Input.binding).Nodup := by
    rw [h.bindings]
    exact List.nodup_range
  have hnodup : (r.bindingsIn group).Nodup := hall.sublist (List.filter_sublist.map Input.binding)
  -- a number in the list of another group would belong to a second input
  have hmem : i.binding ∈ r.bindingsIn group ↔ i.group = group := by
    rw [mem_bindingsIn]
    constructor
    · rintro ⟨j, hj, hgroup, hbinding⟩
      rw [← List.inj_on_of_nodup_map hall hj hi hbinding]
      exact hgroup
    · intro hgroup
      exact ⟨i, hi, hgroup, rfl⟩
  rw [hnodup.count]
  by_cases hgroup : i.group = group
  · rw [if_pos hgroup, if_pos (hmem.mpr hgroup)]
  · rw [if_neg hgroup, if_neg (fun hin => hgroup (hmem.mp hin))]

/-- The declarations are at the places of the inputs and no others. -/
theorem exists_declares_iff {r : Rig} {group binding : Nat} :
    (∃ line ∈ r.inputs.values.map Input.declaration, Declares line group binding) ↔
      binding ∈ r.bindingsIn group := by
  rw [mem_bindingsIn]
  constructor
  · rintro ⟨line, hline, hdeclares⟩
    obtain ⟨i, hi, rfl⟩ := List.mem_map.mp hline
    obtain ⟨hgroup, hbinding⟩ := hdeclares.unique ⟨i.name, i.element.word, rfl⟩
    exact ⟨i, hi, hgroup.symm, hbinding.symm⟩
  · rintro ⟨i, hi, rfl, rfl⟩
    exact ⟨_, List.mem_map_of_mem hi, i.name, i.element.word, rfl⟩

/-- The lists of binding numbers divide the inputs as their declarations do: a list for every group up to
the greatest, each input in the list of its own group once and in no other, and nothing else in them. There
are declarations if the places can be written. -/
structure Divides (r : Rig) (lists : List (List Nat)) : Prop where
  length : lists.length = (r.inputs.values.map Input.group).max?.getD 0 + 1
  once : ∀ i ∈ r.inputs.values, ∀ group bindings, lists[group]? = some bindings →
    bindings.count i.binding = if i.group = group then 1 else 0
  covered : ∀ i ∈ r.inputs.values, i.group < lists.length
  declared : r.Declarable → ∃ lines, r.header = .ok lines ∧
    ∀ group binding, (∃ line ∈ lines, Declares line group binding) ↔
      ∃ bindings, lists[group]? = some bindings ∧ binding ∈ bindings

theorem getElem?_groups_map {r : Rig} {β : Type} (f : Nat → β) {group : Nat} {b : β} :
    (r.groups.map f)[group]? = some b ↔ group ≤ r.topGroup ∧ f group = b := by
  unfold groups
  rw [List.getElem?_map, Option.map_eq_some_iff]
  constructor
  · rintro ⟨group', hget, rfl⟩
    obtain ⟨hlt, rfl⟩ := List.getElem?_eq_some_iff.mp hget
    rw [List.length_range] at hlt
    rw [List.getElem_range]
    exact ⟨Nat.lt_succ_iff.mp hlt, rfl⟩
  · rintro ⟨hle, hb⟩
    exact ⟨group, List.getElem?_range (Nat.lt_succ_iff.mpr hle), hb⟩

theorem Registered.divides {r : Rig} (h : Registered r) :
    r.Divides (r.groups.map r.bindingsIn) := by
  have hlength : (r.groups.map r.bindingsIn).length = r.topGroup + 1 := by
    rw [List.length_map, groups, List.length_range]
  refine ⟨?_, ?_, ?_, ?_⟩
  · rw [hlength, topGroup_eq_max?]
  · intro i hi group bindings hget
    obtain ⟨-, rfl⟩ := (getElem?_groups_map _).mp hget
    exact h.count_bindingsIn hi group
  · intro i hi
    rw [hlength]
    exact Nat.lt_succ_iff.mpr (group_le_topGroup hi)
  · intro hplaces
    refine ⟨_, hplaces.header, fun group binding => ?_⟩
    rw [exists_declares_iff]
    constructor
    · intro hmem
      obtain ⟨i, hi, rfl, -⟩ := mem_bindingsIn.mp hmem
      exact ⟨_, (getElem?_groups_map _).mpr ⟨group_le_topGroup hi, rfl⟩, hmem⟩
    · rintro ⟨bindings, hget, hmem⟩
      obtain ⟨-, rfl⟩ := (getElem?_groups_map _).mp hget
      exact hmem

/-! ## Layouts and bind groups -/

/-- From the one rig to the other, the device has been asked for these objects in turn and for nothing
else. -/
def MadeInTurn (r r' : Rig) {kind : ObjectKind} (objects : List (Ref kind)) : Prop :=
  ∃ calls, r'.trace = r.trace ++ calls ∧
    List.Forall₂ (fun object call => r'.Made object call) objects calls

/-- The layout has the binding numbers as its entries. -/
def Lists (r : Rig) (handle : Ref .layout) (bindings : List Nat) : Prop :=
  ∃ label, r.Made handle (.createLayout label bindings)

/-- The input has a buffer of its size that was made for it, unless it has been given back. -/
def Owns (r : Rig) (i : Input) : Prop :=
  ∀ buffer, i.buffer = some buffer → r.Made buffer (.createBuffer i.name i.size inputUsage)

/-- The bind group was made under the layout, and at the binding numbers in turn it has the inputs with
these numbers: the input's own buffer, on record from offset zero and with its full size. -/
def Binds (r : Rig) (group : Ref .group) (handle : Ref .layout) (bindings : List Nat) : Prop :=
  ∃ label entries shown, r.Made group (.createGroup label handle entries) ∧
    (Call.createGroup label handle entries).fields = [.text label, .ref handle, .list shown] ∧
    entries.map GroupEntry.binding = bindings ∧
    List.Forall₂ (fun entry field => ∃ i ∈ r.inputs.values, r.Owns i ∧
      entry = ⟨i.binding, i.buffer, i.size⟩ ∧
      field = .list [.number i.binding, .ref? i.buffer, .number 0, .number i.size]) entries shown

theorem madeInTurn_of_forall₂ {γ : Type} {kind : ObjectKind} {r r' : Rig} {l : List γ}
    {call : γ → Call} {objects : List (Ref kind)} (htrace : r'.trace = r.trace ++ l.map call)
    (h : List.Forall₂ (fun c object => r'.Made object (call c)) l objects) :
    r.MadeInTurn r' objects :=
  ⟨l.map call, htrace, List.forall₂_map_right_iff.mpr h.flip⟩

theorem Laid.lists {r : Rig} {handles : List (Ref .layout)} (h : r.Laid handles) :
    List.Forall₂ r.Lists handles (r.groups.map r.bindingsIn) := by
  rw [List.forall₂_map_right_iff]
  exact h.flip.imp fun handle group hmade => ⟨_, hmade⟩

/-- A bind group has the inputs of its group, in the order of their binding numbers in the layout. -/
theorem Registered.binds_of_made {r : Rig} (h : Registered r) {place : Nat} {group : Ref .group}
    {handle : Ref .layout} (hmade : r.Made group (r.groupCall place handle)) :
    r.Binds group handle (r.bindingsIn place) := by
  refine ⟨_, _, _, hmade, rfl, ?_, ?_⟩
  · rw [List.map_map]
    rfl
  · rw [List.map_map, List.forall₂_map_left_iff, List.forall₂_map_right_iff, List.forall₂_same]
    intro i hi
    have hmem : i ∈ r.inputs.values := (List.mem_filter.mp hi).1
    exact ⟨i, hmem, h.owned i hmem, rfl, rfl⟩

theorem Registered.binds_of_bound {r : Rig} (h : Registered r) {handles : List (Ref .layout)}
    {groups : List (Ref .group)} (hbound : r.Bound handles groups) :
    List.Forall₂ (fun group place => r.Binds group place.1 place.2) groups
      (handles.zip (r.groups.map r.bindingsIn)) := by
  have hzip : handles.zip (r.groups.map r.bindingsIn)
      = (r.groups.zip handles).map fun place => (place.2, r.bindingsIn place.1) := by
    rw [List.zip_map_right, ← List.zip_swap, List.map_map]
    rfl
  rw [hzip, List.forall₂_map_right_iff]
  exact hbound.flip.imp fun group place hmade => h.binds_of_made hmade

/-! ## A device that answers -/

/-- There is a device, and none of the calls that may come is going to fail. -/
def Willing (r : Rig) : Prop := ∃ d, r.device = some d ∧ d.Willing

theorem Willing.continues {r r' : Rig} (h : r.Willing) (hcontinues : Continues r r') :
    r'.Willing := by
  obtain ⟨d, hd, hwilling⟩ := h
  obtain ⟨d', hd', hextends⟩ := hcontinues.device hd
  exact ⟨d', hd', hextends.willing hwilling⟩

theorem Willing.onDevice {r : Rig} (h : r.Willing) {α : Type} {m : DeviceM α}
    (hm : Device.Conversation m) : SucceedsFrom Continues r (onDevice m) := by
  intro r₁ hcontinues
  obtain ⟨d, hd, hwilling⟩ := h.continues hcontinues
  obtain ⟨a, d', hcall⟩ := hm.succeeds d hwilling
  rw [outcome_onDevice_of_some hd, hcall]
  exact ⟨a, _, rfl⟩

theorem Willing.buildLayout {r : Rig} (h : r.Willing) : SucceedsFrom Continues r buildLayout := by
  refine .get_bind fun r₁ _ => ?_
  refine (SucceedsFrom.mapM continues_createLayout fun group _ => ?_).bind
    (Keeps.mapM continues_createLayout _) fun _ => .pure _
  exact .get_bind fun r₂ _ => h.onDevice (Device.makes_createLayout _ _).toConversation

theorem Willing.buildGroups {r : Rig} (h : r.Willing) {layout : Layout}
    (hfits : layout.signature = r.signature) :
    SucceedsFrom Continues r (buildGroups layout) := by
  intro r₁ hcontinues
  rw [outcome_buildGroups, hcontinues.signature_eq, if_pos hfits]
  refine SucceedsFrom.mapM continues_createGroup (fun place _ => ?_) r₁ hcontinues
  exact .get_bind fun r₂ _ => h.onDevice (Device.makes_createGroup _ _ _).toConversation

theorem Willing.encodeCopy {r : Rig} (h : r.Willing) (encoder : Ref .encoder) {o : Output}
    (hlink : r.inputs.contains o.link = true) :
    SucceedsFrom Continues r (encodeCopy encoder o) := by
  refine .get_bind fun r₁ hcontinues => ?_
  obtain ⟨source, hsource⟩ := Option.isSome_iff_exists.mp hlink
  have hinput : r₁.input o.link = .ok source := by rw [input, hcontinues.inputs, hsource]
  exact .liftExcept_bind hinput (h.onDevice (Device.speaks_copy _ _ _ _).toConversation)

/-- A dispatch with counts that are in order goes through. -/
theorem Willing.execute {r : Rig} (h : r.Willing) (hregistered : Registered r) (artifact : Artifact)
    (groups : List (Ref .group)) {counts : Value} {ns : List Nat}
    (hcounts : Workgroup.counts counts = .ok ns) :
    SucceedsFrom Continues r (execute artifact groups counts) := by
  refine .liftExcept_bind hcounts (.get_bind fun r₁ hcontinues => ?_)
  refine (h.onDevice (Device.makes_createEncoder _).toConversation).bind
    (continues_onDevice (Device.makes_createEncoder _).grows) fun encoder => ?_
  refine (h.onDevice (conversation_encodePass _ _ _ _ _)).bind
    (continues_onDevice (conversation_encodePass _ _ _ _ _).grows) fun _ => ?_
  refine SucceedsFrom.bind ?_ (Keeps.forM (continues_encodeCopy encoder) _) fun _ => ?_
  · refine SucceedsFrom.forM (continues_encodeCopy encoder) fun o ho => ?_
    rw [hcontinues.outputs] at ho
    exact h.encodeCopy encoder (hregistered.linked o ho)
  · refine (h.onDevice (Device.makes_finish _).toConversation).bind
      (continues_onDevice (Device.makes_finish _).grows) fun commands => ?_
    refine (h.onDevice (Device.speaks_submit _).toConversation).bind
      (continues_onDevice (Device.speaks_submit _).grows) fun _ => ?_
    exact .of_ok (f := fun r => (_, _)) fun _ => rfl

end Rig

/-! ## Bind groups that are set -/

/-- The index and the bind group of a call that sets one. -/
def Call.groupSet? : Call → Option (Nat × Ref .group)
  | .setGroup _ index group => some (index, group)
  | _ => none

/-- The index and the bind group of a step that sets one. -/
def PassStep.groupSet? : PassStep → Option (Nat × Ref .group)
  | .group index bound => some (index, bound)
  | _ => none

theorem Call.groupSet?_eq (call : Call) : call.groupSet? = call.passStep?.bind PassStep.groupSet? := by
  cases call <;> rfl

namespace Rig

theorem filterMap_passSteps (pipeline : Ref .pipeline) (groups : List (Ref .group))
    (counts : List Nat) :
    (passSteps pipeline groups counts).filterMap PassStep.groupSet?
      = (List.range groups.length).zip groups := by
  have hsets : ∀ places : List (Ref .group × Nat),
      (places.map fun place => PassStep.group place.2 place.1).filterMap PassStep.groupSet?
        = places.map Prod.swap := by
    intro places
    rw [List.filterMap_map]
    exact congrFun List.filterMap_eq_map places
  unfold passSteps
  rw [List.filterMap_append, List.filterMap_append, hsets, List.zipIdx_eq_zip_range',
    List.zip_swap, List.range_eq_range']
  exact List.append_nil _

/-- A dispatch sets the bind groups it is given, each at its place, and no others. -/
theorem execute_sets {artifact : Artifact} {groups : List (Ref .group)} {counts : Value} {r r' : Rig}
    {u : Unit} (h : outcome (execute artifact groups counts) r = (.ok u, r')) :
    ∃ calls, r'.trace = r.trace ++ calls ∧
      calls.filterMap Call.groupSet? = (List.range groups.length).zip groups := by
  obtain ⟨ns, calls, -, htrace, hsteps⟩ := execute_eq_ok h
  refine ⟨calls, htrace, ?_⟩
  have hview : calls.filterMap Call.groupSet?
      = (calls.filterMap Call.passStep?).filterMap PassStep.groupSet? := by
    rw [List.filterMap_filterMap]
    exact congrArg (List.filterMap · calls) (funext Call.groupSet?_eq)
  rw [hview, hsteps, filterMap_passSteps]

/-! ## Agreement -/

theorem Continues.bindingsIn_eq {r r' : Rig} (h : Continues r r') : r'.bindingsIn = r.bindingsIn := by
  funext group
  rw [bindingsIn, h.groupInputs_eq, bindingsIn]

/-- **Header, layouts, bind groups and dispatch agree.** On a device that answers every call, building the
layouts gives one for every group up to the greatest; their entries divide the inputs as the header
declares them. Whatever is done with the device in between, building the bind groups then gives one under
every layout, with the inputs at its entries, and a dispatch with them sets each at the index of its
group. -/
theorem header_layouts_groups_agree {r : Rig} (hreachable : Reachable r) (hwilling : r.Willing) :
    ∃ layout lists r₁, outcome buildLayout r = (.ok layout, r₁) ∧
      r.MadeInTurn r₁ layout.handles ∧ List.Forall₂ r₁.Lists layout.handles lists ∧
      r.Divides lists ∧
      ∀ r₁', Continues r₁ r₁' → ∃ groups r₂, outcome (buildGroups layout) r₁' = (.ok groups, r₂) ∧
        r₁'.MadeInTurn r₂ groups ∧ groups.length = layout.handles.length ∧
        List.Forall₂ (fun group place => r₂.Binds group place.1 place.2) groups
          (layout.handles.zip lists) ∧
        ∀ r₂', Continues r₂ r₂' → ∀ artifact counts ns, Workgroup.counts counts = .ok ns →
          ∃ calls r₃, outcome (execute artifact groups counts) r₂' = (.ok (), r₃) ∧
            r₃.trace = r₂'.trace ++ calls ∧
            calls.filterMap Call.groupSet? = (List.range layout.handles.length).zip groups := by
  have hregistered := hreachable.registered
  obtain ⟨layout, r₁, hlayout⟩ := hwilling.buildLayout r (refl_of Continues r)
  obtain ⟨hsignature, hlaid, htrace⟩ := buildLayout_eq_ok hlayout
  have hgone₁ : Continues r r₁ := continues_buildLayout.of_outcome_eq hlayout
  have hlists := hlaid.lists
  rw [hgone₁.groups_eq, hgone₁.bindingsIn_eq] at hlists
  refine ⟨layout, r.groups.map r.bindingsIn, r₁, hlayout, madeInTurn_of_forall₂ htrace hlaid, hlists,
    hregistered.divides, ?_⟩
  -- everything is said of `r`: whatever came in between has left its inputs alone
  intro r₁' hstep₁
  have hgone₁' : Continues r r₁' := trans_of Continues hgone₁ hstep₁
  obtain ⟨groups, r₂, hgroups⟩ := hwilling.buildGroups hsignature r₁' hgone₁'
  obtain ⟨-, hbound, htrace'⟩ := buildGroups_eq_ok hgroups
  have hgone₂ : Continues r r₂ :=
    trans_of Continues hgone₁' ((continues_buildGroups layout).of_outcome_eq hgroups)
  have hbinds := (hregistered.persists hgone₂.persists).binds_of_bound hbound
  rw [hgone₂.groups_eq, hgone₂.bindingsIn_eq] at hbinds
  have hlength : groups.length = layout.handles.length := by
    rw [hbinds.length_eq, List.length_zip, ← hlists.length_eq, Nat.min_self]
  refine ⟨groups, r₂, hgroups, madeInTurn_of_forall₂ htrace' hbound, hlength, hbinds, ?_⟩
  intro r₂' hstep₂ artifact counts ns hcounts
  have hgone₂' : Continues r r₂' := trans_of Continues hgone₂ hstep₂
  obtain ⟨u, r₃, hexecute⟩ := hwilling.execute hregistered artifact groups hcounts r₂' hgone₂'
  obtain ⟨calls, htrace₃, hsets⟩ := execute_sets hexecute
  rw [hlength] at hsets
  exact ⟨calls, r₃, hexecute, htrace₃, hsets⟩

/-- Three inputs in the groups 2, 0 and 2, so that group 1 is empty, and an output. -/
def gappedRig : Rig :=
  let data := Value.words [7]
  let first := (outcome (registerInput "a" data (.int 2)) { device := some {} }).2
  let second := (outcome (registerInput "b" data (.int 0)) first).2
  let third := (outcome (registerInput "c" data (.int 2)) second).2
  (outcome (registerOutput "d" "c" data) third).2

theorem gappedRig_agrees :
    ∃ layout lists r₁ groups r₂, outcome buildLayout gappedRig = (.ok layout, r₁) ∧
      lists.length = 3 ∧ List.Forall₂ r₁.Lists layout.handles lists ∧ gappedRig.Divides lists ∧
      gappedRig.Declarable ∧
      outcome (buildGroups layout) r₁ = (.ok groups, r₂) ∧ groups.length = 3 ∧
      ∀ artifact, ∃ calls r₃, outcome (execute artifact groups (.int 1)) r₂ = (.ok (), r₃) ∧
        r₃.trace = r₂.trace ++ calls ∧
        calls.filterMap Call.groupSet? = [0, 1, 2].zip groups := by
  have hreachable : Reachable gappedRig :=
    .registerOutput _ _ _ (.registerInput _ _ _ (.registerInput _ _ _ (.registerInput _ _ _
      (.fresh (some {}) libraryName []))))
  have hwilling : gappedRig.Willing := ⟨_, rfl, fun _ _ => rfl⟩
  have hgreatest : (gappedRig.inputs.values.map Input.group).max?.getD 0 = 2 := by decide +kernel
  obtain ⟨layout, lists, r₁, hlayout, -, hlists, hdivides, hmore⟩ :=
    header_layouts_groups_agree hreachable hwilling
  have hlength : lists.length = 3 := by rw [hdivides.length, hgreatest]
  have hhandles : layout.handles.length = 3 := hlists.length_eq.trans hlength
  obtain ⟨groups, r₂, hgroups, -, hcount, -, hexecute⟩ := hmore r₁ (refl_of Continues r₁)
  refine ⟨layout, lists, r₁, groups, r₂, hlayout, hlength, hlists, hdivides, by decide +kernel, hgroups,
    hcount.trans hhandles, ?_⟩
  intro artifact
  have hcounts : Workgroup.counts (.int 1) = .ok [1] := rfl
  have hsets := hexecute r₂ (refl_of Continues r₂) artifact (.int 1) [1] hcounts
  rwa [hhandles] at hsets

end Rig

end KernelShader
