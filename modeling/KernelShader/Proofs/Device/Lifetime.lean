/-
`Lifetime.lean` -- where the buffers of a device are, from the call that makes one to the call that gives
it back.

Of the buffers that have been made since some moment, each is at one place: its owner still has it, the
device has got it back, or the data that was to be put into it first was refused. That is one permutation
(`Ledger.settled`), which says as well that no buffer is given back twice and that none is forgotten. Its
companion is about order: once a buffer has been given back, no later call reaches it (`Ledger.apart`). A
call reaches the buffers it names, those in the bind groups it names, and those that the commands it
submits work on.

What a call can do to the ledger is said once for any stretch of calls (`Ledger.advance`). Calls that
leave lifetimes alone and reach only what the owner has do nothing to it (`Minds`); making a buffer,
writing to it and giving it back are the three calls that move an entry.
-/
import Mathlib.Data.List.Nodup
import KernelShader.Proofs.Device.Commands

set_option autoImplicit false

namespace KernelShader

variable {α : Type}

/-- The buffer that a call has given back. The flag says whether the call went through. -/
def Call.gone? : Call × Bool → Option (Ref .buffer)
  | (.destroy buffer, true) => some buffer
  | _ => none

/-- The buffer that a call was to put data into when the device failed. -/
def Call.unfilled? : Call × Bool → Option (Ref .buffer)
  | (.writeBuffer buffer _ _, false) => some buffer
  | _ => none

/-- The call has made a buffer. -/
def Call.makesBuffer (c : Call × Bool) : Bool := c.2 && c.1.makes == some .buffer

/-- The call makes no buffer, puts no data into one and gives none back. -/
def Call.sparesBuffers : Call → Bool
  | .createBuffer .. | .writeBuffer .. | .destroy _ => false
  | _ => true

theorem Call.gone?_of_spares {call : Call} (h : call.sparesBuffers = true) (ok : Bool) :
    Call.gone? (call, ok) = none := by
  cases call with
  | destroy buffer => simp [sparesBuffers] at h
  | _ => rfl

theorem Call.unfilled?_of_spares {call : Call} (h : call.sparesBuffers = true) (ok : Bool) :
    Call.unfilled? (call, ok) = none := by
  cases call with
  | writeBuffer buffer offset data => simp [sparesBuffers] at h
  | _ => rfl

theorem Call.makes_of_spares {call : Call} (h : call.sparesBuffers = true) :
    call.makes ≠ some .buffer := by
  cases call with
  | createBuffer label size usage => simp [sparesBuffers] at h
  | _ => simp [makes]

namespace Device

/-! ## Calls and how they went -/

/-- The calls, each with whether it went through, after the calls made before them. -/
def answered (failures : Failures) : (before calls : List Call) → List (Call × Bool)
  | _, [] => []
  | before, call :: calls =>
    (call, (failures before call).isNone) :: answered failures (before ++ [call]) calls

theorem answered_append (failures : Failures) (before calls more : List Call) :
    answered failures before (calls ++ more)
      = answered failures before calls ++ answered failures (before ++ calls) more := by
  induction calls generalizing before with
  | nil => simp [answered]
  | cons call rest ih => simp [answered, ih]

theorem map_fst_answered (failures : Failures) (before calls : List Call) :
    (answered failures before calls).map Prod.fst = calls := by
  induction calls generalizing before with
  | nil => rfl
  | cons call rest ih => rw [answered, List.map_cons, ih]

theorem passed_sublist (failures : Failures) (before calls : List Call) :
    (passed failures before calls).Sublist calls := by
  induction calls generalizing before with
  | nil => exact List.Sublist.refl []
  | cons call rest ih =>
    rw [passed]
    by_cases h : (failures before call).isNone = true
    · rw [if_pos h]
      exact (ih _).cons_cons call
    · rw [if_neg h]
      exact (ih _).cons call

theorem countP_answered (failures : Failures) (before calls : List Call) :
    (answered failures before calls).countP Call.makesBuffer
      = (making failures .buffer before calls).length := by
  induction calls generalizing before with
  | nil => rfl
  | cons call rest ih =>
    rw [making, answered, passed, List.countP_cons, ih, making]
    by_cases h : (failures before call).isNone = true
    · by_cases hmakes : call.makes = some .buffer
      · simp [h, hmakes, Call.makesBuffer]
      · simp [h, hmakes, Call.makesBuffer]
    · simp [h, Call.makesBuffer]

/-- The calls that have been made since, each with whether it went through. -/
def callsSince (d d' : Device) : List (Call × Bool) :=
  answered d.failures d.trace (d'.trace.drop d.trace.length)

theorem callsSince_of_trace {d d' : Device} {calls : List Call} (h : d'.trace = d.trace ++ calls) :
    d.callsSince d' = answered d.failures d.trace calls := by
  rw [callsSince, h, List.drop_left]

theorem callsSince_self (d : Device) : d.callsSince d = [] := by
  rw [callsSince_of_trace (List.append_nil _).symm, answered]

theorem callsSince_trans {d d₁ d₂ : Device} (h : Extends d d₁) (h' : Extends d₁ d₂) :
    d.callsSince d₂ = d.callsSince d₁ ++ d₁.callsSince d₂ := by
  obtain ⟨calls, htrace, -⟩ := h.calls
  obtain ⟨more, htrace', -⟩ := h'.calls
  have hall : d₂.trace = d.trace ++ (calls ++ more) := by
    rw [htrace', htrace, List.append_assoc]
  rw [callsSince_of_trace hall, callsSince_of_trace htrace, callsSince_of_trace htrace',
    answered_append, h.failures, htrace]

theorem callsSince_of_recorded {d d' : Device} {call : Call} (h : d'.trace = d.trace ++ [call]) :
    d.callsSince d' = [(call, (d.failures d.trace call).isNone)] := by
  rw [callsSince_of_trace h, answered, answered]

/-! ## Buffers made, given back and left without data -/

/-- The buffers that the device has got back since. -/
def destroyedSince (d d' : Device) : List (Ref .buffer) := (d.callsSince d').filterMap Call.gone?

/-- The buffers that have been refused their data since. -/
def unfilledSince (d d' : Device) : List (Ref .buffer) := (d.callsSince d').filterMap Call.unfilled?

/-- The buffers that have been made since. -/
def madeSince (d d' : Device) : List (Ref .buffer) :=
  (List.range' d.memory.length (d'.memory.length - d.memory.length)).map Ref.mk

theorem nodup_madeSince (d d' : Device) : (d.madeSince d').Nodup := by
  rw [madeSince, List.nodup_map_iff]
  · exact List.nodup_range'
  · intro i j hij
    exact Ref.mk.inj hij

theorem madeSince_self (d : Device) : d.madeSince d = [] := by simp [madeSince]

theorem madeSince_trans {d d₁ d₂ : Device} (h : d.memory.length ≤ d₁.memory.length)
    (h' : d₁.memory.length ≤ d₂.memory.length) :
    d.madeSince d₂ = d.madeSince d₁ ++ d₁.madeSince d₂ := by
  have hsum : d₂.memory.length - d.memory.length
      = (d₁.memory.length - d.memory.length) + (d₂.memory.length - d₁.memory.length) := by omega
  have hstart : d.memory.length + (d₁.memory.length - d.memory.length) = d₁.memory.length := by omega
  rw [madeSince, hsum, ← List.range'_append_1, hstart, List.map_append]
  rfl

/-- There is one buffer for every call that asked for one and went through. -/
theorem Extends.length_madeSince {d d' : Device} (h : Extends d d') :
    (d.madeSince d').length = (d.callsSince d').countP Call.makesBuffer := by
  obtain ⟨calls, htrace, htally⟩ := h.calls
  have hlength : d'.memory.length
      = d.memory.length + (making d.failures .buffer d.trace calls).length := htally .buffer
  rw [callsSince_of_trace htrace, countP_answered, madeSince, List.length_map, List.length_range']
  omega

/-- Calls that make no buffer leave their number as it is. -/
theorem Extends.madeSince_eq_nil {d d' : Device} (h : Extends d d')
    (hcalls : ∀ c ∈ d.callsSince d', c.1.makes ≠ some .buffer) : d.madeSince d' = [] := by
  obtain ⟨calls, htrace, htally⟩ := h.calls
  have hmaking : making d.failures .buffer d.trace calls = [] := by
    refine List.filter_eq_nil_iff.mpr fun call hcall => ?_
    have hmem : call ∈ (d.callsSince d').map Prod.fst := by
      rw [callsSince_of_trace htrace, map_fst_answered]
      exact (passed_sublist _ _ _).mem hcall
    obtain ⟨c, hc, rfl⟩ := List.mem_map.mp hmem
    simpa using hcalls c hc
  have hsame : d'.memory.length = d.memory.length := by
    have hbuffers := htally .buffer
    rwa [hmaking] at hbuffers
  rw [madeSince, hsame, Nat.sub_self]
  rfl

/-! ## What a call reaches -/

/-- The buffers in a bind group, told from the call that made it. -/
def groupBuffers (d : Device) (group : Ref .group) : List (Ref .buffer) :=
  match d.maker group with
  | some (.createGroup _ _ entries) => entries.filterMap GroupEntry.buffer
  | _ => []

/-- The buffers that a command works on. -/
def commandBuffers (d : Device) : Command → List (Ref .buffer)
  | .compute groups _ => groups.flatMap d.groupBuffers
  | .copy source target _ => source.toList ++ target.toList

/-- The buffers that a call names, those in the bind group that it sets, and those that the commands it
submits work on. -/
def reached (d : Device) : Call → List (Ref .buffer)
  | .writeBuffer buffer _ _ | .map _ buffer | .readMapped buffer | .unmap buffer | .destroy buffer =>
    [buffer]
  | .createGroup _ _ entries => entries.filterMap GroupEntry.buffer
  | .setGroup _ _ group => d.groupBuffers group
  | .copy _ source target _ => source.toList ++ target.toList
  | .submit lists =>
    lists.flatMap fun list => (d.commands.getD list.index []).flatMap d.commandBuffers
  | _ => []

/-- The call reaches the buffer, now or when more is on record. -/
def Reaches (d : Device) (call : Call) (buffer : Ref .buffer) : Prop :=
  ∃ d', Progress d d' ∧ buffer ∈ d'.reached call

theorem Reaches.of_mem {d : Device} {call : Call} {buffer : Ref .buffer}
    (h : buffer ∈ d.reached call) : d.Reaches call buffer := ⟨d, refl_of Progress d, h⟩

theorem Reaches.of_progress {d d' : Device} {call : Call} {buffer : Ref .buffer}
    (h : d'.Reaches call buffer) (hprogress : Progress d d') : d.Reaches call buffer := by
  obtain ⟨d'', hprogress', hmem⟩ := h
  exact ⟨d'', trans_of Progress hprogress hprogress', hmem⟩

/-- What a call names does not depend on the device. -/
theorem Reaches.mem_of_named {d : Device} {call : Call} {buffer : Ref .buffer}
    {named : List (Ref .buffer)} (hnamed : ∀ d : Device, d.reached call = named)
    (h : d.Reaches call buffer) : buffer ∈ named := by
  obtain ⟨d', -, hmem⟩ := h
  rwa [hnamed] at hmem

/-- The bind group was made of buffers among these. -/
def Binds (d : Device) (held : List (Ref .buffer)) (group : Ref .group) : Prop :=
  ∃ label layout entries, d.maker group = some (.createGroup label layout entries) ∧
    ∀ buffer ∈ entries.filterMap GroupEntry.buffer, buffer ∈ held

theorem Binds.extends {d d' : Device} {held : List (Ref .buffer)} {group : Ref .group}
    (h : d.Binds held group) (hextends : Extends d d') : d'.Binds held group := by
  obtain ⟨label, layout, entries, hmaker, hentries⟩ := h
  exact ⟨label, layout, entries, hextends.maker_eq hmaker, hentries⟩

theorem Binds.mem {d : Device} {held : List (Ref .buffer)} {group : Ref .group}
    (h : d.Binds held group) {buffer : Ref .buffer} (hmem : buffer ∈ d.groupBuffers group) :
    buffer ∈ held := by
  obtain ⟨label, layout, entries, hmaker, hentries⟩ := h
  rw [groupBuffers, hmaker] at hmem
  exact hentries buffer hmem

theorem Binds.mem_of_setGroup {d : Device} {held : List (Ref .buffer)} {group : Ref .group}
    (h : d.Binds held group) {pass : Ref .pass} {index : Nat} {buffer : Ref .buffer}
    (hreaches : d.Reaches (.setGroup pass index group) buffer) : buffer ∈ held := by
  obtain ⟨d', hprogress, hmem⟩ := hreaches
  exact (h.extends hprogress.toExtends).mem hmem

/-- The buffers that a submission reaches are fixed once its commands have been collected. -/
theorem mem_of_submit {d : Device} {held : List (Ref .buffer)} {list : Ref .commands}
    {commands : List Command} (hlist : d.commands[list.index]? = some commands)
    (hcommands : ∀ d', Progress d d' → ∀ command ∈ commands, ∀ buffer ∈ d'.commandBuffers command,
      buffer ∈ held)
    {buffer : Ref .buffer} (h : d.Reaches (.submit [list]) buffer) : buffer ∈ held := by
  obtain ⟨d', hprogress, hmem⟩ := h
  rw [reached, List.flatMap_singleton, List.getD_eq_getElem?_getD,
    getElem?_of_prefix hprogress.commands hlist, Option.getD_some] at hmem
  obtain ⟨command, hcommand, hbuffer⟩ := List.mem_flatMap.mp hmem
  exact hcommands d' hprogress command hcommand buffer hbuffer

/-! ## The ledger -/

/-- Every buffer made since the start is at one place, and those given back are not reached again. -/
structure Ledger (start d : Device) (held : List (Ref .buffer)) : Prop where
  progress : Progress start d
  settled : (held ++ (start.destroyedSince d ++ start.unfilledSince d)).Perm (start.madeSince d)
  apart : (start.callsSince d).Pairwise fun earlier later =>
    ∀ buffer, Call.gone? earlier = some buffer → ¬ d.Reaches later.1 buffer

theorem ledger_self (d : Device) : Ledger d d [] := by
  refine ⟨refl_of Progress d, ?_, ?_⟩
  · simp [destroyedSince, unfilledSince, callsSince_self, madeSince_self]
  · rw [callsSince_self]
    exact List.Pairwise.nil

namespace Ledger

variable {start d d' : Device} {held held' : List (Ref .buffer)}

theorem of_perm (h : Ledger start d held) (hperm : held'.Perm held) : Ledger start d held' :=
  ⟨h.progress, (hperm.append_right _).trans h.settled, h.apart⟩

/-- What is held has not been given back. -/
theorem not_mem_destroyed (h : Ledger start d held) {buffer : Ref .buffer} (hheld : buffer ∈ held) :
    buffer ∉ start.destroyedSince d := by
  have hnodup := h.settled.nodup_iff.mpr (nodup_madeSince start d)
  intro hgone
  exact (List.nodup_append.mp hnodup).2.2 buffer hheld buffer (List.mem_append_left _ hgone) rfl

/-- **A stretch of calls.** The calls reach only what is held, nothing that they give back themselves is
reached by a later one, and what was held together with what they made is accounted for. -/
theorem advance (h : Ledger start d held) (hprogress : Progress d d')
    (hreach : ∀ c ∈ d.callsSince d', ∀ buffer, d'.Reaches c.1 buffer → buffer ∈ held)
    (hapart : (d.callsSince d').Pairwise fun earlier later =>
      ∀ buffer, Call.gone? earlier = some buffer → ¬ d'.Reaches later.1 buffer)
    (hsettled : (held' ++ (d.destroyedSince d' ++ d.unfilledSince d')).Perm (held ++ d.madeSince d')) :
    Ledger start d' held' := by
  have hcalls := callsSince_trans h.progress.toExtends hprogress.toExtends
  refine ⟨trans_of Progress h.progress hprogress, ?_, ?_⟩
  · have hbefore := h.settled
    rw [destroyedSince, unfilledSince, hcalls,
      madeSince_trans (h.progress.tally_le .buffer) (hprogress.tally_le .buffer)]
    simp only [List.filterMap_append]
    -- two permutations are put together, which is a matter of counting each buffer on both sides
    rw [List.perm_iff_count] at hbefore hsettled ⊢
    intro buffer
    have hbefore := hbefore buffer
    have hsettled := hsettled buffer
    simp only [List.count_append, destroyedSince, unfilledSince] at hbefore hsettled ⊢
    omega
  · rw [hcalls, List.pairwise_append]
    refine ⟨h.apart.imp ?_, hapart, ?_⟩
    · intro earlier later hunreached buffer hgone hreaches
      exact hunreached buffer hgone (hreaches.of_progress hprogress)
    · -- what was given back before is not held, and nothing else is reached now
      intro earlier hearlier later hlater buffer hgone hreaches
      have hdestroyed : buffer ∈ start.destroyedSince d :=
        List.mem_filterMap.mpr ⟨earlier, hearlier, hgone⟩
      exact h.not_mem_destroyed (hreach later hlater buffer hreaches) hdestroyed

/-- A single call. -/
theorem call (h : Ledger start d held) {call : Call} (hprogress : Progress d d')
    (htrace : d'.trace = d.trace ++ [call])
    (hreach : ∀ buffer, d'.Reaches call buffer → buffer ∈ held)
    (hsettled : (held' ++ (d.destroyedSince d' ++ d.unfilledSince d')).Perm (held ++ d.madeSince d')) :
    Ledger start d' held' := by
  have hcalls := callsSince_of_recorded htrace
  refine h.advance hprogress ?_ ?_ hsettled
  · intro c hc
    rw [hcalls, List.mem_singleton] at hc
    rw [hc]
    exact hreach
  · rw [hcalls]
    exact List.pairwise_singleton _ _

end Ledger

/-! ## Calls that leave lifetimes alone -/

/-- Since then no buffer has been made, filled or given back, and none but these has been reached. -/
structure Minds (held : List (Ref .buffer)) (d d' : Device) : Prop extends Progress d d' where
  spares : ∀ c ∈ d.callsSince d', c.1.sparesBuffers = true
  reach : ∀ c ∈ d.callsSince d', ∀ buffer, d'.Reaches c.1 buffer → buffer ∈ held

instance (held : List (Ref .buffer)) : IsPreorder Device (Minds held) where
  refl d := by
    have hnone : ∀ c, c ∉ d.callsSince d := by simp [callsSince_self]
    exact ⟨refl_of Progress d, fun c hc => absurd hc (hnone c), fun c hc => absurd hc (hnone c)⟩
  trans d d₁ d₂ h h' := by
    have hcalls := callsSince_trans h.toExtends h'.toExtends
    refine ⟨trans_of Progress h.toProgress h'.toProgress, ?_, ?_⟩
    · intro c hc
      rw [hcalls, List.mem_append] at hc
      rcases hc with hc | hc
      · exact h.spares c hc
      · exact h'.spares c hc
    · intro c hc buffer hreaches
      rw [hcalls, List.mem_append] at hc
      rcases hc with hc | hc
      · exact h.reach c hc buffer (hreaches.of_progress h'.toProgress)
      · exact h'.reach c hc buffer hreaches

theorem Ledger.minds {start d d' : Device} {held : List (Ref .buffer)} (h : Ledger start d held)
    (hminds : Minds held d d') : Ledger start d' held := by
  have hgone : ∀ c ∈ d.callsSince d', Call.gone? c = none := fun c hc =>
    Call.gone?_of_spares (hminds.spares c hc) c.2
  have hunfilled : ∀ c ∈ d.callsSince d', Call.unfilled? c = none := fun c hc =>
    Call.unfilled?_of_spares (hminds.spares c hc) c.2
  refine h.advance hminds.toProgress hminds.reach ?_ ?_
  · refine List.Pairwise.imp_of_mem ?_ (List.pairwise_of_forall fun _ _ => trivial)
    intro earlier later hearlier _ _ buffer hbuffer
    rw [hgone earlier hearlier] at hbuffer
    simp at hbuffer
  · have hmade := hminds.madeSince_eq_nil fun c hc => Call.makes_of_spares (hminds.spares c hc)
    rw [destroyedSince, unfilledSince, List.filterMap_eq_nil_iff.mpr hgone,
      List.filterMap_eq_nil_iff.mpr hunfilled, hmade]
    simp

/-- One call that leaves lifetimes alone. -/
theorem Speaks.minds {held : List (Ref .buffer)} {call : Call} {m : DeviceM α} (h : Speaks call m)
    (hspares : call.sparesBuffers = true) {d : Device} (hprogress : Progress d (outcome m d).2)
    (hreach : ∀ buffer, d.Reaches call buffer → buffer ∈ held) : Minds held d (outcome m d).2 := by
  have hcalls := callsSince_of_recorded (h.recorded d)
  refine ⟨hprogress, ?_, ?_⟩
  · intro c hc
    rw [hcalls, List.mem_singleton] at hc
    rw [hc]
    exact hspares
  · intro c hc buffer hreaches
    rw [hcalls, List.mem_singleton] at hc
    rw [hc] at hreaches
    exact hreach buffer (hreaches.of_progress hprogress)

/-- One call that reaches no buffer at all. -/
theorem Speaks.minds_of_nil {held : List (Ref .buffer)} {call : Call} {m : DeviceM α}
    (h : Speaks call m) (hstill : Keeps Still m) (hspares : call.sparesBuffers = true)
    (hnone : ∀ d : Device, d.reached call = []) : Keeps (Minds held) m := fun d =>
  h.minds hspares (hstill d).progress fun _ hreaches =>
    absurd (hreaches.mem_of_named hnone) List.not_mem_nil

/-! ## The three calls that move an entry -/

section Moves

variable {start d d' : Device} {held held' : List (Ref .buffer)}

theorem destroyedSince_of_recorded {call : Call} (h : d'.trace = d.trace ++ [call]) :
    d.destroyedSince d' = (Call.gone? (call, (d.failures d.trace call).isNone)).toList := by
  rw [destroyedSince, callsSince_of_recorded h]
  cases hgone : Call.gone? (call, (d.failures d.trace call).isNone) with
  | none => rw [List.filterMap_cons_none hgone]; rfl
  | some buffer => rw [List.filterMap_cons_some hgone]; rfl

theorem unfilledSince_of_recorded {call : Call} (h : d'.trace = d.trace ++ [call]) :
    d.unfilledSince d' = (Call.unfilled? (call, (d.failures d.trace call).isNone)).toList := by
  rw [unfilledSince, callsSince_of_recorded h]
  cases hunfilled : Call.unfilled? (call, (d.failures d.trace call).isNone) with
  | none => rw [List.filterMap_cons_none hunfilled]; rfl
  | some buffer => rw [List.filterMap_cons_some hunfilled]; rfl

theorem Extends.madeSince_of_recorded (h : Extends d d') {call : Call}
    (htrace : d'.trace = d.trace ++ [call]) (hmakes : call.makes ≠ some .buffer) :
    d.madeSince d' = [] := by
  refine h.madeSince_eq_nil fun c hc => ?_
  rw [callsSince_of_recorded htrace, List.mem_singleton] at hc
  rw [hc]
  exact hmakes

/-- Putting data into a buffer submits nothing and leaves commands as they are. -/
theorem progress_writeBuffer (buffer : Ref .buffer) (data : Bytes) :
    Keeps Progress (writeBuffer buffer data) := by
  intro d
  have hspeaks := speaks_writeBuffer buffer data
  have hsame : (outcome (writeBuffer buffer data) d).2.kernel = d.kernel ∧
      (outcome (writeBuffer buffer data) d).2.commands = d.commands := by
    unfold writeBuffer
    cases h : d.failures d.trace (.writeBuffer buffer 0 data) with
    | some fault =>
      rw [outcome_call_of_some h]
      exact ⟨rfl, rfl⟩
    | none =>
      rw [outcome_call_of_none h]
      exact ⟨rfl, rfl⟩
  refine ⟨hspeaks.grows d, hsame.1, hsame.2 ▸ List.prefix_rfl, ?_⟩
  intro list hlist
  rw [submittedSince_of_recorded (hspeaks.recorded d)] at hlist
  simp [Call.submits] at hlist

namespace Ledger

/-- A call that names one buffer, which is held, and makes none. What becomes of the buffer depends on
whether the call went through. -/
theorem call_on (h : Ledger start d held) {call : Call} {buffer : Ref .buffer}
    (hnamed : ∀ d : Device, d.reached call = [buffer]) (hheld : buffer ∈ held)
    (hmakes : call.makes ≠ some .buffer) (hprogress : Progress d d')
    (htrace : d'.trace = d.trace ++ [call]) {ok : Bool}
    (hok : (d.failures d.trace call).isNone = ok)
    (hsettled : (held' ++ ((Call.gone? (call, ok)).toList ++ (Call.unfilled? (call, ok)).toList)).Perm
      held) : Ledger start d' held' := by
  refine h.call hprogress htrace ?_ ?_
  · intro buffer' hreaches
    rw [List.mem_singleton.mp (hreaches.mem_of_named hnamed)]
    exact hheld
  · rw [destroyedSince_of_recorded htrace, unfilledSince_of_recorded htrace,
      hprogress.madeSince_of_recorded htrace hmakes, hok, List.append_nil]
    exact hsettled

/-- A buffer that has been made is held. -/
theorem createBuffer_ok (h : Ledger start d held) {label : String} {size usage : Nat}
    {buffer : Ref .buffer} (hout : outcome (createBuffer label size usage) d = (.ok buffer, d')) :
    Ledger start d' (buffer :: held) := by
  have htrace := (makes_createBuffer label size usage).trace hout
  have hprogress := ((idle_createBuffer label size usage).of_outcome_eq hout).progress
  obtain ⟨hbuffer, hmemory⟩ := createBuffer_eq_ok hout
  refine h.call hprogress htrace ?_ ?_
  · intro buffer' hreaches
    exact absurd (hreaches.mem_of_named fun _ => rfl) List.not_mem_nil
  · have hmade : d.madeSince d' = [buffer] := by simp [madeSince, hmemory, hbuffer]
    rw [destroyedSince_of_recorded htrace, unfilledSince_of_recorded htrace, hmade]
    simpa [Call.gone?, Call.unfilled?] using (List.perm_append_singleton buffer held).symm

theorem createBuffer_error (h : Ledger start d held) {label : String} {size usage : Nat}
    {fault : Fault} (hout : outcome (createBuffer label size usage) d = (.error fault, d')) :
    Ledger start d' held := by
  have hprogress := ((idle_createBuffer label size usage).of_outcome_eq hout).progress
  obtain ⟨-, rfl⟩ := call_eq_error (fun d => (_, _)) (fun _ => rfl) hout
  refine h.call hprogress rfl ?_ ?_
  · intro buffer hreaches
    exact absurd (hreaches.mem_of_named fun _ => rfl) List.not_mem_nil
  · have hmade : d.madeSince (d.called (.createBuffer label size usage)) = [] := by
      simp [madeSince, called]
    rw [destroyedSince_of_recorded rfl, unfilledSince_of_recorded rfl, hmade]
    simp [Call.gone?, Call.unfilled?]

/-- A buffer that has been given its data is still held. -/
theorem writeBuffer_ok {buffer : Ref .buffer} (h : Ledger start d (buffer :: held)) {data : Bytes}
    {u : Unit} (hout : outcome (writeBuffer buffer data) d = (.ok u, d')) :
    Ledger start d' (buffer :: held) := by
  have htrace := (speaks_writeBuffer buffer data).trace hout
  have hprogress := (progress_writeBuffer buffer data).of_outcome_eq hout
  have hok : (d.failures d.trace (.writeBuffer buffer 0 data)).isNone = true := by
    rw [(call_eq_ok hout).1]
    rfl
  refine h.call_on (fun _ => rfl) List.mem_cons_self (by simp [Call.makes]) hprogress htrace hok ?_
  simp [Call.gone?, Call.unfilled?]

/-- A buffer that is refused its data is no longer held, and has not been given back. -/
theorem writeBuffer_error {buffer : Ref .buffer} (h : Ledger start d (buffer :: held)) {data : Bytes}
    {fault : Fault} (hout : outcome (writeBuffer buffer data) d = (.error fault, d')) :
    Ledger start d' held := by
  have hprogress := (progress_writeBuffer buffer data).of_outcome_eq hout
  obtain ⟨hfail, rfl⟩ := call_eq_error (fun d => (_, _)) (fun _ => rfl) hout
  refine h.call_on (fun _ => rfl) List.mem_cons_self (by simp [Call.makes]) hprogress rfl hfail ?_
  -- the owner never learns of it, so it moves to those without data
  simp [Call.gone?, Call.unfilled?]

/-- A buffer that has been given back is no longer held. -/
theorem destroy_ok {buffer : Ref .buffer} (h : Ledger start d (buffer :: held)) {u : Unit}
    (hout : outcome (destroy buffer) d = (.ok u, d')) : Ledger start d' held := by
  have htrace := (speaks_destroy buffer).trace hout
  have hprogress := ((still_destroy buffer).of_outcome_eq hout).progress
  have hok : (d.failures d.trace (.destroy buffer)).isNone = true := by
    cases hfail : d.failures d.trace (.destroy buffer) with
    | none => rfl
    | some failure => simp [destroy, outcome_perform, hfail] at hout
  refine h.call_on (fun _ => rfl) List.mem_cons_self (by simp [Call.makes]) hprogress htrace hok ?_
  simp [Call.gone?, Call.unfilled?]

theorem destroy_error {buffer : Ref .buffer} (h : Ledger start d held) (hheld : buffer ∈ held)
    {fault : Fault} (hout : outcome (destroy buffer) d = (.error fault, d')) : Ledger start d' held := by
  have htrace := (speaks_destroy buffer).recorded d
  rw [hout] at htrace
  have hprogress := ((still_destroy buffer).of_outcome_eq hout).progress
  have hfail : (d.failures d.trace (.destroy buffer)).isNone = false := by
    cases hfail : d.failures d.trace (.destroy buffer) with
    | none => simp [destroy, outcome_perform, hfail] at hout
    | some failure => rfl
  refine h.call_on (fun _ => rfl) hheld (by simp [Call.makes]) hprogress htrace hfail ?_
  simp [Call.gone?, Call.unfilled?]

end Ledger

end Moves

end Device

end KernelShader
