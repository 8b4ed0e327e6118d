import FormTree.Proofs.Form.Building
import FormTree.Proofs.Form.KeyEdit
import Mathlib.Data.List.Chain
import Mathlib.Data.List.Nodup

/-!
# What listeners hear

Each step tells each listener at most once, and it tells what became of the value over the whole
step (`events_step`). Almost every step takes over at most one new root; only rendering for editing
under a schema plans twice, and there the second plan finds the filled value and creates nothing.

A run of steps is then heard as the list of its changes by every listener that is registered
throughout, which is `listeners_hear_every_change`.
-/

namespace FormTree

/-- A change of the value, as a listener is told of it. -/
structure Change where
  before : Value
  after : Value

namespace Change

/-- The change from one value to another, if the other one is not the same. -/
def between? (before after : Value) : Option Change :=
  if after.same before then none else some ⟨before, after⟩

/-- The events that tell some listeners of a change. -/
def events (change : Change) (listeners : List Nat) : List Event :=
  listeners.map fun listener => ⟨listener, change.before, change.after⟩

end Change

def Event.change (event : Event) : Change := ⟨event.before, event.after⟩

namespace Step

/-- The value is replaced from outside, of which nobody is told. -/
def isReset : Step → Bool
  | .reset _ _ _ => true
  | _ => false

/-- The step takes a listener away. -/
def Removes (listener : Nat) : Step → Prop
  | .offChange other => other = listener
  | _ => False

end Step

namespace Editor

variable {editor : Editor} {step : Step} {outcome : Outcome}

/-! ### Taking over a root -/

theorem install_of_same {root : Value} (h : root.same editor.value = true) :
    editor.install root = (editor, []) := by
  rw [install, if_pos h]

theorem install_of_not_same {root : Value} (h : root.same editor.value = false) :
    editor.install root = ({ editor with value := root },
      editor.listeners.map fun listener => ⟨listener, editor.value, root⟩) := by
  rw [install, h]
  rfl

theorem exists_get?_edited (editor : Editor) (slot : KeySlot) (answer : Answer)
    {root new : Value} {keys : KeyPath}
    (hnew : root.get? keys = some new) :
    ∃ held, (editor.edited slot root answer).editor.value.get? keys = some held ∧
      new.same held = true := by
  cases hsame : root.same editor.value with
  | true =>
    have hinstall : ({ editor with slot }).install root = ({ editor with slot }, []) :=
      install_of_same hsame
    rw [edited, hinstall]
    obtain ⟨x, held, hx, hheld, hxheld⟩ | ⟨hnone, -⟩ := Value.get?_of_same hsame keys
    · obtain rfl : new = x := Option.some.inj (hnew.symm.trans hx)
      exact ⟨held, hheld, hxheld⟩
    · exact absurd (hnew.symm.trans hnone) (Option.some_ne_none new)
  | false =>
    rw [edited_value_of_not_same hsame]
    exact ⟨new, hnew, Value.same_self new⟩

/-- Listeners are told of a new root if there is one, and otherwise the old root stays. -/
structure Tells (editor next : Editor) (events : List Event) : Prop where
  events_eq : events =
    (Change.between? editor.value next.value).toList.flatMap (·.events editor.listeners)
  value_eq_of_same : next.value.same editor.value = true → next.value = editor.value

theorem tells_nothing {next : Editor} (h : next.value = editor.value) :
    editor.Tells next [] where
  events_eq := by
    have hsame : next.value.same editor.value = true := by
      rw [h]
      exact Value.same_self _
    rw [Change.between?, if_pos hsame]
    rfl
  value_eq_of_same := fun _ => h

theorem tells_install (editor : Editor) (root : Value) :
    editor.Tells (editor.install root).1 (editor.install root).2 := by
  cases hsame : root.same editor.value with
  | true =>
    rw [install_of_same hsame]
    exact tells_nothing rfl
  | false =>
    rw [install_of_not_same hsame]
    refine ⟨?_, fun hroot => absurd (hsame.symm.trans hroot) (by decide)⟩
    simp only [Change.between?, hsame, Bool.false_eq_true, if_false, Option.toList_some,
      List.flatMap_cons, List.flatMap_nil, List.append_nil, Change.events]

theorem tells_edited (editor : Editor) (slot : KeySlot) (root : Value) (answer : Answer) :
    editor.Tells (editor.edited slot root answer).editor (editor.edited slot root answer).events :=
  have h := tells_install { editor with slot } root
  ⟨h.events_eq, h.value_eq_of_same⟩

/-! ### Drawing -/

theorem installPlan_edit {schema : Schema} (h : editor.schema = some schema)
    (findings : List Finding) :
    editor.installPlan (editor.plan .edit findings) =
      editor.install (schema.fill editor.value) := by
  have hmaterialized : (editor.plan .edit findings).materialized =
      if (schema.fill editor.value).same editor.value then none
      else some (schema.fill editor.value) := by
    rw [plan, h]
    exact Plan.materialized_edit schema
  rw [installPlan, hmaterialized]
  split
  · next root hroot =>
    split at hroot
    · simp at hroot
    · rw [Option.some.injEq] at hroot
      rw [hroot]
  · next hroot =>
    split at hroot
    · next hsame => rw [install_of_same hsame]
    · simp at hroot

theorem materialized_of_not_grows {mode : Mode} (h : ¬ (mode = .edit ∧ editor.schema.isSome))
    (findings : List Finding) : (editor.plan mode findings).materialized = none := by
  cases hschema : editor.schema with
  | none =>
    rw [plan, hschema]
    exact Plan.materialized_free mode
  | some schema =>
    cases mode with
    | read => exact Plan.materialized_read _
    | edit => exact absurd ⟨rfl, by rw [hschema]; rfl⟩ h

theorem installPlan_of_not_grows {mode : Mode} (h : ¬ (mode = .edit ∧ editor.schema.isSome))
    (findings : List Finding) :
    editor.installPlan (editor.plan mode findings) = (editor, []) := by
  rw [installPlan, materialized_of_not_grows h]

theorem install_fill_install_fill (editor : Editor) (schema : Schema) :
    let filled := (editor.install (schema.fill editor.value)).1
    filled.install (schema.fill filled.value) = (filled, []) := by
  cases hsame : (schema.fill editor.value).same editor.value with
  | true =>
    simp only [install_of_same hsame]
  | false =>
    simp only [install_of_not_same hsame, Schema.fill_fill]
    exact install_of_same (Value.same_self _)

theorem tells_installPlan (editor : Editor) (mode : Mode) (findings : List Finding) :
    editor.Tells (editor.installPlan (editor.plan mode findings)).1
      (editor.installPlan (editor.plan mode findings)).2 := by
  rw [installPlan]
  split
  · exact tells_install editor _
  · exact tells_nothing rfl

/-- Rendering takes over what one plan creates: the second plan creates nothing. -/
theorem rendered_eq (editor : Editor) (mode : Mode) :
    (editor.rendered mode).editor = (editor.grown mode).1 ∧
      (editor.rendered mode).events = (editor.grown mode).2 := by
  rw [rendered, drawn]
  by_cases hgrows : mode = .edit ∧ editor.schema.isSome
  · obtain ⟨rfl, hsome⟩ := hgrows
    obtain ⟨schema, hschema⟩ := Option.isSome_iff_exists.1 hsome
    have hgrown : editor.grown .edit = editor.install (schema.fill editor.value) := by
      rw [grown, if_pos ⟨rfl, hsome⟩, installPlan_edit hschema]
    have hstill : (editor.grown .edit).1.schema = some schema := by
      rw [hgrown, install_schema, hschema]
    have hagain := installPlan_edit hstill (editor.grown .edit).1.findings
    rw [hgrown] at hagain ⊢
    rw [install_fill_install_fill editor schema] at hagain
    rw [hagain]
    exact ⟨rfl, List.append_nil _⟩
  · have hgrown : editor.grown mode = (editor, []) := by rw [grown, if_neg hgrows]
    rw [hgrown]
    rw [installPlan_of_not_grows hgrows]
    exact ⟨rfl, rfl⟩

theorem tells_rendered (editor : Editor) (mode : Mode) :
    editor.Tells (editor.rendered mode).editor (editor.rendered mode).events := by
  obtain ⟨heditor, hevents⟩ := rendered_eq editor mode
  rw [heditor, hevents, grown]
  split
  · exact tells_installPlan editor mode []
  · exact tells_nothing rfl

/-! ### One step -/

theorem tells_of_accepts (h : Accepts editor step outcome) (hreset : step.isReset = false) :
    editor.Tells outcome.editor outcome.events := by
  cases h with
  | addKey hfree hidle hkeys hroot => exact tells_edited editor _ _ _
  | beginRename hfree hidle hkeys hne hcurrent => exact tells_nothing rfl
  | renameKey hslot hkeys hroot => exact tells_edited editor _ _ _
  | abandonKeyEdit hslot hkeys hroot => exact tells_edited editor _ _ _
  | deleteKey hfree hidle hkeys hroot => exact tells_edited editor _ _ _
  | setValue hidle hkeys hkind hroot => exact tells_edited editor _ _ _
  | render mode => exact tells_rendered editor mode
  | renderWith mode findings => exact tells_installPlan editor mode findings
  | validate => exact tells_nothing rfl
  | validateWith validator => exact tells_nothing rfl
  | reset hschema => exact absurd hreset (by simp [Step.isReset])
  | onChange => exact tells_nothing rfl
  | offChange listener => exact tells_nothing rfl

theorem tells_step (editor : Editor) (hreset : step.isReset = false) :
    editor.Tells (editor.step step).editor (editor.step step).events := by
  obtain ⟨fault, hstep⟩ | haccepts := step_cases editor step
  · rw [hstep]
    exact tells_nothing rfl
  · exact tells_of_accepts haccepts hreset

/-- What a step has to tell: the value before and after it, if they are not the same and the change
does not come from outside. -/
def changeOf? (editor : Editor) (step : Step) : Option Change :=
  if step.isReset then none else Change.between? editor.value (editor.step step).editor.value

theorem events_of_isReset (editor : Editor) (hreset : step.isReset = true) :
    (editor.step step).events = [] := by
  obtain ⟨fault, hstep⟩ | haccepts := step_cases editor step
  · rw [hstep]
  · generalize editor.step step = outcome at haccepts
    cases haccepts with
    | reset hschema => rfl
    | _ => simp [Step.isReset] at hreset

/-- A step tells each listener of the change that it makes, and of nothing else. -/
theorem events_step (editor : Editor) (step : Step) : (editor.step step).events =
    (editor.changeOf? step).toList.flatMap (·.events editor.listeners) := by
  cases hreset : step.isReset with
  | true => rw [events_of_isReset editor hreset, changeOf?, if_pos hreset]; rfl
  | false => rw [changeOf?, hreset]; exact (tells_step editor hreset).events_eq

/-! ### Who listens -/

theorem install_listeners (editor : Editor) (root : Value) :
    (editor.install root).1.listeners = editor.listeners ∧
      (editor.install root).1.nextListener = editor.nextListener := by
  unfold install
  split <;> exact ⟨rfl, rfl⟩

theorem installPlan_listeners (editor : Editor) (plan : Plan) :
    (editor.installPlan plan).1.listeners = editor.listeners ∧
      (editor.installPlan plan).1.nextListener = editor.nextListener := by
  unfold installPlan
  split
  · exact install_listeners editor _
  · exact ⟨rfl, rfl⟩

theorem grown_listeners (editor : Editor) (mode : Mode) :
    (editor.grown mode).1.listeners = editor.listeners ∧
      (editor.grown mode).1.nextListener = editor.nextListener := by
  unfold grown
  split
  · exact installPlan_listeners editor _
  · exact ⟨rfl, rfl⟩

theorem listeners_cases (editor : Editor) (step : Step) :
    ((editor.step step).editor.listeners = editor.listeners ∧
        (editor.step step).editor.nextListener = editor.nextListener) ∨
      ((editor.step step).editor.listeners = editor.listeners ++ [editor.nextListener] ∧
        (editor.step step).editor.nextListener = editor.nextListener + 1) ∨
      ∃ listener, step = .offChange listener ∧
        (editor.step step).editor.listeners = editor.listeners.filter (· ≠ listener) ∧
        (editor.step step).editor.nextListener = editor.nextListener := by
  obtain ⟨fault, hstep⟩ | haccepts := step_cases editor step
  · rw [hstep]
    exact .inl ⟨rfl, rfl⟩
  · generalize editor.step step = outcome at haccepts
    cases haccepts with
    | addKey hfree hidle hkeys hroot => exact .inl (install_listeners _ _)
    | beginRename hfree hidle hkeys hne hcurrent => exact .inl ⟨rfl, rfl⟩
    | renameKey hslot hkeys hroot => exact .inl (install_listeners _ _)
    | abandonKeyEdit hslot hkeys hroot => exact .inl (install_listeners _ _)
    | deleteKey hfree hidle hkeys hroot => exact .inl (install_listeners _ _)
    | setValue hidle hkeys hkind hroot => exact .inl (install_listeners _ _)
    | render mode =>
      rw [(rendered_eq editor mode).1]
      exact .inl (grown_listeners editor mode)
    | renderWith mode findings => exact .inl (installPlan_listeners editor _)
    | validate => exact .inl ⟨rfl, rfl⟩
    | validateWith validator => exact .inl ⟨rfl, rfl⟩
    | reset hschema => exact .inl ⟨rfl, rfl⟩
    | onChange => exact .inr (.inl ⟨rfl, rfl⟩)
    | offChange listener => exact .inr (.inr ⟨listener, rfl, rfl, rfl⟩)

/-- Every listener is registered once, under a number that was given out. -/
structure ListenersSound (editor : Editor) : Prop where
  nodup : editor.listeners.Nodup
  lt_next : ∀ listener ∈ editor.listeners, listener < editor.nextListener

theorem listenersSound_step (h : editor.ListenersSound) (step : Step) :
    (editor.step step).editor.ListenersSound := by
  obtain ⟨hnodup, hlt⟩ := h
  obtain ⟨hsame, hnext⟩ | ⟨hadded, hnext⟩ | ⟨gone, -, hgone, hnext⟩ := listeners_cases editor step
  · refine ⟨?_, ?_⟩
    · rwa [hsame]
    · rwa [hsame, hnext]
  · have hfresh : editor.nextListener ∉ editor.listeners := fun hmem =>
      Nat.lt_irrefl _ (hlt _ hmem)
    refine ⟨?_, fun listener hmem => ?_⟩
    · rw [hadded]
      exact List.nodup_append.2 ⟨hnodup, List.nodup_singleton _, fun first hfirst second hsecond =>
        fun heq => hfresh (List.mem_singleton.1 hsecond ▸ heq ▸ hfirst)⟩
    · rw [hadded, List.mem_append, List.mem_singleton] at hmem
      rw [hnext]
      rcases hmem with hmem | rfl
      · exact Nat.lt_succ_of_lt (hlt listener hmem)
      · exact Nat.lt_succ_self _
  · refine ⟨?_, fun listener hmem => ?_⟩
    · rw [hgone]
      exact hnodup.filter _
    · rw [hgone] at hmem
      rw [hnext]
      exact hlt listener (List.mem_filter.1 hmem).1

theorem listenersSound_of_reachable (h : Reachable editor) : editor.ListenersSound := by
  induction h with
  | new value schema => exact ⟨List.nodup_nil, fun listener hmem => absurd hmem List.not_mem_nil⟩
  | withSettings _ hnext ih =>
    obtain ⟨settings, -, rfl⟩ := except_map_eq_ok.1 hnext
    exact ⟨ih.nodup, ih.lt_next⟩
  | step step _ ih => exact listenersSound_step ih step

theorem listenersSound_after (h : editor.ListenersSound) (steps : List Step) :
    (editor.after steps).ListenersSound := by
  induction steps generalizing editor with
  | nil => exact h
  | cons step rest ih => exact ih (listenersSound_step h step)

theorem nextListener_le_step (editor : Editor) (step : Step) :
    editor.nextListener ≤ (editor.step step).editor.nextListener := by
  obtain ⟨-, hnext⟩ | ⟨-, hnext⟩ | ⟨gone, -, -, hnext⟩ := listeners_cases editor step <;> omega

theorem nextListener_le_after (editor : Editor) (steps : List Step) :
    editor.nextListener ≤ (editor.after steps).nextListener := by
  induction steps generalizing editor with
  | nil => exact Nat.le_refl _
  | cons step rest ih => exact Nat.le_trans (nextListener_le_step editor step) (ih _)

theorem mem_listeners_step {listener : Nat} (h : listener ∈ editor.listeners)
    (hstep : ¬ step.Removes listener) : listener ∈ (editor.step step).editor.listeners := by
  obtain ⟨hsame, -⟩ | ⟨hadded, -⟩ | ⟨gone, rfl, hgone, -⟩ := listeners_cases editor step
  · rwa [hsame]
  · rw [hadded]
    exact List.mem_append_left _ h
  · have hne : listener ≠ gone := fun heq => hstep heq.symm
    rw [hgone]
    exact List.mem_filter.2 ⟨h, decide_eq_true hne⟩

theorem not_mem_listeners_step {listener : Nat} (h : listener ∉ editor.listeners)
    (hlt : listener < editor.nextListener) (step : Step) :
    listener ∉ (editor.step step).editor.listeners := by
  intro hmem
  obtain ⟨hsame, -⟩ | ⟨hadded, -⟩ | ⟨gone, -, hgone, -⟩ := listeners_cases editor step
  · exact h (hsame ▸ hmem)
  · rw [hadded, List.mem_append, List.mem_singleton] at hmem
    rcases hmem with hmem | rfl
    · exact h hmem
    · exact Nat.lt_irrefl _ hlt
  · rw [hgone] at hmem
    exact h (List.mem_filter.1 hmem).1

/-! ### What is heard along a run -/

/-- What one listener is told in the course of some outcomes. -/
def heard (listener : Nat) (outcomes : List Outcome) : List Change :=
  ((outcomes.flatMap Outcome.events).filter (·.listener = listener)).map Event.change

/-- The changes that the steps of a run make, in their order. -/
def changes (editor : Editor) : List Step → List Change
  | [] => []
  | step :: rest => (editor.changeOf? step).toList ++ (editor.step step).editor.changes rest

theorem heard_cons (listener : Nat) (outcome : Outcome) (rest : List Outcome) :
    heard listener (outcome :: rest) = heard listener [outcome] ++ heard listener rest := by
  simp only [heard, List.flatMap_cons, List.flatMap_nil, List.append_nil, List.filter_append,
    List.map_append]

theorem heard_append (listener : Nat) (first second : List Outcome) :
    heard listener (first ++ second) = heard listener first ++ heard listener second := by
  simp only [heard, List.flatMap_append, List.filter_append, List.map_append]

theorem run_append (editor : Editor) (first second : List Step) :
    editor.run (first ++ second) = editor.run first ++ (editor.after first).run second := by
  induction first generalizing editor with
  | nil => rfl
  | cons step rest ih => exact congrArg (_ :: ·) (ih _)

theorem filter_events {listeners : List Nat} (hnodup : listeners.Nodup) (change : Change)
    (listener : Nat) :
    ((change.events listeners).filter (·.listener = listener)).map Event.change =
      if listener ∈ listeners then [change] else [] := by
  have hfilter : ((change.events listeners).filter (·.listener = listener)) =
      change.events (listeners.filter (· = listener)) := by
    rw [Change.events, List.filter_map]
    rfl
  rw [hfilter]
  split
  · next hmem =>
    have hone : listeners.filter (· = listener) = [listener] := by
      rw [List.filter_eq, List.count_eq_one_of_mem hnodup hmem]
      rfl
    rw [hone]
    rfl
  · next hmem =>
    have hnone : listeners.filter (· = listener) = [] := by
      rw [List.filter_eq, List.count_eq_zero.2 hmem]
      rfl
    rw [hnone]
    rfl

theorem heard_step (hsound : editor.ListenersSound) (listener : Nat) (step : Step) :
    heard listener [editor.step step] =
      if listener ∈ editor.listeners then (editor.changeOf? step).toList else [] := by
  have hevents : [editor.step step].flatMap Outcome.events =
      (editor.changeOf? step).toList.flatMap (·.events editor.listeners) := by
    rw [List.flatMap_singleton, events_step]
  rw [heard, hevents]
  cases editor.changeOf? step with
  | none => simp
  | some change =>
    rw [Option.toList_some, List.flatMap_singleton]
    exact filter_events hsound.nodup change listener

/-- A listener hears nothing but the changes, as long as it is registered. -/
theorem heard_run {listener : Nat} {steps : List Step} (hsound : editor.ListenersSound)
    (hmem : listener ∈ editor.listeners) (hsteps : ∀ step ∈ steps, ¬ step.Removes listener) :
    heard listener (editor.run steps) = editor.changes steps := by
  induction steps generalizing editor with
  | nil => rfl
  | cons step rest ih =>
    obtain ⟨hstep, hrest⟩ := List.forall_mem_cons.1 hsteps
    have hrun := ih (listenersSound_step hsound step) (mem_listeners_step hmem hstep) hrest
    have hfirst := heard_step hsound listener step
    rw [if_pos hmem] at hfirst
    rw [run, heard_cons, hfirst, hrun, changes]

theorem heard_run_of_gone {listener : Nat} (steps : List Step) (hsound : editor.ListenersSound)
    (hgone : listener ∉ editor.listeners) (hlt : listener < editor.nextListener) :
    heard listener (editor.run steps) = [] := by
  induction steps generalizing editor with
  | nil => rfl
  | cons step rest ih =>
    have hrun := ih (listenersSound_step hsound step) (not_mem_listeners_step hgone hlt step)
      (Nat.lt_of_lt_of_le hlt (nextListener_le_step editor step))
    have hfirst := heard_step hsound listener step
    rw [if_neg hgone] at hfirst
    rw [run, heard_cons, hfirst, hrun, List.append_nil]

theorem heard_run_of_later {listener : Nat} (steps : List Step) (hsound : editor.ListenersSound)
    (hlater : (editor.after steps).nextListener ≤ listener) :
    heard listener (editor.run steps) = [] := by
  induction steps generalizing editor with
  | nil => rfl
  | cons step rest ih =>
    have hnow : editor.nextListener ≤ listener :=
      Nat.le_trans (nextListener_le_after editor (step :: rest)) hlater
    have habsent : listener ∉ editor.listeners := fun hmem =>
      Nat.lt_irrefl _ (Nat.lt_of_lt_of_le (hsound.lt_next listener hmem) hnow)
    have hfirst := heard_step hsound listener step
    rw [if_neg habsent] at hfirst
    rw [run, heard_cons, hfirst, ih (listenersSound_step hsound step) hlater, List.append_nil]

/-! ### How changes follow each other -/

/-- A run in which no reset is accepted. -/
def WithoutReset (editor : Editor) : List Step → Prop
  | [] => True
  | step :: rest =>
    (step.isReset = true → ¬ (editor.step step).Accepted) ∧
      (editor.step step).editor.WithoutReset rest

theorem changeOf?_of_isReset (editor : Editor) (hreset : step.isReset = true) :
    editor.changeOf? step = none := by
  rw [changeOf?, if_pos hreset]

theorem changeOf?_of_value_eq (hvalue : (editor.step step).editor.value = editor.value) :
    editor.changeOf? step = none := by
  rw [changeOf?, hvalue, Change.between?, if_pos (Value.same_self _)]
  exact ite_self _

/-- A step other than a reset leaves the very value that was there, or has a change to tell. -/
theorem changeOf?_cases (editor : Editor) (hreset : step.isReset = false) :
    (editor.changeOf? step = none ∧ (editor.step step).editor.value = editor.value) ∨
      editor.changeOf? step = some ⟨editor.value, (editor.step step).editor.value⟩ ∧
        (editor.step step).editor.value.same editor.value = false := by
  have hchange : editor.changeOf? step =
      Change.between? editor.value (editor.step step).editor.value := by
    rw [changeOf?, hreset]
    rfl
  rw [hchange, Change.between?]
  cases hsame : (editor.step step).editor.value.same editor.value with
  | true => exact .inl ⟨rfl, (tells_step editor hreset).value_eq_of_same hsame⟩
  | false => exact .inr ⟨rfl, rfl⟩

theorem not_same_of_mem_changes {steps : List Step} {change : Change}
    (h : change ∈ editor.changes steps) : change.after.same change.before = false := by
  induction steps generalizing editor with
  | nil => exact absurd h List.not_mem_nil
  | cons step rest ih =>
    rw [changes, List.mem_append, Option.mem_toList] at h
    rcases h with hfirst | hrest
    · cases hreset : step.isReset with
      | true => simp [changeOf?_of_isReset editor hreset] at hfirst
      | false =>
        obtain ⟨hnone, -⟩ | ⟨hsome, hsame⟩ := changeOf?_cases editor hreset
        · rw [hnone] at hfirst
          exact absurd hfirst (by simp)
        · rw [hsome, Option.some.injEq] at hfirst
          rw [← hfirst]
          exact hsame
    · exact ih hrest

/-- Without a reset each change starts from the value that the one before left, and the first one
from the value at the start. -/
theorem isChain_changes {steps : List Step} (h : editor.WithoutReset steps) :
    (editor.changes steps).IsChain (fun first second => first.after = second.before) ∧
      ∀ change ∈ (editor.changes steps).head?, change.before = editor.value := by
  induction steps generalizing editor with
  | nil => exact ⟨List.isChain_nil, fun change hhead => by simp [changes] at hhead⟩
  | cons step rest ih =>
    obtain ⟨hstep, hrest⟩ := h
    obtain ⟨hchain, hhead⟩ := ih hrest
    rw [changes]
    have hcases : (editor.changeOf? step = none ∧
        (editor.step step).editor.value = editor.value) ∨
        editor.changeOf? step = some ⟨editor.value, (editor.step step).editor.value⟩ := by
      cases hreset : step.isReset with
      | true =>
        rw [editor_of_not_accepted (hstep hreset)]
        exact .inl ⟨changeOf?_of_isReset editor hreset, rfl⟩
      | false => exact (changeOf?_cases editor hreset).imp_right And.left
    obtain ⟨hnone, hvalue⟩ | hsome := hcases
    · rw [hnone]
      exact ⟨hchain, hvalue ▸ hhead⟩
    · rw [hsome, Option.toList_some, List.singleton_append]
      refine ⟨List.isChain_cons.2 ⟨fun change hchange => (hhead change hchange).symm, hchain⟩, ?_⟩
      intro change hchange
      rw [List.head?_cons, Option.mem_some] at hchange
      rw [← hchange]

/-- A listener hears of every change of the value between its registration and its removal, in
order, of each by one event with the value before and after the step, and of nothing else: a step
that is no reset has a change to tell exactly if it leaves another value. So without a reset in
between each event starts where the last one ended, no event is without a change, listeners that are
registered together hear the same, and rendering is heard at most once. -/
theorem listeners_hear_every_change {editor : Editor} (hreach : Reachable editor) :
    (∀ before steps later : List Step,
      let entered := (editor.after before).step .onChange
      let listener := (editor.after before).nextListener
      entered.answer = .ok (.listener listener) ∧
        ((∀ step ∈ steps, ¬ step.Removes listener) →
          heard listener (editor.run (before ++ .onChange :: steps)) =
            entered.editor.changes steps ∧
          heard listener
              (editor.run (before ++ .onChange :: (steps ++ .offChange listener :: later))) =
            entered.editor.changes steps)) ∧
      (∀ step : Step, step.isReset = true → editor.changeOf? step = none) ∧
      (∀ step : Step, step.isReset = false →
        (editor.changeOf? step = none ∧ (editor.step step).editor.value = editor.value) ∨
          editor.changeOf? step = some ⟨editor.value, (editor.step step).editor.value⟩ ∧
            (editor.step step).editor.value.same editor.value = false) ∧
      (∀ steps, editor.WithoutReset steps →
        (editor.changes steps).IsChain fun first second => first.after = second.before) ∧
      (∀ steps, ∀ change ∈ editor.changes steps, change.after.same change.before = false) ∧
      (∀ first ∈ editor.listeners, ∀ second ∈ editor.listeners, ∀ steps : List Step,
        (∀ step ∈ steps, ¬ step.Removes first ∧ ¬ step.Removes second) →
          heard first (editor.run steps) = heard second (editor.run steps)) ∧
      ∀ (mode : Mode) (listener : Nat),
        (heard listener [editor.step (.render mode)]).length ≤ 1 := by
  have hsound := listenersSound_of_reachable hreach
  refine ⟨fun before steps later => ?_, fun step hreset => changeOf?_of_isReset editor hreset,
    fun step hreset => changeOf?_cases editor hreset, fun steps h => (isChain_changes h).1,
    fun steps change h => not_same_of_mem_changes h, ?_, fun mode listener => ?_⟩
  · intro entered listener
    have hearlier : (editor.after before).ListenersSound := listenersSound_after hsound before
    have hentered : entered.editor.ListenersSound := listenersSound_step hearlier .onChange
    have hmem : listener ∈ entered.editor.listeners :=
      List.mem_append_right _ (List.mem_singleton_self _)
    have hsilent : heard listener (editor.run before) = [] :=
      heard_run_of_later before hsound (Nat.le_refl _)
    have hentering : heard listener [entered] = [] := by
      have habsent : listener ∉ (editor.after before).listeners := fun h =>
        Nat.lt_irrefl _ (hearlier.lt_next listener h)
      rw [heard_step hearlier, if_neg habsent]
    have hfrom : ∀ rest, heard listener (editor.run (before ++ .onChange :: rest)) =
        heard listener (entered.editor.run rest) := by
      intro rest
      rw [run_append, heard_append, hsilent, run, heard_cons, hentering]
      rfl
    refine ⟨rfl, fun hsteps => ?_⟩
    have hrun := heard_run hentered hmem hsteps
    refine ⟨(hfrom steps).trans hrun, ?_⟩
    have hstays := listenersSound_after hentered steps
    have hleaving :
        heard listener [(entered.editor.after steps).step (.offChange listener)] = [] := by
      rw [heard_step hstays, changeOf?_of_value_eq rfl]
      exact ite_self _
    have hgone : listener ∉
        ((entered.editor.after steps).step (.offChange listener)).editor.listeners := by
      intro h
      simpa using (List.mem_filter.1 h).2
    have hlt : listener <
        ((entered.editor.after steps).step (.offChange listener)).editor.nextListener :=
      Nat.lt_of_lt_of_le (Nat.lt_succ_self _) (nextListener_le_after entered.editor steps)
    have hafter := heard_run_of_gone later (listenersSound_step hstays _) hgone hlt
    rw [hfrom, run_append, heard_append, hrun, run, heard_cons, hleaving, hafter]
    simp only [List.append_nil]
  · intro first hfirst second hsecond steps hsteps
    rw [heard_run hsound hfirst fun step hstep => (hsteps step hstep).1,
      heard_run hsound hsecond fun step hstep => (hsteps step hstep).2]
  · rw [heard_step hsound]
    split
    · cases editor.changeOf? (.render mode) <;> simp
    · exact Nat.zero_le _

/-- The second of two listeners, which comes late and leaves early, while a form is rendered for
editing, edited, edited to the same effect and reset. -/
theorem late_listener_hears_its_changes :
    (∀ step ∈ [Step.render .edit, .setValue "a" "x", .setValue "a" "x", .reset .null .null],
      ¬ step.Removes 2) ∧
    heard 2 ((Editor.new (.obj []) (some .sample)).run
      ([.onChange] ++ .onChange :: ([.render .edit, .setValue "a" "x", .setValue "a" "x",
        .reset .null .null] ++ .offChange 2 :: [.setValue "a" "y"]))) =
      [⟨.obj [], .obj [("a", .null), ("b", .obj [("c", .null)])]⟩,
        ⟨.obj [("a", .null), ("b", .obj [("c", .null)])],
          .obj [("a", .str "x"), ("b", .obj [("c", .null)])]⟩] := by
  have hsteps : ∀ step ∈ [Step.render .edit, .setValue "a" "x", .setValue "a" "x",
      .reset .null .null], ¬ step.Removes 2 := by
    intro step hstep
    simp only [List.mem_cons, List.not_mem_nil, or_false] at hstep
    rcases hstep with rfl | rfl | rfl | rfl <;> exact id
  obtain ⟨hlate, -⟩ := listeners_hear_every_change (.new (.obj []) (some .sample))
  exact ⟨hsteps, ((hlate [.onChange] _ [.setValue "a" "y"]).2 hsteps).2.trans rfl⟩

end Editor

end FormTree
