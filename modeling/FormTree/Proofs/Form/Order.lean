import FormTree.Proofs.Form.Change
import FormTree.Proofs.Form.Filled
import FormTree.Proofs.Tree.Order

/-!
# Sessions keep their values in order

What is known of plans is known of values and schemas in order (`Value.Ordered`). A session which is
given such values has no others: edits keep the value in order, planning fills it in order, and what
a pending edit has saved is a part of it.
-/

namespace FormTree

open Value

namespace Outline

variable {v : Value} {branches : List Branch} {members : List (String × Value)}

mutual

theorem ordered_fill : (outline : Outline) → {held : Option Value} →
    (∀ v, held = some v → v.Ordered) → (fill outline held).Ordered
  | .leaf _, _, h => ordered_opened false h
  | .group branches, held, h => by
    have hopened : (opened true held).Ordered := ordered_opened true h
    by_cases hadmits : Child.Admits (keys branches) held
    · obtain ⟨members, hmembers⟩ := hadmits.exists_members
      rw [fill_group_of_admits hmembers hadmits]
      exact ordered_fillBelow branches (hmembers ▸ hopened)
    · rw [fill_group_of_not_admits hadmits]
      exact hopened

theorem ordered_fillBelow : (branches : List Branch) → {members : List (String × Value)} →
    (Value.obj members).Ordered → (Value.obj (fillBelow branches members)).Ordered
  | [], _, h => h
  | (key, _, outline) :: rest, _, h =>
    have hfirst := ordered_fill outline fun _ hx => h.of_member? hx
    ordered_fillBelow rest (h.put hfirst key)

end

end Outline

theorem Schema.ordered_fill {v : Value} (schema : Schema) (hv : v.Ordered) :
    (schema.fill v).Ordered :=
  Outline.ordered_fill _ fun _ hx => Option.some.inj hx ▸ hv

theorem Schema.root_of_compileBy {build : Builder} {root : Value} {schema : Schema}
    (h : Schema.compileBy build root = .ok schema) : schema.root = root := by
  rw [Schema.compileBy] at h
  split at h
  · split at h
    · exact congrArg Schema.root (Except.ok.inj h).symm
    · exact absurd h (by simp)
  · exact absurd h (by simp)

theorem Schema.root_of_ofSlotBy {build : Builder} {slot : Value} {schema : Schema}
    (h : Schema.ofSlotBy build slot = .ok (some schema)) : schema.root = slot := by
  unfold Schema.ofSlotBy at h
  split at h
  · exact absurd h (by simp)
  · exact absurd h (by simp)
  · obtain ⟨made, hmade, heq⟩ := except_map_eq_ok.1 h
    exact Option.some.inj heq ▸ Schema.root_of_compileBy hmade

namespace Editor

variable {editor : Editor} {step : Step} {outcome : Outcome} {steps : List Step}

/-- Value and schema are in order, and so is what a pending edit has saved. -/
structure InOrder (editor : Editor) : Prop where
  value : editor.value.Ordered
  schema : ∀ schema, editor.schema = some schema → schema.root.Ordered
  saved : ∀ pending, editor.slot = .editing pending → pending.saved.Ordered

theorem inOrder_of_idle (hvalue : editor.value.Ordered)
    (hschema : ∀ schema, editor.schema = some schema → schema.root.Ordered)
    (hidle : editor.slot = .idle) : editor.InOrder where
  value := hvalue
  schema := hschema
  saved := by
    intro pending hslot
    rw [hidle] at hslot
    exact KeySlot.noConfusion hslot

theorem InOrder.edited {root : Value} (h : editor.InOrder) (hroot : root.Ordered)
    (answer : Answer) : (editor.edited .idle root answer).editor.InOrder :=
  inOrder_of_idle (install_value_cases h.value hroot) ((edited_schema editor _ _ _).symm ▸ h.schema)
    (edited_slot editor _ _ _)

theorem InOrder.installPlan (h : editor.InOrder) (mode : Mode) (findings : List Finding) :
    (editor.installPlan (editor.plan mode findings)).1.InOrder where
  value := by
    by_cases hgrows : mode = .edit ∧ editor.schema.isSome
    · obtain ⟨rfl, hsome⟩ := hgrows
      obtain ⟨schema, hschema⟩ := Option.isSome_iff_exists.1 hsome
      rw [installPlan_edit hschema]
      exact install_value_cases h.value (schema.ordered_fill h.value)
    · rw [installPlan_of_not_grows hgrows]
      exact h.value
  schema := (installPlan_schema editor _).symm ▸ h.schema
  saved := (installPlan_slot editor _).symm ▸ h.saved

theorem inOrder_of_accepts (h : editor.InOrder) (haccepts : Accepts editor step outcome)
    (hreset : ∀ value slot build, step = .reset value slot build →
      value.Ordered ∧ slot.Ordered) :
    outcome.editor.InOrder := by
  cases haccepts with
  | addKey hfree hidle hkeys hroot =>
    obtain ⟨hnext, hsaved⟩ := Edit.ordered_addKey h.value hroot
    refine ⟨install_value_cases h.value hnext, (edited_schema editor _ _ _).symm ▸ h.schema, ?_⟩
    intro pending hslot
    rw [edited_slot] at hslot
    exact KeySlot.editing.inj hslot ▸ hsaved
  | beginRename hfree hidle hkeys hne hcurrent =>
    refine ⟨h.value, h.schema, fun pending hslot => ?_⟩
    obtain rfl := KeySlot.editing.inj hslot
    exact h.value.of_get? hcurrent
  | renameKey hslot hkeys hroot => exact h.edited (Edit.ordered_renameKey h.value hroot) _
  | abandonKeyEdit hslot hkeys hroot =>
    exact h.edited (Edit.ordered_abandonKeyEdit h.value (h.saved _ hslot) hroot) _
  | deleteKey hfree hidle hkeys hroot => exact h.edited (Edit.ordered_deleteKey h.value hroot) _
  | setValue hidle hkeys hkind hroot => exact h.edited (Edit.ordered_setValue h.value hroot) _
  | render mode =>
    rw [(rendered_eq editor mode).1, grown]
    split
    · exact h.installPlan mode []
    · exact h
  | renderWith mode findings => exact h.installPlan mode findings
  | validate => exact h
  | validateWith validator => exact h
  | reset hschema =>
    obtain ⟨hvalue, hslot⟩ := hreset _ _ _ rfl
    refine inOrder_of_idle hvalue (fun schema hsome => ?_) rfl
    rw [Schema.root_of_ofSlotBy (hschema.trans (congrArg Except.ok hsome))]
    exact hslot
  | onChange => exact ⟨h.value, h.schema, h.saved⟩
  | offChange listener => exact ⟨h.value, h.schema, h.saved⟩

/-- A session that is given nothing out of order has nothing out of order. -/
theorem inOrder_after (h : editor.InOrder)
    (hresets : ∀ value slot build, Step.reset value slot build ∈ steps →
      value.Ordered ∧ slot.Ordered) :
    (editor.after steps).InOrder := by
  induction steps generalizing editor with
  | nil => exact h
  | cons step rest ih =>
    have hstep : (editor.step step).editor.InOrder := by
      obtain ⟨fault, hrefused⟩ | haccepts := step_cases editor step
      · rw [hrefused]
        exact h
      · exact inOrder_of_accepts h haccepts fun value slot build heq =>
          hresets value slot build (heq ▸ List.mem_cons_self)
    exact ih hstep fun value slot build hmem =>
      hresets value slot build (List.mem_cons_of_mem step hmem)

end Editor

end FormTree
