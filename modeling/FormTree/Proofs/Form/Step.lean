import FormTree.Form.Editor
import FormTree.Proofs.Tree.KeySlot

/-!
# What a step does

A step is a program with checks and writes in its own order. Two facts about it carry everything
else. Its program is atomic, so a step that is refused leaves the editor as it was and tells no
listener. And a step that is not refused has one of the outcomes listed by `Accepts`, each with the
checks that it passed; the list is complete in both directions, so later proofs go by its cases and
open no program.
-/

namespace FormTree

def Outcome.Accepted (outcome : Outcome) : Prop := ∃ answer, outcome.answer = .ok answer

namespace Editor

open Program

variable {α : Type}

/-! ### The parts of a step -/

theorem start_current_bind (next : Editor → Action α) (session : Session) :
    (current >>= next).start session = (next session.editor).start session := rfl

theorem start_change_bind (f : Editor → Editor × List Event) (next : Unit → Action α)
    (session : Session) : (change f >>= next).start session =
      (next ()).start ⟨(f session.editor).1, session.events ++ (f session.editor).2⟩ := rfl

theorem start_adjust_bind (f : Editor → Editor) (next : Unit → Action α) (session : Session) :
    (adjust f >>= next).start session =
      (next ()).start ⟨f session.editor, session.events ++ []⟩ := rfl

/-- A session whose editor has another state of the slot. -/
def Session.withSlot (session : Session) (slot : KeySlot) : Session :=
  { session with editor := { session.editor with slot } }

theorem start_onSlot_bind_eq_ok {β : Type} {call : KeySlot.Call α} {next : α → Action β}
    {session left : Session} {y : β} : (onSlot call >>= next).start session = (.ok y, left) ↔
      ∃ x slot, call.start session.editor.slot = (.ok x, slot) ∧
        (next x).start (session.withSlot slot) = (.ok y, left) := by
  rw [start_bind_eq_ok]
  simp only [onSlot, start_within, Prod.mk.injEq]
  constructor
  · rintro ⟨x, _, ⟨hx, rfl⟩, hnext⟩
    exact ⟨x, _, Prod.ext hx rfl, hnext⟩
  · rintro ⟨x, slot, hcall, hnext⟩
    refine ⟨x, session.withSlot slot, ⟨?_, ?_⟩, hnext⟩
    · rw [hcall]
    · rw [hcall]
      rfl

theorem ensureFreeKeys_eq_ok {editor : Editor} :
    editor.ensureFreeKeys = .ok () ↔ editor.schema = none := by
  unfold ensureFreeKeys
  cases editor.schema <;> simp

theorem decode_eq_ok {path : String} {keys : KeyPath} :
    decode path = .ok keys ↔ Dotted.decode path = .ok keys := by
  unfold decode
  cases Dotted.decode path <;> simp

/-! ### A refused step leaves no trace -/

theorem reads_current : current.Reads := reads_get.bind fun _ => reads_pure _

theorem succeeds_current : current.Succeeds := succeeds_get.bind fun _ => succeeds_pure _

theorem succeeds_change (f : Editor → Editor × List Event) : (change f).Succeeds :=
  succeeds_modify _

theorem succeeds_adjust (f : Editor → Editor) : (adjust f).Succeeds := succeeds_change _

theorem succeeds_draw (mode : Mode) (findings : List Finding) : (draw mode findings).Succeeds :=
  succeeds_current.bind fun _ => (succeeds_change _).bind fun _ => succeeds_pure _

theorem atomic_onSlot {call : KeySlot.Call α} (h : call.Atomic) : (onSlot call).Atomic :=
  h.within fun _ => rfl

theorem succeeds_install_answer (root : Value) (answer : Answer) :
    (change (install · root) >>= fun _ => pure answer : Action Answer).Succeeds :=
  (succeeds_change _).bind fun _ => succeeds_pure _

theorem atomic_perform (step : Step) : (perform step).Atomic := by
  cases step with
  | addKey path =>
    refine .after reads_current fun _ => .after (reads_liftM _) fun _ => ?_
    refine .after (reads_liftM _) fun keys => .after reads_current fun editor => ?_
    refine (atomic_onSlot (KeySlot.Call.atomic_beginAdd editor.value keys)).bind fun root => ?_
    exact (succeeds_change _).bind fun _ => succeeds_current.bind fun _ => succeeds_pure _
  | beginRename path =>
    refine .after reads_current fun _ => .after (reads_liftM _) fun _ => ?_
    refine .after (reads_liftM _) fun keys => .after reads_current fun editor => ?_
    refine (atomic_onSlot (KeySlot.Call.atomic_beginRename editor.value keys)).bind fun _ => ?_
    exact succeeds_pure _
  | renameKey path newKey =>
    refine .after (reads_liftM _) fun keys => .after reads_current fun editor => ?_
    refine (atomic_onSlot (KeySlot.Call.atomic_commitRename editor.value keys newKey)).bind ?_
    exact fun root => succeeds_install_answer root _
  | abandonKeyEdit path =>
    refine .after (reads_liftM _) fun keys => .after reads_current fun editor => ?_
    refine (atomic_onSlot (KeySlot.Call.atomic_abandon editor.value keys)).bind ?_
    exact fun root => succeeds_install_answer root _
  | deleteKey path =>
    refine .after reads_current fun _ => .after (reads_liftM _) fun _ => ?_
    refine .after reads_current fun _ => .after (reads_liftM _) fun _ => ?_
    refine .after (reads_liftM _) fun keys => .after reads_current fun editor => ?_
    refine .after (reads_liftM _) fun root => ?_
    exact (succeeds_install_answer root _).atomic
  | setValue path raw =>
    refine .after reads_current fun _ => .after (reads_liftM _) fun _ => ?_
    refine .after (reads_liftM _) fun keys => .after reads_current fun _ => ?_
    refine .after (reads_liftM _) fun kind => .after reads_current fun editor => ?_
    refine .after (reads_liftM _) fun root => ?_
    exact (succeeds_install_answer root _).atomic
  | render mode =>
    refine .after reads_current fun editor => Succeeds.atomic ?_
    have hdraw : (current >>= fun grown => draw mode grown.findings).Succeeds :=
      succeeds_current.bind fun grown => succeeds_draw mode grown.findings
    split
    · exact (succeeds_change _).bind fun _ => hdraw
    · exact hdraw
  | renderWith mode findings => exact (succeeds_draw mode findings).atomic
  | validate => exact (succeeds_current.bind fun _ => succeeds_pure _).atomic
  | validateWith validator => exact (succeeds_current.bind fun _ => succeeds_pure _).atomic
  | reset value slot build =>
    refine .after (reads_liftM _) fun schema => Succeeds.atomic ?_
    exact (succeeds_adjust _).bind fun _ => succeeds_pure _
  | onChange =>
    refine Succeeds.atomic (succeeds_current.bind fun editor => ?_)
    exact (succeeds_adjust _).bind fun _ => succeeds_pure _
  | offChange listener =>
    refine Succeeds.atomic (succeeds_current.bind fun editor => ?_)
    exact (succeeds_adjust _).bind fun _ => succeeds_pure _

theorem step_of_start {editor : Editor} {step : Step} {answer : Except FieldError Answer}
    {left : Session} (h : (perform step).start ⟨editor, []⟩ = (answer, left)) :
    editor.step step = ⟨left.editor, answer, left.events⟩ := by
  simp only [Editor.step, h]

theorem step_of_error {editor : Editor} {step : Step} {fault : FieldError}
    (h : (editor.step step).answer = .error fault) :
    editor.step step = ⟨editor, .error fault, []⟩ := by
  have hfail : ((perform step).start ⟨editor, []⟩).1 = .error fault := h
  have hleft : ((perform step).start ⟨editor, []⟩).2 = ⟨editor, []⟩ :=
    atomic_perform step _ fault _ (Prod.ext hfail rfl)
  exact step_of_start (Prod.ext hfail hleft)

/-- Whatever a step is refused for, the editor is afterwards what it was before, in its value,
schema, settings, pending edit and listeners, and no listener is told anything. -/
theorem refused_step_leaves_no_trace {editor : Editor} {step : Step} {fault : FieldError}
    (h : (editor.step step).answer = .error fault) :
    (editor.step step).editor = editor ∧ (editor.step step).events = [] := by
  rw [step_of_error h]
  exact ⟨rfl, rfl⟩

/-- A rename that meets another key, while a listener is there to be told. -/
theorem refused_rename_leaves_no_trace :
    let editor := (Editor.new (.obj [("a", .num (.int 1)), ("b", .null)]) none).after
      [.onChange, .beginRename "a"]
    (editor.step (.renameKey "a" "b")).answer = .error (.keyCollision "b") ∧
      (editor.step (.renameKey "a" "b")).editor = editor ∧
      (editor.step (.renameKey "a" "b")).events = [] :=
  ⟨rfl, refused_step_leaves_no_trace rfl⟩

/-! ### The outcomes of an accepted step -/

/-- A new root is taken over, under a state of the slot. -/
def edited (editor : Editor) (slot : KeySlot) (root : Value) (answer : Answer) : Outcome :=
  let taken := { editor with slot }.install root
  ⟨taken.1, .ok answer, taken.2⟩

/-- The value stays as it is, and listeners are told nothing. -/
def answered (editor : Editor) (answer : Answer) : Outcome := ⟨editor, .ok answer, []⟩

/-- A plan with given findings, and the editor with what planning created. -/
def drawn (editor : Editor) (mode : Mode) (findings : List Finding) : Outcome :=
  let plan := editor.plan mode findings
  let taken := editor.installPlan plan
  ⟨taken.1, .ok (.plan plan), taken.2⟩

/-- The editor with what planning without findings creates, if it is to be drawn for editing under a
schema. -/
def grown (editor : Editor) (mode : Mode) : Editor × List Event :=
  if mode = .edit ∧ editor.schema.isSome then editor.installPlan (editor.plan mode [])
  else (editor, [])

/-- A plan with the findings of the value that it shows. -/
def rendered (editor : Editor) (mode : Mode) : Outcome :=
  let grown := editor.grown mode
  let outcome := grown.1.drawn mode grown.1.findings
  { outcome with events := grown.2 ++ outcome.events }

/-- The outcomes of steps that are not refused, with the checks that such a step passes. -/
inductive Accepts (editor : Editor) : Step → Outcome → Prop
  | addKey {path : Option String} {keys : KeyPath} {root : Value} {pending : PendingEdit}
      (hfree : editor.schema = none) (hidle : editor.slot = .idle)
      (hkeys : Dotted.decode (path.getD "") = .ok keys)
      (hroot : Edit.addKey editor.value keys = .ok (root, pending)) :
      Accepts editor (.addKey path)
        (editor.edited (.editing pending) root (.newKey pending.encodedPath))
  | beginRename {path : String} {keys : KeyPath} {current : Value}
      (hfree : editor.schema = none) (hidle : editor.slot = .idle)
      (hkeys : Dotted.decode path = .ok keys) (hne : keys ≠ [])
      (hcurrent : editor.value.get? keys = some current) :
      Accepts editor (.beginRename path)
        ({ editor with slot := .editing ⟨keys, current⟩ }.answered .done)
  | renameKey {path newKey : String} {pending : PendingEdit} {root : Value}
      (hslot : editor.slot = .editing pending) (hkeys : Dotted.decode path = .ok pending.path)
      (hroot : Edit.renameKey editor.value pending.path newKey = .ok root) :
      Accepts editor (.renameKey path newKey) (editor.edited .idle root .done)
  | abandonKeyEdit {path : String} {pending : PendingEdit} {root : Value}
      (hslot : editor.slot = .editing pending) (hkeys : Dotted.decode path = .ok pending.path)
      (hroot : Edit.abandonKeyEdit editor.value pending = .ok root) :
      Accepts editor (.abandonKeyEdit path) (editor.edited .idle root .done)
  | deleteKey {path : String} {keys : KeyPath} {root : Value}
      (hfree : editor.schema = none) (hidle : editor.slot = .idle)
      (hkeys : Dotted.decode path = .ok keys)
      (hroot : Edit.deleteKey editor.value keys = .ok root) :
      Accepts editor (.deleteKey path) (editor.edited .idle root .done)
  | setValue {path raw : String} {keys : KeyPath} {kind : InputKind} {root : Value}
      (hidle : editor.slot = .idle) (hkeys : Dotted.decode path = .ok keys)
      (hkind : editor.kindAt keys = .ok kind)
      (hroot : Edit.setValue editor.value keys raw kind = .ok root) :
      Accepts editor (.setValue path raw) (editor.edited .idle root .done)
  | render (mode : Mode) : Accepts editor (.render mode) (editor.rendered mode)
  | renderWith (mode : Mode) (findings : List Finding) :
      Accepts editor (.renderWith mode findings) (editor.drawn mode findings)
  | validate : Accepts editor .validate (editor.answered (.findings editor.findings))
  | validateWith (validator : Validator) :
      Accepts editor (.validateWith validator)
        (editor.answered (.findings (editor.findingsBy validator)))
  | reset {value slot : Value} {build : Builder} {schema : Option Schema}
      (hschema : Schema.ofSlotBy build slot = .ok schema) :
      Accepts editor (.reset value slot build)
        ({ editor with value, schema, slot := .idle }.answered .done)
  | onChange :
      Accepts editor .onChange
        ({ editor with
            listeners := editor.listeners ++ [editor.nextListener]
            nextListener := editor.nextListener + 1 }.answered (.listener editor.nextListener))
  | offChange (listener : Nat) :
      Accepts editor (.offChange listener)
        ({ editor with listeners := editor.listeners.filter (· ≠ listener) }.answered
          (.removed (editor.listeners.contains listener)))

theorem install_slot (editor : Editor) (root : Value) :
    (editor.install root).1.slot = editor.slot := by
  unfold install
  split <;> rfl

theorem start_draw (mode : Mode) (findings : List Finding) (session : Session) :
    (draw mode findings).start session =
      (.ok (.plan (session.editor.plan mode findings)),
        ⟨(session.editor.drawn mode findings).editor,
          session.events ++ (session.editor.drawn mode findings).events⟩) := rfl

theorem accepts_of_install {editor : Editor} {step : Step} {slot : KeySlot} {root : Value}
    {given answer : Answer} {left : Session}
    (haccepts : Accepts editor step (editor.edited slot root given))
    (hleft : (change (install · root) >>= fun _ => pure given : Action Answer).start
      ⟨{ editor with slot }, []⟩ = (.ok answer, left)) :
    Accepts editor step ⟨left.editor, .ok answer, left.events⟩ := by
  simp only [start_change_bind, start_pure, Prod.mk.injEq, Except.ok.injEq] at hleft
  obtain ⟨rfl, rfl⟩ := hleft
  exact haccepts

theorem accepts_of_start {editor : Editor} {step : Step} {answer : Answer} {left : Session}
    (h : (perform step).start ⟨editor, []⟩ = (.ok answer, left)) :
    Accepts editor step ⟨left.editor, .ok answer, left.events⟩ := by
  -- Each program is opened at its checks, in their order; what remains is what it writes.
  cases step with
  | addKey path =>
    simp only [perform, start_current_bind, start_liftM_bind_eq_ok, start_onSlot_bind_eq_ok,
      start_change_bind, start_pure, install_slot, decode_eq_ok, Prod.mk.injEq,
      Except.ok.injEq] at h
    obtain ⟨_, hfree, keys, hkeys, root, slot, hcall, rfl, rfl⟩ := h
    obtain ⟨hidle, pending, hroot, rfl⟩ := KeySlot.Call.beginAdd_eq_ok.1 hcall
    exact .addKey (ensureFreeKeys_eq_ok.1 hfree) hidle hkeys hroot
  | beginRename path =>
    simp only [perform, start_current_bind, start_liftM_bind_eq_ok, start_onSlot_bind_eq_ok,
      start_pure, decode_eq_ok, Prod.mk.injEq, Except.ok.injEq] at h
    obtain ⟨_, hfree, keys, hkeys, _, slot, hcall, rfl, rfl⟩ := h
    obtain ⟨hidle, hne, current, hcurrent, rfl⟩ := KeySlot.Call.beginRename_eq_ok.1 hcall
    exact .beginRename (ensureFreeKeys_eq_ok.1 hfree) hidle hkeys hne hcurrent
  | renameKey path newKey =>
    simp only [perform, start_current_bind, start_liftM_bind_eq_ok, start_onSlot_bind_eq_ok,
      decode_eq_ok] at h
    obtain ⟨keys, hkeys, root, slot, hcall, hleft⟩ := h
    obtain ⟨⟨pending, hslot, rfl⟩, hroot, rfl⟩ := KeySlot.Call.commitRename_eq_ok.1 hcall
    exact accepts_of_install (.renameKey hslot hkeys hroot) hleft
  | abandonKeyEdit path =>
    simp only [perform, start_current_bind, start_liftM_bind_eq_ok, start_onSlot_bind_eq_ok,
      decode_eq_ok] at h
    obtain ⟨keys, hkeys, root, slot, hcall, hleft⟩ := h
    obtain ⟨⟨pending, hslot, rfl, hroot⟩, rfl⟩ := KeySlot.Call.abandon_eq_ok.1 hcall
    exact accepts_of_install (.abandonKeyEdit hslot hkeys hroot) hleft
  | deleteKey path =>
    simp only [perform, start_current_bind, start_liftM_bind_eq_ok, decode_eq_ok] at h
    obtain ⟨_, hfree, _, hidle, keys, hkeys, root, hroot, hleft⟩ := h
    have hslot : editor.slot = .idle := KeySlot.ensureIdle_eq_ok.1 hidle
    refine accepts_of_install (.deleteKey (ensureFreeKeys_eq_ok.1 hfree) hslot hkeys hroot) ?_
    rwa [← hslot]
  | setValue path raw =>
    simp only [perform, start_current_bind, start_liftM_bind_eq_ok, decode_eq_ok] at h
    obtain ⟨_, hidle, keys, hkeys, kind, hkind, root, hroot, hleft⟩ := h
    have hslot : editor.slot = .idle := KeySlot.ensureIdle_eq_ok.1 hidle
    refine accepts_of_install (.setValue hslot hkeys hkind hroot) ?_
    rwa [← hslot]
  | render mode =>
    simp only [perform, start_current_bind] at h
    have hrendered : Accepts editor (.render mode) (editor.rendered mode) := .render mode
    unfold rendered grown at hrendered
    split at h
    · next hgrows =>
      rw [if_pos hgrows] at hrendered
      simp only [start_change_bind, start_current_bind, start_draw, Prod.mk.injEq,
        Except.ok.injEq] at h
      obtain ⟨rfl, rfl⟩ := h
      exact hrendered
    · next hgrows =>
      rw [if_neg hgrows] at hrendered
      simp only [start_current_bind, start_draw, Prod.mk.injEq, Except.ok.injEq] at h
      obtain ⟨rfl, rfl⟩ := h
      exact hrendered
  | renderWith mode findings =>
    simp only [perform, start_draw, Prod.mk.injEq, Except.ok.injEq] at h
    obtain ⟨rfl, rfl⟩ := h
    exact .renderWith mode findings
  | validate =>
    simp only [perform, start_current_bind, start_pure, Prod.mk.injEq, Except.ok.injEq] at h
    obtain ⟨rfl, rfl⟩ := h
    exact .validate
  | validateWith validator =>
    simp only [perform, start_current_bind, start_pure, Prod.mk.injEq, Except.ok.injEq] at h
    obtain ⟨rfl, rfl⟩ := h
    exact .validateWith validator
  | reset value slot build =>
    simp only [perform, start_liftM_bind_eq_ok, start_adjust_bind, start_pure, Prod.mk.injEq,
      Except.ok.injEq] at h
    obtain ⟨schema, hschema, rfl, rfl⟩ := h
    exact .reset hschema
  | onChange =>
    simp only [perform, start_current_bind, start_adjust_bind, start_pure, Prod.mk.injEq,
      Except.ok.injEq] at h
    obtain ⟨rfl, rfl⟩ := h
    exact .onChange
  | offChange listener =>
    simp only [perform, start_current_bind, start_adjust_bind, start_pure, Prod.mk.injEq,
      Except.ok.injEq] at h
    obtain ⟨rfl, rfl⟩ := h
    exact .offChange listener

theorem start_of_accepts {editor : Editor} {step : Step} {outcome : Outcome}
    (h : Accepts editor step outcome) : ∃ answer, outcome.answer = .ok answer ∧
      (perform step).start ⟨editor, []⟩ = (.ok answer, ⟨outcome.editor, outcome.events⟩) := by
  cases h with
  | addKey hfree hidle hkeys hroot =>
    refine ⟨_, rfl, ?_⟩
    simp only [perform, start_current_bind, start_liftM_bind_eq_ok, start_onSlot_bind_eq_ok,
      decode_eq_ok]
    refine ⟨(), ensureFreeKeys_eq_ok.2 hfree, _, hkeys, _, _,
      KeySlot.Call.beginAdd_eq_ok.2 ⟨hidle, _, hroot, rfl⟩, ?_⟩
    rw [start_change_bind, start_current_bind, install_slot]
    rfl
  | beginRename hfree hidle hkeys hne hcurrent =>
    refine ⟨_, rfl, ?_⟩
    simp only [perform, start_current_bind, start_liftM_bind_eq_ok, start_onSlot_bind_eq_ok,
      decode_eq_ok]
    exact ⟨(), ensureFreeKeys_eq_ok.2 hfree, _, hkeys, (), _,
      KeySlot.Call.beginRename_eq_ok.2 ⟨hidle, hne, _, hcurrent, rfl⟩, rfl⟩
  | renameKey hslot hkeys hroot =>
    refine ⟨_, rfl, ?_⟩
    simp only [perform, start_current_bind, start_liftM_bind_eq_ok, start_onSlot_bind_eq_ok,
      decode_eq_ok]
    exact ⟨_, hkeys, _, _, KeySlot.Call.commitRename_eq_ok.2 ⟨⟨_, hslot, rfl⟩, hroot, rfl⟩, rfl⟩
  | abandonKeyEdit hslot hkeys hroot =>
    refine ⟨_, rfl, ?_⟩
    simp only [perform, start_current_bind, start_liftM_bind_eq_ok, start_onSlot_bind_eq_ok,
      decode_eq_ok]
    exact ⟨_, hkeys, _, _, KeySlot.Call.abandon_eq_ok.2 ⟨⟨_, hslot, rfl, hroot⟩, rfl⟩, rfl⟩
  | deleteKey hfree hidle hkeys hroot =>
    refine ⟨_, rfl, ?_⟩
    simp only [perform, start_current_bind, start_liftM_bind_eq_ok, decode_eq_ok]
    refine ⟨(), ensureFreeKeys_eq_ok.2 hfree, (), KeySlot.ensureIdle_eq_ok.2 hidle, _, hkeys, _,
      hroot, ?_⟩
    rw [edited, ← hidle]
    rfl
  | setValue hidle hkeys hkind hroot =>
    refine ⟨_, rfl, ?_⟩
    simp only [perform, start_current_bind, start_liftM_bind_eq_ok, decode_eq_ok]
    refine ⟨(), KeySlot.ensureIdle_eq_ok.2 hidle, _, hkeys, _, hkind, _, hroot, ?_⟩
    rw [edited, ← hidle]
    rfl
  | render mode =>
    refine ⟨_, rfl, ?_⟩
    simp only [perform, start_current_bind, rendered, grown]
    split
    · rfl
    · rfl
  | renderWith mode findings => exact ⟨_, rfl, rfl⟩
  | validate => exact ⟨_, rfl, rfl⟩
  | validateWith validator => exact ⟨_, rfl, rfl⟩
  | reset hschema =>
    refine ⟨_, rfl, ?_⟩
    simp only [perform, start_liftM_bind_eq_ok]
    exact ⟨_, hschema, rfl⟩
  | onChange => exact ⟨_, rfl, rfl⟩
  | offChange listener => exact ⟨_, rfl, rfl⟩

/-- The outcomes in the list are those of the steps that are not refused, and all of them. -/
theorem accepts_iff {editor : Editor} {step : Step} {outcome : Outcome} :
    Accepts editor step outcome ↔ editor.step step = outcome ∧ outcome.Accepted := by
  constructor
  · intro h
    obtain ⟨answer, hanswer, hstart⟩ := start_of_accepts h
    refine ⟨?_, answer, hanswer⟩
    rw [step_of_start hstart, ← hanswer]
  · rintro ⟨hstep, answer, hanswer⟩
    have hstart : (perform step).start ⟨editor, []⟩ =
        (.ok answer, ((perform step).start ⟨editor, []⟩).2) := by
      refine Prod.ext ?_ rfl
      rw [← hstep] at hanswer
      exact hanswer
    rw [← hstep, step_of_start hstart]
    exact accepts_of_start hstart

/-- Every step is refused without a trace, or has an outcome of the list. -/
theorem step_cases (editor : Editor) (step : Step) :
    (∃ fault, editor.step step = ⟨editor, .error fault, []⟩) ∨
      Accepts editor step (editor.step step) := by
  cases hanswer : (editor.step step).answer with
  | error fault => exact .inl ⟨fault, step_of_error hanswer⟩
  | ok answer => exact .inr (accepts_iff.2 ⟨rfl, answer, hanswer⟩)

theorem editor_of_not_accepted {editor : Editor} {step : Step} (h : ¬ (editor.step step).Accepted) :
    (editor.step step).editor = editor := by
  obtain ⟨fault, hstep⟩ | haccepts := step_cases editor step
  · rw [hstep]
  · exact absurd (accepts_iff.1 haccepts).2 h

end Editor

end FormTree
