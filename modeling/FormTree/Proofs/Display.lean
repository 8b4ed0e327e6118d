import FormTree.Proofs.Number.Text
import FormTree.Proofs.Widget

/-!
# Inputs that are shown and submitted again

What an input has stored is shown to be edited, and what is shown is an input with the same result
(`shown_input_is_kept`). A text is shown as it is. A number is shown as a text that is read as the
number again, and as a number of its kind: an integer in plain notation, and a binary64 number as
its shortest decimal, which is never taken for an integer.
-/

namespace FormTree

open Numeral

variable {raw : String} {kind : InputKind} {text : List Char} {v : Value}

theorem coerce_of_not_numeric (hraw : raw ≠ "") (hkind : kind.isNumeric = false) :
    coerce raw kind = .ok (.str raw) := by
  rw [coerce, if_neg (mt String.isEmpty_iff.1 hraw), hkind]
  rfl

/-- What is typed is stored as an integer that a word holds, or else as a binary64 number, which
an integer widget does not store. -/
theorem typedNumber?_cases {m : Number} (h : typedNumber? kind text = some m) :
    (∃ i, m = .int i ∧ Number.InWordRange i) ∨ kind ≠ .integer ∧ ∃ x, m = .float x := by
  rw [typedNumber?] at h
  split at h
  · next i hi =>
    obtain rfl := Option.some.inj h
    exact .inl ⟨i, rfl, of_decide_eq_true (Option.filter_eq_some_iff.1 hi).2⟩
  · simp only [Option.bind_eq_some_iff] at h
    obtain ⟨amount, -, x, -, hx⟩ := h
    by_cases hkind : kind = .integer
    · subst hkind
      obtain ⟨i, -, hrange, rfl⟩ := numberOf?_integer.1 hx
      refine .inl ⟨i, rfl, ?_⟩
      rw [Number.InWordRange]
      omega
    · rw [numberOf?, if_neg hkind] at hx
      exact .inr ⟨hkind, x, (Option.some.inj hx).symm⟩

theorem coerce_toString {i : ℤ} (hrange : Number.InWordRange i) (hkind : kind.isNumeric = true) :
    coerce (toString i) kind = .ok (.num (.int i)) := by
  have hspells := spells_toString i
  rw [← trim_eq_self hspells.not_isBlank] at hspells
  exact coerce_of_inWordRange hspells hrange hkind

/-- What is shown of a binary64 number stores the number, except in an integer widget. -/
theorem coerce_text (x : Binary64) (hkind : kind.isNumeric = true) (hdecimal : kind ≠ .integer) :
    coerce x.text kind = .ok (.num (.float x)) := by
  obtain ⟨sign, body, htext, hsign, hbody⟩ := x.exists_writes_text
  have htrim : trim x.text.toList = x.text.toList := by
    refine trim_eq_self ?_
    rw [htext]
    exact List.forall_mem_append.2 ⟨hsign.not_isBlank, hbody.not_isBlank⟩
  have hplain : ∀ i, ¬ Spells x.text.toList i := by
    rw [htext]
    exact hbody.not_spells hsign
  obtain ⟨amount, hamount, hx⟩ := x.exists_decimal?_text
  have hne : x.text ≠ "" := by
    intro hempty
    rw [hempty] at hamount
    exact Option.some_ne_none amount hamount.symm
  refine (coerce_numeric_eq_ok hne hkind).2 ⟨_, ?_, rfl⟩
  rw [htrim, typedNumber?_of_not_spells hplain, hamount, Option.bind_some, hx, Option.bind_some,
    numberOf?, if_neg hdecimal]

/-- An input that is shown to be edited, and submitted as it is shown, stores what is there
already. -/
theorem shown_input_is_kept (h : coerce raw kind = .ok v) (settings : Settings) :
    coerce (display v kind false settings) kind = .ok v := by
  by_cases hraw : raw = ""
  · subst hraw
    obtain rfl := Except.ok.inj h
    exact h
  cases hkind : kind.isNumeric with
  | false =>
    obtain rfl : .str raw = v := Except.ok.inj ((coerce_of_not_numeric hraw hkind).symm.trans h)
    exact h
  | true =>
    obtain ⟨m, hm, rfl⟩ := (coerce_numeric_eq_ok hraw hkind).1 h
    obtain ⟨i, rfl, hrange⟩ | ⟨hdecimal, x, rfl⟩ := typedNumber?_cases hm
    · exact coerce_toString hrange hkind
    · exact coerce_text x hkind hdecimal

/-- The greatest number below one has sixteen digits, with blanks and zeros around them. -/
theorem typed_decimal_is_shown_short :
    let x : Binary64 := ⟨false, 0x1fffffffffffff, -53, by decide⟩
    coerce " +000.99999999999999990 " .number = .ok (.num (.float x)) ∧
      display (.num (.float x)) .number false .standard = "0.9999999999999999" ∧
      coerce (display (.num (.float x)) .number false .standard) .number =
        .ok (.num (.float x)) := by
  intro x
  have hx : coerce " +000.99999999999999990 " .number = .ok (.num (.float x)) := rfl
  exact ⟨hx, by decide +kernel, shown_input_is_kept hx .standard⟩

end FormTree
