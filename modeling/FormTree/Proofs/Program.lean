import FormTree.Program

/-!
# Programs that leave no trace when they fail

A program may write and then fail, so that a failure leaves no trace is a matter of order. Three
properties keep the argument short: a program that only reads, a program that cannot fail, and an
atomic one, whose failures leave the state as it was. Reading before something atomic is atomic, and
so is something atomic before what cannot fail.
-/

namespace FormTree

section Results

variable {ε α β : Type}

theorem except_bind_eq_ok {result : Except ε α} {next : α → Except ε β} {y : β} :
    result.bind next = .ok y ↔ ∃ x, result = .ok x ∧ next x = .ok y := by
  cases result <;> simp [Except.bind]

theorem except_bind_eq_error {result : Except ε α} {next : α → Except ε β} {fault : ε} :
    result.bind next = .error fault ↔
      result = .error fault ∨ ∃ x, result = .ok x ∧ next x = .error fault := by
  cases result <;> simp [Except.bind]

theorem except_map_eq_ok {result : Except ε α} {f : α → β} {y : β} :
    result.map f = .ok y ↔ ∃ x, result = .ok x ∧ f x = y := by
  cases result <;> simp [Except.map]

theorem except_map_eq_error {result : Except ε α} {f : α → β} {fault : ε} :
    result.map f = .error fault ↔ result = .error fault := by
  cases result <;> simp [Except.map]

end Results

namespace Program

variable {σ τ α β : Type}

/-! ### What the parts of a program do -/

@[simp] theorem start_pure (x : α) (s : σ) : (pure x : Program σ α).start s = (.ok x, s) := rfl

@[simp] theorem start_throw (fault : FieldError) (s : σ) :
    (throw fault : Program σ α).start s = (.error fault, s) := rfl

@[simp] theorem start_get (s : σ) : (get : Program σ σ).start s = (.ok s, s) := rfl

@[simp] theorem start_set (s new : σ) :
    (set new : Program σ PUnit).start s = (.ok ⟨⟩, new) := rfl

@[simp] theorem start_modify (f : σ → σ) (s : σ) :
    (modify f : Program σ PUnit).start s = (.ok ⟨⟩, f s) := rfl

@[simp] theorem start_liftM (result : Except FieldError α) (s : σ) :
    (liftM result : Program σ α).start s = (result, s) := rfl

theorem start_within (part : τ → σ) (put : σ → τ → τ) (program : Program σ α) (s : τ) :
    (program.within part put).start s =
      ((program.start (part s)).1, put (program.start (part s)).2 s) := rfl

theorem success_eq_ok_iff {program : Program σ α} {s left : σ} {x : α} :
    program.success s = .ok (left, x) ↔ program.start s = (.ok x, left) := by
  rw [success]
  rcases program.start s with ⟨fault | y, mid⟩
  · simp
  · simp [and_comm]

theorem start_bind (first : Program σ α) (next : α → Program σ β) (s : σ) :
    (first >>= next).start s =
      match first.start s with
      | (.ok x, left) => (next x).start left
      | (.error fault, left) => (.error fault, left) := by
  have hrun : (first >>= next).start s =
      StateT.run (ExceptT.bindCont next (first.start s).1) (first.start s).2 := rfl
  rw [hrun]
  rcases first.start s with ⟨fault | x, left⟩ <;> rfl

theorem start_bind_eq_ok {first : Program σ α} {next : α → Program σ β} {s left : σ} {y : β} :
    (first >>= next).start s = (.ok y, left) ↔
      ∃ x mid, first.start s = (.ok x, mid) ∧ (next x).start mid = (.ok y, left) := by
  rw [start_bind]
  constructor
  · intro hok
    split at hok
    · next x mid h => exact ⟨x, mid, h, hok⟩
    · simp at hok
  · rintro ⟨x, mid, h, hok⟩
    rw [h]
    exact hok

@[simp] theorem start_get_bind (next : σ → Program σ β) (s : σ) :
    (get >>= next : Program σ β).start s = (next s).start s := rfl

@[simp] theorem start_set_bind (next : PUnit → Program σ β) (s new : σ) :
    (set new >>= next : Program σ β).start s = (next ⟨⟩).start new := rfl

theorem start_liftM_bind_eq_ok {result : Except FieldError α} {next : α → Program σ β} {s left : σ}
    {y : β} : (liftM result >>= next : Program σ β).start s = (.ok y, left) ↔
      ∃ x, result = .ok x ∧ (next x).start s = (.ok y, left) := by
  rw [start_bind]
  cases result <;> simp

theorem start_liftM_bind_of_ok {result : Except FieldError α} {x : α} (h : result = .ok x)
    (next : α → Program σ β) (s : σ) :
    (liftM result >>= next : Program σ β).start s = (next x).start s := by
  rw [h]
  rfl

theorem start_liftM_bind_of_error {result : Except FieldError α} {fault : FieldError}
    (h : result = .error fault) (next : α → Program σ β) (s : σ) :
    (liftM result >>= next : Program σ β).start s = (.error fault, s) := by
  rw [h]
  rfl

/-! ### Reading, succeeding, failing without a trace -/

/-- The program leaves the state as it is. -/
def Reads (program : Program σ α) : Prop := ∀ s, (program.start s).2 = s

/-- The program cannot fail. -/
def Succeeds (program : Program σ α) : Prop := ∀ s, ∃ x left, program.start s = (.ok x, left)

/-- A failure of the program leaves the state as it was. -/
def Atomic (program : Program σ α) : Prop :=
  ∀ s fault left, program.start s = (.error fault, left) → left = s

theorem reads_pure (x : α) : (pure x : Program σ α).Reads := fun _ => rfl

theorem reads_throw (fault : FieldError) : (throw fault : Program σ α).Reads := fun _ => rfl

theorem reads_get : (get : Program σ σ).Reads := fun _ => rfl

theorem reads_liftM (result : Except FieldError α) : (liftM result : Program σ α).Reads :=
  fun _ => rfl

theorem Reads.bind {first : Program σ α} {next : α → Program σ β} (hfirst : first.Reads)
    (hnext : ∀ x, (next x).Reads) : (first >>= next).Reads := by
  intro s
  have hs := hfirst s
  rw [start_bind]
  split
  · next x left h =>
    rw [h] at hs
    rw [hnext x left, ← hs]
  · next fault left h => rwa [h] at hs

theorem succeeds_pure (x : α) : (pure x : Program σ α).Succeeds := fun s => ⟨x, s, rfl⟩

theorem succeeds_get : (get : Program σ σ).Succeeds := fun s => ⟨s, s, rfl⟩

theorem succeeds_set (new : σ) : (set new : Program σ PUnit).Succeeds := fun _ => ⟨⟨⟩, new, rfl⟩

theorem succeeds_modify (f : σ → σ) : (modify f : Program σ PUnit).Succeeds :=
  fun s => ⟨⟨⟩, f s, rfl⟩

theorem Succeeds.bind {first : Program σ α} {next : α → Program σ β} (hfirst : first.Succeeds)
    (hnext : ∀ x, (next x).Succeeds) : (first >>= next).Succeeds := by
  intro s
  obtain ⟨x, mid, hx⟩ := hfirst s
  obtain ⟨y, left, hy⟩ := hnext x mid
  exact ⟨y, left, start_bind_eq_ok.2 ⟨x, mid, hx, hy⟩⟩

theorem Reads.atomic {program : Program σ α} (h : program.Reads) : program.Atomic := by
  intro s fault left hfail
  have hs := h s
  rw [hfail] at hs
  exact hs

theorem Succeeds.atomic {program : Program σ α} (h : program.Succeeds) : program.Atomic := by
  intro s fault left hfail
  obtain ⟨x, mid, hx⟩ := h s
  rw [hx] at hfail
  simp at hfail

/-- Checks come first: what only reads may stand before something atomic. -/
theorem Atomic.after {first : Program σ α} {next : α → Program σ β} (hfirst : first.Reads)
    (hnext : ∀ x, (next x).Atomic) : (first >>= next).Atomic := by
  intro s fault left hfail
  have hs := hfirst s
  rw [start_bind] at hfail
  split at hfail
  · next x mid h =>
    rw [h] at hs
    rw [hnext x mid fault left hfail, ← hs]
  · next fault' mid h =>
    rw [h] at hs
    obtain ⟨-, rfl⟩ := Prod.mk.inj hfail
    exact hs

/-- Once something is written, nothing may fail any more. -/
theorem Atomic.bind {first : Program σ α} {next : α → Program σ β} (hfirst : first.Atomic)
    (hnext : ∀ x, (next x).Succeeds) : (first >>= next).Atomic := by
  intro s fault left hfail
  rw [start_bind] at hfail
  split at hfail
  · next x mid h =>
    obtain ⟨y, end', hy⟩ := hnext x mid
    rw [hy] at hfail
    simp at hfail
  · next fault' mid h =>
    obtain ⟨-, rfl⟩ := Prod.mk.inj hfail
    exact hfirst s fault' mid h

theorem Atomic.within {program : Program σ α} {part : τ → σ} {put : σ → τ → τ}
    (hput : ∀ s, put (part s) s = s) (h : program.Atomic) : (program.within part put).Atomic := by
  intro s fault left hfail
  rw [start_within] at hfail
  obtain ⟨hfault, rfl⟩ := Prod.mk.inj hfail
  have hpart : (program.start (part s)).2 = part s := h (part s) fault _ (Prod.ext hfault rfl)
  rw [hpart, hput]

end Program

end FormTree
