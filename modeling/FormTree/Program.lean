import FormTree.FieldError

/-!
# Programs

A program works on a state and may fail. A failure stops the program and does nothing else: what was
done to the state before it stays done. So a program whose failures are to leave no trace has to
make all its checks before it writes, and that is a property to be proved of it.
-/

namespace FormTree

/-- A program on a state of type `σ`. Whether it succeeds or fails, there is a state that it
leaves. -/
abbrev Program (σ : Type) := ExceptT FieldError (StateM σ)

namespace Program

variable {σ α : Type}

/-- What a program answers when it starts in `s`, and the state that it leaves. -/
def start (program : Program σ α) (s : σ) : Except FieldError α × σ := (ExceptT.run program).run s

/-- What a program that succeeds leaves and answers. -/
def success (program : Program σ α) (s : σ) : Except FieldError (σ × α) :=
  match program.start s with
  | (.ok x, left) => .ok (left, x)
  | (.error fault, _) => .error fault

/-- A program on a part of a larger state. The part that it leaves is put back even if it fails. -/
def within {τ : Type} (part : τ → σ) (put : σ → τ → τ) (program : Program σ α) : Program τ α :=
  ExceptT.mk fun s =>
    let (answer, left) := program.start (part s)
    (answer, put left s)

end Program

end FormTree
