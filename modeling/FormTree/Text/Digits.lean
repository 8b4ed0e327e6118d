/-!
# Digits

What a run of digits denotes, decimal or hexadecimal. Only ASCII digits count as digits.
-/

namespace FormTree.Digits

/-- The number that decimal digits denote; no digits denote 0. -/
def number (digits : List Char) : Nat := digits.foldl (fun n c => 10 * n + (c.toNat - 48)) 0

def hexValue? (c : Char) : Option Nat :=
  if c.isDigit then some (c.toNat - 48)
  else if 'a' ≤ c ∧ c ≤ 'f' then some (c.toNat - 87)
  else if 'A' ≤ c ∧ c ≤ 'F' then some (c.toNat - 55)
  else none

def hexNumber? (digits : List Char) : Option Nat :=
  digits.foldlM (fun n c => (hexValue? c).map (16 * n + ·)) 0

/-- The character that hexadecimal digits denote; surrogates are none. -/
def hexChar? (digits : List Char) : Option Char :=
  (hexNumber? digits).bind fun n => if n.isValidChar then some (Char.ofNat n) else none

@[simp] theorem number_nil : number [] = 0 := rfl

theorem number_concat (digits : List Char) (c : Char) :
    number (digits ++ [c]) = 10 * number digits + (c.toNat - 48) := by
  simp [number]

/-- Appended digits shift those before them. -/
theorem number_append (left right : List Char) :
    number (left ++ right) = number left * Nat.pow 10 right.length + number right := by
  induction right generalizing left with
  | nil => simp
  | cons c rest ih =>
    have shifted := ih (left ++ [c])
    have first := ih [c]
    have digit : number [c] = c.toNat - 48 := by simp [number]
    have power : Nat.pow 10 (c :: rest).length = 10 * Nat.pow 10 rest.length := Nat.mul_comm _ _
    rw [number_concat, List.append_assoc, List.singleton_append] at shifted
    rw [List.singleton_append, digit] at first
    rw [shifted, first, power, Nat.add_mul, Nat.mul_assoc, Nat.mul_left_comm, Nat.add_assoc]

end FormTree.Digits
