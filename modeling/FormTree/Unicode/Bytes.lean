/-!
# Runs of code points in bytes

UTF-8 writes a code point as one to four bytes, of which all but the first have six bits of it each.
A run of code points of one width is taken apart into paths: in a path every place has a range of
its own, and all combinations are in the run.
-/

namespace FormTree.Unicode

/-- Numbers in places: a range for each. -/
abbrev BytePath := List (Nat × Nat)

namespace BytePath

/-- The paths of the numbers from `first` to `last`, which are written in base 64 with `digits`
digits after the first one. -/
def ofRun : Nat → Nat → Nat → List BytePath
  | 0, first, last => [[(first, last)]]
  | digits + 1, first, last =>
    let unit := 64 ^ (digits + 1)
    let a := first / unit
    let b := last / unit
    if a = b then (ofRun digits (first % unit) (last % unit)).map ((a, a) :: ·)
    else
      let low :=
        if first % unit = 0 then []
        else (ofRun digits (first % unit) (unit - 1)).map ((a, a) :: ·)
      let high :=
        if last % unit = unit - 1 then [] else (ofRun digits 0 (last % unit)).map ((b, b) :: ·)
      let lowest := if low.isEmpty then a else a + 1
      let above := if high.isEmpty then b + 1 else b
      let middle :=
        if lowest < above then [(lowest, above - 1) :: List.replicate (digits + 1) (0, 63)] else []
      low ++ middle ++ high

/-- The number of places in which two paths begin alike. -/
def shared : BytePath → BytePath → Nat
  | s :: p, t :: q => if s = t then shared p q + 1 else 0
  | _, _ => 0

/-- The number of places in paths that follow one another, where a beginning that two of them share
counts once. -/
def places (previous : BytePath) : List BytePath → Nat
  | [] => 0
  | path :: rest => path.length - shared previous path + places path rest

end BytePath

/-- The stretches of code points of one width: the number of bytes after the first one, and the
first and the last code point. -/
def byteWidths : List (Nat × Nat × Nat) :=
  [(0, 0, 0x7F), (1, 0x80, 0x7FF), (2, 0x800, 0xD7FF), (2, 0xE000, 0xFFFF), (3, 0x10000, 0x10FFFF)]

/-- The paths of some runs, apart for each stretch of code points of one width. -/
def bytePaths (runs : List (Nat × Nat)) : List (List BytePath) :=
  byteWidths.map fun (digits, least, greatest) =>
    runs.flatMap fun (first, last) =>
      let first := max first least
      let last := min last greatest
      if first ≤ last then BytePath.ofRun digits first last else []

end FormTree.Unicode
