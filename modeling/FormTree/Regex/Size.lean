import FormTree.Regex.Regular
import FormTree.Unicode.Bytes

/-!
# Size

A regular part is laid out as an automaton before it is used, and it is refused if that takes more
than ten mebibytes. Repetition lays its part out once for each time it may be repeated, so a few
signs can ask for a lot.

The sizes are those of an automaton that reads UTF-8 byte by byte.
-/

namespace FormTree

namespace CharSet

/-- The bytes that an automaton takes for some runs of code points. It reads backwards, so
beginnings that paths share are laid out once. -/
def sizeOfRuns (runs : List (Nat × Nat)) : Nat :=
  if runs.all (·.2 < 0x80) then 64 + 8 * runs.length
  else
    (Unicode.bytePaths runs).foldl
      (fun total paths => total + 4 * paths.length + 32 * Unicode.BytePath.places [] paths) 64

def size (s : CharSet) : Nat :=
  match runs s with
  | [(first, last)] =>
    if first = last then 32 * (Char.ofNat first).utf8Size else sizeOfRuns [(first, last)]
  | runs => sizeOfRuns runs

end CharSet

namespace Regular

def size : Regular → Nat
  | .empty => 32
  | .char set => set.size
  | .assertion _ => 32
  | .seq r s => size r + size s
  | .alt r s => size r + size s + 40
  | .repeated r times _ =>
    match times.most with
    | some most => most * size r + 40 * (most - times.least) + 32
    | none => times.least.max 1 * size r + 80

def greatestSize : Nat := 10 * 1024 * 1024

end Regular

end FormTree
