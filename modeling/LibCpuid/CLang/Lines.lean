import Mathlib.Algebra.Group.Nat.Defs
import Mathlib.Data.List.Basic

/-! The lines that a loop over `fgets` reads from a text. -/

namespace CLang

/-- What the calls of `fgets` put into a buffer with room for `room` characters and the NUL, from a
text that the call under way has read `read` of. -/
def fgetsFrom (room : Nat) (read : List Char) : List Char → List (List Char)
  | [] => if read = [] then [] else [read]
  | c :: rest =>
    if c = '\n' ∨ read.length + 1 = room then (read ++ [c]) :: fgetsFrom room [] rest
    else fgetsFrom room (read ++ [c]) rest

/-- What the calls of `fgets` read from a text, until there is nothing left. -/
def fgets (room : Nat) (text : List Char) : List (List Char) := fgetsFrom room [] text

/-- The characters before the NUL that ends a C string, or before the newline where
`line[strcspn(line, "\n")] = 0` ends it. -/
def cutLine (line : List Char) : List Char := line.takeWhile fun c => c ≠ '\x00' && c ≠ '\n'

/-- The text of some lines. -/
def unlines (lines : List (List Char)) : List Char := lines.flatMap (· ++ ['\n'])

/-- A line that `fgets` reads whole. -/
structure IsLine (room : Nat) (line : List Char) : Prop where
  length_lt : line.length < room
  chars : ∀ c ∈ line, c ≠ '\x00' ∧ c ≠ '\n'

theorem fgetsFrom_line {room : Nat} {read line : List Char} (hlen : read.length + line.length < room)
    (hline : '\n' ∉ line) (rest : List Char) :
    fgetsFrom room read (line ++ '\n' :: rest) =
      (read ++ line ++ ['\n']) :: fgetsFrom room [] rest := by
  induction line generalizing read with
  | nil => simp [fgetsFrom]
  | cons c line ih =>
    rw [List.mem_cons, not_or] at hline
    rw [List.length_cons] at hlen
    have hc : ¬(c = '\n' ∨ read.length + 1 = room) := by
      rintro (h | h)
      · exact hline.1 h.symm
      · omega
    rw [List.cons_append, fgetsFrom, if_neg hc, ih (by simp; omega) hline.2]
    simp

theorem cutLine_line {room : Nat} {line : List Char} (h : IsLine room line) :
    cutLine (line ++ ['\n']) = line := by
  rw [cutLine, List.takeWhile_append_of_pos fun c hc => by simpa using h.chars c hc]
  simp

/-- Whole lines read back. -/
theorem cut_fgets_unlines {room : Nat} {lines : List (List Char)}
    (h : ∀ line ∈ lines, IsLine room line) :
    (fgets room (unlines lines)).map cutLine = lines := by
  induction lines with
  | nil => rfl
  | cons line lines ih =>
    obtain ⟨hline, hlines⟩ := List.forall_mem_cons.mp h
    have hnl : '\n' ∉ line := fun hmem => (hline.chars _ hmem).2 rfl
    have hfirst : fgets room (unlines (line :: lines)) =
        (line ++ ['\n']) :: fgets room (unlines lines) := by
      rw [fgets, unlines, List.flatMap_cons, List.append_assoc, List.singleton_append,
        fgetsFrom_line (by simpa using hline.length_lt) hnl, List.nil_append]
      rfl
    rw [hfirst, List.map_cons, cutLine_line hline, ih hlines]

end CLang
