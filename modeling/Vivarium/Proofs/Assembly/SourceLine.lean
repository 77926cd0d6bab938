import Mathlib.Data.List.DropRight
import Mathlib.Data.List.Forall2
import Vivarium.Assembly

/-! The lines of a source text and their code. Code stands between blanks and is followed by nothing
but a remark. Neither the blanks nor the remark nor the way a line is ended has a bearing on what is
read. -/
namespace Vivarium

/-! ### Trimming -/

namespace Text

structure Trimmed (cs : List Char) : Prop where
  first : ∀ c ∈ cs.head?, isBlank c = false
  last : ∀ c ∈ cs.getLast?, isBlank c = false

theorem trimStart_eq_self {cs : List Char} (h : ∀ c ∈ cs.head?, isBlank c = false) :
    trimStart cs = cs := by
  cases cs with
  | nil => rfl
  | cons c cs => exact List.dropWhile_cons_of_neg (by simp [h c rfl])

theorem trimEnd_eq_self {cs : List Char} (h : ∀ c ∈ cs.getLast?, isBlank c = false) :
    trimEnd cs = cs := by
  rw [← List.head?_reverse] at h
  rw [trimEnd, ← trimStart, trimStart_eq_self h, List.reverse_reverse]

theorem trimEnd_append {blanks : List Char} (h : ∀ c ∈ blanks, isBlank c = true)
    (cs : List Char) : trimEnd (cs ++ blanks) = trimEnd cs := by
  have hblanks : ∀ c ∈ blanks.reverse, isBlank c = true := by simpa using h
  rw [trimEnd, List.reverse_append, List.dropWhile_append_of_pos hblanks, ← trimEnd]

theorem trimmed_trim (cs : List Char) : Trimmed (trim cs) := by
  constructor
  · intro c hc
    obtain ⟨rest, hrest⟩ := List.rdropWhile_prefix isBlank (trimStart cs)
    have hhead : (trimStart cs).head? = some c := by
      rw [← hrest]
      exact List.mem_head?_append_of_mem_head? hc
    have hnot := List.head?_dropWhile_not isBlank cs
    rw [← trimStart, hhead] at hnot
    exact hnot
  · intro c hc
    obtain ⟨hne, rfl⟩ := List.mem_getLast?_eq_getLast hc
    exact (Bool.not_eq_true _).mp (List.rdropWhile_last_not isBlank (trimStart cs) hne)

theorem trim_eq_iff {cs code : List Char} :
    trim cs = code ↔ Trimmed code ∧ ∃ before after, cs = before ++ code ++ after ∧
      (∀ c ∈ before, isBlank c = true) ∧ ∀ c ∈ after, isBlank c = true := by
  constructor
  · rintro rfl
    refine ⟨trimmed_trim cs, cs.takeWhile isBlank, (trimStart cs).rtakeWhile isBlank, ?_, ?_, ?_⟩
    · have hend : trim cs ++ (trimStart cs).rtakeWhile isBlank = trimStart cs :=
        List.rdropWhile_append_rtakeWhile
      rw [List.append_assoc, hend]
      exact List.takeWhile_append_dropWhile.symm
    · intro c hc
      exact List.mem_takeWhile_imp hc
    · intro c hc
      exact List.mem_rtakeWhile_imp hc
  · rintro ⟨htrimmed, before, after, rfl, hbefore, hafter⟩
    have hstart : trimStart (before ++ code ++ after) = trimStart (code ++ after) := by
      rw [List.append_assoc]
      exact List.dropWhile_append_of_pos hbefore
    rw [trim, hstart]
    cases code with
    | nil =>
      have hnothing : trimStart after = [] := List.dropWhile_eq_nil_iff.mpr hafter
      rw [List.nil_append, hnothing]
      rfl
    | cons c code =>
      have hself : trimStart (c :: code ++ after) = c :: code ++ after :=
        trimStart_eq_self htrimmed.first
      rw [hself, trimEnd_append hafter, trimEnd_eq_self htrimmed.last]

end Text

namespace Assembly

open Text (isBlank Trimmed)

/-! ### The code of a line -/

/-- A line consists of blanks, its code, more blanks, perhaps a remark that `#` introduces, and
perhaps a carriage return. -/
inductive CodeOf : List Char → List Char → Prop where
  | intro {before code after remark ending : List Char}
      (leading : ∀ c ∈ before, isBlank c = true) (trimmed : Trimmed code) (clean : '#' ∉ code)
      (trailing : ∀ c ∈ after, isBlank c = true) (remarked : remark = [] ∨ remark.head? = some '#')
      (ended : ending = [] ∨ ending = ['\r']) :
      CodeOf (before ++ code ++ after ++ remark ++ ending) code

theorem hash_notMem_blanks {blanks : List Char} (h : ∀ c ∈ blanks, isBlank c = true) :
    '#' ∉ blanks := by
  intro hmem
  cases h '#' hmem

theorem takeWhile_append_remark {text remark : List Char} (htext : '#' ∉ text)
    (hremark : remark = [] ∨ remark.head? = some '#') :
    (text ++ remark).takeWhile (· ≠ '#') = text := by
  have hall : ∀ c ∈ text, decide (c ≠ '#') = true := by
    intro c hc
    exact decide_eq_true (ne_of_mem_of_not_mem hc htext)
  rw [List.takeWhile_append_of_pos hall]
  rcases hremark with rfl | hhash
  · exact List.append_nil text
  · obtain ⟨rest, rfl⟩ := List.head?_eq_some_iff.mp hhash
    simp

theorem codeOf_code (line : List Char) {ending : List Char}
    (hending : ending = [] ∨ ending = ['\r']) : CodeOf (line ++ ending) (code line) := by
  obtain ⟨htrimmed, before, after, hkept, hbefore, hafter⟩ :=
    Text.trim_eq_iff.mp (rfl : Text.trim (line.takeWhile (· ≠ '#')) = code line)
  change Trimmed (code line) at htrimmed
  change line.takeWhile (· ≠ '#') = before ++ code line ++ after at hkept
  have hclean : '#' ∉ code line := by
    intro hmem
    have hin : '#' ∈ line.takeWhile (· ≠ '#') := by
      rw [hkept]
      exact List.mem_append_left _ (List.mem_append_right _ hmem)
    simpa using List.mem_takeWhile_imp hin
  have hremark : line.dropWhile (· ≠ '#') = [] ∨
      (line.dropWhile (· ≠ '#')).head? = some '#' := by
    have hnot := List.head?_dropWhile_not (fun c => decide (c ≠ '#')) line
    cases hhead : (line.dropWhile (· ≠ '#')).head? with
    | none => exact Or.inl (List.head?_eq_none_iff.mp hhead)
    | some first =>
      rw [hhead] at hnot
      exact Or.inr (congrArg some (by simpa using hnot))
  have hparts : before ++ code line ++ after ++ line.dropWhile (· ≠ '#') = line := by
    rw [← hkept]
    exact List.takeWhile_append_dropWhile
  have hcode : CodeOf (before ++ code line ++ after ++ line.dropWhile (· ≠ '#') ++ ending)
      (code line) := .intro hbefore htrimmed hclean hafter hremark hending
  rw [hparts] at hcode
  exact hcode

/-- Every line has one code, and it is the code that is read. -/
theorem codeOf_iff {line c : List Char} : CodeOf line c ↔ code line = c := by
  constructor
  · rintro ⟨hbefore, htrimmed, hclean, hafter, hremark, hending⟩
    rename_i before after remark ending
    have hend : ∀ c ∈ ending, isBlank c = true := by
      rcases hending with rfl | rfl
      · nofun
      · intro c hc
        obtain rfl := List.mem_singleton.mp hc
        rfl
    have htext : ∀ blanks : List Char, (∀ c ∈ blanks, isBlank c = true) →
        '#' ∉ before ++ c ++ blanks := by
      intro blanks hblanks
      simp only [List.mem_append, not_or]
      exact ⟨⟨hash_notMem_blanks hbefore, hclean⟩, hash_notMem_blanks hblanks⟩
    unfold code
    rcases hremark with rfl | hhash
    · -- Without a remark the carriage return is one more blank behind the code.
      have hblanks : ∀ c ∈ after ++ ending, isBlank c = true := by
        intro c hc
        exact (List.mem_append.mp hc).elim (hafter c) (hend c)
      have hline : before ++ c ++ after ++ [] ++ ending =
          before ++ c ++ (after ++ ending) ++ [] := by
        simp
      rw [hline, takeWhile_append_remark (htext _ hblanks) (Or.inl rfl)]
      exact Text.trim_eq_iff.mpr ⟨htrimmed, before, after ++ ending, rfl, hbefore, hblanks⟩
    · have hremark : (remark ++ ending).head? = some '#' :=
        List.mem_head?_append_of_mem_head? hhash
      rw [List.append_assoc, takeWhile_append_remark (htext _ hafter) (Or.inr hremark)]
      exact Text.trim_eq_iff.mpr ⟨htrimmed, before, after, rfl, hbefore, hafter⟩
  · rintro rfl
    have hcode := codeOf_code line (Or.inl rfl)
    rw [List.append_nil] at hcode
    exact hcode

/-! ### The lines of a text -/

/-- What stands before a line feed: a line, or a line and a carriage return that is dropped with the
line feed. -/
def Piece (piece line : List Char) : Prop := piece = line ∨ piece = line ++ ['\r']

theorem Piece.cons {piece line : List Char} (h : Piece piece line) (c : Char) :
    Piece (c :: piece) (c :: line) := by
  rcases h with rfl | rfl
  · exact Or.inl rfl
  · exact Or.inr rfl

theorem splitOn_cons_of_ne {c : Char} (h : c ≠ '\n') {cs piece : List Char}
    {pieces : List (List Char)} (hcs : cs.splitOn '\n' = piece :: pieces) :
    (c :: cs).splitOn '\n' = (c :: piece) :: pieces := by
  rw [List.splitOn_cons_eq_if_modifyHead, if_neg (by simpa using h), hcs]
  rfl

/-- Cut at its line feeds, a text falls into its lines, and if nothing follows the last line feed,
an empty piece comes last. -/
theorem forall₂_lines (cs : List Char) : ∃ rest : List (List Char), (∀ l ∈ rest, l = []) ∧
    List.Forall₂ Piece (cs.splitOn '\n') (Text.lines cs ++ rest) := by
  fun_induction Text.lines cs with
  | case1 => exact ⟨[[]], by simp, .cons (Or.inl rfl) .nil⟩
  | case2 cs ih =>
    obtain ⟨rest, hrest, hpieces⟩ := ih
    exact ⟨rest, hrest, .cons (Or.inl rfl) hpieces⟩
  | case3 cs ih =>
    obtain ⟨rest, hrest, hpieces⟩ := ih
    exact ⟨rest, hrest, .cons (Or.inr rfl) hpieces⟩
  | case4 c cs hfeed _ hnone ih =>
    obtain ⟨rest, hrest, hpieces⟩ := ih
    rw [hnone, List.nil_append] at hpieces
    cases hcs : cs.splitOn '\n' with
    | nil => exact absurd hcs (List.splitOn_ne_nil '\n' cs)
    | cons piece pieces =>
      rw [hcs] at hpieces
      obtain ⟨line, rest', hpiece, hpieces', rfl⟩ := List.forall₂_cons_left_iff.mp hpieces
      obtain rfl : line = [] := hrest line List.mem_cons_self
      rw [splitOn_cons_of_ne hfeed hcs]
      exact ⟨rest', fun l hl => hrest l (List.mem_cons_of_mem _ hl), .cons (hpiece.cons c) hpieces'⟩
  | case5 c cs hfeed _ l ls hlines ih =>
    obtain ⟨rest, hrest, hpieces⟩ := ih
    rw [hlines] at hpieces
    cases hcs : cs.splitOn '\n' with
    | nil => exact absurd hcs (List.splitOn_ne_nil '\n' cs)
    | cons piece pieces =>
      rw [hcs] at hpieces
      obtain ⟨hpiece, hpieces'⟩ := List.forall₂_cons.mp hpieces
      rw [splitOn_cons_of_ne hfeed hcs]
      exact ⟨rest, hrest, .cons (hpiece.cons c) hpieces'⟩

theorem Piece.code_eq {piece line : List Char} (h : Piece piece line) : code piece = code line := by
  rcases h with rfl | rfl
  · rfl
  · exact codeOf_iff.mp (codeOf_code line (Or.inr rfl))

theorem assembleLines_congr {ls pieces : List (List Char)}
    (h : List.Forall₂ (fun piece line => code piece = code line) pieces ls) (number : Nat) :
    assembleLines number pieces = assembleLines number ls := by
  induction h generalizing number with
  | nil => rfl
  | cons hcode _ ih => simp only [assembleLines, hcode, ih]

theorem assembleLines_append_empty {rest : List (List Char)} (h : ∀ l ∈ rest, l = [])
    (ls : List (List Char)) (number : Nat) :
    assembleLines number (ls ++ rest) = assembleLines number ls := by
  induction ls generalizing number with
  | nil =>
    induction rest generalizing number with
    | nil => rfl
    | cons l rest ih =>
      obtain rfl : l = [] := h l List.mem_cons_self
      exact ih (fun l hl => h l (List.mem_cons_of_mem _ hl)) (number + 1)
  | cons l ls ih => simp only [List.cons_append, assembleLines, ih]

theorem assembleLines_lines (cs : List Char) (number : Nat) :
    assembleLines number (Text.lines cs) = assembleLines number (cs.splitOn '\n') := by
  obtain ⟨rest, hrest, hpieces⟩ := forall₂_lines cs
  rw [assembleLines_congr (hpieces.imp fun _ _ => Piece.code_eq),
    assembleLines_append_empty hrest]

end Assembly

end Vivarium
