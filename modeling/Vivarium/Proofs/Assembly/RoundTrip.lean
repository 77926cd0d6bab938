import Mathlib.Data.Set.Operations
import Vivarium.Proofs.Assembly.Grammar

/-! Assembling undoes disassembling. The text of an instruction is its own code, as it has neither
blanks at its ends nor a remark, and it denotes the instruction. -/
namespace Vivarium

namespace Text

theorem numeral_toDigits (n : Nat) : Numeral (Nat.toDigits 10 n) n where
  nonempty := Nat.toDigits_ne_nil
  digits _ hc := Nat.isDigit_of_mem_toDigits (by decide) (by decide) hc
  value := Nat.ofDigitChars_ten_toDigits

end Text

namespace Assembly

open Text (isBlank Trimmed)

def Fits (p : Program) : Prop := ∀ i ∈ p, ∀ target ∈ i.target?, target < UInt64.size

instance (p : Program) : Decidable (Fits p) := inferInstanceAs (Decidable (∀ i ∈ p, _))

/-! ### The text of an instruction -/

def Solid (c : Char) : Prop := isBlank c = false ∧ c ≠ '#'

instance (c : Char) : Decidable (Solid c) := inferInstanceAs (Decidable (_ ∧ _))

theorem solid_of_isDigit {c : Char} (h : c.isDigit = true) : Solid c := by
  constructor
  · obtain ⟨hzero, hnine⟩ : 48 ≤ c.toNat ∧ c.toNat ≤ 57 := Char.isDigit_iff_toNat.mp h
    simp [isBlank, Text.blankRuns]
    omega
  · rintro rfl
    cases h

theorem solid_mnemonic (i : Instruction) : ∀ c ∈ i.mnemonic.toList, Solid c := by
  have hall : i.mnemonic.toList.all (fun c => decide (Solid c)) = true := by
    cases i with
    | act a => cases a <;> decide
    | jump c target =>
      change c.mnemonic.toList.all (fun x => decide (Solid x)) = true
      cases c <;> decide
  intro c hc
  exact of_decide_eq_true (List.all_eq_true.mp hall c hc)

theorem lower_mnemonic (i : Instruction) :
    i.mnemonic.toList.map Char.toLower = i.mnemonic.toList := by
  cases i with
  | act a => cases a <;> decide
  | jump c target =>
    change c.mnemonic.toList.map Char.toLower = c.mnemonic.toList
    cases c <;> decide

theorem toList_text_jump (c : Condition) (target : Nat) :
    (Instruction.jump c target).text.toList =
      c.mnemonic.toList ++ [' '] ++ Nat.toDigits 10 target := by
  change (c.mnemonic ++ " " ++ toString target).toList = _
  rw [Nat.toString_eq_ofList_toDigits]
  simp

theorem denotes_text {i : Instruction} (h : ∀ target ∈ i.target?, target < UInt64.size) :
    Denotes i.text.toList i := by
  cases i with
  | act a =>
    exact .act (mem_actWords.mpr rfl) (lower_mnemonic (.act a))
  | jump c target =>
    rw [toList_text_jump]
    exact .jump (mem_jumpWords.mpr rfl) (lower_mnemonic (.jump c target)) (List.cons_ne_nil _ _)
      (by simp) (Text.numeral_toDigits target) (h target rfl)

/-- Text that starts and ends solid and is broken up by spaces only. -/
structure Printed (text : List Char) : Prop where
  first : ∀ c ∈ text.head?, Solid c
  last : ∀ c ∈ text.getLast?, Solid c
  inner : ∀ c ∈ text, Solid c ∨ c = ' '

theorem Printed.hash_notMem {text : List Char} (h : Printed text) : '#' ∉ text := by
  intro hmem
  rcases h.inner '#' hmem with hsolid | hspace
  · exact hsolid.2 rfl
  · cases hspace

theorem Printed.lineFeed_notMem {text : List Char} (h : Printed text) : '\n' ∉ text := by
  intro hmem
  rcases h.inner '\n' hmem with hsolid | hspace
  · cases hsolid.1
  · cases hspace

theorem Printed.codeOf {text : List Char} (h : Printed text) : CodeOf text text := by
  have htrimmed : Trimmed text := ⟨fun c hc => (h.first c hc).1, fun c hc => (h.last c hc).1⟩
  have hcode : CodeOf ([] ++ text ++ [] ++ [] ++ []) text :=
    .intro nofun htrimmed h.hash_notMem nofun (Or.inl rfl) (Or.inl rfl)
  simpa using hcode

theorem printed_text (i : Instruction) : Printed i.text.toList := by
  cases i with
  | act a =>
    have hsolid : ∀ c ∈ a.mnemonic.toList, Solid c := solid_mnemonic (.act a)
    exact ⟨fun c hc => hsolid c (List.mem_of_mem_head? hc),
      fun c hc => hsolid c (List.mem_of_mem_getLast? hc), fun c hc => Or.inl (hsolid c hc)⟩
  | jump c target =>
    have hword : ∀ x ∈ c.mnemonic.toList, Solid x := solid_mnemonic (.jump c target)
    have hdigits : ∀ x ∈ Nat.toDigits 10 target, Solid x := fun x hx =>
      solid_of_isDigit ((Text.numeral_toDigits target).digits x hx)
    rw [toList_text_jump]
    refine ⟨?_, ?_, ?_⟩
    · have hne : c.mnemonic.toList ≠ [] := by cases c <;> decide
      rw [List.append_assoc, List.head?_append_of_ne_nil _ hne]
      exact fun x hx => hword x (List.mem_of_mem_head? hx)
    · rw [List.getLast?_append_of_ne_nil _ Nat.toDigits_ne_nil]
      exact fun x hx => hdigits x (List.mem_of_mem_getLast? hx)
    · intro x hx
      rcases List.mem_append.mp hx with hx | hx
      · rcases List.mem_append.mp hx with hx | hx
        · exact Or.inl (hword x hx)
        · exact Or.inr (List.mem_singleton.mp hx)
      · exact Or.inl (hdigits x hx)

/-! ### Programs -/

theorem toList_disassemble_cons (i : Instruction) (p : Program) :
    (disassemble (i :: p)).toList = i.text.toList ++ '\n' :: (disassemble p).toList := by
  simp [disassemble, String.toList_join]

theorem coded_disassemble (p : Program) :
    Coded (disassemble p) (p.map (fun i => i.text.toList) ++ [[]]) := by
  induction p with
  | nil => exact coded_iff.mpr rfl
  | cons i p ih =>
    rw [Coded, toList_disassemble_cons,
      List.splitOn_append_cons_self_of_not_mem (printed_text i).lineFeed_notMem]
    exact .cons (printed_text i).codeOf ih

theorem assemble_disassemble {p : Program} (h : Fits p) : assemble (disassemble p) = .ok p := by
  rw [assemble_eq_ok_iff (coded_disassemble p)]
  induction p with
  | nil => exact .nil
  | cons i p ih =>
    obtain ⟨hi, hp⟩ := List.forall_mem_cons.mp h
    have hdenotes := denotes_text hi
    rw [List.map_cons, List.cons_append, List.filter_cons_of_pos (by simpa using hdenotes.ne_nil)]
    exact .cons hdenotes (ih hp)

theorem Denotes.fits {c : List Char} {i : Instruction} (h : Denotes c i) :
    ∀ target ∈ i.target?, target < UInt64.size := by
  cases h with
  | act => nofun
  | jump known spelled apart blank numeral fits =>
    rintro target ⟨⟩
    exact fits

theorem fits_of_forall₂ {codes : List (List Char)} {p : Program}
    (h : List.Forall₂ Denotes codes p) : Fits p := by
  induction h with
  | nil => nofun
  | cons hdenotes _ ih => exact List.forall_mem_cons.mpr ⟨hdenotes.fits, ih⟩

theorem fits_of_assemble {source : String} {p : Program} (h : assemble source = .ok p) : Fits p :=
  fits_of_forall₂ ((assemble_eq_ok_iff (coded_iff.mpr rfl)).mp h)

/-- Disassembling loses nothing: a program whose targets are 64-bit words is read back as it was,
wherever the targets point, so every source that is accepted keeps its program, and no two programs
share a text. -/
theorem assembling_undoes_disassembling :
    (∀ p, Fits p → assemble (disassemble p) = .ok p) ∧
    (∀ source p, assemble source = .ok p → assemble (disassemble p) = .ok p) ∧
    Set.InjOn disassemble {p | Fits p} := by
  refine ⟨fun p => assemble_disassemble,
    fun source p h => assemble_disassemble (fits_of_assemble h), ?_⟩
  intro p hp q hq htext
  have hread : assemble (disassemble p) = .ok q := by
    rw [htext]
    exact assemble_disassemble hq
  exact Except.ok.inj ((assemble_disassemble hp).symm.trans hread)

theorem far_jumps_come_back :
    assemble (disassemble [.jump .enemy 18446744073709551615, .act .infect, .jump .always 0]) =
      .ok [.jump .enemy 18446744073709551615, .act .infect, .jump .always 0] :=
  assembling_undoes_disassembling.1 _ (by decide)

end Assembly

end Vivarium
