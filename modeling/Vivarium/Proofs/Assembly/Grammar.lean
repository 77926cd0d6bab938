import Vivarium.Proofs.Assembly.SourceLine

/-! The grammar of programs, and that the assembler accepts it and nothing else. A source that
breaks the grammar is refused at its first line that does. -/
namespace Vivarium

namespace Text

/-- ASCII digits, at least one, and the number they write. -/
structure Numeral (cs : List Char) (n : Nat) : Prop where
  nonempty : cs ≠ []
  digits : ∀ c ∈ cs, c.isDigit = true
  value : Nat.ofDigitChars 10 cs 0 = n

theorem readDecimal?_eq_some_iff {bound n : Nat} {cs : List Char} :
    readDecimal? bound cs = some n ↔ Numeral cs n ∧ n < bound := by
  have hdigits : cs.all isDigit = true ↔ ∀ c ∈ cs, c.isDigit = true := List.all_eq_true
  rw [readDecimal?, Option.ite_none_right_eq_some, Option.some_inj]
  constructor
  · rintro ⟨⟨hne, hall, hlt⟩, rfl⟩
    exact ⟨⟨hne, hdigits.mp hall, rfl⟩, hlt⟩
  · rintro ⟨⟨hne, hall, rfl⟩, hlt⟩
    exact ⟨⟨hne, hdigits.mpr hall, hlt⟩, rfl⟩

end Text

namespace Assembly

open Text (Numeral)

/-! ### The grammar -/

def actWords : List (String × Act) :=
  [("hop", .hop), ("left", .left), ("right", .right), ("infect", .infect)]

def jumpWords : List (String × Condition) :=
  [("if_empty", .empty), ("if_wall", .wall), ("if_random", .heads), ("if_enemy", .enemy),
    ("go", .always)]

/-- Code and the instruction it stands for. The case of ASCII letters is free, leading zeros are
allowed, and a target fits in 64 bits. -/
inductive Denotes : List Char → Instruction → Prop where
  | act {word : List Char} {name : String} {a : Act} (known : (name, a) ∈ actWords)
      (spelled : word.map Char.toLower = name.toList) : Denotes word (.act a)
  | jump {word gap digits : List Char} {name : String} {c : Condition} {target : Nat}
      (known : (name, c) ∈ jumpWords) (spelled : word.map Char.toLower = name.toList)
      (apart : gap ≠ []) (blank : ∀ x ∈ gap, x = ' ' ∨ x = '\t') (numeral : Numeral digits target)
      (fits : target < UInt64.size) : Denotes (word ++ gap ++ digits) (.jump c target)

theorem mem_actWords {name : String} {a : Act} : (name, a) ∈ actWords ↔ name = a.mnemonic := by
  cases a <;> simp [actWords, Act.mnemonic]

theorem mem_jumpWords {name : String} {c : Condition} :
    (name, c) ∈ jumpWords ↔ name = c.mnemonic := by
  cases c <;> simp [jumpWords, Condition.mnemonic]

/-! ### Words -/

theorem isGap_iff {c : Char} : isGap c = true ↔ c = ' ' ∨ c = '\t' := by
  simp [isGap]

theorem isGap_eq_false_of_isDigit {c : Char} (h : c.isDigit = true) : isGap c = false := by
  rw [← Bool.not_eq_true, isGap_iff]
  rintro (rfl | rfl) <;> cases h

theorem isGap_of_spelled {word : List Char} {name : String}
    (hname : name.toList.all (fun c => !isGap c) = true)
    (h : word.map Char.toLower = name.toList) : ∀ c ∈ word, (!isGap c) = true := by
  intro c hc
  have hlower : (!isGap c.toLower) = true := by
    apply List.all_eq_true.mp hname
    rw [← h]
    exact List.mem_map_of_mem hc
  rw [Bool.not_eq_true', ← Bool.not_eq_true, isGap_iff]
  rintro (rfl | rfl) <;> cases hlower

theorem isGap_mnemonic (i : Instruction) :
    i.mnemonic.toList.all (fun c => !isGap c) = true := by
  cases i with
  | act a => cases a <;> decide
  | jump c target =>
    change c.mnemonic.toList.all (fun x => !isGap x) = true
    cases c <;> decide

theorem find?_spelled {α : Type} {all : List α} {mnemonic : α → String} (hall : ∀ a, a ∈ all)
    (hinj : Function.Injective mnemonic) {word : List Char} {a : α} :
    all.find? (fun a => (mnemonic a).toList = word.map Char.toLower) = some a ↔
      word.map Char.toLower = (mnemonic a).toList := by
  constructor
  · intro h
    have hfound := List.find?_some h
    exact (of_decide_eq_true hfound).symm
  · intro h
    have hsome : (all.find? fun a => (mnemonic a).toList = word.map Char.toLower).isSome = true :=
      List.find?_isSome.mpr ⟨a, hall a, decide_eq_true h.symm⟩
    obtain ⟨b, hb⟩ := Option.isSome_iff_exists.mp hsome
    have hfound := List.find?_some hb
    have hspelled : (mnemonic b).toList = word.map Char.toLower := of_decide_eq_true hfound
    obtain rfl : b = a := hinj (String.toList_injective (hspelled.trans h))
    exact hb

theorem act?_eq_some_iff {word : List Char} {a : Act} :
    act? word = some a ↔ word.map Char.toLower = a.mnemonic.toList := by
  refine find?_spelled Act.mem_all ?_
  rintro (_ | _ | _ | _) (_ | _ | _ | _) <;> decide

theorem condition?_eq_some_iff {word : List Char} {c : Condition} :
    condition? word = some c ↔ word.map Char.toLower = c.mnemonic.toList := by
  refine find?_spelled Condition.mem_all ?_
  rintro (_ | _ | _ | _ | _) (_ | _ | _ | _ | _) <;> decide

/-! ### Instructions -/

theorem instruction?_word {word : List Char} (hword : ∀ c ∈ word, (!isGap c) = true) :
    instruction? word = (act? word).map .act := by
  rw [instruction?, List.takeWhile_eq_self_iff.mpr hword, List.dropWhile_eq_nil_iff.mpr hword]

theorem instruction?_word_gap {word rest : List Char} {first : Char}
    (hword : ∀ c ∈ word, (!isGap c) = true) (hfirst : isGap first = true) :
    instruction? (word ++ first :: rest) = (condition? word).bind fun c =>
      (Text.readDecimal? Text.wordBound (rest.dropWhile isGap)).bind fun n => some (.jump c n) := by
  have hkept : (word ++ first :: rest).takeWhile (fun c => !isGap c) = word := by
    rw [List.takeWhile_append_of_pos hword]
    simp [hfirst]
  have hcut : (word ++ first :: rest).dropWhile (fun c => !isGap c) = first :: rest := by
    rw [List.dropWhile_append_of_pos hword]
    simp [hfirst]
  have hgap : (first :: rest).dropWhile isGap = rest.dropWhile isGap :=
    List.dropWhile_cons_of_pos hfirst
  rw [instruction?, hkept, hcut, ← hgap]
  rfl

theorem exists_word (code : List Char) : (∀ c ∈ code, (!isGap c) = true) ∨
    ∃ word first rest, code = word ++ first :: rest ∧ (∀ c ∈ word, (!isGap c) = true) ∧
      isGap first = true := by
  have hcode : code.takeWhile (fun c => !isGap c) ++ code.dropWhile (fun c => !isGap c) = code :=
    List.takeWhile_append_dropWhile
  have hnot := List.head?_dropWhile_not (fun c => !isGap c) code
  cases hrest : code.dropWhile (fun c => !isGap c) with
  | nil => exact Or.inl (List.dropWhile_eq_nil_iff.mp hrest)
  | cons first rest =>
    rw [hrest] at hcode hnot
    refine Or.inr ⟨_, first, rest, hcode.symm, ?_, by simpa using hnot⟩
    intro c hc
    exact List.mem_takeWhile_imp (p := fun c => !isGap c) hc

theorem denotes_of_instruction? {code : List Char} {i : Instruction}
    (h : instruction? code = some i) : Denotes code i := by
  rcases exists_word code with hword | ⟨word, first, rest, rfl, hword, hfirst⟩
  · rw [instruction?_word hword] at h
    obtain ⟨a, ha, rfl⟩ := Option.map_eq_some_iff.mp h
    exact .act (mem_actWords.mpr rfl) (act?_eq_some_iff.mp ha)
  · rw [instruction?_word_gap hword hfirst] at h
    obtain ⟨c, hc, h⟩ := Option.bind_eq_some_iff.mp h
    obtain ⟨target, htarget, h⟩ := Option.bind_eq_some_iff.mp h
    obtain rfl : .jump c target = i := Option.some_inj.mp h
    obtain ⟨hnumeral, hfits⟩ := Text.readDecimal?_eq_some_iff.mp htarget
    have hsplit : word ++ first :: rest =
        word ++ first :: rest.takeWhile isGap ++ rest.dropWhile isGap := by
      rw [List.append_assoc, List.cons_append, List.takeWhile_append_dropWhile]
    rw [hsplit]
    refine .jump (mem_jumpWords.mpr rfl) (condition?_eq_some_iff.mp hc) (List.cons_ne_nil _ _) ?_
      hnumeral hfits
    intro x hx
    rcases List.mem_cons.mp hx with rfl | hx
    · exact isGap_iff.mp hfirst
    · exact isGap_iff.mp (List.mem_takeWhile_imp hx)

theorem instruction?_of_denotes {code : List Char} {i : Instruction} (h : Denotes code i) :
    instruction? code = some i := by
  cases h with
  | @act word name a known spelled =>
    obtain rfl := mem_actWords.mp known
    rw [instruction?_word (isGap_of_spelled (isGap_mnemonic (.act a)) spelled),
      act?_eq_some_iff.mpr spelled]
    rfl
  | @jump word gap digits name c target known spelled apart blank numeral fits =>
    obtain rfl := mem_jumpWords.mp known
    obtain ⟨first, gap, rfl⟩ := List.exists_cons_of_ne_nil apart
    obtain ⟨hfirst, hgap⟩ := List.forall_mem_cons.mp blank
    have hoperand : (gap ++ digits).dropWhile isGap = digits := by
      obtain ⟨digit, digits, rfl⟩ := List.exists_cons_of_ne_nil numeral.nonempty
      have hdigit := isGap_eq_false_of_isDigit (numeral.digits digit List.mem_cons_self)
      rw [List.dropWhile_append_of_pos fun x hx => isGap_iff.mpr (hgap x hx),
        List.dropWhile_cons_of_neg (by simp [hdigit])]
    have htarget : Text.readDecimal? Text.wordBound digits = some target :=
      Text.readDecimal?_eq_some_iff.mpr ⟨numeral, fits⟩
    rw [List.append_assoc, List.cons_append,
      instruction?_word_gap (isGap_of_spelled (isGap_mnemonic (.jump c target)) spelled)
        (isGap_iff.mpr hfirst),
      condition?_eq_some_iff.mpr spelled, hoperand, htarget]
    rfl

theorem instruction?_eq_some_iff {code : List Char} {i : Instruction} :
    instruction? code = some i ↔ Denotes code i :=
  ⟨denotes_of_instruction?, instruction?_of_denotes⟩

theorem instruction?_eq_none_iff {code : List Char} :
    instruction? code = none ↔ ∀ i, ¬ Denotes code i := by
  simp only [Option.eq_none_iff_forall_ne_some, ne_eq, instruction?_eq_some_iff]

/-! ### Sources -/

def Accepted (c : List Char) : Prop := c = [] ∨ ∃ i, Denotes c i

theorem accepted_iff {c : List Char} : Accepted c ↔ c = [] ∨ (instruction? c).isSome = true := by
  rw [Accepted, Option.isSome_iff_exists]
  simp only [instruction?_eq_some_iff]

instance (c : List Char) : Decidable (Accepted c) := decidable_of_iff _ accepted_iff.symm

def Coded (source : String) (codes : List (List Char)) : Prop :=
  List.Forall₂ CodeOf (source.toList.splitOn '\n') codes

theorem Denotes.ne_nil {c : List Char} {i : Instruction} (h : Denotes c i) : c ≠ [] := by
  rintro rfl
  cases instruction?_of_denotes h

theorem Denotes.unique {c : List Char} {i j : Instruction} (hi : Denotes c i) (hj : Denotes c j) :
    i = j :=
  Option.some_inj.mp ((instruction?_of_denotes hi).symm.trans (instruction?_of_denotes hj))

section

variable {line c : List Char} {ls codes : List (List Char)} {number : Nat}

theorem assembleLines_empty (hcode : CodeOf line []) :
    assembleLines number (line :: ls) = assembleLines (number + 1) ls := by
  rw [assembleLines, codeOf_iff.mp hcode, if_pos rfl]

theorem assembleLines_denoted {i : Instruction} (hcode : CodeOf line c) (hi : Denotes c i) :
    assembleLines number (line :: ls) = (assembleLines (number + 1) ls).map (i :: ·) := by
  rw [assembleLines, codeOf_iff.mp hcode, if_neg hi.ne_nil, instruction?_of_denotes hi]

theorem assembleLines_refused (hcode : CodeOf line c) (hc : ¬ Accepted c) :
    assembleLines number (line :: ls) = .error (.unrecognised number (String.ofList c)) := by
  obtain ⟨hempty, hnone⟩ := not_or.mp hc
  rw [assembleLines, codeOf_iff.mp hcode, if_neg hempty,
    instruction?_eq_none_iff.mpr (not_exists.mp hnone)]

theorem map_cons_eq_ok_iff {result : Except Fault Program} {i : Instruction} {p : Program} :
    result.map (i :: ·) = .ok p ↔ ∃ rest, result = .ok rest ∧ p = i :: rest := by
  cases result <;> simp [Except.map, eq_comm]

theorem map_cons_eq_error_iff {result : Except Fault Program} {i : Instruction} {fault : Fault} :
    result.map (i :: ·) = .error fault ↔ result = .error fault := by
  cases result <;> simp [Except.map]

theorem assembleLines_eq_ok_iff (h : List.Forall₂ CodeOf ls codes) {p : Program} :
    assembleLines number ls = .ok p ↔ List.Forall₂ Denotes (codes.filter (· ≠ [])) p := by
  induction h generalizing number p with
  | nil => simp [assembleLines]
  | @cons line c ls codes hcode _ ih =>
    by_cases hc : Accepted c
    · rcases hc with rfl | ⟨i, hi⟩
      · rw [assembleLines_empty hcode, ih, List.filter_cons_of_neg (by simp)]
      · rw [assembleLines_denoted hcode hi, List.filter_cons_of_pos (by simpa using hi.ne_nil),
          map_cons_eq_ok_iff, List.forall₂_cons_left_iff]
        constructor
        · rintro ⟨rest, hrest, rfl⟩
          exact ⟨i, rest, hi, ih.mp hrest, rfl⟩
        · rintro ⟨j, rest, hj, hrest, rfl⟩
          obtain rfl := hi.unique hj
          exact ⟨rest, ih.mpr hrest, rfl⟩
    · obtain ⟨hempty, hnone⟩ := not_or.mp hc
      rw [assembleLines_refused hcode hc, List.filter_cons_of_pos (by simpa using hempty),
        List.forall₂_cons_left_iff]
      constructor
      · rintro ⟨⟩
      · rintro ⟨i, _, hi, _⟩
        exact absurd ⟨i, hi⟩ hnone

theorem assembleLines_eq_error_iff (h : List.Forall₂ CodeOf ls codes) {fault : Fault} :
    assembleLines number ls = .error fault ↔
      ∃ before bad after, codes = before ++ bad :: after ∧ (∀ c ∈ before, Accepted c) ∧
        ¬ Accepted bad ∧ fault = .unrecognised (number + before.length) (String.ofList bad) := by
  induction h generalizing number with
  | nil => simp [assembleLines]
  | @cons line c ls codes hcode _ ih =>
    by_cases hc : Accepted c
    · have hstep : assembleLines number (line :: ls) = .error fault ↔
          assembleLines (number + 1) ls = .error fault := by
        rcases hc with rfl | ⟨i, hi⟩
        · rw [assembleLines_empty hcode]
        · rw [assembleLines_denoted hcode hi, map_cons_eq_error_iff]
      rw [hstep, ih]
      constructor
      · rintro ⟨before, bad, after, rfl, hbefore, hbad, rfl⟩
        refine ⟨c :: before, bad, after, rfl, List.forall_mem_cons.mpr ⟨hc, hbefore⟩, hbad, ?_⟩
        rw [List.length_cons, Nat.add_assoc, Nat.add_comm 1]
      · rintro ⟨_ | ⟨first, before⟩, bad, after, hcodes, hbefore, hbad, rfl⟩
        · obtain ⟨rfl, -⟩ := List.cons.inj hcodes
          exact absurd hc hbad
        · obtain ⟨-, rfl⟩ := List.cons.inj hcodes
          refine ⟨before, bad, after, rfl, (List.forall_mem_cons.mp hbefore).2, hbad, ?_⟩
          rw [List.length_cons, Nat.add_assoc, Nat.add_comm 1]
    · rw [assembleLines_refused hcode hc]
      constructor
      · rintro ⟨⟩
        exact ⟨[], c, codes, rfl, List.forall_mem_nil _, hc, rfl⟩
      · rintro ⟨_ | ⟨first, before⟩, bad, after, hcodes, hbefore, hbad, rfl⟩
        · obtain ⟨rfl, -⟩ := List.cons.inj hcodes
          rfl
        · obtain ⟨rfl, -⟩ := List.cons.inj hcodes
          exact absurd (List.forall_mem_cons.mp hbefore).1 hc

end

theorem coded_iff {source : String} {codes : List (List Char)} :
    Coded source codes ↔ codes = (source.toList.splitOn '\n').map code := by
  have hcode : CodeOf = fun line c => code line = c := by
    funext line c
    exact propext codeOf_iff
  rw [Coded, hcode, ← List.forall₂_map_left_iff, List.forall₂_eq_eq_eq, eq_comm]

theorem assemble_eq_ok_iff {source : String} {codes : List (List Char)} (h : Coded source codes)
    {p : Program} :
    assemble source = .ok p ↔ List.Forall₂ Denotes (codes.filter (· ≠ [])) p := by
  rw [assemble, assembleLines_lines]
  exact assembleLines_eq_ok_iff h

/-- The assembler accepts exactly the sources whose lines are all empty of code or within the
grammar, and then it gives what they denote, in line order. Else it names the first line that is
neither, counted from 1, and quotes its code. -/
theorem assembler_accepts_its_grammar (source : String) :
    (∃! codes, Coded source codes) ∧
    (∀ p, assemble source = .ok p ↔
      ∃ codes, Coded source codes ∧ List.Forall₂ Denotes (codes.filter (· ≠ [])) p) ∧
    ∀ fault, assemble source = .error fault ↔
      ∃ before bad after, Coded source (before ++ bad :: after) ∧
        (∀ c ∈ before, Accepted c) ∧ ¬ Accepted bad ∧
        fault = .unrecognised (before.length + 1) (String.ofList bad) ∧
        fault.message = "Parse error on line " ++ toString (before.length + 1) ++
          ": unrecognised instruction '" ++ String.ofList bad ++ "'" := by
  have hcoded : Coded source ((source.toList.splitOn '\n').map code) := coded_iff.mpr rfl
  refine ⟨⟨_, hcoded, fun codes h => coded_iff.mp h⟩, fun p => ?_, fun fault => ?_⟩
  · rw [assemble_eq_ok_iff hcoded]
    constructor
    · intro h
      exact ⟨_, hcoded, h⟩
    · rintro ⟨codes, hcodes, h⟩
      obtain rfl := coded_iff.mp hcodes
      exact h
  · rw [assemble, assembleLines_lines, assembleLines_eq_error_iff hcoded]
    constructor
    · rintro ⟨before, bad, after, hcodes, hbefore, hbad, rfl⟩
      rw [hcodes] at hcoded
      rw [Nat.add_comm]
      exact ⟨before, bad, after, hcoded, hbefore, hbad, rfl, rfl⟩
    · rintro ⟨before, bad, after, hcodes, hbefore, hbad, rfl, -⟩
      rw [Nat.add_comm]
      exact ⟨before, bad, after, (coded_iff.mp hcodes).symm, hbefore, hbad, rfl⟩

theorem patrol_is_accepted_and_fly_refused :
    assemble "HOP # ahead\r\n\n\u3000go \t007" = .ok [.act .hop, .jump .always 7] ∧
    assemble "hop\n\n fly # up\nswim" = .error (.unrecognised 3 "fly") := by
  constructor
  · refine ((assembler_accepts_its_grammar _).2.1 _).mpr
      ⟨["HOP".toList, [], "go \t007".toList], coded_iff.mpr (by decide), ?_⟩
    exact .cons (instruction?_eq_some_iff.mp (by decide))
      (.cons (instruction?_eq_some_iff.mp (by decide)) .nil)
  · exact ((assembler_accepts_its_grammar _).2.2 _).mpr ⟨["hop".toList, []], "fly".toList,
      ["swim".toList], coded_iff.mpr (by decide), by decide, by decide, rfl, rfl⟩

end Assembly

end Vivarium
