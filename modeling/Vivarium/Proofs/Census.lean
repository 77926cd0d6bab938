import Mathlib.Data.String.Basic
import Vivarium.World

/-! What a census says: each symbol that is shown at all, once and in order, with the number of
creatures that show it. -/
namespace Vivarium.Census

/-- The census of a list of symbols. -/
structure Counts (counts : Census) (symbols : List String) : Prop where
  sorted : (counts.map Prod.fst).Pairwise (· < ·)
  lookup : ∀ s, counts.lookup s =
    if symbols.count s = 0 then none else some (symbols.count s)

theorem counts_nil : Counts [] [] where
  sorted := List.Pairwise.nil
  lookup _ := rfl

theorem mem_symbols_add {symbol s : String} {counts : Census}
    (h : s ∈ (add symbol counts).map Prod.fst) : s = symbol ∨ s ∈ counts.map Prod.fst := by
  induction counts with
  | nil => exact Or.inl (by simpa [add] using h)
  | cons entry rest ih =>
    rcases entry with ⟨head, n⟩
    unfold add at h
    split at h
    · exact Or.inr h
    · split at h
      · exact List.mem_cons.mp h
      · rcases List.mem_cons.mp h with rfl | hrest
        · exact Or.inr List.mem_cons_self
        · exact (ih hrest).imp_right (List.mem_cons_of_mem _)

theorem sorted_add {counts : Census} (h : (counts.map Prod.fst).Pairwise (· < ·))
    (symbol : String) : ((add symbol counts).map Prod.fst).Pairwise (· < ·) := by
  induction counts with
  | nil => simp [add]
  | cons entry rest ih =>
    rcases entry with ⟨head, n⟩
    obtain ⟨hhead, hrest⟩ := List.pairwise_cons.mp h
    unfold add
    split
    · exact h
    · next hne =>
      split
      · next hlt =>
        refine List.pairwise_cons.mpr ⟨?_, h⟩
        intro s hs
        rcases List.mem_cons.mp hs with rfl | hs
        · exact hlt
        · exact hlt.trans (hhead s hs)
      · next hnlt =>
        refine List.pairwise_cons.mpr ⟨?_, ih hrest⟩
        intro s hs
        rcases mem_symbols_add hs with rfl | hs
        · exact lt_of_le_of_ne (not_lt.mp hnlt) (Ne.symm hne)
        · exact hhead s hs

theorem lookup_cons_eq (head s : String) (n : Nat) (rest : Census) :
    List.lookup s ((head, n) :: rest) = if s = head then some n else rest.lookup s := by
  by_cases hs : s = head
  · subst hs
    simp
  · have hb : (s == head) = false := beq_false_of_ne hs
    simp [List.lookup_cons, hb, hs]

theorem lookup_eq_none_of_lt {counts : Census} {symbol : String}
    (h : ∀ s ∈ counts.map Prod.fst, symbol < s) : counts.lookup symbol = none := by
  rw [List.lookup_eq_none_iff]
  intro entry he
  have hlt := h entry.1 (List.mem_map_of_mem he)
  simpa using hlt.ne

theorem lookup_add {counts : Census} (h : (counts.map Prod.fst).Pairwise (· < ·))
    (symbol s : String) :
    (add symbol counts).lookup s =
      if s = symbol then some ((counts.lookup symbol).getD 0 + 1) else counts.lookup s := by
  induction counts with
  | nil => simp [add, lookup_cons_eq]
  | cons entry rest ih =>
    rcases entry with ⟨head, n⟩
    obtain ⟨hhead, hrest⟩ := List.pairwise_cons.mp h
    unfold add
    split
    · next heq =>
      subst heq
      by_cases hs : s = symbol <;> simp [lookup_cons_eq, hs]
    · next hne =>
      split
      · next hlt =>
        have habsent : List.lookup symbol ((head, n) :: rest) = none := by
          apply lookup_eq_none_of_lt
          intro x hx
          rcases List.mem_cons.mp hx with rfl | hx
          · exact hlt
          · exact hlt.trans (hhead x hx)
        rw [habsent, lookup_cons_eq, Option.getD_none]
      · simp only [lookup_cons_eq, ih hrest, hne, if_false]
        by_cases hs : s = symbol
        · simp [hs, hne]
        · simp [hs]

theorem Counts.add {counts : Census} {symbols : List String} (h : Counts counts symbols)
    (symbol : String) : Counts (add symbol counts) (symbols ++ [symbol]) where
  sorted := sorted_add h.sorted symbol
  lookup s := by
    rw [lookup_add h.sorted, h.lookup, h.lookup, List.count_append, List.count_singleton]
    by_cases hs : s = symbol
    · subst hs
      by_cases hzero : symbols.count s = 0 <;> simp [hzero]
    · simp [hs, Ne.symm hs]

theorem counts_ofSymbols (symbols : List String) : Counts (ofSymbols symbols) symbols := by
  have main : ∀ (todo done : List String) (counts : Census), Counts counts done →
      Counts (todo.foldl (fun counts s => Census.add s counts) counts) (done ++ todo) := by
    intro todo
    induction todo with
    | nil =>
      intro done counts h
      simpa using h
    | cons s todo ih =>
      intro done counts h
      simpa using ih (done ++ [s]) (Census.add s counts) (h.add s)
  exact main symbols [] [] counts_nil

/-! ### Its sum -/

def total : Census → Nat
  | [] => 0
  | (_, n) :: rest => n + total rest

theorem total_add (symbol : String) (counts : Census) :
    total (add symbol counts) = total counts + 1 := by
  induction counts with
  | nil => rfl
  | cons entry rest ih =>
    rcases entry with ⟨head, n⟩
    unfold add
    split
    · simp only [total]
      omega
    · split
      · simp only [total]
        omega
      · simp only [total, ih]
        omega

theorem total_ofSymbols (symbols : List String) : total (ofSymbols symbols) = symbols.length := by
  have main : ∀ (todo : List String) (counts : Census),
      total (todo.foldl (fun counts s => Census.add s counts) counts) =
        total counts + todo.length := by
    intro todo
    induction todo with
    | nil =>
      intro counts
      rfl
    | cons s todo ih =>
      intro counts
      rw [List.foldl_cons, ih, total_add, List.length_cons]
      omega
  have hmain := main symbols []
  rw [show total [] = 0 from rfl, Nat.zero_add] at hmain
  exact hmain

end Vivarium.Census
