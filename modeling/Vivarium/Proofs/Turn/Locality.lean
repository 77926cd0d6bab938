import Vivarium.Proofs.Program.Counter
import Vivarium.Proofs.Turn.Effect

/-! A turn is local. It reads and writes the cell of its creature and the cell ahead, and no other:
what an act comes to is settled by what the creature sees, and two boards that agree on these two
cells still agree on them afterwards. -/
namespace Vivarium

def Act.outcome (sight : Sight) : Act → Outcome
  | .hop => if sight = .empty then .moved else .blocked
  | .left | .right => .turned
  | .infect => if sight = .enemy then .infected else .noTarget

def Turn.Moved (t : Turn) : Prop := ∃ report, t.result = .ok report ∧ report.outcome = .moved

/-! ### Coins -/

def Instruction.flips : Instruction → Bool
  | .jump .heads _ => true
  | _ => false

def Program.Coinless (p : Program) : Prop := ∀ i ∈ p, i.flips = false

instance (p : Program) : Decidable p.Coinless :=
  inferInstanceAs (Decidable (∀ i ∈ p, i.flips = false))

namespace Deliberation

theorem coin_branch (d : Deliberation) (sight : Sight) {condition : Condition} (target : Nat)
    (h : condition ≠ .heads) : (d.branch sight condition target).coin = d.coin := by
  cases condition with
  | heads => exact absurd rfl h
  | always | empty | wall | enemy => rfl

theorem coin_run {p : Program} (h : p.Coinless) (sight : Sight) (budget : Nat) (d : Deliberation) :
    (run p sight budget d).2.coin = d.coin := by
  induction budget generalizing d with
  | zero => rfl
  | succ budget ih =>
    unfold run
    split
    · rfl
    · rfl
    · next condition target hjump =>
      rw [ih]
      apply coin_branch
      rintro rfl
      cases h _ (List.mem_of_getElem? hjump)

end Deliberation

namespace View

variable {v u : View}

theorem coin_turn (h : v.active.program.Coinless) (coin : Coin) (budget : Nat) :
    (v.turn coin budget).coin = coin := by
  rw [(v.turn_ends coin budget).coin]
  exact Deliberation.coin_run h _ _ _

/-! ### What a creature sees -/

theorem facesEmpty_iff (v : View) : v.facesEmpty = true ↔ v.sight = .empty := by
  unfold facesEmpty sight
  cases v.ahead? with
  | none => simp
  | some target =>
    cases hthere : v.world.occupant? target with
    | none => simp [hthere]
    | some other => cases hkind : v.active.sameKind other <;> simp [hthere, hkind]

theorem enemyAhead?_isSome_iff (v : View) : v.enemyAhead?.isSome = true ↔ v.sight = .enemy := by
  unfold enemyAhead? sight
  cases v.ahead? with
  | none => simp
  | some target =>
    cases hthere : v.world.occupant? target with
    | none => simp [hthere]
    | some other => cases hkind : v.active.sameKind other <;> simp [hthere, hkind]

@[simp] theorem sight_withCounter (v : View) (counter : Nat) :
    (v.withCounter counter).sight = v.sight := by
  unfold sight
  rw [ahead?_withCounter, active_withCounter]
  cases v.ahead? with
  | none => rfl
  | some target =>
    -- That a creature is not ahead of itself does not matter: it would see a friend either way.
    by_cases hself : target = v.slot
    · subst hself
      simp only [occupant?_withCounter, if_pos, v.occupant?_slot]
      rfl
    · simp only [occupant?_withCounter, if_neg hself]
      rfl

namespace Performs

variable {a : Act} {o : Outcome} {last : View}

theorem outcome_eq (h : v.Performs a o last) : o = a.outcome v.sight := by
  cases h with
  | moved ahead free =>
    have hempty : v.sight = .empty := v.facesEmpty_iff.mp (by simp [facesEmpty, ahead, free])
    rw [Act.outcome, if_pos hempty]
  | blocked taken =>
    have hnot : v.sight ≠ .empty := by
      rw [Ne, ← v.facesEmpty_iff, taken]
      exact Bool.false_ne_true
    rw [Act.outcome, if_neg hnot]
  | turned turn => rcases turn with ⟨rfl, _⟩ | ⟨rfl, _⟩ <;> rfl
  | infected ahead there enemy =>
    have henemy : v.sight = .enemy := by
      simp [sight, ahead, there, Creature.sameKind, Ne.symm enemy]
    rw [Act.outcome, if_pos henemy]
  | noTarget nobody =>
    have hnot : v.sight ≠ .enemy := by
      rw [Ne, ← v.enemyAhead?_isSome_iff, nobody]
      exact Bool.false_ne_true
    rw [Act.outcome, if_neg hnot]

theorem slot_eq (h : v.Performs a o last) :
    some last.slot = if o = .moved then v.ahead? else some v.slot := by
  cases h with
  | moved ahead _ _ slot => rw [slot, if_pos rfl, ahead]
  | infected _ _ _ _ slot => rw [slot, if_neg (by decide)]
  | blocked | turned | noTarget => rfl

end Performs

namespace Ends

variable {budget : Nat} {decided : Decision × Deliberation} {t : Turn}

theorem ahead?_of_moved (h : v.Ends budget decided t) (hmoved : t.Moved) :
    v.ahead? = some t.view.slot := by
  obtain ⟨report, hok, hout⟩ := hmoved
  cases h with
  | lost => cases hok
  | undecided => cases hok
  | acted hp =>
    cases hok
    have hslot := hp.slot_eq
    rw [if_pos hout, ahead?_withCounter] at hslot
    exact hslot.symm

theorem slot_of_not_moved (h : v.Ends budget decided t) (hmoved : ¬ t.Moved) :
    t.view.slot = v.slot := by
  cases h with
  | lost => rfl
  | undecided => rfl
  | acted hp =>
    have hslot := hp.slot_eq
    rw [if_neg fun hout => hmoved ⟨_, rfl, hout⟩] at hslot
    exact Option.some.inj hslot

end Ends

/-! ### The outlook of a creature -/

/-- The creatures that have the turn are equal and see the same, on whatever boards. -/
structure SameOutlook (v u : View) : Prop where
  active : u.active = v.active
  sight : u.sight = v.sight

namespace SameOutlook

theorem deliberate (h : v.SameOutlook u) (coin : Coin) (budget : Nat) :
    u.deliberate coin budget = v.deliberate coin budget := by
  unfold View.deliberate
  rw [h.active, h.sight]

theorem ends (h : v.SameOutlook u) {budget : Nat} {decided : Decision × Deliberation} {t s : Turn}
    (ht : v.Ends budget decided t) (hs : u.Ends budget decided s) :
    s.result = t.result ∧ s.view.active = t.view.active := by
  cases ht with
  | lost =>
    cases hs with
    | lost => exact ⟨by rw [h.active], by simp [h.active]⟩
  | undecided =>
    cases hs with
    | undecided => exact ⟨by rw [h.active], by simp [h.active]⟩
  | acted hp =>
    cases hs with
    | acted kp =>
      have ho := hp.outcome_eq
      have ko := kp.outcome_eq
      rw [sight_withCounter] at ho ko
      rw [h.sight, ← ho] at ko
      subst ko
      refine ⟨rfl, ?_⟩
      rw [kp.active, hp.active, active_withCounter, active_withCounter, h.active]

end SameOutlook

/-! ### The footprint of a turn -/

/-- The cell of the creature, and the cell ahead if it is on the board. -/
def footprint (v : View) : List Nat := v.slot :: v.ahead?.toList

@[simp] theorem mem_footprint {slot : Nat} :
    slot ∈ v.footprint ↔ slot = v.slot ∨ v.ahead? = some slot := by
  simp [footprint, eq_comm]

theorem Ends.slot_mem_footprint {budget : Nat} {decided : Decision × Deliberation} {t : Turn}
    (h : v.Ends budget decided t) : t.view.slot ∈ v.footprint := by
  rw [mem_footprint]
  by_cases hmoved : t.Moved
  · exact Or.inr (h.ahead?_of_moved hmoved)
  · exact Or.inl (h.slot_of_not_moved hmoved)

theorem occupant?_turn_of_notMem (v : View) (coin : Coin) (budget : Nat) {slot : Nat}
    (h : slot ∉ v.footprint) :
    (v.turn coin budget).view.world.occupant? slot = v.world.occupant? slot := by
  have hends := v.turn_ends coin budget
  have hlast : slot ≠ (v.turn coin budget).view.slot := by
    rintro rfl
    exact h hends.slot_mem_footprint
  rw [mem_footprint, not_or] at h
  have hspared : v.infects? (v.turn coin budget) slot = none := by
    refine Option.eq_none_iff_forall_ne_some.mpr ?_
    intro kind hkind
    exact h.2 (infects?_eq_some_iff.mp hkind).2.1
  rw [hends.board, if_neg hlast, if_neg h.1, hspared]
  simp [Creature.infectedBy]

/-- The same turn to have, for all that its creature can tell. -/
structure Alike (v u : View) : Prop where
  shape : v.world.SameShape u.world
  slot : u.slot = v.slot
  occupants : ∀ slot ∈ v.footprint, u.world.occupant? slot = v.world.occupant? slot

namespace Alike

theorem active (h : v.Alike u) : u.active = v.active := by
  apply active_eq_of_occupant?
  rw [h.slot, h.occupants v.slot (mem_footprint.mpr (Or.inl rfl)), v.occupant?_slot]

theorem ahead? (h : v.Alike u) : u.ahead? = v.ahead? := by
  unfold View.ahead?
  rw [h.active, h.slot, h.shape.neighbor?_eq]

theorem sight (h : v.Alike u) : u.sight = v.sight := by
  unfold View.sight
  rw [h.ahead?, h.active]
  cases hahead : v.ahead? with
  | none => rfl
  | some target =>
    simp only [h.occupants target (mem_footprint.mpr (Or.inr hahead))]

theorem footprint (h : v.Alike u) : u.footprint = v.footprint := by
  unfold View.footprint
  rw [h.slot, h.ahead?]

theorem outlook (h : v.Alike u) : v.SameOutlook u := ⟨h.active, h.sight⟩

theorem slot_of_ends (h : v.Alike u) {budget : Nat} {decided : Decision × Deliberation} {t s : Turn}
    (ht : v.Ends budget decided t) (hs : u.Ends budget decided s) (hresult : s.result = t.result) :
    s.view.slot = t.view.slot := by
  have hiff : s.Moved ↔ t.Moved := by rw [Turn.Moved, Turn.Moved, hresult]
  by_cases hmoved : t.Moved
  · have hahead := hs.ahead?_of_moved (hiff.mpr hmoved)
    rw [h.ahead?, ht.ahead?_of_moved hmoved] at hahead
    exact (Option.some.inj hahead).symm
  · rw [hs.slot_of_not_moved (fun hs => hmoved (hiff.mp hs)), ht.slot_of_not_moved hmoved, h.slot]

/-- A turn reads nothing outside its footprint. -/
theorem turn (h : v.Alike u) (coin : Coin) (budget : Nat) :
    (u.turn coin budget).result = (v.turn coin budget).result ∧
    ∀ slot ∈ v.footprint, (u.turn coin budget).view.world.occupant? slot =
      (v.turn coin budget).view.world.occupant? slot := by
  have hv := v.turn_ends coin budget
  have hu := u.turn_ends coin budget
  rw [h.outlook.deliberate] at hu
  obtain ⟨hresult, hactive⟩ := h.outlook.ends hv hu
  have hslot : (u.turn coin budget).view.slot = (v.turn coin budget).view.slot :=
    h.slot_of_ends hv hu hresult
  refine ⟨hresult, ?_⟩
  intro slot hmem
  have hinfects : u.infects? (u.turn coin budget) slot = v.infects? (v.turn coin budget) slot := by
    simp only [infects?, spreads?, hresult, h.ahead?, h.active]
  rw [hu.board, hv.board, hslot, hactive, h.slot, h.occupants slot hmem, hinfects]

end Alike

end View

end Vivarium
