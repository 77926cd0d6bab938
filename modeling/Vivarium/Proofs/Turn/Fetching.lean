import Vivarium.Proofs.Turn.Resuming
import Vivarium.Proofs.View.Queries

/-! A turn, one instruction at a time. A creature that takes its turn in this way fetches on the
board as it stands, sets its counter at once, and asks every question of the board that it then
sees. In the end nobody can tell its turn from one that looks ahead once and sets the counter when
it is over. -/
namespace Vivarium.View

variable {v : View} {coin : Coin}

/-- Whether a condition holds of the board as it stands, and the coin afterwards. -/
def answer (v : View) (coin : Coin) : Condition → Bool × Coin
  | .always => (true, coin)
  | .empty => (v.facesEmpty, coin)
  | .wall => (v.facesWall, coin)
  | .enemy => (v.enemyAhead?.isSome, coin)
  | .heads => coin.flip

/-- The counter is past the instruction before the instruction is carried out. -/
def advanced (v : View) : View := v.withCounter (v.active.counter + 1)

def jump (v : View) (taken : Bool) (target : Nat) : View :=
  if taken then v.withCounter target else v

def act (v : View) (coin : Coin) (a : Act) (fetched : Nat) : Turn :=
  match v.perform a with
  | .error fault => ⟨v, coin, .error fault⟩
  | .ok (outcome, last) => ⟨last, coin, .ok ⟨a, outcome, fetched⟩⟩

/-- Fetches until an act ends the turn or no instruction is left in the budget. -/
def fetchFrom (v : View) (coin : Coin) (fetched : Nat) : (left : Nat) → Turn
  | 0 => ⟨v, coin, .error (.noProgress v.active.symbol fetched)⟩
  | left + 1 =>
    match v.active.fetch with
    | .error fault => ⟨v, coin, .error fault⟩
    | .ok (.act a) => v.advanced.act coin a (fetched + 1)
    | .ok (.jump condition target) =>
      let (taken, coin) := v.advanced.answer coin condition
      (v.advanced.jump taken target).fetchFrom coin (fetched + 1) left

/-! ### One fetch -/

theorem withCounter_self (v : View) : v.withCounter v.active.counter = v := by
  refine eq_of_world (World.SameShape.eq_of_occupants (v.sameShape_withCounter _) ?_) rfl
  intro slot
  rw [occupant?_withCounter]
  split
  · next h => rw [h, v.occupant?_slot]
  · rfl

theorem answer_eq_test (v : View) (coin : Coin) (condition : Condition) :
    v.answer coin condition = condition.test v.sight coin := by
  have hempty : v.facesEmpty = decide (v.sight = .empty) := by
    rw [Bool.eq_iff_iff, decide_eq_true_iff, facesEmpty_iff]
  have hwall : v.facesWall = decide (v.sight = .wall) := by
    rw [Bool.eq_iff_iff, decide_eq_true_iff, facesWall_iff]
  have henemy : v.enemyAhead?.isSome = decide (v.sight = .enemy) := by
    rw [Bool.eq_iff_iff, decide_eq_true_iff, enemyAhead?_isSome_iff]
  cases condition with
  | always | heads => rfl
  | empty | wall | enemy => simp only [answer, Condition.test, hempty, hwall, henemy]

theorem fetch_eq_ok_iff {i : Instruction} :
    v.active.fetch = .ok i ↔ v.active.program[v.active.counter]? = some i := by
  unfold Creature.fetch Species.fetch Creature.program
  cases v.active.kind.species.program[v.active.counter]? <;> simp

theorem fetch_eq_error {fault : Fault} (h : v.active.fetch = .error fault) :
    v.active.program[v.active.counter]? = none ∧
      fault = .counterOutOfRange v.active.symbol v.active.counter v.active.program.length := by
  unfold Creature.fetch Species.fetch at h
  split at h
  · cases h
  · next hnone =>
    cases h
    exact ⟨hnone, rfl⟩

theorem turn_zero (v : View) (coin : Coin) :
    v.turn coin 0 = ⟨v, coin, .error (.noProgress v.active.symbol 0)⟩ := by
  simp only [turn, Deliberation.run, withCounter_self]

theorem turn_succ_of_error {fault : Fault} (h : v.active.fetch = .error fault) (left : Nat) :
    v.turn coin (left + 1) = ⟨v, coin, .error fault⟩ := by
  obtain ⟨hnone, rfl⟩ := fetch_eq_error h
  simp only [turn, Deliberation.run, hnone, withCounter_self]

theorem turn_succ_of_act {a : Act} (h : v.active.fetch = .ok (.act a)) (left : Nat) :
    v.turn coin (left + 1) = v.advanced.act coin a 1 := by
  have hact := fetch_eq_ok_iff.mp h
  simp only [turn, Deliberation.run, hact, act]
  rfl

theorem turn_succ_of_jump {condition : Condition} {target : Nat}
    (h : v.active.fetch = .ok (.jump condition target)) (left : Nat) :
    v.turn coin (left + 1) =
      ((v.advanced.jump (v.advanced.answer coin condition).1 target).turn
        (v.advanced.answer coin condition).2 left).charge 1 := by
  have hjump := fetch_eq_ok_iff.mp h
  have hone : v.turn coin 1 =
      ⟨v.advanced.jump (v.advanced.answer coin condition).1 target,
        (v.advanced.answer coin condition).2, .error (.noProgress v.active.symbol 1)⟩ := by
    simp only [turn, Deliberation.run, hjump, Deliberation.branch, answer_eq_test, advanced,
      sight_withCounter]
    cases htaken : (condition.test v.sight coin).1 <;> simp [jump]
  rw [Nat.add_comm, turn_add (by rw [hone]), hone]

/-! ### All fetches -/

theorem act_charge (v : View) (coin : Coin) (a : Act) (spent fetched : Nat) :
    (v.act coin a fetched).charge spent = v.act coin a (spent + fetched) := by
  obtain ⟨outcome, last, hperform, _⟩ := v.perform_ok a
  simp only [act, hperform]
  rfl

theorem charge_charge (t : Turn) (first second : Nat) :
    (t.charge first).charge second = t.charge (second + first) := by
  simp only [Turn.charge]
  rcases t.result with fault | report
  · cases fault <;> simp [chargeResult, Nat.add_assoc]
  · simp [chargeResult, Nat.add_assoc]

theorem fetchFrom_eq_charge (v : View) (coin : Coin) (fetched left : Nat) :
    v.fetchFrom coin fetched left = (v.turn coin left).charge fetched := by
  induction left generalizing v coin fetched with
  | zero =>
    rw [turn_zero]
    rfl
  | succ left ih =>
    unfold fetchFrom
    split
    · next fault hfault =>
      rw [turn_succ_of_error hfault, (fetch_eq_error hfault).2]
      rfl
    · next a hact => rw [turn_succ_of_act hact, act_charge]
    · next condition target hjump =>
      simp only
      rw [turn_succ_of_jump hjump, ih, charge_charge]

/-- A turn is its fetches, each made on the board as it stands. -/
theorem turn_eq_fetchFrom (v : View) (coin : Coin) (budget : Nat) :
    v.turn coin budget = v.fetchFrom coin 0 budget := by
  rw [fetchFrom_eq_charge]
  rcases v.turn coin budget with ⟨last, flips, fault | report⟩
  · cases fault <;> simp [Turn.charge, chargeResult]
  · simp [Turn.charge, chargeResult]

end Vivarium.View
