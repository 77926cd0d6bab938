import Vivarium.Proofs.Run.Chance

/-! Turns cut short. A turn takes exactly the budget that it needs: with any less it runs out, and
the rest changes nothing. One that has run out can be resumed where it stopped, and then nobody can
tell that it was cut, except by the account of its fetches. -/
namespace Vivarium

/-- What a turn reports when `spent` more instructions have been fetched in front of it. -/
def chargeResult (spent : Nat) : Except Fault TurnReport → Except Fault TurnReport
  | .ok report => .ok { report with steps := spent + report.steps }
  | .error (.noProgress symbol budget) => .error (.noProgress symbol (spent + budget))
  | .error fault => .error fault

def Turn.charge (spent : Nat) (t : Turn) : Turn := { t with result := chargeResult spent t.result }

namespace View

variable {v : View} {coin : Coin} {budget : Nat} {report : TurnReport}

/-! ### The budget a turn needs -/

theorem turn_eq_of_steps_le (hok : (v.turn coin budget).result = .ok report) {other : Nat}
    (h : report.steps ≤ other) : v.turn coin other = v.turn coin budget := by
  rcases Nat.le_total other budget with hle | hle
  · exact turn_of_steps_le hle hok h
  · exact turn_of_le_of_ok hle hok

theorem exhausted_of_lt_steps (hok : (v.turn coin budget).result = .ok report) {other : Nat}
    (h : other < report.steps) :
    (v.turn coin other).result = .error (.noProgress v.active.symbol other) := by
  rw [steps_of_ok hok] at h
  exact exhausted_of_lt_length_path h

/-! ### Going on with a turn -/

theorem deliberate_add {spent : Deliberation} (h : v.deliberate coin budget = (.undecided, spent))
    (extra : Nat) :
    v.deliberate coin (budget + extra) =
      (((v.withCounter spent.counter).deliberate spent.coin extra).1,
        ((v.withCounter spent.counter).deliberate spent.coin extra).2.charge budget) := by
  have hundecided : (v.deliberate coin budget).1 = .undecided := by rw [h]
  have hfetched : (v.deliberate coin budget).2.fetched = 0 + budget :=
    Deliberation.fetched_of_undecided hundecided
  have hrest : v.deliberate coin (budget + extra) =
      Deliberation.run v.active.program v.sight extra (v.deliberate coin budget).2 :=
    Deliberation.run_add_of_undecided hundecided extra
  have hspent : spent = Deliberation.charge budget ⟨spent.counter, spent.coin, 0⟩ := by
    have haccount : spent.fetched = budget + 0 := by simpa [h] using hfetched
    rw [Deliberation.charge, ← haccount]
  rw [hrest, h, hspent, Deliberation.run_charge]
  simp only [deliberate, active_withCounter, sight_withCounter]
  rfl

theorem turn_of_charge {counter spent extra : Nat} {flips : Coin}
    (h : v.deliberate coin (spent + extra) =
      (((v.withCounter counter).deliberate flips extra).1,
        ((v.withCounter counter).deliberate flips extra).2.charge spent)) :
    v.turn coin (spent + extra) = ((v.withCounter counter).turn flips extra).charge spent := by
  unfold deliberate at h
  simp only [turn, h]
  rcases Deliberation.run (v.withCounter counter).active.program (v.withCounter counter).sight extra
    ⟨(v.withCounter counter).active.counter, flips, 0⟩ with ⟨decision, d⟩
  cases decision with
  | lost | undecided =>
    simp only [withCounter_withCounter]
    rw [active_withCounter]
    rfl
  | act a =>
    obtain ⟨o, last, hperform, _⟩ := (v.withCounter d.counter).perform_ok a
    have hcounter : (d.charge spent).counter = d.counter := rfl
    simp only [withCounter_withCounter, hcounter, hperform]
    rfl

/-- A turn that has run out of its budget and is resumed is the turn with both budgets. -/
theorem turn_add (h : (v.turn coin budget).result = .error (.noProgress v.active.symbol budget))
    (extra : Nat) : v.turn coin (budget + extra) =
      ((v.turn coin budget).view.turn (v.turn coin budget).coin extra).charge budget := by
  have hends := v.turn_ends coin budget
  rw [hends.of_error h, hends.coin]
  apply turn_of_charge
  apply deliberate_add
  rw [← undecided_iff.mpr h]

end View

/-- The budget of a turn is exact, and what is left of it can be spent later. A turn that succeeds
is the same turn under every budget that covers what it fetches, and runs out of every other. A turn
that has run out leaves the board, the view and the coin so that another turn from there, whatever
its budget, comes to what a single turn with both budgets would have come to: only the fetches it
counts, and the budget it names if it runs out again, are its own. -/
theorem budgets_are_exact_and_resumable (v : View) (coin : Coin) (budget : Nat) :
    (∀ report, (v.turn coin budget).result = .ok report →
      (∀ other, report.steps ≤ other → v.turn coin other = v.turn coin budget) ∧
      ∀ other, other < report.steps →
        (v.turn coin other).result = .error (.noProgress v.active.symbol other)) ∧
    ∀ fault, (v.turn coin budget).result = .error fault → fault.IsExhaustion → ∀ extra,
      v.turn coin (budget + extra) =
        ((v.turn coin budget).view.turn (v.turn coin budget).coin extra).charge budget := by
  refine ⟨?_, ?_⟩
  · intro report hok
    exact ⟨fun other => View.turn_eq_of_steps_le hok, fun other => View.exhausted_of_lt_steps hok⟩
  · intro fault hfault hexhausted extra
    exact View.turn_add (View.exhausted_of_isExhaustion hfault hexhausted) extra

/-- The rover that is shut in fetches four instructions for its first turn, and the third flips the
coin. Cut short right after that, it turns the way the coin has shown when it is resumed. -/
theorem shutIn_rover_is_resumed :
    ∃ v, shutIn.world.view 0 = .ok v ∧
      (v.turn shutIn.coin 1000).result = .ok ⟨.right, .turned, 4⟩ ∧
      v.turn shutIn.coin 4 = v.turn shutIn.coin 1000 ∧
      (v.turn shutIn.coin 3).result = .error (.noProgress "r" 3) ∧
      (v.turn shutIn.coin 3).coin.flips = 1 ∧
      v.turn shutIn.coin 4 =
        ((v.turn shutIn.coin 3).view.turn (v.turn shutIn.coin 3).coin 1).charge 3 := by
  have hok : ((⟨shutIn.world, 0, rfl⟩ : View).turn shutIn.coin 1000).result =
      .ok ⟨.right, .turned, 4⟩ := rfl
  obtain ⟨hexact, _⟩ := budgets_are_exact_and_resumable ⟨shutIn.world, 0, rfl⟩ shutIn.coin 1000
  obtain ⟨_, hresumable⟩ := budgets_are_exact_and_resumable ⟨shutIn.world, 0, rfl⟩ shutIn.coin 3
  obtain ⟨hcovered, hcut⟩ := hexact _ hok
  have hthree := hcut 3 (by decide)
  exact ⟨_, rfl, hok, hcovered 4 (by decide), hthree, rfl, hresumable _ hthree ⟨_, _, rfl⟩ 1⟩

end Vivarium
