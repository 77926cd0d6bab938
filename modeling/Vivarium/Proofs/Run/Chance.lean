import Vivarium.Proofs.Program.Flow
import Vivarium.Proofs.Run.ErrorContract
import Vivarium.Proofs.Turn.Locality
import Vivarium.Proofs.Turn.Steps

/-! Chance. Nothing but the coin can make two runs from one board differ, and only a test for
heads flips it. So a run makes as many flips as it fetches such tests, and their outcomes settle
the run. -/
namespace Vivarium

/-- How many of some fetched instructions are tests for heads. -/
def tosses (fetched : List Instruction) : Nat := fetched.countP Instruction.flips

@[simp] theorem tosses_nil : tosses [] = 0 := rfl

@[simp] theorem tosses_append (first second : List Instruction) :
    tosses (first ++ second) = tosses first + tosses second := List.countP_append

theorem tosses_cons (i : Instruction) (fetched : List Instruction) :
    tosses (i :: fetched) = tosses [i] + tosses fetched := tosses_append [i] fetched

theorem tosses_eq_zero {fetched : List Instruction} (h : ∀ i ∈ fetched, i.flips = false) :
    tosses fetched = 0 := by
  rw [tosses, List.countP_eq_zero]
  intro i hi
  rw [h i hi]
  exact Bool.false_ne_true

/-! ### Coins that agree for a while -/

namespace Coin

def skip (c : Coin) (n : Nat) : Coin := { c with flips := c.flips + n }

/-- The next `n` flips of both coins show the same. -/
def Agrees (c : Coin) (n : Nat) (other : Coin) : Prop :=
  ∀ i < n, other.outcome (other.flips + i) = c.outcome (c.flips + i)

instance (c : Coin) (n : Nat) (other : Coin) : Decidable (c.Agrees n other) :=
  inferInstanceAs (Decidable (∀ i < n, _ = _))

variable {c other : Coin} {m n : Nat}

@[simp] theorem skip_zero (c : Coin) : c.skip 0 = c := rfl

theorem skip_skip (c : Coin) (m n : Nat) : (c.skip m).skip n = c.skip (m + n) := by
  simp only [skip, Nat.add_assoc]

theorem Agrees.refl (c : Coin) (n : Nat) : c.Agrees n c := fun _ _ => rfl

theorem agrees_zero (c other : Coin) : c.Agrees 0 other := nofun

theorem Agrees.left (h : c.Agrees (m + n) other) : c.Agrees m other :=
  fun i hi => h i (Nat.lt_of_lt_of_le hi (Nat.le_add_right m n))

theorem Agrees.right (h : c.Agrees (m + n) other) : (c.skip m).Agrees n (other.skip m) := by
  intro i hi
  have hlater := h (m + i) (Nat.add_lt_add_left hi m)
  simpa only [skip, Nat.add_assoc] using hlater

end Coin

/-! ### One turn -/

namespace Deliberation

variable {p : Program} {sight : Sight}

/-- The instructions that a run fetches, in order. -/
def fetches (p : Program) (sight : Sight) (budget : Nat) (d : Deliberation) : List Instruction :=
  (path p sight budget d).filterMap (p[·]?)

theorem mem_of_mem_fetches {budget : Nat} {d : Deliberation} {i : Instruction}
    (h : i ∈ fetches p sight budget d) : i ∈ p := by
  obtain ⟨index, _, hi⟩ := List.mem_filterMap.mp h
  exact List.mem_of_getElem? hi

theorem fetches_jump {budget : Nat} {d : Deliberation} {condition : Condition} {target : Nat}
    (h : p[d.counter]? = some (.jump condition target)) :
    fetches p sight (budget + 1) d =
      .jump condition target :: fetches p sight budget (d.branch sight condition target) := by
  simp only [fetches, path, h, List.filterMap_cons]

theorem branch_of_agrees (sight : Sight) {d : Deliberation} {other : Coin} {condition : Condition}
    {target : Nat} (h : d.coin.Agrees (tosses [.jump condition target]) other) :
    (d.branch sight condition target).coin = d.coin.skip (tosses [.jump condition target]) ∧
      { d with coin := other }.branch sight condition target =
        { d.branch sight condition target with
          coin := other.skip (tosses [.jump condition target]) } := by
  cases condition with
  | always | empty | wall | enemy => exact ⟨rfl, rfl⟩
  | heads =>
    have hshown : other.outcome other.flips = d.coin.outcome d.coin.flips := h 0 Nat.one_pos
    refine ⟨rfl, ?_⟩
    simp only [branch, Condition.test, Coin.flip, hshown]
    rfl

/-- Another coin that agrees for the flips of a run leads to the same run and is flipped as often.
-/
theorem run_of_agrees {budget : Nat} {d : Deliberation} {other : Coin}
    (h : d.coin.Agrees (tosses (fetches p sight budget d)) other) :
    run p sight budget { d with coin := other } =
      ((run p sight budget d).1,
        { (run p sight budget d).2 with
          coin := other.skip (tosses (fetches p sight budget d)) }) := by
  induction budget generalizing d other with
  | zero => rfl
  | succ budget ih =>
    cases hi : p[d.counter]? with
    | none => simp only [run, fetches, path, hi, List.filterMap_nil, tosses_nil, Coin.skip_zero]
    | some i =>
      cases i with
      | act a =>
        simp only [run, fetches, path, hi, pass, List.filterMap_cons, List.filterMap_nil]
        rfl
      | jump condition target =>
        rw [fetches_jump hi, tosses_cons] at h ⊢
        obtain ⟨hcoin, hbranch⟩ := branch_of_agrees sight h.left
        have hrest := h.right
        rw [← hcoin] at hrest
        simp only [run, hi]
        rw [hbranch, ih hrest, Coin.skip_skip]

theorem coin_run_eq_skip (p : Program) (sight : Sight) (budget : Nat) (d : Deliberation) :
    (run p sight budget d).2.coin = d.coin.skip (tosses (fetches p sight budget d)) :=
  congrArg (fun decided => decided.2.coin) (run_of_agrees (.refl d.coin _))

end Deliberation

namespace View

def fetches (v : View) (coin : Coin) (budget : Nat) : List Instruction :=
  Deliberation.fetches v.active.program v.sight budget ⟨v.active.counter, coin, 0⟩

theorem turn_of_agrees {v : View} {coin other : Coin} {budget : Nat}
    (h : coin.Agrees (tosses (v.fetches coin budget)) other) :
    v.turn other budget =
      { v.turn coin budget with coin := other.skip (tosses (v.fetches coin budget)) } := by
  have hrun := Deliberation.run_of_agrees (d := ⟨v.active.counter, coin, 0⟩) h
  change Deliberation.run v.active.program v.sight budget ⟨v.active.counter, other, 0⟩ = _ at hrun
  unfold turn
  rw [hrun]
  rcases Deliberation.run v.active.program v.sight budget ⟨v.active.counter, coin, 0⟩ with
    ⟨decision, d⟩
  cases decision with
  | lost | undecided => rfl
  | act a =>
    obtain ⟨o, last, hperform, _⟩ := (v.withCounter d.counter).perform_ok a
    simp only [hperform]
    rfl

theorem coin_turn_eq_skip (v : View) (coin : Coin) (budget : Nat) :
    (v.turn coin budget).coin = coin.skip (tosses (v.fetches coin budget)) :=
  congrArg Turn.coin (turn_of_agrees (.refl coin _))

end View

/-! ### A queue of turns -/

namespace World

def fetches (budget : Nat) : List Nat → World → Coin → List Instruction
  | [], _, _ => []
  | slot :: queue, w, coin =>
    match w.view slot with
    | .error _ => []
    | .ok v =>
      v.fetches coin budget ++
        match (v.turn coin budget).result with
        | .error _ => []
        | .ok _ => fetches budget queue (v.turn coin budget).view.world (v.turn coin budget).coin

variable {round budget : Nat} {queue : List Nat} {w : World} {coin other : Coin} {v : View}

theorem fetches_cons_of_error {fault : Fault} (hf : (v.turn coin budget).result = .error fault) :
    fetches budget (v.slot :: queue) v.world coin = v.fetches coin budget := by
  simp only [fetches, view_eq_ok v.occupied, hf, List.append_nil]

theorem fetches_cons_of_ok {report : TurnReport} (hr : (v.turn coin budget).result = .ok report) :
    fetches budget (v.slot :: queue) v.world coin =
      v.fetches coin budget ++
        fetches budget queue (v.turn coin budget).view.world (v.turn coin budget).coin := by
  simp only [fetches, view_eq_ok v.occupied, hr]

theorem playSlots_of_agrees (hs : w.Scheduled queue)
    (h : coin.Agrees (tosses (fetches budget queue w coin)) other) :
    playSlots round budget queue w other =
      { playSlots round budget queue w coin with
        coin := other.skip (tosses (fetches budget queue w coin)) } := by
  induction queue, w, coin, hs using Scheduled.induction budget generalizing other with
  | nil => rfl
  | error v queue coin fault hs hf =>
    rw [fetches_cons_of_error hf] at h ⊢
    have hturn := View.turn_of_agrees h
    have hother : (v.turn other budget).result = .error fault := by rw [hturn, hf]
    rw [playSlots_cons_of_error hf, playSlots_cons_of_error hother, hturn]
  | ok v queue coin report hs hr ih =>
    rw [fetches_cons_of_ok hr, tosses_append] at h ⊢
    have hturn := View.turn_of_agrees h.left
    have hother : (v.turn other budget).result = .ok report := by rw [hturn, hr]
    have hrest := h.right
    rw [← v.coin_turn_eq_skip] at hrest
    rw [playSlots_cons_of_ok hr, playSlots_cons_of_ok hother, hturn]
    simp only [ih hrest, Coin.skip_skip]

theorem forall_fetches {Q : Instruction → Prop} (hs : w.Scheduled queue)
    (h : w.All fun c => ∀ i ∈ c.program, Q i) : ∀ i ∈ fetches budget queue w coin, Q i := by
  have hinherited := Creature.inherited_program fun p => ∀ i ∈ p, Q i
  induction queue, w, coin, hs using Scheduled.induction budget with
  | nil => nofun
  | error v queue coin fault hs hf =>
    rw [fetches_cons_of_error hf]
    intro i hi
    exact View.all_active h i (Deliberation.mem_of_mem_fetches hi)
  | ok v queue coin report hs hr ih =>
    rw [fetches_cons_of_ok hr]
    intro i hi
    rcases List.mem_append.mp hi with hi | hi
    · exact View.all_active h i (Deliberation.mem_of_mem_fetches hi)
    · exact ih (View.all_turn hinherited h coin budget) i hi

end World

/-! ### A run -/

/-- Runs that nobody can tell apart who does not look at the coin. -/
structure RunEnd.SameCourse (r q : RunEnd) : Prop where
  observed : q.observed = r.observed
  reports : q.reports = r.reports
  fault : q.fault? = r.fault?
  world : q.simulation.world = r.simulation.world

namespace Simulation

def withCoin (s : Simulation) (coin : Coin) : Simulation := { s with coin }

def roundFetches (s : Simulation) : List Instruction :=
  World.fetches s.settings.stepBudget s.world.occupiedSlots s.world s.coin

def fetches : Nat → Simulation → List Instruction
  | 0, _ => []
  | rounds + 1, s =>
    s.roundFetches ++
      match s.step.result with
      | .error _ => []
      | .ok _ => fetches rounds s.step.simulation

variable {s : Simulation} {other : Coin}

theorem step_of_agrees (h : s.coin.Agrees (tosses s.roundFetches) other) :
    (s.withCoin other).step =
      { s.step with
        simulation := s.step.simulation.withCoin (other.skip (tosses s.roundFetches)) } := by
  have hplayed : s.world.playRound (s.round + 1) s.settings.stepBudget other =
      { s.world.playRound (s.round + 1) s.settings.stepBudget s.coin with
        coin := other.skip (tosses s.roundFetches) } :=
    World.playSlots_of_agrees s.world.scheduled_occupiedSlots h
  simp only [step, withCoin, hplayed]
  cases (s.world.playRound (s.round + 1) s.settings.stepBudget s.coin).fault? <;> rfl

theorem coin_step (s : Simulation) :
    s.step.simulation.coin = s.coin.skip (tosses s.roundFetches) :=
  congrArg (fun e => e.simulation.coin) (step_of_agrees (.refl s.coin _))

theorem advance_of_agrees {rounds : Nat} (h : s.coin.Agrees (tosses (s.fetches rounds)) other) :
    (s.advance rounds).SameCourse ((s.withCoin other).advance rounds) ∧
      ((s.withCoin other).advance rounds).simulation.coin =
        other.skip (tosses (s.fetches rounds)) := by
  induction rounds generalizing s other with
  | zero => exact ⟨⟨rfl, rfl, rfl, rfl⟩, rfl⟩
  | succ rounds ih =>
    rw [fetches, tosses_append] at h ⊢
    have hstep := step_of_agrees h.left
    have hrest := h.right
    rw [← s.coin_step] at hrest
    cases hresult : s.step.result with
    | error fault =>
      simp only [advance, hstep, hresult, tosses_nil, Nat.add_zero]
      refine ⟨⟨rfl, ?_, rfl, rfl⟩, rfl⟩
      simp only [RunEnd.reports, List.filterMap_cons, hresult]
    | ok report =>
      simp only [hresult] at hrest ⊢
      obtain ⟨hsame, hcoin⟩ := ih hrest
      simp only [advance, hstep, hresult]
      refine ⟨⟨?_, ?_, hsame.fault, hsame.world⟩, ?_⟩
      · exact congrArg (s.step.simulation.observe :: ·) hsame.observed
      · have hreports := hsame.reports
        unfold RunEnd.reports at hreports ⊢
        simp only [List.filterMap_cons, hresult, hreports]
      · rw [hcoin, Coin.skip_skip]

theorem tosses_fetches_eq_zero (h : s.world.All fun c => c.program.Coinless) (rounds : Nat) :
    tosses (s.fetches rounds) = 0 := by
  have hinherited := Creature.inherited_program Program.Coinless
  induction rounds generalizing s with
  | zero => rfl
  | succ rounds ih =>
    have hround : tosses s.roundFetches = 0 :=
      tosses_eq_zero (World.forall_fetches s.world.scheduled_occupiedSlots h)
    rw [fetches, tosses_append, hround, Nat.zero_add]
    split
    · rfl
    · exact ih (all_after hinherited h 1)

end Simulation

/-- A run makes exactly as many flips as it fetches tests for heads. With another coin that agrees
for so many flips it makes the same number, and its observations, its reports, its fault if there is
one and its last board are the same. Where no program on the board tests for heads, no flip is made
and any other coin will do. -/
theorem coin_is_the_only_chance (s : Simulation) (rounds : Nat) :
    (s.run rounds).simulation.coin = s.coin.skip (tosses (s.fetches rounds)) ∧
    (∀ n other, (s.run rounds).simulation.coin.flips = s.coin.flips + n →
      s.coin.Agrees n other →
      (s.run rounds).SameCourse ((s.withCoin other).run rounds) ∧
        ((s.withCoin other).run rounds).simulation.coin = other.skip n) ∧
    ((s.world.All fun c => c.program.Coinless) → ∀ other,
      (s.run rounds).SameCourse ((s.withCoin other).run rounds) ∧
        ((s.withCoin other).run rounds).simulation.coin = other) := by
  have hlockstep : ∀ other, s.coin.Agrees (tosses (s.fetches rounds)) other →
      (s.run rounds).SameCourse ((s.withCoin other).run rounds) ∧
        ((s.withCoin other).run rounds).simulation.coin =
          other.skip (tosses (s.fetches rounds)) := by
    intro other h
    obtain ⟨hsame, hcoin⟩ := Simulation.advance_of_agrees h
    have hobserved := congrArg (s.observe :: ·) hsame.observed
    exact ⟨⟨hobserved, hsame.reports, hsame.fault, hsame.world⟩, hcoin⟩
  have hflips := (hlockstep s.coin (.refl s.coin _)).2
  refine ⟨hflips, ?_, ?_⟩
  · intro n other hmade hagrees
    have hcount : tosses (s.fetches rounds) = n :=
      Nat.add_left_cancel ((congrArg Coin.flips hflips).symm.trans hmade)
    rw [← hcount] at hagrees ⊢
    exact hlockstep other hagrees
  · intro hcoinless other
    have hnone := Simulation.tosses_fetches_eq_zero hcoinless rounds
    rw [hnone] at hlockstep
    exact hlockstep other (s.coin.agrees_zero other)

/-- A rover that is shut in on all sides tosses for the direction in which it turns. -/
def shutIn : Simulation where
  world :=
    { rows := 1
      cols := 1
      cells := #[some (.spawn ⟨0, Species.rover⟩ .north)]
      filled := rfl
      nonempty := by decide
      addressable := by decide }
  coin := .scripted #[true, false]
  settings := {}
  round := 0

/-- The rover makes three flips in three rounds. A coin that shows the same three times and
something else from then on leads it the same way. The hopper on its board does not care for any
seed. -/
theorem shutIn_follows_its_coin :
    tosses (shutIn.fetches 3) = 3 ∧
    (shutIn.run 3).SameCourse
      ((shutIn.withCoin (.scripted #[true, false, true, true])).run 3) ∧
    ((shutIn.withCoin (.scripted #[true, false, true, true])).run 3).simulation.coin.flips = 3 ∧
    ∃ board world, World.empty 1 2 = .ok board ∧
      board.place ⟨1, Species.hopper⟩ ⟨0, 0⟩ .east = .ok world ∧
      ∀ seed rounds, ((⟨world, .seeded seed, {}, 0⟩ : Simulation).run rounds).SameCourse
        ((⟨world, .scripted #[], {}, 0⟩ : Simulation).run rounds) := by
  obtain ⟨_, hlockstep, _⟩ := coin_is_the_only_chance shutIn 3
  have hagrees : shutIn.coin.Agrees 3 (.scripted #[true, false, true, true]) := by decide
  obtain ⟨hsame, hcoin⟩ := hlockstep 3 _ rfl hagrees
  refine ⟨rfl, hsame, congrArg Coin.flips hcoin, _, _, rfl, rfl, ?_⟩
  intro seed rounds
  obtain ⟨_, _, hany⟩ := coin_is_the_only_chance ⟨_, .seeded seed, {}, 0⟩ rounds
  refine (hany ?_ (.scripted #[])).1
  rintro (_ | _ | slot) c hc
  · cases hc
    decide
  · cases hc
  · cases hc

end Vivarium
