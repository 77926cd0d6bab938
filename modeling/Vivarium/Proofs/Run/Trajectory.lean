import Mathlib.Data.Nat.Find
import Vivarium.Proofs.Round.Meadow
import Vivarium.Proofs.Run.Course
import Vivarium.Species.Library

/-! The trajectory of a hopper among food. It walks straight on until the first cell that is taken
or off the board, and stays in front of that for good, while the food turns on the spot. -/
namespace Vivarium

open Heading (left)

namespace World

variable {w u : World} {kind : Kind} {p q r : Position} {d : Heading} {c : Creature} {j k n : Nat}

/-! ### The way ahead -/

/-- So many cells in a row are empty, from one step ahead on, and the one after them is not. -/
structure Clearance (w : World) (p : Position) (d : Heading) (k : Nat) : Prop where
  free : ∀ i < k, ∃ q, p.Away d (i + 1) q ∧ w.Vacant q
  barred : ∀ q, p.Away d (k + 1) q → ¬ w.Vacant q

theorem Clearance.le (hj : w.Clearance p d j) (hk : w.Clearance p d k) : j ≤ k := by
  by_contra hlt
  obtain ⟨q, haway, hvacant⟩ := hj.free k (by omega)
  exact hk.barred q haway hvacant

theorem not_contains_of_away (hn : p.row + p.col + w.rows + w.cols < n) (haway : p.Away d n q) :
    ¬ w.Contains q := by
  intro hin
  obtain ⟨hrow, hcol⟩ := hin
  obtain ⟨prow, pcol⟩ := haway
  cases d <;> simp only [Heading.offset] at prow pcol <;> omega

theorem exists_clearance (w : World) (p : Position) (d : Heading) : ∃ k, w.Clearance p d k := by
  classical
  have hwall : ∃ k, ¬ ∃ q, p.Away d (k + 1) q ∧ w.Vacant q := by
    -- Far enough away there is no board any more.
    refine ⟨p.row + p.col + w.rows + w.cols, ?_⟩
    intro hfree
    obtain ⟨q, haway, hvacant⟩ := hfree
    exact not_contains_of_away (Nat.lt_succ_self _) haway hvacant.1
  refine ⟨Nat.find hwall, ?_, ?_⟩
  · intro i hi
    exact not_not.mp (Nat.find_min hwall hi)
  · intro q haway hvacant
    exact Nat.find_spec hwall ⟨q, haway, hvacant⟩

/-! ### The meadow -/

/-- One hopper and otherwise food, all of it just placed. -/
structure Meadow (w : World) (kind : Kind) (p : Position) (d : Heading) : Prop where
  hopper : w.creatureAt? p = some (.spawn kind d)
  walks : kind.species = Species.hopper
  food : ∀ q c, q ≠ p → w.creatureAt? q = some c →
    ∃ food heading, food.species = Species.food ∧ c = .spawn food heading

end World

def Creature.spunFor (rounds : Nat) (c : Creature) : Creature :=
  { c with heading := left^[rounds] c.heading, counter := min rounds 1 }

theorem Creature.acted_spunFor (n : Nat) (c : Creature) :
    (c.spunFor n).acted .left = c.spunFor (n + 1) := by
  have hcounter : min (n + 1) 1 = 1 := by omega
  simp only [spunFor, acted, Act.steer, Function.iterate_succ_apply', hcounter]

namespace World

variable {w u : World} {kind : Kind} {p q r : Position} {d : Heading} {c : Creature} {j k n : Nat}

/-- What a meadow has become in so many rounds: its hopper is in a cell that was empty, unless it is
where it was, and everything else has turned on the spot. -/
structure Roamed (w : World) (kind : Kind) (p : Position) (d : Heading) (n : Nat) (q : Position)
    (u : World) : Prop where
  shape : w.SameShape u
  track : q = p ∨ w.creatureAt? q = none
  creatures : ∀ r, u.creatureAt? r =
    if r = q then some ⟨kind, d, min n 1⟩
    else if r = p then none else (w.creatureAt? r).map (Creature.spunFor n)

theorem Meadow.roamed_zero (h : w.Meadow kind p d) : w.Roamed kind p d 0 p w := by
  refine ⟨.refl w, Or.inl rfl, ?_⟩
  intro r
  by_cases hr : r = p
  · rw [if_pos hr, hr, h.hopper]
    rfl
  · rw [if_neg hr, if_neg hr]
    cases hthere : w.creatureAt? r with
    | none => rfl
    | some c =>
      obtain ⟨food, heading, _, rfl⟩ := h.food r c hr hthere
      rfl

namespace Roamed

theorem hopper (h : w.Roamed kind p d n q u) : u.creatureAt? q = some ⟨kind, d, min n 1⟩ := by
  rw [h.creatures, if_pos rfl]

theorem food_iff (h : w.Roamed kind p d n q u) : r ≠ q ∧ u.creatureAt? r = some c ↔
    r ≠ p ∧ ∃ placed, w.creatureAt? r = some placed ∧ c = placed.spunFor n := by
  constructor
  · intro hthere
    obtain ⟨hq, hc⟩ := hthere
    rw [h.creatures, if_neg hq] at hc
    by_cases hp : r = p
    · rw [if_pos hp] at hc
      cases hc
    · rw [if_neg hp] at hc
      obtain ⟨placed, hplaced, rfl⟩ := Option.map_eq_some_iff.mp hc
      exact ⟨hp, placed, hplaced, rfl⟩
  · intro hplaced
    obtain ⟨hp, placed, hplaced, rfl⟩ := hplaced
    have hq : r ≠ q := by
      rintro rfl
      rcases h.track with hstart | hfree
      · exact hp hstart
      · rw [hfree] at hplaced
        cases hplaced
    refine ⟨hq, ?_⟩
    rw [h.creatures, if_neg hq, if_neg hp, hplaced, Option.map_some]

theorem vacant_iff (h : w.Roamed kind p d n q u) (hp : r ≠ p) (hq : r ≠ q) :
    u.Vacant r ↔ w.Vacant r := by
  rw [Vacant, Vacant, Contains, Contains, h.shape.rows, h.shape.cols, h.creatures, if_neg hq,
    if_neg hp, Option.map_eq_none_iff]

theorem hopsAlone (h : w.Roamed kind p d n q u) (hmeadow : w.Meadow kind p d) :
    u.HopsAlone q ⟨kind, d, min n 1⟩ := by
  refine ⟨h.hopper, ⟨?_, Nat.min_le_right n 1⟩, ?_⟩
  · rw [Creature.program, hmeadow.walks]
    rfl
  · intro r c hr hc
    obtain ⟨hp, placed, hplaced, rfl⟩ := h.food_iff.mp ⟨hr, hc⟩
    obtain ⟨food, heading, hfood, rfl⟩ := hmeadow.food r placed hp hplaced
    refine ⟨?_, Nat.min_le_right n 1⟩
    rw [Creature.program, Creature.spunFor, Creature.spawn, hfood]
    rfl

theorem next (h : w.Roamed kind p d n q u) {round : Nat} {o : Outcome} {progress : Progress}
    (hround : u.HopsBy q ⟨kind, d, min n 1⟩ round o r progress) :
    w.Roamed kind p d (n + 1) r progress.world := by
  have hcounter : min (n + 1) 1 = 1 := by omega
  refine ⟨h.shape.trans hround.shape, ?_, ?_⟩
  · cases hround.hops with
    | moved away vacant =>
      have hq : r ≠ q := away.ne
      have hfree := vacant.2
      rw [h.creatures, if_neg hq] at hfree
      by_cases hp : r = p
      · exact Or.inl hp
      · rw [if_neg hp, Option.map_eq_none_iff] at hfree
        exact Or.inr hfree
    | blocked => exact h.track
  · intro x
    rw [hround.creatures, hcounter]
    by_cases hx : x = r
    · rw [if_pos hx, if_pos hx]
      rfl
    · rw [if_neg hx, if_neg hx]
      by_cases hq : x = q
      · -- The cell that it leaves was empty on the meadow, unless it set out from there.
        rw [if_pos hq]
        split
        · rfl
        · next hp =>
          rw [hq, h.track.resolve_left (hq ▸ hp)]
          rfl
      · rw [if_neg hq, h.creatures, if_neg hq]
        split
        · rfl
        · rw [Option.map_map]
          exact congrArg (Option.map · _) (funext (Creature.acted_spunFor n))

/-- The hopper covers one cell more as long as there is one, and then no more. -/
theorem hops (h : w.Roamed kind p d n q u) (hk : w.Clearance p d k) (haway : p.Away d (min n k) q)
    {o : Outcome} (hhops : u.Hops q d o r) :
    o = (if n < k then .moved else .blocked) ∧ p.Away d (min (n + 1) k) r := by
  -- Nothing has happened ahead of the hopper since the start that would make a difference to it.
  have hahead : ∀ x, q.Away d 1 x → (u.Vacant x ↔ w.Vacant x) := by
    intro x hx
    exact h.vacant_iff (haway.next_iff.mp hx).ne hx.ne
  cases hhops with
  | moved away vacant =>
    have hnext := haway.next_iff.mp away
    have hfree := (hahead r away).mp vacant
    by_cases hn : n < k
    · rw [if_pos hn, Nat.min_eq_left hn]
      rw [Nat.min_eq_left (Nat.le_of_lt hn)] at hnext
      exact ⟨rfl, hnext⟩
    · rw [Nat.min_eq_right (Nat.le_of_not_lt hn)] at hnext
      exact absurd hfree (hk.barred r hnext)
  | blocked barred =>
    by_cases hn : n < k
    · rw [Nat.min_eq_left (Nat.le_of_lt hn)] at haway
      obtain ⟨x, hx, hfree⟩ := hk.free n hn
      have hstep := haway.next_iff.mpr hx
      exact absurd ((hahead x hstep).mpr hfree) (barred x hstep)
    · rw [Nat.min_eq_right (Nat.le_of_not_lt hn)] at haway
      rw [if_neg hn, Nat.min_eq_right (by omega)]
      exact ⟨rfl, haway⟩

theorem mem_events_iff (h : w.Roamed kind p d n q u) {round : Nat} {o : Outcome}
    {progress : Progress} (hround : u.HopsBy q ⟨kind, d, min n 1⟩ round o r progress) (e : Event) :
    e ∈ progress.events ↔
      e = .turnTaken round kind.species.symbol q r d .hop o (min n 1 + 1) ∨
      ∃ x c, x ≠ p ∧ w.creatureAt? x = some c ∧
        e = .turnTaken round c.symbol x x (left^[n + 1] c.heading) .left .turned (min n 1 + 1) := by
  have htelling : ∀ x (c : Creature), (c.spunFor n).telling round .left .turned x x =
      .turnTaken round c.symbol x x (left^[n + 1] c.heading) .left .turned (min n 1 + 1) := by
    intro x c
    rw [Creature.telling, Creature.acted_spunFor]
    rfl
  rw [hround.events]
  apply or_congr Iff.rfl
  constructor
  · intro htold
    obtain ⟨x, c, hx, hc, rfl⟩ := htold
    obtain ⟨hp, placed, hplaced, rfl⟩ := h.food_iff.mp ⟨hx, hc⟩
    exact ⟨x, placed, hp, hplaced, htelling x placed⟩
  · intro htold
    obtain ⟨x, placed, hp, hplaced, rfl⟩ := htold
    obtain ⟨hx, hc⟩ := h.food_iff.mpr ⟨hp, placed, hplaced, rfl⟩
    exact ⟨x, _, hx, hc, (htelling x placed).symm⟩

end Roamed

end World

namespace Simulation

variable {s : Simulation} {kind : Kind} {p : Position} {d : Heading} {k : Nat}

theorem hopsBy_progress {n : Nat} {q : Position} (h : s.world.Meadow kind p d)
    (hbudget : 2 ≤ s.settings.stepBudget)
    (hroamed : s.world.Roamed kind p d n q (s.after n).world) :
    ∃ o there, (s.after n).world.HopsBy q ⟨kind, d, min n 1⟩ (s.round + n + 1) o there
      (s.after n).progress := by
  rw [progress, s.settings_after, s.round_after]
  exact World.playRound_of_hopsAlone (hroamed.hopsAlone h) hbudget _ _

theorem exists_roamed_after (h : s.world.Meadow kind p d) (hk : s.world.Clearance p d k)
    (hbudget : 2 ≤ s.settings.stepBudget) (n : Nat) :
    ∃ q, p.Away d (min n k) q ∧ s.world.Roamed kind p d n q (s.after n).world := by
  induction n with
  | zero =>
    rw [Nat.zero_min]
    exact ⟨p, p.away_zero d, h.roamed_zero⟩
  | succ n ih =>
    obtain ⟨q, haway, hroamed⟩ := ih
    obtain ⟨o, there, hround⟩ := hopsBy_progress h hbudget hroamed
    refine ⟨there, (hroamed.hops hk haway hround.hops).2, ?_⟩
    rw [after, step_world]
    exact hroamed.next hround

end Simulation

/-- On a meadow with a budget of two, let so many cells in a row be empty in front of the hopper.
All rounds of all runs succeed. The hopper takes these cells one in each round, blocked ever after
by what is behind them, and keeps its heading; the food stays where it is, turned left once in each
round. The events of a round tell of these turns and of nothing else: they take one fetch in the
first round and two in each later one. -/
theorem hopper_walks_to_the_first_obstacle
    (s : Simulation) {kind : Kind} {p : Position} {d : Heading}
    (h : s.world.Meadow kind p d) (hbudget : 2 ≤ s.settings.stepBudget) :
    ∃ k, (∀ j, s.world.Clearance p d j ↔ j = k) ∧ ∀ n,
      (s.run n).fault? = none ∧
      (∃ q, p.Away d (min n k) q ∧
        (s.run n).simulation.world.creatureAt? q = some ⟨kind, d, min n 1⟩ ∧
        (∀ r c, r ≠ p → s.world.creatureAt? r = some c →
          (s.run n).simulation.world.creatureAt? r = some (c.spunFor n)) ∧
        ∀ r, r ≠ q → r = p ∨ s.world.creatureAt? r = none →
          (s.run n).simulation.world.creatureAt? r = none) ∧
      ∀ j < n, ∃ report here there, (s.run n).reports[j]? = some report ∧
        p.Away d (min j k) here ∧ p.Away d (min (j + 1) k) there ∧
        ∀ e, e ∈ report.events ↔
          e = .turnTaken (s.round + j + 1) kind.species.symbol here there d .hop
            (if j < k then .moved else .blocked) (min j 1 + 1) ∨
          ∃ r c, r ≠ p ∧ s.world.creatureAt? r = some c ∧
            e = .turnTaken (s.round + j + 1) c.symbol r r (left^[j + 1] c.heading) .left .turned
              (min j 1 + 1) := by
  obtain ⟨k, hk⟩ := s.world.exists_clearance p d
  have hunique : ∀ j, s.world.Clearance p d j ↔ j = k := by
    intro j
    constructor
    · intro hj
      exact Nat.le_antisymm (hj.le hk) (hk.le hj)
    · rintro rfl
      exact hk
  have hrounds : ∀ n, s.Succeeds n := by
    intro n j _
    obtain ⟨q, _, hroamed⟩ := Simulation.exists_roamed_after h hk hbudget j
    obtain ⟨o, there, hround⟩ := Simulation.hopsBy_progress h hbudget hroamed
    exact Simulation.step_eq_ok_iff.mpr ⟨hround.fault, rfl⟩
  refine ⟨k, hunique, ?_⟩
  intro n
  have hcourse := Simulation.course_of_succeeds (hrounds n)
  refine ⟨hcourse.fault, ?_, ?_⟩
  · obtain ⟨q, haway, hroamed⟩ := Simulation.exists_roamed_after h hk hbudget n
    rw [hcourse.simulation]
    refine ⟨q, haway, hroamed.hopper, ?_, ?_⟩
    · intro r c hr hc
      exact (hroamed.food_iff.mpr ⟨hr, c, hc, rfl⟩).2
    · intro r hr hfree
      rw [hroamed.creatures, if_neg hr]
      split
      · rfl
      · next hp => rw [hfree.resolve_left hp, Option.map_none]
  · intro j hj
    obtain ⟨here, haway, hroamed⟩ := Simulation.exists_roamed_after h hk hbudget j
    obtain ⟨o, there, hround⟩ := Simulation.hopsBy_progress h hbudget hroamed
    obtain ⟨rfl, hnext⟩ := hroamed.hops hk haway hround.hops
    refine ⟨(s.after j).report, here, there, ?_, haway, hnext, hroamed.mem_events_iff hround⟩
    rw [hcourse.reports, Simulation.reports, List.getElem?_map, List.getElem?_range hj]
    rfl

/-- A hopper with food in its way and more food beside it:

    f↑ -
    -  -
    h↑ f←
-/
def paddock : Simulation where
  world :=
    { rows := 3
      cols := 2
      cells :=
        #[some (.spawn ⟨1, Species.food⟩ .north), none, none, none,
          some (.spawn ⟨0, Species.hopper⟩ .north), some (.spawn ⟨1, Species.food⟩ .west)]
      filled := rfl
      nonempty := by decide
      addressable := by decide }
  coin := .scripted #[]
  settings := { stepBudget := 2 }
  round := 0

theorem meadow_paddock : paddock.world.Meadow ⟨0, Species.hopper⟩ ⟨2, 0⟩ .north := by
  refine ⟨rfl, rfl, ?_⟩
  intro q c hq hc
  obtain ⟨slot, hslot, rfl⟩ := World.creatureAt?_eq_some_iff.mp hc
  rcases slot with _ | _ | _ | _ | _ | _ | slot
  · exact ⟨⟨1, Species.food⟩, .north, rfl, (Option.some.inj hslot).symm⟩
  · cases hslot
  · cases hslot
  · cases hslot
  · exact absurd rfl hq
  · exact ⟨⟨1, Species.food⟩, .west, rfl, (Option.some.inj hslot).symm⟩
  · cases hslot

theorem clearance_paddock : paddock.world.Clearance ⟨2, 0⟩ .north 1 := by
  refine ⟨?_, ?_⟩
  · intro i hi
    obtain rfl : i = 0 := by omega
    exact ⟨⟨1, 0⟩, ⟨rfl, rfl⟩, ⟨by decide, by decide⟩, rfl⟩
  · intro q haway hvacant
    have hfood : Position.Away ⟨2, 0⟩ .north 2 ⟨0, 0⟩ := ⟨rfl, rfl⟩
    obtain rfl := haway.unique hfood
    cases hvacant.2

/-- The hopper of the paddock comes to stand below the food, which is scanned before it. -/
theorem paddock_hopper_stops_below_the_food :
    paddock.world.Meadow ⟨0, Species.hopper⟩ ⟨2, 0⟩ .north ∧ 2 ≤ paddock.settings.stepBudget ∧
    ∀ n, (paddock.run (n + 1)).fault? = none ∧
      (paddock.run (n + 1)).simulation.world.creatureAt? ⟨1, 0⟩ =
        some ⟨⟨0, Species.hopper⟩, .north, 1⟩ ∧
      (paddock.run (n + 1)).simulation.world.creatureAt? ⟨0, 0⟩ =
        some ((Creature.spawn ⟨1, Species.food⟩ .north).spunFor (n + 1)) := by
  have hbudget : 2 ≤ paddock.settings.stepBudget := Nat.le_refl 2
  obtain ⟨k, hk, hrun⟩ := hopper_walks_to_the_first_obstacle paddock meadow_paddock hbudget
  obtain rfl : 1 = k := (hk 1).mp clearance_paddock
  refine ⟨meadow_paddock, hbudget, ?_⟩
  intro n
  obtain ⟨hfault, ⟨q, haway, hhopper, hfood, _⟩, _⟩ := hrun (n + 1)
  rw [Nat.min_eq_right (by omega)] at haway hhopper
  have hbelow : Position.Away ⟨2, 0⟩ .north 1 ⟨1, 0⟩ := ⟨rfl, rfl⟩
  obtain rfl := haway.unique hbelow
  exact ⟨hfault, hhopper, hfood ⟨0, 0⟩ _ (by decide) rfl⟩

end Vivarium
